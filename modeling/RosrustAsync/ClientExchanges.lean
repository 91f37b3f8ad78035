import Mathlib.Logic.Function.Basic
import RosrustAsync.ClientLink
import RosrustAsync.Lib.Runs

namespace RosrustAsync

/-! A client link and a server that does what it likes. -/

namespace ClientLink

/-- The call whose exchange is under way, and its connection. -/
def exchange (self : ClientLink) : Option (ℕ × ℕ) :=
  match self.pc with
  | .request msg connection | .status msg connection | .success msg connection
  | .failure msg connection => some (msg.replyTx, connection.tcpStream)
  | _ => none

/-- The request that a step writes, or a part of it. -/
def requested (self : ClientLink) : Label → Option (ℕ × ℕ)
  | .write | .writeError _ _ =>
    match self.pc with
    | .request msg connection => some (msg.replyTx, connection.tcpStream)
    | _ => none
  | _ => none

def position (self : ClientLink) (i : ℕ) : ℕ :=
  match self.streams[i]? with
  | some stream => stream.read
  | none => 0

end ClientLink

/-- The errors that leave a connection in the middle of an exchange. -/
def breaks : Except ClientLinkError Bytes → Bool
  | .error (.io _) | .error (.invalidStatusCode _) => true
  | _ => false

structure ClientExchanges where
  link : ClientLink
  -- the calls whose requests have been written to a connection
  requests : ℕ → List ℕ
  -- what the server has sent, each byte with the call that it is in answer to
  sent : ℕ → List (UInt8 × Option ℕ)
  -- what has been read in the exchange under way, and in those of the replies
  got : List (UInt8 × Option ℕ)
  origins : List (List (UInt8 × Option ℕ))
  -- the connections on which an exchange has ended with an error that breaks it
  broken : ℕ → Bool

namespace ClientExchanges

inductive Label : Type
  | client (label : ClientLink.Label)
  | serverWrite (i : ℕ) (call : Option ℕ) (bytes : Bytes)
  | serverClose (i : ℕ)

def start (link : ClientLink) : ClientExchanges :=
  ⟨link, fun _ => [], fun _ => [], [], [], fun _ => false⟩

/-- What a step of the client has read for the exchange under way. -/
def consumed (self : ClientExchanges) (link : ClientLink) : List (UInt8 × Option ℕ) :=
  match self.link.exchange with
  | some (_, i) =>
    ((self.sent i).drop (self.link.position i)).take (link.position i - self.link.position i)
  | none => []

def brokenBy (self : ClientExchanges) (result : Except ClientLinkError Bytes) : ℕ → Bool :=
  match self.link.exchange with
  | some (_, i) => if breaks result then Function.update self.broken i true else self.broken
  | none => self.broken

def requestsAfter (self : ClientExchanges) (label : ClientLink.Label) : ℕ → List ℕ :=
  match self.link.requested label with
  | some (call, i) => Function.update self.requests i (self.requests i ++ [call])
  | none => self.requests

def record (self : ClientExchanges) (label : ClientLink.Label) (link : ClientLink) :
    ClientExchanges :=
  match link.replies.drop self.link.replies.length with
  | (_, result) :: _ => { self with
      link
      requests := self.requestsAfter label
      got := []
      origins := self.origins ++ [self.got ++ self.consumed link]
      broken := self.brokenBy result }
  | [] => { self with
      link
      requests := self.requestsAfter label
      got := self.got ++ self.consumed link }

section Steps

variable (decodeString : Bytes → Except IoError String)

def step (self : ClientExchanges) : Label → Option ClientExchanges
  | .client label => do
    let link ← self.link.step decodeString label
    some (self.record label link)
  | .serverWrite i call bytes => do
    let stream ← self.link.streams[i]?
    if stream.serverOpen ∧ ∀ n ∈ call, n ∈ self.requests i then
      some { self with
        link := self.link.modifyStream i fun stream =>
          { stream with fromServer := stream.fromServer ++ bytes }
        sent := Function.update self.sent i (self.sent i ++ bytes.map fun b => (b, call)) }
    else none
  | .serverClose i => some { self with
      link := self.link.modifyStream i fun stream => { stream with serverOpen := false } }

/-- A call is not made on a broken connection; when its request is written, nothing is left to be
read from the connection, and from then on the server answers this request. -/
def Clean (self : ClientExchanges) : Label → Prop
  | .client .recv => ∀ connection, self.link.connectionState = some connection →
      self.broken connection.tcpStream = false
  | .client .write => ∀ msg connection, self.link.pc = .request msg connection →
      ∀ stream, self.link.streams[connection.tcpStream]? = some stream → stream.unread = []
  | .serverWrite i call _ => (self.requests i).getLast? = call
  | _ => True

end Steps

end ClientExchanges

end RosrustAsync
