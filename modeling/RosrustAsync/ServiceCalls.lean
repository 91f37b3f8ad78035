import Mathlib.Logic.Function.Basic
import RosrustAsync.ClientLink
import RosrustAsync.Lib.Runs

namespace RosrustAsync

/-! A client link and a service provider, over streams that lose nothing. -/

/-- Where `handle_request`, or the `rpc_task` it has spawned, is with a connection. -/
inductive ServerPc : Type
  | backlog
  | header
  | probe
  | greet (client : ServiceClientHeader)
  | read (persistent : Bool)
  | callback (persistent : Bool) (data : Bytes)
  | status (persistent : Bool) (result : Except String Bytes)
  | body (persistent : Bool) (result : Except String Bytes)
  | closed

def ServerPc.isClosed : ServerPc → Bool
  | .closed => true
  | _ => false

structure Listener where
  service : Service
  probeHeaderBytes : Bytes
  serverHeaderBytes : Bytes

namespace Listener

def new (service : Service) (callerId : String) : Except HeaderError Listener := do
  let probeHeaderBytes ← toBytes
    (⟨callerId, service.spec.md5sum, service.spec.msgType⟩ : ProbeResponseHeader)
  let serverHeaderBytes ← toBytes (⟨callerId⟩ : ServiceServerHeader)
  .ok ⟨service, probeHeaderBytes, serverHeaderBytes⟩

/-- What `handle_request` goes on to once it has read a header; an error closes the connection. -/
def handleHeader (self : Listener) (headerData : Bytes) : ServerPc :=
  match fromBytes ServiceClientHeader headerData with
  | .ok client =>
    match validateClientCompatibility self.service client with
    | .ok _ => .greet client
    | .error _ => .closed
  | .error _ =>
    match fromBytes ProbeRequestHeader headerData with
    | .ok _ => .probe
    | .error _ => .closed

end Listener

structure ServiceCalls where
  link : ClientLink
  provider : Listener
  -- the connection that the listener is handling, and how many it has accepted
  handling : Option ℕ
  accepted : ℕ
  servers : ℕ → ServerPc
  -- the requests in the order they entered the queue, and those the callback was called with
  entered : List Bytes
  invoked : List Bytes

namespace ServiceCalls

inductive Label : Type
  | client (label : ClientLink.Label)
  | accept
  | headerRead
  | headerWrite
  | taskRead (i : ℕ)
  | taskCallback (i : ℕ)
  | taskStatus (i : ℕ)
  | taskBody (i : ℕ)

def setServer (self : ServiceCalls) (i : ℕ) (pc : ServerPc) : ServiceCalls :=
  { self with servers := Function.update self.servers i pc }

/-- What the server writes to a connection before it goes on. -/
def serverWrite (self : ServiceCalls) (i : ℕ) (bytes : Bytes) (pc : ServerPc) : ServiceCalls :=
  { self.setServer i pc with
    link := self.link.modifyStream i fun stream => { stream with
      fromServer := stream.fromServer ++ bytes
      serverOpen := stream.serverOpen && !pc.isClosed } }

/-- What the server reads from a connection before it goes on; it waits for a frame or the end of
the stream, which ends its task. -/
def serverRead (self : ServiceCalls) (i : ℕ) (next : Bytes → ServerPc) : Option ServiceCalls := do
  let stream ← self.link.streams[i]?
  match readTcprosFrame [stream.toServer] with
  | .ok (frame, rest) =>
    let link := self.link.modifyStream i fun stream => { stream with toServer := rest.flatten }
    some ({ self with link }.serverWrite i [] (next frame))
  | .error _ => if stream.clientOpen then none else some (self.serverWrite i [] .closed)

section Steps

-- `String::decode` and `String::encode` of the error's text, and the callback
variable (decodeString : Bytes → Except IoError String) (encodeString : String → Except IoError Bytes)
  (callback : Bytes → Except String Bytes)

def statusByte : Except String Bytes → UInt8
  | .ok _ => rpcSuccess
  | .error _ => rpcFailure

def bodyBytes : Except String Bytes → Except IoError Bytes
  | .ok response => .ok response
  | .error e => encodeString e

def step (self : ServiceCalls) : Label → Option ServiceCalls
  | .client label => do
    let link ← self.link.step decodeString label
    some { self with
      link
      entered := match label with
        | .call data => self.entered ++ [data]
        | _ => self.entered }
  | .accept =>
    if self.handling = none ∧ self.accepted < self.link.streams.length then
      some { self.setServer self.accepted .header with
        handling := some self.accepted
        accepted := self.accepted + 1 }
    else none
  | .headerRead => do
    let i ← self.handling
    match self.servers i with
    | .header => do
      let self ← self.serverRead i self.provider.handleHeader
      some (if (self.servers i).isClosed then { self with handling := none } else self)
    | _ => none
  | .headerWrite => do
    let i ← self.handling
    match self.servers i with
    | .probe => some { self.serverWrite i self.provider.probeHeaderBytes .closed with handling := none }
    | .greet client => some { self.serverWrite i self.provider.serverHeaderBytes
        (.read client.persistent) with handling := none }
    | _ => none
  | .taskRead i =>
    match self.servers i with
    | .read persistent => self.serverRead i (.callback persistent)
    | _ => none
  | .taskCallback i =>
    match self.servers i with
    | .callback persistent data => some { self.setServer i (.status persistent (callback data)) with
        invoked := self.invoked ++ [data] }
    | _ => none
  | .taskStatus i =>
    match self.servers i with
    | .status persistent result =>
      some (self.serverWrite i [statusByte result] (.body persistent result))
    | _ => none
  | .taskBody i =>
    match self.servers i with
    | .body persistent result =>
      match bodyBytes encodeString result with
      | .ok bytes => some (self.serverWrite i bytes (if persistent then .read persistent else .closed))
      | .error _ => some (self.serverWrite i [] .closed)
    | _ => none

end Steps

end ServiceCalls

end RosrustAsync
