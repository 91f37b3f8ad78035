import RosrustAsync.FrameStream
import RosrustAsync.PublicationSteps
import RosrustAsync.ServiceCalls

namespace RosrustAsync

/-!
The listeners of a `Publication` and of a `ServiceProvider` with the peers that connect to them,
each of which sends its header, and takes the answer, when it likes.
-/

/-- A connection as the listener's side has it. -/
structure Peer where
  arrived : Bytes
  -- what a read fails with that wants more than has arrived, once no more will
  ended : Option IoError
  setNodelay : Except IoError Unit
  -- what writing to it comes to; `none` while it takes nothing
  writeAll : Option (Except IoError Unit)

namespace Peer

/-- What `read_tcpros_frame` comes to; `none` while it waits for the rest of the frame. -/
def headerFrame (self : Peer) : Option (Except IoError Bytes) :=
  match readTcprosFrame [self.arrived] with
  | .ok (frame, _) => some (.ok frame)
  | .error _ => self.ended.map .error

def HeaderArrived (self : Peer) : Prop :=
  ∃ frame rest, readTcprosFrame [self.arrived] = .ok (frame, rest)

/-- It holds back all of its header or the rest of it, and does not hang up. -/
def Silent (self : Peer) : Prop := ¬ self.HeaderArrived ∧ self.ended = none

theorem headerFrame_eq_none_iff {peer : Peer} : peer.headerFrame = none ↔ peer.Silent := by
  unfold headerFrame Silent HeaderArrived
  cases h : readTcprosFrame [peer.arrived] with
  | ok r =>
    obtain ⟨frame, rest⟩ := r
    simp
  | error e => simp

inductive Event : Type
  | connect (peer : Peer)
  | arrive (i : ℕ) (bytes : Bytes)
  | finish (i : ℕ) (error : IoError)
  | take (i : ℕ) (result : Except IoError Unit)

def Event.apply (peers : List Peer) : Event → List Peer
  | .connect peer => peers ++ [peer]
  | .arrive i bytes => peers.modify i fun peer => { peer with arrived := peer.arrived ++ bytes }
  | .finish i error => peers.modify i fun peer => { peer with ended := some error }
  | .take i result => peers.modify i fun peer => { peer with writeAll := some result }

theorem Event.apply_ne_nil {peers : List Peer} (event : Event) (h : peers ≠ []) :
    event.apply peers ≠ [] := by
  have hpos : 0 < peers.length := List.length_pos_iff.mpr h
  apply List.length_pos_iff.mp
  cases event with
  | connect peer =>
    rw [apply, List.length_append]
    omega
  | arrive i bytes => rwa [apply, List.length_modify]
  | finish i error => rwa [apply, List.length_modify]
  | take i result => rwa [apply, List.length_modify]

end Peer

/-! The connections of the listening socket stand in line, the one being set up first. -/

structure PublicationListener where
  publication : Publication
  peers : List Peer

namespace Publication

def readHeader (peer : Peer) : Option (Except HeaderError SubscriberHeader) := do
  match ← peer.headerFrame with
  | .ok frame => some (fromBytes SubscriberHeader frame)
  | .error e => some (.error (.io e))

/-- How far `setup_connection` gets with a peer before it writes to it. -/
def beforeWrite (self : Publication) (peer : Peer)
    (subscriberHeader : Except HeaderError SubscriberHeader) :
    Except PublicationError SubscriberHeader :=
  setupConnection self.header self.tcpNodelay ⟨subscriberHeader, peer.setNodelay, .ok ()⟩

/-- What `setup_connection` finds at a peer; `none` while it waits for it. -/
def setupIo (self : Publication) (peer : Peer) : Option SetupIo := do
  let subscriberHeader ← readHeader peer
  match self.beforeWrite peer subscriberHeader with
  | .ok _ => some ⟨subscriberHeader, peer.setNodelay, ← peer.writeAll⟩
  | .error _ => some ⟨subscriberHeader, peer.setNodelay, .ok ()⟩

end Publication

namespace PublicationListener

def new (topic : Topic) (callerId : String) (queueSize : ℕ) (tcpNodelay latching : Bool) :
    Option PublicationListener := do
  some ⟨← Publication.new topic callerId queueSize tcpNodelay latching, []⟩

inductive Branch : Type
  | cancelled
  | recv
  | accept (connection : Except IoError Unit)
  | setup
  | register

inductive Label : Type
  | peer (event : Peer.Event)
  | send (message : Bytes)
  | close
  | cancel
  | taskWrite (i : ℕ) (result : Except IoError Unit)
  | taskRecv (i : ℕ) (result : Except IoError Unit)
  | taskCancelled (i : ℕ)
  | taskRemoveId (i : ℕ)
  | listener (branch : Branch)

def lift (self : PublicationListener) (label : Publication.Label) : Option PublicationListener := do
  some { self with publication := ← self.publication.step label }

def closeSocket (self : PublicationListener) : PublicationListener :=
  match self.publication.pc with
  | .stopped => { self with peers := [] }
  | _ => self

def listen (self : PublicationListener) : Branch → Option PublicationListener
  | .cancelled => do some (← self.lift .listenerCancelled).closeSocket
  | .recv => do some (← self.lift .listenerRecv).closeSocket
  | .accept connection =>
    match connection, self.peers with
    | .ok _, [] => none
    | _, _ => self.lift (.accept connection)
  | .setup =>
    match self.peers with
    | [] => none
    | peer :: peers => do
      let stream ← self.publication.setupIo peer
      some ⟨← self.publication.step (.setup stream), peers⟩
  | .register => self.lift .register

def step (self : PublicationListener) : Label → Option PublicationListener
  | .peer event =>
    match self.publication.pc with
    | .stopped => none
    | _ => some { self with peers := event.apply self.peers }
  | .send message => self.lift (.send message)
  | .close => self.lift .close
  | .cancel => self.lift .cancel
  | .taskWrite i result => self.lift (.taskWrite i result)
  | .taskRecv i result => self.lift (.taskRecv i result)
  | .taskCancelled i => self.lift (.taskCancelled i)
  | .taskRemoveId i => self.lift (.taskRemoveId i)
  | .listener branch => self.listen branch

end PublicationListener

inductive ServiceListenerPc : Type
  | select
  | handleRequest
  | stopped
  deriving DecidableEq

structure RpcTask where
  clientStream : Peer
  persistent : Bool

structure ServiceListener where
  provider : Listener
  cancelled : Bool
  pc : ServiceListenerPc
  peers : List Peer
  rpcTasks : List RpcTask

namespace ServiceListener

def new (service : Service) (callerId : String) : Except HeaderError ServiceListener := do
  .ok ⟨← Listener.new service callerId, false, .select, [], []⟩

/-- The tasks that `handle_request` spawns for a peer; `none` while it waits for it. -/
def handleRequest (provider : Listener) (peer : Peer) : Option (List RpcTask) := do
  match ← peer.headerFrame with
  | .ok headerData =>
    match provider.handleHeader headerData with
    | .probe => do
      let _ ← peer.writeAll
      some []
    | .greet client =>
      match ← peer.writeAll with
      | .ok _ => some [⟨peer, client.persistent⟩]
      | .error _ => some []
    | _ => some []
  | .error _ => some []

inductive Branch : Type
  | cancelled
  | accept (connection : Except IoError Unit)
  | handleRequest

inductive Label : Type
  | peer (event : Peer.Event)
  | cancel
  | listener (branch : Branch)

def listen (self : ServiceListener) : Branch → Option ServiceListener
  | .cancelled =>
    match self.pc with
    | .select => if self.cancelled then some { self with pc := .stopped, peers := [] } else none
    | _ => none
  | .accept connection =>
    match self.pc, connection, self.peers with
    | .select, .ok _, _ :: _ => some { self with pc := .handleRequest }
    | .select, .error _, _ => some self
    | _, _, _ => none
  | .handleRequest =>
    match self.pc, self.peers with
    | .handleRequest, peer :: peers => do
      let rpcTasks ← handleRequest self.provider peer
      some { self with pc := .select, peers, rpcTasks := self.rpcTasks ++ rpcTasks }
    | _, _ => none

def step (self : ServiceListener) : Label → Option ServiceListener
  | .peer event =>
    match self.pc with
    | .stopped => none
    | _ => some { self with peers := event.apply self.peers }
  | .cancel => some { self with cancelled := true }
  | .listener branch => self.listen branch

end ServiceListener

end RosrustAsync
