import Mathlib.Data.Finset.Erase
import Mathlib.Data.Finset.Insert
import RosrustAsync.HeaderTypes
import RosrustAsync.Lib.Broadcast
import RosrustAsync.Lib.Runs

namespace RosrustAsync

inductive PublicationError : Type
  | io (error : IoError)
  | header (error : HeaderError)
  | compatibility (error : CompatibilityError)

structure SetupIo where
  subscriberHeader : Except HeaderError SubscriberHeader
  setNodelay : Except IoError Unit
  writeAll : Except IoError Unit

def setupConnection (header : PublisherHeader) (tcpNodelay : Bool) (stream : SetupIo) :
    Except PublicationError SubscriberHeader := do
  let subscriberHeader ← stream.subscriberHeader.mapError .header
  (validatePubsubCompatibility header subscriberHeader).mapError .compatibility
  if tcpNodelay || subscriberHeader.tcpNodelay then stream.setNodelay.mapError .io
  stream.writeAll.mapError .io
  .ok subscriberHeader

inductive PublisherTaskPc : Type
  | run
  | removeId
  | finished
  deriving DecidableEq

structure PublisherTask where
  subscriberId : String
  latchedMessage : Option Bytes
  dataRx : ℕ
  pc : PublisherTaskPc
  -- what it has written behind the header, the messages sent before it joined, its first lag
  written : List Bytes
  joined : ℕ
  laggedAt : Option ℕ

def PublisherTask.running (task : PublisherTask) : Bool :=
  match task.pc with
  | .run => true
  | _ => false

inductive ListenerPc : Type
  | select
  | setup
  | register (task : PublisherTask)
  | stopped

structure Publication where
  header : PublisherHeader
  tcpNodelay : Bool
  subscriberIds : Finset String
  data : Broadcast Bytes
  cancelled : Bool
  pc : ListenerPc
  latchedMessage : Option Bytes
  dataRx : ℕ
  tasks : List PublisherTask

namespace Publication

def new (topic : Topic) (callerId : String) (queueSize : ℕ) (tcpNodelay latching : Bool) :
    Option Publication := do
  let header : PublisherHeader :=
    ⟨callerId, topic.name, topic.spec.md5sum, topic.spec.msgType, topic.spec.msgDefinition, latching⟩
  let data ← Broadcast.channel queueSize
  some ⟨header, tcpNodelay, ∅, data, false, .select, none, data.tail, []⟩

inductive Label : Type
  | send (message : Bytes)
  | close
  | cancel
  | listenerCancelled
  | listenerRecv
  | accept (connection : Except IoError Unit)
  | setup (stream : SetupIo)
  | register
  | taskWrite (i : ℕ) (result : Except IoError Unit)
  | taskRecv (i : ℕ) (result : Except IoError Unit)
  | taskCancelled (i : ℕ)
  | taskRemoveId (i : ℕ)

/-- One receiver at least is left, so that a send is not refused. -/
def hasReceiver (self : Publication) : Bool :=
  (match self.pc with | .stopped => false | _ => true) || self.tasks.any (·.running)

def listenerRecv (self : Publication) : Option Publication := do
  match ← self.data.recv self.dataRx with
  | (.value m, next) => some { self with latchedMessage := some m, dataRx := next }
  | (.lagged _, next) => some { self with dataRx := next }
  | (.closed, _) => some { self with pc := .stopped }

/-- The end of `setup_connection`: the latched message is copied, and the receiver resubscribed. -/
def setup (self : Publication) (stream : SetupIo) : Publication :=
  match setupConnection self.header self.tcpNodelay stream with
  | .ok subscriberHeader =>
    { self with pc := .register ⟨subscriberHeader.callerId, self.latchedMessage, self.data.tail,
      .run, [], self.data.tail, none⟩ }
  | .error _ => { self with pc := .select }

def taskWrite (task : PublisherTask) (result : Except IoError Unit) : Option PublisherTask :=
  match task.latchedMessage with
  | some m =>
    match result with
    | .ok _ => some { task with latchedMessage := none, written := task.written ++ [m] }
    | .error _ => some { task with latchedMessage := none, pc := .removeId }
  | none => none

def taskRecv (data : Broadcast Bytes) (task : PublisherTask) (result : Except IoError Unit) :
    Option PublisherTask :=
  match task.latchedMessage with
  | some _ => none
  | none => do
    match ← data.recv task.dataRx with
    | (.value m, next) =>
      match result with
      | .ok _ => some { task with dataRx := next, written := task.written ++ [m] }
      | .error _ => some { task with dataRx := next, pc := .removeId }
    | (.lagged _, next) =>
      some { task with dataRx := next, laggedAt := some (task.laggedAt.getD task.written.length) }
    | (.closed, _) => some { task with pc := .removeId }

def stepTask (self : Publication) (i : ℕ) (f : PublisherTask → Option PublisherTask) :
    Option Publication := do
  let task ← self.tasks[i]?
  if task.running then
    let task' ← f task
    some { self with tasks := self.tasks.set i task' }
  else none

/-- What the spawned task does once `publisher_task` has returned. -/
def removeId (self : Publication) (i : ℕ) : Option Publication := do
  let task ← self.tasks[i]?
  match task.pc with
  | .removeId =>
    some { self with
      subscriberIds := self.subscriberIds.erase task.subscriberId
      tasks := self.tasks.set i { task with pc := .finished } }
  | _ => none

def step (self : Publication) : Label → Option Publication
  | .send message =>
    if self.data.closed then none
    else if self.hasReceiver then some { self with data := self.data.send message }
    else some self
  | .close => some { self with data := { self.data with closed := true } }
  | .cancel => some { self with cancelled := true }
  | .listenerCancelled =>
    match self.pc with
    | .select => if self.cancelled then some { self with pc := .stopped } else none
    | _ => none
  | .listenerRecv =>
    match self.pc with
    | .select => if self.header.latching then self.listenerRecv else none
    | _ => none
  | .accept connection =>
    match self.pc with
    | .select =>
      match connection with
      | .ok _ => some { self with pc := .setup }
      | .error _ => some self
    | _ => none
  | .setup stream =>
    match self.pc with
    | .setup => some (self.setup stream)
    | _ => none
  | .register =>
    match self.pc with
    | .register task =>
      some { self with
        pc := .select
        subscriberIds := insert task.subscriberId self.subscriberIds
        tasks := self.tasks ++ [task] }
    | _ => none
  | .taskWrite i result => self.stepTask i fun task => taskWrite task result
  | .taskRecv i result => self.stepTask i fun task => taskRecv self.data task result
  | .taskCancelled i =>
    self.stepTask i fun task =>
      if self.cancelled ∧ task.latchedMessage = none then some { task with pc := .removeId } else none
  | .taskRemoveId i => self.removeId i

end Publication

end RosrustAsync
