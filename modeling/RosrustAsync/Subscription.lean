import Mathlib.Data.Finset.Erase
import Mathlib.Data.Finset.Insert
import Mathlib.Data.List.AList
import RosrustAsync.HeaderTypes
import RosrustAsync.Lib.Broadcast
import RosrustAsync.Lib.Runs

namespace RosrustAsync

inductive SubscriptionError : Type
  | io (error : IoError)
  | header (error : HeaderError)
  | compatibility (error : CompatibilityError)

/-- A message of the internal channel, with the task that read it from its publisher. -/
structure Frame where
  task : ℕ
  data : Bytes
  deriving DecidableEq

structure ConnectIo where
  connect : Except IoError Unit
  writeAll : Except IoError Unit
  publisherHeader : Except HeaderError PublisherHeader

def connectPublisher (header : SubscriberHeader) (stream : ConnectIo) :
    Except SubscriptionError PublisherHeader := do
  stream.connect.mapError .io
  stream.writeAll.mapError .io
  let publisherHeader ← stream.publisherHeader.mapError .header
  (validatePubsubCompatibility publisherHeader header).mapError .compatibility
  .ok publisherHeader

inductive SubscriberTaskPc : Type
  | select
  | store (data : Bytes)
  | removeLatched
  | removeAddr
  | finished
  deriving DecidableEq

structure SubscriberTask where
  publisherAddr : String
  publisherHeader : PublisherHeader
  pc : SubscriberTaskPc

structure SubscriberHandle where
  latchedMsgs : List Frame
  dataRx : ℕ
  alive : Bool
  -- what it was made from, and what `recv_raw` has returned
  snapshot : List Frame
  joined : ℕ
  publishers : List ℕ
  got : List Frame
  lagged : Bool

inductive OwnerPc : Type
  | idle
  | addPublisher (publisherAddr : String)
  | subscribe (latchedMsgs : List Frame)
  | dropped

structure Subscription where
  topic : Topic
  header : SubscriberHeader
  publisherAddrs : Finset String
  latchedMsgs : AList fun _ : String => Frame
  data : Broadcast Frame
  owner : OwnerPc
  tasks : List SubscriberTask
  handles : List SubscriberHandle

namespace Subscription

def new (topic : Topic) (callerId : String) (queueSize : ℕ) (tcpNodelay : Bool) :
    Option Subscription := do
  let header : SubscriberHeader :=
    ⟨callerId, topic.name, topic.spec.md5sum, topic.spec.msgType, topic.spec.msgDefinition,
      tcpNodelay⟩
  let data ← Broadcast.channel queueSize
  some ⟨topic, header, ∅, ∅, data, .idle, [],
    [⟨[], data.tail, true, [], data.tail, [], [], false⟩]⟩

inductive Label : Type
  | addPublisher (publisherAddr : String)
  | connect (stream : ConnectIo)
  | latchedMsgs (spec : TopicSpec) (order : List Frame)
  | dataReceiver
  | drop
  | taskRead (i : ℕ) (data : Except IoError Bytes)
  | taskStore (i : ℕ)
  | taskCancelled (i : ℕ)
  | taskRemoveLatched (i : ℕ)
  | taskRemoveAddr (i : ℕ)
  | recvRaw (i : ℕ)
  | cloneHandle (i : ℕ)
  | dropHandle (i : ℕ)

def connected (task : SubscriberTask) : Bool :=
  match task.pc with
  | .select | .store _ => true
  | _ => false

def isDropped (self : Subscription) : Bool :=
  match self.owner with
  | .dropped => true
  | _ => false

def hasReceiver (self : Subscription) : Bool := !self.isDropped || self.handles.any (·.alive)

/-- The internal channel as a receiver sees it: closed when no task nor the owner can send. -/
def channel (self : Subscription) : Broadcast Frame :=
  { self.data with closed := self.isDropped && !self.tasks.any connected }

def latchedValues (self : Subscription) : List Frame := self.latchedMsgs.entries.map Sigma.snd

def latchingPublishers (self : Subscription) : List ℕ :=
  (List.range self.tasks.length).filter fun i =>
    match self.tasks[i]? with
    | some task => connected task && task.publisherHeader.latching
    | none => false

def recvRaw (data : Broadcast Frame) (handle : SubscriberHandle) : Option SubscriberHandle :=
  match handle.latchedMsgs with
  | m :: ms => some { handle with latchedMsgs := ms, got := handle.got ++ [m] }
  | [] => do
    match ← data.recv handle.dataRx with
    | (.value m, next) => some { handle with dataRx := next, got := handle.got ++ [m] }
    | (.lagged _, next) => some { handle with dataRx := next, lagged := true }
    | (.closed, _) => some handle

def taskRead (self : Subscription) (i : ℕ) (task : SubscriberTask) :
    Except IoError Bytes → Subscription
  | .ok data =>
    if self.hasReceiver then
      { self with
        data := self.data.send ⟨i, data⟩
        tasks := self.tasks.set i
          { task with pc := if task.publisherHeader.latching then .store data else .select } }
    else { self with tasks := self.tasks.set i { task with pc := .removeLatched } }
  | .error _ => { self with tasks := self.tasks.set i { task with pc := .removeLatched } }

def stepTask (self : Subscription) (i : ℕ) (f : SubscriberTask → Option Subscription) :
    Option Subscription := do
  let task ← self.tasks[i]?
  f task

def step (self : Subscription) : Label → Option Subscription
  | .addPublisher publisherAddr =>
    match self.owner with
    | .idle =>
      if publisherAddr ∈ self.publisherAddrs then some self
      else some { self with owner := .addPublisher publisherAddr }
    | _ => none
  | .connect stream =>
    match self.owner with
    | .addPublisher publisherAddr =>
      match connectPublisher self.header stream with
      | .ok publisherHeader =>
        some { self with
          owner := .idle
          publisherAddrs := insert publisherAddr self.publisherAddrs
          tasks := self.tasks ++ [⟨publisherAddr, publisherHeader, .select⟩] }
      | .error _ => some { self with owner := .idle }
    | _ => none
  | .latchedMsgs spec order =>
    match self.owner with
    | .idle =>
      match spec.validateCompatibility self.topic.spec with
      | .ok _ =>
        if order.isPerm self.latchedValues then some { self with owner := .subscribe order } else none
      | .error _ => some self
    | _ => none
  | .dataReceiver =>
    match self.owner with
    | .subscribe latchedMsgs =>
      some { self with
        owner := .idle
        handles := self.handles ++ [⟨latchedMsgs, self.data.tail, true, latchedMsgs, self.data.tail,
          self.latchingPublishers, [], false⟩] }
    | _ => none
  | .drop =>
    match self.owner with
    | .idle => some { self with owner := .dropped }
    | _ => none
  | .taskRead i data => self.stepTask i fun task =>
      match task.pc with
      | .select => some (self.taskRead i task data)
      | _ => none
  | .taskStore i => self.stepTask i fun task =>
      match task.pc with
      | .store data =>
        some { self with
          latchedMsgs := self.latchedMsgs.insert task.publisherHeader.callerId ⟨i, data⟩
          tasks := self.tasks.set i { task with pc := .select } }
      | _ => none
  | .taskCancelled i => self.stepTask i fun task =>
      match task.pc with
      | .select =>
        if self.isDropped then
          some { self with tasks := self.tasks.set i { task with pc := .removeLatched } }
        else none
      | _ => none
  | .taskRemoveLatched i => self.stepTask i fun task =>
      match task.pc with
      | .removeLatched =>
        some { self with
          latchedMsgs := self.latchedMsgs.erase task.publisherAddr
          tasks := self.tasks.set i { task with pc := .removeAddr } }
      | _ => none
  | .taskRemoveAddr i => self.stepTask i fun task =>
      match task.pc with
      | .removeAddr =>
        some { self with
          publisherAddrs := self.publisherAddrs.erase task.publisherAddr
          tasks := self.tasks.set i { task with pc := .finished } }
      | _ => none
  | .recvRaw i => do
    let handle ← self.handles[i]?
    if handle.alive then
      let handle ← recvRaw self.channel handle
      some { self with handles := self.handles.set i handle }
    else none
  | .cloneHandle i => do
    let handle ← self.handles[i]?
    if handle.alive then
      some { self with
        handles := self.handles ++ [⟨handle.latchedMsgs, self.data.tail, true, handle.latchedMsgs,
          self.data.tail, [], [], false⟩] }
    else none
  | .dropHandle i => do
    let handle ← self.handles[i]?
    some { self with handles := self.handles.set i { handle with alive := false } }

end Subscription

end RosrustAsync
