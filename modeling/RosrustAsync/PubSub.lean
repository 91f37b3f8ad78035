import RosrustAsync.FrameStream
import RosrustAsync.PublicationSteps
import RosrustAsync.SubscriptionSteps

namespace RosrustAsync

/-!
A publication and a subscription, and one connection that joins them. All else they are connected
to takes part with results of any kind.
-/

structure Link where
  publisherTask : ℕ
  -- what has been written behind the publisher's header and not been read
  stream : Bytes
  subscriberTask : Option ℕ
  -- the handles there were when the subscriber joined
  handles : ℕ

structure PubSub where
  publication : Publication
  subscription : Subscription
  link : Option Link

namespace Link

def drivesPublisher (self : Link) : Publication.Label → Bool
  | .taskWrite i _ | .taskRecv i _ => i == self.publisherTask
  | _ => false

def drivesSubscriber (self : Link) : Subscription.Label → Bool
  | .taskRead i _ => self.subscriberTask == some i
  | _ => false

end Link

namespace PubSub

inductive Label : Type
  | pub (label : Publication.Label)
  | sub (label : Subscription.Label)
  | greet (setNodelay : Except IoError Unit)
  | join
  | write (result : Except IoError Unit) (torn : ℕ)
  | read
  | readError (error : IoError)

/-- What a publisher task writes next. -/
def outgoing (data : Broadcast Bytes) (task : PublisherTask) : Bytes :=
  match task.latchedMessage with
  | some m => m
  | none =>
    match data.recv task.dataRx with
    | some (.value m, _) => m
    | _ => []

def writeLabel (i : ℕ) (task : PublisherTask) (result : Except IoError Unit) : Publication.Label :=
  match task.latchedMessage with
  | some _ => .taskWrite i result
  | none => .taskRecv i result

/-- A write that fails has written a part of its message. -/
def written (m : Bytes) (torn : ℕ) : Except IoError Unit → Bytes
  | .ok _ => m
  | .error _ => m.dropLast.take torn

def step (self : PubSub) : Label → Option PubSub
  | .pub label => do
    if self.link.any (·.drivesPublisher label) then none
    else
      let publication ← self.publication.step label
      some { self with publication := publication }
  | .sub label => do
    if self.link.any (·.drivesSubscriber label) then none
    else
      let subscription ← self.subscription.step label
      some { self with subscription := subscription }
  | .greet setNodelay =>
    match self.link, self.subscription.owner with
    | none, .addPublisher _ => do
      let publication ← self.publication.step
        (.setup ⟨.ok self.subscription.header, setNodelay, .ok ()⟩)
      match publication.pc with
      | .register _ => some { self with
          publication := publication
          link := some ⟨publication.tasks.length, [], none, 0⟩ }
      | _ => none
    | _, _ => none
  | .join =>
    match self.link with
    | some ⟨publisherTask, stream, none, _⟩ => do
      let subscription ← self.subscription.step
        (.connect ⟨.ok (), .ok (), .ok self.publication.header⟩)
      if subscription.tasks.length = self.subscription.tasks.length + 1 then
        some { self with
          subscription := subscription
          link := some ⟨publisherTask, stream, some self.subscription.tasks.length,
            self.subscription.handles.length⟩ }
      else none
    | _ => none
  | .write result torn => do
    let link ← self.link
    let task ← self.publication.tasks[link.publisherTask]?
    let publication ← self.publication.step (writeLabel link.publisherTask task result)
    let bytes := written (outgoing self.publication.data task) torn result
    some { self with
      publication := publication
      link := some { link with stream := link.stream ++ bytes } }
  | .read => do
    let link ← self.link
    let i ← link.subscriberTask
    match readTcprosFrame [link.stream] with
    | .ok (frame, rest) => do
      let subscription ← self.subscription.step (.taskRead i (.ok frame))
      some { self with
        subscription := subscription
        link := some { link with stream := rest.flatten } }
    | .error _ => none
  | .readError error => do
    let link ← self.link
    let i ← link.subscriberTask
    let subscription ← self.subscription.step (.taskRead i (.error error))
    some { self with subscription := subscription }

def ofPubSub (publication : Publication) (subscription : Subscription) : PubSub :=
  ⟨publication, subscription, none⟩

end PubSub

end RosrustAsync
