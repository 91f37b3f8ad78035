import Mathlib.Data.Finset.Dedup
import Mathlib.Logic.Function.Basic
import RosrustAsync.PublisherConnections
import RosrustAsync.SubscriberActor

namespace RosrustAsync

open Actor Prog

/-!
A node's subscriber actor with its subscriptions, the master, the publications that come and go
under the URLs of their nodes, and the `publisherUpdate` calls on their way from the master to the
node.
-/

/-- What a publisher actor has registered for a topic. While it waits for the master's reply, it
answers no `requestTopic`. -/
inductive PublicationState : Type
  | closed
  | registering
  | up (opening : ℕ) (host : String) (port : Int32)

/-- A subscription, and for each of its tasks the opening of the publication that the task is
connected to. -/
structure Connections where
  subscription : Subscription
  openings : List ℕ

/-- What the far ends of an action do: the answers of the master and of `requestTopic`, and the
connection that `add_publisher` makes. -/
structure FarEnd where
  answer : (c : SubscriberCall) → SubscriberCall.Ans c
  stream : ConnectIo
  opening : ℕ

namespace Connections

def addPublisher (self : Connections) (publisherAddr : String) (far : FarEnd) :
    Except SubscriptionError Unit × Connections :=
  if publisherAddr ∈ self.subscription.publisherAddrs then (.ok (), self)
  else
    match connectPublisher self.subscription.header far.stream with
    | .ok publisherHeader =>
      (.ok (), {
        subscription := { self.subscription with
          publisherAddrs := insert publisherAddr self.subscription.publisherAddrs
          tasks := self.subscription.tasks ++ [⟨publisherAddr, publisherHeader, .select⟩] }
        openings := self.openings ++ [far.opening] })
    | .error e => (.error e, self)

def drop (self : Connections) : Connections :=
  { self with subscription := (self.subscription.step .drop).getD self.subscription }

end Connections

structure SubscriberNet where
  actor : World SubscriberActorState String SubscriberActorMsg
  -- by the number of their channels
  connections : List Connections
  -- by topic and URL
  publications : String × String → PublicationState
  openings : ℕ
  -- the master's publisher lists, each of whose changes it sends to the node while it is subscribed
  publishers : String → Finset String
  subscribers : Finset String
  inFlight : List (String × Finset String)

namespace SubscriberNet

def announce (self : SubscriberNet) (topicName : String) : SubscriberNet :=
  if topicName ∈ self.subscribers then
    { self with inFlight := self.inFlight ++ [(topicName, self.publishers topicName)] }
  else self

def setPublication (self : SubscriberNet) (topicName url : String) (state : PublicationState) :
    SubscriberNet :=
  { self with publications := Function.update self.publications (topicName, url) state }

def setPublishers (self : SubscriberNet) (topicName : String) (urls : Finset String) :
    SubscriberNet :=
  { self with publishers := Function.update self.publishers topicName urls }.announce topicName

def isRegistered (self : SubscriberNet) (dataTx : ℕ) : Bool :=
  self.actor.state.subscriptions.entries.any fun entry => entry.2.2.dataTx == dataTx

/-- The end of the subscriptions that the handler has taken out of the registry, or has failed to
register. -/
def dropUnregistered (self : SubscriberNet) : SubscriberNet :=
  { self with
    connections := self.connections.mapIdx fun dataTx connections =>
      if self.isRegistered dataTx then connections else connections.drop }

/-! The actions of the actor. -/

def addPublisher (self : SubscriberNet) (dataTx : ℕ) (publisherAddr : String) (far : FarEnd) :
    Except SubscriptionError Unit × SubscriberNet :=
  match self.connections[dataTx]? with
  | some connections =>
    let (answer, connections) := connections.addPublisher publisherAddr far
    (answer, { self with connections := self.connections.set dataTx connections })
  | none => (.ok (), self)

def publisherAddrs (self : SubscriberNet) (dataTx : ℕ) : Finset String :=
  match self.connections[dataTx]? with
  | some connections => connections.subscription.publisherAddrs
  | none => ∅

def answers (self : SubscriberNet) (far : FarEnd) : (c : SubscriberCall) → SubscriberCall.Ans c
  | .addPublisher dataTx publisherAddr _ => (self.addPublisher dataTx publisherAddr far).1
  | .publisherAddrs dataTx => self.publisherAddrs dataTx
  | c => far.answer c

def serve (self : SubscriberNet) (far : FarEnd) : SubscriberCall → SubscriberNet
  | .registerSubscriber topicName topicType =>
    match far.answer (.registerSubscriber topicName topicType) with
    | .ok _ => { self with subscribers := insert topicName self.subscribers }
    | .error _ => self.dropUnregistered
  | .unregisterSubscriber topicName =>
    match far.answer (.unregisterSubscriber topicName) with
    | .ok _ => { self.dropUnregistered with subscribers := self.subscribers.erase topicName }
    | .error _ => self.dropUnregistered
  | .addPublisher dataTx publisherAddr _ => (self.addPublisher dataTx publisherAddr far).2
  | _ => self

def newSubscription (self : SubscriberNet) : SubscriberActorMsg → SubscriberNet
  | .registerSubscriber topic callerId queueSize tcpNodelay _ =>
    match Subscription.new topic callerId queueSize tcpNodelay with
    | some subscription => { self with connections := self.connections ++ [⟨subscription, []⟩] }
    | none => self
  | _ => self

def served (self : SubscriberNet) (m : SubscriberActorMsg) (far : FarEnd)
    (a : Act SubscriberActorState String SubscriberReply SubscriberCall) : SubscriberNet :=
  match a with
  | .channel _ => self.newSubscription m
  | .call c => self.serve far c
  | _ => self

def exec (m : SubscriberActorMsg) (far : FarEnd)
    (a : Act SubscriberActorState String SubscriberReply SubscriberCall) (self : SubscriberNet) :
    Option (Act.Res SubscriberCall.Ans a × SubscriberNet) := do
  let (r, actor) ← Actor.exec SubscriberActor.behaviour m (self.answers far) a self.actor
  some (r, { self.served m far a with actor })

/-! What goes on outside the actor. -/

inductive Outside : Type
  | client (l : ClientLabel SubscriberActorMsg)
  | registerPublisher (topicName url : String)
  | insertPublication (topicName url host : String) (port : Int32)
  | removePublication (topicName url : String)
  | unregisterPublisher (topicName url : String)
  | deliver (publishers : List String)
  | subscription (dataTx : ℕ) (l : Subscription.Label)

def outside (self : SubscriberNet) : Outside → Option SubscriberNet
  | .client (.enqueue (.updateConnectedPublishers _ _)) => none
  | .client l => do some { self with actor := ← clientStep SubscriberActor.behaviour self.actor l }
  | .registerPublisher topicName url =>
    match self.publications (topicName, url) with
    | .closed =>
      some ((self.setPublication topicName url .registering).setPublishers topicName
        (insert url (self.publishers topicName)))
    | _ => none
  | .insertPublication topicName url host port =>
    match self.publications (topicName, url) with
    | .registering =>
      some { self.setPublication topicName url (.up self.openings host port) with
        openings := self.openings + 1 }
    | _ => none
  | .removePublication topicName url => some (self.setPublication topicName url .closed)
  | .unregisterPublisher topicName url =>
    some (self.setPublishers topicName ((self.publishers topicName).erase url))
  | .deliver publishers =>
    match self.inFlight with
    | (topicName, urls) :: inFlight =>
      -- the set is iterated in any order
      if publishers.toFinset = urls then
        some { self with
          actor := { self.actor with
            mailbox := self.actor.mailbox ++ [.updateConnectedPublishers topicName publishers] }
          inFlight }
      else none
    | [] => none
  | .subscription dataTx l =>
    if Subscription.byOwner l then none
    else do
      let connections ← self.connections[dataTx]?
      let subscription ← connections.subscription.step l
      some { self with
        connections := self.connections.set dataTx { connections with subscription } }

def receive (self : SubscriberNet) : Option (SubscriberActorMsg × SubscriberNet) := do
  let (m, actor) ← Actor.receive self.actor
  some (m, { self with actor })

def process : Process SubscriberNet Outside FarEnd SubscriberActorMsg
    (Act SubscriberActorState String SubscriberReply SubscriberCall) MessagingErr
    (Act.Res SubscriberCall.Ans) where
  outside := outside
  receive := receive
  handle m := (SubscriberActor.handle m).run
  exec := exec

abbrev Config : Type :=
  Process.Config SubscriberNet SubscriberActorMsg
    (Act SubscriberActorState String SubscriberReply SubscriberCall) MessagingErr
    (Act.Res SubscriberCall.Ans)

def init (nodeName : String) : Config :=
  ⟨⟨.init ⟨nodeName, ∅⟩, [], fun _ => .closed, 0, fun _ => ∅, ∅, []⟩, .idle⟩

end SubscriberNet

end RosrustAsync
