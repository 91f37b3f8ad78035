import Mathlib.Data.List.AList
import RosrustAsync.HeaderSer
import RosrustAsync.Lib.Actor
import RosrustAsync.Network
import RosrustAsync.Subscription

namespace RosrustAsync

open Actor Prog

inductive SubscriberActorError : Type
  | masterClient (error : MasterClientError)
  | slaveClient (error : SlaveClientError)
  | urlParse (error : UrlParseError)
  | compatibility (error : CompatibilityError)
  | subscription (error : SubscriptionError)

/-- What the actor reads of a `Subscription`; the channel stands for its sender and its receivers. -/
structure RegisteredSubscription where
  topic : Topic
  dataTx : ℕ

structure SubscriberActorState where
  nodeName : String
  subscriptions : AList fun _ : String => ℕ × RegisteredSubscription

structure Subscriber where
  latchedMsgs : List Bytes
  dataRx : ℕ
  guard : ℕ

inductive SubscriberActorMsg : Type
  | getSubscriptions (reply : ℕ)
  | getConnectedPublisherUrls (topicName : String) (reply : ℕ)
  | registerSubscriber (topic : Topic) (callerId : String) (queueSize : ℕ) (tcpNodelay : Bool)
      (reply : ℕ)
  | unregisterSubscriber (topicName : String) (reply : ℕ)
  | dropSubscriber (topicName : String)
  | updateConnectedPublishers (topicName : String) (publishers : List String)

inductive SubscriberReply : Type
  | subscriptions (value : List (String × String))
  | connectedPublisherUrls (value : Option (Finset String))
  | registered (value : Except SubscriberActorError Subscriber)
  | unregistered (value : Except SubscriberActorError Unit)

inductive SubscriberCall : Type
  | registerSubscriber (topicName topicType : String)
  | unregisterSubscriber (topicName : String)
  | parseUrl (publisherAddr : String)
  | requestTopic (publisherAddr callerId topicName : String) (protocols : List (List String))
  | addPublisher (dataTx : ℕ) (publisherAddr channelAddr : String)
  | publisherAddrs (dataTx : ℕ)
  | latchedMsgs (dataTx : ℕ)

abbrev SubscriberCall.Ans : SubscriberCall → Type
  | .registerSubscriber _ _ => Except MasterClientError (List String)
  | .unregisterSubscriber _ => Except MasterClientError ℤ
  | .parseUrl _ => Except UrlParseError Unit
  | .requestTopic _ _ _ _ => Except SlaveClientError (Option (String × String × Int32))
  | .addPublisher _ _ _ => Except SubscriptionError Unit
  | .publisherAddrs _ => Finset String
  | .latchedMsgs _ => List Bytes

abbrev SubscriberProgram : Type → Type → Type :=
  Program SubscriberActorState String SubscriberReply SubscriberCall SubscriberCall.Ans

namespace SubscriberActor

variable {ε : Type}

def newSubscription (topic : Topic) (callerId : String) (queueSize : ℕ) (tcpNodelay : Bool) :
    SubscriberProgram SubscriptionError (ℕ × RegisteredSubscription) := do
  let header : SubscriberHeader :=
    ⟨callerId, topic.name, topic.spec.md5sum, topic.spec.msgType, topic.spec.msgDefinition,
      tcpNodelay⟩
  let _headerBytes ← ofExcept ((toBytes header).mapError .header)
  let dataTx ← channel (some queueSize)
  return (dataTx, ⟨topic, dataTx⟩)

def cleanupSubscription (guard : ℕ) (subscription : RegisteredSubscription) :
    SubscriberProgram SubscriberActorError Unit := do
  if ← upgrade guard then
    disarm guard
    release guard
  let _ ← ofExcept ((← call (SubscriberCall.unregisterSubscriber subscription.topic.name)).mapError
    .masterClient)

def getSubscriptions : SubscriberProgram ε (List (String × String)) := do
  return (← getState).subscriptions.entries.map fun entry =>
    (entry.1, entry.2.2.topic.spec.msgType)

def getConnectedPublisherUrls (topicName : String) :
    SubscriberProgram ε (Option (Finset String)) := do
  match (← getState).subscriptions.lookup topicName with
  | some (_, subscription) => return some (← call (SubscriberCall.publisherAddrs subscription.dataTx))
  | none => return none

def getPublisherChannel (callerId topicName publisherAddr : String) :
    SubscriberProgram SubscriberActorError (Option String) := do
  ofExcept ((← call (SubscriberCall.parseUrl publisherAddr)).mapError .urlParse)
  let protocolInfo ← ofExcept ((← call (SubscriberCall.requestTopic publisherAddr callerId topicName
    [["TCPROS"]])).mapError .slaveClient)
  return protocolInfo.map fun info => info.2.1 ++ ":" ++ toString info.2.2

def addPublisherToSubscription (callerId topicName publisherAddr : String)
    (subscription : RegisteredSubscription) : SubscriberProgram SubscriberActorError Unit := do
  match ← getPublisherChannel callerId topicName publisherAddr with
  | some channelAddr =>
    ofExcept ((← call (SubscriberCall.addPublisher subscription.dataTx publisherAddr
      channelAddr)).mapError .subscription)
  | none => return

def addPublishers (topicName : String) (subscription : RegisteredSubscription)
    (publishers : List String) : SubscriberProgram ε Unit := do
  publishers.forM fun publisherAddr => do
    -- an error is logged, and the loop goes on
    let _ ← attempt (addPublisherToSubscription (← getState).nodeName topicName publisherAddr
      subscription)

/-- The rest of `register_subscriber`, once the registry has no entry for the topic. -/
def createSubscription (topic : Topic) (callerId : String) (queueSize : ℕ) (tcpNodelay : Bool) :
    SubscriberProgram SubscriberActorError Subscriber := do
  let (dataRx, subscription) ← orThrow .subscription
    (newSubscription topic callerId queueSize tcpNodelay)
  let existingPublishers ← ofExcept
    ((← call (SubscriberCall.registerSubscriber topic.name topic.spec.msgType)).mapError
      .masterClient)
  addPublishers topic.name subscription existingPublishers
  let guard ← newGuard topic.name
  modifyState fun state =>
    { state with subscriptions := state.subscriptions.insert topic.name (guard, subscription) }
  return ⟨[], dataRx, guard⟩

def registerSubscriber (topic : Topic) (callerId : String) (queueSize : ℕ) (tcpNodelay : Bool) :
    SubscriberProgram SubscriberActorError Subscriber := do
  match (← getState).subscriptions.lookup topic.name with
  | some (guard, subscription) =>
    if ← upgrade guard then
      match topic.spec.validateCompatibility subscription.topic.spec with
      | .ok _ =>
        let latchedMsgs ← call (SubscriberCall.latchedMsgs subscription.dataTx)
        return ⟨latchedMsgs, subscription.dataTx, guard⟩
      | .error e =>
        release guard
        throw (.compatibility e)
    else
      modifyState fun state => { state with subscriptions := state.subscriptions.erase topic.name }
      let _ ← attempt (cleanupSubscription guard subscription)
      createSubscription topic callerId queueSize tcpNodelay
  | none => createSubscription topic callerId queueSize tcpNodelay

def unregisterSubscriber (topicName : String) :
    SubscriberProgram SubscriberActorError Unit := do
  match (← getState).subscriptions.lookup topicName with
  | some (guard, subscription) =>
    modifyState fun state => { state with subscriptions := state.subscriptions.erase topicName }
    cleanupSubscription guard subscription
  | none => return

def updateConnectedPublishers (topicName : String) (publisherAddrs : List String) :
    SubscriberProgram ε Unit := do
  match (← getState).subscriptions.lookup topicName with
  | some (_, subscription) =>
    let connected ← call (SubscriberCall.publisherAddrs subscription.dataTx)
    addPublishers topicName subscription (publisherAddrs.filter (· ∉ connected))
  | none => return

def handle : SubscriberActorMsg → SubscriberProgram MessagingErr Unit
  | .getSubscriptions reply => do send reply (.subscriptions (← getSubscriptions))
  | .getConnectedPublisherUrls topicName reply => do
    send reply (.connectedPublisherUrls (← getConnectedPublisherUrls topicName))
  | .registerSubscriber topic callerId queueSize tcpNodelay reply => do
    send reply (.registered (← attempt (registerSubscriber topic callerId queueSize tcpNodelay)))
  | .unregisterSubscriber topicName reply => do
    send reply (.unregistered (← attempt (unregisterSubscriber topicName)))
  | .dropSubscriber topicName => do
    let _ ← attempt (unregisterSubscriber topicName)
  | .updateConnectedPublishers topicName publishers => updateConnectedPublishers topicName publishers

/-- The map is iterated in the order `subscriptions`. -/
def postStop (subscriptions : List (Σ _ : String, ℕ × RegisteredSubscription)) :
    SubscriberProgram MessagingErr Unit := do
  modifyState fun state => { state with subscriptions := ∅ }
  subscriptions.forM fun entry => do
    let _ ← attempt (cleanupSubscription entry.2.1 entry.2.2)

def behaviour : Behaviour SubscriberActorState String SubscriberReply SubscriberCall
    SubscriberActorMsg SubscriberCall.Ans where
  handle := handle
  registers
    | .registerSubscriber topic _ _ _ _ => some topic.name
    | _ => none
  dropMsg := .dropSubscriber
  guardOf
    | .registered (.ok subscriber) => some subscriber.guard
    | _ => none
  cloneable _ := true

def init (nodeName : String) : Config SubscriberActorState String SubscriberReply SubscriberCall
    SubscriberActorMsg SubscriberCall.Ans := ⟨.init ⟨nodeName, ∅⟩, .idle⟩

end SubscriberActor

end RosrustAsync
