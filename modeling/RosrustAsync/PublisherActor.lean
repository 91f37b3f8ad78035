import Mathlib.Data.List.AList
import RosrustAsync.HeaderSer
import RosrustAsync.Lib.Actor
import RosrustAsync.Network
import RosrustAsync.Publication

namespace RosrustAsync

open Actor Prog

inductive PublisherActorError : Type
  | masterClient (error : MasterClientError)
  | compatibility (error : CompatibilityError)
  | publication (error : PublicationError)

/-- What the actor reads of a `Publication`; the channel stands for its sender. -/
structure RegisteredPublication where
  topic : Topic
  address : SocketAddr
  dataTx : ℕ

structure PublisherActorState where
  publications : AList fun _ : String => ℕ × RegisteredPublication

structure Publisher where
  dataTx : ℕ
  guard : ℕ

inductive PublisherActorMsg : Type
  | getPublications (reply : ℕ)
  | getPublisherAddress (topicName : String) (reply : ℕ)
  | getConnectedSubscriberIds (topicName : String) (reply : ℕ)
  | registerPublisher (topic : Topic) (address : IpAddr) (callerId : String) (queueSize : ℕ)
      (latching tcpNodelay : Bool) (reply : ℕ)
  | unregisterPublisher (topicName : String) (reply : ℕ)
  | dropPublisher (topicName : String)

inductive PublisherReply : Type
  | publications (value : List (String × String))
  | publisherAddress (value : Option SocketAddr)
  | connectedSubscriberIds (value : Option (Finset String))
  | registered (value : Except PublisherActorError Publisher)
  | unregistered (value : Except PublisherActorError Unit)

inductive PublisherCall : Type
  | bind (address : SocketAddr)
  | subscriberIds (dataTx : ℕ)
  | registerPublisher (topicName topicType : String)
  | unregisterPublisher (topicName : String)

abbrev PublisherCall.Ans : PublisherCall → Type
  | .bind _ => Except IoError SocketAddr
  | .subscriberIds _ => Finset String
  | .registerPublisher _ _ => Except MasterClientError (List String)
  | .unregisterPublisher _ => Except MasterClientError ℤ

abbrev PublisherProgram : Type → Type → Type :=
  Program PublisherActorState String PublisherReply PublisherCall PublisherCall.Ans

namespace PublisherActor

variable {ε : Type}

def newPublication (address : SocketAddr) (topic : Topic) (callerId : String) (queueSize : ℕ)
    (_tcpNodelay latching : Bool) :
    PublisherProgram PublicationError (ℕ × RegisteredPublication) := do
  let boundAddr ← ofExcept ((← call (PublisherCall.bind address)).mapError .io)
  let header : PublisherHeader :=
    ⟨callerId, topic.name, topic.spec.md5sum, topic.spec.msgType, topic.spec.msgDefinition, latching⟩
  let _headerBytes ← ofExcept ((toBytes header).mapError .header)
  let dataTx ← channel (some queueSize)
  return (dataTx, ⟨topic, boundAddr, dataTx⟩)

def cleanupPublication (guard : ℕ) (publication : RegisteredPublication) :
    PublisherProgram PublisherActorError Unit := do
  if ← upgrade guard then
    disarm guard
    release guard
  let _ ← ofExcept ((← call (PublisherCall.unregisterPublisher publication.topic.name)).mapError
    .masterClient)

def getPublications : PublisherProgram ε (List (String × String)) := do
  return (← getState).publications.entries.map fun entry =>
    (entry.1, entry.2.2.topic.spec.msgType)

def getPublisherAddress (topicName : String) : PublisherProgram ε (Option SocketAddr) := do
  return ((← getState).publications.lookup topicName).map fun entry => entry.2.address

def getConnectedSubscriberIds (topicName : String) : PublisherProgram ε (Option (Finset String)) := do
  match (← getState).publications.lookup topicName with
  | some (_, publication) => return some (← call (PublisherCall.subscriberIds publication.dataTx))
  | none => return none

/-- The rest of `register_publisher`, once the registry has no entry for the topic. -/
def createPublication (topic : Topic) (address : IpAddr) (callerId : String) (queueSize : ℕ)
    (latching tcpNodelay : Bool) : PublisherProgram PublisherActorError Publisher := do
  let (dataTx, publication) ← orThrow .publication
    (newPublication ⟨address, 0⟩ topic callerId queueSize tcpNodelay latching)
  let _existingSubscribers ← ofExcept
    ((← call (PublisherCall.registerPublisher topic.name topic.spec.msgType)).mapError .masterClient)
  let guard ← newGuard topic.name
  modifyState fun state =>
    { state with publications := state.publications.insert topic.name (guard, publication) }
  return ⟨dataTx, guard⟩

def registerPublisher (topic : Topic) (address : IpAddr) (callerId : String) (queueSize : ℕ)
    (latching tcpNodelay : Bool) : PublisherProgram PublisherActorError Publisher := do
  match (← getState).publications.lookup topic.name with
  | some (guard, publication) =>
    if ← upgrade guard then
      match topic.spec.validateCompatibility publication.topic.spec with
      | .ok _ => return ⟨publication.dataTx, guard⟩
      | .error e =>
        release guard
        throw (.compatibility e)
    else
      modifyState fun state => { state with publications := state.publications.erase topic.name }
      let _ ← attempt (cleanupPublication guard publication)
      createPublication topic address callerId queueSize latching tcpNodelay
  | none => createPublication topic address callerId queueSize latching tcpNodelay

def unregisterPublisher (topicName : String) : PublisherProgram PublisherActorError Unit := do
  match (← getState).publications.lookup topicName with
  | some (guard, publication) =>
    modifyState fun state => { state with publications := state.publications.erase topicName }
    cleanupPublication guard publication
  | none => return

def handle : PublisherActorMsg → PublisherProgram MessagingErr Unit
  | .getPublications reply => do send reply (.publications (← getPublications))
  | .getPublisherAddress topicName reply => do
    send reply (.publisherAddress (← getPublisherAddress topicName))
  | .getConnectedSubscriberIds topicName reply => do
    send reply (.connectedSubscriberIds (← getConnectedSubscriberIds topicName))
  | .registerPublisher topic address callerId queueSize latching tcpNodelay reply => do
    send reply (.registered
      (← attempt (registerPublisher topic address callerId queueSize latching tcpNodelay)))
  | .unregisterPublisher topicName reply => do
    send reply (.unregistered (← attempt (unregisterPublisher topicName)))
  | .dropPublisher topicName => do
    let _ ← attempt (unregisterPublisher topicName)

/-- The map is iterated in the order `publications`. -/
def postStop (publications : List (Σ _ : String, ℕ × RegisteredPublication)) :
    PublisherProgram MessagingErr Unit := do
  modifyState fun state => { state with publications := ∅ }
  publications.forM fun entry => do
    let _ ← attempt (cleanupPublication entry.2.1 entry.2.2)

def behaviour : Behaviour PublisherActorState String PublisherReply PublisherCall PublisherActorMsg
    PublisherCall.Ans where
  handle := handle
  registers
    | .registerPublisher topic _ _ _ _ _ _ => some topic.name
    | _ => none
  dropMsg := .dropPublisher
  guardOf
    | .registered (.ok publisher) => some publisher.guard
    | _ => none
  cloneable _ := true

def init : Config PublisherActorState String PublisherReply PublisherCall PublisherActorMsg
    PublisherCall.Ans := ⟨.init ⟨∅⟩, .idle⟩

end PublisherActor

end RosrustAsync
