import RosrustAsync.HandshakeAgreement
import RosrustAsync.MessageOrder

namespace RosrustAsync

/-!
Any number of publications and subscriptions, and the connections between them. The subscriptions
connect to publications of the network alone; others may connect to its publications as well.
-/

structure NetConnection where
  publication : ℕ
  subscriber : ℕ
  link : Link

structure NetSubscriber where
  subscription : Subscription
  -- the connection that `add_publisher` is opening
  connecting : Option ℕ

structure PubSubNet where
  publications : List Publication
  subscribers : List NetSubscriber
  connections : List NetConnection

/-- What a step of the subscription's own makes of the connection it is opening. -/
def NetSubscriber.settle (self : NetSubscriber) : Subscription.Label → Option NetSubscriber
  | .connect stream =>
    match connectPublisher self.subscription.header stream with
    | .ok _ => none
    | .error _ => some { self with connecting := none }
  | _ => some self

namespace PubSubNet

inductive Label : Type
  | pub (i : ℕ) (label : Publication.Label)
  | sub (j : ℕ) (label : Subscription.Label)
  | greet (i j : ℕ) (setNodelay : Except IoError Unit)
  | join (j : ℕ)
  | write (k : ℕ) (result : Except IoError Unit) (torn : ℕ)
  | read (k : ℕ)
  | readError (k : ℕ) (error : IoError)

/-- A step of a connection and its ends. -/
def stepConnection (self : PubSubNet) (k : ℕ) (label : PubSub.Label) : Option PubSubNet := do
  let c ← self.connections[k]?
  let p ← self.publications[c.publication]?
  let s ← self.subscribers[c.subscriber]?
  let t ← PubSub.step ⟨p, s.subscription, some c.link⟩ label
  let link ← t.link
  some {
    publications := self.publications.set c.publication t.publication
    subscribers := self.subscribers.set c.subscriber ⟨t.subscription,
      match label with
      | .join => none
      | _ => s.connecting⟩
    connections := self.connections.set k { c with link := link } }

def step (self : PubSubNet) : Label → Option PubSubNet
  | .pub i label =>
    if self.connections.any fun c => c.publication == i && c.link.drivesPublisher label then none
    else do
      let p ← self.publications[i]?
      let p ← p.step label
      some { self with publications := self.publications.set i p }
  | .sub j label =>
    if self.connections.any fun c => c.subscriber == j && c.link.drivesSubscriber label then none
    else do
      let s ← self.subscribers[j]?
      let settled ← s.settle label
      let subscription ← s.subscription.step label
      some { self with
        subscribers := self.subscribers.set j { settled with subscription := subscription } }
  | .greet i j setNodelay => do
    let p ← self.publications[i]?
    let s ← self.subscribers[j]?
    match s.connecting with
    | none => do
      let t ← PubSub.step ⟨p, s.subscription, none⟩ (.greet setNodelay)
      let link ← t.link
      some {
        publications := self.publications.set i t.publication
        subscribers := self.subscribers.set j { s with connecting := some self.connections.length }
        connections := self.connections ++ [⟨i, j, link⟩] }
    | some _ => none
  | .join j => do
    let s ← self.subscribers[j]?
    let k ← s.connecting
    self.stepConnection k .join
  | .write k result torn => self.stepConnection k (.write result torn)
  | .read k => self.stepConnection k .read
  | .readError k error => self.stepConnection k (.readError error)

def start (publications : List Publication) (subscriptions : List Subscription) : PubSubNet :=
  ⟨publications, subscriptions.map fun subscription => ⟨subscription, none⟩, []⟩

end PubSubNet

end RosrustAsync
