import Mathlib.Logic.Function.Basic
import RosrustAsync.Lib.Callers
import RosrustAsync.ParameterActor
import RosrustAsync.PublisherActor
import RosrustAsync.SubscriberActor

namespace RosrustAsync

open Actor

/-!
The publisher, subscriber and parameter actors of the nodes `N`, the handlers of the XML-RPC calls
that the nodes take, each a task of its own, the listeners of the publications, and the master: who
waits for whom. What a call is answered, and how the set up of a connection ends, is left open.
-/

inductive ActorKind : Type
  | publisher
  | subscriber
  | parameter
  deriving DecidableEq

structure ActorId (N : Type) where
  node : N
  kind : ActorKind
  deriving DecidableEq

/-- Who is asked in a call that an actor awaits. -/
inductive Remote : Type
  | master
  | slave
  | publication

def PublisherCall.remote : PublisherCall → Option Remote
  | .registerPublisher _ _ | .unregisterPublisher _ => some .master
  | .bind _ | .subscriberIds _ => none

def SubscriberCall.remote : SubscriberCall → Option Remote
  | .registerSubscriber _ _ | .unregisterSubscriber _ => some .master
  | .requestTopic _ _ _ _ => some .slave
  | .addPublisher _ _ _ => some .publication
  | .parseUrl _ | .publisherAddrs _ | .latchedMsgs _ => none

def ParameterCall.remote {V : Type} : ParameterCall V → Option Remote := fun _ => some .master

/-- How far an actor is with the remote call that comes next. -/
inductive Stage : ActorKind → Type
  | ready {kind : ActorKind} : Stage kind
  | master {kind : ActorKind} : Stage kind
  | response (handler : ℕ) : Stage .subscriber
  | writing (listener connection : ℕ) : Stage .subscriber
  | reading (listener connection : ℕ) : Stage .subscriber
  | answered {kind : ActorKind} : Stage kind

namespace Stage

variable {kind : ActorKind}

def isReady : Stage kind → Bool
  | .ready => true
  | _ => false

def isMaster : Stage kind → Bool
  | .master => true
  | _ => false

def isAnswered : Stage kind → Bool
  | .answered => true
  | _ => false

end Stage

/-- The XML-RPC methods that turn to an actor. -/
inductive Request (V : Type) : Type
  | getSubscriptions (callerId : String)
  | getPublications (callerId : String)
  | paramUpdate (callerId paramName : String) (newValue : V)
  | publisherUpdate (callerId topicName : String) (publishers : List String)
  | requestTopic (callerId topicName : String) (protocols : List (List String))

namespace Request

variable {V : Type}

def target : Request V → ActorKind
  | .getSubscriptions _ | .publisherUpdate _ _ _ => .subscriber
  | .getPublications _ | .requestTopic _ _ _ => .publisher
  | .paramUpdate _ _ _ => .parameter

/-- The master makes these; their handlers `cast!` where the others `call!`. -/
def isUpdate : Request V → Bool
  | .paramUpdate _ _ _ | .publisherUpdate _ _ _ => true
  | _ => false

end Request

inductive HandlerPc : Type
  | called
  | waiting
  | replied
  | done
  deriving DecidableEq

structure HandlerTask (N V : Type) where
  node : N
  request : Request V
  -- the actor whose call the master serves by this one, and answers only after it
  serving : Option (ActorId N)
  pc : HandlerPc

namespace HandlerTask

variable {N V : Type}

def actor (self : HandlerTask N V) : ActorId N := ⟨self.node, self.request.target⟩

def reply [DecidableEq N] (self : HandlerTask N V) (actor : ActorId N) : HandlerTask N V :=
  if self.pc = .waiting ∧ self.actor = actor then { self with pc := .replied } else self

end HandlerTask

structure Connection (N : Type) where
  node : N
  id : ℕ
  deriving DecidableEq

/-- A `listener_task`, with the connections and the attempts to connect that it has not accepted. -/
inductive ListenerTask (N : Type) : Type
  | select (backlog : List (Connection N))
  | setup (connection : Connection N) (backlog : List (Connection N))
  | stopped

namespace ListenerTask

variable {N : Type}

def backlog : ListenerTask N → List (Connection N)
  | .select backlog | .setup _ backlog => backlog
  | .stopped => []

def connect (self : ListenerTask N) (connection : Connection N) : Option (ListenerTask N) :=
  match self with
  | .select backlog => some (.select (backlog ++ [connection]))
  | .setup current backlog => some (.setup current (backlog ++ [connection]))
  | .stopped => none

variable [DecidableEq N]

def turnedTo (self : ListenerTask N) (connection : Connection N) : Bool :=
  match self with
  | .setup current _ => current = connection
  | _ => false

def holds (self : ListenerTask N) (connection : Connection N) : Bool :=
  self.turnedTo connection || connection ∈ self.backlog

end ListenerTask

/-! The message that stops an actor has the order in which it takes its entries out of its map. -/

abbrev PublisherMsg : Type := PublisherActorMsg ⊕ List (Σ _ : String, ℕ × RegisteredPublication)

abbrev SubscriberMsg : Type := SubscriberActorMsg ⊕ List (Σ _ : String, ℕ × RegisteredSubscription)

abbrev ParameterMsg (V : Type) : Type := ParameterActorMsg V ⊕ List String

def publisherBehaviour : Behaviour PublisherActorState String PublisherReply PublisherCall
    PublisherMsg PublisherCall.Ans :=
  PublisherActor.behaviour.stoppable PublisherActor.postStop

def subscriberBehaviour : Behaviour SubscriberActorState String SubscriberReply SubscriberCall
    SubscriberMsg SubscriberCall.Ans :=
  SubscriberActor.behaviour.stoppable SubscriberActor.postStop

def parameterBehaviour {V : Type} [DecidableEq V] (emptyStruct : V) :
    Behaviour (ParameterActorState V) Empty (ParameterReply V) (ParameterCall V) (ParameterMsg V)
      ParameterCall.Ans :=
  (ParameterActor.behaviour emptyStruct).stoppable ParameterActor.postStop

structure ControlPlane (N V : Type) where
  publishers : N → Config PublisherActorState String PublisherReply PublisherCall PublisherMsg
    PublisherCall.Ans
  subscribers : N → Config SubscriberActorState String SubscriberReply SubscriberCall SubscriberMsg
    SubscriberCall.Ans
  parameters : N → Config (ParameterActorState V) Empty (ParameterReply V) (ParameterCall V)
    (ParameterMsg V) ParameterCall.Ans
  stages : (actor : ActorId N) → Stage actor.kind
  handlers : List (HandlerTask N V)
  listeners : List (ListenerTask N)
  connections : ℕ

namespace ControlPlane

inductive ListenerBranch : Type
  | cancelled
  | accept
  | setup

abbrev ActorLabel (M O C : Type) (Ans : C → Type) : Type :=
  Process.Label (ClientLabel (M ⊕ O) ⊕ O) ((c : C) → Ans c)

inductive Label (N V : Type) : Type
  | publisher (n : N) (l : ActorLabel PublisherActorMsg
      (List (Σ _ : String, ℕ × RegisteredPublication)) PublisherCall PublisherCall.Ans)
  | subscriber (n : N) (l : ActorLabel SubscriberActorMsg
      (List (Σ _ : String, ℕ × RegisteredSubscription)) SubscriberCall SubscriberCall.Ans)
  | parameter (n : N) (l : ActorLabel (ParameterActorMsg V) (List String) (ParameterCall V)
      ParameterCall.Ans)
  | askMaster (actor : ActorId N)
  | requestTopic (n target : N)
  | connect (n : N) (l : ℕ)
  | refused (actor : ActorId N)
  | proceed (n : N)
  | handler (h : ℕ)
  | listener (l : ℕ) (branch : ListenerBranch)
  | serve (serving : Option (ActorId N)) (target : N) (request : Request V)
  | answer (actor : ActorId N)
  | call (target : N) (request : Request V)

variable {N V : Type}

def init (nodeName : N → String) : ControlPlane N V where
  publishers _ := ⟨.init ⟨∅⟩, .idle⟩
  subscribers n := ⟨.init ⟨nodeName n, ∅⟩, .idle⟩
  parameters _ := ⟨.init ⟨∅, ∅⟩, .idle⟩
  stages _ := .ready
  handlers := []
  listeners := []
  connections := 0

def asks {S K R C M : Type} {Ans : C → Type} (remote : C → Option Remote)
    (c : Config S K R C M Ans) : Option Remote :=
  match next c with
  | some (.call call) => remote call
  | _ => none

def asking (self : ControlPlane N V) (actor : ActorId N) : Option Remote :=
  match actor.kind with
  | .publisher => asks PublisherCall.remote (self.publishers actor.node)
  | .subscriber => asks SubscriberCall.remote (self.subscribers actor.node)
  | .parameter => asks ParameterCall.remote (self.parameters actor.node)

def stopped (self : ControlPlane N V) (actor : ActorId N) : Bool :=
  match actor.kind with
  | .publisher => isStopped (self.publishers actor.node)
  | .subscriber => isStopped (self.subscribers actor.node)
  | .parameter => isStopped (self.parameters actor.node)

/-- A remote call goes on once it is answered. -/
def permits {L I : Type} (self : ControlPlane N V) (actor : ActorId N) : Process.Label L I → Bool
  | .act _ => (self.asking actor).isNone || (self.stages actor).isAnswered
  | _ => true

def spawn (self : ControlPlane N V) (handler : HandlerTask N V) : ControlPlane N V :=
  { self with handlers := self.handlers ++ [handler] }

def setHandler (self : ControlPlane N V) (h : ℕ) (pc : HandlerPc) : ControlPlane N V :=
  { self with handlers := self.handlers.modify h fun handler => { handler with pc } }

def setListener (self : ControlPlane N V) (l : ℕ) (listener : ListenerTask N) : ControlPlane N V :=
  { self with listeners := self.listeners.set l listener }

def addListener (self : ControlPlane N V) : ControlPlane N V :=
  { self with listeners := self.listeners ++ [.select []] }

def holds [DecidableEq N] (self : ControlPlane N V) (l : ℕ) (connection : Connection N) : Bool :=
  self.listeners[l]?.any fun listener => listener.holds connection

section Steps

variable [DecidableEq N]

def setStage (self : ControlPlane N V) (actor : ActorId N) (stage : Stage actor.kind) :
    ControlPlane N V :=
  { self with stages := Function.update self.stages actor stage }

def setPublisher (self : ControlPlane N V) (n : N) (config : Config PublisherActorState String
    PublisherReply PublisherCall PublisherMsg PublisherCall.Ans) : ControlPlane N V :=
  { self with publishers := Function.update self.publishers n config }

def setSubscriber (self : ControlPlane N V) (n : N) (config : Config SubscriberActorState String
    SubscriberReply SubscriberCall SubscriberMsg SubscriberCall.Ans) : ControlPlane N V :=
  { self with subscribers := Function.update self.subscribers n config }

def setParameter (self : ControlPlane N V) (n : N) (config : Config (ParameterActorState V) Empty
    (ParameterReply V) (ParameterCall V) (ParameterMsg V) ParameterCall.Ans) : ControlPlane N V :=
  { self with parameters := Function.update self.parameters n config }

def replyAt (self : ControlPlane N V) (port : ℕ) (actor : ActorId N) : ControlPlane N V :=
  { self with handlers := self.handlers.modify port fun handler => handler.reply actor }

/-- What an action of an actor is to the others: the handler of the call that it answers is at its
port, and a publication with its channel has a listener. -/
def acted {S K R C : Type} (self : ControlPlane N V) (actor : ActorId N) :
    Option (Act S K R C) → ControlPlane N V
  | some (.send port _) => (self.replyAt port actor).setStage actor .ready
  | some (.channel capacity) =>
    (if actor.kind = .publisher ∧ accepts capacity then self.addListener else self).setStage actor
      .ready
  | some _ => self.setStage actor .ready
  | none => self

def tellActor (self : ControlPlane N V) (h : ℕ) (n : N) : Request V → ControlPlane N V
  | .getSubscriptions _ =>
    self.setSubscriber n (tell (.inl (.getSubscriptions h)) (self.subscribers n))
  | .getPublications _ => self.setPublisher n (tell (.inl (.getPublications h)) (self.publishers n))
  | .paramUpdate _ paramName newValue =>
    self.setParameter n (tell (.inl (.updateCachedParam paramName newValue)) (self.parameters n))
  | .publisherUpdate _ topicName publishers =>
    self.setSubscriber n
      (tell (.inl (.updateConnectedPublishers topicName publishers)) (self.subscribers n))
  | .requestTopic _ topicName _ =>
    self.setPublisher n (tell (.inl (.getPublisherAddress topicName h)) (self.publishers n))

def handle (self : ControlPlane N V) (h : ℕ) : Option (ControlPlane N V) := do
  let handler ← self.handlers[h]?
  match handler.pc with
  | .called =>
    if self.stopped handler.actor then some (self.setHandler h .done)
    else some ((self.tellActor h handler.node handler.request).setHandler h
      (if handler.request.isUpdate then .done else .waiting))
  | .waiting => if self.stopped handler.actor then some (self.setHandler h .done) else none
  | .replied => some (self.setHandler h .done)
  | .done => none

/-- The rest of a call of a subscriber actor. -/
def proceed (self : ControlPlane N V) (n : N) : Option (ControlPlane N V) :=
  match self.stages ⟨n, .subscriber⟩ with
  | .response h =>
    if self.handlers[h]?.any fun handler => handler.pc ≠ .done then none
    else some (self.setStage ⟨n, .subscriber⟩ .answered)
  | .writing l c => some (self.setStage ⟨n, .subscriber⟩ (.reading l c))
  | .reading l c =>
    if self.holds l ⟨n, c⟩ then none else some (self.setStage ⟨n, .subscriber⟩ .answered)
  | _ => none

def isWriting (self : ControlPlane N V) (l : ℕ) (connection : Connection N) : Bool :=
  match self.stages ⟨connection.node, .subscriber⟩ with
  | .writing l' c => l' = l ∧ c = connection.id
  | _ => false

def listen (self : ControlPlane N V) (l : ℕ) (branch : ListenerBranch) :
    Option (ControlPlane N V) := do
  match branch, ← self.listeners[l]? with
  | .cancelled, .select _ => some (self.setListener l .stopped)
  | .accept, .select (connection :: backlog) =>
    some (self.setListener l (.setup connection backlog))
  | .setup, .setup connection backlog =>
    -- `setup_connection` reads all of the header before it does anything else
    if self.isWriting l connection then none else some (self.setListener l (.select backlog))
  | _, _ => none

variable [DecidableEq V] (emptyStruct : V)

def step (self : ControlPlane N V) : Label N V → Option (ControlPlane N V)
  | .publisher n l =>
    if self.permits ⟨n, .publisher⟩ l then do
      let config ← (stoppableProcess publisherBehaviour).step (self.publishers n) l
      some ((self.setPublisher n config).acted ⟨n, .publisher⟩ (performed (self.publishers n) l))
    else none
  | .subscriber n l =>
    if self.permits ⟨n, .subscriber⟩ l then do
      let config ← (stoppableProcess subscriberBehaviour).step (self.subscribers n) l
      some ((self.setSubscriber n config).acted ⟨n, .subscriber⟩ (performed (self.subscribers n) l))
    else none
  | .parameter n l =>
    if self.permits ⟨n, .parameter⟩ l then do
      let config ← (stoppableProcess (parameterBehaviour emptyStruct)).step (self.parameters n) l
      some ((self.setParameter n config).acted ⟨n, .parameter⟩ (performed (self.parameters n) l))
    else none
  | .askMaster actor =>
    match self.asking actor with
    | some .master => if (self.stages actor).isReady then some (self.setStage actor .master) else none
    | _ => none
  | .requestTopic n target =>
    match next (self.subscribers n) with
    | some (.call (.requestTopic _ callerId topicName protocols)) =>
      if (self.stages ⟨n, .subscriber⟩).isReady then
        some ((self.spawn ⟨target, .requestTopic callerId topicName protocols, none, .called⟩).setStage
          ⟨n, .subscriber⟩ (.response self.handlers.length))
      else none
    | _ => none
  | .connect n l =>
    match self.asking ⟨n, .subscriber⟩ with
    | some .publication =>
      if (self.stages ⟨n, .subscriber⟩).isReady then do
        let listener ← (← self.listeners[l]?).connect ⟨n, self.connections⟩
        some { (self.setListener l listener).setStage ⟨n, .subscriber⟩ (.writing l self.connections)
          with connections := self.connections + 1 }
      else none
    | _ => none
  | .refused actor =>
    -- nobody can be reached, or the publisher has been added already
    if (self.asking actor).isSome ∧ (self.stages actor).isReady then
      some (self.setStage actor .answered)
    else none
  | .proceed n => self.proceed n
  | .handler h => self.handle h
  | .listener l branch => self.listen l branch
  | .serve serving target request =>
    if request.isUpdate ∧ ∀ actor ∈ serving, (self.stages actor).isMaster then
      some (self.spawn ⟨target, request, serving, .called⟩)
    else none
  | .answer actor =>
    if (self.stages actor).isMaster ∧
        ∀ handler ∈ self.handlers, handler.serving = some actor → handler.pc = .done then
      some (self.setStage actor .answered)
    else none
  | .call target request => some (self.spawn ⟨target, request, none, .called⟩)

end Steps

inductive Party (N : Type) : Type
  | actor (actor : ActorId N)
  | handler (h : ℕ)
  | listener (l : ℕ)
  | master

/-- Who takes the step, if it is one of the parties. -/
def Label.party : Label N V → Option (Party N)
  | .publisher _ (.outside _) | .subscriber _ (.outside _) | .parameter _ (.outside _) => none
  | .publisher n _ => some (.actor ⟨n, .publisher⟩)
  | .subscriber n _ | .requestTopic n _ | .connect n _ | .proceed n =>
    some (.actor ⟨n, .subscriber⟩)
  | .parameter n _ => some (.actor ⟨n, .parameter⟩)
  | .askMaster actor | .refused actor => some (.actor actor)
  | .handler h => some (.handler h)
  | .listener l _ => some (.listener l)
  | .serve _ _ _ | .answer _ => some .master
  | .call _ _ => none

inductive WaitsFor [DecidableEq N] (net : ControlPlane N V) : Party N → Party N → Prop
  | master {actor : ActorId N} : net.stages actor = .master → WaitsFor net (.actor actor) .master
  | response {n : N} {h : ℕ} {handler : HandlerTask N V} :
      net.stages ⟨n, .subscriber⟩ = .response h → net.handlers[h]? = some handler →
      handler.pc ≠ .done → WaitsFor net (.actor ⟨n, .subscriber⟩) (.handler h)
  -- the socket may take the rest of the header only as the listener reads it
  | writing {n : N} {l c : ℕ} {listener : ListenerTask N} :
      net.stages ⟨n, .subscriber⟩ = .writing l c → net.listeners[l]? = some listener →
      ⟨n, c⟩ ∈ listener.backlog → listener.turnedTo ⟨n, c⟩ = false →
      WaitsFor net (.actor ⟨n, .subscriber⟩) (.listener l)
  | reading {n : N} {l c : ℕ} {listener : ListenerTask N} :
      net.stages ⟨n, .subscriber⟩ = .reading l c → net.listeners[l]? = some listener →
      listener.holds ⟨n, c⟩ → WaitsFor net (.actor ⟨n, .subscriber⟩) (.listener l)
  | reply {h : ℕ} {handler : HandlerTask N V} : net.handlers[h]? = some handler →
      handler.pc = .waiting → net.stopped handler.actor = false →
      WaitsFor net (.handler h) (.actor handler.actor)
  | header {l : ℕ} {connection : Connection N} {backlog : List (Connection N)} :
      net.listeners[l]? = some (.setup connection backlog) → net.isWriting l connection →
      WaitsFor net (.listener l) (.actor ⟨connection.node, .subscriber⟩)
  | update {h : ℕ} {handler : HandlerTask N V} : net.handlers[h]? = some handler →
      handler.serving.isSome → handler.pc ≠ .done → WaitsFor net .master (.handler h)

end ControlPlane

end RosrustAsync
