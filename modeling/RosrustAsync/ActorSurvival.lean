import RosrustAsync.ParameterActor
import RosrustAsync.PublisherActor
import RosrustAsync.ServiceActor
import RosrustAsync.SubscriberActor

namespace RosrustAsync

open Actor Process Prog Runs

namespace Actor

variable {S K V C M : Type} {Ans : C → Type} {B : Behaviour S K V C M Ans} {ε : Type}

/-- The channel that the actor is about to create has a capacity that is not refused, and the caller
that it is about to answer is still there. -/
def Survivable (_m : M) (_answer : (c : C) → Ans c) (a : Act S K V C) (w : World S K M) : Prop :=
  match a with
  | .channel capacity => accepts capacity
  | .send port _ => port ∉ w.closed
  | _ => True

def Anything (_w : World S K M) (_l : ClientLabel M) : Prop := True

/-- No error leaves `p`, whatever its calls answer and whatever the clients do. -/
def Infallible (B : Behaviour S K V C M Ans) (m : M) (p : Program S K V C Ans ε α) : Prop :=
  Triple ((process B).effect Survivable m) ((process B).others Anything) (fun _ => True) p.run
    (Outcome (fun _ _ => True) fun _ _ => False)

variable {m : M} {α β : Type}

theorem infallible_lift (p : Prog (Act S K V C) (Act.Res Ans) α) :
    Infallible (ε := ε) B m (ExceptT.lift p) := .lift (.trivial p)

theorem infallible_pure (a : α) : Infallible (ε := ε) B m (pure a) :=
  .ret (fun _ _ _ _ => trivial) fun _ _ => trivial

theorem infallible_bind {p : Program S K V C Ans ε α} {f : α → Program S K V C Ans ε β}
    (h : Infallible B m p) (hf : ∀ a, Infallible B m (f a)) : Infallible B m (p >>= f) :=
  .bind_except h hf fun _ _ he => he

theorem infallible_attempt {δ : Type} (p : Program S K V C Ans δ α) :
    Infallible (ε := ε) B m (attempt p) := .attempt (.trivial _)

theorem infallible_send (port : ℕ) (value : V) : Infallible B m (send port value) := by
  refine .perform (fun _ _ _ _ => trivial) (fun r w w' h _ => ?_) fun w r w' _ he => ?_
  · cases r <;> exact h
  · obtain ⟨answer, hopen, hx⟩ := effect_iff.mp he
    have hopen : port ∉ w.closed := hopen
    simp only [exec, reply, if_neg hopen] at hx
    cases hx
    trivial

theorem survives (hB : ∀ m, Infallible B m (B.handle m)) {s : S} {labels : List (Label C M Ans)}
    {c : Config S K V C M Ans}
    (h : Run (process B).step (Ok Anything Survivable) ⟨.init s, .idle⟩ labels c) :
    c.pc ≠ .stopped := by
  have hlive : (process B).Live Anything Survivable (fun _ => True) (fun _ => False) c := by
    refine h.invariant (fun c l c' hc hl he => live_step (fun _ _ _ _ => trivial)
      (fun _ _ hf _ => hf) (fun m answer a w hmeets => ?_) (fun w m w' _ _ => hB m _ trivial)
      hc hl he) trivial
    refine exec_ne_none fun capacity ha => ?_
    subst ha
    exact hmeets
  intro hstop
  simp only [Live, hstop] at hlive

end Actor

theorem PublisherActor.infallible_handle (m : PublisherActorMsg) :
    Infallible PublisherActor.behaviour m (PublisherActor.handle m) := by
  cases m with
  | getPublications reply | getPublisherAddress topicName reply =>
    exact infallible_bind (infallible_bind (infallible_lift _) fun _ => infallible_pure _)
      fun _ => infallible_send _ _
  | getConnectedSubscriberIds topicName reply =>
    refine infallible_bind (infallible_bind (infallible_lift _) fun state => ?_)
      fun _ => infallible_send _ _
    split
    · exact infallible_bind (infallible_lift _) fun _ => infallible_pure _
    · exact infallible_pure _
  | registerPublisher topic address callerId queueSize latching tcpNodelay reply =>
    exact infallible_bind (infallible_attempt _) fun _ => infallible_send _ _
  | unregisterPublisher topicName reply =>
    exact infallible_bind (infallible_attempt _) fun _ => infallible_send _ _
  | dropPublisher topicName =>
    exact infallible_bind (infallible_attempt _) fun _ => infallible_pure _

theorem SubscriberActor.infallible_addPublishers (m : SubscriberActorMsg) (topicName : String)
    (subscription : RegisteredSubscription) (publishers : List String) :
    Infallible (ε := MessagingErr) SubscriberActor.behaviour m
      (addPublishers topicName subscription publishers) := by
  induction publishers with
  | nil => exact infallible_pure _
  | cons publisher publishers ih =>
    exact infallible_bind (infallible_bind (infallible_lift _) fun _ =>
      infallible_bind (infallible_attempt _) fun _ => infallible_pure _) fun _ => ih

theorem SubscriberActor.infallible_handle (m : SubscriberActorMsg) :
    Infallible SubscriberActor.behaviour m (SubscriberActor.handle m) := by
  cases m with
  | getSubscriptions reply =>
    exact infallible_bind (infallible_bind (infallible_lift _) fun _ => infallible_pure _)
      fun _ => infallible_send _ _
  | getConnectedPublisherUrls topicName reply =>
    refine infallible_bind (infallible_bind (infallible_lift _) fun state => ?_)
      fun _ => infallible_send _ _
    split
    · exact infallible_bind (infallible_lift _) fun _ => infallible_pure _
    · exact infallible_pure _
  | registerSubscriber topic callerId queueSize tcpNodelay reply =>
    exact infallible_bind (infallible_attempt _) fun _ => infallible_send _ _
  | unregisterSubscriber topicName reply =>
    exact infallible_bind (infallible_attempt _) fun _ => infallible_send _ _
  | dropSubscriber topicName =>
    exact infallible_bind (infallible_attempt _) fun _ => infallible_pure _
  | updateConnectedPublishers topicName publishers =>
    apply infallible_bind (infallible_lift _)
    intro state
    split
    · exact infallible_bind (infallible_lift _) fun _ =>
        SubscriberActor.infallible_addPublishers _ _ _ _
    · exact infallible_pure _

theorem ServiceActor.infallible_handle (m : ServiceActorMsg) :
    Infallible ServiceActor.behaviour m (ServiceActor.handle m) := by
  cases m with
  | registerClient service callerId persistent reply =>
    exact infallible_bind (infallible_attempt _) fun _ => infallible_send _ _
  | dropClient serviceName =>
    exact infallible_bind (infallible_lift _) fun _ => infallible_lift _
  | getServices reply =>
    exact infallible_bind (infallible_bind (infallible_lift _) fun _ => infallible_pure _)
      fun _ => infallible_send _ _
  | registerService service address callerId reply =>
    exact infallible_bind (infallible_attempt _) fun _ => infallible_send _ _
  | dropService serviceName =>
    exact infallible_bind (infallible_attempt _) fun _ => infallible_pure _

theorem ParameterActor.infallible_handle {V : Type} [DecidableEq V] (emptyStruct : V)
    (m : ParameterActorMsg V) :
    Infallible (ParameterActor.behaviour emptyStruct) m (ParameterActor.handle emptyStruct m) := by
  cases m with
  | updateCachedParam name value =>
    exact infallible_bind (infallible_attempt _) fun _ => infallible_pure _
  | _ => exact infallible_bind (infallible_attempt _) fun _ => infallible_send _ _

theorem actors_survive {V : Type} [DecidableEq V] (emptyStruct : V) (nodeName : String) :
    (∀ labels c, Run (process PublisherActor.behaviour).step (Ok Anything Survivable)
      PublisherActor.init labels c → c.pc ≠ .stopped) ∧
    (∀ labels c, Run (process SubscriberActor.behaviour).step (Ok Anything Survivable)
      (SubscriberActor.init nodeName) labels c → c.pc ≠ .stopped) ∧
    (∀ labels c, Run (process ServiceActor.behaviour).step (Ok Anything Survivable)
      ServiceActor.init labels c → c.pc ≠ .stopped) ∧
    ∀ labels c, Run (process (ParameterActor.behaviour emptyStruct)).step (Ok Anything Survivable)
      ParameterActor.init labels c → c.pc ≠ .stopped :=
  ⟨fun _ _ => survives PublisherActor.infallible_handle,
    fun _ _ => survives SubscriberActor.infallible_handle,
    fun _ _ => survives ServiceActor.infallible_handle,
    fun _ _ => survives (ParameterActor.infallible_handle emptyStruct)⟩

def PublisherActor.answers : (c : PublisherCall) → PublisherCall.Ans c
  | .bind address => .ok address
  | .subscriberIds _ => ∅
  | .registerPublisher _ _ => .ok []
  | .unregisterPublisher _ => .ok 1

def SubscriberActor.answers : (c : SubscriberCall) → SubscriberCall.Ans c
  | .registerSubscriber _ _ => .ok []
  | .unregisterSubscriber _ => .ok 1
  | .parseUrl _ => .ok ()
  | .requestTopic _ _ _ _ => .ok none
  | .addPublisher _ _ _ => .ok ()
  | .publisherAddrs _ => ∅
  | .latchedMsgs _ => []

def ServiceActor.answers : (c : ServiceCall) → ServiceCall.Ans c
  | .bind address => .ok address
  | .url _ => .ok "rosrpc://0.0.0.0:0"
  | .registerService _ _ => .ok ()
  | .unregisterService _ _ => .ok 1

def ParameterActor.answers {V : Type} (value : V) : (c : ParameterCall V) → ParameterCall.Ans c
  | .getParam _ | .subscribeParam _ => .ok value
  | .setParam _ _ | .deleteParam _ => .ok 0
  | .unsubscribeParam _ => .ok 1
  | .searchParam name => .ok name
  | .hasParam _ => .ok true
  | .getParamNames => .ok []

theorem actors_survive_one_message :
    (∃ labels c, Run (process PublisherActor.behaviour).step (Ok Anything Survivable)
      PublisherActor.init labels c ∧ c.world.handles = [("/a", 0)] ∧ c.pc ≠ .stopped) ∧
    (∃ labels c, Run (process SubscriberActor.behaviour).step (Ok Anything Survivable)
      (SubscriberActor.init "/node") labels c ∧ c.world.handles = [("/a", 0)] ∧
        c.pc ≠ .stopped) ∧
    (∃ labels c, Run (process ServiceActor.behaviour).step (Ok Anything Survivable)
      ServiceActor.init labels c ∧ c.world.handles = [(.client "/a", 0)] ∧ c.pc ≠ .stopped) ∧
    ∃ labels c, Run (process (ParameterActor.behaviour (0 : ℕ))).step (Ok Anything Survivable)
      ParameterActor.init labels c ∧ c.pc ≠ .stopped := by
  obtain ⟨hpub, hsub, hsrv, hpar⟩ := actors_survive (0 : ℕ) "/node"
  have hopen : 0 ∉ (∅ : Finset ℕ) := Finset.notMem_empty 0
  have haccepts : accepts (some 4) := by decide
  refine ⟨?_, ?_, ?_, ?_⟩
  · obtain ⟨c, hrun, hc⟩ : ∃ c, Run (process PublisherActor.behaviour).step (Ok Anything Survivable)
        PublisherActor.init
        ([.outside (.enqueue (.registerPublisher ⟨"/a", ⟨"*", "*", ""⟩⟩ (.v4 0) "" 4 false false 0)),
          .start] ++ .replicate 8 (.act PublisherActor.answers) ++ [.finish]) c ∧
        c.world.handles = [("/a", 0)] := by
      refine ⟨_, .cons trivial rfl <| .cons trivial rfl <| .cons trivial rfl <| .cons trivial rfl <|
        .cons haccepts rfl <| .cons trivial rfl <| .cons trivial rfl <| .cons trivial rfl <|
        .cons trivial rfl <| .cons hopen rfl <| .cons trivial rfl <| .nil _, ?_⟩
      rfl
    exact ⟨_, c, hrun, hc, hpub _ _ hrun⟩
  · obtain ⟨c, hrun, hc⟩ : ∃ c, Run (process SubscriberActor.behaviour).step (Ok Anything Survivable)
        (SubscriberActor.init "/node")
        ([.outside (.enqueue (.registerSubscriber ⟨"/a", ⟨"*", "*", ""⟩⟩ "" 4 false 0)), .start] ++
          .replicate 7 (.act SubscriberActor.answers) ++ [.finish]) c ∧
        c.world.handles = [("/a", 0)] := by
      refine ⟨_, .cons trivial rfl <| .cons trivial rfl <| .cons trivial rfl <| .cons haccepts rfl <|
        .cons trivial rfl <| .cons trivial rfl <| .cons trivial rfl <| .cons trivial rfl <|
        .cons hopen rfl <| .cons trivial rfl <| .nil _, ?_⟩
      rfl
    exact ⟨_, c, hrun, hc, hsub _ _ hrun⟩
  · obtain ⟨c, hrun, hc⟩ : ∃ c, Run (process ServiceActor.behaviour).step (Ok Anything Survivable)
        ServiceActor.init
        ([.outside (.enqueue (.registerClient ⟨"/a", ⟨"*", "*"⟩⟩ "" true 0)), .start] ++
          .replicate 6 (.act ServiceActor.answers) ++ [.finish]) c ∧
        c.world.handles = [(.client "/a", 0)] :=
      ⟨_, .cons trivial rfl <| .cons trivial rfl <| .cons trivial rfl <| .cons trivial rfl <|
        .cons trivial rfl <| .cons trivial rfl <| .cons trivial rfl <| .cons hopen rfl <|
        .cons trivial rfl <| .nil _, rfl⟩
    exact ⟨_, c, hrun, hc, hsrv _ _ hrun⟩
  · obtain ⟨c, hrun⟩ : ∃ c, Run (process (ParameterActor.behaviour (0 : ℕ))).step
        (Ok Anything Survivable) ParameterActor.init [.outside (.enqueue (.getParam "/a" 0)), .start,
          .act (ParameterActor.answers 1), .act (ParameterActor.answers 1), .finish] c :=
      ⟨_, .cons trivial rfl <| .cons trivial rfl <| .cons trivial rfl <| .cons hopen rfl <|
        .cons trivial rfl <| .nil _⟩
    exact ⟨_, c, hrun, hpar _ _ hrun⟩

theorem actor_stopped :
    (∃ c, Run (process PublisherActor.behaviour).step (fun _ _ => True) PublisherActor.init
      [.outside (.enqueue (.registerPublisher ⟨"/a", ⟨"*", "*", ""⟩⟩ (.v4 0) "" 0 false false 0)),
        .start, .act PublisherActor.answers, .act PublisherActor.answers,
        .act PublisherActor.answers] c ∧ c.pc = .stopped) ∧
    ∃ c, Run (process PublisherActor.behaviour).step (fun _ _ => True) PublisherActor.init
      [.outside (.enqueue (.getPublications 0)), .outside (.abandon 0), .start,
        .act PublisherActor.answers, .act PublisherActor.answers, .finish] c ∧ c.pc = .stopped :=
  ⟨⟨_, run_of_exec rfl fun _ _ _ => trivial, rfl⟩, ⟨_, run_of_exec rfl fun _ _ _ => trivial, rfl⟩⟩

end RosrustAsync
