import RosrustAsync.PublisherSetInvariant

namespace RosrustAsync

open Actor Prog

namespace SubscriberNet

/-- The master answers with its current list, and every handshake with a publication that is up
under the address it was asked for succeeds. -/
def Answered (_m : SubscriberActorMsg) (far : FarEnd)
    (a : Act SubscriberActorState String SubscriberReply SubscriberCall) (w : SubscriberNet) :
    Prop :=
  match a with
  | .call (.registerSubscriber topicName topicType) => ∀ existing,
      far.answer (.registerSubscriber topicName topicType) = .ok existing →
      existing.toFinset = w.publishers topicName
  | .call (.parseUrl url) => (∃ topicName, w.publications (topicName, url) ≠ .closed) →
      far.answer (.parseUrl url) = .ok ()
  | .call (.requestTopic url callerId topicName protocols) =>
      match w.publications (topicName, url) with
      | .closed => True
      -- the publisher actor is not done yet, so that there is no answer
      | .registering => False
      | .up _ host port => ∃ protocol,
          far.answer (.requestTopic url callerId topicName protocols) =
            .ok (some (protocol, host, port))
  | .call (.addPublisher dataTx url channelAddr) => ∀ c opening host port,
      w.connections[dataTx]? = some c →
      w.publications (c.subscription.topic.name, url) = .up opening host port →
      channelAddr = host ++ ":" ++ toString port →
      far.opening = opening ∧ (connectPublisher c.subscription.header far.stream).isOk
  | _ => True

/-- A publisher that is skipped, since its address is in the set, has nothing left to connect to. -/
def SkipsCurrent (m : SubscriberActorMsg) (_far : FarEnd)
    (a : Act SubscriberActorState String SubscriberReply SubscriberCall) (w : SubscriberNet) :
    Prop :=
  match a with
  | .call (.publisherAddrs dataTx) => ∀ topicName publishers,
      m = .updateConnectedPublishers topicName publishers →
      ∀ url ∈ publishers, url ∈ w.publisherAddrs dataTx → w.Current topicName dataTx url
  | .call (.addPublisher dataTx url _) => url ∈ w.publisherAddrs dataTx →
      ∀ c, w.connections[dataTx]? = some c → w.Current c.subscription.topic.name dataTx url
  | _ => True

def Meets (m : SubscriberActorMsg) (far : FarEnd)
    (a : Act SubscriberActorState String SubscriberReply SubscriberCall) (w : SubscriberNet) :
    Prop :=
  Answered m far a w ∧ SkipsCurrent m far a w

/-- The subscriptions in the registry, by topic. -/
def registered (state : SubscriberActorState) (topicName : String) : Option ℕ :=
  (state.subscriptions.lookup topicName).map fun entry => entry.2.dataTx

def Named (state : SubscriberActorState) : Prop :=
  ∀ topicName entry, state.subscriptions.lookup topicName = some entry →
    entry.2.topic.name = topicName

structure At (state : SubscriberActorState) (view : String → Option ℕ) (topicName : String)
    (todo : List String) (w : SubscriberNet) : Prop where
  state_eq : w.actor.state = state
  complete : Complete view topicName todo w

def Idle (w : SubscriberNet) : Prop :=
  Complete (registered w.actor.state) "" [] w ∧ Named w.actor.state

variable {ε α : Type} {m : SubscriberActorMsg} {state : SubscriberActorState}
  {view view' : String → Option ℕ} {topicName url : String} {todo : List String} {d : ℕ}
  {P : SubscriberNet → Prop} {T : Except ε α → SubscriberNet → Prop} {w w' : SubscriberNet}

theorem At.idle (h : At state (registered state) topicName [] w) (hnamed : Named state) :
    Idle w := by
  rw [Idle, h.state_eq]
  exact ⟨h.complete.start "" [], hnamed⟩

theorem stable_at : Stable (process.others Connected) (At state view topicName todo) := by
  rintro w w' hw ⟨l, hl, he⟩
  obtain ⟨hcomplete, hstate⟩ := hw.complete.outside hl he
  exact ⟨hstate.trans hw.state_eq, hcomplete⟩

theorem stable_idle : Stable (process.others Connected) Idle := by
  rintro w w' ⟨hcomplete, hnamed⟩ ⟨l, hl, he⟩
  obtain ⟨hcomplete', hstate⟩ := hcomplete.outside hl he
  rw [Idle, hstate]
  exact ⟨hcomplete', hnamed⟩

abbrev Does (m : SubscriberActorMsg) (P : SubscriberNet → Prop) (p : SubscriberProgram ε α)
    (T : Except ε α → SubscriberNet → Prop) : Prop :=
  Triple (process.effect Meets m) (process.others Connected) P p.run T

theorem effect_iff {a : Act SubscriberActorState String SubscriberReply SubscriberCall}
    {r : Act.Res SubscriberCall.Ans a} : process.effect Meets m a w r w' ↔
      ∃ far, Meets m far a w ∧ w.exec m far a = some (r, w') := .rfl

theorem serve_actor (w : SubscriberNet) (far : FarEnd) (c : SubscriberCall) :
    (w.serve far c).actor = w.actor := by
  cases c with
  | registerSubscriber topicName topicType | unregisterSubscriber topicName =>
    simp only [serve]
    split <;> rfl
  | addPublisher dataTx url channelAddr =>
    simp only [serve, addPublisher]
    split <;> rfl
  | _ => rfl

theorem exec_call (w : SubscriberNet) (far : FarEnd) (c : SubscriberCall) :
    w.exec m far (.call c) = some (w.answers far c, w.serve far c) := by
  have hserve : { w.serve far c with actor := w.actor } = w.serve far c := by
    have hactor := serve_actor w far c
    generalize w.serve far c = served at hactor
    rw [← hactor]
  exact congrArg (fun served => some (w.answers far c, served)) hserve

theorem does_call {c : SubscriberCall} {f : SubscriberCall.Ans c → SubscriberProgram ε α}
    (hp : Stable (process.others Connected) P)
    (h : ∀ w far, P w → Meets m far (.call c) w → ∃ Q : SubscriberNet → Prop,
      Q (w.serve far c) ∧ Does m Q (f (w.answers far c)) T) :
    Does m P (call c >>= f) T := by
  refine .bind_perform hp fun w r w' hw he => ?_
  obtain ⟨far, hmeets, hx⟩ := effect_iff.mp he
  rw [exec_call] at hx
  cases hx
  obtain ⟨Q, hq, hf⟩ := h w far hw hmeets
  exact hf _ hq

/-- An action that neither calls nor opens a channel nor changes the state. -/
def Quiet (a : Act SubscriberActorState String SubscriberReply SubscriberCall) : Prop :=
  match a with
  | .set _ | .channel _ | .call _ => False
  | _ => True

theorem reply_keeps (port : ℕ) (value : SubscriberReply)
    (actor : World SubscriberActorState String SubscriberActorMsg) :
    (reply SubscriberActor.behaviour m port value actor).2.state = actor.state ∧
      (reply SubscriberActor.behaviour m port value actor).2.channels = actor.channels ∧
      (reply SubscriberActor.behaviour m port value actor).2.mailbox = actor.mailbox := by
  unfold reply
  split
  · simp only
    split
    · rw [World.release, World.settle_eq]
      exact ⟨rfl, rfl, rfl⟩
    · exact ⟨rfl, rfl, rfl⟩
  · simp only
    split <;> exact ⟨rfl, rfl, rfl⟩

theorem exec_quiet {a : Act SubscriberActorState String SubscriberReply SubscriberCall}
    {far : FarEnd} {r : Act.Res SubscriberCall.Ans a} (ha : Quiet a)
    (hx : w.exec m far a = some (r, w')) :
    ∃ actor, w' = { w with actor } ∧ actor.state = w.actor.state ∧
      actor.channels = w.actor.channels ∧ actor.mailbox = w.actor.mailbox := by
  obtain ⟨⟨r', actor⟩, hactor, hx⟩ := Option.bind_eq_some_iff.mp hx
  cases hx
  cases a with
  | set state' | channel capacity | call c => exact ha.elim
  | upgrade g =>
    simp only [Actor.exec] at hactor
    split at hactor <;> cases hactor <;> exact ⟨_, rfl, rfl, rfl, rfl⟩
  | release g =>
    cases hactor
    refine ⟨_, rfl, ?_⟩
    rw [World.release, World.settle_eq]
    exact ⟨rfl, rfl, rfl⟩
  | send port value =>
    have hreply : (reply SubscriberActor.behaviour m port value w.actor).2 = actor :=
      congrArg Prod.snd (Option.some.inj hactor)
    refine ⟨actor, rfl, ?_⟩
    rw [← hreply]
    exact reply_keeps port value w.actor
  | get | disarm g | newGuard key =>
    cases hactor
    exact ⟨_, rfl, rfl, rfl, rfl⟩

theorem Complete.actor (h : Complete view topicName todo w)
    {actor : World SubscriberActorState String SubscriberActorMsg}
    (hchannels : actor.channels = w.actor.channels) (hmail : actor.mailbox = w.actor.mailbox) :
    Complete view topicName todo { w with actor } := by
  refine ⟨?_, h.subscribed, h.has, fun t d url hd htodo => ?_⟩
  · rw [hchannels]
    exact h.numbered
  · refine (h.current t d url hd htodo).step (fun hm ho => .inr ⟨hm, ho⟩) (fun _ _ _ hp _ => hp) ?_
      fun opening host port c _ hc hrun => ⟨c, hc, hrun⟩
    intro ha
    exact ha.mono (by rw [hmail]; exact List.Subset.refl _) (List.Subset.refl _)

theorem At.quiet {a : Act SubscriberActorState String SubscriberReply SubscriberCall} {far : FarEnd}
    {r : Act.Res SubscriberCall.Ans a} (h : At state view topicName todo w) (ha : Quiet a)
    (hx : w.exec m far a = some (r, w')) : At state view topicName todo w' := by
  obtain ⟨actor, rfl, hstate, hchannels, hmail⟩ := exec_quiet ha hx
  exact ⟨hstate.trans h.state_eq, h.complete.actor hchannels hmail⟩

theorem does_quiet {a : Act SubscriberActorState String SubscriberReply SubscriberCall}
    {f : Act.Res SubscriberCall.Ans a → SubscriberProgram ε α} (ha : Quiet a)
    (h : ∀ r, Does m (At state view topicName todo) (f r) T) :
    Does m (At state view topicName todo) (ExceptT.lift (Prog.perform a) >>= f) T := by
  refine .bind_perform stable_at fun w r w' hw he => ?_
  obtain ⟨far, -, hx⟩ := effect_iff.mp he
  exact h r w' (hw.quiet ha hx)

theorem does_getState {f : SubscriberActorState → SubscriberProgram ε α}
    (h : Does m (At state view topicName todo) (f state) T) :
    Does m (At state view topicName todo) (getState >>= f) T := by
  refine .bind_perform stable_at fun w r w' hw he => ?_
  obtain ⟨far, -, hx⟩ := effect_iff.mp he
  cases hx
  rw [hw.state_eq]
  exact h w hw

theorem does_modifyState {g : SubscriberActorState → SubscriberActorState}
    {f : Unit → SubscriberProgram ε α}
    (h : Does m (At (g state) view topicName todo) (f ()) T) :
    Does m (At state view topicName todo) (modifyState g >>= f) T := by
  refine does_getState (.bind_perform stable_at fun w r w' hw he => ?_)
  obtain ⟨far, -, hx⟩ := effect_iff.mp he
  cases hx
  exact h _ ⟨rfl, hw.complete.actor rfl rfl⟩

theorem does_ofExcept (x : Except ε α) : Does m (At state view topicName todo)
    (ofExcept x : SubscriberProgram ε α)
    (Outcome (fun _ => At state view topicName todo) fun _ => At state view topicName todo) := by
  cases x <;> exact .ret stable_at fun w hw => hw

theorem does_ok {β δ : Type} {a : β} {g : δ → ε} {f : β → SubscriberProgram ε α}
    (h : Does m P (f a) T) :
    Does m P ((ofExcept (Except.mapError g (.ok a)) : SubscriberProgram ε β) >>= f) T := h

/-! The handlers. -/

/-- The publisher has been asked for its channel: what it answered still holds, or there is nothing
to be connected to. -/
def Asked (state : SubscriberActorState) (view : String → Option ℕ) (topicName url : String)
    (todo : List String) (channelAddr : Option String) (w : SubscriberNet) : Prop :=
  At state view topicName todo w ∨ At state view topicName (url :: todo) w ∧
    ∃ opening host port, w.publications (topicName, url) = .up opening host port ∧
      channelAddr = some (host ++ ":" ++ toString port)

theorem At.closed (h : At state view topicName (url :: todo) w)
    (hclosed : w.publications (topicName, url) = .closed) : At state view topicName todo w :=
  ⟨h.state_eq, h.complete.done fun _ _ _ ho => absurd hclosed ho⟩

theorem stable_asked {channelAddr : Option String} :
    Stable (process.others Connected) (Asked state view topicName url todo channelAddr) := by
  rintro w w' (hw | ⟨hw, opening, host, port, hpub, haddr⟩) ⟨l, hl, he⟩
  · exact .inl (stable_at w w' hw ⟨l, hl, he⟩)
  · have hw' := stable_at w w' hw ⟨l, hl, he⟩
    rcases outside_cases he with hr | ⟨_, _, _, _, _, _, _, _, rfl⟩
    · by_cases hclosed : w'.publications (topicName, url) = .closed
      · exact .inl (hw'.closed hclosed)
      · exact .inr ⟨hw', opening, host, port, hr.up _ _ _ _ _ hpub hclosed, haddr⟩
    · exact .inr ⟨hw', opening, host, port, hpub, haddr⟩

theorem does_getPublisherChannel (callerId : String) :
    Does m (At state view topicName (url :: todo))
      (SubscriberActor.getPublisherChannel callerId topicName url)
      (Outcome (Asked state view topicName url todo) fun _ => At state view topicName todo) := by
  refine does_call stable_at fun w far hw hmeets => ?_
  cases hparse : far.answer (.parseUrl url) with
  | error e =>
    refine ⟨At state view topicName todo, hw.closed ?_, ?_⟩
    · by_contra hopen
      have hok : far.answer (.parseUrl url) = .ok () := hmeets.1 ⟨topicName, hopen⟩
      rw [hparse] at hok
      cases hok
    · simp only [answers, hparse]
      exact .ret stable_at fun w hw => hw
  | ok u =>
    refine ⟨At state view topicName (url :: todo), hw, ?_⟩
    simp only [answers, hparse]
    refine does_call stable_at fun w far hw hmeets => ?_
    have hanswer := hmeets.1
    simp only [Answered] at hanswer
    cases hpub : w.publications (topicName, url) with
    | registering =>
      rw [hpub] at hanswer
      exact hanswer.elim
    | closed =>
      refine ⟨At state view topicName todo, hw.closed hpub, ?_⟩
      simp only [answers]
      cases far.answer (.requestTopic url callerId topicName [["TCPROS"]]) with
      | error e => exact .ret stable_at fun w hw => hw
      | ok info => exact .ret stable_at fun w hw => .inl hw
    | up opening host port =>
      rw [hpub] at hanswer
      obtain ⟨protocol, hanswer⟩ := hanswer
      refine ⟨Asked state view topicName url todo (some (host ++ ":" ++ toString port)),
        .inr ⟨hw, opening, host, port, hpub, rfl⟩, ?_⟩
      simp only [answers, hanswer]
      exact .ret stable_asked fun w hw => hw

theorem does_addPublisherToSubscription (callerId : String) {subscription : RegisteredSubscription}
    (hview : view topicName = some subscription.dataTx) :
    Does m (At state view topicName (url :: todo))
      (SubscriberActor.addPublisherToSubscription callerId topicName url subscription)
      fun _ => At state view topicName todo := by
  refine .bind_except (does_getPublisherChannel callerId) (fun channelAddr => ?_) fun _ _ he => he
  cases channelAddr with
  | none =>
    refine .ret stable_asked ?_
    rintro w (hw | ⟨-, opening, host, port, -, haddr⟩)
    · exact hw
    · cases haddr
  | some channelAddr =>
    refine does_call stable_asked fun w far hw hmeets => ?_
    refine ⟨At state view topicName todo, ?_, ?_⟩
    · rcases hw with hw | ⟨hw, opening, host, port, hpub, haddr⟩
      · exact ⟨(congrArg World.state (serve_actor ..)).trans hw.state_eq,
          hw.complete.addPublisher far⟩
      · cases haddr
        refine ⟨(congrArg World.state (serve_actor ..)).trans hw.state_eq,
          hw.complete.added hview hpub (fun c hmem hc => hmeets.2 hmem c hc) fun c hc => ?_⟩
        obtain ⟨c', hc', hsound⟩ := hw.complete.has topicName _ hview
        rw [hc] at hc'
        cases hc'
        refine hmeets.1 c opening host port hc ?_ rfl
        rw [hsound.topic_eq]
        exact hpub
    · simp only [answers]
      cases (w.addPublisher subscription.dataTx url far).1 <;> exact .ret stable_at fun w hw => hw

theorem does_addPublishers (subscription : RegisteredSubscription) {δ : Type}
    (hview : view topicName = some subscription.dataTx) (publishers : List String) :
    Does (ε := δ) m (At state view topicName publishers)
      (SubscriberActor.addPublishers topicName subscription publishers)
      (Outcome (fun _ => At state view topicName []) fun _ _ => False) := by
  induction publishers with
  | nil => exact .ret stable_at fun w hw => hw
  | cons publisher publishers ih =>
    refine .bind_except (does_getState ?_) (fun _ => ih) fun _ _ he => he
    exact .bind_except (.attempt (does_addPublisherToSubscription _ hview))
      (fun _ => .ret stable_at fun w hw => hw) fun _ _ he => he

theorem registered_erase {t : String} (ht : registered { state with
    subscriptions := state.subscriptions.erase topicName } t = some d) :
    t ≠ topicName ∧ registered state t = some d := by
  simp only [registered] at ht ⊢
  by_cases htopic : t = topicName
  · subst htopic
    rw [AList.lookup_erase] at ht
    cases ht
  · rw [AList.lookup_erase_ne htopic] at ht
    exact ⟨htopic, ht⟩

theorem registered_insert (state : SubscriberActorState) (topicName : String) (guard : ℕ)
    (subscription : RegisteredSubscription) : registered { state with
      subscriptions := state.subscriptions.insert topicName (guard, subscription) } =
      Function.update (registered state) topicName (some subscription.dataTx) := by
  funext t
  by_cases htopic : t = topicName
  · subst htopic
    simp [registered]
  · simp [registered, htopic, AList.lookup_insert_ne htopic]

theorem At.isRegistered (h : At state view topicName todo w) {t : String}
    (ht : registered state t = some d) : w.isRegistered d := by
  obtain ⟨entry, hlookup, rfl⟩ := Option.map_eq_some_iff.mp ht
  rw [isRegistered, h.state_eq, List.any_eq_true]
  exact ⟨⟨t, entry⟩, AList.mem_lookup_iff.mp hlookup, beq_self_eq_true _⟩

theorem Named.erase (h : Named state) : Named { state with
    subscriptions := state.subscriptions.erase topicName } := by
  intro t entry hlookup
  by_cases htopic : t = topicName
  · subst htopic
    rw [AList.lookup_erase] at hlookup
    cases hlookup
  · rw [AList.lookup_erase_ne htopic] at hlookup
    exact h t entry hlookup

theorem Named.insert (h : Named state) (guard : ℕ) (subscription : RegisteredSubscription) :
    Named { state with subscriptions :=
      state.subscriptions.insert subscription.topic.name (guard, subscription) } := by
  intro t entry hlookup
  by_cases htopic : t = subscription.topic.name
  · subst htopic
    rw [AList.lookup_insert] at hlookup
    cases hlookup
    rfl
  · rw [AList.lookup_insert_ne htopic] at hlookup
    exact h t entry hlookup

theorem stable_has : Stable (process.others Connected)
    fun w => At state view topicName todo w ∧ w.Has topicName d := by
  rintro w w' ⟨hw, hd⟩ ⟨l, hl, he⟩
  exact ⟨stable_at w w' hw ⟨l, hl, he⟩, hd.outside he⟩

theorem does_cleanupSubscription {guard : ℕ} {subscription : RegisteredSubscription}
    (hview : ∀ t d, view t = some d → registered state t = some d)
    (hnone : view subscription.topic.name = none) :
    Does m (At state view topicName todo)
      (SubscriberActor.cleanupSubscription guard subscription)
      fun _ => At state view topicName todo := by
  have hcall : Does (ε := SubscriberActorError) m (At state view topicName todo) (do
      let _ ← ofExcept ((← call (SubscriberCall.unregisterSubscriber
        subscription.topic.name)).mapError .masterClient))
      fun _ => At state view topicName todo := by
    refine does_call stable_at fun w far hw _ => ⟨At state view topicName todo, ?_, ?_⟩
    · have hdrop := hw.complete.dropUnregistered fun t d hd => hw.isRegistered (hview t d hd)
      refine ⟨(congrArg World.state (serve_actor ..)).trans hw.state_eq, ?_⟩
      simp only [serve]
      split
      · exact hdrop.unsubscribe hnone
      · exact hdrop
    · exact .bind_except (does_ofExcept _) (fun _ => .ret stable_at fun w hw => hw) fun _ _ he => he
  refine does_quiet (a := .upgrade guard) trivial fun upgraded => ?_
  cases upgraded with
  | true =>
    exact does_quiet (a := .disarm guard) trivial fun _ =>
      does_quiet (a := .release guard) trivial fun _ => hcall
  | false => exact hcall

theorem At.erased (h : At { state with subscriptions := state.subscriptions.erase topicName }
    (registered state) topicName todo w) :
    At { state with subscriptions := state.subscriptions.erase topicName } (registered { state with
      subscriptions := state.subscriptions.erase topicName }) topicName todo w :=
  ⟨h.state_eq, h.complete.mono fun _ _ hd => (registered_erase hd).2⟩

theorem does_cleanupErased {guard : ℕ} {subscription : RegisteredSubscription}
    (hname : subscription.topic.name = topicName) :
    Does m (At { state with subscriptions := state.subscriptions.erase topicName }
        (registered { state with subscriptions := state.subscriptions.erase topicName })
        topicName todo) (SubscriberActor.cleanupSubscription guard subscription)
      fun _ => At { state with subscriptions := state.subscriptions.erase topicName }
        (registered { state with subscriptions := state.subscriptions.erase topicName })
        topicName todo := by
  refine does_cleanupSubscription (fun t d hd => hd) ?_
  rw [hname, registered, AList.lookup_erase]
  rfl

section Register

variable {topic : Topic} {callerId : String} {queueSize : ℕ} {tcpNodelay : Bool} {port : ℕ}

theorem new_sound {subscription : Subscription}
    (h : Subscription.new topic callerId queueSize tcpNodelay = some subscription) :
    Connections.Sound ⟨subscription, []⟩ topic.name := by
  have hone := Subscription.new_one_each h
  obtain ⟨data, -, h⟩ := Option.bind_eq_some_iff.mp h
  cases h
  exact ⟨rfl, rfl, hone, rfl⟩

theorem exec_channel {far : FarEnd} {r : ℕ}
    (hx : w.exec (.registerSubscriber topic callerId queueSize tcpNodelay port) far
      (.channel (some queueSize)) = some (r, w')) : ∃ subscription,
    Subscription.new topic callerId queueSize tcpNodelay = some subscription ∧
      r = w.actor.channels ∧ w' = { w with
        actor := { w.actor with channels := w.actor.channels + 1 }
        connections := w.connections ++ [⟨subscription, []⟩] } := by
  obtain ⟨⟨r', actor⟩, hactor, hx⟩ := Option.bind_eq_some_iff.mp hx
  cases hx
  simp only [Actor.exec] at hactor
  split at hactor
  · rename_i haccepts
    cases hactor
    obtain ⟨subscription, hnew⟩ : ∃ subscription,
        Subscription.new topic callerId queueSize tcpNodelay = some subscription := by
      simp only [accepts, Broadcast.channel] at haccepts
      simp only [Subscription.new, Broadcast.channel]
      split at haccepts
      · rename_i hq
        simp only [hq]
        exact ⟨_, rfl⟩
      · exact absurd rfl haccepts
    refine ⟨subscription, hnew, rfl, ?_⟩
    simp only [served, newSubscription, hnew]
  · cases hactor

theorem does_newSubscription :
    Does (.registerSubscriber topic callerId queueSize tcpNodelay port)
      (At state view topic.name todo)
      (SubscriberActor.newSubscription topic callerId queueSize tcpNodelay)
      (Outcome (fun r w => (At state view topic.name todo w ∧ w.Has topic.name r.1) ∧
        r.2 = ⟨topic, r.1⟩) fun _ => At state view topic.name todo) := by
  refine .bind_except (does_ofExcept _) (fun headerBytes => ?_) fun e w hw => hw
  refine .bind_perform stable_at fun w r w' hw he => ?_
  obtain ⟨far, -, hx⟩ := effect_iff.mp he
  obtain ⟨subscription, hnew, rfl, rfl⟩ := exec_channel hx
  refine Triple.ret stable_has (fun w hw => ⟨hw, rfl⟩) _ ⟨⟨hw.state_eq, ?_⟩, ?_⟩
  · exact hw.complete.newSubscription _
  · refine ⟨⟨subscription, []⟩, ?_, new_sound hnew⟩
    rw [← hw.complete.numbered]
    exact List.getElem?_concat_length

theorem does_createSubscription (hnamed : Named state) :
    Does (.registerSubscriber topic callerId queueSize tcpNodelay port)
      (At state (registered state) topic.name [])
      (SubscriberActor.createSubscription topic callerId queueSize tcpNodelay) fun _ => Idle := by
  have hnew : Does (.registerSubscriber topic callerId queueSize tcpNodelay port)
      (At state (registered state) topic.name [])
      (orThrow SubscriberActorError.subscription
        (SubscriberActor.newSubscription topic callerId queueSize tcpNodelay))
      (Outcome (fun r w => (At state (registered state) topic.name [] w ∧
        w.Has topic.name r.1) ∧ r.2 = ⟨topic, r.1⟩) fun _ => Idle) := by
    refine .orThrow (does_newSubscription.weaken (fun _ hw => hw) ?_)
    rintro (e | r) w hw
    · exact hw.idle hnamed
    · exact hw
  refine .bind_except hnew (fun r => ?_) fun e w hw => hw
  obtain ⟨d, subscription⟩ := r
  intro w hw
  obtain ⟨hw, hr⟩ := hw
  have hr : subscription = ⟨topic, d⟩ := hr
  subst hr
  refine does_call stable_has (fun w far hw hmeets => ?_) w hw
  obtain ⟨hw, hd⟩ := hw
  cases hanswer : far.answer (.registerSubscriber topic.name topic.spec.msgType) with
  | error e =>
    refine ⟨At state (registered state) topic.name [], ⟨?_, ?_⟩, ?_⟩
    · exact (congrArg World.state (serve_actor ..)).trans hw.state_eq
    · simp only [serve, hanswer]
      exact hw.complete.dropUnregistered fun t d hd => hw.isRegistered hd
    · simp only [answers, hanswer]
      exact .ret stable_at fun w hw => hw.idle hnamed
  | ok existing =>
    refine ⟨At state (Function.update (registered state) topic.name (some d)) topic.name existing,
      ⟨?_, ?_⟩, ?_⟩
    · exact (congrArg World.state (serve_actor ..)).trans hw.state_eq
    · simp only [serve, hanswer]
      exact hw.complete.subscribe hd (hmeets.1 existing hanswer)
    · simp only [answers, hanswer]
      refine does_ok (.bind_except
        (does_addPublishers ⟨topic, d⟩ (Function.update_self ..) existing) (fun _ => ?_)
        fun _ _ he => False.elim he)
      refine does_quiet (a := .newGuard topic.name) trivial fun guard => does_modifyState ?_
      refine .ret stable_at fun w hw => ?_
      have hnamed' : Named { state with
          subscriptions := state.subscriptions.insert topic.name (guard, ⟨topic, d⟩) } :=
        hnamed.insert guard ⟨topic, d⟩
      rw [← registered_insert state topic.name guard ⟨topic, d⟩] at hw
      exact hw.idle hnamed'

theorem does_registerSubscriber (hnamed : Named state) :
    Does (.registerSubscriber topic callerId queueSize tcpNodelay port)
      (At state (registered state) topic.name [])
      (SubscriberActor.registerSubscriber topic callerId queueSize tcpNodelay) fun _ => Idle := by
  apply does_getState
  cases hlookup : state.subscriptions.lookup topic.name with
  | some entry =>
    obtain ⟨guard, subscription⟩ := entry
    have hname : subscription.topic.name = topic.name := hnamed _ _ hlookup
    refine does_quiet (a := .upgrade guard) trivial fun upgraded => ?_
    cases upgraded with
    | true =>
      simp only [if_true]
      split
      · exact does_call stable_at fun w far hw _ => ⟨_, hw,
          .ret stable_at fun w hw => hw.idle hnamed⟩
      · exact does_quiet (a := .release guard) trivial fun _ =>
          .ret stable_at fun w hw => hw.idle hnamed
    | false =>
      simp only [Bool.false_eq_true, if_false]
      refine does_modifyState (Triple.weaken (.bind_except (.attempt (does_cleanupErased hname))
        (fun _ => ?_) fun _ _ he => he) (fun w hw => hw.erased) fun _ _ hw => hw)
      exact does_createSubscription hnamed.erase
  | none => exact does_createSubscription hnamed

end Register

theorem does_unregisterSubscriber (hnamed : Named state) :
    Does m (At state (registered state) topicName [])
      (SubscriberActor.unregisterSubscriber topicName) fun _ => Idle := by
  apply does_getState
  cases hlookup : state.subscriptions.lookup topicName with
  | some entry =>
    obtain ⟨guard, subscription⟩ := entry
    have hname : subscription.topic.name = topicName := hnamed _ _ hlookup
    refine does_modifyState ((does_cleanupErased hname).weaken (fun w hw => hw.erased) ?_)
    exact fun _ w hw => hw.idle hnamed.erase
  | none => exact .ret stable_at fun w hw => hw.idle hnamed

theorem does_updateConnectedPublishers {publishers : List String} (hnamed : Named state)
    {δ : Type} :
    Does (ε := δ) (.updateConnectedPublishers topicName publishers)
      (At state (registered state) topicName publishers)
      (SubscriberActor.updateConnectedPublishers topicName publishers)
      (Outcome (fun _ => Idle) fun _ _ => False) := by
  apply does_getState
  cases hlookup : state.subscriptions.lookup topicName with
  | some entry =>
    obtain ⟨guard, subscription⟩ := entry
    have hview : registered state topicName = some subscription.dataTx := by
      rw [registered, hlookup]
      rfl
    refine does_call stable_at fun w far hw hmeets => ?_
    refine ⟨At state (registered state) topicName
      (publishers.filter (· ∉ w.publisherAddrs subscription.dataTx)), ⟨hw.state_eq, ?_⟩, ?_⟩
    · refine hw.complete.skip fun d url hd hmem hskip => ?_
      rw [hview] at hd
      cases hd
      refine hmeets.2 topicName publishers rfl url hmem ?_
      by_contra haddr
      exact hskip (List.mem_filter.mpr ⟨hmem, by simpa using haddr⟩)
    · refine (does_addPublishers _ hview _).weaken (fun _ hw => hw) ?_
      rintro (e | u) w hw
      · exact hw
      · exact hw.idle hnamed
  | none =>
    refine .ret stable_at fun w hw => ?_
    have hcomplete : Complete (registered state) topicName [] w := by
      refine hw.complete.skip fun d url hd _ _ => ?_
      rw [registered, hlookup] at hd
      cases hd
    exact At.idle ⟨hw.state_eq, hcomplete⟩ hnamed

theorem does_send {port : ℕ} {value : SubscriberReply} :
    Does m Idle (send port value) (Outcome (fun _ => Idle) fun _ _ => True) := by
  refine .perform stable_idle (fun r w w' h hc => ?_) fun w r w' hw he => ?_
  · cases r with
    | ok u => exact stable_idle w w' h hc
    | error e => trivial
  · obtain ⟨far, -, hx⟩ := effect_iff.mp he
    obtain ⟨actor, rfl, hstate, hchannels, hmail⟩ := exec_quiet (a := .send port value) trivial hx
    cases r with
    | ok u =>
      refine ⟨?_, ?_⟩
      · rw [hstate]
        exact hw.1.actor hchannels hmail
      · rw [hstate]
        exact hw.2
    | error e => trivial

theorem does_reply {δ β : Type} {p : SubscriberProgram δ β} {port : ℕ}
    {value : Except δ β → SubscriberReply} (h : Does m P p fun _ => Idle) :
    Does m P (do send port (value (← attempt p))) (Outcome (fun _ => Idle) fun _ _ => True) :=
  .bind_except (.attempt h) (fun _ => does_send) fun _ _ he => he

theorem does_handle (hnamed : Named state)
    (hm : ∀ t publishers, m ≠ .updateConnectedPublishers t publishers) :
    Does m (fun w => ∀ t, At state (registered state) t [] w) (SubscriberActor.handle m)
      (Outcome (fun _ => Idle) fun _ _ => True) := by
  cases m with
  | getSubscriptions reply =>
    refine Triple.weaken (.bind_except ?_ (fun _ => does_send) fun _ _ he => he)
      (fun w hw => hw "") fun _ _ hw => hw
    exact does_getState (.ret stable_at fun w hw => hw.idle hnamed)
  | getConnectedPublisherUrls topicName reply =>
    refine Triple.weaken (.bind_except ?_ (fun _ => does_send) fun _ _ he => he)
      (fun w hw => hw "") fun _ _ hw => hw
    refine does_getState ?_
    split
    · exact does_call stable_at fun w far hw _ => ⟨_, hw, .ret stable_at fun w hw => hw.idle hnamed⟩
    · exact .ret stable_at fun w hw => hw.idle hnamed
  | registerSubscriber topic callerId queueSize tcpNodelay reply =>
    exact (does_reply (does_registerSubscriber hnamed)).weaken (fun w hw => hw _) fun _ _ hw => hw
  | unregisterSubscriber topicName reply =>
    exact (does_reply (does_unregisterSubscriber hnamed)).weaken (fun w hw => hw _) fun _ _ hw => hw
  | dropSubscriber topicName =>
    exact Triple.weaken (.bind_except (.attempt (does_unregisterSubscriber hnamed))
      (fun _ => .ret stable_idle fun w hw => hw) fun _ _ he => he) (fun w hw => hw _)
      fun _ _ hw => hw
  | updateConnectedPublishers topicName publishers => exact absurd rfl (hm topicName publishers)

theorem Idle.start (hw : Idle w)
    (hm : w.receive = some (m, w')) :
    (process.handle m).Safe (process.effect Meets m) (process.others Connected)
      (Outcome (fun _ => Idle) fun _ _ => True) w' := by
  obtain ⟨⟨m', actor⟩, hreceive, hm⟩ := Option.bind_eq_some_iff.mp hm
  obtain ⟨mailbox, hmail, rfl⟩ := receive_eq_some hreceive
  cases hm
  by_cases hupdate : ∃ t publishers, m = .updateConnectedPublishers t publishers
  · obtain ⟨t, publishers, rfl⟩ := hupdate
    refine (does_updateConnectedPublishers hw.2).weaken (fun _ hw => hw) (fun r w hw => ?_) _
      ⟨rfl, hw.1.receive hmail ?_⟩
    · cases r with
      | ok u => exact hw
      | error e => trivial
    · rintro t' publishers' h
      cases h
      exact ⟨rfl, rfl⟩
  · refine does_handle hw.2 (fun t publishers h => hupdate ⟨t, publishers, h⟩) _ fun t => ⟨rfl, ?_⟩
    exact hw.1.receive hmail fun t' publishers h => absurd ⟨t', publishers, h⟩ hupdate

end SubscriberNet

end RosrustAsync
