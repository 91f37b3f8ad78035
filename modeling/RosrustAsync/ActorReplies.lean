import RosrustAsync.ActorSurvival
import RosrustAsync.Lib.Emissions

namespace RosrustAsync

open Actor Process Prog Runs

namespace Actor

variable {S K V C M : Type} {Ans : C → Type} {ε : Type}

/-- The port that an action answers. -/
def sentTo : Act S K V C → Option ℕ
  | .send port _ => some port
  | _ => none

section Actions

variable {α : Type}

theorem replyless_getState : Mute sentTo (getState : Program S K V C Ans ε S) := .perform rfl

theorem replyless_modifyState (f : S → S) :
    Mute sentTo (modifyState f : Program S K V C Ans ε Unit) :=
  .bind replyless_getState fun _ => .perform rfl

theorem replyless_upgrade (guard : ℕ) : Mute sentTo (upgrade guard : Program S K V C Ans ε Bool) :=
  .perform rfl

theorem replyless_disarm (guard : ℕ) : Mute sentTo (disarm guard : Program S K V C Ans ε Unit) :=
  .perform rfl

theorem replyless_release (guard : ℕ) : Mute sentTo (release guard : Program S K V C Ans ε Unit) :=
  .perform rfl

theorem replyless_newGuard (key : K) : Mute sentTo (newGuard key : Program S K V C Ans ε ℕ) :=
  .perform rfl

theorem replyless_channel (capacity : Option ℕ) :
    Mute sentTo (channel capacity : Program S K V C Ans ε ℕ) := .perform rfl

theorem replyless_call (c : C) : Mute sentTo (call c : Program S K V C Ans ε (Ans c)) := .perform rfl

theorem replyless_disarmIfUpgraded (guard : ℕ) {rest : Program S K V C Ans ε α}
    (h : Mute sentTo rest) : Mute sentTo (do
      if ← upgrade guard then
        disarm guard
        release guard
      rest : Program S K V C Ans ε α) := by
  refine .bind (replyless_upgrade guard) fun upgraded => ?_
  cases upgraded
  · exact h
  · exact .bind (replyless_disarm guard) fun _ => .bind (replyless_release guard) fun _ => h

end Actions

variable {B : Behaviour S K V C M Ans}

theorem emits_send (port : ℕ) (value : V) :
    (send port value : Program S K V C Ans MessagingErr Unit).run.Emits sentTo (fun _ => True)
      [port] := ⟨[], rfl, fun _ => ⟨rfl, trivial⟩⟩

theorem emits_reply {α : Type} {p : Program S K V C Ans ε α} (h : Mute sentTo p) (port : ℕ)
    (value : Except ε α → V) : (do send port (value (← attempt p)) :
      Program S K V C Ans MessagingErr Unit).run.Emits sentTo (fun _ => True) [port] := by
  refine Mute.emits (Q := fun r => r.isOk) ?_ (fun _ h => h) fun _ => emits_send port _
  exact Emits.bind (l := []) h fun _ _ => ⟨rfl, rfl⟩

theorem queued : (process B).Queued World.mailbox where
  outside w l w' h := by
    cases l with
    | enqueue m =>
      cases h
      exact List.prefix_append _ _
    | clone i =>
      obtain ⟨handle, -, h⟩ := Option.bind_eq_some_iff.mp h
      split at h <;> cases h
      exact List.prefix_refl _
    | dropHandle i =>
      obtain ⟨handle, -, h⟩ := Option.bind_eq_some_iff.mp h
      cases h
      rw [World.settle_eq]
    | guardDrop i =>
      obtain ⟨g, -, h⟩ := Option.bind_eq_some_iff.mp h
      obtain ⟨key, -, h⟩ := Option.bind_eq_some_iff.mp h
      cases h
      simp only
      split
      · exact List.prefix_refl _
      · exact List.prefix_append _ _
    | abandon port =>
      cases h
      exact List.prefix_refl _
  receive w m w' h := by
    obtain ⟨mailbox, hm, rfl⟩ := receive_eq_some h
    exact hm
  exec m answer a w r w' h := by
    have hrelease (g : ℕ) : (w.release g).mailbox = w.mailbox := by
      rw [World.release, World.settle_eq]
    cases a with
    | upgrade g | channel g =>
      simp only [process, exec] at h
      split at h <;> cases h <;> rfl
    | release g =>
      cases h
      exact hrelease g
    | send port value =>
      have hw : (reply B m port value w).2 = w' := congrArg Prod.snd (Option.some.inj h)
      rw [← hw, reply]
      split <;> split <;> first | rfl | exact hrelease _
    | _ =>
      cases h
      rfl

/-- The requests among the messages that came in, one after the other, have each been answered on
their own port, all but perhaps the last one that was taken; the others still wait. -/
structure Served (port : M → Option ℕ) (c : Config S K V C M Ans) (account : Account M ℕ) : Prop where
  arrived : account.arrived = account.taken ++ c.world.mailbox
  answered : ∃ owed : Option ℕ, account.emitted ++ owed.toList = account.taken.filterMap port
  idle : c.pc = .idle → account.emitted = account.taken.filterMap port

theorem served {port : M → Option ℕ} {s : S}
    (hB : ∀ m, (B.handle m).run.Emits sentTo (fun _ => True) (port m).toList)
    {labels : List (Label C M Ans)} {c : Config S K V C M Ans} {account : Account M ℕ}
    (hrun : Run ((process B).accountedStep sentTo World.mailbox) (fun _ _ => True)
      (⟨.init s, .idle⟩, ⟨[], [], []⟩) labels (c, account)) : Served port c account := by
  have harrived : account.arrived = account.taken ++ c.world.mailbox :=
    hrun.invariant (I := fun x => x.2.arrived = x.2.taken ++ x.1.world.mailbox)
      (fun _ _ _ h _ hs => step_queue queued h hs) rfl
  have hanswered : Answered sentTo port c account := by
    refine hrun.invariant (I := fun x => Answered sentTo port x.1 x.2)
      (fun _ _ _ h _ hs => step_answered hB h hs) ?_
    exact rfl
  refine ⟨harrived, hanswered.owed, fun hidle => ?_⟩
  simpa only [Answered, hidle] using hanswered

end Actor

namespace PublisherActor

variable {ε : Type}

theorem replyless_newPublication (address : SocketAddr) (topic : Topic) (callerId : String)
    (queueSize : ℕ) (tcpNodelay latching : Bool) :
    Mute sentTo (newPublication address topic callerId queueSize tcpNodelay latching) :=
  .bind (replyless_call _) fun _ => .bind (.ofExcept _) fun _ => .bind (.ofExcept _) fun _ =>
    .bind (replyless_channel _) fun _ => .pure _

theorem replyless_cleanupPublication (guard : ℕ) (publication : RegisteredPublication) :
    Mute sentTo (cleanupPublication guard publication) :=
  replyless_disarmIfUpgraded guard <| .bind (replyless_call _) fun _ => .bind (.ofExcept _) fun _ => .pure _

theorem replyless_createPublication (topic : Topic) (address : IpAddr) (callerId : String)
    (queueSize : ℕ) (latching tcpNodelay : Bool) :
    Mute sentTo (createPublication topic address callerId queueSize latching tcpNodelay) :=
  .bind (.orThrow (replyless_newPublication ..)) fun _ => .bind (replyless_call _) fun _ =>
    .bind (.ofExcept _) fun _ => .bind (replyless_newGuard _) fun _ =>
      .bind (replyless_modifyState _) fun _ => .pure _

theorem replyless_registerPublisher (topic : Topic) (address : IpAddr) (callerId : String)
    (queueSize : ℕ) (latching tcpNodelay : Bool) :
    Mute sentTo (registerPublisher topic address callerId queueSize latching tcpNodelay) := by
  refine .bind replyless_getState fun state => ?_
  split
  · refine .bind (replyless_upgrade _) fun upgraded => ?_
    split
    · split
      · exact .pure _
      · exact .bind (replyless_release _) fun _ => .throw _
    · exact .bind (replyless_modifyState _) fun _ =>
        .bind (.attempt (replyless_cleanupPublication _ _)) fun _ => replyless_createPublication ..
  · exact replyless_createPublication ..

theorem replyless_unregisterPublisher (topicName : String) :
    Mute sentTo (unregisterPublisher topicName) := by
  refine .bind replyless_getState fun state => ?_
  split
  · exact .bind (replyless_modifyState _) fun _ => replyless_cleanupPublication _ _
  · exact .pure _

def replyPort : PublisherActorMsg → Option ℕ
  | .getPublications reply | .getPublisherAddress _ reply | .getConnectedSubscriberIds _ reply
  | .registerPublisher _ _ _ _ _ _ reply | .unregisterPublisher _ reply => some reply
  | .dropPublisher _ => none

theorem emits_handle (m : PublisherActorMsg) :
    (PublisherActor.handle m).run.Emits sentTo (fun _ => True) (replyPort m).toList := by
  cases m with
  | getPublications reply | getPublisherAddress topicName reply =>
    exact ⟨_, rfl, fun _ => emits_send reply _⟩
  | getConnectedSubscriberIds topicName reply =>
    refine ⟨_, rfl, fun state => ?_⟩
    simp only [Function.comp, Prog.bind, ExceptT.bindCont]
    split
    · exact ⟨_, rfl, fun _ => emits_send reply _⟩
    · exact emits_send reply _
  | registerPublisher topic address callerId queueSize latching tcpNodelay reply =>
    exact emits_reply (replyless_registerPublisher ..) reply _
  | unregisterPublisher topicName reply =>
    exact emits_reply (replyless_unregisterPublisher topicName) reply _
  | dropPublisher topicName =>
    exact Mute.bind (.attempt (replyless_unregisterPublisher topicName)) fun _ => .pure _

end PublisherActor

namespace SubscriberActor

variable {ε : Type}

theorem replyless_newSubscription (topic : Topic) (callerId : String) (queueSize : ℕ)
    (tcpNodelay : Bool) : Mute sentTo (newSubscription topic callerId queueSize tcpNodelay) :=
  .bind (.ofExcept _) fun _ => .bind (replyless_channel _) fun _ => .pure _

theorem replyless_cleanupSubscription (guard : ℕ) (subscription : RegisteredSubscription) :
    Mute sentTo (cleanupSubscription guard subscription) :=
  replyless_disarmIfUpgraded guard <| .bind (replyless_call _) fun _ => .bind (.ofExcept _) fun _ => .pure _

theorem replyless_addPublisherToSubscription (callerId topicName publisherAddr : String)
    (subscription : RegisteredSubscription) :
    Mute sentTo (addPublisherToSubscription callerId topicName publisherAddr subscription) := by
  have hchannel : Mute sentTo (getPublisherChannel callerId topicName publisherAddr) :=
    .bind (replyless_call _) fun _ => .bind (.ofExcept _) fun _ => .bind (replyless_call _) fun _ =>
      .bind (.ofExcept _) fun _ => .pure _
  refine .bind hchannel fun channel => ?_
  split
  · exact .bind (replyless_call _) fun _ => .ofExcept _
  · exact .pure _

theorem replyless_addPublishers (topicName : String) (subscription : RegisteredSubscription)
    (publishers : List String) :
    Mute sentTo (addPublishers (ε := ε) topicName subscription publishers) :=
  .forM fun _ => .bind replyless_getState fun _ =>
    .bind (.attempt (replyless_addPublisherToSubscription ..)) fun _ => .pure _

theorem replyless_createSubscription (topic : Topic) (callerId : String) (queueSize : ℕ)
    (tcpNodelay : Bool) : Mute sentTo (createSubscription topic callerId queueSize tcpNodelay) :=
  .bind (.orThrow (replyless_newSubscription ..)) fun _ => .bind (replyless_call _) fun _ =>
    .bind (.ofExcept _) fun _ => .bind (replyless_addPublishers ..) fun _ =>
      .bind (replyless_newGuard _) fun _ => .bind (replyless_modifyState _) fun _ => .pure _

theorem replyless_registerSubscriber (topic : Topic) (callerId : String) (queueSize : ℕ)
    (tcpNodelay : Bool) : Mute sentTo (registerSubscriber topic callerId queueSize tcpNodelay) := by
  refine .bind replyless_getState fun state => ?_
  split
  · refine .bind (replyless_upgrade _) fun upgraded => ?_
    split
    · split
      · exact .bind (replyless_call _) fun _ => .pure _
      · exact .bind (replyless_release _) fun _ => .throw _
    · exact .bind (replyless_modifyState _) fun _ =>
        .bind (.attempt (replyless_cleanupSubscription _ _)) fun _ => replyless_createSubscription ..
  · exact replyless_createSubscription ..

theorem replyless_unregisterSubscriber (topicName : String) :
    Mute sentTo (unregisterSubscriber topicName) := by
  refine .bind replyless_getState fun state => ?_
  split
  · exact .bind (replyless_modifyState _) fun _ => replyless_cleanupSubscription _ _
  · exact .pure _

theorem replyless_updateConnectedPublishers (topicName : String) (publishers : List String) :
    Mute sentTo (updateConnectedPublishers (ε := ε) topicName publishers) := by
  refine .bind replyless_getState fun state => ?_
  split
  · exact .bind (replyless_call _) fun _ => replyless_addPublishers ..
  · exact .pure _

def replyPort : SubscriberActorMsg → Option ℕ
  | .getSubscriptions reply | .getConnectedPublisherUrls _ reply
  | .registerSubscriber _ _ _ _ reply | .unregisterSubscriber _ reply => some reply
  | .dropSubscriber _ | .updateConnectedPublishers _ _ => none

theorem emits_handle (m : SubscriberActorMsg) :
    (SubscriberActor.handle m).run.Emits sentTo (fun _ => True) (replyPort m).toList := by
  cases m with
  | getSubscriptions reply => exact ⟨_, rfl, fun _ => emits_send reply _⟩
  | getConnectedPublisherUrls topicName reply =>
    refine ⟨_, rfl, fun state => ?_⟩
    simp only [Function.comp, Prog.bind, ExceptT.bindCont]
    split
    · exact ⟨_, rfl, fun _ => emits_send reply _⟩
    · exact emits_send reply _
  | registerSubscriber topic callerId queueSize tcpNodelay reply =>
    exact emits_reply (replyless_registerSubscriber ..) reply _
  | unregisterSubscriber topicName reply =>
    exact emits_reply (replyless_unregisterSubscriber topicName) reply _
  | dropSubscriber topicName =>
    exact Mute.bind (.attempt (replyless_unregisterSubscriber topicName)) fun _ => .pure _
  | updateConnectedPublishers topicName publishers =>
    exact replyless_updateConnectedPublishers topicName publishers

end SubscriberActor

namespace ServiceActor

theorem replyless_newClientLink (service : Service) (callerId : String) (persistent : Bool) :
    Mute sentTo (newClientLink service callerId persistent) :=
  .bind (replyless_channel _) fun _ => .bind (.ofExcept _) fun _ => .bind (.ofExcept _) fun _ => .pure _

theorem replyless_newProvider (address : SocketAddr) (service : Service) (callerId : String) :
    Mute sentTo (newProvider address service callerId) :=
  .bind (replyless_call _) fun _ => .bind (.ofExcept _) fun _ => .bind (replyless_call _) fun _ =>
    .bind (.ofExcept _) fun _ => .bind (.ofExcept _) fun _ => .bind (.ofExcept _) fun _ => .pure _

theorem replyless_createClient (service : Service) (callerId : String) (persistent : Bool) :
    Mute sentTo (createClient service callerId persistent) :=
  .bind (.orThrow (replyless_newClientLink ..)) fun _ => .bind (replyless_newGuard _) fun _ =>
    .bind (replyless_modifyState _) fun _ => .pure _

theorem replyless_registerClient (service : Service) (callerId : String) (persistent : Bool) :
    Mute sentTo (registerClient service callerId persistent) := by
  refine .bind replyless_getState fun state => ?_
  split
  · refine .bind (replyless_upgrade _) fun upgraded => ?_
    split
    · split
      · exact .pure _
      · exact .bind (replyless_release _) fun _ => .throw _
    · exact .bind (replyless_modifyState _) fun _ => replyless_createClient ..
  · exact replyless_createClient ..

theorem replyless_createService (service : Service) (address : IpAddr) (callerId : String) :
    Mute sentTo (createService service address callerId) := by
  refine .bind (.orThrow (replyless_newProvider ..)) fun srv => .bind (replyless_newGuard _) fun guard =>
    .bind (replyless_call _) fun registered => ?_
  split
  · exact .bind (replyless_modifyState _) fun _ => .pure _
  · exact .bind (replyless_release _) fun _ => .throw _

theorem replyless_registerService (service : Service) (address : IpAddr) (callerId : String) :
    Mute sentTo (registerService service address callerId) := by
  refine .bind replyless_getState fun state => ?_
  split
  · refine .bind (replyless_upgrade _) fun upgraded => ?_
    split
    · split
      · exact .pure _
      · exact .bind (replyless_release _) fun _ => .throw _
    · exact .bind (replyless_modifyState _) fun _ => replyless_createService ..
  · exact replyless_createService ..

theorem replyless_unregisterService (serviceName : String) :
    Mute sentTo (unregisterService serviceName) := by
  refine .bind replyless_getState fun state => ?_
  split
  · exact .bind (replyless_modifyState _) fun _ => replyless_disarmIfUpgraded _ <|
      .bind (replyless_call _) fun _ => .bind (.ofExcept _) fun _ => .pure _
  · exact .pure _

def replyPort : ServiceActorMsg → Option ℕ
  | .registerClient _ _ _ reply | .getServices reply | .registerService _ _ _ reply => some reply
  | .dropClient _ | .dropService _ => none

theorem emits_handle (m : ServiceActorMsg) :
    (ServiceActor.handle m).run.Emits sentTo (fun _ => True) (replyPort m).toList := by
  cases m with
  | registerClient service callerId persistent reply =>
    exact emits_reply (replyless_registerClient ..) reply _
  | dropClient serviceName => exact replyless_modifyState _
  | getServices reply => exact ⟨_, rfl, fun _ => emits_send reply _⟩
  | registerService service address callerId reply =>
    exact emits_reply (replyless_registerService ..) reply _
  | dropService serviceName =>
    exact Mute.bind (.attempt (replyless_unregisterService serviceName)) fun _ => .pure _

end ServiceActor

namespace ParameterActor

variable {V : Type}

/-- A call to the master and nothing else. -/
theorem replyless_calling {α : Type} (c : ParameterCall V)
    (f : c.Ans → Except ParameterActorError α) :
    Mute sentTo (do ofExcept (f (← call c)) : ParameterProgram V ParameterActorError α) :=
  .bind (replyless_call c) fun _ => .ofExcept _

theorem replyless_getCachedParam (name : String) :
    Mute sentTo (getCachedParam name : ParameterProgram V ParameterActorError (Option V)) := by
  have hcached : Mute sentTo
      (cachedOrFetched name : ParameterProgram V ParameterActorError (Option V)) := by
    refine .bind replyless_getState fun state => ?_
    split
    · exact .pure _
    · refine .bind (replyless_call _) fun _ => .bind (.ofExcept _) fun param => ?_
      split
      · exact .bind (replyless_modifyState _) fun _ => .pure _
      · exact .pure _
  refine .bind replyless_getState fun state => ?_
  split
  · exact .bind (replyless_call _) fun _ => .bind (.ofExcept _) fun _ =>
      .bind (replyless_modifyState _) fun _ => hcached
  · exact hcached

theorem replyless_setParam (name : String) (value : V) : Mute sentTo (setParam name value) := by
  refine .bind (replyless_call _) fun _ => .bind (.ofExcept _) fun _ =>
    .bind replyless_getState fun state => ?_
  split
  · exact replyless_modifyState _
  · exact .pure _

theorem replyless_deleteParam (name : String) :
    Mute sentTo (deleteParam name : ParameterProgram V ParameterActorError Unit) := by
  have hdelete : Mute sentTo (do
      let _ ← ofExcept ((← call (ParameterCall.deleteParam name)).mapError .masterClient)
      modifyState fun state => { state with paramCache := state.paramCache.erase name } :
      ParameterProgram V ParameterActorError Unit) :=
    .bind (replyless_call _) fun _ => .bind (.ofExcept _) fun _ => replyless_modifyState _
  refine .bind replyless_getState fun state => ?_
  split
  · exact .bind (replyless_modifyState _) fun _ => .bind (replyless_call _) fun _ =>
      .bind (.ofExcept _) fun _ => hdelete
  · exact hdelete

theorem replyless_updateCachedParam [DecidableEq V] (emptyStruct : V) (name : String) (value : V) :
    Mute sentTo (updateCachedParam emptyStruct name value) := by
  refine .bind replyless_getState fun state => ?_
  split
  · split
    · exact replyless_modifyState _
    · refine .bind (replyless_call _) fun _ => .bind (.ofExcept _) fun present => ?_
      split <;> exact replyless_modifyState _
  · exact .pure _

def replyPort : ParameterActorMsg V → Option ℕ
  | .getParam _ reply | .getCachedParam _ reply | .setParam _ _ reply | .deleteParam _ reply
  | .searchParam _ reply | .paramExists _ reply | .getParamNames reply => some reply
  | .updateCachedParam _ _ => none

theorem emits_handle [DecidableEq V] (emptyStruct : V) (m : ParameterActorMsg V) :
    (ParameterActor.handle emptyStruct m).run.Emits sentTo (fun _ => True)
      (replyPort m).toList := by
  cases m with
  | getParam name reply | searchParam name reply | paramExists name reply | getParamNames reply =>
    exact emits_reply (replyless_calling _ _) reply _
  | getCachedParam name reply => exact emits_reply (replyless_getCachedParam name) reply _
  | setParam name value reply => exact emits_reply (replyless_setParam name value) reply _
  | deleteParam name reply => exact emits_reply (replyless_deleteParam name) reply _
  | updateCachedParam name value =>
    exact Mute.bind (.attempt (replyless_updateCachedParam emptyStruct name value)) fun _ => .pure _

end ParameterActor

theorem requests_answered_once {V : Type} [DecidableEq V] (emptyStruct : V) (nodeName : String) :
    (∀ labels c account, Run ((process PublisherActor.behaviour).accountedStep sentTo World.mailbox)
      (fun _ _ => True) (PublisherActor.init, ⟨[], [], []⟩) labels (c, account) →
        Served PublisherActor.replyPort c account) ∧
    (∀ labels c account, Run ((process SubscriberActor.behaviour).accountedStep sentTo World.mailbox)
      (fun _ _ => True) (SubscriberActor.init nodeName, ⟨[], [], []⟩) labels (c, account) →
        Served SubscriberActor.replyPort c account) ∧
    (∀ labels c account, Run ((process ServiceActor.behaviour).accountedStep sentTo World.mailbox)
      (fun _ _ => True) (ServiceActor.init, ⟨[], [], []⟩) labels (c, account) →
        Served ServiceActor.replyPort c account) ∧
    ∀ labels c account, Run ((process (ParameterActor.behaviour emptyStruct)).accountedStep sentTo
      World.mailbox) (fun _ _ => True) (ParameterActor.init, ⟨[], [], []⟩) labels (c, account) →
        Served ParameterActor.replyPort c account :=
  ⟨fun _ _ _ => served PublisherActor.emits_handle, fun _ _ _ => served SubscriberActor.emits_handle,
    fun _ _ _ => served ServiceActor.emits_handle,
    fun _ _ _ => served (ParameterActor.emits_handle emptyStruct)⟩

theorem requests_answered_once_two :
    (∃ labels c account, Run ((process PublisherActor.behaviour).accountedStep sentTo World.mailbox)
      (fun _ _ => True) (PublisherActor.init, ⟨[], [], []⟩) labels (c, account) ∧
        Served PublisherActor.replyPort c account ∧ account.emitted = [5, 3]) ∧
    (∃ labels c account, Run ((process SubscriberActor.behaviour).accountedStep sentTo World.mailbox)
      (fun _ _ => True) (SubscriberActor.init "/node", ⟨[], [], []⟩) labels (c, account) ∧
        Served SubscriberActor.replyPort c account ∧ account.emitted = [5, 3]) ∧
    (∃ labels c account, Run ((process ServiceActor.behaviour).accountedStep sentTo World.mailbox)
      (fun _ _ => True) (ServiceActor.init, ⟨[], [], []⟩) labels (c, account) ∧
        Served ServiceActor.replyPort c account ∧ account.emitted = [5, 3]) ∧
    ∃ labels c account, Run ((process (ParameterActor.behaviour (0 : ℕ))).accountedStep sentTo World.mailbox)
      (fun _ _ => True) (ParameterActor.init, ⟨[], [], []⟩) labels (c, account) ∧
        Served ParameterActor.replyPort c account ∧ account.emitted = [5, 3] := by
  obtain ⟨hpub, hsub, hsrv, hpar⟩ := requests_answered_once (0 : ℕ) "/node"
  refine ⟨?_, ?_, ?_, ?_⟩
  · obtain ⟨c, account, hrun, hemitted⟩ : ∃ c account,
        Run ((process PublisherActor.behaviour).accountedStep sentTo World.mailbox) (fun _ _ => True)
          (PublisherActor.init, ⟨[], [], []⟩)
          ([.outside (.enqueue (.getPublications 5)), .outside (.enqueue (.getPublications 3)), .start] ++
            .replicate 2 (.act PublisherActor.answers) ++ [.finish, .start] ++
            .replicate 2 (.act PublisherActor.answers)) (c, account) ∧ account.emitted = [5, 3] :=
      ⟨_, _, run_of_exec rfl fun _ _ _ => trivial, rfl⟩
    exact ⟨_, c, account, hrun, hpub _ _ _ hrun, hemitted⟩
  · obtain ⟨c, account, hrun, hemitted⟩ : ∃ c account,
        Run ((process SubscriberActor.behaviour).accountedStep sentTo World.mailbox) (fun _ _ => True)
          (SubscriberActor.init "/node", ⟨[], [], []⟩)
          ([.outside (.enqueue (.getSubscriptions 5)), .outside (.enqueue (.getSubscriptions 3)), .start] ++
            .replicate 2 (.act SubscriberActor.answers) ++ [.finish, .start] ++
            .replicate 2 (.act SubscriberActor.answers)) (c, account) ∧ account.emitted = [5, 3] :=
      ⟨_, _, run_of_exec rfl fun _ _ _ => trivial, rfl⟩
    exact ⟨_, c, account, hrun, hsub _ _ _ hrun, hemitted⟩
  · obtain ⟨c, account, hrun, hemitted⟩ : ∃ c account,
        Run ((process ServiceActor.behaviour).accountedStep sentTo World.mailbox) (fun _ _ => True)
          (ServiceActor.init, ⟨[], [], []⟩)
          ([.outside (.enqueue (.getServices 5)), .outside (.enqueue (.getServices 3)), .start] ++
            .replicate 2 (.act ServiceActor.answers) ++ [.finish, .start] ++
            .replicate 2 (.act ServiceActor.answers)) (c, account) ∧ account.emitted = [5, 3] :=
      ⟨_, _, run_of_exec rfl fun _ _ _ => trivial, rfl⟩
    exact ⟨_, c, account, hrun, hsrv _ _ _ hrun, hemitted⟩
  · obtain ⟨c, account, hrun, hemitted⟩ : ∃ c account,
        Run ((process (ParameterActor.behaviour (0 : ℕ))).accountedStep sentTo World.mailbox) (fun _ _ => True)
          (ParameterActor.init, ⟨[], [], []⟩)
          ([.outside (.enqueue (.getParam "/a" 5)), .outside (.enqueue (.getParamNames 3)), .start] ++
            .replicate 2 (.act (ParameterActor.answers 1)) ++ [.finish, .start] ++
            .replicate 2 (.act (ParameterActor.answers 1))) (c, account) ∧ account.emitted = [5, 3] :=
      ⟨_, _, run_of_exec rfl fun _ _ _ => trivial, rfl⟩
    exact ⟨_, c, account, hrun, hpar _ _ _ hrun, hemitted⟩

end RosrustAsync
