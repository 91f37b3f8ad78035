import RosrustAsync.ControlPlane
import RosrustAsync.Lib.Runs
import RosrustAsync.Lib.Slots
import RosrustAsync.Lib.WaitFor

namespace RosrustAsync

open Actor Relation Runs

def Stage.awaited {kind : ActorKind} : Stage kind → Option ℕ
  | .response h => some h
  | _ => none

theorem HandlerTask.exists_reply {N V : Type} [DecidableEq N] (handler : HandlerTask N V)
    (actor : ActorId N) : ∃ pc, handler.reply actor = { handler with pc } := by
  unfold reply
  split
  · exact ⟨_, rfl⟩
  · exact ⟨handler.pc, rfl⟩

theorem HandlerTask.reply_waiting {N V : Type} [DecidableEq N] {handler : HandlerTask N V}
    {actor : ActorId N} (h : (handler.reply actor).pc = .waiting) :
    handler.reply actor = handler ∧ handler.actor ≠ actor := by
  unfold reply at h ⊢
  split at h
  · cases h
  · rename_i hne
    rw [if_neg hne]
    exact ⟨rfl, fun hactor => hne ⟨h, hactor⟩⟩

namespace ControlPlane

variable {N V : Type} [DecidableEq V] {emptyStruct : V} {net net' : ControlPlane N V} {h port : ℕ}
  {actor : ActorId N} {handler : HandlerTask N V}

section

variable (emptyStruct) (net)

/-- The handler `h` will be answered by the actor, or find that it has stopped. -/
def Owing (h : ℕ) (actor : ActorId N) : Prop :=
  match actor.kind with
  | .publisher => Owes publisherBehaviour h (net.publishers actor.node)
  | .subscriber => Owes subscriberBehaviour h (net.subscribers actor.node)
  | .parameter => Owes (parameterBehaviour emptyStruct) h (net.parameters actor.node)

structure Invariant : Prop where
  asked : ∀ {actor h}, (net.stages actor).awaited = some h →
    ∃ handler, net.handlers[h]? = some handler ∧ handler.request.target = .publisher
  updates : ∀ {h : ℕ} {handler}, net.handlers[h]? = some handler → handler.serving.isSome →
    handler.request.isUpdate
  calls : ∀ {h : ℕ} {handler}, net.handlers[h]? = some handler → handler.pc = .waiting →
    handler.request.isUpdate = false ∧ net.Owing emptyStruct h handler.actor

end

theorem Owing.cases {Q : ActorId N → Prop} (how : net.Owing emptyStruct h actor)
    (hpublisher : ∀ n, Owes publisherBehaviour h (net.publishers n) →
      Owes publisherBehaviour h (net'.publishers n) ∨ Q ⟨n, .publisher⟩)
    (hsubscriber : ∀ n, Owes subscriberBehaviour h (net.subscribers n) →
      Owes subscriberBehaviour h (net'.subscribers n) ∨ Q ⟨n, .subscriber⟩)
    (hparameter : ∀ n, Owes (parameterBehaviour emptyStruct) h (net.parameters n) →
      Owes (parameterBehaviour emptyStruct) h (net'.parameters n) ∨ Q ⟨n, .parameter⟩) :
    net'.Owing emptyStruct h actor ∨ Q actor := by
  obtain ⟨n, kind⟩ := actor
  cases kind with
  | publisher => exact hpublisher n how
  | subscriber => exact hsubscriber n how
  | parameter => exact hparameter n how

theorem init_invariant (nodeName : N → String) :
    (init nodeName : ControlPlane N V).Invariant emptyStruct where
  asked h := nomatch h
  updates h := nomatch h
  calls h := nomatch h

theorem Invariant.congr (hnet : net.Invariant emptyStruct) (hstages : net'.stages = net.stages)
    (hhandlers : net'.handlers = net.handlers) (howing : ∀ h actor, net.Owing emptyStruct h actor →
      net'.Owing emptyStruct h actor) : net'.Invariant emptyStruct where
  asked hh := by
    rw [hstages] at hh
    rw [hhandlers]
    exact hnet.asked hh
  updates hh := hnet.updates (hhandlers ▸ hh)
  calls hh hwait := (hnet.calls (hhandlers ▸ hh) hwait).imp_right (howing _ _)

/-- Only how far the handlers are may have changed. -/
theorem Invariant.handlers (hnet : net.Invariant emptyStruct) (hstages : net'.stages = net.stages)
    (hkept : ∀ (h : ℕ) handler, net.handlers[h]? = some handler →
      ∃ pc, net'.handlers[h]? = some { handler with pc })
    (hcame : ∀ (h : ℕ) handler', net'.handlers[h]? = some handler' →
      ∃ handler, net.handlers[h]? = some handler ∧ ∃ pc, handler' = { handler with pc })
    (hcalls : ∀ (h : ℕ) handler, net'.handlers[h]? = some handler → handler.pc = .waiting →
      handler.request.isUpdate = false ∧ net'.Owing emptyStruct h handler.actor) :
    net'.Invariant emptyStruct where
  asked hh := by
    rw [hstages] at hh
    obtain ⟨handler, hhandler, htarget⟩ := hnet.asked hh
    obtain ⟨pc, hpc⟩ := hkept _ handler hhandler
    exact ⟨_, hpc, htarget⟩
  updates hh hserving := by
    obtain ⟨handler, hhandler, pc, rfl⟩ := hcame _ _ hh
    have hupdate := hnet.updates hhandler
    exact hupdate hserving
  calls hh := hcalls _ _ hh

theorem Invariant.spawn (hnet : net.Invariant emptyStruct)
    (hserving : handler.serving.isSome → handler.request.isUpdate) (hpc : handler.pc = .called) :
    (net.spawn handler).Invariant emptyStruct where
  asked hh := by
    obtain ⟨handler', hhandler, htarget⟩ := hnet.asked hh
    refine ⟨handler', ?_, htarget⟩
    rw [ControlPlane.spawn, List.getElem?_append_left (List.getElem?_eq_some_iff.mp hhandler).1]
    exact hhandler
  updates hh := by
    obtain hh | ⟨-, rfl⟩ := getElem?_concat_cases hh
    · exact hnet.updates hh
    · exact hserving
  calls hh hwait := by
    obtain hh | ⟨-, rfl⟩ := getElem?_concat_cases hh
    · exact hnet.calls hh hwait
    · rw [hpc] at hwait
      cases hwait

theorem Invariant.setHandler {pc : HandlerPc} (hnet : net.Invariant emptyStruct)
    (hh : net.handlers[h]? = some handler) (hpc : pc = .waiting → handler.request.isUpdate = false ∧
      net.Owing emptyStruct h handler.actor) : (net.setHandler h pc).Invariant emptyStruct := by
  have hset : (net.setHandler h pc).handlers = net.handlers.set h { handler with pc } :=
    modify_eq_set_of_some hh
  refine hnet.handlers rfl (fun h' handler' hh' => ?_) (fun h' handler' hh' => ?_)
    fun h' handler' hh' hwait => ?_
  · rw [hset]
    by_cases hne : h' = h
    · subst hne
      rw [hh] at hh'
      cases hh'
      exact ⟨pc, getElem?_set_of_some hh⟩
    · exact ⟨handler'.pc, getElem?_set_of_ne hne hh'⟩
  · rw [hset] at hh'
    obtain ⟨rfl, rfl⟩ | ⟨-, hh'⟩ := getElem?_set_cases hh'
    · exact ⟨handler, hh, pc, rfl⟩
    · exact ⟨handler', hh', handler'.pc, rfl⟩
  · rw [hset] at hh'
    obtain ⟨rfl, rfl⟩ | ⟨-, hh'⟩ := getElem?_set_cases hh'
    · exact hpc hwait
    · exact hnet.calls hh' hwait

variable [DecidableEq N]

theorem Invariant.setStage (hnet : net.Invariant emptyStruct) {stage : Stage actor.kind}
    (hstage : ∀ h, stage.awaited = some h →
      ∃ handler, net.handlers[h]? = some handler ∧ handler.request.target = .publisher) :
    (net.setStage actor stage).Invariant emptyStruct where
  asked := by
    intro actor' h hh
    by_cases hactor : actor' = actor
    · subst hactor
      simp only [ControlPlane.setStage, Function.update_self] at hh
      exact hstage h hh
    · simp only [ControlPlane.setStage, Function.update_of_ne hactor] at hh
      exact hnet.asked hh
  updates := hnet.updates
  calls := hnet.calls

/-- What the actor owed at the port is paid. -/
theorem Invariant.replyAt (hnet : net.Invariant emptyStruct) (hstages : net'.stages = net.stages)
    (hhandlers : net'.handlers = net.handlers) (howing : ∀ h actor', net.Owing emptyStruct h actor' →
      net'.Owing emptyStruct h actor' ∨ actor' = actor ∧ h = port) :
    (net'.replyAt port actor).Invariant emptyStruct := by
  have hget (h : ℕ) : (net'.replyAt port actor).handlers[h]? =
      if port = h then net.handlers[h]?.map fun handler => handler.reply actor
      else net.handlers[h]? := by
    rw [ControlPlane.replyAt, List.getElem?_modify, hhandlers]
    split <;> simp
  refine hnet.handlers hstages (fun h handler hh => ?_) (fun h handler' hh => ?_)
    fun h handler' hh hwait => ?_
  · rw [hget, hh]
    split
    · obtain ⟨pc, hpc⟩ := handler.exists_reply actor
      exact ⟨pc, congrArg some hpc⟩
    · exact ⟨handler.pc, rfl⟩
  · rw [hget] at hh
    split at hh
    · obtain ⟨handler, hhandler, rfl⟩ := Option.map_eq_some_iff.mp hh
      exact ⟨handler, hhandler, handler.exists_reply actor⟩
    · exact ⟨handler', hh, handler'.pc, rfl⟩
  · rw [hget] at hh
    split at hh
    · obtain ⟨handler, hhandler, rfl⟩ := Option.map_eq_some_iff.mp hh
      obtain ⟨hsame, hne⟩ := HandlerTask.reply_waiting hwait
      rw [hsame] at hwait ⊢
      obtain ⟨hcall, how⟩ := hnet.calls hhandler hwait
      exact ⟨hcall, (howing h _ how).resolve_right fun hpaid => hne hpaid.1⟩
    · rename_i hne
      obtain ⟨hcall, how⟩ := hnet.calls hh hwait
      exact ⟨hcall, (howing h _ how).resolve_right fun hpaid => hne hpaid.2.symm⟩

theorem Invariant.acted {S K R C : Type} {a : Option (Act S K R C)} (hnet : net.Invariant emptyStruct)
    (hstages : net'.stages = net.stages) (hhandlers : net'.handlers = net.handlers)
    (howing : ∀ h actor', net.Owing emptyStruct h actor' →
      net'.Owing emptyStruct h actor' ∨ actor' = actor ∧ ∃ value, a = some (.send h value)) :
    (net'.acted actor a).Invariant emptyStruct := by
  have hunsent (hsend : ∀ h value, a ≠ some (.send h value)) : net'.Invariant emptyStruct :=
    hnet.congr hstages hhandlers fun h actor' how =>
      (howing h actor' how).resolve_right fun ⟨_, value, ha⟩ => hsend h value ha
  cases a with
  | none => exact hunsent fun _ _ ha => nomatch ha
  | some a =>
    cases a with
    | send port value =>
      refine Invariant.setStage (hnet.replyAt hstages hhandlers fun h actor' how => ?_)
        fun _ hh => nomatch hh
      refine (howing h actor' how).imp_right fun ⟨hactor, value', ha⟩ => ⟨hactor, ?_⟩
      cases ha
      rfl
    | channel capacity =>
      have hnet' := hunsent fun _ _ ha => nomatch ha
      refine Invariant.setStage ?_ fun _ hh => nomatch hh
      split
      · exact ⟨hnet'.asked, hnet'.updates, hnet'.calls⟩
      · exact hnet'
    | _ => exact (hunsent fun _ _ ha => nomatch ha).setStage fun _ hh => nomatch hh

theorem tellActor_invariant (hnet : net.Invariant emptyStruct) {n : N} {request : Request V} :
    (net.tellActor port n request).Invariant emptyStruct := by
  have howing {h : ℕ} {actor : ActorId N} (how : net.Owing emptyStruct h actor) :
      (net.tellActor port n request).Owing emptyStruct h actor ∨ False := by
    cases request with
    | getSubscriptions callerId | publisherUpdate callerId topicName publishers =>
      apply how.cases
      · exact fun _ => .inl
      · exact owes_update fun hc => .inl hc.tell
      · exact fun _ => .inl
    | getPublications callerId | requestTopic callerId topicName protocols =>
      apply how.cases
      · exact owes_update fun hc => .inl hc.tell
      · exact fun _ => .inl
      · exact fun _ => .inl
    | paramUpdate callerId paramName newValue =>
      apply how.cases
      · exact fun _ => .inl
      · exact fun _ => .inl
      · exact owes_update fun hc => .inl hc.tell
  cases request <;> exact hnet.congr rfl rfl fun h actor how => (howing how).resolve_right id

theorem tellActor_owing {n : N} {request : Request V} (hcall : request.isUpdate = false) :
    (net.tellActor h n request).Owing emptyStruct h ⟨n, request.target⟩ := by
  cases request with
  | getSubscriptions callerId =>
    simp only [Owing, tellActor, setSubscriber, Request.target, Function.update_self]
    exact owes_tell (.inr fun _ => .inl ⟨_, rfl⟩)
  | getPublications callerId | requestTopic callerId topicName protocols =>
    simp only [Owing, tellActor, setPublisher, Request.target, Function.update_self]
    exact owes_tell (.inr fun _ => .inl ⟨_, rfl⟩)
  | _ => cases hcall

omit [DecidableEq V] in
theorem tellActor_handlers {n : N} {request : Request V} :
    (net.tellActor h n request).handlers = net.handlers := by
  cases request <;> rfl

theorem handle_invariant (hnet : net.Invariant emptyStruct) (hs : net.handle h = some net') :
    net'.Invariant emptyStruct := by
  obtain ⟨handler, hh, hs⟩ := Option.bind_eq_some_iff.mp hs
  have hdone : (net.setHandler h .done).Invariant emptyStruct := hnet.setHandler hh nofun
  split at hs
  · split at hs
    · cases hs
      exact hdone
    · cases hs
      have hh' : (net.tellActor h handler.node handler.request).handlers[h]? = some handler := by
        rw [tellActor_handlers]
        exact hh
      refine (tellActor_invariant hnet).setHandler hh' fun hwait => ?_
      split at hwait
      · cases hwait
      · rename_i hcall
        have hcall := Bool.eq_false_iff.mpr hcall
        exact ⟨hcall, tellActor_owing hcall⟩
  · split at hs
    · cases hs
      exact hdone
    · cases hs
  · cases hs
    exact hdone
  · cases hs

omit [DecidableEq N] in
theorem setListener_invariant (hnet : net.Invariant emptyStruct) {l : ℕ}
    {listener : ListenerTask N} : (net.setListener l listener).Invariant emptyStruct :=
  ⟨hnet.asked, hnet.updates, hnet.calls⟩

omit [DecidableEq N] in
theorem listen_invariant (hnet : net.Invariant emptyStruct) {l : ℕ} {branch : ListenerBranch}
    (hs : net.listen l branch = some net') : net'.Invariant emptyStruct := by
  unfold listen at hs
  obtain ⟨listener, -, hs⟩ := Option.bind_eq_some_iff.mp hs
  split at hs
  · cases hs
    exact setListener_invariant hnet
  · cases hs
    exact setListener_invariant hnet
  · split at hs
    · cases hs
    · cases hs
      exact setListener_invariant hnet
  · cases hs

theorem proceed_invariant (hnet : net.Invariant emptyStruct) {n : N}
    (hs : net.proceed n = some net') : net'.Invariant emptyStruct := by
  unfold proceed at hs
  split at hs
  · split at hs
    · cases hs
    · cases hs
      exact hnet.setStage nofun
  · cases hs
    exact hnet.setStage nofun
  · split at hs
    · cases hs
    · cases hs
      exact hnet.setStage nofun
  · cases hs

theorem step_invariant (hnet : net.Invariant emptyStruct) {label : Label N V}
    (hs : net.step emptyStruct label = some net') : net'.Invariant emptyStruct := by
  cases label with
  | publisher n l =>
    simp only [step] at hs
    split at hs
    · obtain ⟨config, hconfig, hs⟩ := Option.bind_eq_some_iff.mp hs
      cases hs
      refine hnet.acted rfl rfl fun h actor how => ?_
      apply how.cases
      · exact owes_update fun hc => (owes_step hc hconfig).imp_right fun hsend => ⟨rfl, hsend⟩
      · exact fun _ => .inl
      · exact fun _ => .inl
    · cases hs
  | subscriber n l =>
    simp only [step] at hs
    split at hs
    · obtain ⟨config, hconfig, hs⟩ := Option.bind_eq_some_iff.mp hs
      cases hs
      refine hnet.acted rfl rfl fun h actor how => ?_
      apply how.cases
      · exact fun _ => .inl
      · exact owes_update fun hc => (owes_step hc hconfig).imp_right fun hsend => ⟨rfl, hsend⟩
      · exact fun _ => .inl
    · cases hs
  | parameter n l =>
    simp only [step] at hs
    split at hs
    · obtain ⟨config, hconfig, hs⟩ := Option.bind_eq_some_iff.mp hs
      cases hs
      refine hnet.acted rfl rfl fun h actor how => ?_
      apply how.cases
      · exact fun _ => .inl
      · exact fun _ => .inl
      · exact owes_update fun hc => (owes_step hc hconfig).imp_right fun hsend => ⟨rfl, hsend⟩
    · cases hs
  | askMaster actor =>
    simp only [step] at hs
    split at hs
    · split at hs
      · cases hs
        exact hnet.setStage nofun
      · cases hs
    · cases hs
  | requestTopic n target =>
    simp only [step] at hs
    split at hs
    · split at hs
      · cases hs
        refine Invariant.setStage (hnet.spawn ?_ rfl) fun h hh => ?_
        · exact nofun
        · cases hh
          exact ⟨_, List.getElem?_concat_length, rfl⟩
      · cases hs
    · cases hs
  | connect n l =>
    simp only [step] at hs
    split at hs
    · split at hs
      · obtain ⟨listener, -, hs⟩ := Option.bind_eq_some_iff.mp hs
        obtain ⟨listener', -, hs⟩ := Option.bind_eq_some_iff.mp hs
        cases hs
        have hlistener : (net.setListener l listener').Invariant emptyStruct :=
          setListener_invariant hnet
        have hstage : ((net.setListener l listener').setStage ⟨n, .subscriber⟩
            (.writing l net.connections)).Invariant emptyStruct := hlistener.setStage nofun
        exact ⟨hstage.asked, hstage.updates, hstage.calls⟩
      · cases hs
    · cases hs
  | refused actor =>
    simp only [step] at hs
    split at hs
    · cases hs
      exact hnet.setStage nofun
    · cases hs
  | proceed n => exact proceed_invariant hnet hs
  | handler h => exact handle_invariant hnet hs
  | listener l branch => exact listen_invariant hnet hs
  | serve serving target request =>
    simp only [step] at hs
    split at hs
    · rename_i hupdate
      cases hs
      exact hnet.spawn (fun _ => hupdate.1) rfl
    · cases hs
  | answer actor =>
    simp only [step] at hs
    split at hs
    · cases hs
      exact hnet.setStage nofun
    · cases hs
  | call target request =>
    cases hs
    exact hnet.spawn nofun rfl

end ControlPlane

end RosrustAsync
