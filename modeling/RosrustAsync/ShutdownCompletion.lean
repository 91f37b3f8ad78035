import RosrustAsync.Lib.Slots
import RosrustAsync.NodeShutdown

namespace RosrustAsync.NodeShutdown

open Runs

/-- A trigger that takes effect finds the token taken, and one that is refused has nobody wait. -/
structure TriggerOk (s : NodeShutdown) (call : PendingCall) : Prop where
  guarded : s.shutdownMgr.isShutdownTriggered = false → s.shutdownGuard ∨ s.AllStopped
  refused : s.shutdownMgr.isShutdownTriggered → call.waits → s.AllStopped

def Guarded (s : NodeShutdown) : Label → Prop
  | .trigger i => ∀ call, s.calls[i]? = some call → s.TriggerOk call
  | .failed _ => False
  | _ => True

def TaskInvariant (s : NodeShutdown) : Prop :=
  match s.task with
  | .spawned => s.shutdownGuard = false ∧ s.shutdownMgr.reason = none ∧
      ∀ actor, s.actors actor = ⟨.running, false⟩
  | .select => s.shutdownGuard
  | .stop actors => s.shutdownGuard ∧ ∀ actor, actor ∉ actors → (s.actors actor).pc = .stopped
  | .wait current actors => s.shutdownGuard ∧
      ∀ actor, actor ∉ current :: actors → (s.actors actor).pc = .stopped
  | .finished => s.AllStopped

structure Invariant (s : NodeShutdown) : Prop where
  tokens : s.shutdownMgr.delayTokens = if s.shutdownGuard then 1 else 0
  alive : ∀ actor, (s.actors actor).pc ≠ .failed
  task : s.TaskInvariant
  resolved : ∀ call ∈ s.calls, resolved call → s.AllStopped

theorem new_invariant : new.Invariant :=
  ⟨rfl, (fun _ h => nomatch h), ⟨rfl, rfl, fun _ => rfl⟩, (fun _ h => nomatch h)⟩

variable {s : NodeShutdown}

theorem not_allStopped_of_running (h : ∀ actor, s.actors actor = ⟨.running, false⟩) :
    ¬ s.AllStopped := by
  intro hall
  have hpub := hall .publisher
  rw [h .publisher] at hpub
  cases hpub

theorem resolved_afterShutdown_ok (call : PendingCall) :
    resolved (call.afterShutdown (.ok ())) = false := by
  cases hw : call.waits <;> simp [PendingCall.afterShutdown, resolved, hw]

theorem mem_actorCells (actor : NodeActor) : actor ∈ actorCells := by cases actor <;> decide

theorem Invariant.completed (h : s.Invariant) (hc : s.isShutdown) : s.AllStopped := by
  simp only [isShutdown, ShutdownManager.isShutdownCompleted, Bool.and_eq_true, beq_iff_eq] at hc
  obtain ⟨htriggered, htokens⟩ := hc
  have hguard : s.shutdownGuard = false := by
    rw [h.tokens] at htokens
    by_contra hg
    rw [if_pos (by simpa using hg)] at htokens
    cases htokens
  have htask := h.task
  unfold TaskInvariant at htask
  split at htask
  · rw [htask.2.1] at htriggered
    cases htriggered
  · rw [hguard] at htask
    cases htask
  · rw [hguard] at htask
    cases htask.1
  · rw [hguard] at htask
    cases htask.1
  · exact htask

theorem Invariant.sound (h : s.Invariant) : s.Sound := ⟨h.completed, h.resolved⟩

theorem Invariant.setActor (h : s.Invariant) {actor : NodeActor} {cell : ActorCell}
    (hold : (s.actors actor).pc ≠ .stopped)
    (hspawned : s.task = .spawned → s.actors actor ≠ ⟨.running, false⟩) (hnew : cell.pc ≠ .failed) : (s.setActor actor cell).Invariant := by
  have hstopped : ∀ a, (s.actors a).pc = .stopped →
      ((s.setActor actor cell).actors a).pc = .stopped := by
    intro a ha
    have hne : a ≠ actor := by
      rintro rfl
      exact hold ha
    simpa [NodeShutdown.setActor, hne] using ha
  refine ⟨h.tokens, fun a => ?_, ?_, fun call hc hr => absurd (h.resolved call hc hr actor) hold⟩
  · simp only [NodeShutdown.setActor]
    split
    · exact hnew
    · exact h.alive a
  · have htask := h.task
    unfold TaskInvariant at htask ⊢
    simp only [NodeShutdown.setActor] at htask ⊢
    split at htask
    · rename_i ht
      exact absurd (htask.2.2 actor) (hspawned ht)
    · exact htask
    · exact ⟨htask.1, fun a ha => hstopped a (htask.2 a ha)⟩
    · exact ⟨htask.1, fun a ha => hstopped a (htask.2 a ha)⟩
    · exact absurd (htask actor) hold

theorem Invariant.setCall (h : s.Invariant) (i : ℕ) {call : PendingCall}
    (hr : NodeShutdown.resolved call → s.AllStopped) :
    Invariant { s with calls := s.calls.set i call } := by
  refine ⟨h.tokens, h.alive, h.task, fun call' hc hr' => ?_⟩
  rcases List.mem_or_eq_of_mem_set hc with hc | rfl
  · exact h.resolved call' hc hr'
  · exact hr hr'

theorem Invariant.trigger (h : s.Invariant) {mgr : ShutdownManager} {reason : Option String}
    (hs : s.shutdownMgr.triggerShutdown reason = .ok mgr)
    (hspawned : s.task = .spawned → False) : Invariant { s with shutdownMgr := mgr } := by
  unfold ShutdownManager.triggerShutdown at hs
  split at hs
  · cases hs
  · cases hs
    refine ⟨h.tokens, h.alive, ?_, h.resolved⟩
    have htask := h.task
    cases ht : s.task with
    | spawned => exact (hspawned ht).elim
    | select | stop actors | wait actor actors | finished =>
      simpa [TaskInvariant, AllStopped, ht] using htask

theorem Invariant.skip (h : s.Invariant) {actor : NodeActor} {actors : List NodeActor}
    (hguard : s.shutdownGuard)
    (hrest : ∀ a, a ∉ actor :: actors → (s.actors a).pc = .stopped)
    (hpc : (s.actors actor).pc = .stopped) : Invariant { s with task := .stop actors } := by
  refine ⟨h.tokens, h.alive, ⟨hguard, fun a ha => ?_⟩, h.resolved⟩
  by_cases hne : a = actor
  · rw [hne]
    exact hpc
  · exact hrest a (by simp [hne, ha])

theorem Invariant.stopAndWait (h : s.Invariant) {actor : NodeActor} {actors : List NodeActor}
    (ht : s.task = .stop (actor :: actors)) : (s.stopAndWait actor actors).Invariant := by
  have htask := h.task
  simp only [TaskInvariant, ht] at htask
  obtain ⟨hguard, hrest⟩ := htask
  have hwait : (s.actors actor).pc ≠ .stopped → Invariant
      { s.setActor actor { s.actors actor with stopRequested := true } with
        task := .wait actor actors } := by
    intro hpc
    have hset : Invariant (s.setActor actor { s.actors actor with stopRequested := true }) :=
      h.setActor hpc (fun hspawned => nomatch ht.symm.trans hspawned) (h.alive actor)
    have htask := hset.task
    simp only [TaskInvariant, NodeShutdown.setActor, ht] at htask
    exact ⟨hset.tokens, hset.alive, htask, hset.resolved⟩
  unfold NodeShutdown.stopAndWait
  split
  · rename_i hpc
    exact hwait (by simp [hpc])
  · rename_i hpc
    exact hwait (by simp [hpc])
  · rename_i hpc
    exact h.skip hguard hrest hpc
  · rename_i hpc
    exact absurd hpc (h.alive actor)

theorem step_invariant {t : NodeShutdown} {label : Label} (h : s.Invariant) (hok : s.Guarded label)
    (hs : s.step label = some t) : t.Invariant := by
  have htask := h.task
  cases label with
  | takeToken =>
    simp only [step] at hs
    split at hs
    · rename_i ht
      simp only [TaskInvariant, ht] at htask
      obtain ⟨hguard, hreason, hrunning⟩ := htask
      have htoken : s.shutdownMgr.delayShutdownToken =
          .ok { s.shutdownMgr with delayTokens := s.shutdownMgr.delayTokens + 1 } := by
        simp [ShutdownManager.delayShutdownToken, ShutdownManager.isShutdownCompleted, hreason]
      rw [htoken] at hs
      cases hs
      refine ⟨?_, h.alive, rfl, h.resolved⟩
      simp [h.tokens, hguard]
    · cases hs
  | shutdownTriggered =>
    simp only [step] at hs
    split at hs
    · rename_i ht
      simp only [TaskInvariant, ht] at htask
      split at hs <;> cases hs
      exact ⟨h.tokens, h.alive, ⟨htask, fun a ha => absurd (mem_actorCells a) ha⟩, h.resolved⟩
    · cases hs
  | serveError =>
    simp only [step] at hs
    split at hs
    · rename_i ht
      simp only [TaskInvariant, ht] at htask
      cases hs
      exact ⟨h.tokens, h.alive, ⟨htask, fun a ha => absurd (mem_actorCells a) ha⟩, h.resolved⟩
    · cases hs
  | stop =>
    simp only [step] at hs
    split at hs
    · rename_i actor actors ht
      cases hs
      exact h.stopAndWait ht
    · cases hs
  | waited =>
    simp only [step] at hs
    split at hs
    · rename_i actor actors ht
      simp only [TaskInvariant, ht] at htask
      split at hs
      · rename_i hpc
        cases hs
        exact h.skip htask.1 htask.2 hpc
      · rename_i hpc
        exact absurd hpc (h.alive actor)
      · cases hs
    · cases hs
  | finish =>
    simp only [step] at hs
    split at hs
    · rename_i ht
      simp only [TaskInvariant, ht] at htask
      cases hs
      obtain ⟨hguard, hall⟩ := htask
      refine ⟨?_, h.alive, fun a => hall a (by simp), h.resolved⟩
      simp [hguard, ShutdownManager.dropToken, h.tokens]
    · cases hs
  | postStop actor =>
    simp only [step] at hs
    split at hs
    · rename_i ha
      cases hs
      exact h.setActor (by simp [ha]) (fun _ => by simp [ha]) (by simp)
    · cases hs
  | stopped actor =>
    simp only [step] at hs
    split at hs
    · rename_i stopRequested ha
      cases hs
      exact h.setActor (by simp [ha]) (fun _ => by simp [ha]) (by simp)
    · cases hs
  | failed actor => exact hok.elim
  | call call =>
    cases hs
    refine ⟨h.tokens, h.alive, h.task, fun call' hc hr => ?_⟩
    rcases List.mem_append.mp hc with hc | hc
    · exact h.resolved call' hc hr
    · obtain rfl := List.mem_singleton.mp hc
      cases call <;> cases hr
  | check i =>
    obtain ⟨call, hi, hs⟩ := Option.bind_eq_some_iff.mp hs
    split at hs
    · cases hs
      refine h.setCall i fun hr => ?_
      split at hr
      · simp [resolved_afterShutdown_ok] at hr
      · cases hr
    · cases hs
  | trigger i =>
    obtain ⟨call, hi, hs⟩ := Option.bind_eq_some_iff.mp hs
    obtain ⟨hguarded, hrefused⟩ := hok call hi
    split at hs
    · split at hs
      · rename_i mgr htrigger
        cases hs
        refine (h.trigger htrigger ?_).setCall i (by simp [resolved_afterShutdown_ok])
        intro ht
        simp only [TaskInvariant, ht] at htask
        rcases hguarded (by simp [ShutdownManager.isShutdownTriggered, htask.2.1]) with hg | hall
        · rw [htask.1] at hg
          cases hg
        · exact not_allStopped_of_running htask.2.2 hall
      · rename_i e htrigger
        cases hs
        refine h.setCall i fun hr => ?_
        unfold ShutdownManager.triggerShutdown at htrigger
        split at htrigger
        · rename_i ht
          exact hrefused ht hr
        · cases htrigger
    · cases hs
  | complete i =>
    obtain ⟨call, hi, hs⟩ := Option.bind_eq_some_iff.mp hs
    split at hs
    · split at hs <;> cases hs
      rename_i hcompleted
      exact h.setCall i fun _ => h.completed hcompleted
    · cases hs
  | handleShutdown callerId reason =>
    simp only [step] at hs
    split at hs
    · cases hs
    · rename_i ht
      split at hs
      · rename_i mgr htrigger
        cases hs
        exact h.trigger htrigger ht
      · cases hs
        exact h

theorem triggerOk_of_sound {t : NodeShutdown} {i : ℕ} {call : PendingCall} (h : s.Invariant)
    (hi : s.calls[i]? = some call) (hs : s.step (.trigger i) = some t) (ht : t.Sound) :
    s.TriggerOk call := by
  obtain ⟨call', hi', hs⟩ := Option.bind_eq_some_iff.mp hs
  rw [hi] at hi'
  cases hi'
  split at hs
  · split at hs
    · rename_i mgr htrigger
      cases hs
      unfold ShutdownManager.triggerShutdown at htrigger
      split at htrigger
      · cases htrigger
      · rename_i hnot
        cases htrigger
        refine ⟨fun _ => ?_, fun htriggered => absurd htriggered hnot⟩
        cases hg : s.shutdownGuard with
        | true => exact .inl rfl
        | false =>
          have htokens := h.tokens
          rw [hg] at htokens
          -- nothing holds completion back
          have hall := ht.isShutdown (by
            simp [isShutdown, ShutdownManager.isShutdownCompleted, htokens])
          exact .inr hall
    · rename_i e htrigger
      cases hs
      unfold ShutdownManager.triggerShutdown at htrigger
      split at htrigger
      · rename_i htriggered
        have hmem := List.mem_of_getElem? (getElem?_set_of_some (a := call.afterShutdown (.error e)) hi)
        refine ⟨fun hnot => ?_, fun _ hw => ht.resolved _ hmem hw⟩
        rw [htriggered] at hnot
        cases hnot
      · cases htrigger
  · cases hs

theorem shutdown_sound {labels : List Label} (hrun : Run step Guarded new labels s) :
    s.Sound ∧ ∀ i call t, s.calls[i]? = some call → s.step (.trigger i) = some t →
      (t.Sound ↔ s.TriggerOk call) := by
  have hinv : s.Invariant := hrun.invariant (fun _ _ _ h hok hs => step_invariant h hok hs) new_invariant
  refine ⟨hinv.sound, fun i call t hi hs => ⟨triggerOk_of_sound hinv hi hs, fun hok => ?_⟩⟩
  have hguarded : s.Guarded (.trigger i) := by
    intro call' hi'
    rw [hi] at hi'
    cases hi'
    exact hok
  exact (step_invariant hinv hguarded hs).sound

theorem shutdown_sound_awaited : ∃ s : NodeShutdown, s.isShutdown ∧ s.AllStopped ∧ s.Sound := by
  obtain ⟨s, hrun, hcompleted, hstopped⟩ : ∃ s, Run step Guarded new
      ([.call (.shutdownAndWait none), .takeToken, .check 0, .trigger 0, .shutdownTriggered] ++
        actorCells.flatMap (fun actor => [.stop, .postStop actor, .stopped actor, .waited]) ++
        [.finish, .complete 0]) s ∧ s.isShutdown ∧ s.AllStopped := by
    refine ⟨_, .cons trivial rfl <| .cons trivial rfl <| .cons trivial rfl <| .cons ?_ rfl <|
      run_of_exec rfl ?_, rfl, fun actor => ?_⟩
    · rintro call ⟨⟩
      exact ⟨fun _ => .inl rfl, (fun h => nomatch h)⟩
    · simp [actorCells, Guarded]
    · cases actor <;> rfl
  exact ⟨s, hcompleted, hstopped, (shutdown_sound hrun).1⟩

theorem shutdown_before_token : ∃ (s : NodeShutdown) (labels : List Label),
    Run step (fun _ _ => True) new labels s ∧ s.isShutdown ∧ ¬ s.Sound := by
  obtain ⟨s, hrun, hcompleted, hrunning⟩ : ∃ s, Run step (fun _ _ => True) new
      [.call (.shutdownAndWait none), .check 0, .trigger 0, .complete 0] s ∧ s.isShutdown ∧
        ∀ actor, s.actors actor = ⟨.running, false⟩ :=
    ⟨_, run_of_exec rfl (fun _ _ _ => trivial), rfl, fun _ => rfl⟩
  exact ⟨s, _, hrun, hcompleted, fun hs => not_allStopped_of_running hrunning (hs.isShutdown hcompleted)⟩

end RosrustAsync.NodeShutdown
