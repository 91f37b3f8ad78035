import RosrustAsync.Lib.Slots
import RosrustAsync.NodeShutdown

namespace RosrustAsync

def ShutdownTaskPc.left : ShutdownTaskPc → ℕ
  | .spawned => 11
  | .select => 10
  | .stop actors => 2 * actors.length + 1
  | .wait _ actors => 2 * actors.length + 2
  | .finished => 0

def ActorPc.left : ActorPc → ℕ
  | .running => 2
  | .postStop => 1
  | .stopped | .failed => 0

def CallPc.left : CallPc → ℕ
  | .check _ => 3
  | .trigger _ => 2
  | .wait => 1
  | .returned _ => 0

namespace NodeShutdown

open Runs

def left (s : NodeShutdown) : ℕ :=
  s.task.left + (actorCells.map fun actor => (s.actors actor).pc.left).sum +
    (s.calls.map fun call => call.pc.left).sum

namespace Label

def isRequest : Label → Bool
  | .call _ | .handleShutdown _ _ => true
  | _ => false

def isFault : Label → Bool
  | .serveError | .failed _ => true
  | _ => false

def cost (label : Label) : ℕ := if label.isRequest then 0 else 1

def gain : Label → ℕ
  | .call _ => 3
  | _ => 0

end Label

/-- Nothing is left to do but to wait for the next request, or for something to break. -/
def Quiescent (s : NodeShutdown) : Prop :=
  ∀ label : Label, label.isRequest = false → label.isFault = false → s.step label = none

def Ended (s : NodeShutdown) (actor : NodeActor) : Prop :=
  (s.actors actor).pc = .stopped ∨ (s.actors actor).pc = .failed

def TaskProgress (s : NodeShutdown) : Prop :=
  match s.task with
  | .spawned => s.shutdownGuard = false
  | .select => True
  | .stop actors => ∀ actor, actor ∉ actors → s.Ended actor
  | .wait current actors => ((s.actors current).stopRequested ∨ s.Ended current) ∧
      ∀ actor, actor ∉ current :: actors → s.Ended actor
  | .finished => s.shutdownGuard = false ∧ ∀ actor, s.Ended actor

structure Progress (s : NodeShutdown) : Prop where
  tokens : s.shutdownMgr.delayTokens = if s.shutdownGuard then 1 else 0
  postStop : ∀ actor, (s.actors actor).pc = .postStop → (s.actors actor).stopRequested
  task : s.TaskProgress

variable {s : NodeShutdown}

theorem left_setActor (actor : NodeActor) (cell : ActorCell) :
    (s.setActor actor cell).left + (s.actors actor).pc.left = s.left + cell.pc.left := by
  cases actor <;> simp [left, actorCells, NodeShutdown.setActor] <;> omega

theorem Ended.setActor {a actor : NodeActor} {cell : ActorCell} (h : s.Ended a)
    (hactor : ¬ s.Ended actor) : (s.setActor actor cell).Ended a := by
  have hne : a ≠ actor := fun heq => hactor (heq ▸ h)
  simpa [Ended, NodeShutdown.setActor, hne] using h

theorem Progress.setActor (h : s.Progress) {actor : NodeActor} {cell : ActorCell}
    (hactor : ¬ s.Ended actor) (hpost : cell.pc = .postStop → cell.stopRequested)
    (hreq : (s.actors actor).stopRequested →
      cell.stopRequested ∨ cell.pc = .stopped ∨ cell.pc = .failed) :
    (s.setActor actor cell).Progress := by
  refine ⟨h.tokens, fun a ha => ?_, ?_⟩
  · simp only [NodeShutdown.setActor] at ha ⊢
    split at ha
    · rw [if_pos ‹_›]
      exact hpost ha
    · rw [if_neg ‹_›]
      exact h.postStop a ha
  · have htask := h.task
    cases ht : s.task with
    | spawned => simpa [TaskProgress, NodeShutdown.setActor, ht] using htask
    | select => simp [TaskProgress, NodeShutdown.setActor, ht]
    | stop actors =>
      simp only [TaskProgress, ht, NodeShutdown.setActor] at htask ⊢
      exact fun a ha => (htask a ha).setActor hactor
    | wait current actors =>
      simp only [TaskProgress, ht] at htask
      simp only [TaskProgress, NodeShutdown.setActor, ht]
      refine ⟨?_, fun a ha => (htask.2 a ha).setActor hactor⟩
      by_cases heq : current = actor
      · subst heq
        simpa [Ended] using hreq (htask.1.resolve_right hactor)
      · simpa [Ended, heq] using htask.1
    | finished =>
      simp only [TaskProgress, ht, NodeShutdown.setActor] at htask ⊢
      exact absurd (htask.2 actor) hactor

theorem Progress.stopAndWait (h : s.Progress) {actor : NodeActor} {actors : List NodeActor}
    (ht : s.task = .stop (actor :: actors)) :
    (s.stopAndWait actor actors).Progress ∧ (s.stopAndWait actor actors).left < s.left := by
  have htask := h.task
  simp only [TaskProgress, ht] at htask
  unfold NodeShutdown.stopAndWait
  split
  case h_1 hpc | h_2 hpc =>
    have hactor : ¬ s.Ended actor := by simp [Ended, hpc]
    have hset : (s.setActor actor { s.actors actor with stopRequested := true }).Progress :=
      h.setActor hactor (fun _ => rfl) (fun _ => .inl rfl)
    have hleft := left_setActor (s := s) actor { s.actors actor with stopRequested := true }
    refine ⟨⟨hset.tokens, hset.postStop, ?_⟩, ?_⟩
    · refine ⟨.inl (by simp [NodeShutdown.setActor]), fun a ha => ?_⟩
      exact (htask a ha).setActor hactor
    · simp only [left, ShutdownTaskPc.left, NodeShutdown.setActor, ht, List.length_cons] at hleft ⊢
      omega
  case h_3 hpc | h_4 hpc =>
    refine ⟨⟨h.tokens, h.postStop, fun a ha => ?_⟩, ?_⟩
    · by_cases heq : a = actor
      · simp [Ended, heq, hpc]
      · exact htask a (by simp [heq, ha])
    · simp only [left, ShutdownTaskPc.left, ht, List.length_cons]
      omega

theorem Progress.trigger (h : s.Progress) {mgr : ShutdownManager} {reason : Option String}
    (hs : s.shutdownMgr.triggerShutdown reason = .ok mgr) :
    Progress { s with shutdownMgr := mgr } := by
  unfold ShutdownManager.triggerShutdown at hs
  split at hs <;> cases hs
  exact ⟨h.tokens, h.postStop, h.task⟩

end NodeShutdown

end RosrustAsync
