import RosrustAsync.PublicationInvariant

namespace RosrustAsync.Publication

open Runs

theorem Invariant.move {self self' : Publication} {label : Label} (h : self.Invariant)
    (hok : self.CaughtUp label) (hs : self.Move label self') : self'.Invariant := by
  have htasks : ∀ task ∈ self.tasks, task.Invariant self.data :=
    fun task ht => h.tasks task (mem_allTasks ht)
  have htask : ∀ {i : ℕ} {task : PublisherTask}, self.tasks[i]? = some task →
      task.Invariant self.data :=
    fun hi => htasks _ (List.mem_of_getElem? hi)
  cases hs with
  | send m =>
    have hle := h.dataRx_le
    refine ⟨h.latching, h.capacity, ?_, fun heq => ?_, fun task ht => (h.tasks task ht).send m⟩
    · simp only [Broadcast.tail_send]
      omega
    · simp only [Broadcast.tail_send] at heq
      omega
  | refused m | acceptError e hpc => exact h
  | close =>
    exact ⟨h.latching, h.capacity, h.dataRx_le, h.latched, fun task ht =>
      let ht := h.tasks task ht
      ⟨ht.gapless, ht.joined_le, ht.dataRx_le, ht.current, ht.lagged_le⟩⟩
  | cancel => exact ⟨h.latching, h.capacity, h.dataRx_le, h.latched, h.tasks⟩
  | listenerCancelled hpc | drained hpc | accept hpc | setupError hpc hsetup =>
    exact ⟨h.latching, h.capacity, h.dataRx_le, h.latched, htasks⟩
  | @latch m hpc hm =>
    obtain ⟨hlt, hm⟩ := List.getElem?_eq_some_iff.mp hm
    refine ⟨h.latching, h.capacity, hlt, fun heq => ?_, by simpa [allTasks, hpc] using htasks⟩
    simp only [Broadcast.tail] at heq
    rw [List.getLast?_eq_getElem?, ← heq, Nat.add_sub_cancel, List.getElem?_eq_getElem hlt, hm]
  | lag hpc hlt =>
    have := h.capacity
    exact ⟨h.latching, h.capacity, Nat.sub_le _ _, fun heq => by simp only at heq; omega,
      by simpa [allTasks, hpc] using htasks⟩
  | @setup stream header hpc hsetup =>
    refine ⟨h.latching, h.capacity, h.dataRx_le, h.latched, fun task ht => ?_⟩
    rcases List.mem_cons.mp ht with rfl | ht
    · have hnew : self.data.sent ≠ [] → self.latchedMessage.toList =
          self.data.window (self.data.tail - 1) self.data.tail := fun hne => by
        rw [h.latched (hok (by rw [hsetup]; rfl) hne), Broadcast.window_last hne]
      refine ⟨fun _ => List.nil_prefix, le_refl _, le_refl _, fun hj _ _ => ⟨le_refl _, ?_⟩,
        by rintro n ⟨⟩⟩
      exact hnew (List.ne_nil_of_length_pos hj)
    · exact htasks task ht
  | @register task hpc =>
    exact ⟨h.latching, h.capacity, h.dataRx_le, h.latched,
      fun t ht => h.tasks t (mem_allTasks_register hpc ht)⟩
  | taskWrite hi hr ht => exact set_invariant h _ (taskWrite_invariant (htask hi) hr ht) _
  | taskRecv hi hr ht => exact set_invariant h _ (taskRecv_invariant (htask hi) hr ht) _
  | @taskCancelled i task hi hr =>
    exact set_invariant h i ((htask hi).stop task.latchedMessage (htask hi).dataRx_le (by decide)) _
  | @removeId i task hi hpc =>
    exact set_invariant h i ((htask hi).stop task.latchedMessage (htask hi).dataRx_le (by decide)) _

theorem latched_join {topic : Topic} {callerId : String} {queueSize : ℕ} {tcpNodelay : Bool}
    {p q : Publication} {labels : List Label}
    (hnew : new topic callerId queueSize tcpNodelay true = some p)
    (hrun : Run step CaughtUp p labels q) {task : PublisherTask} (ht : task ∈ q.tasks)
    (hjoined : 1 ≤ task.joined) :
    task.beforeLag <+: q.data.sent.drop (task.joined - 1) ∧
      (task.running → task.laggedAt = none →
        task.written ++ task.latchedMessage.toList ++ q.data.sent.drop task.dataRx =
          q.data.sent.drop (task.joined - 1)) := by
  have hq := hrun.invariant (fun _ _ _ h hok hs => h.move hok (step_move hs)) (new_invariant hnew)
  have htask := hq.tasks task (mem_allTasks ht)
  refine ⟨htask.gapless hjoined, fun hr hl => ?_⟩
  obtain ⟨hle, hcurrent⟩ := htask.current hjoined hr hl
  rw [hcurrent]
  exact Broadcast.window_append_drop (by omega) htask.dataRx_le

def latchTopic : Topic := ⟨"/latch_test", ⟨"*", "*", ""⟩⟩

def joining : SetupIo := ⟨.ok ⟨"/listener", "/latch_test", "*", "*", "", false⟩, .ok (), .ok ()⟩

def latchPublication : Publication := (new latchTopic "/talker" 4 false true).get rfl

theorem latched_join_caught_up : ∃ (q : Publication) (task : PublisherTask),
    task ∈ q.tasks ∧ task.written = [[1]] ∧
      task.beforeLag <+: q.data.sent.drop (task.joined - 1) ∧
      task.written ++ task.latchedMessage.toList ++ q.data.sent.drop task.dataRx =
        q.data.sent.drop (task.joined - 1) := by
  obtain ⟨q, hrun, task, ht, hw, hj, hr, hl⟩ : ∃ q, Run step CaughtUp latchPublication [.send [1],
      .listenerRecv, .accept (.ok ()), .setup joining, .register, .taskWrite 0 (.ok ())] q ∧
      ∃ task ∈ q.tasks, task.written = [[1]] ∧ task.joined = 1 ∧ task.running ∧
        task.laggedAt = none :=
    ⟨_, .cons trivial rfl <| .cons trivial rfl <| .cons trivial rfl <| .cons (fun _ _ => rfl) rfl <|
      .cons trivial rfl <| .cons trivial rfl <| .nil _, _, List.mem_singleton_self _, rfl, rfl, rfl,
      rfl⟩
  have hnew : new latchTopic "/talker" 4 false true = some latchPublication := rfl
  obtain ⟨hwritten, hrest⟩ := latched_join hnew hrun ht hj.ge
  exact ⟨q, task, ht, hw, hwritten, hrest hr hl⟩

/-- The listener takes the connection first: the message sent before is in neither. -/
theorem latched_message_missed : ∃ (q : Publication) (labels : List Label) (task : PublisherTask),
    new latchTopic "/talker" 4 false true = some latchPublication ∧
      Run step (fun _ _ => True) latchPublication labels q ∧ task ∈ q.tasks ∧ 1 ≤ task.joined ∧
        ¬ task.beforeLag <+: q.data.sent.drop (task.joined - 1) := by
  refine ⟨_, [.send [1], .accept (.ok ()), .setup joining, .register, .send [2],
    .taskRecv 0 (.ok ())], _, rfl, run_of_exec rfl (fun _ _ _ => trivial),
    List.mem_singleton_self _, by decide, by decide⟩

end RosrustAsync.Publication
