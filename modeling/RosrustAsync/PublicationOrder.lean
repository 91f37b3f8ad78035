import RosrustAsync.Lib.Slots
import RosrustAsync.PublicationInvariant

namespace RosrustAsync

/-- What a task has written and will write first is in the order of the channel, and what was sent
since its receiver was made comes last, unless it lagged. -/
structure PublisherTask.Ordered (data : Broadcast Bytes) (task : PublisherTask) : Prop where
  dataRx_le : task.dataRx ≤ data.tail
  sublist : (task.written ++ task.latchedMessage.toList).Sublist (data.sent.take task.dataRx)
  complete : task.running → task.laggedAt = none → task.joined ≤ task.dataRx ∧
    data.window task.joined task.dataRx <:+ task.written ++ task.latchedMessage.toList

namespace PublisherTask.Ordered

variable {data : Broadcast Bytes} {task : PublisherTask}

theorem send (h : task.Ordered data) (m : Bytes) : task.Ordered (data.send m) := by
  have hle := h.dataRx_le
  refine ⟨?_, ?_, fun hr hl => ?_⟩
  · rw [Broadcast.tail_send]
    omega
  · simp only [Broadcast.send, List.take_append_of_le_length hle]
    exact h.sublist
  · rw [Broadcast.window_send _ m hle]
    exact h.complete hr hl

theorem stop (h : task.Ordered data) (latched : Option Bytes) {next : ℕ}
    (hl : latched.toList.Sublist task.latchedMessage.toList) (hle : task.dataRx ≤ next)
    (hn : next ≤ data.tail) {pc : PublisherTaskPc} (hpc : pc ≠ .run) :
    PublisherTask.Ordered data { task with latchedMessage := latched, dataRx := next, pc := pc } := by
  refine ⟨hn, ?_, fun hr => ?_⟩
  · have htake := List.take_sublist_take_left (l := data.sent) hle
    exact ((List.Sublist.refl task.written).append hl).trans (h.sublist.trans htake)
  · cases pc with
    | run => exact absurd rfl hpc
    | removeId | finished => cases hr

end PublisherTask.Ordered

namespace Publication

theorem taskWrite_ordered {data : Broadcast Bytes} {task task' : PublisherTask}
    {result : Except IoError Unit} (h : task.Ordered data)
    (hs : taskWrite task result = some task') : task'.Ordered data := by
  unfold taskWrite at hs
  split at hs
  · rename_i m hm
    cases result with
    | ok _ =>
      cases hs
      have hsublist := h.sublist
      have hcomplete := h.complete
      simp only [hm, Option.toList_some] at hsublist hcomplete
      exact ⟨h.dataRx_le, by simpa using hsublist, fun hr hl => by simpa using hcomplete hr hl⟩
    | error _ =>
      cases hs
      exact h.stop none (List.nil_sublist _) (le_refl _) h.dataRx_le (by decide)
  · cases hs

theorem taskRecv_ordered {data : Broadcast Bytes} {task task' : PublisherTask}
    {result : Except IoError Unit} (h : task.Ordered data)
    (hs : taskRecv data task result = some task') : task'.Ordered data := by
  unfold taskRecv at hs
  split at hs
  · cases hs
  · rename_i hnone
    obtain ⟨⟨received, next⟩, hrecv, hs⟩ := Option.bind_eq_some_iff.mp hs
    cases received with
    | value m =>
      obtain ⟨hm, rfl, hn⟩ := Broadcast.recv_value hrecv
      cases result with
      | ok _ =>
        cases hs
        have hsublist := h.sublist
        have hcomplete := h.complete
        simp only [hnone, Option.toList_none, List.append_nil] at hsublist hcomplete
        refine ⟨hn, ?_, fun hr hl => ?_⟩
        · obtain ⟨hlt, rfl⟩ := List.getElem?_eq_some_iff.mp hm
          simp only [hnone, Option.toList_none, List.append_nil, List.take_succ_eq_append_getElem hlt]
          exact hsublist.append (List.Sublist.refl _)
        · obtain ⟨hle, before, hbefore⟩ := hcomplete hr hl
          refine ⟨Nat.le_succ_of_le hle, before, ?_⟩
          simp only [hnone, Option.toList_none, List.append_nil]
          rw [Broadcast.window_succ hm hle, ← List.append_assoc, hbefore]
      | error _ =>
        cases hs
        exact h.stop task.latchedMessage (List.Sublist.refl _) (Nat.le_succ _) hn (by decide)
    | lagged missed =>
      obtain ⟨hlt, rfl⟩ := Broadcast.recv_lagged hrecv
      cases hs
      refine ⟨Nat.sub_le _ _, ?_, (fun _ hl => nomatch hl)⟩
      exact h.sublist.trans (List.take_sublist_take_left (Nat.le_of_lt hlt))
    | closed =>
      cases hs
      exact h.stop task.latchedMessage (List.Sublist.refl _) (le_refl _) h.dataRx_le (by decide)

structure Ordered (p : Publication) : Prop where
  dataRx_le : p.dataRx ≤ p.data.tail
  latched : p.latchedMessage.toList.Sublist (p.data.sent.take p.dataRx)
  tasks : ∀ task ∈ p.allTasks, task.Ordered p.data

theorem new_ordered {topic : Topic} {callerId : String} {queueSize : ℕ} {tcpNodelay latching : Bool}
    {p : Publication} (h : new topic callerId queueSize tcpNodelay latching = some p) :
    p.Ordered := by
  obtain ⟨data, hdata, h⟩ := Option.bind_eq_some_iff.mp h
  cases h
  exact ⟨le_refl _, List.nil_sublist _, (fun task ht => nomatch ht)⟩

theorem Ordered.set {p : Publication} (h : p.Ordered) (i : ℕ) {task : PublisherTask}
    (ht : task.Ordered p.data) (ids : Finset String) :
    Ordered { p with subscriberIds := ids, tasks := p.tasks.set i task } :=
  ⟨h.dataRx_le, h.latched, forall_allTasks_set h.tasks ht⟩

theorem Ordered.move {p q : Publication} {label : Label} (h : p.Ordered) (hs : p.Move label q) :
    q.Ordered := by
  have htasks : ∀ task ∈ p.tasks, task.Ordered p.data := fun task ht => h.tasks task (mem_allTasks ht)
  have htask : ∀ {i : ℕ} {task : PublisherTask}, p.tasks[i]? = some task → task.Ordered p.data :=
    fun hi => htasks _ (List.mem_of_getElem? hi)
  cases hs with
  | send m =>
    refine ⟨?_, ?_, fun task ht => (h.tasks task ht).send m⟩
    · have := h.dataRx_le
      simp only [Broadcast.tail_send]
      omega
    · simp only [Broadcast.send, List.take_append_of_le_length h.dataRx_le]
      exact h.latched
  | refused m | acceptError e hpc => exact h
  | close =>
    refine ⟨h.dataRx_le, h.latched, fun task ht => ?_⟩
    obtain ⟨hle, hsublist, hcomplete⟩ := h.tasks task ht
    exact ⟨hle, hsublist, hcomplete⟩
  | cancel => exact ⟨h.dataRx_le, h.latched, h.tasks⟩
  | listenerCancelled hpc | drained hpc | accept hpc | setupError hpc hsetup =>
    exact ⟨h.dataRx_le, h.latched, htasks⟩
  | @latch m hpc hm =>
    obtain ⟨hlt, rfl⟩ := List.getElem?_eq_some_iff.mp hm
    refine ⟨hlt, ?_, by simpa [allTasks, hpc] using htasks⟩
    rw [List.take_succ_eq_append_getElem hlt]
    exact List.sublist_append_right _ _
  | lag hpc hlt =>
    refine ⟨Nat.sub_le _ _, ?_, by simpa [allTasks, hpc] using htasks⟩
    exact h.latched.trans (List.take_sublist_take_left (Nat.le_of_lt hlt))
  | @setup stream header hpc hsetup =>
    refine ⟨h.dataRx_le, h.latched, fun task ht => ?_⟩
    rcases List.mem_cons.mp ht with rfl | ht
    · -- the receiver starts at the tail, behind all that the listener has taken
      refine ⟨le_refl _, h.latched.trans (List.take_sublist_take_left h.dataRx_le), fun _ _ => ?_⟩
      refine ⟨le_refl _, ?_⟩
      rw [Broadcast.window, List.drop_take_self]
      exact List.nil_suffix
    · exact htasks task ht
  | @register task hpc =>
    exact ⟨h.dataRx_le, h.latched, fun t ht => h.tasks t (mem_allTasks_register hpc ht)⟩
  | taskWrite hi hr ht => exact h.set _ (taskWrite_ordered (htask hi) ht) _
  | taskRecv hi hr ht => exact h.set _ (taskRecv_ordered (htask hi) ht) _
  | @taskCancelled i task hi hr =>
    exact h.set i ((htask hi).stop _ (List.Sublist.refl _) (le_refl _) (htask hi).dataRx_le
      (by decide)) _
  | @removeId i task hi hpc =>
    exact h.set i ((htask hi).stop _ (List.Sublist.refl _) (le_refl _) (htask hi).dataRx_le
      (by decide)) _

end Publication

end RosrustAsync
