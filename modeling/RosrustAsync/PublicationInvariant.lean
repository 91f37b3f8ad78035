import RosrustAsync.PublicationSteps

namespace RosrustAsync

def PublisherTask.beforeLag (task : PublisherTask) : List Bytes :=
  match task.laggedAt with
  | some n => task.written.take n
  | none => task.written

def PublisherTask.Gapless (data : Broadcast Bytes) (task : PublisherTask) : Prop :=
  1 ≤ task.joined → task.beforeLag <+: data.sent.drop (task.joined - 1)

structure PublisherTask.Invariant (data : Broadcast Bytes) (task : PublisherTask) : Prop where
  gapless : task.Gapless data
  joined_le : task.joined ≤ data.tail
  dataRx_le : task.dataRx ≤ data.tail
  current : 1 ≤ task.joined → task.running → task.laggedAt = none →
    task.joined ≤ task.dataRx ∧
      task.written ++ task.latchedMessage.toList = data.window (task.joined - 1) task.dataRx
  lagged_le : ∀ n, task.laggedAt = some n → n ≤ task.written.length

theorem PublisherTask.Invariant.send {data : Broadcast Bytes} {task : PublisherTask}
    (h : task.Invariant data) (m : Bytes) : task.Invariant (data.send m) := by
  refine ⟨fun hj => ?_, ?_, ?_, fun hj hr hl => ?_, h.lagged_le⟩
  · exact Broadcast.prefix_send m (h.gapless hj) (by have := h.joined_le; omega)
  · have := h.joined_le
    rw [Broadcast.tail_send]
    omega
  · have := h.dataRx_le
    rw [Broadcast.tail_send]
    omega
  · obtain ⟨hle, hw⟩ := h.current hj hr hl
    exact ⟨hle, hw.trans (Broadcast.window_send _ m h.dataRx_le).symm⟩

theorem PublisherTask.Invariant.stop {data : Broadcast Bytes} {task : PublisherTask}
    (h : task.Invariant data) (latched : Option Bytes) {next : ℕ} (hn : next ≤ data.tail)
    {pc : PublisherTaskPc} (hpc : pc ≠ .run) :
    PublisherTask.Invariant data { task with latchedMessage := latched, dataRx := next, pc := pc } := by
  refine ⟨h.gapless, h.joined_le, hn, fun _ hr => ?_, h.lagged_le⟩
  cases pc with
  | run => exact absurd rfl hpc
  | removeId | finished => cases hr

theorem PublisherTask.Invariant.write {data : Broadcast Bytes} {task : PublisherTask}
    (h : task.Invariant data) {m : Bytes} {next : ℕ} (hn : next ≤ data.tail)
    (hw : 1 ≤ task.joined → task.laggedAt = none → task.joined ≤ next ∧
      task.written ++ [m] = data.window (task.joined - 1) next) :
    PublisherTask.Invariant data
      { task with latchedMessage := none, dataRx := next, written := task.written ++ [m] } := by
  refine ⟨fun hj => ?_, h.joined_le, hn, fun hj _ hl => ?_, fun n hn => ?_⟩
  · have hg := h.gapless hj
    cases hl : task.laggedAt with
    | none =>
      simp only [beforeLag]
      rw [(hw hj hl).2]
      exact Broadcast.window_prefix _ _
    | some n =>
      simp only [beforeLag, hl] at hg ⊢
      rwa [List.take_append_of_le_length (h.lagged_le n hl)]
  · exact ⟨(hw hj hl).1, by simpa using (hw hj hl).2⟩
  · have := h.lagged_le n hn
    rw [List.length_append]
    omega

namespace Publication

theorem taskWrite_invariant {data : Broadcast Bytes} {task task' : PublisherTask}
    {result : Except IoError Unit} (h : task.Invariant data) (hr : task.running)
    (hs : taskWrite task result = some task') : task'.Invariant data := by
  unfold taskWrite at hs
  split at hs
  · rename_i m hm
    cases result with
    | ok _ =>
      cases hs
      exact h.write h.dataRx_le fun hj hl => by simpa [hm] using h.current hj hr hl
    | error _ =>
      cases hs
      exact h.stop none h.dataRx_le (by decide)
  · cases hs

theorem taskRecv_invariant {data : Broadcast Bytes} {task task' : PublisherTask}
    {result : Except IoError Unit} (h : task.Invariant data) (hr : task.running)
    (hs : taskRecv data task result = some task') : task'.Invariant data := by
  unfold taskRecv at hs
  split at hs
  · cases hs
  · rename_i hnone
    obtain ⟨⟨received, next⟩, hrecv, hs⟩ := Option.bind_eq_some_iff.mp hs
    cases received with
    | value m =>
      obtain ⟨hm, rfl, hn⟩ := Broadcast.recv_value hrecv
      cases result with
      | ok _ =>
        cases hs
        have hw := h.write (m := m) hn fun hj hl => by
          obtain ⟨hle, hcur⟩ := h.current hj hr hl
          rw [hnone, Option.toList_none, List.append_nil] at hcur
          exact ⟨by omega, by rw [hcur, Broadcast.window_succ hm (by omega)]⟩
        rwa [← hnone] at hw
      | error _ =>
        cases hs
        exact h.stop task.latchedMessage hn (by decide)
    | lagged missed =>
      obtain ⟨hlt, rfl⟩ := Broadcast.recv_lagged hrecv
      cases hs
      refine ⟨fun hj => ?_, h.joined_le, Nat.sub_le _ _, (fun _ _ hl => nomatch hl), fun n hn => ?_⟩
      · have hg := h.gapless hj
        cases hl : task.laggedAt with
        | none => simpa [PublisherTask.beforeLag, hl] using hg
        | some n => simpa [PublisherTask.beforeLag, hl] using hg
      · cases hl : task.laggedAt with
        | none =>
          simp only [hl, Option.getD_none, Option.some.injEq] at hn
          exact hn.ge
        | some k =>
          simp only [hl, Option.getD_some, Option.some.injEq] at hn
          exact hn ▸ h.lagged_le k hl
    | closed =>
      cases hs
      exact h.stop task.latchedMessage h.dataRx_le (by decide)

structure Invariant (p : Publication) : Prop where
  latching : p.header.latching = true
  capacity : 0 < p.data.capacity
  dataRx_le : p.dataRx ≤ p.data.tail
  latched : p.dataRx = p.data.tail → p.latchedMessage = p.data.sent.getLast?
  tasks : ∀ task ∈ p.allTasks, task.Invariant p.data

/-- Nothing that was sent is unread by the listener when a new receiver is made. -/
def CaughtUp (self : Publication) : Label → Prop
  | .setup stream => (setupConnection self.header self.tcpNodelay stream).isOk →
      self.data.sent ≠ [] → self.dataRx = self.data.tail
  | _ => True

theorem new_invariant {topic : Topic} {callerId : String} {queueSize : ℕ} {tcpNodelay : Bool}
    {self : Publication} (h : new topic callerId queueSize tcpNodelay true = some self) :
    self.Invariant := by
  obtain ⟨data, hdata, h⟩ := Option.bind_eq_some_iff.mp h
  obtain ⟨hcap, hsent, -⟩ := Broadcast.channel_eq_some hdata
  cases h
  refine ⟨rfl, hcap, le_refl _, fun _ => ?_, fun task ht => ?_⟩
  · simp [hsent]
  · cases ht

theorem set_invariant {self : Publication} (h : self.Invariant) (i : ℕ) {task : PublisherTask}
    (ht : task.Invariant self.data) (ids : Finset String) :
    Invariant { self with subscriberIds := ids, tasks := self.tasks.set i task } :=
  ⟨h.latching, h.capacity, h.dataRx_le, h.latched, forall_allTasks_set h.tasks ht⟩

end Publication

end RosrustAsync
