import RosrustAsync.SubscriptionSteps

namespace RosrustAsync

def framesOf (i : ℕ) (frames : List Frame) : List Frame := frames.filter (·.task == i)

theorem framesOf_append (i : ℕ) (xs ys : List Frame) :
    framesOf i (xs ++ ys) = framesOf i xs ++ framesOf i ys := List.filter_append ..

theorem framesOf_self (i : ℕ) (data : Bytes) : framesOf i [⟨i, data⟩] = [⟨i, data⟩] := by
  simp [framesOf]

theorem framesOf_of_ne {i j : ℕ} (data : Bytes) (h : j ≠ i) : framesOf i [⟨j, data⟩] = [] := by
  simp [framesOf, h]

/-- Absent lag, what a handle has returned and will return is its snapshot and all that follows. -/
structure SubscriberHandle.Stream (data : Broadcast Frame) (handle : SubscriberHandle) : Prop where
  joined_le : handle.joined ≤ data.tail
  dataRx_le : handle.dataRx ≤ data.tail
  stream : handle.lagged = false → handle.got ++ handle.latchedMsgs ++ data.sent.drop handle.dataRx =
    handle.snapshot ++ data.sent.drop handle.joined

structure SubscriberHandle.Invariant (data : Broadcast Frame) (handle : SubscriberHandle) : Prop
    extends SubscriberHandle.Stream data handle where
  snapshot : ∀ i ∈ handle.publishers,
    framesOf i handle.snapshot = (framesOf i (data.sent.take handle.joined)).getLast?.toList

theorem SubscriberHandle.Stream.send {data : Broadcast Frame} {handle : SubscriberHandle}
    (h : handle.Stream data) (frame : Frame) : handle.Stream (data.send frame) := by
  have hj := h.joined_le
  have hd := h.dataRx_le
  refine ⟨?_, ?_, fun hl => ?_⟩
  · rw [Broadcast.tail_send]
    omega
  · rw [Broadcast.tail_send]
    omega
  · simp only [Broadcast.send, List.drop_append_of_le_length hd, List.drop_append_of_le_length hj,
      ← List.append_assoc]
    rw [h.stream hl]

theorem SubscriberHandle.Invariant.send {data : Broadcast Frame} {handle : SubscriberHandle}
    (h : handle.Invariant data) (frame : Frame) : handle.Invariant (data.send frame) := by
  refine ⟨h.toStream.send frame, ?_⟩
  simp only [Broadcast.send, List.take_append_of_le_length h.joined_le]
  exact h.snapshot

namespace Subscription

theorem recvRaw_cases {data : Broadcast Frame} {closed : Bool} {handle handle' : SubscriberHandle}
    (hs : recvRaw { data with closed := closed } handle = some handle') :
    (∃ m ms, handle.latchedMsgs = m :: ms ∧
      handle' = { handle with latchedMsgs := ms, got := handle.got ++ [m] }) ∨
    (handle.latchedMsgs = [] ∧ ∃ m, data.sent[handle.dataRx]? = some m ∧
      handle' = { handle with dataRx := handle.dataRx + 1, got := handle.got ++ [m] }) ∨
    (∃ next, handle.dataRx < next ∧ next ≤ data.tail ∧
      handle' = { handle with dataRx := next, lagged := true }) ∨ handle' = handle := by
  unfold recvRaw at hs
  split at hs
  · rename_i m ms hms
    cases hs
    exact .inl ⟨m, ms, hms, rfl⟩
  · rename_i hnone
    obtain ⟨⟨received, next⟩, hrecv, hs⟩ := Option.bind_eq_some_iff.mp hs
    cases received with
    | value m =>
      obtain ⟨hm, rfl, -⟩ := Broadcast.recv_value hrecv
      cases hs
      exact .inr (.inl ⟨hnone, m, hm, rfl⟩)
    | lagged missed =>
      obtain ⟨hlt, rfl⟩ := Broadcast.recv_lagged hrecv
      cases hs
      exact .inr (.inr (.inl ⟨_, Nat.lt_of_lt_of_le hlt (le_refl _), Nat.sub_le _ _, rfl⟩))
    | closed =>
      cases hs
      exact .inr (.inr (.inr rfl))

theorem recvRaw_stream {data : Broadcast Frame} {closed : Bool} {handle handle' : SubscriberHandle}
    (h : handle.Stream data) (hs : recvRaw { data with closed := closed } handle = some handle') :
    handle'.Stream data := by
  rcases recvRaw_cases hs with ⟨m, ms, hms, rfl⟩ | ⟨hnone, m, hm, rfl⟩ | ⟨next, -, hn, rfl⟩ | rfl
  · exact ⟨h.joined_le, h.dataRx_le, fun hl => by simpa [hms] using h.stream hl⟩
  · obtain ⟨hlt, rfl⟩ := List.getElem?_eq_some_iff.mp hm
    refine ⟨h.joined_le, hlt, fun hl => ?_⟩
    have hstream := h.stream hl
    simp only [hnone, List.append_nil] at hstream ⊢
    rw [← hstream, List.drop_eq_getElem_cons hlt, List.append_assoc]
    rfl
  · exact ⟨h.joined_le, hn, (fun hl => nomatch hl)⟩
  · exact h

theorem recvRaw_invariant {data : Broadcast Frame} {closed : Bool}
    {handle handle' : SubscriberHandle} (h : handle.Invariant data)
    (hs : recvRaw { data with closed := closed } handle = some handle') :
    handle'.Invariant data := by
  obtain ⟨hjoined, hsnapshot, hpublishers⟩ := recvRaw_joined hs
  refine ⟨recvRaw_stream h.toStream hs, ?_⟩
  rw [hjoined, hsnapshot, hpublishers]
  exact h.snapshot

theorem mem_latchingPublishers {s : Subscription} {i : ℕ} : i ∈ s.latchingPublishers ↔
    ∃ task, s.tasks[i]? = some task ∧ connected task ∧ task.publisherHeader.latching := by
  unfold latchingPublishers
  rw [List.mem_filter, List.mem_range]
  constructor
  · rintro ⟨hi, h⟩
    rw [List.getElem?_eq_getElem hi] at h
    exact ⟨_, List.getElem?_eq_getElem hi, by simpa using h⟩
  · rintro ⟨task, ht, hc, hl⟩
    exact ⟨(List.getElem?_eq_some_iff.mp ht).1, by simp [ht, hc, hl]⟩

structure Invariant (s : Subscription) : Prop where
  task_lt : ∀ frame ∈ s.data.sent, frame.task < s.tasks.length
  key : ∀ k frame, s.latchedMsgs.lookup k = some frame → ∃ task, s.tasks[frame.task]? = some task ∧
    task.publisherHeader.callerId = k ∧ task.publisherHeader.latching
  last : ∀ k frame task, s.latchedMsgs.lookup k = some frame → s.tasks[frame.task]? = some task →
    (∀ data, task.pc ≠ .store data) → (framesOf frame.task s.data.sent).getLast? = some frame
  storing : ∀ i task data, s.tasks[i]? = some task → task.pc = .store data →
    task.publisherHeader.latching ∧ (framesOf i s.data.sent).getLast? = some ⟨i, data⟩
  snapshot : ∀ latched, s.owner = .subscribe latched → ∀ i ∈ s.latchingPublishers,
    framesOf i latched = (framesOf i s.data.sent).getLast?.toList
  handles : ∀ handle ∈ s.handles, handle.Invariant s.data

/-- No latching task is between its send and its store when the store is read, each has its own
entry there, and none sends before the receiver is made. -/
def Settled (s : Subscription) : Label → Prop
  | .latchedMsgs spec _ => (spec.validateCompatibility s.topic.spec).isOk →
      ∀ i task, s.tasks[i]? = some task → connected task → task.publisherHeader.latching →
        task.pc = .select ∧ (framesOf i s.data.sent ≠ [] → ∃ frame,
          s.latchedMsgs.lookup task.publisherHeader.callerId = some frame ∧ frame.task = i)
  | .taskRead i (.ok _) => ∀ latched, s.owner = .subscribe latched →
      ∀ task, s.tasks[i]? = some task → task.publisherHeader.latching = false
  | _ => True

theorem new_invariant {topic : Topic} {callerId : String} {queueSize : ℕ} {tcpNodelay : Bool}
    {s : Subscription} (h : new topic callerId queueSize tcpNodelay = some s) : s.Invariant := by
  obtain ⟨data, hdata, h⟩ := Option.bind_eq_some_iff.mp h
  obtain ⟨-, hsent, -⟩ := Broadcast.channel_eq_some hdata
  cases h
  refine ⟨?_, ?_, ?_, ?_, ?_, ?_⟩
  · simp [hsent]
  · simp
  · simp
  · simp
  · simp
  · intro handle hh
    obtain rfl := List.mem_singleton.mp hh
    exact ⟨⟨le_refl _, le_refl _, fun _ => rfl⟩, fun i hi => nomatch hi⟩

theorem exists_setPc {tasks : List SubscriberTask} {i j : ℕ} {task t : SubscriberTask}
    (pc : SubscriberTaskPc) (hi : tasks[i]? = some task) (hj : tasks[j]? = some t) :
    ∃ t', (tasks.set i { task with pc := pc })[j]? = some t' ∧
      t'.publisherHeader = t.publisherHeader := by
  rw [List.getElem?_set]
  split
  · rename_i hij
    subst hij
    rw [hi] at hj
    cases hj
    rw [if_pos (List.getElem?_eq_some_iff.mp hi).1]
    exact ⟨_, rfl, rfl⟩
  · exact ⟨t, hj, rfl⟩

theorem Invariant.setPc {s : Subscription} (h : s.Invariant) {i : ℕ} {task : SubscriberTask}
    {pc : SubscriberTaskPc} (hi : s.tasks[i]? = some task) (hold : ∀ data, task.pc ≠ .store data)
    (hnew : ∀ data, pc ≠ .store data) (hpc : connected { task with pc := pc } → connected task)
    (addrs : Finset String) {latched : AList fun _ : String => Frame}
    (hl : ∀ k frame, latched.lookup k = some frame → s.latchedMsgs.lookup k = some frame) :
    Invariant { s with
      publisherAddrs := addrs
      latchedMsgs := latched
      tasks := s.tasks.set i { task with pc := pc } } := by
  refine ⟨?_, fun k frame hk => ?_, fun k frame t hk ht hns => ?_, fun j t data ht hst => ?_,
    fun latched' ho j hj => ?_, h.handles⟩
  · simpa using h.task_lt
  · obtain ⟨t, ht, hkey⟩ := h.key k frame (hl k frame hk)
    obtain ⟨t', ht', hheader⟩ := exists_setPc pc hi ht
    exact ⟨t', ht', hheader ▸ hkey⟩
  · rcases getElem?_set_cases ht with ⟨hji, rfl⟩ | ⟨-, ht⟩
    · exact h.last k frame task (hl k frame hk) (hji ▸ hi) hold
    · exact h.last k frame t (hl k frame hk) ht hns
  · rcases getElem?_set_cases ht with ⟨-, rfl⟩ | ⟨-, ht⟩
    · exact absurd hst (hnew data)
    · exact h.storing j t data ht hst
  · refine h.snapshot latched' ho j (mem_latchingPublishers.mpr ?_)
    obtain ⟨t, ht, hc, hlatching⟩ := mem_latchingPublishers.mp hj
    rcases getElem?_set_cases ht with ⟨rfl, rfl⟩ | ⟨-, ht⟩
    · exact ⟨task, hi, hpc hc, hlatching⟩
    · exact ⟨t, ht, hc, hlatching⟩

theorem Invariant.send {s : Subscription} (h : s.Invariant) {i : ℕ} {task : SubscriberTask}
    (hi : s.tasks[i]? = some task) (data : Bytes)
    (hok : ∀ latched, s.owner = .subscribe latched → task.publisherHeader.latching = false) :
    Invariant { s with
      data := s.data.send ⟨i, data⟩
      tasks := s.tasks.set i
        { task with pc := if task.publisherHeader.latching then .store data else .select } } := by
  have hne : ∀ j, j ≠ i → framesOf j (s.data.send ⟨i, data⟩).sent = framesOf j s.data.sent :=
    fun j hj => by
      rw [Broadcast.send, framesOf_append, framesOf_of_ne data hj.symm, List.append_nil]
  refine ⟨fun frame hf => ?_, fun k frame hk => ?_, fun k frame t hk ht hns => ?_,
    fun j t d ht hst => ?_, fun latched ho j hj => ?_, fun handle hh => (h.handles handle hh).send _⟩
  · rw [List.length_set]
    rcases List.mem_append.mp hf with hf | hf
    · exact h.task_lt frame hf
    · obtain rfl := List.mem_singleton.mp hf
      exact (List.getElem?_eq_some_iff.mp hi).1
  · obtain ⟨t, ht, hkey⟩ := h.key k frame hk
    obtain ⟨t', ht', hheader⟩ := exists_setPc _ hi ht
    exact ⟨t', ht', hheader ▸ hkey⟩
  · rcases getElem?_set_cases ht with ⟨hji, rfl⟩ | ⟨hji, ht⟩
    · -- an entry of this task: it is latching, and so about to store what it has just sent
      obtain ⟨t, ht, -, hlatching⟩ := h.key k frame hk
      rw [hji, hi] at ht
      cases ht
      exact absurd (if_pos hlatching) (hns data)
    · exact (congrArg List.getLast? (hne _ hji)).trans (h.last k frame t hk ht hns)
  · rcases getElem?_set_cases ht with ⟨rfl, rfl⟩ | ⟨hji, ht⟩
    · simp only at hst
      split at hst
      · rename_i hlatching
        cases hst
        refine ⟨hlatching, ?_⟩
        rw [Broadcast.send, framesOf_append, framesOf_self, List.getLast?_concat]
      · cases hst
    · rw [hne j hji]
      exact h.storing j t d ht hst
  · obtain ⟨t, ht, hc, hlatching⟩ := mem_latchingPublishers.mp hj
    rcases getElem?_set_cases ht with ⟨-, rfl⟩ | ⟨hji, ht⟩
    · exact absurd (hok latched ho) (by simpa using hlatching)
    · rw [hne j hji]
      exact h.snapshot latched ho j (mem_latchingPublishers.mpr ⟨t, ht, hc, hlatching⟩)

theorem Invariant.store {s : Subscription} (h : s.Invariant) {i : ℕ} {task : SubscriberTask}
    {data : Bytes} (hi : s.tasks[i]? = some task) (hpc : task.pc = .store data) :
    Invariant { s with
      latchedMsgs := s.latchedMsgs.insert task.publisherHeader.callerId ⟨i, data⟩
      tasks := s.tasks.set i { task with pc := .select } } := by
  obtain ⟨hlatching, hlast⟩ := h.storing i task data hi hpc
  refine ⟨?_, fun k frame hk => ?_, fun k frame t hk ht hns => ?_, fun j t d ht hst => ?_,
    fun latched ho j hj => ?_, h.handles⟩
  · simpa using h.task_lt
  · by_cases hkc : k = task.publisherHeader.callerId
    · subst hkc
      rw [AList.lookup_insert] at hk
      cases hk
      exact ⟨_, List.getElem?_set_self (List.getElem?_eq_some_iff.mp hi).1, rfl, hlatching⟩
    · rw [AList.lookup_insert_ne hkc] at hk
      obtain ⟨t, ht, hkey⟩ := h.key k frame hk
      obtain ⟨t', ht', hheader⟩ := exists_setPc .select hi ht
      exact ⟨t', ht', hheader ▸ hkey⟩
  · by_cases hkc : k = task.publisherHeader.callerId
    · subst hkc
      rw [AList.lookup_insert] at hk
      cases hk
      exact hlast
    · rw [AList.lookup_insert_ne hkc] at hk
      rcases getElem?_set_cases ht with ⟨hji, rfl⟩ | ⟨-, ht⟩
      · obtain ⟨t, ht, hkey, -⟩ := h.key k frame hk
        rw [hji, hi] at ht
        cases ht
        exact absurd hkey.symm hkc
      · exact h.last k frame t hk ht hns
  · rcases getElem?_set_cases ht with ⟨-, rfl⟩ | ⟨-, ht⟩
    · cases hst
    · exact h.storing j t d ht hst
  · refine h.snapshot latched ho j (mem_latchingPublishers.mpr ?_)
    obtain ⟨t, ht, hc, hl⟩ := mem_latchingPublishers.mp hj
    rcases getElem?_set_cases ht with ⟨rfl, rfl⟩ | ⟨-, ht⟩
    · exact ⟨task, hi, by simp [connected, hpc], hl⟩
    · exact ⟨t, ht, hc, hl⟩

theorem Invariant.nodup_latchedValues {s : Subscription} (h : s.Invariant) :
    s.latchedValues.Nodup := by
  apply s.latchedMsgs.nodupKeys.nodup.map_on
  rintro ⟨k, frame⟩ hx ⟨k', frame'⟩ hy heq
  cases heq
  obtain ⟨task, ht, hk, -⟩ := h.key k frame (AList.mem_lookup_iff.mpr hx)
  obtain ⟨task', ht', hk', -⟩ := h.key k' frame (AList.mem_lookup_iff.mpr hy)
  rw [ht] at ht'
  cases ht'
  rw [← hk, ← hk']

theorem Invariant.snapshot_latchedMsgs {s : Subscription} (h : s.Invariant) {spec : TopicSpec}
    {order : List Frame} (hok : s.Settled (.latchedMsgs spec order))
    (hspec : (spec.validateCompatibility s.topic.spec).isOk)
    (horder : order.Perm s.latchedValues) {i : ℕ} (hi : i ∈ s.latchingPublishers) :
    framesOf i order = (framesOf i s.data.sent).getLast?.toList := by
  obtain ⟨task, ht, hc, hl⟩ := mem_latchingPublishers.mp hi
  obtain ⟨hpc, hown⟩ := hok hspec i task ht hc hl
  have hlast : ∀ k frame, s.latchedMsgs.lookup k = some frame → frame.task = i →
      (framesOf i s.data.sent).getLast? = some frame := by
    rintro k frame hk rfl
    exact h.last k frame task hk ht fun data hs => by rw [hpc] at hs; cases hs
  have hmem : ∀ frame, frame ∈ framesOf i order ↔
      (framesOf i s.data.sent).getLast? = some frame := by
    intro frame
    rw [framesOf, List.mem_filter, horder.mem_iff, latchedValues, List.mem_map, beq_iff_eq]
    constructor
    · rintro ⟨⟨⟨k, frame⟩, he, rfl⟩, hf⟩
      exact hlast k frame (AList.mem_lookup_iff.mpr he) hf
    · intro hg
      obtain ⟨own, hlookup, hf⟩ := hown fun hnil => by rw [hnil] at hg; cases hg
      obtain rfl := Option.some.inj ((hlast _ own hlookup hf).symm.trans hg)
      exact ⟨⟨_, AList.mem_lookup_iff.mp hlookup, rfl⟩, hf⟩
  have hnodup : (framesOf i order).Nodup :=
    ((horder.nodup_iff).mpr h.nodup_latchedValues).filter _
  cases hg : (framesOf i s.data.sent).getLast? with
  | none =>
    apply List.eq_nil_iff_forall_not_mem.mpr
    intro frame hf
    rw [hmem, hg] at hf
    cases hf
  | some frame =>
    refine List.perm_singleton.mp ((List.perm_ext_iff_of_nodup hnodup (List.nodup_singleton _)).mpr
      fun f => ?_)
    rw [hmem, hg, List.mem_singleton, Option.some.injEq, eq_comm]

end Subscription

end RosrustAsync
