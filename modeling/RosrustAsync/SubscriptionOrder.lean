import RosrustAsync.SubscriptionInvariant

namespace RosrustAsync

theorem mem_of_framesOf_sublist {xs ys : List Frame}
    (h : ∀ i, (framesOf i xs).Sublist (framesOf i ys)) {frame : Frame} (hf : frame ∈ xs) :
    frame ∈ ys := by
  have hmem : frame ∈ framesOf frame.task xs := List.mem_filter.mpr ⟨hf, by simp⟩
  exact (List.mem_filter.mp ((h _).subset hmem)).1

theorem framesOf_sublist (i : ℕ) {xs ys : List Frame} (h : xs.Sublist ys) :
    (framesOf i xs).Sublist (framesOf i ys) := h.filter _

/-- Task by task, what a handle has returned and will return first is in the order of the channel. -/
structure SubscriberHandle.Ordered (data : Broadcast Frame) (handle : SubscriberHandle) : Prop
    extends SubscriberHandle.Stream data handle where
  snapshot : ∀ i, (framesOf i handle.snapshot).Sublist (framesOf i data.sent)
  ordered : ∀ i, (framesOf i (handle.got ++ handle.latchedMsgs)).Sublist
    (framesOf i (data.sent.take handle.dataRx))

theorem SubscriberHandle.Ordered.send {data : Broadcast Frame} {handle : SubscriberHandle}
    (h : handle.Ordered data) (frame : Frame) : handle.Ordered (data.send frame) := by
  refine ⟨h.toStream.send frame, fun i => ?_, fun i => ?_⟩
  · rw [Broadcast.send, framesOf_append]
    exact (h.snapshot i).trans (List.sublist_append_left _ _)
  · simp only [Broadcast.send, List.take_append_of_le_length h.dataRx_le]
    exact h.ordered i

theorem SubscriberHandle.ordered_new {data : Broadcast Frame} {latched : List Frame}
    (h : ∀ i, (framesOf i latched).Sublist (framesOf i data.sent)) (publishers : List ℕ) :
    SubscriberHandle.Ordered data ⟨latched, data.tail, true, latched, data.tail, publishers, [],
      false⟩ := by
  refine ⟨⟨le_refl _, le_refl _, fun _ => rfl⟩, h, fun i => ?_⟩
  rw [Broadcast.tail, List.take_length]
  exact h i

namespace Subscription

theorem recvRaw_ordered {data : Broadcast Frame} {closed : Bool} {handle handle' : SubscriberHandle}
    (h : handle.Ordered data) (hs : recvRaw { data with closed := closed } handle = some handle') :
    handle'.Ordered data := by
  obtain ⟨-, hsnapshot, -⟩ := recvRaw_joined hs
  refine ⟨recvRaw_stream h.toStream hs, hsnapshot ▸ h.snapshot, fun i => ?_⟩
  rcases recvRaw_cases hs with ⟨m, ms, hms, rfl⟩ | ⟨hnone, m, hm, rfl⟩ | ⟨next, hlt, -, rfl⟩ | rfl
  · simpa [hms] using h.ordered i
  · obtain ⟨hlt, rfl⟩ := List.getElem?_eq_some_iff.mp hm
    have hordered := h.ordered i
    simp only [hnone, List.append_nil] at hordered ⊢
    rw [List.take_succ_eq_append_getElem hlt, framesOf_append, framesOf_append]
    exact hordered.append (List.Sublist.refl _)
  · have htake := List.take_sublist_take_left (l := data.sent) (Nat.le_of_lt hlt)
    exact (h.ordered i).trans (framesOf_sublist i htake)
  · exact h.ordered i

structure Ordered (s : Subscription) : Prop where
  task_lt : ∀ frame ∈ s.data.sent, frame.task < s.tasks.length
  stored : ∀ k frame, s.latchedMsgs.lookup k = some frame → frame ∈ s.data.sent ∧
    ∃ task, s.tasks[frame.task]? = some task ∧ task.publisherHeader.callerId = k
  storing : ∀ i task data, s.tasks[i]? = some task → task.pc = .store data →
    ⟨i, data⟩ ∈ s.data.sent
  snapshot : ∀ latched, s.owner = .subscribe latched →
    ∀ i, (framesOf i latched).Sublist (framesOf i s.data.sent)
  handles : ∀ handle ∈ s.handles, handle.Ordered s.data

theorem new_ordered {topic : Topic} {callerId : String} {queueSize : ℕ} {tcpNodelay : Bool}
    {s : Subscription} (h : new topic callerId queueSize tcpNodelay = some s) : s.Ordered := by
  obtain ⟨data, hdata, h⟩ := Option.bind_eq_some_iff.mp h
  obtain ⟨-, hsent, -⟩ := Broadcast.channel_eq_some hdata
  cases h
  refine ⟨?_, ?_, ?_, ?_, ?_⟩
  · simp [hsent]
  · simp
  · simp
  · simp
  · intro handle hh
    obtain rfl := List.mem_singleton.mp hh
    have hnil : ∀ i, (framesOf i []).Sublist (framesOf i data.sent) := fun _ => List.nil_sublist _
    exact SubscriberHandle.ordered_new hnil []

theorem exists_latchedValues {s : Subscription} {frame : Frame} (h : frame ∈ s.latchedValues) :
    ∃ k, s.latchedMsgs.lookup k = some frame := by
  obtain ⟨⟨k, f⟩, hmem, rfl⟩ := List.mem_map.mp h
  exact ⟨k, AList.mem_lookup_iff.mpr hmem⟩

/-- A task has one entry in the store at most: the one under its caller id. -/
theorem Ordered.nodup_tasks {s : Subscription} (h : s.Ordered) :
    (s.latchedValues.map Frame.task).Nodup := by
  rw [latchedValues, List.map_map]
  apply s.latchedMsgs.nodupKeys.nodup.map_on
  rintro ⟨k, frame⟩ hx ⟨k', frame'⟩ hy heq
  have hk := AList.mem_lookup_iff.mpr hx
  have hk' := AList.mem_lookup_iff.mpr hy
  obtain ⟨-, task, ht, hkey⟩ := h.stored k frame hk
  obtain ⟨-, task', ht', hkey'⟩ := h.stored k' frame' hk'
  simp only [Function.comp_apply] at heq
  rw [← heq, ht] at ht'
  cases ht'
  obtain rfl := hkey.symm.trans hkey'
  rw [hk] at hk'
  cases hk'
  rfl

theorem framesOf_sublist_of_nodup {i : ℕ} {xs ys : List Frame}
    (hnodup : (xs.map Frame.task).Nodup) (hsub : ∀ frame ∈ xs, frame ∈ ys) :
    (framesOf i xs).Sublist (framesOf i ys) := by
  induction xs with
  | nil => exact List.nil_sublist _
  | cons x xs ih =>
    obtain ⟨hx, hnodup⟩ := List.nodup_cons.mp hnodup
    by_cases hi : x.task = i
    · -- no frame of this task is behind it
      have hrest : framesOf i xs = [] := by
        rw [framesOf, List.filter_eq_nil_iff]
        intro frame hf heq
        apply hx
        rw [hi, ← beq_iff_eq.mp heq]
        exact List.mem_map_of_mem hf
      have hmem : x ∈ framesOf i ys := List.mem_filter.mpr ⟨hsub x (by simp), by simpa using hi⟩
      have hcons : framesOf i (x :: xs) = [x] := by
        rw [framesOf, List.filter_cons_of_pos (by simpa using hi), ← framesOf, hrest]
      rw [hcons]
      exact List.singleton_sublist.mpr hmem
    · rw [framesOf, List.filter_cons_of_neg (by simpa using hi)]
      exact ih hnodup fun frame hf => hsub frame (List.mem_cons_of_mem _ hf)

theorem Ordered.latchedMsgs {s : Subscription} (h : s.Ordered) {order : List Frame}
    (horder : order.Perm s.latchedValues) (i : ℕ) :
    (framesOf i order).Sublist (framesOf i s.data.sent) := by
  apply framesOf_sublist_of_nodup
  · exact (horder.map Frame.task).nodup_iff.mpr h.nodup_tasks
  · intro frame hf
    obtain ⟨k, hk⟩ := exists_latchedValues (horder.mem_iff.mp hf)
    exact (h.stored k frame hk).1

theorem Ordered.setPc {s : Subscription} (h : s.Ordered) {i : ℕ} {task : SubscriberTask}
    {pc : SubscriberTaskPc} (hi : s.tasks[i]? = some task) (hpc : ∀ data, pc ≠ .store data)
    (addrs : Finset String) {latched : AList fun _ : String => Frame}
    (hl : ∀ k frame, latched.lookup k = some frame → s.latchedMsgs.lookup k = some frame) :
    Ordered { s with
      publisherAddrs := addrs
      latchedMsgs := latched
      tasks := s.setPc i task pc } := by
  refine ⟨?_, fun k frame hk => ?_, fun j t data ht hst => ?_, h.snapshot, h.handles⟩
  · simpa [Subscription.setPc] using h.task_lt
  · obtain ⟨hmem, t, ht, hkey⟩ := h.stored k frame (hl k frame hk)
    obtain ⟨t', ht', hheader⟩ := exists_setPc pc hi ht
    exact ⟨hmem, t', ht', hheader ▸ hkey⟩
  · rcases getElem?_set_cases ht with ⟨-, rfl⟩ | ⟨-, ht⟩
    · exact absurd hst (hpc data)
    · exact h.storing j t data ht hst

theorem Ordered.read {s : Subscription} (h : s.Ordered) {i : ℕ} {task : SubscriberTask}
    (hi : s.tasks[i]? = some task) (data : Bytes) :
    Ordered { s with
      data := s.data.send ⟨i, data⟩
      tasks := s.setPc i task (if task.publisherHeader.latching then .store data else .select) } := by
  have hsent : ∀ frame ∈ s.data.sent, frame ∈ (s.data.send ⟨i, data⟩).sent :=
    fun frame hf => List.mem_append_left _ hf
  refine ⟨fun frame hf => ?_, fun k frame hk => ?_, fun j t d ht hst => ?_, fun latched ho j => ?_,
    fun handle hh => (h.handles handle hh).send _⟩
  · rw [Subscription.setPc, List.length_set]
    rcases List.mem_append.mp hf with hf | hf
    · exact h.task_lt frame hf
    · obtain rfl := List.mem_singleton.mp hf
      exact (List.getElem?_eq_some_iff.mp hi).1
  · obtain ⟨hmem, t, ht, hkey⟩ := h.stored k frame hk
    obtain ⟨t', ht', hheader⟩ := exists_setPc _ hi ht
    exact ⟨hsent frame hmem, t', ht', hheader ▸ hkey⟩
  · rcases getElem?_set_cases ht with ⟨rfl, rfl⟩ | ⟨-, ht⟩
    · simp only at hst
      split at hst <;> cases hst
      exact List.mem_append_right _ (List.mem_singleton_self _)
    · exact hsent _ (h.storing j t d ht hst)
  · exact (h.snapshot latched ho j).trans (framesOf_sublist j (List.sublist_append_left _ _))

theorem Ordered.store {s : Subscription} (h : s.Ordered) {i : ℕ} {task : SubscriberTask}
    {data : Bytes} (hi : s.tasks[i]? = some task) (hpc : task.pc = .store data) :
    Ordered { s with
      latchedMsgs := s.latchedMsgs.insert task.publisherHeader.callerId ⟨i, data⟩
      tasks := s.setPc i task .select } := by
  refine ⟨?_, fun k frame hk => ?_, fun j t d ht hst => ?_, h.snapshot, h.handles⟩
  · simpa [Subscription.setPc] using h.task_lt
  · by_cases hkc : k = task.publisherHeader.callerId
    · subst hkc
      rw [AList.lookup_insert] at hk
      cases hk
      exact ⟨h.storing i task data hi hpc, _, getElem?_set_of_some hi, rfl⟩
    · rw [AList.lookup_insert_ne hkc] at hk
      obtain ⟨hmem, t, ht, hkey⟩ := h.stored k frame hk
      obtain ⟨t', ht', hheader⟩ := exists_setPc .select hi ht
      exact ⟨hmem, t', ht', hheader ▸ hkey⟩
  · rcases getElem?_set_cases ht with ⟨-, rfl⟩ | ⟨-, ht⟩
    · cases hst
    · exact h.storing j t d ht hst

theorem Ordered.append {s : Subscription} (h : s.Ordered) {owner : OwnerPc}
    (ho : ∀ latched, owner = .subscribe latched → s.owner = .subscribe latched)
    {handle : SubscriberHandle} (hh : handle.Ordered s.data) :
    Ordered { s with owner := owner, handles := s.handles ++ [handle] } := by
  refine ⟨h.task_lt, h.stored, h.storing, fun latched hl => h.snapshot latched (ho latched hl), ?_⟩
  intro handle' hmem
  rcases List.mem_append.mp hmem with hmem | hmem
  · exact h.handles handle' hmem
  · obtain rfl := List.mem_singleton.mp hmem
    exact hh

theorem Ordered.set {s : Subscription} (h : s.Ordered) (i : ℕ) {handle : SubscriberHandle}
    (hh : handle.Ordered s.data) : Ordered { s with handles := s.handles.set i handle } := by
  refine ⟨h.task_lt, h.stored, h.storing, h.snapshot, fun handle' hmem => ?_⟩
  rcases List.mem_or_eq_of_mem_set hmem with hmem | rfl
  · exact h.handles handle' hmem
  · exact hh

theorem Ordered.connect {s : Subscription} (h : s.Ordered) (addrs : Finset String)
    {task : SubscriberTask} (hpc : task.pc = .select) :
    Ordered { s with owner := .idle, publisherAddrs := addrs, tasks := s.tasks ++ [task] } := by
  refine ⟨fun frame hf => ?_, fun k frame hk => ?_, fun i t data ht hst => ?_,
    (fun _ ho => nomatch ho), h.handles⟩
  · rw [List.length_append]
    exact Nat.lt_add_right _ (h.task_lt frame hf)
  · obtain ⟨hmem, t, ht, hkey⟩ := h.stored k frame hk
    have hlt := (List.getElem?_eq_some_iff.mp ht).1
    exact ⟨hmem, t, by rw [List.getElem?_append_left hlt]; exact ht, hkey⟩
  · rcases getElem?_concat_cases ht with ht | ⟨-, rfl⟩
    · exact h.storing i t data ht hst
    · rw [hpc] at hst
      cases hst

theorem Ordered.move {s s' : Subscription} {label : Label} (h : s.Ordered) (hs : s.Move label s') :
    s'.Ordered := by
  cases hs with
  | alreadyAdded ho hmem | incompatible ho => exact h
  | addPublisher ho hmem | connectError ho hconnect | drop ho =>
    exact ⟨h.task_lt, h.stored, h.storing, (fun _ ho => nomatch ho), h.handles⟩
  | connect ho hconnect => exact h.connect _ rfl
  | @latchedMsgs spec order ho hspec horder =>
    refine ⟨h.task_lt, h.stored, h.storing, fun latched hl => ?_, h.handles⟩
    cases hl
    exact h.latchedMsgs horder
  | @dataReceiver latched ho =>
    have howner : ∀ l, OwnerPc.idle = .subscribe l → s.owner = .subscribe l := fun l hl => nomatch hl
    exact h.append howner (SubscriberHandle.ordered_new (h.snapshot latched ho) _)
  | read hi hpc => exact h.read hi _
  | readClosed hi hpc hclosed | readError e hi hpc | cancelled hi hpc =>
    exact h.setPc hi (by simp) _ fun _ _ hk => hk
  | store hi hpc => exact h.store hi hpc
  | removeLatched hi hpc => exact h.setPc hi (by simp) _ fun _ _ hk => (lookup_of_erase hk).2
  | removeAddr hi hpc => exact h.setPc hi (by simp) _ fun _ _ hk => hk
  | recvRaw hi hrecv =>
    exact h.set _ (recvRaw_ordered (h.handles _ (List.mem_of_getElem? hi)) hrecv)
  | @cloneHandle i handle hi =>
    have hhandle := h.handles _ (List.mem_of_getElem? hi)
    refine h.append (fun _ ho => ho) (SubscriberHandle.ordered_new (fun j => ?_) [])
    have hleft := framesOf_sublist j (List.sublist_append_right handle.got handle.latchedMsgs)
    have htake := framesOf_sublist j (List.take_sublist handle.dataRx s.data.sent)
    exact hleft.trans ((hhandle.ordered j).trans htake)
  | @dropHandle i handle hi =>
    obtain ⟨hstream, hsnapshot, hordered⟩ := h.handles _ (List.mem_of_getElem? hi)
    exact h.set i ⟨⟨hstream.joined_le, hstream.dataRx_le, hstream.stream⟩, hsnapshot, hordered⟩

end Subscription

end RosrustAsync
