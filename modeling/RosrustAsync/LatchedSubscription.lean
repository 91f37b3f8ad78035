import RosrustAsync.SubscriptionInvariant

namespace RosrustAsync.Subscription

open Runs

theorem Invariant.connect {s : Subscription} (h : s.Invariant) (addr : String)
    (header : PublisherHeader) :
    Invariant { s with
      owner := .idle
      publisherAddrs := insert addr s.publisherAddrs
      tasks := s.tasks ++ [⟨addr, header, .select⟩] } := by
  refine ⟨fun frame hf => ?_, fun k frame hk => ?_, fun k frame t hk ht hns => ?_,
    fun i t data ht hst => ?_, (fun latched ho => nomatch ho), h.handles⟩
  · have := h.task_lt frame hf
    rw [List.length_append]
    omega
  · obtain ⟨t, ht, hkey⟩ := h.key k frame hk
    exact ⟨t, List.getElem?_append_left (List.getElem?_eq_some_iff.mp ht).1 ▸ ht, hkey⟩
  · obtain ⟨t', ht', -⟩ := h.key k frame hk
    rw [List.getElem?_append_left (List.getElem?_eq_some_iff.mp ht').1] at ht
    exact h.last k frame t hk ht hns
  · rw [List.getElem?_append] at ht
    split at ht
    · exact h.storing i t data ht hst
    · obtain rfl := List.mem_singleton.mp (List.mem_of_getElem? ht)
      cases hst

theorem Invariant.idle {s : Subscription} (h : s.Invariant) {owner : OwnerPc}
    (ho : ∀ latched, owner ≠ .subscribe latched) : Invariant { s with owner := owner } :=
  ⟨h.task_lt, h.key, h.last, h.storing, fun latched hs => absurd hs (ho latched), h.handles⟩

theorem Invariant.dataReceiver {s : Subscription} (h : s.Invariant) {latched : List Frame}
    (ho : s.owner = .subscribe latched) :
    SubscriberHandle.Invariant s.data ⟨latched, s.data.tail, true, latched, s.data.tail,
      s.latchingPublishers, [], false⟩ := by
  refine ⟨⟨le_refl _, le_refl _, fun _ => rfl⟩, fun i hi => ?_⟩
  simp only [Broadcast.tail, List.take_length]
  exact h.snapshot latched ho i hi

theorem Invariant.setHandles {s : Subscription} (h : s.Invariant) {owner : OwnerPc}
    (ho : ∀ latched, owner = .subscribe latched → s.owner = .subscribe latched)
    {handles : List SubscriberHandle} (hh : ∀ handle ∈ handles, handle.Invariant s.data) :
    Invariant { s with owner := owner, handles := handles } :=
  ⟨h.task_lt, h.key, h.last, h.storing, fun latched hs => h.snapshot latched (ho latched hs), hh⟩

theorem Invariant.ended {s : Subscription} (h : s.Invariant) {i : ℕ} {task : SubscriberTask}
    (hi : s.tasks[i]? = some task) (hpc : task.pc = .select) :
    Invariant { s with tasks := s.setPc i task .removeLatched } :=
  h.setPc hi (by simp [hpc]) (by simp) (fun _ => by simp [connected, hpc]) s.publisherAddrs
    (fun _ _ hk => hk)

theorem Invariant.addHandle {s : Subscription} (h : s.Invariant) {owner : OwnerPc}
    (ho : ∀ latched, owner = .subscribe latched → s.owner = .subscribe latched)
    {handle : SubscriberHandle} (hh : handle.Invariant s.data) :
    Invariant { s with owner := owner, handles := s.handles ++ [handle] } := by
  apply h.setHandles ho
  intro g hg
  rcases List.mem_append.mp hg with hg | hg
  · exact h.handles g hg
  · exact List.mem_singleton.mp hg ▸ hh

theorem Invariant.setHandle {s : Subscription} (h : s.Invariant) (i : ℕ) {handle : SubscriberHandle}
    (hh : handle.Invariant s.data) : Invariant { s with handles := s.handles.set i handle } := by
  apply h.setHandles (fun _ ho => ho)
  intro g hg
  rcases List.mem_or_eq_of_mem_set hg with hg | rfl
  · exact h.handles g hg
  · exact hh

theorem Invariant.move {s s' : Subscription} {label : Label} (h : s.Invariant)
    (hok : s.Settled label) (hs : s.Move label s') : s'.Invariant := by
  cases hs with
  | alreadyAdded ho hmem | incompatible ho => exact h
  | addPublisher ho hmem | connectError ho hconnect | drop ho => exact h.idle (by simp)
  | connect ho hconnect => exact h.connect _ _
  | latchedMsgs ho hspec horder =>
    refine ⟨h.task_lt, h.key, h.last, h.storing, fun latched hl i hi => ?_, h.handles⟩
    cases hl
    exact h.snapshot_latchedMsgs hok hspec horder hi
  | dataReceiver ho => exact h.addHandle (by simp) (h.dataReceiver ho)
  | @read i task data hi hpc => exact h.send hi data fun latched ho => hok latched ho task hi
  | readClosed hi hpc hclosed | readError e hi hpc | cancelled hi hpc => exact h.ended hi hpc
  | store hi hpc => exact h.store hi hpc
  | @removeLatched i task hi hpc =>
    exact h.setPc hi (by simp [hpc]) (by simp) (by simp [connected]) _
      fun k frame hk => (lookup_of_erase hk).2
  | removeAddr hi hpc =>
    exact h.setPc hi (by simp [hpc]) (by simp) (by simp [connected]) _ (fun _ _ hk => hk)
  | recvRaw hi hrecv =>
    exact h.setHandle _ (recvRaw_invariant (h.handles _ (List.mem_of_getElem? hi)) hrecv)
  | cloneHandle hi =>
    apply h.addHandle (fun _ ho => ho)
    exact ⟨⟨le_refl _, le_refl _, fun _ => rfl⟩, (by rintro _ ⟨⟩)⟩
  | dropHandle hi =>
    have hh := h.handles _ (List.mem_of_getElem? hi)
    exact h.setHandle _ ⟨⟨hh.joined_le, hh.dataRx_le, hh.stream⟩, hh.snapshot⟩

theorem late_handle_stream {topic : Topic} {callerId : String} {queueSize : ℕ} {tcpNodelay : Bool}
    {s q : Subscription} {labels : List Label}
    (hnew : new topic callerId queueSize tcpNodelay = some s) (hrun : Run step Settled s labels q)
    {handle : SubscriberHandle} (hh : handle ∈ q.handles) (hlag : handle.lagged = false) {i : ℕ}
    (hi : i ∈ handle.publishers) :
    framesOf i (handle.got ++ handle.latchedMsgs ++ q.data.sent.drop handle.dataRx) =
      (framesOf i (q.data.sent.take handle.joined)).getLast?.toList ++
        framesOf i (q.data.sent.drop handle.joined) := by
  have hq := hrun.invariant (fun _ _ _ h hok hs => h.move hok (step_move hs)) (new_invariant hnew)
  have hhandle := hq.handles handle hh
  rw [hhandle.stream hlag, framesOf_append, hhandle.snapshot i hi]

def chatter : Topic := ⟨"/chatter", ⟨"*", "*", ""⟩⟩

def chatterSubscription : Subscription := (new chatter "/listener" 4 false).get rfl

def latchingTalker : ConnectIo :=
  ⟨.ok (), .ok (), .ok ⟨"/talker", "/chatter", "*", "*", "", true⟩⟩

theorem late_handle_stream_stored : ∃ (q : Subscription) (handle : SubscriberHandle),
    handle ∈ q.handles ∧ handle.joined = 1 ∧
      framesOf 0 (handle.got ++ handle.latchedMsgs ++ q.data.sent.drop handle.dataRx) =
        (framesOf 0 (q.data.sent.take handle.joined)).getLast?.toList ++
          framesOf 0 (q.data.sent.drop handle.joined) := by
  obtain ⟨q, hrun, handle, hh, hj, hl, hi⟩ : ∃ q, Run step Settled chatterSubscription
      [.addPublisher "http://talker", .connect latchingTalker, .taskRead 0 (.ok [1]), .taskStore 0,
        .latchedMsgs chatter.spec [⟨0, [1]⟩], .dataReceiver, .taskRead 0 (.ok [2]), .recvRaw 1] q ∧
      ∃ handle ∈ q.handles, handle.joined = 1 ∧ handle.lagged = false ∧ 0 ∈ handle.publishers := by
    refine ⟨_, .cons trivial rfl <| .cons trivial rfl <| .cons (fun _ h => nomatch h) rfl <|
      .cons trivial rfl <| .cons ?_ rfl <| .cons trivial rfl <| .cons (fun _ h => nomatch h) rfl <|
      .cons trivial rfl <| .nil _, _, List.mem_cons_of_mem _ (List.mem_singleton_self _), rfl, rfl,
      by decide⟩
    intro _ i task ht _ _
    obtain rfl : i = 0 := by
      have := (List.getElem?_eq_some_iff.mp ht).1
      exact Nat.lt_one_iff.mp this
    cases ht
    exact ⟨rfl, fun _ => ⟨_, rfl, rfl⟩⟩
  have hnew : new chatter "/listener" 4 false = some chatterSubscription := rfl
  exact ⟨q, handle, hh, hj, late_handle_stream hnew hrun hh hl hi⟩

/-- The latched messages are read between the task's send and its store. -/
theorem latched_frame_missed : ∃ (q : Subscription) (labels : List Label)
    (handle : SubscriberHandle), new chatter "/listener" 4 false = some chatterSubscription ∧
      Run step (fun _ _ => True) chatterSubscription labels q ∧ handle ∈ q.handles ∧
      handle.lagged = false ∧ 0 ∈ handle.publishers ∧
      framesOf 0 (handle.got ++ handle.latchedMsgs ++ q.data.sent.drop handle.dataRx) ≠
        (framesOf 0 (q.data.sent.take handle.joined)).getLast?.toList ++
          framesOf 0 (q.data.sent.drop handle.joined) := by
  refine ⟨_, [.addPublisher "http://talker", .connect latchingTalker, .taskRead 0 (.ok [1]),
    .latchedMsgs chatter.spec [], .dataReceiver, .taskStore 0], _, rfl,
    run_of_exec rfl (fun _ _ _ => trivial), List.mem_cons_of_mem _ (List.mem_singleton_self _), rfl,
    by decide, by decide⟩

end RosrustAsync.Subscription
