import RosrustAsync.SubscriptionInvariant

namespace RosrustAsync.Subscription

open Runs

/-- Every latched message is from a publisher whose task has not finished its cleanup. -/
def StoreFollows (s : Subscription) : Prop := ∀ k frame, s.latchedMsgs.lookup k = some frame →
  ∃ task, s.tasks[frame.task]? = some task ∧ task.pc ≠ .finished

/-- A task that cleans up under its publisher's address has no message under its caller id. -/
def EntryGone (s : Subscription) : Label → Prop
  | .taskRemoveLatched i => ∀ task, s.tasks[i]? = some task →
      task.publisherHeader.callerId ≠ task.publisherAddr →
        ∀ frame, s.latchedMsgs.lookup task.publisherHeader.callerId = some frame → frame.task ≠ i
  | _ => True

def cleaned (task : SubscriberTask) : Bool :=
  match task.pc with
  | .removeAddr | .finished => true
  | _ => false

structure Owner (s : Subscription) (k : String) (frame : Frame) (task : SubscriberTask) : Prop where
  task_eq : s.tasks[frame.task]? = some task
  callerId_eq : task.publisherHeader.callerId = k
  not_cleaned : cleaned task = false

def Owned (s : Subscription) : Prop := ∀ k frame, s.latchedMsgs.lookup k = some frame →
  ∃ task, s.Owner k frame task

theorem Owned.follows {s : Subscription} (h : s.Owned) : s.StoreFollows := by
  intro k frame hk
  obtain ⟨task, ht, -, hcleaned⟩ := h k frame hk
  refine ⟨task, ht, fun hpc => ?_⟩
  simp [cleaned, hpc] at hcleaned

theorem Owned.congr {s s' : Subscription} (h : s.Owned) (hl : s'.latchedMsgs = s.latchedMsgs)
    (ht : s'.tasks = s.tasks) : s'.Owned := by
  intro k frame hk
  rw [hl] at hk
  obtain ⟨task, htask, hkey, hc⟩ := h k frame hk
  exact ⟨task, by rw [ht]; exact htask, hkey, hc⟩

theorem Owned.setPc {s s' : Subscription} (h : s.Owned) {i : ℕ} {task : SubscriberTask}
    {pc : SubscriberTaskPc} (hi : s.tasks[i]? = some task)
    (ht : s'.tasks = s.tasks.set i { task with pc := pc })
    (hl : ∀ k frame, s'.latchedMsgs.lookup k = some frame → s.latchedMsgs.lookup k = some frame)
    (hpc : cleaned { task with pc := pc } → ∀ frame,
      s'.latchedMsgs.lookup task.publisherHeader.callerId = some frame → frame.task ≠ i) :
    s'.Owned := by
  intro k frame hk
  obtain ⟨t, htask, hkey, hc⟩ := h k frame (hl k frame hk)
  by_cases hfi : frame.task = i
  · rw [hfi, hi] at htask
    cases htask
    have hnew : cleaned { task with pc := pc } = false := by
      by_contra hcleaned
      exact hpc (by simpa using hcleaned) frame (hkey ▸ hk) hfi
    exact ⟨{ task with pc := pc }, by rw [ht, hfi]; exact getElem?_set_of_some hi, hkey, hnew⟩
  · exact ⟨t, by rw [ht]; exact getElem?_set_of_ne hfi htask, hkey, hc⟩

theorem Owned.store {s s' : Subscription} (h : s.Owned) {i : ℕ} {task : SubscriberTask}
    {data : Bytes} (hi : s.tasks[i]? = some task)
    (ht : s'.tasks = s.tasks.set i { task with pc := .select })
    (hl : s'.latchedMsgs = s.latchedMsgs.insert task.publisherHeader.callerId ⟨i, data⟩) :
    s'.Owned := by
  intro k frame hk
  rw [hl] at hk
  by_cases hkc : k = task.publisherHeader.callerId
  · subst hkc
    rw [AList.lookup_insert] at hk
    cases hk
    exact ⟨{ task with pc := .select }, by rw [ht]; exact getElem?_set_of_some hi, rfl, rfl⟩
  · rw [AList.lookup_insert_ne hkc] at hk
    obtain ⟨t, htask, hkey, hc⟩ := h k frame hk
    by_cases hfi : frame.task = i
    · rw [hfi, hi] at htask
      cases htask
      exact absurd hkey.symm hkc
    · exact ⟨t, by rw [ht]; exact getElem?_set_of_ne hfi htask, hkey, hc⟩

theorem Owned.connect {s s' : Subscription} (h : s.Owned) {task : SubscriberTask}
    (ht : s'.tasks = s.tasks ++ [task]) (hl : s'.latchedMsgs = s.latchedMsgs) : s'.Owned := by
  intro k frame hk
  rw [hl] at hk
  obtain ⟨t, htask, hkey, hc⟩ := h k frame hk
  have hlt := (List.getElem?_eq_some_iff.mp htask).1
  exact ⟨t, by rw [ht, List.getElem?_append_left hlt]; exact htask, hkey, hc⟩

theorem Owned.move {s s' : Subscription} {label : Label} (h : s.Owned) (hok : s.EntryGone label)
    (hs : s.Move label s') : s'.Owned := by
  cases hs with
  | alreadyAdded ho hmem | incompatible ho => exact h
  | addPublisher ho hmem | connectError ho hconnect | latchedMsgs ho hspec horder
  | dataReceiver ho | drop ho | recvRaw hi hrecv | cloneHandle hi | dropHandle hi =>
    exact h.congr rfl rfl
  | connect ho hconnect => exact h.connect rfl rfl
  | @read i task data hi hpc =>
    refine h.setPc hi rfl (fun _ _ hk => hk) ?_
    cases task.publisherHeader.latching <;> simp [cleaned]
  | readClosed hi hpc hclosed | readError e hi hpc | cancelled hi hpc =>
    exact h.setPc hi rfl (fun _ _ hk => hk) (by simp [cleaned])
  | store hi hpc => exact h.store hi rfl rfl
  | removeLatched hi hpc =>
    refine h.setPc hi rfl (fun k frame hk => (lookup_of_erase hk).2) ?_
    intro _ frame hk
    obtain ⟨hne, hk⟩ := lookup_of_erase hk
    exact hok _ hi hne frame hk
  | removeAddr hi hpc =>
    refine h.setPc hi rfl (fun _ _ hk => hk) ?_
    intro _ frame hk hfi
    obtain ⟨t, ht, -, hcleaned⟩ := h _ frame hk
    rw [hfi, hi] at ht
    cases ht
    simp [cleaned, hpc] at hcleaned

theorem Move.mem_latchedMsgs {s s' : Subscription} {spec : TopicSpec} {order latched : List Frame}
    (hs : s.Move (.latchedMsgs spec order) s') (ho : s'.owner = .subscribe latched)
    {frame : Frame} (hf : frame ∈ latched) : ∃ k, s.latchedMsgs.lookup k = some frame := by
  cases hs with
  | latchedMsgs hidle hspec horder =>
    cases ho
    rw [horder.mem_iff, latchedValues, List.mem_map] at hf
    obtain ⟨⟨k, f⟩, hmem, rfl⟩ := hf
    exact ⟨k, AList.mem_lookup_iff.mpr hmem⟩
  | incompatible hidle =>
    rw [hidle] at ho
    cases ho

theorem entryGone_of_follows {s s₁ s₂ : Subscription} {i : ℕ} (h₁ : s.Move (.taskRemoveLatched i) s₁)
    (h₂ : s₁.Move (.taskRemoveAddr i) s₂) (hfollows : s₂.StoreFollows) :
    s.EntryGone (.taskRemoveLatched i) := by
  cases h₁ with
  | @removeLatched _ task hi hpc =>
    cases h₂ with
    | removeAddr hi₁ hpc₁ =>
      rintro _ hi' hne frame hk rfl
      rw [hi] at hi'
      cases hi'
      obtain ⟨t, ht, hpc⟩ := hfollows _ frame ((AList.lookup_erase_ne hne).trans hk)
      rcases getElem?_set_cases ht with ⟨-, rfl⟩ | ⟨hn, -⟩
      · exact hpc rfl
      · exact hn rfl

theorem latched_store_follows {topic : Topic} {callerId : String} {queueSize : ℕ}
    {tcpNodelay : Bool} {s q : Subscription} {labels : List Label}
    (hnew : new topic callerId queueSize tcpNodelay = some s)
    (hrun : Run step EntryGone s labels q) :
    q.StoreFollows ∧
      (∀ spec order q' latched, q.step (.latchedMsgs spec order) = some q' →
        q'.owner = .subscribe latched → ∀ frame ∈ latched,
          ∃ task, q.tasks[frame.task]? = some task ∧ task.pc ≠ .finished) ∧
      ∀ i q₁ q₂, q.step (.taskRemoveLatched i) = some q₁ → q₁.step (.taskRemoveAddr i) = some q₂ →
        (q₂.StoreFollows ↔ q.EntryGone (.taskRemoveLatched i)) := by
  have hinit : s.Owned := by
    obtain ⟨data, -, h⟩ := Option.bind_eq_some_iff.mp hnew
    cases h
    intro k frame hk
    simp at hk
  have hq : q.Owned := hrun.invariant (fun _ _ _ h hok hs => h.move hok (step_move hs)) hinit
  refine ⟨hq.follows, fun spec order q' latched hs ho frame hf => ?_, fun i q₁ q₂ h₁ h₂ => ?_⟩
  · obtain ⟨k, hk⟩ := (step_move hs).mem_latchedMsgs ho hf
    exact hq.follows k frame hk
  · refine ⟨entryGone_of_follows (step_move h₁) (step_move h₂), fun hok => ?_⟩
    have hok₁ : q₁.EntryGone (.taskRemoveAddr i) := trivial
    exact ((hq.move hok (step_move h₁)).move hok₁ (step_move h₂)).follows

def odom : Topic := ⟨"/odom", ⟨"*", "*", ""⟩⟩

def odomSubscription : Subscription := (new odom "/listener" 4 false).get rfl

def odomPublisher (callerId : String) (latching : Bool) : ConnectIo :=
  ⟨.ok (), .ok (), .ok ⟨callerId, "/odom", "*", "*", "", latching⟩⟩

/-- Two publishers with one caller id: the later one's message takes the place of the first one's. -/
theorem latched_store_follows_replaced : ∃ q : Subscription,
    q.latchedMsgs.lookup "/base" = some ⟨1, [2]⟩ ∧ q.tasks.map (·.pc) = [.finished, .select] ∧
      q.StoreFollows := by
  obtain ⟨q, hrun, hl, ht⟩ : ∃ q, Run step EntryGone odomSubscription [.addPublisher "http://a",
      .connect (odomPublisher "/base" true), .addPublisher "http://b",
      .connect (odomPublisher "/base" true), .taskRead 0 (.ok [1]), .taskStore 0,
      .taskRead 1 (.ok [2]), .taskStore 1, .taskRead 0 (.error .unexpectedEof),
      .taskRemoveLatched 0, .taskRemoveAddr 0] q ∧
      q.latchedMsgs.lookup "/base" = some ⟨1, [2]⟩ ∧ q.tasks.map (·.pc) = [.finished, .select] := by
    refine ⟨_, .cons trivial rfl <| .cons trivial rfl <| .cons trivial rfl <| .cons trivial rfl <|
      .cons trivial rfl <| .cons trivial rfl <| .cons trivial rfl <| .cons trivial rfl <|
      .cons trivial rfl <| .cons ?_ rfl <| .cons trivial rfl <| .nil _, rfl, rfl⟩
    intro task htask _ frame hk
    cases htask
    cases hk
    decide
  have hnew : new odom "/listener" 4 false = some odomSubscription := rfl
  exact ⟨q, hl, ht, (latched_store_follows hnew hrun).1⟩

/-- The message is stored under the caller id and removed under the address. -/
theorem latched_message_left : ∃ (q : Subscription) (labels : List Label),
    new odom "/listener" 4 false = some odomSubscription ∧
      Run step (fun _ _ => True) odomSubscription labels q ∧ ¬ q.StoreFollows := by
  obtain ⟨q, hrun, hl, ht⟩ : ∃ q, Run step (fun _ _ => True) odomSubscription
      [.addPublisher "http://a", .connect (odomPublisher "/base" true), .taskRead 0 (.ok [1]),
        .taskStore 0, .taskRead 0 (.error .unexpectedEof), .taskRemoveLatched 0,
        .taskRemoveAddr 0] q ∧
      q.latchedMsgs.lookup "/base" = some ⟨0, [1]⟩ ∧ q.tasks.map (·.pc) = [.finished] :=
    ⟨_, run_of_exec rfl (fun _ _ _ => trivial), rfl, rfl⟩
  refine ⟨q, _, rfl, hrun, fun hfollows => ?_⟩
  obtain ⟨task, htask, hpc⟩ := hfollows _ _ hl
  have hmem := List.mem_map_of_mem (f := SubscriberTask.pc) (List.mem_of_getElem? htask)
  rw [ht, List.mem_singleton] at hmem
  exact hpc hmem

end RosrustAsync.Subscription
