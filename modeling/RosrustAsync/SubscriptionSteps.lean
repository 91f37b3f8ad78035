import RosrustAsync.Lib.Slots
import RosrustAsync.Subscription

namespace RosrustAsync.Subscription

def setPc (s : Subscription) (i : ℕ) (task : SubscriberTask) (pc : SubscriberTaskPc) :
    List SubscriberTask := s.tasks.set i { task with pc := pc }

/-- What each step does, with what it found. -/
inductive Move (s : Subscription) : Label → Subscription → Prop
  | alreadyAdded {addr : String} : s.owner = .idle → addr ∈ s.publisherAddrs →
      Move s (.addPublisher addr) s
  | addPublisher {addr : String} : s.owner = .idle → addr ∉ s.publisherAddrs →
      Move s (.addPublisher addr) { s with owner := .addPublisher addr }
  | connect {stream : ConnectIo} {addr : String} {header : PublisherHeader} :
      s.owner = .addPublisher addr → connectPublisher s.header stream = .ok header →
      Move s (.connect stream) { s with
        owner := .idle
        publisherAddrs := insert addr s.publisherAddrs
        tasks := s.tasks ++ [⟨addr, header, .select⟩] }
  | connectError {stream : ConnectIo} {addr : String} {e : SubscriptionError} :
      s.owner = .addPublisher addr → connectPublisher s.header stream = .error e →
      Move s (.connect stream) { s with owner := .idle }
  | latchedMsgs {spec : TopicSpec} {order : List Frame} : s.owner = .idle →
      (spec.validateCompatibility s.topic.spec).isOk → order.Perm s.latchedValues →
      Move s (.latchedMsgs spec order) { s with owner := .subscribe order }
  | incompatible {spec : TopicSpec} {order : List Frame} : s.owner = .idle →
      Move s (.latchedMsgs spec order) s
  | dataReceiver {latched : List Frame} : s.owner = .subscribe latched →
      Move s .dataReceiver { s with
        owner := .idle
        handles := s.handles ++ [⟨latched, s.data.tail, true, latched, s.data.tail,
          s.latchingPublishers, [], false⟩] }
  | drop : s.owner = .idle → Move s .drop { s with owner := .dropped }
  | read {i : ℕ} {task : SubscriberTask} {data : Bytes} : s.tasks[i]? = some task →
      task.pc = .select → Move s (.taskRead i (.ok data)) { s with
        data := s.data.send ⟨i, data⟩
        tasks := s.setPc i task (if task.publisherHeader.latching then .store data else .select) }
  | readClosed {i : ℕ} {task : SubscriberTask} {data : Bytes} : s.tasks[i]? = some task →
      task.pc = .select → s.hasReceiver = false →
      Move s (.taskRead i (.ok data)) { s with tasks := s.setPc i task .removeLatched }
  | readError {i : ℕ} {task : SubscriberTask} (e : IoError) : s.tasks[i]? = some task →
      task.pc = .select →
      Move s (.taskRead i (.error e)) { s with tasks := s.setPc i task .removeLatched }
  | store {i : ℕ} {task : SubscriberTask} {data : Bytes} : s.tasks[i]? = some task →
      task.pc = .store data → Move s (.taskStore i) { s with
        latchedMsgs := s.latchedMsgs.insert task.publisherHeader.callerId ⟨i, data⟩
        tasks := s.setPc i task .select }
  | cancelled {i : ℕ} {task : SubscriberTask} : s.tasks[i]? = some task → task.pc = .select →
      Move s (.taskCancelled i) { s with tasks := s.setPc i task .removeLatched }
  | removeLatched {i : ℕ} {task : SubscriberTask} : s.tasks[i]? = some task →
      task.pc = .removeLatched → Move s (.taskRemoveLatched i) { s with
        latchedMsgs := s.latchedMsgs.erase task.publisherAddr
        tasks := s.setPc i task .removeAddr }
  | removeAddr {i : ℕ} {task : SubscriberTask} : s.tasks[i]? = some task →
      task.pc = .removeAddr → Move s (.taskRemoveAddr i) { s with
        publisherAddrs := s.publisherAddrs.erase task.publisherAddr
        tasks := s.setPc i task .finished }
  | recvRaw {i : ℕ} {handle handle' : SubscriberHandle} : s.handles[i]? = some handle →
      recvRaw s.channel handle = some handle' →
      Move s (.recvRaw i) { s with handles := s.handles.set i handle' }
  | cloneHandle {i : ℕ} {handle : SubscriberHandle} : s.handles[i]? = some handle →
      Move s (.cloneHandle i) { s with
        handles := s.handles ++ [⟨handle.latchedMsgs, s.data.tail, true, handle.latchedMsgs,
          s.data.tail, [], [], false⟩] }
  | dropHandle {i : ℕ} {handle : SubscriberHandle} : s.handles[i]? = some handle →
      Move s (.dropHandle i) { s with handles := s.handles.set i { handle with alive := false } }

variable {s q : Subscription}

theorem lookup_of_erase {latched : AList fun _ : String => Frame} {addr k : String} {frame : Frame}
    (h : (latched.erase addr).lookup k = some frame) : k ≠ addr ∧ latched.lookup k = some frame := by
  by_cases hk : k = addr
  · rw [hk, AList.lookup_erase] at h
    cases h
  · rw [AList.lookup_erase_ne hk] at h
    exact ⟨hk, h⟩

theorem stepTask_some {i : ℕ} {f : SubscriberTask → Option Subscription}
    (hs : s.stepTask i f = some q) : ∃ task, s.tasks[i]? = some task ∧ f task = some q :=
  Option.bind_eq_some_iff.mp hs

theorem taskRead_move {i : ℕ} {task : SubscriberTask} (hi : s.tasks[i]? = some task)
    (hpc : task.pc = .select) (data : Except IoError Bytes) :
    Move s (.taskRead i data) (s.taskRead i task data) := by
  cases data with
  | error e => exact .readError e hi hpc
  | ok data =>
    simp only [taskRead]
    split
    · exact .read hi hpc
    · rename_i hclosed
      exact .readClosed hi hpc (by simpa using hclosed)

theorem step_move {label : Label} (hs : s.step label = some q) : Move s label q := by
  cases label with
  | addPublisher addr =>
    simp only [step] at hs
    split at hs
    · rename_i ho
      split at hs
      · rename_i hmem
        cases hs
        exact .alreadyAdded ho hmem
      · rename_i hmem
        cases hs
        exact .addPublisher ho hmem
    · cases hs
  | connect stream =>
    simp only [step] at hs
    split at hs
    · rename_i addr ho
      split at hs
      · rename_i header hconnect
        cases hs
        exact .connect ho hconnect
      · rename_i e hconnect
        cases hs
        exact .connectError ho hconnect
    · cases hs
  | latchedMsgs spec order =>
    simp only [step] at hs
    split at hs
    · rename_i ho
      split at hs
      · rename_i u hspec
        split at hs
        · rename_i horder
          cases hs
          exact .latchedMsgs ho (by rw [hspec]; rfl) (List.isPerm_iff.mp horder)
        · cases hs
      · cases hs
        exact .incompatible ho
    · cases hs
  | dataReceiver =>
    simp only [step] at hs
    split at hs
    · rename_i latched ho
      cases hs
      exact .dataReceiver ho
    · cases hs
  | drop =>
    simp only [step] at hs
    split at hs
    · rename_i ho
      cases hs
      exact .drop ho
    · cases hs
  | taskRead i data =>
    obtain ⟨task, hi, hf⟩ := stepTask_some hs
    split at hf
    · rename_i hpc
      cases hf
      exact taskRead_move hi hpc data
    · cases hf
  | taskStore i =>
    obtain ⟨task, hi, hf⟩ := stepTask_some hs
    split at hf
    · rename_i data hpc
      cases hf
      exact .store hi hpc
    · cases hf
  | taskCancelled i =>
    obtain ⟨task, hi, hf⟩ := stepTask_some hs
    split at hf
    · rename_i hpc
      split at hf
      · cases hf
        exact .cancelled hi hpc
      · cases hf
    · cases hf
  | taskRemoveLatched i =>
    obtain ⟨task, hi, hf⟩ := stepTask_some hs
    split at hf
    · rename_i hpc
      cases hf
      exact .removeLatched hi hpc
    · cases hf
  | taskRemoveAddr i =>
    obtain ⟨task, hi, hf⟩ := stepTask_some hs
    split at hf
    · rename_i hpc
      cases hf
      exact .removeAddr hi hpc
    · cases hf
  | recvRaw i =>
    obtain ⟨handle, hi, hs⟩ := Option.bind_eq_some_iff.mp hs
    split at hs
    · obtain ⟨handle', hrecv, hs⟩ := Option.bind_eq_some_iff.mp hs
      cases hs
      exact .recvRaw hi hrecv
    · cases hs
  | cloneHandle i =>
    obtain ⟨handle, hi, hs⟩ := Option.bind_eq_some_iff.mp hs
    split at hs
    · cases hs
      exact .cloneHandle hi
    · cases hs
  | dropHandle i =>
    obtain ⟨handle, hi, hs⟩ := Option.bind_eq_some_iff.mp hs
    cases hs
    exact .dropHandle hi

/-! What no step changes, or only one kind of step does. -/

theorem Move.data_eq {label : Label} (hs : Move s label q) :
    q.data = s.data ∨ ∃ i data, label = .taskRead i (.ok data) ∧ q.data = s.data.send ⟨i, data⟩ := by
  cases hs with
  | @read i task data hi hpc => exact .inr ⟨i, data, rfl, rfl⟩
  | _ => exact .inl rfl

theorem Move.exists_task {label : Label} (hs : Move s label q) {i : ℕ} {task : SubscriberTask}
    (ht : s.tasks[i]? = some task) :
    ∃ task', q.tasks[i]? = some task' ∧ (connected task' → connected task) := by
  have hset : ∀ {j : ℕ} {t : SubscriberTask} (pc : SubscriberTaskPc), s.tasks[j]? = some t →
      (connected { t with pc := pc } → connected t) →
        ∃ task', (s.setPc j t pc)[i]? = some task' ∧ (connected task' → connected task) := by
    intro j t pc hj hc
    by_cases hij : i = j
    · subst hij
      rw [ht] at hj
      cases hj
      exact ⟨_, getElem?_set_of_some ht, hc⟩
    · exact ⟨task, getElem?_set_of_ne hij ht, id⟩
  cases hs with
  | connect ho hconnect =>
    have hlt := (List.getElem?_eq_some_iff.mp ht).1
    exact ⟨task, by rw [List.getElem?_append_left hlt]; exact ht, id⟩
  | read hj hpc => exact hset _ hj fun _ => by simp [connected, hpc]
  | store hj hpc => exact hset _ hj fun _ => by simp [connected, hpc]
  | readClosed hj hpc hclosed | readError e hj hpc | cancelled hj hpc | removeLatched hj hpc
  | removeAddr hj hpc => exact hset _ hj (by simp [connected])
  | _ => exact ⟨task, ht, id⟩

theorem recvRaw_joined {data : Broadcast Frame} {handle handle' : SubscriberHandle}
    (hs : Subscription.recvRaw data handle = some handle') : handle'.joined = handle.joined ∧
      handle'.snapshot = handle.snapshot ∧ handle'.publishers = handle.publishers := by
  unfold Subscription.recvRaw at hs
  split at hs
  · cases hs
    exact ⟨rfl, rfl, rfl⟩
  · obtain ⟨⟨received, next⟩, -, hs⟩ := Option.bind_eq_some_iff.mp hs
    cases received <;> cases hs <;> exact ⟨rfl, rfl, rfl⟩

theorem Move.exists_handle {label : Label} (hs : Move s label q) {i : ℕ} {handle : SubscriberHandle}
    (hh : s.handles[i]? = some handle) : ∃ handle', q.handles[i]? = some handle' ∧
      handle'.joined = handle.joined ∧ handle'.snapshot = handle.snapshot := by
  have happend : ∀ new : SubscriberHandle, (s.handles ++ [new])[i]? = some handle := fun new => by
    rw [List.getElem?_append_left (List.getElem?_eq_some_iff.mp hh).1]
    exact hh
  have hset : ∀ {j : ℕ} {old new : SubscriberHandle}, s.handles[j]? = some old →
      new.joined = old.joined → new.snapshot = old.snapshot →
        ∃ handle', (s.handles.set j new)[i]? = some handle' ∧ handle'.joined = handle.joined ∧
          handle'.snapshot = handle.snapshot := by
    intro j old new hj hjoined hsnapshot
    by_cases hij : i = j
    · subst hij
      rw [hh] at hj
      cases hj
      exact ⟨new, getElem?_set_of_some hh, hjoined, hsnapshot⟩
    · exact ⟨handle, getElem?_set_of_ne hij hh, rfl, rfl⟩
  cases hs with
  | dataReceiver ho | cloneHandle hj => exact ⟨handle, happend _, rfl, rfl⟩
  | recvRaw hj hrecv =>
    obtain ⟨hjoined, hsnapshot, -⟩ := recvRaw_joined hrecv
    exact hset hj hjoined hsnapshot
  | dropHandle hj => exact hset hj rfl rfl
  | _ => exact ⟨handle, hh, rfl, rfl⟩

end RosrustAsync.Subscription
