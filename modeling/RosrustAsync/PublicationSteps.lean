import RosrustAsync.Lib.Slots
import RosrustAsync.Publication

namespace RosrustAsync.Publication

/-- What each step does, with what it found. -/
inductive Move (p : Publication) : Label → Publication → Prop
  | send (m : Bytes) : Move p (.send m) { p with data := p.data.send m }
  | refused (m : Bytes) : Move p (.send m) p
  | close : Move p .close { p with data := { p.data with closed := true } }
  | cancel : Move p .cancel { p with cancelled := true }
  | listenerCancelled : p.pc = .select → Move p .listenerCancelled { p with pc := .stopped }
  | latch {m : Bytes} : p.pc = .select → p.data.sent[p.dataRx]? = some m →
      Move p .listenerRecv { p with latchedMessage := some m, dataRx := p.dataRx + 1 }
  | lag : p.pc = .select → p.dataRx < p.data.tail - p.data.capacity →
      Move p .listenerRecv { p with dataRx := p.data.tail - p.data.capacity }
  | drained : p.pc = .select → Move p .listenerRecv { p with pc := .stopped }
  | accept : p.pc = .select → Move p (.accept (.ok ())) { p with pc := .setup }
  | acceptError (e : IoError) : p.pc = .select → Move p (.accept (.error e)) p
  | setup {stream : SetupIo} {header : SubscriberHeader} : p.pc = .setup →
      setupConnection p.header p.tcpNodelay stream = .ok header →
      Move p (.setup stream) { p with pc := .register ⟨header.callerId, p.latchedMessage,
        p.data.tail, .run, [], p.data.tail, none⟩ }
  | setupError {stream : SetupIo} {e : PublicationError} : p.pc = .setup →
      setupConnection p.header p.tcpNodelay stream = .error e →
      Move p (.setup stream) { p with pc := .select }
  | register {task : PublisherTask} : p.pc = .register task → Move p .register { p with
      pc := .select
      subscriberIds := insert task.subscriberId p.subscriberIds
      tasks := p.tasks ++ [task] }
  | taskWrite {i : ℕ} {result : Except IoError Unit} {task task' : PublisherTask} :
      p.tasks[i]? = some task → task.running → taskWrite task result = some task' →
      Move p (.taskWrite i result) { p with tasks := p.tasks.set i task' }
  | taskRecv {i : ℕ} {result : Except IoError Unit} {task task' : PublisherTask} :
      p.tasks[i]? = some task → task.running → taskRecv p.data task result = some task' →
      Move p (.taskRecv i result) { p with tasks := p.tasks.set i task' }
  | taskCancelled {i : ℕ} {task : PublisherTask} : p.tasks[i]? = some task → task.running →
      Move p (.taskCancelled i) { p with tasks := p.tasks.set i { task with pc := .removeId } }
  | removeId {i : ℕ} {task : PublisherTask} : p.tasks[i]? = some task → task.pc = .removeId →
      Move p (.taskRemoveId i) { p with
        subscriberIds := p.subscriberIds.erase task.subscriberId
        tasks := p.tasks.set i { task with pc := .finished } }

variable {p q : Publication}

theorem stepTask_some {i : ℕ} {f : PublisherTask → Option PublisherTask}
    (hs : p.stepTask i f = some q) : ∃ task task', p.tasks[i]? = some task ∧
      task.running ∧ f task = some task' ∧ q = { p with tasks := p.tasks.set i task' } := by
  obtain ⟨task, hi, hs⟩ := Option.bind_eq_some_iff.mp hs
  split at hs
  · rename_i hr
    obtain ⟨task', ht', hs⟩ := Option.bind_eq_some_iff.mp hs
    cases hs
    exact ⟨task, task', hi, hr, ht', rfl⟩
  · cases hs

theorem listenerRecv_move (hpc : p.pc = .select) (hs : p.listenerRecv = some q) :
    Move p .listenerRecv q := by
  obtain ⟨⟨received, next⟩, hrecv, hs⟩ := Option.bind_eq_some_iff.mp hs
  cases received with
  | value m =>
    obtain ⟨hm, rfl, -⟩ := Broadcast.recv_value hrecv
    cases hs
    exact .latch hpc hm
  | lagged missed =>
    obtain ⟨hlt, rfl⟩ := Broadcast.recv_lagged hrecv
    cases hs
    exact .lag hpc hlt
  | closed =>
    cases hs
    exact .drained hpc

theorem setup_move (hpc : p.pc = .setup) (stream : SetupIo) :
    Move p (.setup stream) (p.setup stream) := by
  unfold Publication.setup
  split
  · rename_i header hsetup
    exact .setup hpc hsetup
  · rename_i e hsetup
    exact .setupError hpc hsetup

theorem step_move {label : Label} (hs : p.step label = some q) : Move p label q := by
  cases label with
  | send m =>
    simp only [step] at hs
    split at hs
    · cases hs
    · split at hs
      · cases hs
        exact .send m
      · cases hs
        exact .refused m
  | close => cases hs; exact .close
  | cancel => cases hs; exact .cancel
  | listenerCancelled =>
    simp only [step] at hs
    split at hs
    · rename_i hpc
      split at hs <;> cases hs
      exact .listenerCancelled hpc
    · cases hs
  | listenerRecv =>
    simp only [step] at hs
    split at hs
    · rename_i hpc
      split at hs
      · exact listenerRecv_move hpc hs
      · cases hs
    · cases hs
  | accept connection =>
    simp only [step] at hs
    split at hs
    · rename_i hpc
      cases connection with
      | ok _ => cases hs; exact .accept hpc
      | error e => cases hs; exact .acceptError e hpc
    · cases hs
  | setup stream =>
    simp only [step] at hs
    split at hs
    · rename_i hpc
      cases hs
      exact setup_move hpc stream
    · cases hs
  | register =>
    simp only [step] at hs
    split at hs
    · rename_i task hpc
      cases hs
      exact .register hpc
    · cases hs
  | taskWrite i result =>
    obtain ⟨task, task', hi, hr, ht, rfl⟩ := stepTask_some hs
    exact .taskWrite hi hr ht
  | taskRecv i result =>
    obtain ⟨task, task', hi, hr, ht, rfl⟩ := stepTask_some hs
    exact .taskRecv hi hr ht
  | taskCancelled i =>
    obtain ⟨task, task', hi, hr, ht, rfl⟩ := stepTask_some hs
    split at ht <;> cases ht
    exact .taskCancelled hi hr
  | taskRemoveId i =>
    obtain ⟨task, hi, hs⟩ := Option.bind_eq_some_iff.mp hs
    split at hs
    · rename_i hpc
      cases hs
      exact .removeId hi hpc
    · cases hs

/-- The tasks there are, and the one that is about to be spawned. -/
def allTasks (self : Publication) : List PublisherTask :=
  match self.pc with
  | .register task => task :: self.tasks
  | _ => self.tasks

theorem mem_allTasks {p : Publication} {task : PublisherTask} (h : task ∈ p.tasks) :
    task ∈ p.allTasks := by
  unfold allTasks
  split
  · exact List.mem_cons_of_mem _ h
  · exact h

theorem forall_allTasks_set {P : PublisherTask → Prop} (h : ∀ task ∈ p.allTasks, P task) {i : ℕ}
    {task : PublisherTask} (ht : P task) {ids : Finset String} :
    ∀ t ∈ allTasks { p with subscriberIds := ids, tasks := p.tasks.set i task }, P t := by
  have hset : ∀ t ∈ p.tasks.set i task, P t := by
    intro t hmem
    rcases List.mem_or_eq_of_mem_set hmem with hmem | rfl
    · exact h t (mem_allTasks hmem)
    · exact ht
  intro t hmem
  simp only [allTasks] at hmem
  split at hmem
  · rename_i new hpc
    rcases List.mem_cons.mp hmem with rfl | hmem
    · exact h t (by simp [allTasks, hpc])
    · exact hset t hmem
  · exact hset t hmem

theorem mem_allTasks_register {task t : PublisherTask} (hpc : p.pc = .register task)
    (ht : t ∈ p.tasks ++ [task]) : t ∈ p.allTasks := by
  simp only [allTasks, hpc, List.mem_cons]
  exact (List.mem_append.mp ht).symm.imp_left List.mem_singleton.mp

/-- The tasks by their index, the one that is about to be spawned included. -/
def slots (self : Publication) : List PublisherTask :=
  self.tasks ++ match self.pc with
    | .register task => [task]
    | _ => []

theorem slots_of_tasks {k : ℕ} {task : PublisherTask} (h : p.tasks[k]? = some task) :
    p.slots[k]? = some task := by
  rw [slots, List.getElem?_append_left (List.getElem?_eq_some_iff.mp h).1]
  exact h

theorem mem_allTasks_of_slot {k : ℕ} {task : PublisherTask} (h : p.slots[k]? = some task) :
    task ∈ p.allTasks := by
  have hmem := List.mem_of_getElem? h
  unfold slots at hmem
  split at hmem
  · rename_i new hpc
    exact mem_allTasks_register hpc hmem
  · rw [List.append_nil] at hmem
    exact mem_allTasks hmem

/-- A task that does not step itself is at most stopped. -/
theorem Move.exists_slot {label : Label} (hs : Move p label q) {k : ℕ} {task : PublisherTask}
    (ht : p.slots[k]? = some task) (hwrite : ∀ result, label ≠ .taskWrite k result)
    (hrecv : ∀ result, label ≠ .taskRecv k result) :
    ∃ task', q.slots[k]? = some task' ∧ task'.written = task.written ∧
      (task'.running → task.running) := by
  have hsame : q.slots = p.slots → ∃ task', q.slots[k]? = some task' ∧
      task'.written = task.written ∧ (task'.running → task.running) :=
    fun heq => ⟨task, heq ▸ ht, rfl, id⟩
  have hset : ∀ {i : ℕ} {old new : PublisherTask} (ids : Finset String), p.tasks[i]? = some old →
      (k = i → new.written = old.written ∧ (new.running → old.running)) →
        ∃ task', (slots { p with subscriberIds := ids, tasks := p.tasks.set i new })[k]? = some task' ∧
          task'.written = task.written ∧ (task'.running → task.running) := by
    intro i old new ids hi hnew
    by_cases hki : k = i
    · subst hki
      rw [slots_of_tasks hi] at ht
      cases ht
      exact ⟨new, slots_of_tasks (getElem?_set_of_some hi), hnew rfl⟩
    · refine ⟨task, ?_, rfl, id⟩
      rw [slots, ← List.set_append_left _ _ (List.getElem?_eq_some_iff.mp hi).1]
      exact getElem?_set_of_ne hki ht
  cases hs with
  | listenerCancelled hpc | drained hpc | accept hpc | setupError hpc hsetup =>
    exact hsame (by simp [slots, hpc])
  | setup hpc hsetup =>
    have htask : p.tasks[k]? = some task := by simpa [slots, hpc] using ht
    exact ⟨task, slots_of_tasks htask, rfl, id⟩
  | register hpc => exact hsame (by simp [slots, hpc])
  | @taskWrite i result old new hi hr hw =>
    exact hset _ hi fun hki => absurd (hki ▸ rfl) (hwrite result)
  | @taskRecv i result old new hi hr hw =>
    exact hset _ hi fun hki => absurd (hki ▸ rfl) (hrecv result)
  | taskCancelled hi hr => exact hset _ hi fun _ => ⟨rfl, (fun h => nomatch h)⟩
  | removeId hi hpc => exact hset _ hi fun _ => ⟨rfl, (fun h => nomatch h)⟩
  | _ => exact hsame rfl

theorem Move.mem_sent {label : Label} (hs : Move p label q) {m : Bytes} (hm : m ∈ q.data.sent) :
    m ∈ p.data.sent ∨ label = .send m := by
  cases hs with
  | send m' =>
    rcases List.mem_append.mp hm with hm | hm
    · exact .inl hm
    · obtain rfl := List.mem_singleton.mp hm
      exact .inr rfl
  | _ => exact .inl hm

end RosrustAsync.Publication
