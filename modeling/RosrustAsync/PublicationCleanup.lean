import RosrustAsync.ConnectedSubscribers

namespace RosrustAsync

open Runs

def PublisherTask.left (data : Broadcast Bytes) (task : PublisherTask) : ℕ :=
  match task.pc with
  | .run => task.latchedMessage.toList.length + (data.tail - task.dataRx) + 2
  | .removeId => 1
  | .finished => 0

namespace Publication

def pcLeft (self : Publication) : ℕ :=
  match self.pc with
  | .stopped => 0
  | .select => 1
  | .register task => 2 + task.left self.data
  | .setup => 6

/-- The steps that are left to take when nothing more is sent and no one connects. -/
def left (self : Publication) : ℕ :=
  self.pcLeft + (self.data.tail - self.dataRx) +
    (self.tasks.map fun task => task.left self.data).sum

namespace Label

/-- What others do: who sends, who drops the publication, and who connects to it. -/
def isOutside : Label → Bool
  | .send _ | .close | .cancel | .accept _ => true
  | _ => false

def cost (label : Label) : ℕ := if label.isOutside then 0 else 1

def gain : Label → ℕ
  | .accept _ => 5
  | _ => 0

/-- What waits for a peer: the header of the one that is being set up, and the writes of the tasks
that are held, whose peers do not read. -/
def waitsForPeer (held : ℕ → Prop) : Label → Prop
  | .setup _ => True
  | .taskWrite i _ | .taskRecv i _ | .taskCancelled i => held i
  | _ => False

end Label

/-- No step is left that the publication could take by itself. -/
def Quiescent (held : ℕ → Prop) (self : Publication) : Prop :=
  ∀ label : Label, label.isOutside = false → ¬ label.waitsForPeer held → self.step label = none

variable {p q : Publication} {task task' : PublisherTask}

theorem pc_of_running (hr : task.running) : task.pc = .run := by
  unfold PublisherTask.running at hr
  split at hr
  · assumption
  · cases hr

theorem taskWrite_left {result : Except IoError Unit} (hr : task.running)
    (hs : taskWrite task result = some task') (data : Broadcast Bytes) :
    task'.left data < task.left data := by
  have hpc := pc_of_running hr
  unfold taskWrite at hs
  split at hs
  · rename_i m hlatched
    cases result with
    | ok _ =>
      cases hs
      simp only [PublisherTask.left, hpc, hlatched, Option.toList_some, Option.toList_none,
        List.length_singleton, List.length_nil]
      omega
    | error _ =>
      cases hs
      simp only [PublisherTask.left, hpc]
      omega
  · cases hs

theorem taskRecv_left {data : Broadcast Bytes} {result : Except IoError Unit} (hr : task.running)
    (hs : taskRecv data task result = some task') : task'.left data < task.left data := by
  have hpc := pc_of_running hr
  unfold taskRecv at hs
  split at hs
  · cases hs
  · obtain ⟨⟨received, next⟩, hrecv, hs⟩ := Option.bind_eq_some_iff.mp hs
    cases received with
    | value m =>
      obtain ⟨-, rfl, hle⟩ := Broadcast.recv_value hrecv
      cases result <;> cases hs <;> simp only [PublisherTask.left, hpc] <;> omega
    | lagged missed =>
      obtain ⟨hlt, rfl⟩ := Broadcast.recv_lagged hrecv
      cases hs
      simp only [PublisherTask.left, hpc]
      omega
    | closed =>
      cases hs
      simp only [PublisherTask.left, hpc]
      omega

theorem left_setTask {i : ℕ} (hi : p.tasks[i]? = some task) (ids : Finset String)
    (h : task'.left p.data < task.left p.data) :
    left { p with subscriberIds := ids, tasks := p.tasks.set i task' } < p.left := by
  have hsum := sum_map_set (a := task') (fun task => task.left p.data) hi
  simp only [left, pcLeft]
  omega

/-- The ids of connections that are over have been taken out, and what has yet to be spawned has
yet to run. -/
structure Cleaned (p : Publication) : Prop where
  ids : ∀ id ∈ p.subscriberIds, ∃ task ∈ p.tasks, task.pc ≠ .finished ∧ task.subscriberId = id
  fresh : p.Fresh

theorem Cleaned.setTask {i : ℕ} (h : p.Cleaned) (hi : p.tasks[i]? = some task)
    (hsame : SameSubscriber task task') : Cleaned { p with tasks := p.tasks.set i task' } := by
  refine ⟨fun id hid => ?_, h.fresh⟩
  obtain ⟨t, ht, hfin, rfl⟩ := h.ids id hid
  obtain ⟨j, hj⟩ := List.mem_iff_getElem?.mp ht
  by_cases hji : j = i
  · subst hji
    cases hi.symm.trans hj
    exact ⟨task', List.mem_of_getElem? (getElem?_set_of_some hi), hsame.unfinished,
      hsame.subscriberId⟩
  · exact ⟨t, List.mem_of_getElem? (getElem?_set_of_ne hji hj), hfin, rfl⟩

theorem Cleaned.removeId {i : ℕ} (h : p.Cleaned) (hi : p.tasks[i]? = some task) :
    Cleaned { p with
      subscriberIds := p.subscriberIds.erase task.subscriberId
      tasks := p.tasks.set i { task with pc := .finished } } := by
  refine ⟨fun id hid => ?_, h.fresh⟩
  obtain ⟨hne, hid⟩ := Finset.mem_erase.mp hid
  obtain ⟨t, ht, hfin, rfl⟩ := h.ids id hid
  obtain ⟨j, hj⟩ := List.mem_iff_getElem?.mp ht
  have hji : j ≠ i := by
    rintro rfl
    cases hi.symm.trans hj
    exact hne rfl
  exact ⟨t, List.mem_of_getElem? (getElem?_set_of_ne hji hj), hfin, rfl⟩

theorem Cleaned.register {new : PublisherTask} (h : p.Cleaned) (hpc : p.pc = .register new) :
    Cleaned { p with
      pc := .select
      subscriberIds := insert new.subscriberId p.subscriberIds
      tasks := p.tasks ++ [new] } := by
  refine ⟨fun id hid => ?_, fun task hreg => by cases hreg⟩
  rcases Finset.mem_insert.mp hid with rfl | hid
  · exact ⟨new, by simp, h.fresh new hpc, rfl⟩
  · obtain ⟨t, ht, hfin, rfl⟩ := h.ids id hid
    exact ⟨t, List.mem_append_left _ ht, hfin, rfl⟩

theorem Move.cleaned {label : Label} (hs : p.Move label q) (h : p.Cleaned) : q.Cleaned := by
  cases hs with
  | send m | refused m | close | cancel | acceptError e hpc | latch hpc hm | lag hpc hlt =>
    exact ⟨h.ids, h.fresh⟩
  | listenerCancelled hpc | drained hpc | accept hpc | setupError hpc hsetup =>
    exact ⟨h.ids, .of_pc (by simp)⟩
  | setup hpc hsetup =>
    refine ⟨h.ids, fun task hreg => ?_⟩
    cases hreg
    simp
  | register hpc => exact h.register hpc
  | taskWrite hi hr ht => exact h.setTask hi (taskWrite_same (unfinished_of_running hr) ht)
  | taskRecv hi hr ht => exact h.setTask hi (taskRecv_same (unfinished_of_running hr) ht)
  | taskCancelled hi hr => exact h.setTask hi ⟨rfl, by simp⟩
  | removeId hi hpc => exact h.removeId hi

theorem Move.left_le {label : Label} (hs : p.Move label q) (hsend : ∀ m, label ≠ .send m) :
    q.left + label.cost ≤ p.left + label.gain := by
  cases hs with
  | send m | refused m => exact absurd rfl (hsend m)
  | close | cancel | acceptError e hpc => exact Nat.le_add_right _ _
  | listenerCancelled hpc | drained hpc =>
    simp only [left, pcLeft, hpc, Label.cost, Label.isOutside, Label.gain, Bool.false_eq_true,
      if_false]
    omega
  | latch hpc hm =>
    have hlt := (List.getElem?_eq_some_iff.mp hm).1
    simp only [left, pcLeft, hpc, Label.cost, Label.isOutside, Label.gain, Bool.false_eq_true,
      if_false, Broadcast.tail]
    omega
  | lag hpc hlt =>
    simp only [left, pcLeft, hpc, Label.cost, Label.isOutside, Label.gain, Bool.false_eq_true,
      if_false]
    omega
  | accept hpc =>
    simp only [left, pcLeft, hpc, Label.cost, Label.isOutside, Label.gain, if_true]
    omega
  | setupError hpc hsetup =>
    simp only [left, pcLeft, hpc, Label.cost, Label.isOutside, Label.gain, Bool.false_eq_true,
      if_false]
    omega
  | setup hpc hsetup =>
    have hlatched : p.latchedMessage.toList.length ≤ 1 := by cases p.latchedMessage <;> simp
    simp only [left, pcLeft, PublisherTask.left, hpc, Label.cost, Label.isOutside, Label.gain,
      Bool.false_eq_true, if_false]
    omega
  | register hpc =>
    simp only [left, pcLeft, hpc, List.map_append, List.sum_append, List.map_singleton,
      List.sum_singleton, Label.cost, Label.isOutside, Label.gain, Bool.false_eq_true, if_false]
    omega
  | taskWrite hi hr ht => exact left_setTask hi _ (taskWrite_left hr ht _)
  | taskRecv hi hr ht => exact left_setTask hi _ (taskRecv_left hr ht)
  | taskCancelled hi hr =>
    refine left_setTask hi _ ?_
    simp only [PublisherTask.left, pc_of_running hr]
    omega
  | removeId hi hpc =>
    refine left_setTask hi _ ?_
    simp only [PublisherTask.left, hpc]
    omega

/-- A closed channel takes no message, and stays closed. -/
theorem Move.closed {label : Label} (hs : p.Move label q) (hp : p.step label = some q)
    (h : p.data.closed = true) : q.data.closed = true ∧ ∀ m, label ≠ .send m := by
  have hsend (m : Bytes) : label ≠ .send m := by
    rintro rfl
    simp [step, h] at hp
  cases hs with
  | send m | refused m => exact absurd rfl (hsend m)
  | close => exact ⟨rfl, hsend⟩
  | _ => exact ⟨h, hsend⟩

theorem Quiescent.stopped {held : ℕ → Prop} (h : p.Quiescent held)
    (hcancelled : p.cancelled = true) : p.pc = .stopped ∨ p.pc = .setup := by
  cases hpc : p.pc with
  | stopped => exact .inl rfl
  | select =>
    have hstop := h .listenerCancelled rfl id
    simp [step, hpc, hcancelled] at hstop
  | setup => exact .inr rfl
  | register task =>
    have hregister := h .register rfl id
    simp [step, hpc] at hregister

theorem Quiescent.finished {held : ℕ → Prop} (h : p.Quiescent held)
    (hcancelled : p.cancelled = true) {i : ℕ} (hi : p.tasks[i]? = some task)
    (hfree : task.running → ¬ held i) : task.pc = .finished := by
  cases hpc : task.pc with
  | finished => rfl
  | removeId =>
    have hremove := h (.taskRemoveId i) rfl id
    simp [step, Publication.removeId, hi, hpc] at hremove
  | run =>
    have hr : task.running := by simp [PublisherTask.running, hpc]
    cases hlatched : task.latchedMessage with
    | none =>
      have hcancel := h (.taskCancelled i) rfl (hfree hr)
      simp [step, stepTask, hi, hr, hlatched, hcancelled] at hcancel
    | some m =>
      have hwrite := h (.taskWrite i (.ok ())) rfl (hfree hr)
      simp [step, stepTask, hi, hr, taskWrite, hlatched] at hwrite

/-- Once no one sends any more, a publication takes the steps it has left and five for each
connection made to it; once it is dropped, it comes to rest with no task and no id but of those whose
peers do not read. -/
theorem publication_cleaned_up {topic : Topic} {callerId : String} {queueSize : ℕ}
    {tcpNodelay latching : Bool} {labels : List Label}
    (hp : new topic callerId queueSize tcpNodelay latching = some p)
    (hrun : Run step (fun _ _ => True) p labels q) :
    (q.data.closed = true → ∀ labels' r, Run step (fun _ _ => True) q labels' r →
      (labels'.map Label.cost).sum ≤ q.left + (labels'.map Label.gain).sum) ∧
    (q.cancelled = true → ∀ held, q.Quiescent held →
      (q.pc = .stopped ∨ q.pc = .setup) ∧
      (∀ (i : ℕ) task, q.tasks[i]? = some task → ¬ held i → task.pc = .finished) ∧
      ∀ id ∈ q.subscriberIds, ∃ (i : ℕ) (task : PublisherTask), q.tasks[i]? = some task ∧ held i ∧
        task.running = true ∧ task.subscriberId = id) := by
  constructor
  · intro hclosed labels' r hrun'
    have hspent := hrun'.amortised (I := fun p => p.data.closed = true)
      (fun _ _ _ h _ hs => ((step_move hs).closed hs h).1)
      (fun _ _ _ h _ hs => (step_move hs).left_le ((step_move hs).closed hs h).2) hclosed
    omega
  · intro hcancelled held hquiet
    have hcleaned : q.Cleaned := by
      refine hrun.invariant (fun _ _ _ h _ hs => (step_move hs).cleaned h) ?_
      obtain ⟨data, -, hp⟩ := Option.bind_eq_some_iff.mp hp
      cases hp
      exact ⟨fun id hid => by simp at hid, fun task hreg => by cases hreg⟩
    refine ⟨hquiet.stopped hcancelled,
      fun i task hi hfree => hquiet.finished hcancelled hi fun _ => hfree, fun id hid => ?_⟩
    obtain ⟨task, ht, hpc, hsame⟩ := hcleaned.ids id hid
    obtain ⟨i, hi⟩ := List.mem_iff_getElem?.mp ht
    have hheld : ¬ (task.running → ¬ held i) :=
      fun hfree => hpc (hquiet.finished hcancelled hi hfree)
    obtain ⟨hr, hheld⟩ := Classical.not_imp.mp hheld
    exact ⟨i, task, hi, not_not.mp hheld, hr, hsame⟩

/-- One of two peers has stopped to read. -/
theorem publication_cleaned_up_dropped : ∃ q r : Publication,
    q.subscriberIds = {"/slow", "/echo"} ∧
    ([Label.taskCancelled 0, .listenerCancelled, .taskRemoveId 0].map Label.cost).sum ≤ q.left ∧
    (∀ task, r.tasks[0]? = some task → task.pc = .finished) ∧
    ∀ id ∈ r.subscriberIds, ∃ task, r.tasks[1]? = some task ∧ task.subscriberId = id := by
  obtain ⟨q, hrun, hclosed, hids, r, hrun', hcancelled, hquiet⟩ :
      ∃ q, Run step (fun _ _ => True) chatterPublication [.accept (.ok ()),
        .setup (connecting "/echo"), .register, .accept (.ok ()), .setup (connecting "/slow"),
        .register, .send [1], .taskRecv 0 (.ok ()), .close, .cancel] q ∧
      q.data.closed = true ∧ q.subscriberIds = {"/slow", "/echo"} ∧
      ∃ r, Run step (fun _ _ => True) q [.taskCancelled 0, .listenerCancelled, .taskRemoveId 0] r ∧
        r.cancelled = true ∧ r.Quiescent (· = 1) := by
    refine ⟨_, run_of_exec rfl (fun _ _ _ => trivial), rfl, rfl, _,
      run_of_exec rfl (fun _ _ _ => trivial), rfl, fun label hlabel hown => ?_⟩
    cases label with
    | send m | close | cancel | accept connection => cases hlabel
    | setup stream => exact absurd trivial hown
    | listenerCancelled | listenerRecv | register => rfl
    | taskWrite i result | taskRecv i result | taskCancelled i =>
      rcases i with - | - | i
      · rfl
      · exact absurd rfl hown
      · rfl
    | taskRemoveId i => rcases i with - | - | i <;> rfl
  have hnew : new chatterTopic "/talker" 4 false false = some chatterPublication := rfl
  obtain ⟨-, hfinished, hleft⟩ :=
    (publication_cleaned_up hnew (hrun.trans hrun')).2 hcancelled _ hquiet
  refine ⟨q, r, hids, (publication_cleaned_up hnew hrun).1 hclosed _ r hrun',
    fun task ht => hfinished 0 task ht (by decide), fun id hid => ?_⟩
  obtain ⟨i, task, hi, rfl, -, hsame⟩ := hleft id hid
  exact ⟨task, hi, hsame⟩

end Publication

end RosrustAsync
