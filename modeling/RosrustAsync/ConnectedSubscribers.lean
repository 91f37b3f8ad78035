import RosrustAsync.Lib.Slots
import RosrustAsync.PublicationSteps

namespace RosrustAsync.Publication

open Runs

/-- The ids are those of the subscribers that were set up and whose task has not ended yet. -/
def IdsExact (self : Publication) : Prop := ∀ id, id ∈ self.subscriberIds ↔
  ∃ task ∈ self.tasks, task.pc ≠ .finished ∧ task.subscriberId = id

/-- A task that takes its id out is the last one with this id. -/
def LastOfId (self : Publication) : Label → Prop
  | .taskRemoveId i => ∀ task, self.tasks[i]? = some task → ∀ j other, j ≠ i →
      self.tasks[j]? = some other → other.pc ≠ .finished → other.subscriberId ≠ task.subscriberId
  | _ => True

structure SameSubscriber (task task' : PublisherTask) : Prop where
  subscriberId : task'.subscriberId = task.subscriberId
  unfinished : task'.pc ≠ .finished

theorem taskWrite_same {task task' : PublisherTask} {result : Except IoError Unit}
    (hr : task.pc ≠ .finished) (hs : taskWrite task result = some task') :
    SameSubscriber task task' := by
  unfold taskWrite at hs
  split at hs
  · cases result with
    | ok _ => cases hs; exact ⟨rfl, hr⟩
    | error _ => cases hs; exact ⟨rfl, by simp⟩
  · cases hs

theorem taskRecv_same {data : Broadcast Bytes} {task task' : PublisherTask}
    {result : Except IoError Unit} (hr : task.pc ≠ .finished)
    (hs : taskRecv data task result = some task') : SameSubscriber task task' := by
  unfold taskRecv at hs
  split at hs
  · cases hs
  · obtain ⟨⟨received, next⟩, -, hs⟩ := Option.bind_eq_some_iff.mp hs
    cases received with
    | value m =>
      cases result with
      | ok _ => cases hs; exact ⟨rfl, hr⟩
      | error _ => cases hs; exact ⟨rfl, by simp⟩
    | lagged missed => cases hs; exact ⟨rfl, hr⟩
    | closed => cases hs; exact ⟨rfl, by simp⟩

theorem unfinished_of_running {task : PublisherTask} (hr : task.running) : task.pc ≠ .finished := by
  intro hpc
  simp [PublisherTask.running, hpc] at hr

theorem IdsExact.setTask {self : Publication} {i : ℕ} {task task' : PublisherTask}
    (h : self.IdsExact) (hi : self.tasks[i]? = some task) (hpc : task.pc ≠ .finished)
    (hsame : SameSubscriber task task') :
    IdsExact { self with tasks := self.tasks.set i task' } := by
  obtain ⟨hid, hpc'⟩ := hsame
  intro id
  apply (h id).trans
  constructor
  · rintro ⟨t, ht, hfin, rfl⟩
    obtain ⟨j, hj⟩ := List.mem_iff_getElem?.mp ht
    by_cases hji : j = i
    · subst hji
      rw [hi] at hj
      cases hj
      exact ⟨task', List.mem_of_getElem? (getElem?_set_of_some hi), hpc', hid⟩
    · exact ⟨t, List.mem_of_getElem? (getElem?_set_of_ne hji hj), hfin, rfl⟩
  · rintro ⟨t, ht, hfin, rfl⟩
    rcases List.mem_or_eq_of_mem_set ht with ht | rfl
    · exact ⟨t, ht, hfin, rfl⟩
    · exact ⟨task, List.mem_of_getElem? hi, hpc, hid.symm⟩

theorem IdsExact.removeId_iff {self : Publication} {i : ℕ} {task : PublisherTask}
    (h : self.IdsExact) (hi : self.tasks[i]? = some task) :
    IdsExact { self with
      subscriberIds := self.subscriberIds.erase task.subscriberId
      tasks := self.tasks.set i { task with pc := .finished } } ↔
      self.LastOfId (.taskRemoveId i) := by
  constructor
  · intro hexact task' hi' j other hji hj hfin heq
    rw [hi] at hi'
    cases hi'
    -- the other task is still there, but its id is not
    have hmem := (hexact task.subscriberId).mpr
      ⟨other, List.mem_of_getElem? (getElem?_set_of_ne hji hj), hfin, heq⟩
    exact Finset.notMem_erase _ _ hmem
  · intro hlast id
    simp only [Finset.mem_erase, h id]
    constructor
    · rintro ⟨hne, t, ht, hfin, rfl⟩
      obtain ⟨j, hj⟩ := List.mem_iff_getElem?.mp ht
      have hji : j ≠ i := by
        rintro rfl
        rw [hi] at hj
        cases hj
        exact hne rfl
      exact ⟨t, List.mem_of_getElem? (getElem?_set_of_ne hji hj), hfin, rfl⟩
    · rintro ⟨t, ht, hfin, rfl⟩
      obtain ⟨j, hj⟩ := List.mem_iff_getElem?.mp ht
      rcases getElem?_set_cases hj with ⟨-, rfl⟩ | ⟨hji, hj⟩
      · exact absurd rfl hfin
      · exact ⟨hlast task hi j t hji hj hfin, t, List.mem_of_getElem? hj, hfin, rfl⟩

theorem IdsExact.register {self : Publication} (h : self.IdsExact) {task : PublisherTask}
    (hpc : task.pc ≠ .finished) :
    IdsExact { self with
      pc := .select
      subscriberIds := insert task.subscriberId self.subscriberIds
      tasks := self.tasks ++ [task] } := by
  intro id
  simp only [Finset.mem_insert, List.mem_append, List.mem_singleton, h id]
  constructor
  · rintro (rfl | ⟨t, ht, hfin, rfl⟩)
    · exact ⟨task, .inr rfl, hpc, rfl⟩
    · exact ⟨t, .inl ht, hfin, rfl⟩
  · rintro ⟨t, ht | rfl, hfin, rfl⟩
    · exact .inr ⟨t, ht, hfin, rfl⟩
    · exact .inl rfl

def Fresh (self : Publication) : Prop := ∀ task, self.pc = .register task → task.pc ≠ .finished

theorem Fresh.of_pc {self : Publication} {pc : ListenerPc} (hpc : ∀ task, pc ≠ .register task) :
    Fresh { self with pc := pc } := fun task h => absurd h (hpc task)

theorem Move.exact_iff {self self' : Publication} {label : Label} (hs : self.Move label self')
    (h : self.IdsExact) (hfresh : self.Fresh) :
    self'.Fresh ∧ (self'.IdsExact ↔ self.LastOfId label) := by
  cases hs with
  | send m | refused m | close | cancel | acceptError e hpc => exact ⟨hfresh, iff_of_true h trivial⟩
  | listenerCancelled hpc | drained hpc | accept hpc | setupError hpc hsetup =>
    exact ⟨.of_pc (by simp), iff_of_true h trivial⟩
  | latch hpc hm | lag hpc hlt =>
    exact ⟨fun task hreg => hfresh task hreg, iff_of_true h trivial⟩
  | setup hpc hsetup =>
    refine ⟨fun task hreg => ?_, iff_of_true h trivial⟩
    cases hreg
    simp
  | register hpc =>
    exact ⟨(fun _ hreg => nomatch hreg), iff_of_true (h.register (hfresh _ hpc)) trivial⟩
  | taskWrite hi hr ht =>
    have hpc := unfinished_of_running hr
    exact ⟨hfresh, iff_of_true (h.setTask hi hpc (taskWrite_same hpc ht)) trivial⟩
  | taskRecv hi hr ht =>
    have hpc := unfinished_of_running hr
    exact ⟨hfresh, iff_of_true (h.setTask hi hpc (taskRecv_same hpc ht)) trivial⟩
  | taskCancelled hi hr =>
    exact ⟨hfresh, iff_of_true (h.setTask hi (unfinished_of_running hr) ⟨rfl, by simp⟩) trivial⟩
  | removeId hi hpc => exact ⟨hfresh, h.removeId_iff hi⟩

theorem subscriber_ids_exact {topic : Topic} {callerId : String} {queueSize : ℕ}
    {tcpNodelay latching : Bool} {p q : Publication} {labels : List Label}
    (hnew : new topic callerId queueSize tcpNodelay latching = some p)
    (hrun : Run step LastOfId p labels q) :
    q.IdsExact ∧ ∀ label q', q.step label = some q' → (q'.IdsExact ↔ q.LastOfId label) := by
  have hinit : p.IdsExact ∧ p.Fresh := by
    obtain ⟨data, -, h⟩ := Option.bind_eq_some_iff.mp hnew
    cases h
    exact ⟨fun id => by simp, (fun _ hreg => nomatch hreg)⟩
  have hq : q.IdsExact ∧ q.Fresh := by
    refine hrun.invariant (I := fun p => p.IdsExact ∧ p.Fresh) ?_ hinit
    rintro s label t ⟨hs, hfresh⟩ hok hstep
    obtain ⟨hfresh', hiff⟩ := (step_move hstep).exact_iff hs hfresh
    exact ⟨hiff.mpr hok, hfresh'⟩
  exact ⟨hq.1, fun label q' hs => ((step_move hs).exact_iff hq.1 hq.2).2⟩

def chatterTopic : Topic := ⟨"/chatter", ⟨"*", "*", ""⟩⟩

def chatterPublication : Publication := (new chatterTopic "/talker" 4 false false).get rfl

def connecting (callerId : String) : SetupIo :=
  ⟨.ok ⟨callerId, "/chatter", "*", "*", "", false⟩, .ok (), .ok ()⟩

theorem subscriber_ids_exact_disconnected : ∃ q : Publication,
    q.subscriberIds = {"/echo"} ∧ q.IdsExact := by
  obtain ⟨q, hrun, hids⟩ : ∃ q, Run step LastOfId chatterPublication [.accept (.ok ()),
      .setup (connecting "/listener"), .register, .accept (.ok ()), .setup (connecting "/echo"),
      .register, .send [1], .taskRecv 0 (.error .unexpectedEof), .taskRemoveId 0] q ∧
      q.subscriberIds = {"/echo"} := by
    refine ⟨_, .cons trivial rfl <| .cons trivial rfl <| .cons trivial rfl <| .cons trivial rfl <|
      .cons trivial rfl <| .cons trivial rfl <| .cons trivial rfl <| .cons trivial rfl <|
      .cons ?_ rfl <| .nil _, rfl⟩
    intro task ht j other hj hother _
    cases ht
    match j, hj, hother with
    | 0, hj, _ => exact absurd rfl hj
    | 1, _, hother => cases hother; decide
  have hnew : new chatterTopic "/talker" 4 false false = some chatterPublication := rfl
  exact ⟨q, hids, (subscriber_ids_exact hnew hrun).1⟩

/-- The task of the first connection takes out the id that the second one needs. -/
theorem reconnected_id_removed : ∃ (q : Publication) (labels : List Label),
    new chatterTopic "/talker" 4 false false = some chatterPublication ∧
      Run step (fun _ _ => True) chatterPublication labels q ∧ ¬ q.IdsExact := by
  obtain ⟨q, hrun, hids, task, ht, hpc⟩ : ∃ q, Run step (fun _ _ => True) chatterPublication
      [.accept (.ok ()), .setup (connecting "/listener"), .register, .accept (.ok ()),
        .setup (connecting "/listener"), .register, .send [1],
        .taskRecv 0 (.error .unexpectedEof), .taskRemoveId 0] q ∧ q.subscriberIds = ∅ ∧
      ∃ task ∈ q.tasks, task.pc = .run :=
    ⟨_, run_of_exec rfl (fun _ _ _ => trivial), rfl, _, List.mem_cons_of_mem _
      (List.mem_singleton_self _), rfl⟩
  refine ⟨q, _, rfl, hrun, fun hexact => ?_⟩
  have hmem := (hexact task.subscriberId).mpr ⟨task, ht, by simp [hpc], rfl⟩
  rw [hids] at hmem
  exact Finset.notMem_empty _ hmem

end RosrustAsync.Publication
