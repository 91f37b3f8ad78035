import RosrustAsync.SubscriptionSteps

namespace RosrustAsync.Subscription

open Runs

/-- Task `i` is of the publisher at this address, and has not finished its cleanup. -/
def Serves (s : Subscription) (i : ℕ) (addr : String) : Prop :=
  ∃ task, s.tasks[i]? = some task ∧ task.publisherAddr = addr ∧ task.pc ≠ .finished

/-- The steps of `add_publisher`, of `latched_msgs` and `data_receiver`, and of the drop. -/
def byOwner : Label → Bool
  | .addPublisher _ | .connect _ | .latchedMsgs _ _ | .dataReceiver | .drop => true
  | _ => false

structure OneEach (s : Subscription) : Prop where
  unique : ∀ addr i j, s.Serves i addr → s.Serves j addr → i = j
  mem_iff : ∀ addr, addr ∈ s.publisherAddrs ↔ ∃ i, s.Serves i addr
  adding : ∀ addr, s.owner = .addPublisher addr → addr ∉ s.publisherAddrs

variable {s s' : Subscription}

theorem serves_setPc {i : ℕ} {task : SubscriberTask} {pc : SubscriberTaskPc}
    (hi : s.tasks[i]? = some task) (hpc : task.pc ≠ .finished) (hpc' : pc ≠ .finished)
    (ht : s'.tasks = s.setPc i task pc) (j : ℕ) (addr : String) :
    s'.Serves j addr ↔ s.Serves j addr := by
  simp only [Serves, ht, setPc]
  by_cases hij : j = i
  · subst hij
    rw [hi, getElem?_set_of_some hi]
    constructor
    · rintro ⟨t, ht, haddr, -⟩
      cases ht
      exact ⟨task, rfl, haddr, hpc⟩
    · rintro ⟨t, ht, haddr, -⟩
      cases ht
      exact ⟨_, rfl, haddr, hpc'⟩
  · rw [List.getElem?_set_ne (Ne.symm hij)]

theorem serves_finished {i : ℕ} {task : SubscriberTask} (hi : s.tasks[i]? = some task)
    (ht : s'.tasks = s.setPc i task .finished) (j : ℕ) (addr : String) :
    s'.Serves j addr ↔ j ≠ i ∧ s.Serves j addr := by
  simp only [Serves, ht, setPc]
  by_cases hij : j = i
  · subst hij
    rw [getElem?_set_of_some hi]
    constructor
    · rintro ⟨t, ht, -, hpc⟩
      cases ht
      exact absurd rfl hpc
    · rintro ⟨hne, -⟩
      exact absurd rfl hne
  · rw [List.getElem?_set_ne (Ne.symm hij)]
    exact ⟨fun h => ⟨hij, h⟩, fun h => h.2⟩

theorem serves_concat {header : PublisherHeader} {addr : String}
    (ht : s'.tasks = s.tasks ++ [⟨addr, header, .select⟩]) (j : ℕ) (a : String) :
    s'.Serves j a ↔ s.Serves j a ∨ j = s.tasks.length ∧ a = addr := by
  simp only [Serves, ht]
  constructor
  · rintro ⟨t, hj, ha, hpc⟩
    rcases getElem?_concat_cases hj with hj | ⟨hlast, rfl⟩
    · exact .inl ⟨t, hj, ha, hpc⟩
    · exact .inr ⟨hlast, ha.symm⟩
  · rintro (⟨t, hj, ha, hpc⟩ | ⟨rfl, rfl⟩)
    · have hlt := (List.getElem?_eq_some_iff.mp hj).1
      exact ⟨t, by rw [List.getElem?_append_left hlt]; exact hj, ha, hpc⟩
    · exact ⟨_, List.getElem?_concat_length, rfl, by simp⟩

theorem OneEach.congr (h : s.OneEach) (ht : ∀ j addr, s'.Serves j addr ↔ s.Serves j addr)
    (ha : s'.publisherAddrs = s.publisherAddrs)
    (ho : ∀ addr, s'.owner = .addPublisher addr → addr ∉ s.publisherAddrs) : s'.OneEach := by
  constructor
  · intro addr i j hi hj
    exact h.unique addr i j ((ht i addr).mp hi) ((ht j addr).mp hj)
  · intro addr
    rw [ha, h.mem_iff addr]
    exact exists_congr fun i => (ht i addr).symm
  · intro addr howner
    rw [ha]
    exact ho addr howner

theorem OneEach.connect (h : s.OneEach) {header : PublisherHeader} {addr : String}
    (howner : s.owner = .addPublisher addr)
    (ht : s'.tasks = s.tasks ++ [⟨addr, header, .select⟩])
    (ha : s'.publisherAddrs = insert addr s.publisherAddrs) (ho : s'.owner = .idle) :
    s'.OneEach := by
  have hnew : ∀ i, ¬ s.Serves i addr := fun i hi =>
    h.adding addr howner ((h.mem_iff addr).mpr ⟨i, hi⟩)
  constructor
  · intro a i j hi hj
    rw [serves_concat ht] at hi hj
    rcases hi with hi | ⟨hi, rfl⟩
    · rcases hj with hj | ⟨-, rfl⟩
      · exact h.unique a i j hi hj
      · exact absurd hi (hnew i)
    · rcases hj with hj | ⟨hj, -⟩
      · exact absurd hj (hnew j)
      · omega
  · intro a
    rw [ha, Finset.mem_insert, h.mem_iff a]
    simp only [serves_concat ht]
    constructor
    · rintro (rfl | ⟨i, hi⟩)
      · exact ⟨_, .inr ⟨rfl, rfl⟩⟩
      · exact ⟨i, .inl hi⟩
    · rintro ⟨i, hi | ⟨-, rfl⟩⟩
      · exact .inr ⟨i, hi⟩
      · exact .inl rfl
  · intro a howner'
    rw [ho] at howner'
    cases howner'

theorem OneEach.removeAddr (h : s.OneEach) {i : ℕ} {task : SubscriberTask}
    (hi : s.tasks[i]? = some task) (hpc : task.pc ≠ .finished)
    (ht : s'.tasks = s.setPc i task .finished)
    (ha : s'.publisherAddrs = s.publisherAddrs.erase task.publisherAddr)
    (ho : s'.owner = s.owner) : s'.OneEach := by
  have hserves : s.Serves i task.publisherAddr := ⟨task, hi, rfl, hpc⟩
  constructor
  · intro addr j k hj hk
    rw [serves_finished hi ht] at hj hk
    exact h.unique addr j k hj.2 hk.2
  · intro addr
    rw [ha, Finset.mem_erase, h.mem_iff addr]
    simp only [serves_finished hi ht]
    constructor
    · rintro ⟨hne, j, hj⟩
      refine ⟨j, ?_, hj⟩
      rintro rfl
      obtain ⟨t, ht, rfl, -⟩ := hj
      rw [hi] at ht
      cases ht
      exact hne rfl
    · rintro ⟨j, hji, hj⟩
      refine ⟨?_, j, hj⟩
      rintro rfl
      exact hji (h.unique _ j i hj hserves)
  · intro addr howner
    rw [ho] at howner
    rw [ha]
    intro hmem
    exact h.adding addr howner (Finset.mem_of_mem_erase hmem)

theorem OneEach.setPc (h : s.OneEach) {i : ℕ} {task : SubscriberTask} {pc : SubscriberTaskPc}
    (hi : s.tasks[i]? = some task) (hpc : task.pc ≠ .finished) (hpc' : pc ≠ .finished)
    (ht : s'.tasks = s.setPc i task pc) (ha : s'.publisherAddrs = s.publisherAddrs)
    (ho : s'.owner = s.owner) : s'.OneEach := by
  apply h.congr (serves_setPc hi hpc hpc' ht) ha
  rw [ho]
  exact h.adding

theorem OneEach.move {label : Label} (h : s.OneEach) (hs : s.Move label s') : s'.OneEach := by
  cases hs with
  | alreadyAdded ho hmem | incompatible ho => exact h
  | addPublisher ho hmem =>
    refine h.congr (fun _ _ => Iff.rfl) rfl fun addr howner => ?_
    cases howner
    exact hmem
  | connect ho hconnect => exact h.connect ho rfl rfl rfl
  | connectError ho hconnect | latchedMsgs ho hspec horder | dataReceiver ho | drop ho =>
    exact h.congr (fun _ _ => Iff.rfl) rfl (by simp)
  | recvRaw hi hrecv | cloneHandle hi | dropHandle hi =>
    exact h.congr (fun _ _ => Iff.rfl) rfl h.adding
  | @read i task data hi hpc =>
    refine h.setPc hi (by simp [hpc]) ?_ rfl rfl rfl
    cases task.publisherHeader.latching <;> simp
  | readClosed hi hpc hclosed | readError e hi hpc | cancelled hi hpc | store hi hpc
  | removeLatched hi hpc =>
    exact h.setPc hi (by simp [hpc]) (by simp) rfl rfl rfl
  | removeAddr hi hpc => exact h.removeAddr hi (by simp [hpc]) rfl rfl rfl

theorem OneEach.run {labels : List Label} {ok : Subscription → Label → Prop} (h : s.OneEach)
    (hrun : Run step ok s labels s') : s'.OneEach :=
  hrun.invariant (fun _ _ _ h _ hs => h.move (step_move hs)) h

/-! A call that fails, seen from the tasks and the handles. -/

def withIdle (s : Subscription) : Subscription := { s with owner := .idle }

theorem hasReceiver_withIdle (h : s.isDropped = false) :
    s.withIdle.hasReceiver = s.hasReceiver := by
  have hidle : s.withIdle.isDropped = false := rfl
  rw [hasReceiver, hasReceiver, h, hidle]
  rfl

theorem channel_withIdle (h : s.isDropped = false) : s.withIdle.channel = s.channel := by
  have hidle : s.withIdle.isDropped = false := rfl
  rw [channel, channel, h, hidle]
  rfl

theorem taskRead_withIdle (h : s.isDropped = false) (i : ℕ) (task : SubscriberTask)
    (data : Except IoError Bytes) :
    s.withIdle.taskRead i task data = (s.taskRead i task data).withIdle := by
  cases data with
  | error e => rfl
  | ok data =>
    simp only [taskRead, hasReceiver_withIdle h]
    split <;> rfl

theorem stepTask_withIdle {i : ℕ} {task : SubscriberTask} {f : SubscriberTask → Option Subscription}
    (hi : s.tasks[i]? = some task) : s.withIdle.stepTask i f = f task := by
  simp [stepTask, withIdle, hi]

theorem step_withIdle {label : Label} (hdropped : s.isDropped = false)
    (hl : byOwner label = false) (hs : s.step label = some s') :
    s.withIdle.step label = some s'.withIdle := by
  cases label with
  | addPublisher addr | connect stream | latchedMsgs spec order | dataReceiver | drop => cases hl
  | taskRead i data =>
    obtain ⟨task, hi, hf⟩ := stepTask_some hs
    simp only [step, stepTask_withIdle hi]
    split at hf
    · cases hf
      rw [taskRead_withIdle hdropped]
    · cases hf
  | taskCancelled i =>
    obtain ⟨task, hi, hf⟩ := stepTask_some hs
    simp only [hdropped] at hf
    split at hf <;> cases hf
  | taskStore i | taskRemoveLatched i | taskRemoveAddr i =>
    obtain ⟨task, hi, hf⟩ := stepTask_some hs
    simp only [step, stepTask_withIdle hi]
    split at hf
    · cases hf
      rfl
    · cases hf
  | recvRaw i =>
    obtain ⟨handle, hi, hf⟩ := Option.bind_eq_some_iff.mp hs
    refine Option.bind_eq_some_iff.mpr ⟨handle, hi, ?_⟩
    split at hf
    · rename_i halive
      obtain ⟨handle', hrecv, hf⟩ := Option.bind_eq_some_iff.mp hf
      cases hf
      rw [← channel_withIdle hdropped] at hrecv
      rw [if_pos halive]
      exact Option.bind_eq_some_iff.mpr ⟨handle', hrecv, rfl⟩
    · cases hf
  | cloneHandle i =>
    obtain ⟨handle, hi, hf⟩ := Option.bind_eq_some_iff.mp hs
    refine Option.bind_eq_some_iff.mpr ⟨handle, hi, ?_⟩
    split at hf
    · rename_i halive
      cases hf
      rw [if_pos halive]
      rfl
    · cases hf
  | dropHandle i =>
    obtain ⟨handle, hi, hf⟩ := Option.bind_eq_some_iff.mp hs
    cases hf
    exact Option.bind_eq_some_iff.mpr ⟨handle, hi, rfl⟩

theorem Move.owner_eq {label : Label} (hs : s.Move label s') (hl : byOwner label = false) :
    s'.owner = s.owner := by
  cases hs with
  | alreadyAdded ho hmem | addPublisher ho hmem | connect ho hconnect | connectError ho hconnect
  | latchedMsgs ho hspec horder | incompatible ho | dataReceiver ho | drop ho => cases hl
  | _ => rfl

theorem Move.header_eq {label : Label} (hs : s.Move label s') : s'.header = s.header := by
  cases hs <;> rfl

variable {ok : Subscription → Label → Prop} {labels : List Label}

theorem run_header_eq (hrun : Run step ok s labels s') : s'.header = s.header := by
  induction hrun with
  | nil s => rfl
  | cons hok hs hrun ih => exact ih.trans (step_move hs).header_eq

theorem run_owner_eq (hrun : Run step ok s labels s') (hl : ∀ l ∈ labels, byOwner l = false) :
    s'.owner = s.owner := by
  induction hrun with
  | nil s => rfl
  | cons hok hs hrun ih =>
    have howner := (step_move hs).owner_eq (hl _ List.mem_cons_self)
    exact (ih fun l hmem => hl l (List.mem_cons_of_mem _ hmem)).trans howner

theorem run_withIdle (hrun : Run step (fun _ _ => True) s labels s') (hdropped : s.isDropped = false)
    (hl : ∀ l ∈ labels, byOwner l = false) :
    Run step (fun _ _ => True) s.withIdle labels s'.withIdle := by
  induction hrun with
  | nil s => exact .nil _
  | cons hok hs hrun ih =>
    have hlabel := hl _ List.mem_cons_self
    have howner := (step_move hs).owner_eq hlabel
    refine .cons hok (step_withIdle hdropped hlabel hs) (ih ?_ fun l hmem => ?_)
    · rw [isDropped, howner]
      exact hdropped
    · exact hl l (List.mem_cons_of_mem _ hmem)

/-- Only the call itself sees an `add_publisher` that fails. -/
theorem failed_add_erased {addr : String} {stream : ConnectIo} {e : SubscriptionError}
    (hl : ∀ l ∈ labels, byOwner l = false) (herror : connectPublisher s.header stream = .error e)
    (hrun : Run step (fun _ _ => True) s (.addPublisher addr :: labels ++ [.connect stream]) s') :
    Run step (fun _ _ => True) s labels s' := by
  obtain ⟨-, s₁, hadd, hrun⟩ := run_cons_iff.mp hrun
  obtain ⟨s₂, hbetween, hlast⟩ := hrun.of_append
  obtain ⟨-, s₃, hconnect, hnil⟩ := run_cons_iff.mp hlast
  cases run_nil_iff.mp hnil
  have hheader : s₂.header = s.header := (run_header_eq hbetween).trans (step_move hadd).header_eq
  have howner := run_owner_eq hbetween hl
  have hs' : s' = s₂.withIdle := by
    cases step_move hconnect with
    | connect ho hok =>
      rw [hheader, herror] at hok
      cases hok
    | connectError ho he => rfl
  cases step_move hadd with
  | alreadyAdded hidle hmem =>
    cases step_move hconnect with
    | connect ho he | connectError ho he =>
      rw [howner, hidle] at ho
      cases ho
  | addPublisher hidle hmem =>
    have hs : withIdle { s with owner := .addPublisher addr } = s := by rw [withIdle, ← hidle]
    rw [hs', ← hs]
    exact run_withIdle hbetween rfl hl

/-- An address whose connection is not yet cleaned up is not connected to again. -/
theorem OneEach.announced {addr : String} {i : ℕ} (h : s.OneEach) (hi : s.Serves i addr)
    (hs : s.step (.addPublisher addr) = some s') : s' = s := by
  have hmem := (h.mem_iff addr).mpr ⟨i, hi⟩
  cases step_move hs with
  | alreadyAdded ho _ => rfl
  | addPublisher ho hnot => exact absurd hmem hnot

theorem new_one_each {topic : Topic} {callerId : String} {queueSize : ℕ} {tcpNodelay : Bool}
    (hnew : new topic callerId queueSize tcpNodelay = some s) : s.OneEach := by
  obtain ⟨data, -, h⟩ := Option.bind_eq_some_iff.mp hnew
  cases h
  constructor
  · rintro addr i j ⟨task, hi, -⟩
    simp at hi
  · simp [Serves]
  · simp

theorem one_connection_each {topic : Topic} {callerId : String} {queueSize : ℕ}
    {tcpNodelay : Bool} {q : Subscription}
    (hnew : new topic callerId queueSize tcpNodelay = some s)
    (hrun : Run step (fun _ _ => True) s labels q) :
    (∀ addr i j, q.Serves i addr → q.Serves j addr → i = j) ∧
      (∀ addr, addr ∈ q.publisherAddrs ↔ ∃ i, q.Serves i addr) ∧
      (∀ addr i q', q.Serves i addr → q.step (.addPublisher addr) = some q' → q' = q) ∧
      ∀ addr stream e others q', (∀ l ∈ others, byOwner l = false) →
        connectPublisher q.header stream = .error e →
        Run step (fun _ _ => True) q (.addPublisher addr :: others ++ [.connect stream]) q' →
          Run step (fun _ _ => True) q others q' := by
  have hq : q.OneEach := (new_one_each hnew).run hrun
  refine ⟨hq.unique, hq.mem_iff, ?_, ?_⟩
  · intro addr i q' hi hs
    exact hq.announced hi hs
  · intro addr stream e others q' hl herror hfailed
    exact failed_add_erased hl herror hfailed

def scan : Topic := ⟨"/scan", ⟨"*", "*", ""⟩⟩

def scanSubscription : Subscription := (new scan "/mapper" 2 true).get rfl

def lidar : ConnectIo := ⟨.ok (), .ok (), .ok ⟨"/lidar", "/scan", "*", "*", "", false⟩⟩

theorem one_connection_each_again : ∃ q : Subscription,
    q.tasks.map (·.pc) = [.finished, .select] ∧ (∀ i, q.Serves i "http://a" → i = 1) ∧
      q.publisherAddrs = {"http://a"} := by
  obtain ⟨q, hrun, ht, ha⟩ : ∃ q, Run step (fun _ _ => True) scanSubscription
      [.addPublisher "http://a", .connect lidar, .addPublisher "http://a",
        .addPublisher "http://b", .taskRead 0 (.error .unexpectedEof),
        .connect ⟨.error .unexpectedEof, .ok (), .error (.io .unexpectedEof)⟩,
        .taskRemoveLatched 0, .taskRemoveAddr 0, .addPublisher "http://a", .connect lidar] q ∧
      q.tasks = [⟨"http://a", ⟨"/lidar", "/scan", "*", "*", "", false⟩, .finished⟩,
        ⟨"http://a", ⟨"/lidar", "/scan", "*", "*", "", false⟩, .select⟩] ∧
      q.publisherAddrs = {"http://a"} :=
    ⟨_, run_of_exec rfl (fun _ _ _ => trivial), rfl, rfl⟩
  have hnew : new scan "/mapper" 2 true = some scanSubscription := rfl
  obtain ⟨hunique, -⟩ := one_connection_each hnew hrun
  refine ⟨q, by rw [ht]; rfl, fun i hi => hunique "http://a" i 1 hi ?_, ha⟩
  exact ⟨_, by rw [ht]; rfl, rfl, by simp⟩

end RosrustAsync.Subscription
