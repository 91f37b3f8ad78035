import RosrustAsync.PublisherConnections
import RosrustAsync.SubscriberCallbackRuns

namespace RosrustAsync

open Runs

def SubscriberTaskPc.left : SubscriberTaskPc → ℕ
  | .finished => 0
  | .removeAddr => 1
  | .removeLatched => 2
  | .select => 3
  | .store _ => 4

namespace Subscription

def left (self : Subscription) : ℕ := (self.tasks.map fun task => task.pc.left).sum

namespace Label

/-- The steps of the tasks, but for the frames they read. -/
def cost : Label → ℕ
  | .taskStore _ | .taskCancelled _ | .taskRemoveLatched _ | .taskRemoveAddr _
  | .taskRead _ (.error _) => 1
  | _ => 0

def gain : Label → ℕ
  | .taskRead _ (.ok _) | .connect _ => 3
  | _ => 0

end Label

/-- The tasks wait for frames at most. -/
def Quiescent (self : Subscription) : Prop :=
  ∀ i, self.step (.taskStore i) = none ∧ self.step (.taskCancelled i) = none ∧
    self.step (.taskRemoveLatched i) = none ∧ self.step (.taskRemoveAddr i) = none

variable {s q : Subscription}

theorem left_setPc {i c g : ℕ} {task : SubscriberTask} {pc : SubscriberTaskPc}
    (hi : s.tasks[i]? = some task) (pc' : SubscriberTaskPc) (hpc : task.pc = pc)
    (h : pc'.left + c ≤ pc.left + g) :
    ((s.setPc i task pc').map fun task => task.pc.left).sum + c ≤ s.left + g := by
  have hsum := sum_map_set (a := { task with pc := pc' }) (fun task => task.pc.left) hi
  simp only [hpc] at hsum
  simp only [left, setPc]
  omega

theorem Move.left_le {label : Label} (hs : s.Move label q) :
    q.left + 2 * q.data.tail + label.cost ≤ s.left + 2 * s.data.tail + label.gain ∧
      s.data.tail ≤ q.data.tail := by
  cases hs with
  | @read i task data hi hpc =>
    have hleft : _ + 0 ≤ s.left + 1 :=
      left_setPc hi (if task.publisherHeader.latching then .store data else .select) hpc
        (by split <;> simp [SubscriberTaskPc.left])
    simp only [left, Label.cost, Label.gain, Broadcast.tail_send] at hleft ⊢
    omega
  | readClosed hi hpc hclosed =>
    have hleft : _ + 1 ≤ s.left + 0 := left_setPc hi .removeLatched hpc (by decide)
    simp only [left, Label.cost, Label.gain] at hleft ⊢
    omega
  | readError e hi hpc | cancelled hi hpc =>
    have hleft : _ + 1 ≤ s.left + 0 := left_setPc hi .removeLatched hpc (by decide)
    simp only [left, Label.cost, Label.gain] at hleft ⊢
    omega
  | store hi hpc =>
    have hleft : _ + 1 ≤ s.left + 0 := left_setPc hi .select hpc (by simp [SubscriberTaskPc.left])
    simp only [left, Label.cost, Label.gain] at hleft ⊢
    omega
  | removeLatched hi hpc =>
    have hleft : _ + 1 ≤ s.left + 0 := left_setPc hi .removeAddr hpc (by decide)
    simp only [left, Label.cost, Label.gain] at hleft ⊢
    omega
  | removeAddr hi hpc =>
    have hleft : _ + 1 ≤ s.left + 0 := left_setPc hi .finished hpc (by decide)
    simp only [left, Label.cost, Label.gain] at hleft ⊢
    omega
  | connect ho hconnect =>
    simp only [left, List.map_append, List.sum_append, List.map_singleton, List.sum_singleton,
      SubscriberTaskPc.left, Label.cost, Label.gain]
    omega
  | _ =>
    simp only [left, Label.cost, Label.gain]
    omega

theorem Quiescent.finished (h : s.Quiescent) (hdropped : s.owner = .dropped)
    {task : SubscriberTask} (ht : task ∈ s.tasks) : task.pc = .finished := by
  obtain ⟨i, hi⟩ := List.mem_iff_getElem?.mp ht
  cases hpc : task.pc with
  | finished => rfl
  | select =>
    have hcancel := (h i).2.1
    simp [step, stepTask, hi, hpc, isDropped, hdropped] at hcancel
  | store data =>
    have hstore := (h i).1
    simp [step, stepTask, hi, hpc] at hstore
  | removeLatched =>
    have hremove := (h i).2.2.1
    simp [step, stepTask, hi, hpc] at hremove
  | removeAddr =>
    have hremove := (h i).2.2.2
    simp [step, stepTask, hi, hpc] at hremove

theorem OneEach.publisherAddrs_empty (h : s.OneEach)
    (hfinished : ∀ task ∈ s.tasks, task.pc = .finished) : s.publisherAddrs = ∅ := by
  refine Finset.eq_empty_of_forall_notMem fun addr haddr => ?_
  obtain ⟨i, task, hi, -, hpc⟩ := (h.mem_iff addr).mp haddr
  exact hpc (hfinished task (List.mem_of_getElem? hi))

/-- A channel whose senders are all gone keeps no receiver waiting. -/
theorem recv_of_finished (hdropped : s.owner = .dropped)
    (hfinished : ∀ task ∈ s.tasks, task.pc = .finished) (next : ℕ) : s.channel.recv next ≠ none := by
  have hany : s.tasks.any connected = false := by
    refine List.any_eq_false.mpr fun task ht => ?_
    simp [connected, hfinished task ht]
  have hclosed : s.channel.closed = true := by simp [channel, isDropped, hdropped, hany]
  unfold Broadcast.recv
  split
  · split <;> simp
  · simp [hclosed]

end Subscription

namespace PubSub

def cost : Label → ℕ
  | .sub label => label.cost
  | .readError _ => 1
  | _ => 0

def gain : Label → ℕ
  | .sub label => label.gain
  | .read | .join => 3
  | _ => 0

variable {s t : PubSub} {label : Label}

theorem step_one_each (h : s.subscription.OneEach) (hs : s.step label = some t) :
    t.subscription.OneEach := by
  rcases step_subscription hs with ⟨heq, -⟩ | ⟨l, -, hmove⟩
  · rw [heq]
    exact h
  · exact h.move hmove

theorem step_left (hs : s.step label = some t) :
    t.subscription.left + 2 * t.subscription.data.tail + cost label ≤
        s.subscription.left + 2 * s.subscription.data.tail + gain label ∧
      s.subscription.data.tail ≤ t.subscription.data.tail := by
  rcases step_subscription hs with ⟨heq, hnone⟩ | ⟨l, hl, hmove⟩
  · rw [heq]
    have hcost : cost label = 0 := by
      cases label with
      | sub label => exact (hnone label (.sub label)).elim
      | readError e => exact (hnone _ (.readError 0 e)).elim
      | _ => rfl
    rw [hcost]
    exact ⟨Nat.le_add_right _ _, le_rfl⟩
  · have hleft := hmove.left_le
    cases hl <;> exact hleft

end PubSub

namespace SubscriberCallback

def CallbackPc.left : CallbackPc → ℕ
  | .finished _ => 0
  | .select => 1
  | .callback => 2

variable {T : Type} {M : Message T} {origin handle handle' : SubscriberHandle}
  {s t : SubscriberCallback T}

/-- What the task has yet to read. -/
def unread (self : SubscriberCallback T) : ℕ :=
  match self.system.subscription.handles[self.subscriber]? with
  | some handle => handle.latchedMsgs.length + (self.system.subscription.data.tail - handle.dataRx)
  | none => 0

def left (self : SubscriberCallback T) : ℕ :=
  CallbackPc.left self.pc + 2 * self.unread + self.system.subscription.left

def cost : Label → ℕ
  | .system label => PubSub.cost label
  | .stopped | .recv | .returned => 1
  | _ => 0

def gain : Label → ℕ
  | .system label => PubSub.gain label
  | _ => 0

theorem unread_eq (hi : s.system.subscription.handles[s.subscriber]? = some handle) :
    s.unread = handle.latchedMsgs.length + (s.system.subscription.data.tail - handle.dataRx) := by
  simp only [unread, hi]

theorem finish_left {why : CallbackEnd}
    (hi : s.system.subscription.handles[s.subscriber]? = some handle)
    (hs : s.finish why = some t) : t.left + CallbackPc.left s.pc = s.left := by
  obtain ⟨q, hq, hs⟩ := Option.bind_eq_some_iff.mp hs
  cases hs
  obtain rfl := system_dropHandle hq hi
  have hset := getElem?_set_of_some (a := { handle with alive := false }) hi
  simp only [left, unread, hi, hset, CallbackPc.left, Subscription.left]
  omega

theorem received_left {m : Frame} (hpc : s.pc = .select)
    (hi : s.system.subscription.handles[s.subscriber]? = some handle)
    (hs : s.received M (.value m) = some t) : t.left ≤ s.left + 1 := by
  simp only [received] at hs
  split at hs
  · cases hs
    simp only [left, unread, hpc, CallbackPc.left]
    omega
  · have hfinish := finish_left hi hs
    omega

theorem Consumes.recv_left {result : Received Frame} (h : s.Consumes M origin handle)
    (hpc : s.pc = .select)
    (hr : Subscription.Receives s.system.subscription.channel handle result handle')
    (hs : (s.withSubscriber handle').received M result = some t) : t.left + 1 ≤ s.left := by
  have hi : (s.withSubscriber handle').system.subscription.handles[s.subscriber]? = some handle' :=
    getElem?_set_of_some h.subscriber
  have hleft : (s.withSubscriber handle').left = 1 + 2 * (handle'.latchedMsgs.length +
      (s.system.subscription.data.tail - handle'.dataRx)) + s.system.subscription.left := by
    have hunread := unread_eq hi
    have hpc' : (s.withSubscriber handle').pc = .select := hpc
    rw [left, hunread, hpc']
    rfl
  have hold : s.left = 1 + 2 * (handle.latchedMsgs.length +
      (s.system.subscription.data.tail - handle.dataRx)) + s.system.subscription.left := by
    rw [left, unread_eq h.subscriber, hpc]
    rfl
  have htail : s.system.subscription.channel.tail = s.system.subscription.data.tail := rfl
  cases hr with
  | latched hms =>
    have hreceived := received_left (s := s.withSubscriber _) hpc hi hs
    rw [hms, List.length_cons] at hold
    simp only at hleft
    omega
  | value hnone hrecv =>
    obtain ⟨-, rfl, hle⟩ := Broadcast.recv_value hrecv
    have hreceived := received_left (s := s.withSubscriber _) hpc hi hs
    simp only at hleft
    omega
  | lagged hnone hrecv =>
    obtain ⟨hlt, rfl⟩ := Broadcast.recv_lagged hrecv
    cases hs
    have hcapacity : s.system.subscription.channel.capacity = s.system.subscription.data.capacity :=
      rfl
    simp only at hleft
    change (s.withSubscriber _).left + 1 ≤ _
    omega
  | closed hnone hrecv =>
    have hfinish := finish_left hi hs
    have hpc' : CallbackPc.left (s.withSubscriber handle).pc = 1 := by
      change CallbackPc.left s.pc = 1
      rw [hpc]
      rfl
    omega

theorem Consumes.dataRx_le (h : s.Consumes M origin handle) :
    handle.dataRx ≤ s.system.subscription.data.tail := by
  obtain ⟨popped, taken, -, -, -, hreception⟩ := h.account.split
  exact hreception.next_le

theorem step_left {label : Label} (h : s.Consumes M origin handle)
    (hs : s.step M label = some t) : t.left + cost label ≤ s.left + gain label := by
  cases label with
  | system label =>
    simp only [step] at hs
    split at hs
    · cases hs
    · rename_i howns
      obtain ⟨q, hq, hs⟩ := Option.bind_eq_some_iff.mp hs
      cases hs
      have hkept := (h.system (by simpa using howns) hq).subscriber
      have hrx := h.dataRx_le
      obtain ⟨hleft, htail⟩ := PubSub.step_left hq
      simp only [left, unread_eq h.subscriber, unread_eq hkept, cost, gain]
      omega
  | cancel =>
    cases hs
    exact le_rfl
  | stopped =>
    simp only [step] at hs
    split at hs
    · rename_i hpc
      split at hs
      · have hfinish := finish_left h.subscriber hs
        rw [hpc] at hfinish
        exact hfinish.le
      · cases hs
    · cases hs
  | recv =>
    simp only [step] at hs
    split at hs
    · rename_i hpc
      obtain ⟨handle₀, hi, hs⟩ := Option.bind_eq_some_iff.mp hs
      cases h.subscriber.symm.trans hi
      obtain ⟨⟨result, handle'⟩, hr, hs⟩ := Option.bind_eq_some_iff.mp hs
      obtain ⟨q, hq, hs⟩ := Option.bind_eq_some_iff.mp hs
      obtain rfl := system_recvRaw hq h.subscriber hr
      exact h.recv_left hpc (Subscription.recvRawResult_receives hr) hs
    · cases hs
  | returned =>
    simp only [step] at hs
    split at hs
    · rename_i hpc
      cases hs
      simp only [left, unread, hpc, CallbackPc.left, cost, gain]
      omega
    · cases hs
  | panicked =>
    simp only [step] at hs
    split at hs
    · have hfinish := finish_left h.subscriber hs
      exact (Nat.le_add_right _ _).trans hfinish.le
    · cases hs
  | abort =>
    simp only [step] at hs
    split at hs
    · cases hs
    · have hfinish := finish_left h.subscriber hs
      exact (Nat.le_add_right _ _).trans hfinish.le

/-- Neither the task nor those of its subscription have a step to take, but for frames to read. -/
structure Quiescent (M : Message T) (s : SubscriberCallback T) : Prop where
  tasks : ∀ i, ∀ label ∈ [Subscription.Label.taskStore i, .taskCancelled i, .taskRemoveLatched i,
    .taskRemoveAddr i], s.step M (.system (.sub label)) = none
  recv : s.step M .recv = none
  returned : s.step M .returned = none

theorem Quiescent.subscription (h : s.Quiescent M) : s.system.subscription.Quiescent := by
  have hnone {label : Subscription.Label} (hhandle : label.handle? = none)
      (hlink : ∀ link : Link, link.drivesSubscriber label = false)
      (hs : s.step M (.system (.sub label)) = none) :
      s.system.subscription.step label = none := by
    have howns : owns s.subscriber (.sub label) = false := by
      rw [owns, hhandle]
      rfl
    have hdrives : s.system.link.any (·.drivesSubscriber label) = false := by
      simp [hlink]
    cases hq : s.system.subscription.step label with
    | none => rfl
    | some q => simp [step, howns, PubSub.step, hdrives, hq] at hs
  intro i
  exact ⟨hnone rfl (fun _ => rfl) (h.tasks i _ (by simp)),
    hnone rfl (fun _ => rfl) (h.tasks i _ (by simp)),
    hnone rfl (fun _ => rfl) (h.tasks i _ (by simp)),
    hnone rfl (fun _ => rfl) (h.tasks i _ (by simp))⟩

theorem finish_some (hi : s.system.subscription.handles[s.subscriber]? = some handle)
    (why : CallbackEnd) : ∃ t, s.finish why = some t := by
  have hdrives : s.system.link.any (·.drivesSubscriber (.dropHandle s.subscriber)) = false := by
    simp [Link.drivesSubscriber]
  simp [finish, PubSub.step, Subscription.step, hdrives, hi]

theorem received_some (hi : s.system.subscription.handles[s.subscriber]? = some handle)
    (result : Received Frame) : ∃ t, s.received M result = some t := by
  cases result with
  | value m =>
    simp only [received]
    split
    · exact ⟨_, rfl⟩
    · exact finish_some hi _
  | lagged n => exact ⟨_, rfl⟩
  | closed => exact finish_some hi .closed

/-- The task takes what its subscriber has for it. -/
theorem Consumes.recv_some (h : s.Consumes M origin handle) (hpc : s.pc = .select)
    (hr : Subscription.recvRawResult s.system.subscription.channel handle ≠ none) :
    s.step M .recv ≠ none := by
  obtain ⟨⟨result, handle'⟩, hr⟩ := Option.ne_none_iff_exists'.mp hr
  have halive : handle.alive = true := by
    by_contra hdead
    obtain ⟨why, hfinished⟩ := h.released.mp (by simpa using hdead)
    cases hpc.symm.trans hfinished
  have hdrives : s.system.link.any (·.drivesSubscriber (.recvRaw s.subscriber)) = false := by
    simp [Link.drivesSubscriber]
  have hraw := Subscription.recvRawResult_snd s.system.subscription.channel handle
  rw [hr, Option.map_some] at hraw
  have hq : s.system.step (.sub (.recvRaw s.subscriber)) =
      some (s.withSubscriber handle').system := by
    simp [PubSub.step, Subscription.step, hdrives, h.subscriber, halive, ← hraw, withSubscriber]
  obtain ⟨t, ht⟩ := received_some (M := M) (s := s.withSubscriber handle')
    (getElem?_set_of_some h.subscriber) result
  simp only [withSubscriber, hpc] at ht
  simp only [step, hpc, h.subscriber, hr, hq, Option.bind_eq_bind, Option.bind_some]
  exact fun hnone => by cases hnone.symm.trans ht

theorem Consumes.finished (h : s.Consumes M origin handle) (hquiet : s.Quiescent M)
    (hdropped : s.system.subscription.owner = .dropped) : ∃ why, s.pc = .finished why := by
  cases hpc : s.pc with
  | finished why => exact ⟨why, rfl⟩
  | callback =>
    have hreturned := hquiet.returned
    simp [step, hpc] at hreturned
  | select =>
    refine (h.recv_some hpc ?_ hquiet.recv).elim
    have hchannel := Subscription.recv_of_finished hdropped
      (fun task => hquiet.subscription.finished hdropped) handle.dataRx
    obtain ⟨⟨received, next⟩, hrecv⟩ := Option.ne_none_iff_exists'.mp hchannel
    unfold Subscription.recvRawResult
    cases handle.latchedMsgs with
    | cons m ms => simp
    | nil => cases received <;> simp [hrecv]

theorem step_one_each {label : Label} (h : s.system.subscription.OneEach)
    (hs : s.step M label = some t) : t.system.subscription.OneEach :=
  step_kept (I := fun p => p.subscription.OneEach)
    (fun _ _ _ h (_ : True) => PubSub.step_one_each h) (fun _ _ => trivial) (fun _ _ => trivial)
    (fun _ _ => trivial) h hs

/-- A subscription's tasks and its callback's take the steps they have left, and three for each
frame and each connection; once it is dropped, they come to rest at their ends, and no publisher
counts as connected. -/
theorem subscription_cleaned_up {p : Publication} {u : Subscription} {topic : Topic}
    {callerId : String} {queueSize : ℕ} {tcpNodelay : Bool} {system : PubSub} {subscriber : ℕ}
    {before : List PubSub.Label} {labels : List Label}
    (hu : Subscription.new topic callerId queueSize tcpNodelay = some u)
    (hbefore : Run PubSub.step (fun _ _ => True) (PubSub.ofPubSub p u) before system)
    (hi : system.subscription.handles[subscriber]? = some origin)
    (hfresh : Fresh system.subscription.data origin)
    (hrun : Run (step M) (fun _ _ => True) (spawn system subscriber) labels t) :
    (∀ labels' t', Run (step M) (fun _ _ => True) t labels' t' →
      (labels'.map cost).sum ≤ t.left + (labels'.map gain).sum) ∧
    (t.system.subscription.owner = .dropped → t.Quiescent M →
      (∃ why, t.pc = .finished why) ∧
      (∃ handle, t.system.subscription.handles[t.subscriber]? = some handle ∧
        handle.alive = false) ∧
      (∀ task ∈ t.system.subscription.tasks, task.pc = .finished) ∧
      t.system.subscription.publisherAddrs = ∅) := by
  have hkept (s : SubscriberCallback T) (label : Label) (t : SubscriberCallback T)
      (h : ∃ handle, s.Consumes M origin handle) (_ : True) (hs : s.step M label = some t) :
      ∃ handle, t.Consumes M origin handle := by
    obtain ⟨handle, h⟩ := h
    exact step_consumes h hs
  have hconsumes : ∃ handle, t.Consumes M origin handle :=
    hrun.invariant hkept ⟨origin, spawn_consumes hi hfresh⟩
  constructor
  · intro labels' t' hrun'
    have hspent : t'.left + (labels'.map cost).sum ≤ t.left + (labels'.map gain).sum :=
      hrun'.amortised hkept (fun s label q h _ hs => h.elim fun _ h => step_left h hs) hconsumes
    exact (Nat.le_add_left _ _).trans hspent
  · intro hdropped hquiet
    obtain ⟨handle, h⟩ := hconsumes
    have hfinished := h.finished hquiet hdropped
    have hsystem : system.subscription.OneEach :=
      hbefore.invariant (I := fun p => p.subscription.OneEach)
        (fun _ _ _ h _ hs => PubSub.step_one_each h hs) (Subscription.new_one_each hu)
    have honeEach : t.system.subscription.OneEach :=
      hrun.invariant (I := fun s => s.system.subscription.OneEach)
        (fun _ _ _ h _ hs => step_one_each h hs) hsystem
    have htasks : ∀ task ∈ t.system.subscription.tasks, task.pc = .finished :=
      fun _ ht => hquiet.subscription.finished hdropped ht
    exact ⟨hfinished, ⟨handle, h.subscriber, h.released.mpr hfinished⟩, htasks,
      honeEach.publisherAddrs_empty htasks⟩

theorem subscription_cleaned_up_dropped : ∃ s t : SubscriberCallback UInt8,
    s.system.subscription.publisherAddrs = {"http://laser"} ∧
    ([Label.returned, .recv, .returned, .system (.sub (.taskCancelled 0)),
      .system (.sub (.taskRemoveLatched 0)), .system (.sub (.taskRemoveAddr 0)),
      .recv].map cost).sum ≤ s.left ∧
    (∃ why, t.pc = .finished why) ∧ t.system.subscription.publisherAddrs = ∅ := by
  obtain ⟨s, hrun, haddrs, t, hrun', hdropped, hquiet⟩ : ∃ s, Run (step byteMessage)
      (fun _ _ => True) (spawn (PubSub.ofPubSub PubSub.scanPublication PubSub.scanSubscription) 0)
      [.system (.sub (.addPublisher "http://laser")),
        .system (.sub (.connect ⟨.ok (), .ok (), .ok PubSub.scanPublication.header⟩)),
        .system (.sub (.taskRead 0 (.ok (frame [1])))), .system (.sub (.taskStore 0)), .recv,
        .system (.sub (.taskRead 0 (.ok (frame [2])))), .system (.sub (.taskStore 0)),
        .system (.sub .drop)] s ∧
      s.system.subscription.publisherAddrs = {"http://laser"} ∧
      ∃ t, Run (step byteMessage) (fun _ _ => True) s [.returned, .recv, .returned,
          .system (.sub (.taskCancelled 0)), .system (.sub (.taskRemoveLatched 0)),
          .system (.sub (.taskRemoveAddr 0)), .recv] t ∧
        t.system.subscription.owner = .dropped ∧ t.Quiescent byteMessage := by
    refine ⟨_, run_of_exec rfl (fun _ _ _ => trivial), rfl, _,
      run_of_exec rfl (fun _ _ _ => trivial), rfl, fun i label hlabel => ?_, rfl, rfl⟩
    simp only [List.mem_cons, List.not_mem_nil, or_false] at hlabel
    rcases hlabel with rfl | rfl | rfl | rfl <;> cases i <;> rfl
  have hu : Subscription.new PubSub.scanTopic "/mapper" 2 false = some PubSub.scanSubscription := rfl
  obtain ⟨origin, hi, hfresh⟩ := new_fresh hu
  have hbefore : Run PubSub.step (fun _ _ => True)
    (PubSub.ofPubSub PubSub.scanPublication PubSub.scanSubscription) []
    (PubSub.ofPubSub PubSub.scanPublication PubSub.scanSubscription) := .nil _
  have hleft := (subscription_cleaned_up hu hbefore hi hfresh hrun).1 _ _ hrun'
  obtain ⟨hfinished, -, -, hnone⟩ :=
    (subscription_cleaned_up hu hbefore hi hfresh (hrun.trans hrun')).2 hdropped hquiet
  exact ⟨s, t, haddrs, hleft, hfinished, hnone⟩

end SubscriberCallback

end RosrustAsync
