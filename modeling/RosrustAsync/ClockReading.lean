import RosrustAsync.ClockConservation
import RosrustAsync.Lib.Reception

namespace RosrustAsync.Clock

open Runs

def tickedAt : Event → Option Time
  | .tick t => some t
  | _ => none

/-- The times that the clock was set to, oldest first. -/
def ticks (log : List Event) : List Time := log.filterMap tickedAt

def publishedOf : Label → Option (Option Time)
  | .publish msg => some msg
  | _ => none

def published (labels : List Label) : List (Option Time) := labels.filterMap publishedOf

theorem ticks_append (log log' : List Event) : ticks (log ++ log') = ticks log ++ ticks log' :=
  List.filterMap_append ..

theorem ticks_tick (t : Time) (due : List TimerEntry) :
    ticks (Event.tick t :: due.map (.ticked t)) = [t] := by
  have hdue : List.filterMap tickedAt (due.map (Event.ticked t)) = [] := by
    simp [List.filterMap_eq_nil_iff, tickedAt]
  simp [ticks, tickedAt, hdue]

/-- The clock has ticked at the first of the latched messages and, once these are read, at what it
took of the channel. -/
def Reads (latched : List (Option Time)) (start : ℕ) (s : Clock) (times : List (Option Time)) :
    Prop :=
  ∃ popped taken missed, times = popped ++ taken ∧ popped ++ s.latchedMsgs = latched ∧
    (s.latchedMsgs = [] ∨ taken = []) ∧ s.clockMsgs.Reception start s.clockRx taken missed ∧
    s.clockMsgs.Current start s.clockRx taken

/-- The time, and how far it has followed the messages. -/
structure Follows (latched : List (Option Time)) (start : ℕ) (s : Clock) (log : List Event) :
    Prop where
  capacity : 0 < s.clockMsgs.capacity
  now : s.time.get = (ticks log).getLast?.getD ⟨0, 0⟩
  sublist : ((ticks log).map some).Sublist (latched ++ s.clockMsgs.sent.drop start)
  reading : s.pc = .select → Reads latched start s ((ticks log).map some)

variable {latched : List (Option Time)} {start : ℕ} {s s' : Clock}

theorem fromSubscriber_follows {clockMsgs : Broadcast (Option Time)}
    (hcapacity : 0 < clockMsgs.capacity) (hstart : start ≤ clockMsgs.tail) :
    Follows latched start (fromSubscriber latched clockMsgs start) [] where
  capacity := hcapacity
  now := EncodedTime.get_new _
  sublist := List.nil_sublist _
  reading := fun _ => ⟨[], [], 0, rfl, rfl, .inr rfl, Broadcast.reception_start hstart,
    fun htail => Broadcast.current_start _ htail htail⟩

namespace Reads

variable {times : List (Option Time)}

theorem sublist (h : Reads latched start s times) :
    times.Sublist (latched ++ s.clockMsgs.sent.drop start) := by
  obtain ⟨popped, taken, missed, rfl, rfl, hfirst, hreading, -⟩ := h
  have htaken := hreading.sublist.trans (Broadcast.window_prefix start s.clockRx).sublist
  exact (List.sublist_append_left _ _).append htaken

theorem publish (h : Reads latched start s times) (msg : Option Time) :
    Reads latched start { s with clockMsgs := s.clockMsgs.send msg } times := by
  obtain ⟨popped, taken, missed, htimes, hlatched, hfirst, hreading, -⟩ := h
  exact ⟨popped, taken, missed, htimes, hlatched, hfirst, hreading.send msg,
    hreading.current_send msg⟩

/-- A value that is received is the next of the times. -/
theorem recv_value {msg : Option Time} (h : Reads latched start s times)
    (hrecv : s.recv = some (.value msg, s')) : Reads latched start s' (times ++ [msg]) := by
  obtain ⟨popped, taken, missed, rfl, hlatched, hfirst, hreading, hcurrent⟩ := h
  obtain ⟨msg', msgs, hmsgs, hvalue, rfl⟩ | ⟨hnil, next, hchannel, rfl⟩ := recv_cases hrecv
  · cases hvalue
    obtain rfl := hfirst.resolve_left (by simp [hmsgs])
    refine ⟨popped ++ [msg], [], missed, by simp, ?_, .inr rfl, hreading, hcurrent⟩
    rw [← hlatched, hmsgs, List.append_assoc]
    rfl
  · exact ⟨popped, taken ++ [msg], missed, List.append_assoc .., hlatched, .inl hnil,
      hreading.value hchannel, hreading.current_value hchannel⟩

theorem recv_other {received : Received (Option Time)} (h : Reads latched start s times)
    (hcapacity : 0 < s.clockMsgs.capacity) (hreceived : ∀ msg, received ≠ .value msg)
    (hrecv : s.recv = some (received, s')) : Reads latched start s' times := by
  obtain ⟨popped, taken, missed, htimes, hlatched, hfirst, hreading, hcurrent⟩ := h
  obtain ⟨msg, msgs, -, rfl, rfl⟩ | ⟨hnil, next, hchannel, rfl⟩ := recv_cases hrecv
  · exact absurd rfl (hreceived msg)
  · cases received with
    | value msg => exact absurd rfl (hreceived msg)
    | lagged n =>
      exact ⟨popped, taken, missed + n, htimes, hlatched, hfirst, hreading.lagged hchannel,
        Broadcast.current_lagged hcapacity hchannel⟩
    | closed =>
      obtain ⟨rfl, -⟩ := Broadcast.recv_closed hchannel
      exact ⟨popped, taken, missed, htimes, hlatched, hfirst, hreading, hcurrent⟩

/-- While there is nothing to receive, the last of the times is that of the last message. -/
theorem getLast?_of_waits (h : Reads latched start s times) (hwaits : s.recv = none) :
    times.getLast? = (latched ++ s.clockMsgs.sent.drop start).getLast? := by
  obtain ⟨popped, taken, missed, rfl, rfl, -, hreading, hcurrent⟩ := h
  obtain ⟨hnil, htail⟩ : s.latchedMsgs = [] ∧ s.clockRx = s.clockMsgs.tail := by
    unfold recv at hwaits
    split at hwaits
    · cases hwaits
    · rename_i hnil
      refine ⟨hnil, Nat.le_antisymm hreading.next_le (List.getElem?_eq_none_iff.mp ?_)⟩
      by_contra hsome
      obtain ⟨msg, hmsg⟩ := Option.ne_none_iff_exists'.mp hsome
      rw [Broadcast.recv, hmsg] at hwaits
      simp only at hwaits
      split at hwaits <;> cases hwaits
  rw [hnil, List.append_nil, List.getLast?_append, List.getLast?_append, hcurrent htail]

end Reads

namespace Follows

variable {log : List Event}

theorem frame (h : Follows latched start s log) {evs : List Event} (htime : s'.time = s.time)
    (hmsgs : s'.clockMsgs = s.clockMsgs) (hrx : s'.pc = .select → s.pc = .select ∧
      s'.latchedMsgs = s.latchedMsgs ∧ s'.clockRx = s.clockRx)
    (hevs : ticks evs = []) : Follows latched start s' (log ++ evs) := by
  have hticks : ticks (log ++ evs) = ticks log := by rw [ticks_append, hevs, List.append_nil]
  refine ⟨hmsgs ▸ h.capacity, ?_, ?_, fun hpc => ?_⟩
  · rw [htime, hticks]
    exact h.now
  · rw [hmsgs, hticks]
    exact h.sublist
  · obtain ⟨hwas, hlatched, heq⟩ := hrx hpc
    rw [hticks, Reads, hmsgs, hlatched, heq]
    exact h.reading hwas

theorem publish (h : Follows latched start s log) (msg : Option Time) :
    Follows latched start { s with clockMsgs := s.clockMsgs.send msg } log := by
  refine ⟨h.capacity, h.now, h.sublist.trans ?_, fun hpc => (h.reading hpc).publish msg⟩
  exact ((List.sublist_append_left _ _).drop start).append_left latched

theorem recvClock (h : Follows latched start s log) (hpc : s.pc = .select)
    (hs : s.recvClock = some s') : Follows latched start s' (log ++ s.events .recvClock) := by
  obtain ⟨received, s₁, hrecv, hs⟩ := recvClock_cases hs
  have hreads := h.reading hpc
  rcases hs with ⟨t, rfl, rfl⟩ | ⟨hreceived, rfl⟩ | ⟨hreceived, rfl⟩
  · have hticks : ticks (log ++ s.events .recvClock) = ticks log ++ [t] := by
      rw [events_tick hrecv, ticks_append, ticks_tick]
    have hreads₁ := hreads.recv_value hrecv
    obtain ⟨msgs, next, rfl⟩ := recv_frame hrecv
    refine ⟨h.capacity, ?_, ?_, fun _ => ?_⟩
    · rw [hticks, List.getLast?_concat]
      exact EncodedTime.get_set s.time t
    · rw [hticks, List.map_append]
      exact hreads₁.sublist
    · rw [hticks, List.map_append]
      exact hreads₁
  · rw [events_recv hrecv fun t => hreceived (some t), List.append_nil]
    have hreads₁ := hreads.recv_other h.capacity hreceived hrecv
    obtain ⟨msgs, next, rfl⟩ := recv_frame hrecv
    exact ⟨h.capacity, h.now, h.sublist, fun _ => hreads₁⟩
  · rw [events_recv hrecv hreceived, List.append_nil]
    obtain ⟨msgs, next, rfl⟩ := recv_frame hrecv
    exact ⟨h.capacity, h.now, h.sublist, fun hpc' => by cases hpc'⟩

end Follows

theorem step_follows {log : List Event} {label : Label} (h : Follows latched start s log)
    (hs : s.step label = some s') : Follows latched start s' (log ++ s.events label) := by
  cases label with
  | publish msg =>
    cases hs
    simp only [events, List.append_nil]
    exact h.publish msg
  | recvClock =>
    simp only [step] at hs
    split at hs
    · exact h.recvClock ‹_› hs
    · cases hs
  | sleepUntil deadline | cancel =>
    cases hs
    exact h.frame rfl rfl (fun hpc => ⟨hpc, rfl, rfl⟩) rfl
  | pollTime i waker | pollRegister i | dropFuture i =>
    obtain ⟨f, hi, hs⟩ := stepFuture_some hs
    split at hs <;> cases hs
    exact h.frame rfl rfl (fun hpc => ⟨hpc, rfl, rfl⟩) rfl
  | pollSend i =>
    obtain ⟨f, hi, hs⟩ := stepFuture_some hs
    split at hs <;> cases hs
    have hevs : ticks (s.events (.pollSend i)) = [] := by
      simp only [events, hi]
      split <;> rfl
    unfold pollSend
    split <;> exact h.frame rfl rfl (fun hpc => ⟨hpc, rfl, rfl⟩) hevs
  | recvTimer =>
    simp only [step] at hs
    split at hs <;> cases hs
    exact h.frame rfl rfl (fun hpc => ⟨hpc, rfl, rfl⟩) rfl
  | cancelled =>
    simp only [step] at hs
    split at hs
    · split at hs <;> cases hs
      exact h.frame rfl rfl (fun hpc => by cases hpc) rfl
    · cases hs
  | close =>
    simp only [step] at hs
    split at hs <;> cases hs
    exact h.frame rfl rfl (fun hpc => by cases hpc) rfl
  | drainTimer k =>
    simp only [step] at hs
    split at hs <;> cases hs
    rename_i entry hpc hk
    have hevs : ticks (s.events (.drainTimer k)) = [] := by
      simp only [events, hk]
      rfl
    exact h.frame rfl rfl (fun hpc => ⟨hpc, rfl, rfl⟩) hevs
  | drainChannel =>
    have hevs : ticks (s.events .drainChannel) = [] := by
      simp only [events]
      split <;> rfl
    simp only [step] at hs
    split at hs <;> cases hs
    · exact h.frame rfl rfl (fun hpc => ⟨hpc, rfl, rfl⟩) hevs
    · exact h.frame rfl rfl (fun hpc => by cases hpc) hevs

theorem step_sent {s s' : Clock} {label : Label} (hs : s.step label = some s') :
    s'.clockMsgs.sent = s.clockMsgs.sent ++ (publishedOf label).toList := by
  cases label with
  | publish msg =>
    cases hs
    rfl
  | recvClock =>
    simp only [step] at hs
    split at hs
    · obtain ⟨received, s₁, hrecv, hs⟩ := recvClock_cases hs
      obtain ⟨msgs, next, rfl⟩ := recv_frame hrecv
      obtain ⟨t, -, rfl⟩ | ⟨-, rfl⟩ | ⟨-, rfl⟩ := hs <;> exact (List.append_nil _).symm
    · cases hs
  | pollSend i =>
    obtain ⟨f, -, hs⟩ := stepFuture_some hs
    split at hs <;> cases hs
    unfold pollSend
    split <;> exact (List.append_nil _).symm
  | pollTime i waker | pollRegister i | dropFuture i =>
    obtain ⟨f, -, hs⟩ := stepFuture_some hs
    split at hs <;> cases hs
    exact (List.append_nil _).symm
  | cancelled =>
    simp only [step] at hs
    split at hs
    · split at hs <;> cases hs
      exact (List.append_nil _).symm
    · cases hs
  | _ =>
    simp only [step] at hs
    first
      | cases hs
        exact (List.append_nil _).symm
      | split at hs <;> cases hs <;> exact (List.append_nil _).symm

theorem run_sent {x y : Clock × List Event} {labels : List Label}
    (hrun : Run loggedStep (fun _ _ => True) x labels y) :
    y.1.clockMsgs.sent = x.1.clockMsgs.sent ++ published labels := by
  induction hrun with
  | nil x => exact (List.append_nil _).symm
  | @cons x y z label labels _ hs _ ih =>
    obtain ⟨s', hs', rfl⟩ := Option.map_eq_some_iff.mp hs
    rw [ih, step_sent hs', List.append_assoc]
    simp only [published, List.filterMap_cons]
    cases publishedOf label <;> rfl

/-- The clock reads what is latched for it and then the channel, and whatever it was too slow to
read, its time is that of the last message once it waits. -/
theorem now_follows_clock {latchedMsgs : List (Option Time)} {clockMsgs : Broadcast (Option Time)}
    {clockRx : ℕ} {labels : List Label} {s : Clock} {log : List Event}
    (hcapacity : 0 < clockMsgs.capacity) (hrx : clockRx ≤ clockMsgs.tail)
    (hrun : Run loggedStep (fun _ _ => True)
      (fromSubscriber latchedMsgs clockMsgs clockRx, []) labels (s, log)) :
    s.time.get = (ticks log).getLast?.getD ⟨0, 0⟩ ∧
      ((ticks log).map some).Sublist
        (latchedMsgs ++ (clockMsgs.sent.drop clockRx ++ published labels)) ∧
      (s.pc = .select → s.recv = none →
        (latchedMsgs ++ (clockMsgs.sent.drop clockRx ++ published labels)).getLast? =
          (ticks log).getLast?.map some) := by
  have hfollows : Follows latchedMsgs clockRx s log := by
    refine hrun.invariant (I := fun x => Follows latchedMsgs clockRx x.1 x.2)
      (fun x label y h _ hs => ?_) (fromSubscriber_follows hcapacity hrx)
    obtain ⟨s', hs', rfl⟩ := Option.map_eq_some_iff.mp hs
    exact step_follows h hs'
  have hsent : s.clockMsgs.sent.drop clockRx =
      clockMsgs.sent.drop clockRx ++ published labels := by
    rw [run_sent hrun]
    exact List.drop_append_of_le_length hrx
  refine ⟨hfollows.now, hsent ▸ hfollows.sublist, fun hpc hwaits => ?_⟩
  rw [← hsent, ← (hfollows.reading hpc).getLast?_of_waits hwaits, List.getLast?_map]

theorem now_follows_clock_lagged : ∃ (labels : List Label) (s : Clock) (log : List Event),
    published labels = [some ⟨2, 0⟩, some ⟨3, 0⟩, some ⟨4, 0⟩] ∧
      ticks log = [⟨1, 0⟩, ⟨2, 0⟩, ⟨4, 0⟩] ∧ s.time.get = ⟨4, 0⟩ ∧
      (some ⟨1, 0⟩ :: published labels).getLast? = (ticks log).getLast?.map some := by
  obtain ⟨s, log, hrun, hpc, hwaits, hlog⟩ : ∃ s log, Run loggedStep (fun _ _ => True)
      (fromSubscriber [some ⟨1, 0⟩] ⟨1, [some ⟨9, 0⟩], false⟩ 1, [])
      [.publish (some ⟨2, 0⟩), .recvClock, .recvClock, .publish (some ⟨3, 0⟩),
        .publish (some ⟨4, 0⟩), .recvClock, .recvClock] (s, log) ∧
      s.pc = .select ∧ s.recv = none ∧ ticks log = [⟨1, 0⟩, ⟨2, 0⟩, ⟨4, 0⟩] :=
    ⟨_, _, run_of_exec rfl fun _ _ _ => trivial, rfl, rfl, rfl⟩
  obtain ⟨hnow, -, hlast⟩ := now_follows_clock Nat.one_pos (Nat.le_refl 1) hrun
  refine ⟨_, s, log, rfl, hlog, ?_, hlast hpc hwaits⟩
  rw [hnow, hlog]
  rfl

end RosrustAsync.Clock
