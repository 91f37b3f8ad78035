import RosrustAsync.ClockInvariant

namespace RosrustAsync.Clock

open Runs

def Running (s : Clock) : Prop := s.pc = .select ∨ s.pc = .close

theorem stepFuture_some {s s' : Clock} {i : ℕ} {g : SleepFuture → Option Clock}
    (hs : s.stepFuture i g = some s') : ∃ f, s.futures[i]? = some f ∧ g f = some s' :=
  Option.bind_eq_some_iff.mp hs

theorem fromSubscriber_invariant (latchedMsgs : List (Option Time))
    (clockMsgs : Broadcast (Option Time)) (clockRx : ℕ) :
    (fromSubscriber latchedMsgs clockMsgs clockRx).Invariant := by
  refine ⟨fun e he => ?_, fun i f hi => ?_⟩
  · rcases he with he | he <;> cases he
  · cases hi

theorem pollTime_future {s : Clock} {i w : ℕ} {f : SleepFuture}
    (h : FutureInvariant (s.InFlight ⟨f.deadline, i⟩) f) (hpc : f.pc = .idle)
    (hsteady : f.fired → f.deadline ≤ s.time.get) :
    FutureInvariant (s.InFlight ⟨f.deadline, i⟩) (s.pollTime w f) := by
  unfold pollTime
  split
  · exact .done (.inl rfl)
  · rename_i hnow
    refine ⟨by simp, fun v hp => ?_, by simp⟩
    cases hp
    refine ⟨rfl, fun r hr => .inl ?_⟩
    rcases h.idle hpc r hr with ⟨-, hflight⟩ | ⟨hfired, -⟩
    · exact hflight
    · exact absurd (.inl (hsteady hfired)) hnow

theorem pollRegister_future {p : Prop} {w : ℕ} {f : SleepFuture} (h : FutureInvariant p f)
    (hpc : f.pc = .register w) : FutureInvariant p (pollRegister f w) := by
  obtain ⟨hpoll, hwaker⟩ := h.register w hpc
  unfold pollRegister
  split
  · rename_i r hr
    refine ⟨fun _ r' hr' => ?_, by simp, by simp⟩
    cases hr'
    exact (hwaker r hr).imp_left fun hp => ⟨congrArg some hpoll.symm, hp⟩
  · refine ⟨by simp, by simp, fun v hp => ?_⟩
    cases hp
    exact hpoll

theorem recvClock_invariant {s s' : Clock} (h : s.Invariant) (hok : s.Steady .recvClock)
    (hs : s.recvClock = some s') : s'.Invariant := by
  obtain ⟨received, s₁, hrecv, hs⟩ := recvClock_cases hs
  obtain ⟨msgs, next, rfl⟩ := recv_frame hrecv
  have h₁ : Invariant { s with latchedMsgs := msgs, clockRx := next } := ⟨h.entries, h.futures⟩
  rcases hs with ⟨t, rfl, rfl⟩ | ⟨-, rfl⟩ | ⟨-, rfl⟩
  · exact h₁.onTick (hok t _ hrecv)
  · exact h₁
  · exact ⟨h.entries, h.futures⟩

theorem recvTimer_invariant {s : Clock} (h : s.Invariant) {entry : TimerEntry}
    {entries : List TimerEntry} (hrx : s.timerRx = entry :: entries) :
    Invariant { s with timers := s.timers.push entry, timerRx := entries } := by
  have hmem : ∀ e, (e ∈ entries ∨ e ∈ (s.timers.push entry).entries) ↔ s.InFlight e := by
    intro e
    rw [InFlight, hrx, MinQueue.mem_push, List.mem_cons]
    tauto
  exact ⟨fun e he => h.entries e ((hmem e).mp he),
    fun i f hi => (h.futures i f hi).mono (hmem _).mpr⟩

theorem sleepUntil_invariant {s : Clock} (h : s.Invariant) (deadline : Time) :
    Invariant { s with futures := s.futures ++ [.new deadline] } := by
  refine ⟨fun e he => ?_, fun i f hi => ?_⟩
  · obtain ⟨f, hf, hd⟩ := h.entries e he
    exact ⟨f, (List.getElem?_append_left (List.getElem?_eq_some_iff.mp hf).1).trans hf, hd⟩
  · rw [List.getElem?_append] at hi
    split at hi
    · exact h.futures i f hi
    · obtain rfl := List.mem_singleton.mp (List.mem_of_getElem? hi)
      exact ⟨by simp [SleepFuture.new], by simp [SleepFuture.new], by simp [SleepFuture.new]⟩

theorem pollSend_running {s : Clock} {i w : ℕ} {f : SleepFuture} (h : (s.pollSend i f w).Running) :
    s.Running := by
  unfold pollSend at h
  split at h <;> exact h

theorem closed_of_not_running {s : Clock} (h : s.Running ↔ s.timerClosed = false)
    (hs : ¬ s.Running) : s.timerClosed = true :=
  Bool.eq_true_of_not_eq_false (mt h.mpr hs)

theorem close_not_running {s s' : Clock} (hs : s.step .close = some s') : ¬ s'.Running := by
  simp only [step] at hs
  split at hs
  · cases hs
    simp [Running]
  · cases hs

theorem drainTimer_not_running {s s' : Clock} {k : ℕ} (hs : s.step (.drainTimer k) = some s') :
    ¬ s'.Running := by
  simp only [step] at hs
  split at hs
  · rename_i hpc _
    cases hs
    simp [Running, hpc]
  · cases hs

theorem drainChannel_not_running {s s' : Clock} (hs : s.step .drainChannel = some s') :
    ¬ s'.Running := by
  simp only [step] at hs
  split at hs
  · rename_i hpc _ _
    cases hs
    simp [Running, hpc]
  · cases hs
    simp [Running]
  · cases hs

theorem step_invariant {s s' : Clock} {label : Label} (h : s.Running → s.Invariant)
    (hok : s.Running → s.Steady label) (hs : s.step label = some s') (hrun : s'.Running) :
    s'.Invariant := by
  -- the invariant is that of the task's loop, and there is no way back into the loop
  cases label with
  | sleepUntil deadline =>
    cases hs
    exact sleepUntil_invariant (h hrun) deadline
  | pollTime i waker =>
    obtain ⟨f, hi, hs⟩ := stepFuture_some hs
    split at hs
    · rename_i hpc
      cases hs
      have hsteady := hok hrun f hi
      have h := h hrun
      exact h.setFuture (g := s.pollTime waker f) hi rfl (fun _ he => he) (fun _ he => .inl he)
        (pollTime_future (h.futures i f hi) hpc hsteady)
    · cases hs
  | pollRegister i =>
    obtain ⟨f, hi, hs⟩ := stepFuture_some hs
    split at hs
    · rename_i waker hpc
      cases hs
      have h := h hrun
      refine h.setFuture hi ?_ (fun _ he => he) (fun _ he => .inl he)
        (pollRegister_future (h.futures i f hi) hpc)
      unfold pollRegister
      split <;> rfl
    · cases hs
  | pollSend i =>
    obtain ⟨f, hi, hs⟩ := stepFuture_some hs
    split at hs
    · rename_i waker hpc
      cases hs
      have h := h (pollSend_running hrun)
      unfold pollSend
      split
      · exact h.setFuture (g := { f with pc := .ready }) hi rfl (fun _ he => he)
          (fun _ he => .inl he) (.done (.inl rfl))
      · refine h.setFuture (g := { f with waker := some (some waker), pc := .idle }) hi rfl
          (fun _ he => List.mem_append_left _ he)
          (fun e he => (List.mem_append.mp he).imp_right List.mem_singleton.mp)
          ⟨fun _ r hr => ?_, by simp, by simp⟩
        cases hr
        have hw := (h.futures i f hi).send waker hpc
        exact .inl ⟨congrArg some hw.symm, .inl (List.mem_append_right _ (List.mem_singleton_self _))⟩
    · cases hs
  | dropFuture i =>
    obtain ⟨f, hi, hs⟩ := stepFuture_some hs
    split at hs
    · cases hs
      have h := h hrun
      exact h.setFuture (g := { f with pc := .dropped }) hi rfl (fun _ he => he)
        (fun _ he => .inl he) (.done (.inr rfl))
    · cases hs
  | publish msg =>
    cases hs
    exact ⟨(h hrun).entries, (h hrun).futures⟩
  | recvTimer =>
    simp only [step] at hs
    split at hs
    · rename_i hpc hrx
      cases hs
      exact recvTimer_invariant (h (.inl hpc)) hrx
    · cases hs
  | recvClock =>
    simp only [step] at hs
    split at hs
    · rename_i hpc
      exact recvClock_invariant (h (.inl hpc)) (hok (.inl hpc)) hs
    · cases hs
  | cancel =>
    cases hs
    exact ⟨(h hrun).entries, (h hrun).futures⟩
  | cancelled =>
    simp only [step] at hs
    split at hs
    · rename_i hpc
      split at hs
      · cases hs
        exact ⟨(h (.inl hpc)).entries, (h (.inl hpc)).futures⟩
      · cases hs
    · cases hs
  | close => exact absurd hrun (close_not_running hs)
  | drainTimer k => exact absurd hrun (drainTimer_not_running hs)
  | drainChannel => exact absurd hrun (drainChannel_not_running hs)

/-- The most recent poll returned `Pending`. -/
def Pending (f : SleepFuture) : Prop := f.pc = .idle ∧ f.waker.isSome

/-- The future has returned `Pending` and is being polled again. -/
def PolledAgain (f : SleepFuture) : Prop := (∃ w, f.pc = .register w) ∧ f.waker.isSome

theorem FutureInvariant.inFlight {p : Prop} {f : SleepFuture} (h : FutureInvariant p f)
    (hwaits : Pending f ∨ PolledAgain f) (hwoken : f.woken = false) : p := by
  have hnot : ¬ (f.fired ∧ f.woken) := by simp [hwoken]
  rcases hwaits with ⟨hpc, hwaker⟩ | ⟨⟨w, hpc⟩, hwaker⟩
  · obtain ⟨r, hr⟩ := Option.isSome_iff_exists.mp hwaker
    exact ((h.idle hpc r hr).resolve_right hnot).2
  · obtain ⟨r, hr⟩ := Option.isSome_iff_exists.mp hwaker
    exact ((h.register w hpc).2 r hr).resolve_right hnot

theorem FutureInvariant.waker_polledBy {p : Prop} {f : SleepFuture} (h : FutureInvariant p f)
    (hwaits : Pending f ∨ PolledAgain f) (hwoken : f.woken = false)
    (hpoll : ∀ w r, f.pc = .register w → f.waker = some r → r = some w) :
    f.waker = some (some f.polledBy) := by
  have hnot : ¬ (f.fired ∧ f.woken) := by simp [hwoken]
  rcases hwaits with ⟨hpc, hwaker⟩ | ⟨⟨w, hpc⟩, hwaker⟩
  · obtain ⟨r, hr⟩ := Option.isSome_iff_exists.mp hwaker
    rw [hr, ((h.idle hpc r hr).resolve_right hnot).1]
  · obtain ⟨r, hr⟩ := Option.isSome_iff_exists.mp hwaker
    rw [hr, hpoll w r hpc hr, (h.register w hpc).1]

theorem wakes_of_reached {s : Clock} (h : s.Invariant) {i : ℕ} {f : SleepFuture}
    (hi : s.futures[i]? = some f) (hwaits : Pending f ∨ PolledAgain f) (hwoken : f.woken = false)
    {t : Time} (hpoll : s.WakesPoll t) (hpass : s.PassesNone t) (ht : f.deadline ≤ t) :
    ∃ f', (s.onTick t).futures[i]? = some f' ∧ f'.woken := by
  have hlive : Live f := by
    rcases hwaits with ⟨hpc, -⟩ | ⟨⟨w, hpc⟩, -⟩ <;> simp [Live, hpc]
  have hf := h.futures i f hi
  have hheap : ⟨f.deadline, i⟩ ∈ s.timers.entries := by
    rcases hf.inFlight hwaits hwoken with hrx | hheap
    · exact absurd (hpass _ hrx f hi hlive) (Time.not_lt.mpr ht)
    · exact hheap
  have hwaker := hf.waker_polledBy hwaits hwoken fun w r hpc hr => hpoll i f w r hi hpc hr hheap ht
  have hdue : ∃ e ∈ (s.timers.popDue t.nanos).1, e.waker = i :=
    ⟨_, MinQueue.mem_popDue_fst.mpr ⟨hheap, ht⟩, rfl⟩
  refine ⟨f.notify, ?_, ?_⟩
  · simp only [onTick, getElem?_foldl_notify, hi, Option.map_some, if_pos hdue]
  · simp [SleepFuture.notify, hwaker]

theorem timer_kept {latchedMsgs : List (Option Time)} {clockMsgs : Broadcast (Option Time)}
    {clockRx : ℕ} {s : Clock} {labels : List Label}
    (hrun : Run step Steady (fromSubscriber latchedMsgs clockMsgs clockRx) labels s)
    (hpc : s.pc = .select) {i : ℕ} {f : SleepFuture} (hi : s.futures[i]? = some f)
    (hwaits : Pending f ∨ PolledAgain f) (hwoken : f.woken = false) :
    s.InFlight ⟨f.deadline, i⟩ ∧
      ∀ t s₁, s.recv = some (.value (some t), s₁) → s.Steady .recvClock → s.PassesNone t →
        f.deadline ≤ t →
          ∃ s' f', s.step .recvClock = some s' ∧ s'.futures[i]? = some f' ∧ f'.woken := by
  have h := hrun.invariant (I := fun s => s.Running → s.Invariant)
    (fun _ _ _ h hok hs => step_invariant h (fun _ => hok) hs)
    (fun _ => fromSubscriber_invariant latchedMsgs clockMsgs clockRx) (.inl hpc)
  refine ⟨(h.futures i f hi).inFlight hwaits hwoken, fun t s₁ hrecv hok hpass ht => ?_⟩
  have hpoll := hok t s₁ hrecv
  have hstep : s.step .recvClock = some (s₁.onTick t) := by
    simp only [step, hpc, recvClock, hrecv, Option.bind_eq_bind, Option.bind_some]
  obtain ⟨msgs, next, rfl⟩ := recv_frame hrecv
  have h₁ : Invariant { s with latchedMsgs := msgs, clockRx := next } := ⟨h.entries, h.futures⟩
  obtain ⟨f', hf', hw⟩ := wakes_of_reached h₁ hi hwaits hwoken hpoll hpass ht
  exact ⟨_, f', hstep, hf', hw⟩

def simClock : Clock := fromSubscriber [] ⟨1, [], false⟩ 0

theorem WakesPoll.of_idle {s : Clock} (h : ∀ f ∈ s.futures, f.pc = .idle) (t : Time) :
    s.WakesPoll t := by
  intro i f w r hi hpc
  rw [h f (List.mem_of_getElem? hi)] at hpc
  cases hpc

theorem timer_kept_set_back : ∃ (s s' : Clock) (f f' : SleepFuture), s.time.get = ⟨1, 0⟩ ∧
    s.futures[0]? = some f ∧ Pending f ∧ s.InFlight ⟨f.deadline, 0⟩ ∧
    s.step .recvClock = some s' ∧ s'.futures[0]? = some f' ∧ f'.woken := by
  obtain ⟨s, s₁, hrun, hpc, ht, hf, hidle, hrecv, hempty⟩ : ∃ s s₁, Run step Steady simClock
      [.sleepUntil ⟨5, 0⟩, .pollTime 0 7, .pollRegister 0, .pollSend 0, .recvTimer,
        .publish (some ⟨4, 0⟩), .recvClock, .publish (some ⟨1, 0⟩), .recvClock,
        .publish (some ⟨4, 1000000000⟩)] s ∧
      s.pc = .select ∧ s.time.get = ⟨1, 0⟩ ∧
      s.futures[0]? = some ⟨⟨5, 0⟩, some (some 7), .idle, 7, false, false⟩ ∧
      (∀ f ∈ s.futures, f.pc = .idle) ∧
      s.recv = some (.value (some ⟨4, 1000000000⟩), s₁) ∧ s.timerRx = [] := by
    refine ⟨_, _, .cons trivial rfl <| .cons ?_ rfl <| .cons trivial rfl <| .cons trivial rfl <|
      .cons trivial rfl <| .cons trivial rfl <|
      .cons (fun t _ _ => WakesPoll.of_idle (by decide) t) rfl <| .cons trivial rfl <|
      .cons (fun t _ _ => WakesPoll.of_idle (by decide) t) rfl <| .cons trivial rfl <| .nil _,
      rfl, by decide, rfl, by decide, rfl, rfl⟩
    rintro f hf hfired
    cases hf
    cases hfired
  have hpending : Pending ⟨⟨5, 0⟩, some (some 7), .idle, 7, false, false⟩ := ⟨rfl, rfl⟩
  obtain ⟨hflight, hwakes⟩ := timer_kept hrun hpc hf (.inl hpending) rfl
  obtain ⟨s', f', hstep, hf', hwoken⟩ := hwakes ⟨4, 1000000000⟩ s₁ hrecv
    (fun t _ _ => WakesPoll.of_idle hidle t) (fun e he => by rw [hempty] at he; cases he) (by decide)
  exact ⟨s, s', _, f', ht, hf, hpending, hflight, hstep, hf', hwoken⟩

/-- The clock is set back between the notification and the next poll. -/
theorem timer_lost : ∃ (s : Clock) (labels : List Label) (f : SleepFuture),
    Run step (fun _ _ => True) simClock labels s ∧ s.pc = .select ∧ s.futures[0]? = some f ∧
      Pending f ∧ f.woken = false ∧ ¬ s.InFlight ⟨f.deadline, 0⟩ := by
  refine ⟨_, [.sleepUntil ⟨5, 0⟩, .pollTime 0 7, .pollRegister 0, .pollSend 0, .recvTimer,
    .publish (some ⟨5, 0⟩), .recvClock, .publish (some ⟨1, 0⟩), .recvClock, .pollTime 0 7,
    .pollRegister 0], _, run_of_exec rfl (fun _ _ _ => trivial), rfl, rfl, ⟨rfl, rfl⟩, rfl, ?_⟩
  rintro (h | h) <;> cases h

end RosrustAsync.Clock
