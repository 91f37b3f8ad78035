import RosrustAsync.ClockTask

namespace RosrustAsync.Clock

def InFlight (s : Clock) (e : TimerEntry) : Prop := e ∈ s.timerRx ∨ e ∈ s.timers.entries

structure FutureInvariant (inFlight : Prop) (f : SleepFuture) : Prop where
  idle : f.pc = .idle → ∀ r, f.waker = some r →
    r = some f.polledBy ∧ inFlight ∨ f.fired ∧ f.woken
  register : ∀ w, f.pc = .register w → f.polledBy = w ∧
    ∀ r, f.waker = some r → inFlight ∨ f.fired ∧ f.woken
  send : ∀ w, f.pc = .send w → f.polledBy = w

structure Invariant (s : Clock) : Prop where
  entries : ∀ e, s.InFlight e → ∃ f, s.futures[e.waker]? = some f ∧ f.deadline = e.deadline
  futures : ∀ (i : ℕ) (f : SleepFuture), s.futures[i]? = some f →
    FutureInvariant (s.InFlight ⟨f.deadline, i⟩) f

/-- A tick that takes the timer of a future being polled again finds that poll's waker. -/
def WakesPoll (s : Clock) (t : Time) : Prop :=
  ∀ (i : ℕ) f w r, s.futures[i]? = some f → f.pc = .register w → f.waker = some r →
    ⟨f.deadline, i⟩ ∈ s.timers.entries → f.deadline ≤ t → r = some w

/-- The clock is not behind the deadline of a future that is polled after its timer fired. -/
def Steady (s : Clock) : Label → Prop
  | .pollTime i _ => ∀ f, s.futures[i]? = some f → f.fired → f.deadline ≤ s.time.get
  | .recvClock => ∀ t s', s.recv = some (.value (some t), s') → s.WakesPoll t
  | _ => True

def Live (f : SleepFuture) : Prop := f.pc ≠ .ready ∧ f.pc ≠ .dropped

/-- A tick passes over no entry in the channel that it reaches and whose future still waits. -/
def PassesNone (s : Clock) (t : Time) : Prop :=
  ∀ e ∈ s.timerRx, ∀ f, s.futures[e.waker]? = some f → Live f → t < e.deadline

theorem recv_cases {s s' : Clock} {received : Received (Option Time)}
    (h : s.recv = some (received, s')) :
    (∃ msg msgs, s.latchedMsgs = msg :: msgs ∧ received = .value msg ∧
      s' = { s with latchedMsgs := msgs }) ∨
    s.latchedMsgs = [] ∧ ∃ next, s.clockMsgs.recv s.clockRx = some (received, next) ∧
      s' = { s with clockRx := next } := by
  unfold recv at h
  split at h
  · rename_i msg msgs hlatched
    cases h
    exact .inl ⟨msg, msgs, hlatched, rfl, rfl⟩
  · rename_i hlatched
    obtain ⟨⟨received, next⟩, hrecv, h⟩ := Option.bind_eq_some_iff.mp h
    cases h
    exact .inr ⟨hlatched, next, hrecv, rfl⟩

theorem recv_frame {s s' : Clock} {received : Received (Option Time)}
    (h : s.recv = some (received, s')) :
    ∃ msgs next, s' = { s with latchedMsgs := msgs, clockRx := next } := by
  obtain ⟨msg, msgs, -, -, rfl⟩ | ⟨-, next, -, rfl⟩ := recv_cases h
  · exact ⟨msgs, s.clockRx, rfl⟩
  · exact ⟨s.latchedMsgs, next, rfl⟩

/-- A clock message is handled by a tick; anything else leaves the timers alone. -/
theorem recvClock_cases {s s' : Clock} (hs : s.recvClock = some s') :
    ∃ received s₁, s.recv = some (received, s₁) ∧
      ((∃ t, received = .value (some t) ∧ s' = s₁.onTick t) ∨
        (∀ msg, received ≠ .value msg) ∧ s' = s₁ ∨
        (∀ t, received ≠ .value (some t)) ∧ s' = { s₁ with pc := .close }) := by
  obtain ⟨⟨received, s₁⟩, hrecv, hs⟩ := Option.bind_eq_some_iff.mp hs
  refine ⟨received, s₁, hrecv, ?_⟩
  cases received with
  | value clock =>
    cases clock with
    | some t =>
      cases hs
      exact .inl ⟨t, rfl, rfl⟩
    | none =>
      cases hs
      exact .inr (.inr ⟨by simp, rfl⟩)
  | lagged missed =>
    cases hs
    exact .inr (.inl ⟨by simp, rfl⟩)
  | closed =>
    cases hs
    exact .inr (.inr ⟨by simp, rfl⟩)

theorem notify_notify (f : SleepFuture) : f.notify.notify = f.notify := by
  cases h : f.waker <;> simp [SleepFuture.notify, h]

theorem getElem?_notify (futures : List SleepFuture) (e : TimerEntry) (i : ℕ) :
    (notify futures e)[i]? = futures[i]?.map fun f => if e.waker = i then f.notify else f :=
  List.getElem?_modify _ _ _ _

theorem getElem?_foldl_notify (due : List TimerEntry) (futures : List SleepFuture) (i : ℕ) :
    (due.foldl notify futures)[i]? =
      futures[i]?.map fun f => if ∃ e ∈ due, e.waker = i then f.notify else f := by
  induction due generalizing futures with
  | nil => simp
  | cons e due ih =>
    rw [List.foldl_cons, ih, getElem?_notify, Option.map_map]
    congr
    funext f
    by_cases he : e.waker = i
    · by_cases hd : ∃ e ∈ due, e.waker = i
      · simp [he, hd, notify_notify]
      · simp [he, hd]
    · simp [he]

theorem FutureInvariant.mono {p q : Prop} {f : SleepFuture} (h : FutureInvariant p f) (hpq : p → q) :
    FutureInvariant q f :=
  ⟨fun hpc r hr => (h.idle hpc r hr).imp_left fun ⟨hw, hp⟩ => ⟨hw, hpq hp⟩,
    fun w hpc => ⟨(h.register w hpc).1, fun r hr => ((h.register w hpc).2 r hr).imp_left hpq⟩,
    h.send⟩

theorem FutureInvariant.done {p : Prop} {f : SleepFuture} (h : f.pc = .ready ∨ f.pc = .dropped) :
    FutureInvariant p f := by
  refine ⟨fun hpc => ?_, fun w hpc => ?_, fun w hpc => ?_⟩
  all_goals rcases h with h | h <;> rw [h] at hpc <;> cases hpc

theorem FutureInvariant.notify {p : Prop} {f : SleepFuture} (h : FutureInvariant p f) (q : Prop)
    (hw : ∀ w r, f.pc = .register w → f.waker = some r → r = some w) : FutureInvariant q f.notify := by
  have hwoken : ∀ r, f.waker = some r → r = some f.polledBy ∨ f.woken → f.notify.woken := by
    rintro r hr (rfl | hwoken)
    · simp [SleepFuture.notify, hr]
    · simp [SleepFuture.notify, hwoken]
  refine ⟨fun hpc r hr => ?_, fun w hpc => ⟨(h.register w hpc).1, fun r hr => ?_⟩, h.send⟩
  · obtain ⟨r₀, hr₀, -⟩ := Option.map_eq_some_iff.mp hr
    refine .inr ⟨rfl, hwoken r₀ hr₀ ?_⟩
    exact (h.idle hpc r₀ hr₀).imp And.left And.right
  · obtain ⟨r₀, hr₀, -⟩ := Option.map_eq_some_iff.mp hr
    exact .inr ⟨rfl, hwoken r₀ hr₀ (.inl ((h.register w hpc).1 ▸ hw w r₀ hpc hr₀))⟩

theorem Invariant.setFuture {s : Clock} (h : s.Invariant) {i : ℕ} {f g : SleepFuture}
    (hi : s.futures[i]? = some f) (hg : g.deadline = f.deadline) {rx : List TimerEntry}
    (hold : ∀ e ∈ s.timerRx, e ∈ rx) (hnew : ∀ e ∈ rx, e ∈ s.timerRx ∨ e = ⟨f.deadline, i⟩)
    (hfuture : FutureInvariant (⟨f.deadline, i⟩ ∈ rx ∨ ⟨f.deadline, i⟩ ∈ s.timers.entries) g) :
    Invariant { s with timerRx := rx, futures := s.futures.set i g } := by
  have hlt := (List.getElem?_eq_some_iff.mp hi).1
  refine ⟨fun e he => ?_, fun j f' hj => ?_⟩
  · have he' : s.InFlight e ∨ e = ⟨f.deadline, i⟩ := by
      rcases he with he | he
      · exact (hnew e he).imp_left .inl
      · exact .inl (.inr he)
    by_cases hei : e.waker = i
    · refine ⟨g, by rw [hei]; exact List.getElem?_set_self hlt, hg.trans ?_⟩
      rcases he' with he' | rfl
      · obtain ⟨f', hf', hd⟩ := h.entries e he'
        rw [hei, hi] at hf'
        cases hf'
        exact hd
      · rfl
    · obtain ⟨f', hf', hd⟩ := h.entries e (he'.resolve_right fun he => hei (he ▸ rfl))
      exact ⟨f', (List.getElem?_set_ne (Ne.symm hei)).trans hf', hd⟩
  · by_cases hji : j = i
    · subst hji
      obtain rfl : g = f' := Option.some.inj ((List.getElem?_set_self hlt).symm.trans hj)
      exact hg ▸ hfuture
    · rw [List.getElem?_set_ne (Ne.symm hji)] at hj
      exact (h.futures j f' hj).mono fun he => he.imp_left (hold _)

theorem Invariant.due {s : Clock} (h : s.Invariant) {t : Time} {i : ℕ} {f : SleepFuture}
    (hi : s.futures[i]? = some f) (hdue : ∃ e ∈ (s.timers.popDue t.nanos).1, e.waker = i) :
    ⟨f.deadline, i⟩ ∈ s.timers.entries ∧ f.deadline ≤ t := by
  obtain ⟨⟨deadline, _⟩, he, rfl⟩ := hdue
  obtain ⟨he, ht⟩ := MinQueue.mem_popDue_fst.mp he
  obtain ⟨f', hf', hd⟩ := h.entries _ (.inr he)
  rw [hi] at hf'
  cases hf'
  exact hd ▸ ⟨he, ht⟩

theorem Invariant.onTick {s : Clock} (h : s.Invariant) {t : Time} (hw : s.WakesPoll t) :
    (s.onTick t).Invariant := by
  refine ⟨fun e he => ?_, fun i f' hi => ?_⟩
  · obtain ⟨f, hf, hd⟩ := h.entries e (he.imp_right fun he => (MinQueue.mem_popDue_snd.mp he).1)
    refine ⟨_, (getElem?_foldl_notify _ _ _).trans (by rw [hf]; rfl), ?_⟩
    split <;> exact hd
  · simp only [Clock.onTick, getElem?_foldl_notify, Option.map_eq_some_iff] at hi
    obtain ⟨f, hi, rfl⟩ := hi
    have hf := h.futures i f hi
    split
    · rename_i hdue
      obtain ⟨hheap, ht⟩ := h.due hi hdue
      exact hf.notify _ fun w r hpc hr => hw i f w r hi hpc hr hheap ht
    · rename_i hdue
      -- no entry of this future was popped, so whatever it had in the heap is still there
      refine hf.mono fun he => he.imp_right fun he => MinQueue.mem_popDue_snd.mpr ⟨he, ?_⟩
      refine Int.not_le.mp fun hle => hdue ⟨_, MinQueue.mem_popDue_fst.mpr ⟨he, hle⟩, rfl⟩

end RosrustAsync.Clock
