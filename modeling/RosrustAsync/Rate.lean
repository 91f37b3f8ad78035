import Mathlib.Tactic.Ring
import RosrustAsync.ClockInvariant

namespace RosrustAsync

open Runs

/-! Times and durations in nanoseconds, as their library adds them. -/

structure Duration where
  sec : Int32
  nsec : Int32

def Duration.nanos (d : Duration) : ℤ := d.sec.toInt * 10 ^ 9 + d.nsec.toInt

/-- The quotient and the remainder as they are cast to `u32`. -/
def Time.fromNanos (t : ℤ) : Time := ⟨.ofInt (t.tdiv (10 ^ 9)), .ofInt (t.tmod (10 ^ 9))⟩

/-- A time and a duration are added as `i64` nanoseconds. -/
def AddsNanos (add : Time → Duration → Time) : Prop := ∀ t d, -2 ^ 63 ≤ t.nanos + d.nanos →
  t.nanos + d.nanos < 2 ^ 63 → add t d = .fromNanos (t.nanos + d.nanos)

theorem Time.nanos_fromNanos {t : ℤ} (h : 0 ≤ t) (hlt : t < 2 ^ 32 * 10 ^ 9) :
    (fromNanos t).nanos = t := by
  have hcast {n : ℤ} (hn : 0 ≤ n) (hn' : n < 2 ^ 32) : ((UInt32.ofInt n).toNat : ℤ) = n := by
    rw [UInt32.ofInt, Int.emod_eq_of_lt hn hn', UInt32.toNat_ofNat_of_lt']
    · exact Int.toNat_of_nonneg hn
    · have hsize : UInt32.size = 2 ^ 32 := rfl
      omega
  rw [fromNanos, nanos, Int.tdiv_eq_ediv_of_nonneg h, Int.tmod_eq_emod_of_nonneg h,
    hcast (by omega) (by omega), hcast (by omega) (by omega)]
  omega

structure Rate where
  interval : Duration
  next : EncodedTime

namespace Rate

def new (clock : Clock) (interval : Duration) : Rate := ⟨interval, .new clock.time.get⟩

/-- The deadline that `sleep` waits for, and the rate it leaves. -/
def sleep (add : Time → Duration → Time) (self : Rate) : Time × Rate :=
  let deadline := add self.next.get self.interval
  (deadline, { self with next := self.next.set deadline })

end Rate

/-- A rate beside its clock, with the futures that its calls of `sleep` wait for, in their order. -/
structure RateClock where
  clock : Clock
  rate : Rate
  sleeps : List ℕ

namespace RateClock

inductive Label : Type
  | clock (label : Clock.Label)
  | sleep

def Label.isSleep : Label → Bool
  | .sleep => true
  | .clock _ => false

def new (clock : Clock) (interval : Duration) : RateClock := ⟨clock, .new clock interval, []⟩

def step (add : Time → Duration → Time) (self : RateClock) : Label → Option RateClock
  | .clock label => do some { self with clock := ← self.clock.step label }
  | .sleep => do
    let (deadline, rate) := self.rate.sleep add
    let clock ← self.clock.step (.sleepUntil deadline)
    some ⟨clock, rate, self.sleeps ++ [self.clock.futures.length]⟩

end RateClock

def KeepDeadlines (futures futures' : List SleepFuture) : Prop :=
  ∀ (i : ℕ) f, futures[i]? = some f → ∃ f', futures'[i]? = some f' ∧ f'.deadline = f.deadline

namespace KeepDeadlines

theorem refl (futures : List SleepFuture) : KeepDeadlines futures futures :=
  fun _ f hi => ⟨f, hi, rfl⟩

theorem append (futures rest : List SleepFuture) : KeepDeadlines futures (futures ++ rest) := by
  intro i f hi
  rw [List.getElem?_append_left (List.getElem?_eq_some_iff.mp hi).1]
  exact ⟨f, hi, rfl⟩

theorem set {futures : List SleepFuture} {i : ℕ} {f g : SleepFuture} (hi : futures[i]? = some f)
    (hg : g.deadline = f.deadline) : KeepDeadlines futures (futures.set i g) := by
  intro j f' hj
  by_cases hij : i = j
  · subst hij
    rw [hi] at hj
    cases hj
    exact ⟨g, List.getElem?_set_self (List.getElem?_eq_some_iff.mp hi).1, hg⟩
  · exact ⟨f', (List.getElem?_set_ne hij).trans hj, rfl⟩

theorem notify (due : List TimerEntry) (futures : List SleepFuture) :
    KeepDeadlines futures (due.foldl Clock.notify futures) := by
  intro i f hi
  refine ⟨_, (Clock.getElem?_foldl_notify due futures i).trans (by rw [hi]; rfl), ?_⟩
  split <;> rfl

end KeepDeadlines

namespace Clock

theorem stepFuture_keeps {s s' : Clock} {i : ℕ} {g : SleepFuture → Option Clock}
    (hs : s.stepFuture i g = some s')
    (hg : ∀ f, s.futures[i]? = some f → g f = some s' → KeepDeadlines s.futures s'.futures) :
    KeepDeadlines s.futures s'.futures := by
  obtain ⟨f, hi, hf⟩ := Option.bind_eq_some_iff.mp hs
  exact hg f hi hf

theorem step_keeps {s s' : Clock} {label : Label} (hs : s.step label = some s') :
    KeepDeadlines s.futures s'.futures := by
  cases label with
  | sleepUntil deadline =>
    cases hs
    exact .append _ _
  | pollTime i waker =>
    refine stepFuture_keeps hs fun f hi hf => ?_
    split at hf <;> cases hf
    exact .set hi rfl
  | pollRegister i =>
    refine stepFuture_keeps hs fun f hi hf => ?_
    split at hf <;> cases hf
    refine .set hi ?_
    unfold Clock.pollRegister
    split <;> rfl
  | pollSend i =>
    refine stepFuture_keeps hs fun f hi hf => ?_
    split at hf <;> cases hf
    unfold Clock.pollSend
    split <;> exact .set hi rfl
  | dropFuture i =>
    refine stepFuture_keeps hs fun f hi hf => ?_
    split at hf <;> cases hf
    exact .set hi rfl
  | recvClock =>
    simp only [step] at hs
    split at hs
    · obtain ⟨received, s₁, hrecv, hs⟩ := recvClock_cases hs
      obtain ⟨msgs, next, rfl⟩ := recv_frame hrecv
      obtain ⟨t, -, rfl⟩ | ⟨-, rfl⟩ | ⟨-, rfl⟩ := hs
      · exact .notify _ _
      · exact .refl _
      · exact .refl _
    · cases hs
  | drainTimer k =>
    simp only [step] at hs
    split at hs <;> cases hs
    exact .notify [_] _
  | drainChannel =>
    simp only [step] at hs
    split at hs <;> cases hs
    · exact .notify [_] _
    · exact .refl _
  | publish msg => cases hs; exact .refl _
  | cancel => cases hs; exact .refl _
  | recvTimer | cancelled | close =>
    simp only [step] at hs
    repeat' split at hs
    all_goals cases hs
    all_goals exact .refl _

end Clock

namespace RateClock

variable {add : Time → Duration → Time} {start : ℤ} {interval : Duration}

theorem nanos_add (hadd : AddsNanos add) {t : Time} {d : Duration} (h : 0 ≤ t.nanos + d.nanos)
    (hlt : t.nanos + d.nanos < 2 ^ 32 * 10 ^ 9) : (add t d).nanos = t.nanos + d.nanos := by
  rw [hadd t d (by omega) (by omega), Time.nanos_fromNanos h hlt]

/-- The deadlines of the calls so far, while they can be told in 32 bits of seconds. -/
structure OnTime (start : ℤ) (interval : Duration) (s : RateClock) : Prop where
  interval_eq : s.rate.interval = interval
  next : start + s.sleeps.length * interval.nanos < 2 ^ 32 * 10 ^ 9 →
    s.rate.next.get.nanos = start + s.sleeps.length * interval.nanos
  deadlines : start + s.sleeps.length * interval.nanos < 2 ^ 32 * 10 ^ 9 → ∀ k i : ℕ,
    s.sleeps[k]? = some i → ∃ f, s.clock.futures[i]? = some f ∧
      f.deadline.nanos = start + (k + 1) * interval.nanos

theorem OnTime.sleep (hadd : AddsNanos add) (hinterval : 0 ≤ interval.nanos) (hstart : 0 ≤ start)
    {s s' : RateClock} (h : OnTime start interval s) (hs : s.step add .sleep = some s') :
    OnTime start interval s' := by
  cases hs
  have hsucc : ((s.sleeps.length + 1 : ℕ) : ℤ) * interval.nanos =
      s.sleeps.length * interval.nanos + interval.nanos := by
    push_cast
    ring
  have hbefore : 0 ≤ s.sleeps.length * interval.nanos := by positivity
  have hlength (i : ℕ) : (s.sleeps ++ [i]).length = s.sleeps.length + 1 := by simp
  -- the call is in time for its deadline, so the ones before it were
  have hdeadline (hlt : start + (s.sleeps.length + 1 : ℕ) * interval.nanos < 2 ^ 32 * 10 ^ 9) :
      (add s.rate.next.get s.rate.interval).nanos =
        start + (s.sleeps.length + 1 : ℕ) * interval.nanos := by
    rw [hsucc] at hlt ⊢
    have hnext := h.next (by omega)
    rw [h.interval_eq, nanos_add hadd (by omega) (by omega), hnext]
    omega
  refine ⟨h.interval_eq, fun hlt => ?_, fun hlt k i hk => ?_⟩
  · simp only [hlength] at hlt ⊢
    simp only [EncodedTime.get_set]
    exact hdeadline hlt
  · simp only [hlength] at hlt
    by_cases hlast : k < s.sleeps.length
    · rw [List.getElem?_append_left hlast] at hk
      obtain ⟨f, hf, hnanos⟩ := h.deadlines (by rw [hsucc] at hlt; omega) k i hk
      obtain ⟨f', hf', hsame⟩ := KeepDeadlines.append s.clock.futures [.new _] i f hf
      exact ⟨f', hf', hsame ▸ hnanos⟩
    · have hk' := (List.getElem?_eq_some_iff.mp hk).1
      rw [hlength] at hk'
      obtain rfl : k = s.sleeps.length := by omega
      rw [List.getElem?_append_right (le_refl _), Nat.sub_self] at hk
      cases hk
      refine ⟨_, List.getElem?_concat_length, ?_⟩
      have hnanos := hdeadline hlt
      push_cast at hnanos
      exact hnanos

theorem OnTime.clock {s s' : RateClock} {label : Clock.Label} (h : OnTime start interval s)
    (hs : s.step add (.clock label) = some s') : OnTime start interval s' := by
  obtain ⟨clock, hclock, hs⟩ := Option.bind_eq_some_iff.mp hs
  cases hs
  refine ⟨h.interval_eq, h.next, fun hlt k i hk => ?_⟩
  obtain ⟨f, hf, hnanos⟩ := h.deadlines hlt k i hk
  obtain ⟨f', hf', hsame⟩ := Clock.step_keeps hclock i f hf
  exact ⟨f', hf', hsame ▸ hnanos⟩

theorem length_sleeps {s s' : RateClock} {labels : List Label}
    (hrun : Run (step add) (fun _ _ => True) s labels s') :
    s'.sleeps.length = s.sleeps.length + labels.countP Label.isSleep := by
  induction hrun with
  | nil => rfl
  | @cons s t u label labels _ hs _ ih =>
    cases label with
    | clock label =>
      obtain ⟨clock, -, hs⟩ := Option.bind_eq_some_iff.mp hs
      cases hs
      rw [ih, List.countP_cons_of_neg (by simp [Label.isSleep])]
    | sleep =>
      cases hs
      rw [ih, List.countP_cons_of_pos rfl, List.length_append, List.length_singleton]
      omega

/-- In every run of a rate and its clock: the `k`-th call waits for the start and `k` intervals, to
the nanosecond; the 64 bits keep every time. -/
theorem rate_exact (hadd : AddsNanos add) (clock : Clock) (interval : Duration)
    {labels : List Label} {s : RateClock}
    (hrun : Run (step add) (fun _ _ => True) (new clock interval) labels s)
    (hinterval : 0 ≤ interval.nanos)
    (hlt : clock.time.get.nanos + labels.countP Label.isSleep * interval.nanos <
      2 ^ 32 * 10 ^ 9) :
    s.sleeps.length = labels.countP Label.isSleep ∧
    (∀ k i : ℕ, s.sleeps[k]? = some i → ∃ f, s.clock.futures[i]? = some f ∧
      f.deadline.nanos = clock.time.get.nanos + (k + 1) * interval.nanos) ∧
    ∀ (encoded : EncodedTime) (t : Time), (EncodedTime.new t).get = t ∧
      (encoded.set t).get = t := by
  have hnew : OnTime clock.time.get.nanos interval (new clock interval) := by
    refine ⟨rfl, fun _ => ?_, nofun⟩
    simp [new, Rate.new]
  have hontime : OnTime clock.time.get.nanos interval s := by
    refine hrun.invariant (fun s label t h _ hs => ?_) hnew
    cases label with
    | clock label => exact h.clock hs
    | sleep => exact h.sleep hadd hinterval (Time.nanos_nonneg _) hs
  have hlength : s.sleeps.length = labels.countP Label.isSleep :=
    (length_sleeps hrun).trans (Nat.zero_add _)
  rw [← hlength] at hlt
  exact ⟨hlength, hontime.deadlines hlt,
    fun encoded t => ⟨EncodedTime.get_new t, EncodedTime.get_set encoded t⟩⟩

/-- The sum in `i64`, which wraps. -/
def addNanos (t : Time) (d : Duration) : Time := .fromNanos ((t.nanos + d.nanos).bmod (2 ^ 64))

theorem addNanos_addsNanos : AddsNanos addNanos := by
  intro t d hle hlt
  have hbmod : (t.nanos + d.nanos).bmod (2 ^ 64) = t.nanos + d.nanos :=
    Int.bmod_eq_of_le (by omega) (by omega)
  rw [addNanos, hbmod]

def lateClock : Clock :=
  { Clock.fromSubscriber [] ⟨4, [], false⟩ 0 with time := .new ⟨4294967294, 999999999⟩ }

theorem rate_exact_carry : ∃ (s : RateClock) (f g : SleepFuture), Run (step addNanos)
    (fun _ _ => True) (new lateClock ⟨0, 500000000⟩)
      [.sleep, .clock (.publish (some ⟨7, 0⟩)), .clock .recvClock, .sleep] s ∧
    s.clock.futures = [f, g] ∧ f.deadline.nanos = 4294967295499999999 ∧
      g.deadline.nanos = 4294967295999999999 := by
  obtain ⟨s, hrun, hsleeps, f, g, hfutures⟩ : ∃ s, Run (step addNanos)
      (fun _ _ => True) (new lateClock ⟨0, 500000000⟩)
        [.sleep, .clock (.publish (some ⟨7, 0⟩)), .clock .recvClock, .sleep] s ∧
      s.sleeps = [0, 1] ∧ ∃ f g, s.clock.futures = [f, g] :=
    ⟨_, run_of_exec rfl fun _ _ _ => trivial, rfl, _, _, rfl⟩
  have hstart : lateClock.time.get = ⟨4294967294, 999999999⟩ := EncodedTime.get_new _
  obtain ⟨-, hdeadlines, -⟩ := rate_exact addNanos_addsNanos lateClock ⟨0, 500000000⟩ hrun
    (by decide) (by rw [hstart]; decide)
  rw [hstart] at hdeadlines
  refine ⟨s, f, g, hrun, hfutures, ?_, ?_⟩
  · obtain ⟨f', hf', hnanos⟩ := hdeadlines 0 0 (by rw [hsleeps]; rfl)
    rw [hfutures] at hf'
    cases hf'
    exact hnanos.trans (by decide)
  · obtain ⟨g', hg', hnanos⟩ := hdeadlines 1 1 (by rw [hsleeps]; rfl)
    rw [hfutures] at hg'
    cases hg'
    exact hnanos.trans (by decide)

end RateClock

end RosrustAsync
