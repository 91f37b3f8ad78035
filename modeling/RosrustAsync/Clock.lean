import Mathlib.Tactic.Positivity
import RosrustAsync.Lib.Broadcast
import RosrustAsync.Lib.MinQueue

namespace RosrustAsync

/-! Simulated time, compared by its nanoseconds, and the 64 bits it is kept in. -/

structure Time where
  sec : UInt32
  nsec : UInt32
  deriving DecidableEq

namespace Time

def nanos (t : Time) : ℤ := 10 ^ 9 * t.sec.toNat + t.nsec.toNat

instance : Ord Time := ⟨fun self other => compare self.nanos other.nanos⟩

/-- Two times that are equal in this order need not have the same seconds. -/
instance : Preorder Time where
  le self other := self.nanos ≤ other.nanos
  lt self other := self.nanos < other.nanos
  le_refl t := Int.le_refl t.nanos
  le_trans _ _ _ := Int.le_trans
  lt_iff_le_not_ge _ _ := Int.lt_iff_le_and_not_ge

instance : DecidableLE Time := fun s t => inferInstanceAs (Decidable (s.nanos ≤ t.nanos))

instance : DecidableLT Time := fun s t => inferInstanceAs (Decidable (s.nanos < t.nanos))

theorem not_le {s t : Time} : ¬ s ≤ t ↔ t < s := Int.not_le

theorem not_lt {s t : Time} : ¬ s < t ↔ t ≤ s := Int.not_lt

theorem isLE_compare {s t : Time} : (compare s t).isLE ↔ s ≤ t := by
  change (compare s.nanos t.nanos).isLE ↔ s.nanos ≤ t.nanos
  rw [Ordering.isLE_iff_ne_gt, compare_gt_iff_gt, Int.not_lt]

theorem nanos_nonneg (t : Time) : 0 ≤ t.nanos := by
  unfold nanos
  positivity

theorem zero_le (t : Time) : (⟨0, 0⟩ : Time) ≤ t := t.nanos_nonneg

end Time

structure EncodedTime where
  time : UInt64

namespace EncodedTime

def encodeTime (time : Time) : UInt64 := (time.sec.toUInt64 <<< 32) ||| time.nsec.toUInt64

def decodeTime (encodedTime : UInt64) : Time := ⟨(encodedTime >>> 32).toUInt32, encodedTime.toUInt32⟩

def new (time : Time) : EncodedTime := ⟨encodeTime time⟩

def get (self : EncodedTime) : Time := decodeTime self.time

def set (_ : EncodedTime) (now : Time) : EncodedTime := ⟨encodeTime now⟩

theorem encodeTime_toNat (t : Time) :
    (encodeTime t).toNat = t.sec.toNat * 2 ^ 32 + t.nsec.toNat := by
  have hsec := t.sec.toNat_lt
  have hnsec := t.nsec.toNat_lt
  have h32 : (32 : UInt64).toNat % 64 = 32 := rfl
  simp only [encodeTime, UInt64.toNat_or, UInt64.toNat_shiftLeft, UInt32.toNat_toUInt64, h32]
  rw [Nat.mod_eq_of_lt (by rw [Nat.shiftLeft_eq]; omega), ← Nat.shiftLeft_add_eq_or_of_lt hnsec,
    Nat.shiftLeft_eq]

theorem decodeTime_encodeTime (t : Time) : decodeTime (encodeTime t) = t := by
  have hsec := t.sec.toNat_lt
  have hnsec := t.nsec.toNat_lt
  have h32 : (32 : UInt64).toNat % 64 = 32 := rfl
  have henc := encodeTime_toNat t
  obtain ⟨sec, nsec⟩ := t
  rw [decodeTime, Time.mk.injEq]
  constructor <;> apply UInt32.toNat_inj.mp
  · rw [UInt64.toNat_toUInt32, UInt64.toNat_shiftRight, h32, Nat.shiftRight_eq_div_pow, henc]
    simp only at hsec hnsec ⊢
    omega
  · rw [UInt64.toNat_toUInt32, henc]
    simp only at hsec hnsec ⊢
    omega

@[simp] theorem get_set (self : EncodedTime) (t : Time) : (self.set t).get = t :=
  decodeTime_encodeTime t

@[simp] theorem get_new (t : Time) : (new t).get = t := decodeTime_encodeTime t

end EncodedTime

/-! Sleepers, and the clock that wakes them. -/

structure TimerEntry where
  deadline : Time
  -- the future whose `WakeSink` the entry notifies
  waker : ℕ
  deriving DecidableEq

def TimerEntry.nanos (entry : TimerEntry) : ℤ := entry.deadline.nanos

abbrev TimerQueue := MinQueue TimerEntry.nanos

inductive PollPc : Type
  | idle
  | register (waker : ℕ)
  | send (waker : ℕ)
  | ready
  | dropped
  deriving DecidableEq

structure SleepFuture where
  deadline : Time
  -- its `WakeSink`, once made, with the waker registered there
  waker : Option (Option ℕ)
  pc : PollPc
  -- the waker of the last poll, whether it was woken since, and whether the timer fired
  polledBy : ℕ
  woken : Bool
  fired : Bool
  deriving DecidableEq

namespace SleepFuture

def new (deadline : Time) : SleepFuture := ⟨deadline, none, .idle, 0, false, false⟩

/-- `WakeSource::notify`: the registered waker is taken out and woken. -/
def notify (self : SleepFuture) : SleepFuture :=
  { self with
    waker := self.waker.map fun _ => none
    woken := self.woken || (self.waker.join == some self.polledBy)
    fired := true }

end SleepFuture

inductive ClockPc : Type
  | select
  | close
  | drain
  | finished
  deriving DecidableEq

structure Clock where
  time : EncodedTime
  timers : TimerQueue
  timerRx : List TimerEntry
  timerClosed : Bool
  -- what the subscriber has to return, first what was latched for it; a message that does not
  -- decode is `none`
  latchedMsgs : List (Option Time)
  clockMsgs : Broadcast (Option Time)
  clockRx : ℕ
  cancelled : Bool
  pc : ClockPc
  futures : List SleepFuture

namespace Clock

def notify (futures : List SleepFuture) (entry : TimerEntry) : List SleepFuture :=
  futures.modify entry.waker SleepFuture.notify

/-- `recv` of the clock's subscriber. -/
def recv (self : Clock) : Option (Received (Option Time) × Clock) :=
  match self.latchedMsgs with
  | msg :: msgs => some (.value msg, { self with latchedMsgs := msgs })
  | [] => do
    let (received, next) ← self.clockMsgs.recv self.clockRx
    some (received, { self with clockRx := next })

def onTick (self : Clock) (currentTs : Time) : Clock :=
  let (due, timers) := self.timers.popDue currentTs.nanos
  { self with
    time := self.time.set currentTs
    timers := timers
    futures := due.foldl notify self.futures }

end Clock

end RosrustAsync
