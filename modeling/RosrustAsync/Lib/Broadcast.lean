import Mathlib.Algebra.Group.Nat.Defs
import Mathlib.Data.List.TakeDrop

namespace RosrustAsync

/-!
A bounded broadcast channel. A receiver is the position of the next value it will take: it starts
at the tail, and is moved to the oldest value still held when it has fallen behind further.
-/

structure Broadcast (α : Type) where
  capacity : ℕ
  sent : List α
  closed : Bool

inductive Received (α : Type) : Type
  | value (a : α)
  | lagged (missed : ℕ)
  | closed

namespace Broadcast

variable {α : Type}

def nextPowerOfTwo (n : ℕ) : ℕ := if n ≤ 1 then 1 else 2 ^ ((n - 1).log2 + 1)

/-- A new channel, unless the capacity makes `channel` panic. -/
def channel (capacity : ℕ) : Option (Broadcast α) :=
  if 0 < capacity ∧ capacity ≤ (2 ^ 64 - 1) / 2 then some ⟨nextPowerOfTwo capacity, [], false⟩
  else none

def tail (self : Broadcast α) : ℕ := self.sent.length

def send (self : Broadcast α) (a : α) : Broadcast α := { self with sent := self.sent ++ [a] }

/-- What `recv` completes with, and the receiver's next position; `none` while it waits. -/
def recv (self : Broadcast α) (next : ℕ) : Option (Received α × ℕ) :=
  match self.sent[next]? with
  | some a =>
    if self.tail - next ≤ self.capacity then some (.value a, next + 1)
    else some (.lagged (self.tail - self.capacity - next), self.tail - self.capacity)
  | none => if self.closed then some (.closed, next) else none

def window (self : Broadcast α) (start next : ℕ) : List α := (self.sent.take next).drop start

variable {self : Broadcast α}

theorem channel_eq_some {capacity : ℕ} {c : Broadcast α} (h : channel capacity = some c) :
    0 < c.capacity ∧ c.sent = [] ∧ c.closed = false := by
  unfold channel at h
  split at h
  · cases h
    refine ⟨?_, rfl, rfl⟩
    simp only [nextPowerOfTwo]
    split
    · exact Nat.one_pos
    · exact Nat.two_pow_pos _
  · cases h

@[simp] theorem tail_send (a : α) : (self.send a).tail = self.tail + 1 := by simp [tail, send]

theorem recv_value {next next' : ℕ} {a : α} (h : self.recv next = some (.value a, next')) :
    self.sent[next]? = some a ∧ next' = next + 1 ∧ next' ≤ self.tail := by
  unfold recv at h
  split at h
  · rename_i b hb
    split at h
    · cases h
      exact ⟨hb, rfl, (List.getElem?_eq_some_iff.mp hb).1⟩
    · cases h
  · split at h <;> cases h

theorem recv_lagged {next next' missed : ℕ} (h : self.recv next = some (.lagged missed, next')) :
    next < self.tail - self.capacity ∧ next' = self.tail - self.capacity := by
  unfold recv at h
  split at h
  · split at h
    · cases h
    · cases h
      omega
  · split at h <;> cases h

theorem recv_closed {next next' : ℕ} (h : self.recv next = some (.closed, next')) :
    next' = next ∧ self.tail ≤ next ∧ self.closed = true := by
  unfold recv at h
  split at h
  · split at h <;> cases h
  · rename_i hnone
    split at h <;> cases h
    rename_i hclosed
    exact ⟨rfl, List.getElem?_eq_none_iff.mp hnone, hclosed⟩

theorem window_prefix (start next : ℕ) : self.window start next <+: self.sent.drop start := by
  rw [window, List.drop_take]
  exact List.take_prefix _ _

theorem window_append_drop {start next : ℕ} (h : start ≤ next) (hn : next ≤ self.tail) :
    self.window start next ++ self.sent.drop next = self.sent.drop start := by
  have htake : start ≤ (self.sent.take next).length := by
    rw [List.length_take]
    exact Nat.le_min.mpr ⟨h, Nat.le_trans h hn⟩
  rw [window, ← List.drop_append_of_le_length htake, List.take_append_drop]

theorem prefix_send {got : List α} {start : ℕ} (a : α) (h : got <+: self.sent.drop start)
    (hs : start ≤ self.tail) : got <+: (self.send a).sent.drop start := by
  simp only [send, List.drop_append_of_le_length hs]
  exact h.trans (List.prefix_append _ _)

theorem window_send {next : ℕ} (start : ℕ) (a : α) (h : next ≤ self.tail) :
    (self.send a).window start next = self.window start next := by
  simp only [window, send, List.take_append_of_le_length h]

theorem window_succ {start next : ℕ} {a : α} (h : self.sent[next]? = some a) (hs : start ≤ next) :
    self.window start (next + 1) = self.window start next ++ [a] := by
  obtain ⟨hlt, rfl⟩ := List.getElem?_eq_some_iff.mp h
  rw [window, List.take_succ_eq_append_getElem hlt,
    List.drop_append_of_le_length (by rw [List.length_take]; omega)]
  rfl

theorem window_last (h : self.sent ≠ []) :
    self.window (self.tail - 1) self.tail = self.sent.getLast?.toList := by
  rw [window, tail, List.take_length, List.getLast?_eq_some_getLast h, List.drop_length_sub_one h]
  rfl

end Broadcast

end RosrustAsync
