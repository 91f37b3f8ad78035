import Mathlib.Algebra.Group.Nat.Defs
import Mathlib.Data.List.Basic

namespace RosrustAsync

abbrev Bytes := List UInt8

inductive IoError : Type
  | unexpectedEof
  | other (message : String)
  deriving DecidableEq

theorem bind_eq_ok {ε α β : Type} {x : Except ε α} {f : α → Except ε β} {b : β} :
    (x >>= f) = .ok b ↔ ∃ a, x = .ok a ∧ f a = .ok b := by
  cases x with
  | error e =>
    constructor
    · intro h
      cases h
    · rintro ⟨a, h, -⟩
      cases h
  | ok a =>
    constructor
    · exact fun h => ⟨a, rfl, h⟩
    · rintro ⟨a', h, hf⟩
      cases h
      exact hf

/-! Little-endian words, `u32::to_le_bytes` and its inverse. -/

def le32 (n : UInt32) : Bytes :=
  [.ofNat n.toNat, .ofNat (n.toNat / 2 ^ 8), .ofNat (n.toNat / 2 ^ 16), .ofNat (n.toNat / 2 ^ 24)]

def ofLe32 (b₀ b₁ b₂ b₃ : UInt8) : UInt32 :=
  .ofNat (b₀.toNat + 2 ^ 8 * b₁.toNat + 2 ^ 16 * b₂.toNat + 2 ^ 24 * b₃.toNat)

@[simp] theorem le32_length (n : UInt32) : (le32 n).length = 4 := rfl

theorem ofLe32_le32 (n : UInt32) : ofLe32 (.ofNat n.toNat) (.ofNat (n.toNat / 2 ^ 8))
    (.ofNat (n.toNat / 2 ^ 16)) (.ofNat (n.toNat / 2 ^ 24)) = n := by
  apply UInt32.toNat_inj.mp
  have h := n.toNat_lt
  simp only [ofLe32, UInt32.toNat_ofNat', UInt8.toNat_ofNat']
  omega

theorem le32_ofLe32 (b₀ b₁ b₂ b₃ : UInt8) : le32 (ofLe32 b₀ b₁ b₂ b₃) = [b₀, b₁, b₂, b₃] := by
  have h₀ := b₀.toNat_lt
  have h₁ := b₁.toNat_lt
  have h₂ := b₂.toNat_lt
  have h₃ := b₃.toNat_lt
  simp only [le32, ofLe32, UInt32.toNat_ofNat', List.cons.injEq, and_true]
  refine ⟨?_, ?_, ?_, ?_⟩ <;>
    · apply UInt8.toNat_inj.mp
      simp only [UInt8.toNat_ofNat']
      omega

/-! Readers over a byte slice: what is read, and what is left. -/

def readExact (n : ℕ) (bs : Bytes) : Except IoError (Bytes × Bytes) :=
  if n ≤ bs.length then .ok (bs.take n, bs.drop n) else .error .unexpectedEof

def readU32 : Bytes → Except IoError (UInt32 × Bytes)
  | b₀ :: b₁ :: b₂ :: b₃ :: bs => .ok (ofLe32 b₀ b₁ b₂ b₃, bs)
  | _ => .error .unexpectedEof

@[simp] theorem readExact_append (xs ys : Bytes) :
    readExact xs.length (xs ++ ys) = .ok (xs, ys) := by
  simp [readExact]

theorem readExact_eq_ok {n : ℕ} {bs xs ys : Bytes} (h : readExact n bs = .ok (xs, ys)) :
    bs = xs ++ ys ∧ xs.length = n := by
  unfold readExact at h
  split at h
  · cases h
    exact ⟨(List.take_append_drop n bs).symm, List.length_take_of_le ‹n ≤ bs.length›⟩
  · cases h

@[simp] theorem readU32_le32 (n : UInt32) (bs : Bytes) : readU32 (le32 n ++ bs) = .ok (n, bs) := by
  simp only [le32, List.cons_append, List.nil_append, readU32, ofLe32_le32]

theorem readU32_eq_ok {bs ys : Bytes} {n : UInt32} (h : readU32 bs = .ok (n, ys)) :
    bs = le32 n ++ ys := by
  unfold readU32 at h
  split at h
  · cases h
    rw [le32_ofLe32]
    rfl
  · cases h

theorem readU32_short {bs : Bytes} (h : bs.length < 4) : readU32 bs = .error .unexpectedEof := by
  match bs, h with
  | [], _ | [_], _ | [_, _], _ | [_, _, _], _ => rfl

theorem readU32_eq_error {bs : Bytes} {e : IoError} (h : readU32 bs = .error e) :
    bs.length < 4 ∧ e = .unexpectedEof := by
  match bs, h with
  | [], h | [_], h | [_, _], h | [_, _, _], h => cases h; exact ⟨by simp, rfl⟩

/-! Readers over a stream that arrives in chunks and is then closed. -/

def readExactAsync : ℕ → List Bytes → Except IoError (Bytes × List Bytes)
  | 0, cs => .ok ([], cs)
  | _ + 1, [] => .error .unexpectedEof
  | n + 1, c :: cs =>
    if c.length ≤ n + 1 then
      (readExactAsync (n + 1 - c.length) cs).map fun r => (c ++ r.1, r.2)
    else .ok (c.take (n + 1), c.drop (n + 1) :: cs)

theorem readExactAsync_ok (xs ys : Bytes) (cs : List Bytes) (h : cs.flatten = xs ++ ys) :
    ∃ ds, readExactAsync xs.length cs = .ok (xs, ds) ∧ ds.flatten = ys := by
  induction cs generalizing xs with
  | nil =>
    obtain ⟨rfl, rfl⟩ := List.append_eq_nil_iff.mp h.symm
    exact ⟨[], rfl, rfl⟩
  | cons c cs ih =>
    cases xs with
    | nil => exact ⟨c :: cs, rfl, h⟩
    | cons x xs =>
      rw [List.flatten_cons] at h
      simp only [List.length_cons, readExactAsync]
      split
      · rename_i hc
        -- the chunk is used up: what is missing comes from the chunks behind it
        obtain ⟨zs, hz⟩ : ∃ zs, x :: xs = c ++ zs :=
          (List.prefix_of_prefix_length_le ⟨_, h⟩ ⟨ys, rfl⟩ hc).imp fun _ h => h.symm
        have hrest := h
        rw [hz, List.append_assoc] at hrest
        obtain ⟨ds, hd, hf⟩ := ih zs (List.append_cancel_left hrest)
        have hl : xs.length + 1 - c.length = zs.length := by
          have := congrArg List.length hz
          simp only [List.length_cons, List.length_append] at this
          omega
        exact ⟨ds, by rw [hl, hd, hz]; rfl, hf⟩
      · rename_i hc
        have hlt : (x :: xs).length ≤ c.length := by simp only [List.length_cons]; omega
        obtain ⟨zs, rfl⟩ := List.prefix_of_prefix_length_le ⟨ys, rfl⟩ ⟨_, h⟩ hlt
        refine ⟨zs :: cs, ?_, ?_⟩
        · rw [← List.length_cons, List.take_left, List.drop_left]
        · rw [List.append_assoc] at h
          simpa using List.append_cancel_left h

theorem readExactAsync_eof (n : ℕ) (cs : List Bytes) (h : cs.flatten.length < n) :
    readExactAsync n cs = .error .unexpectedEof := by
  induction cs generalizing n with
  | nil =>
    cases n with
    | zero => simp at h
    | succ n => rfl
  | cons c cs ih =>
    rw [List.flatten_cons, List.length_append] at h
    cases n with
    | zero => omega
    | succ n =>
      rw [readExactAsync, if_pos (by omega), ih _ (by omega)]
      rfl

theorem readExactAsync_eq_ok {n : ℕ} {cs ds : List Bytes} {xs : Bytes}
    (h : readExactAsync n cs = .ok (xs, ds)) : cs.flatten = xs ++ ds.flatten ∧ xs.length = n := by
  by_cases hlt : cs.flatten.length < n
  · rw [readExactAsync_eof n cs hlt] at h
    cases h
  · obtain ⟨es, hread, hes⟩ := readExactAsync_ok (cs.flatten.take n) (cs.flatten.drop n) cs
      (List.take_append_drop n _).symm
    have hlength := List.length_take_of_le (Nat.le_of_not_lt hlt)
    rw [hlength, h] at hread
    cases hread
    rw [hes]
    exact ⟨(List.take_append_drop n _).symm, hlength⟩

end RosrustAsync
