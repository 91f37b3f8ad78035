import Mathlib.Data.List.Basic
import RosrustAsync.Lib.Bytes

namespace RosrustAsync

theorem bind_eq_error {ε α β : Type} {x : Except ε α} {f : α → Except ε β} {e : ε} :
    (x >>= f) = .error e ↔ x = .error e ∨ ∃ a, x = .ok a ∧ f a = .error e := by
  cases x with
  | error e' => simp [bind, Except.bind]
  | ok a => simp [bind, Except.bind]

/-- A type, and the values of an untyped format that stand for its elements. -/
structure Conversion (V E α : Type) where
  toValue : α → V
  ofValue : V → Except E α
  ofValue_eq_ok : ∀ {v a}, ofValue v = .ok a ↔ v = toValue a

namespace Conversion

variable {U V E α β : Type}

@[simp] theorem ofValue_toValue (c : Conversion V E α) (a : α) : c.ofValue (c.toValue a) = .ok a :=
  c.ofValue_eq_ok.mpr rfl

def self : Conversion V E V where
  toValue v := v
  ofValue v := .ok v
  ofValue_eq_ok := by simp

def comp (c : Conversion U E V) (d : Conversion V E α) : Conversion U E α where
  toValue a := c.toValue (d.toValue a)
  ofValue u := c.ofValue u >>= d.ofValue
  ofValue_eq_ok := by
    intro u a
    rw [bind_eq_ok]
    constructor
    · rintro ⟨v, hv, ha⟩
      rw [c.ofValue_eq_ok.mp hv, d.ofValue_eq_ok.mp ha]
    · rintro rfl
      exact ⟨d.toValue a, c.ofValue_toValue _, d.ofValue_toValue a⟩

def list (c : Conversion V E α) : Conversion (List V) E (List α) where
  toValue as := as.map c.toValue
  ofValue vs := vs.mapM c.ofValue
  ofValue_eq_ok := by
    intro vs as
    induction vs generalizing as with
    | nil =>
      cases as with
      | nil => simp [pure, Except.pure]
      | cons a as => simp [pure, Except.pure]
    | cons v vs ih =>
      rw [List.mapM_cons, bind_eq_ok]
      constructor
      · rintro ⟨a, ha, h⟩
        obtain ⟨bs, hbs, h⟩ := bind_eq_ok.mp h
        cases h
        rw [List.map_cons, ← ih.mp hbs, ← c.ofValue_eq_ok.mp ha]
      · intro h
        cases as with
        | nil => cases h
        | cons a as =>
          rw [List.map_cons, List.cons.injEq] at h
          exact ⟨a, c.ofValue_eq_ok.mpr h.1, bind_eq_ok.mpr ⟨as, ih.mpr h.2, rfl⟩⟩

end Conversion

/-- A conversion of a fixed number of values, as in a tuple or in the parameters of a call. -/
structure Members (V E α : Type) extends Conversion (List V) E α where
  arity : ℕ
  length_toValue : ∀ a, (toValue a).length = arity

namespace Members

variable {V E α β : Type} (mismatch : ℕ → ℕ → E)

def one (c : Conversion V E α) : Members V E α where
  toValue a := [c.toValue a]
  ofValue
    | [v] => c.ofValue v
    | vs => .error (mismatch vs.length 1)
  ofValue_eq_ok := by
    rintro (- | ⟨v, - | ⟨w, vs⟩⟩) a
    · simp
    · simp [c.ofValue_eq_ok]
    · simp
  arity := 1
  length_toValue _ := rfl

def cons (c : Conversion V E α) (m : Members V E β) : Members V E (α × β) where
  toValue a := c.toValue a.1 :: m.toValue a.2
  ofValue
    | [] => .error (mismatch 0 (m.arity + 1))
    | v :: vs =>
      if vs.length = m.arity then do
        let a ← c.ofValue v
        let b ← m.ofValue vs
        .ok (a, b)
      else .error (mismatch (vs.length + 1) (m.arity + 1))
  ofValue_eq_ok := by
    rintro (- | ⟨v, vs⟩) ⟨a, b⟩
    · simp
    · simp only [List.cons.injEq]
      split
      · simp only [bind_eq_ok, c.ofValue_eq_ok, m.ofValue_eq_ok, Except.ok.injEq, Prod.mk.injEq]
        constructor
        · rintro ⟨a', hv, b', hvs, rfl, rfl⟩
          exact ⟨hv, hvs⟩
        · rintro ⟨hv, hvs⟩
          exact ⟨a, hv, b, hvs, rfl, rfl⟩
      · rename_i hlength
        simp only [reduceCtorEq, false_iff]
        rintro ⟨-, rfl⟩
        exact hlength (m.length_toValue b)
  arity := m.arity + 1
  length_toValue a := congrArg Nat.succ (m.length_toValue a.2)

variable {mismatch} {c : Conversion V E α} {m : Members V E β} {vs : List V} {e : E}

theorem one_eq_error (h : (one mismatch c).ofValue vs = .error e) :
    (∃ v, vs = [v] ∧ c.ofValue v = .error e) ∨ vs.length ≠ 1 ∧ e = mismatch vs.length 1 := by
  rcases vs with - | ⟨v, - | ⟨w, vs⟩⟩
  · cases h
    exact .inr ⟨by simp, rfl⟩
  · exact .inl ⟨v, rfl, h⟩
  · cases h
    exact .inr ⟨by simp, rfl⟩

theorem cons_eq_error (h : (cons mismatch c m).ofValue vs = .error e) :
    (∃ v ws, vs = v :: ws ∧ ws.length = m.arity ∧
      (c.ofValue v = .error e ∨ m.ofValue ws = .error e)) ∨
    vs.length ≠ m.arity + 1 ∧ e = mismatch vs.length (m.arity + 1) := by
  cases vs with
  | nil =>
    cases h
    exact .inr ⟨by simp, rfl⟩
  | cons v ws =>
    by_cases hlength : ws.length = m.arity
    · refine .inl ⟨v, ws, rfl, hlength, ?_⟩
      simp only [cons, if_pos hlength] at h
      rcases bind_eq_error.mp h with h | ⟨a, -, h⟩
      · exact .inl h
      · rcases bind_eq_error.mp h with h | ⟨b, -, h⟩
        · exact .inr h
        · cases h
    · simp only [cons, if_neg hlength] at h
      cases h
      exact .inr ⟨by simpa using hlength, rfl⟩

end Members

end RosrustAsync
