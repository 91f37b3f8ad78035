import Mathlib.Algebra.Ring.Nat
import Mathlib.Data.List.Basic

namespace RosrustAsync

/-! A list whose entries are set one at a time. -/

variable {α : Type} {l : List α} {i j : ℕ} {a b : α}

theorem getElem?_set_cases (h : (l.set i a)[j]? = some b) :
    j = i ∧ b = a ∨ j ≠ i ∧ l[j]? = some b := by
  rw [List.getElem?_set] at h
  split at h
  · rename_i hij
    split at h
    · cases h
      exact .inl ⟨hij.symm, rfl⟩
    · cases h
  · rename_i hij
    exact .inr ⟨Ne.symm hij, h⟩

theorem getElem?_set_of_ne (hne : j ≠ i) (h : l[j]? = some b) : (l.set i a)[j]? = some b := by
  rw [List.getElem?_set_ne (Ne.symm hne)]
  exact h

theorem getElem?_set_of_some (h : l[i]? = some b) : (l.set i a)[i]? = some a :=
  List.getElem?_set_self (List.getElem?_eq_some_iff.mp h).1

theorem modify_eq_set_of_some {f : α → α} (h : l[i]? = some b) : l.modify i f = l.set i (f b) := by
  apply List.ext_getElem?
  intro j
  by_cases hij : i = j
  · subst hij
    rw [List.getElem?_modify_eq, h, getElem?_set_of_some h]
    rfl
  · rw [List.getElem?_modify_ne f l hij, List.getElem?_set_ne hij]

theorem getElem?_concat_cases (h : (l ++ [a])[i]? = some b) :
    l[i]? = some b ∨ i = l.length ∧ b = a := by
  rw [List.getElem?_append] at h
  split at h
  · exact .inl h
  · obtain ⟨hi, rfl⟩ := List.getElem?_eq_some_iff.mp h
    rw [List.length_singleton] at hi
    exact .inr ⟨by omega, List.getElem_singleton _⟩

theorem sum_map_set (f : α → ℕ) (h : l[i]? = some b) :
    ((l.set i a).map f).sum + f b = (l.map f).sum + f a := by
  induction l generalizing i with
  | nil => cases h
  | cons c l ih =>
    cases i with
    | zero =>
      cases h
      simp only [List.set_cons_zero, List.map_cons, List.sum_cons]
      omega
    | succ i =>
      have hrest := ih h
      simp only [List.set_cons_succ, List.map_cons, List.sum_cons]
      omega

/-- Each two of the entries are so related. -/
def Apart (r : α → α → Prop) (l : List α) : Prop :=
  ∀ (i j : ℕ) a b, l[i]? = some a → l[j]? = some b → i ≠ j → r a b

variable {r : α → α → Prop}

theorem Apart.concat (h : Apart r l) (hnew : ∀ b ∈ l, r a b ∧ r b a) : Apart r (l ++ [a]) := by
  intro i j b c hb hc hij
  rcases getElem?_concat_cases hb with hb' | ⟨rfl, rfl⟩
  · rcases getElem?_concat_cases hc with hc' | ⟨rfl, rfl⟩
    · exact h i j b c hb' hc' hij
    · exact (hnew b (List.mem_of_getElem? hb')).2
  · rcases getElem?_concat_cases hc with hc' | ⟨rfl, -⟩
    · exact (hnew c (List.mem_of_getElem? hc')).1
    · exact (hij rfl).elim

theorem Apart.set (h : Apart r l) (hnew : ∀ (j : ℕ) b, l[j]? = some b → j ≠ i → r a b ∧ r b a) :
    Apart r (l.set i a) := by
  intro j k b c hb hc hjk
  rcases getElem?_set_cases hb with ⟨rfl, rfl⟩ | ⟨hj, hb'⟩
  · rcases getElem?_set_cases hc with ⟨rfl, -⟩ | ⟨hk, hc'⟩
    · exact (hjk rfl).elim
    · exact (hnew k c hc' hk).1
  · rcases getElem?_set_cases hc with ⟨rfl, rfl⟩ | ⟨-, hc'⟩
    · exact (hnew j b hb' hj).2
    · exact h j k b c hb' hc' hjk

end RosrustAsync
