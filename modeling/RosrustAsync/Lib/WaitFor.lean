import Mathlib.Data.Nat.Notation
import Mathlib.Logic.Relation

namespace RosrustAsync

open Relation

/-! What waits for what, where everything waits for something of a lower rank. -/

def Ranked {P : Type} (Waits : P → P → Prop) (rank : P → ℕ) : Prop :=
  ∀ p q, Waits p q → rank q < rank p

namespace Ranked

variable {P : Type} {Waits : P → P → Prop} {rank : P → ℕ}

theorem lt_of_transGen (h : Ranked Waits rank) {p q : P} (hpq : TransGen Waits p q) :
    rank q < rank p := by
  induction hpq with
  | single hpq => exact h _ _ hpq
  | tail _ hqr ih => exact Nat.lt_trans (h _ _ hqr) ih

theorem acyclic (h : Ranked Waits rank) (p : P) : ¬ TransGen Waits p p :=
  fun hp => Nat.lt_irrefl _ (h.lt_of_transGen hp)

/-- The chain from one that waits ends in one that waits for nothing. -/
theorem exists_last (h : Ranked Waits rank) {p q : P} (hpq : Waits p q) :
    ∃ r s, ReflTransGen Waits p r ∧ Waits r s ∧ ∀ t, ¬ Waits s t := by
  obtain ⟨n, hn⟩ : ∃ n, rank p = n := ⟨_, rfl⟩
  induction n using Nat.strongRecOn generalizing p q with
  | _ n ih =>
    by_cases hq : ∃ t, Waits q t
    · obtain ⟨t, hqt⟩ := hq
      obtain ⟨r, s, hqr, hrs, hs⟩ := ih (rank q) (hn ▸ h p q hpq) hqt rfl
      exact ⟨r, s, hqr.head hpq, hrs, hs⟩
    · exact ⟨p, q, .refl, hpq, fun t hqt => hq ⟨t, hqt⟩⟩

end Ranked

end RosrustAsync
