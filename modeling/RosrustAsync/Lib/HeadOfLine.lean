import Mathlib.Data.Nat.Notation
import Mathlib.Logic.Relation

namespace RosrustAsync

open Relation

/-!
A server that takes those in line for it one at a time, and waits for the one it serves before it
turns to anything else.
-/

inductive HeadOfLine.Turn {S P : Type} (running idle serving : S → Prop) (line : S → List P)
    (stalled : S → P → Prop) (s s' : S) : Prop
  | aside : running s → ¬ serving s → ¬ serving s' → ¬ running s' ∨ line s' = line s →
      Turn running idle serving line stalled s s'
  | take : idle s → line s ≠ [] → line s' = line s → Turn running idle serving line stalled s s'
  | serve {p : P} : serving s → ¬ serving s' → line s = p :: line s' → ¬ stalled s p →
      Turn running idle serving line stalled s s'

structure HeadOfLine (S P D : Type) where
  own : S → S → Prop
  running : S → Prop
  idle : S → Prop
  serving : S → Prop
  line : S → List P
  stalled : S → P → Prop
  -- what serving somebody leaves as it is
  view : S → D
  running_of_idle {s : S} : idle s → running s
  running_of_serving {s : S} : serving s → running s
  not_idle {s : S} : serving s → ¬ idle s
  own_turn {s s' : S} : own s s' → HeadOfLine.Turn running idle serving line stalled s s'
  stalled_own {s s' : S} {p : P} : own s s' → (stalled s' p ↔ stalled s p)
  settle {s : S} : running s → ¬ serving s →
    ∃ s', ReflTransGen own s s' ∧ idle s' ∧ line s' = line s ∧ view s' = view s
  take {s : S} : idle s → line s ≠ [] →
    ∃ s', own s s' ∧ serving s' ∧ line s' = line s ∧ view s' = view s
  serve {s : S} {p : P} {rest : List P} : serving s → line s = p :: rest → ¬ stalled s p →
    ∃ s', ReflTransGen own s s' ∧ idle s' ∧ line s' = rest ∧ view s' = view s

namespace HeadOfLine

variable {S P D : Type} (H : HeadOfLine S P D)

def Valid (s : S) : Prop := H.serving s → H.line s ≠ []

/-- The one the server waits for, if any, lets it go on. -/
def Free (s : S) : Prop := ∀ p rest, H.serving s → H.line s = p :: rest → ¬ H.stalled s p

def Turns (Q : D → Prop) (s : S) : Prop := ∃ s', ReflTransGen H.own s s' ∧ H.idle s' ∧ Q (H.view s')

def Serves (i : ℕ) (s : S) : Prop :=
  ∃ s', ReflTransGen H.own s s' ∧ H.running s' ∧ H.line s' = (H.line s).drop (i + 1)

variable {H} {s s' : S}

theorem running_of_own (he : H.own s s') : H.running s := by
  cases H.own_turn he with
  | aside hr _ _ _ => exact hr
  | take hidle _ _ => exact H.running_of_idle hidle
  | serve hs _ _ _ => exact H.running_of_serving hs

theorem valid_own (he : H.own s s') : H.Valid s' := by
  intro hs'
  cases H.own_turn he with
  | aside _ _ hs _ => exact absurd hs' hs
  | take _ hne hline => rwa [hline]
  | serve _ hs _ _ => exact absurd hs' hs

theorem line_own (he : H.own s s') (hr : H.running s') :
    H.line s' = H.line s ∨ ∃ p, H.line s = p :: H.line s' ∧ ¬ H.stalled s p := by
  cases H.own_turn he with
  | aside _ _ _ hline => exact .inl (hline.resolve_left fun h => h hr)
  | take _ _ hline => exact .inl hline
  | serve _ _ hline hfree => exact .inr ⟨_, hline, hfree⟩

theorem held {p : P} {rest : List P} (hs : H.serving s) (hline : H.line s = p :: rest)
    (he : H.own s s') : ¬ H.stalled s p := by
  cases H.own_turn he with
  | aside _ hs' _ _ => exact absurd hs hs'
  | take hidle _ _ => exact absurd hidle (H.not_idle hs)
  | serve _ _ hline' hfree =>
    obtain ⟨rfl, -⟩ := List.cons.inj (hline.symm.trans hline')
    exact hfree

theorem stalled_run {p : P} (h : ReflTransGen H.own s s') : H.stalled s' p ↔ H.stalled s p := by
  induction h with
  | refl => rfl
  | tail _ he ih => rw [H.stalled_own he, ih]

theorem free_of_own (he : H.own s s') : H.Free s :=
  fun _ _ hs hline => held hs hline he

theorem turns_of_free (hv : H.Valid s) (hr : H.running s) (hfree : H.Free s) :
    ∃ s', ReflTransGen H.own s s' ∧ H.idle s' ∧ H.view s' = H.view s := by
  by_cases hs : H.serving s
  · obtain ⟨p, rest, hline⟩ := List.exists_cons_of_ne_nil (hv hs)
    obtain ⟨s', hrun, hidle, -, hview⟩ := H.serve hs hline (hfree p rest hs hline)
    exact ⟨s', hrun, hidle, hview⟩
  · obtain ⟨s', hrun, hidle, -, hview⟩ := H.settle hr hs
    exact ⟨s', hrun, hidle, hview⟩

theorem turns_iff {Q : D → Prop} (hv : H.Valid s) (hr : H.running s) (hq : Q (H.view s)) :
    H.Turns Q s ↔ H.Free s := by
  constructor
  · rintro ⟨s', hrun, hidle, -⟩
    cases hrun.cases_head with
    | inl heq =>
      subst heq
      intro p rest hs
      exact absurd hidle (H.not_idle hs)
    | inr h =>
      obtain ⟨t, he, -⟩ := h
      exact free_of_own he
  · intro hfree
    obtain ⟨s', hrun, hidle, hview⟩ := turns_of_free hv hr hfree
    exact ⟨s', hrun, hidle, hview ▸ hq⟩

theorem serves_idle (n : ℕ) (hidle : H.idle s) (hn : n ≤ (H.line s).length)
    (hall : ∀ p ∈ (H.line s).take n, ¬ H.stalled s p) :
    ∃ s', ReflTransGen H.own s s' ∧ H.idle s' ∧ H.line s' = (H.line s).drop n := by
  induction n generalizing s with
  | zero => exact ⟨s, .refl, hidle, rfl⟩
  | succ n ih =>
    cases hline : H.line s with
    | nil =>
      rw [hline, List.length_nil] at hn
      omega
    | cons p rest =>
      rw [hline] at hn hall
      have hne : H.line s ≠ [] := hline ▸ List.cons_ne_nil p rest
      obtain ⟨t, htake, hserving, htline, -⟩ := H.take hidle hne
      have hp : ¬ H.stalled t p := by
        rw [H.stalled_own htake]
        exact hall p List.mem_cons_self
      obtain ⟨u, hserve, huidle, huline, -⟩ := H.serve hserving (htline.trans hline) hp
      have hrun : ReflTransGen H.own s u := .head htake hserve
      have hrest : ∀ q ∈ (H.line u).take n, ¬ H.stalled u q := by
        intro q hq
        rw [stalled_run hrun]
        rw [huline] at hq
        exact hall q (List.mem_cons_of_mem _ hq)
      rw [List.length_cons] at hn
      obtain ⟨v, hv, hvidle, hvline⟩ := ih huidle (by rw [huline]; omega) hrest
      exact ⟨v, hrun.trans hv, hvidle, by rw [hvline, huline, List.drop_succ_cons]⟩

theorem line_run (h : ReflTransGen H.own s s') (hr : H.running s') :
    ∃ k, H.line s' = (H.line s).drop k ∧ ∀ p ∈ (H.line s).take k, ¬ H.stalled s p := by
  induction h with
  | refl => exact ⟨0, rfl, by simp⟩
  | tail hrun he ih =>
    obtain ⟨k, hline, hall⟩ := ih (running_of_own he)
    cases line_own he hr with
    | inl heq => exact ⟨k, heq.trans hline, hall⟩
    | inr h =>
      obtain ⟨p, hp, hfree⟩ := h
      refine ⟨k + 1, ?_, ?_⟩
      · rw [← List.drop_drop, ← hline, hp]
        rfl
      · intro q hq
        rw [List.take_add, ← hline, hp] at hq
        cases List.mem_append.mp hq with
        | inl hq => exact hall q hq
        | inr hq =>
          obtain rfl : q = p := by simpa using hq
          rwa [stalled_run hrun] at hfree

theorem serves_iff {i : ℕ} (hv : H.Valid s) (hr : H.running s) (hi : i < (H.line s).length) :
    H.Serves i s ↔ ∀ p ∈ (H.line s).take (i + 1), ¬ H.stalled s p := by
  constructor
  · rintro ⟨s', hrun, hr', hline⟩
    obtain ⟨k, hk, hall⟩ := line_run hrun hr'
    have hlen : ((H.line s).drop k).length = ((H.line s).drop (i + 1)).length := by rw [← hk, hline]
    simp only [List.length_drop] at hlen
    intro p hp
    apply hall p
    exact List.take_subset_take_left _ (by omega) hp
  · intro hall
    by_cases hs : H.serving s
    · obtain ⟨p, rest, hline⟩ := List.exists_cons_of_ne_nil (hv hs)
      rw [hline] at hall hi
      obtain ⟨t, hserve, htidle, htline, -⟩ := H.serve hs hline (hall p List.mem_cons_self)
      have hrest : ∀ q ∈ (H.line t).take i, ¬ H.stalled t q := by
        intro q hq
        rw [stalled_run hserve]
        rw [htline] at hq
        exact hall q (List.mem_cons_of_mem _ hq)
      rw [List.length_cons] at hi
      obtain ⟨u, hu, huidle, huline⟩ := serves_idle i htidle (by rw [htline]; omega) hrest
      exact ⟨u, hserve.trans hu, H.running_of_idle huidle, by
        rw [huline, htline, hline, List.drop_succ_cons]⟩
    · obtain ⟨t, hsettle, htidle, htline, -⟩ := H.settle hr hs
      have hrest : ∀ q ∈ (H.line t).take (i + 1), ¬ H.stalled t q := by
        intro q hq
        rw [stalled_run hsettle]
        rw [htline] at hq
        exact hall q hq
      obtain ⟨u, hu, huidle, huline⟩ := serves_idle (i + 1) htidle (by rw [htline]; omega) hrest
      exact ⟨u, hsettle.trans hu, H.running_of_idle huidle, by rw [huline, htline]⟩

end HeadOfLine

end RosrustAsync
