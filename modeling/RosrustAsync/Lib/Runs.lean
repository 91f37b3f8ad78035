import Mathlib.Algebra.Ring.Nat
import Mathlib.Logic.Relation

namespace RosrustAsync.Runs

variable {σ α : Type} {step : σ → α → Option σ} {ok : σ → α → Prop}

inductive Run (step : σ → α → Option σ) (ok : σ → α → Prop) : σ → List α → σ → Prop
  | nil (s : σ) : Run step ok s [] s
  | cons {s t u : σ} {a : α} {as : List α} : ok s a → step s a = some t →
      Run step ok t as u → Run step ok s (a :: as) u

theorem run_nil_iff {s t : σ} : Run step ok s [] t ↔ s = t := by
  constructor
  · rintro ⟨⟩
    rfl
  · rintro rfl
    exact .nil s

theorem run_cons_iff {s t : σ} {a : α} {as : List α} :
    Run step ok s (a :: as) t ↔ ok s a ∧ ∃ m, step s a = some m ∧ Run step ok m as t := by
  constructor
  · rintro ⟨⟩
    exact ⟨‹_›, _, ‹_›, ‹_›⟩
  · rintro ⟨hok, m, he, hrun⟩
    exact .cons hok he hrun

theorem Run.invariant {I : σ → Prop} {s t : σ} {as : List α} (h : Run step ok s as t)
    (hstep : ∀ s a t, I s → ok s a → step s a = some t → I t) (hs : I s) : I t := by
  induction h with
  | nil => exact hs
  | cons hok he _ ih => exact ih (hstep _ _ _ hs hok he)

theorem Run.mono {ok' : σ → α → Prop} {s t : σ} {as : List α} (h : Run step ok s as t)
    (hok : ∀ s a, ok s a → ok' s a) : Run step ok' s as t := by
  induction h with
  | nil s => exact .nil s
  | cons ha he _ ih => exact .cons (hok _ _ ha) he ih

theorem Run.of_mem {ok' : σ → α → Prop} {s t : σ} {as : List α} (h : Run step ok s as t)
    (hok : ∀ a ∈ as, ∀ s, ok s a → ok' s a) : Run step ok' s as t := by
  induction h with
  | nil s => exact .nil s
  | cons ha he _ ih =>
    exact .cons (hok _ (by simp) _ ha) he (ih fun a ha => hok a (List.mem_cons_of_mem _ ha))

/-- Work that each step pays for out of what is left, or of what the step itself adds. -/
theorem Run.amortised {I : σ → Prop} {rank : σ → ℕ} {cost gain : α → ℕ} {s t : σ} {as : List α}
    (h : Run step ok s as t) (hI : ∀ s a t, I s → ok s a → step s a = some t → I t)
    (hstep : ∀ s a t, I s → ok s a → step s a = some t → rank t + cost a ≤ rank s + gain a)
    (hs : I s) : rank t + (as.map cost).sum ≤ rank s + (as.map gain).sum := by
  induction h with
  | nil s => simp
  | cons hok he _ ih =>
    have hrest := ih (hI _ _ _ hs hok he)
    have hfirst := hstep _ _ _ hs hok he
    simp only [List.map_cons, List.sum_cons]
    omega

theorem Run.trans {s t u : σ} {as bs : List α} (h : Run step ok s as t)
    (h' : Run step ok t bs u) : Run step ok s (as ++ bs) u := by
  induction h with
  | nil s => exact h'
  | cons ha he _ ih => exact .cons ha he (ih h')

theorem Run.of_append {s t : σ} {as bs : List α} (h : Run step ok s (as ++ bs) t) :
    ∃ m, Run step ok s as m ∧ Run step ok m bs t := by
  induction as generalizing s with
  | nil => exact ⟨s, .nil s, h⟩
  | cons a as ih =>
    obtain ⟨hok, m, he, hrun⟩ := run_cons_iff.mp h
    obtain ⟨m', has, hbs⟩ := ih hrun
    exact ⟨m', .cons hok he has, hbs⟩

def exec (step : σ → α → Option σ) : σ → List α → Option σ
  | s, [] => some s
  | s, a :: as => (step s a).bind fun t => exec step t as

theorem exec_append (s : σ) (as bs : List α) :
    exec step s (as ++ bs) = (exec step s as).bind fun t => exec step t bs := by
  induction as generalizing s with
  | nil => rfl
  | cons a as ih =>
    simp only [List.cons_append, exec, Option.bind_assoc]
    exact congrArg _ (funext ih)

theorem run_of_exec {s t : σ} {as : List α} (h : exec step s as = some t)
    (hok : ∀ a ∈ as, ∀ s, ok s a) : Run step ok s as t := by
  induction as generalizing s with
  | nil => cases h; exact .nil _
  | cons a as ih =>
    obtain ⟨m, hm, hrest⟩ := Option.bind_eq_some_iff.mp h
    exact .cons (hok a (by simp) s) hm (ih hrest fun b hb => hok b (List.mem_cons_of_mem _ hb))

end RosrustAsync.Runs
