import RosrustAsync.Lib.Process

namespace RosrustAsync

open Relation

/-! What holds at every point of a program, also where it panics, and not only where it ends. -/

namespace Prog

variable {A : Type} {R : A → Type} {W α β : Type}

section Rules

variable (eff : (a : A) → W → R a → W → Prop) (env : W → W → Prop) (I : W → Prop)

/-- `I` holds as long as the program runs, and `Q` when it ends. -/
def Within (Q : α → W → Prop) : Prog A R α → W → Prop
  | ret a, w => ∀ w', ReflTransGen env w w' → I w' ∧ Q a w'
  | act a k, w => ∀ w', ReflTransGen env w w' → I w' ∧ ∀ r w'', eff a w' r w'' →
      Within Q (k r) w''

def Keeping (P : W → Prop) (p : Prog A R α) (Q : α → W → Prop) : Prop :=
  ∀ w, P w → Within eff env I Q p w

variable {eff env I} {P P' : W → Prop} {Q Q' : α → W → Prop} {S : β → W → Prop}

theorem Within.holds {p : Prog A R α} {w : W} (h : Within eff env I Q p w) : I w := by
  cases p with
  | ret a => exact (h w .refl).1
  | act a k => exact (h w .refl).1

theorem Within.interfere {p : Prog A R α} {w w' : W} (h : Within eff env I Q p w)
    (he : env w w') : Within eff env I Q p w' := by
  cases p with
  | ret a => exact fun _ hr => h _ (hr.head he)
  | act a k => exact fun _ hr => h _ (hr.head he)

theorem Within.act {a : A} {k : R a → Prog A R α} {w w' : W} {r : R a}
    (h : Within eff env I Q (.act a k) w) (he : eff a w r w') : Within eff env I Q (k r) w' :=
  (h w .refl).2 r w' he

theorem Within.bind {p : Prog A R α} {f : α → Prog A R β} {w : W}
    (h : Within eff env I (fun a => Within eff env I S (f a)) p w) :
    Within eff env I S (p.bind f) w := by
  induction p generalizing w with
  | ret a => exact (h w .refl).2
  | act a k ih =>
    intro w' hr
    obtain ⟨hi, hk⟩ := h w' hr
    exact ⟨hi, fun r w'' he => ih r (hk r w'' he)⟩

theorem Within.mono_ret {p : Prog A R α} {w : W} (h : Within eff env I Q p w)
    (hq : ∀ a w, (∀ w', ReflTransGen env w w' → I w' ∧ Q a w') → Q' a w) :
    Within eff env I Q' p w := by
  induction p generalizing w with
  | ret a =>
    intro w' hr
    exact ⟨(h w' hr).1, hq _ _ fun w'' hr' => h w'' (hr.trans hr')⟩
  | act a k ih =>
    intro w' hr
    obtain ⟨hi, hk⟩ := h w' hr
    exact ⟨hi, fun r w'' he => ih r (hk r w'' he)⟩

theorem Keeping.weaken {p : Prog A R α} (h : Keeping eff env I P' p Q) (hp : ∀ w, P w → P' w)
    (hq : ∀ a w, Q a w → Q' a w) : Keeping eff env I P p Q' := by
  intro w hw
  exact (h w (hp w hw)).mono_ret fun a w hr => hq a w (hr w .refl).2

theorem Keeping.ret {a : α} (hp : Stable env P) (hi : ∀ w, P w → I w) (h : ∀ w, P w → Q a w) :
    Keeping eff env I P (pure a) Q := by
  intro w hw w' hr
  have hw' := hp.closure hw hr
  exact ⟨hi w' hw', h w' hw'⟩

theorem Keeping.bind_perform {ε : Type} {a : A} {f : R a → ExceptT ε (Prog A R) β}
    {T : Except ε β → W → Prop} (hp : Stable env P) (hi : ∀ w, P w → I w)
    (h : ∀ w r w', P w → eff a w r w' → Within eff env I T (f r).run w') :
    Keeping eff env I P (ExceptT.lift (Prog.perform a) >>= f).run T := by
  intro w hw w' hr
  have hw' := hp.closure hw hr
  exact ⟨hi w' hw', fun r w'' he => h w' r w'' hw' he⟩

theorem Keeping.perform {a : A} {T : R a → W → Prop} (hp : Stable env P) (hi : ∀ w, P w → I w)
    (ht : ∀ r, Stable env (T r)) (hti : ∀ r w, T r w → I w)
    (h : ∀ w r w', P w → eff a w r w' → T r w') :
    Keeping eff env I P (Prog.perform a) T := by
  intro w hw w' hr
  have hw' := hp.closure hw hr
  refine ⟨hi w' hw', fun r w'' he w₃ hr' => ?_⟩
  have hw₃ := (ht r).closure (h w' r w'' hw' he) hr'
  exact ⟨hti r w₃ hw₃, hw₃⟩

theorem Keeping.bind_except {ε : Type} {p : ExceptT ε (Prog A R) α}
    {f : α → ExceptT ε (Prog A R) β} {E : ε → W → Prop} {T : Except ε β → W → Prop}
    (h : Keeping eff env I P p.run (Outcome Q E))
    (hf : ∀ a, Keeping eff env I (Q a) (f a).run T) (he : ∀ e w, E e w → T (.error e) w) :
    Keeping eff env I P (p >>= f).run T := by
  intro w hw
  refine (Within.mono_ret (h w hw) ?_).bind
  rintro (e | a) w hr
  · intro w' hr'
    obtain ⟨hi, hq⟩ := hr w' hr'
    exact ⟨hi, he e w' hq⟩
  · exact hf a w (hr w .refl).2

theorem Keeping.lift {ε : Type} {p : Prog A R α} {E : ε → W → Prop}
    (h : Keeping eff env I P p Q) : Keeping eff env I P (ExceptT.lift p).run (Outcome Q E) := by
  intro w hw
  exact ((h w hw).mono_ret fun _ _ hr => hr).bind

theorem Keeping.attempt {ε ε' : Type} {p : ExceptT ε (Prog A R) α} {T : Except ε α → W → Prop}
    {E : ε' → W → Prop} (h : Keeping eff env I P p.run T) :
    Keeping eff env I P (Prog.attempt p).run (Outcome T E) := Keeping.lift h

theorem Keeping.orThrow {ε ε' : Type} {g : ε → ε'} {p : ExceptT ε (Prog A R) α}
    {T : Except ε' α → W → Prop} (h : Keeping eff env I P p.run fun r => T (r.mapError g)) :
    Keeping eff env I P (Prog.orThrow g p).run T := by
  intro w hw
  exact ((h w hw).mono_ret fun _ _ hr => hr).bind

end Rules

end Prog

namespace Process

variable {W L I M A E : Type} {R : A → Type} {P : Process W L I M A E R}
  {Allowed : W → L → Prop} {Meets : M → I → A → W → Prop} {J : W → Prop}

variable (P Allowed Meets J) in
def Always (c : Config W M A E R) : Prop :=
  match c.pc with
  | .busy m p => p.Within (P.effect Meets m) (P.others Allowed) J (fun _ _ => True) c.world
  | .idle | .stopped => J c.world

theorem Always.holds {c : Config W M A E R} (h : P.Always Allowed Meets J c) : J c.world := by
  obtain ⟨w, pc⟩ := c
  cases pc with
  | busy m p => exact Prog.Within.holds h
  | idle | stopped => exact h

theorem always_step (hstable : Prog.Stable (P.others Allowed) J)
    (hstart : ∀ w m w', J w → P.receive w = some (m, w') →
      (P.handle m).Within (P.effect Meets m) (P.others Allowed) J (fun _ _ => True) w')
    {c c' : Config W M A E R} {l : Label L I} (hc : P.Always Allowed Meets J c)
    (hl : Ok Allowed Meets c l) (he : P.step c l = some c') : P.Always Allowed Meets J c' := by
  obtain ⟨w, pc⟩ := c
  cases l with
  | outside l =>
    obtain ⟨w', hw, hc'⟩ := Option.bind_eq_some_iff.mp he
    cases hc'
    have hothers : P.others Allowed w w' := ⟨l, hl, hw⟩
    cases pc with
    | busy m p => exact Prog.Within.interfere hc hothers
    | idle | stopped => exact hstable w w' hc hothers
  | start =>
    simp only [step] at he
    split at he
    · rename_i m w' hm
      cases he
      exact hstart w m w' hc hm
    · cases he
  | act input =>
    simp only [step] at he
    split at he
    · rename_i m a k
      have hm : Meets m input a w := hl
      split at he
      · rename_i r w' hx
        cases he
        exact Prog.Within.act hc ⟨input, hm, hx⟩
      · cases he
        exact hc.holds
    · cases he
  | finish =>
    simp only [step] at he
    split at he
    · cases he
      exact hc.holds
    · cases he
      exact hc.holds
    · cases he

theorem always_run (hstable : Prog.Stable (P.others Allowed) J)
    (hstart : ∀ w m w', J w → P.receive w = some (m, w') →
      (P.handle m).Within (P.effect Meets m) (P.others Allowed) J (fun _ _ => True) w')
    {labels : List (Label L I)} {w : W} {c : Config W M A E R} (hw : J w)
    (h : Runs.Run P.step (Ok Allowed Meets) ⟨w, .idle⟩ labels c) : J c.world := by
  have hinit : P.Always Allowed Meets J ⟨w, .idle⟩ := hw
  exact (h.invariant (fun _ _ _ => always_step hstable hstart) hinit).holds

end Process

end RosrustAsync
