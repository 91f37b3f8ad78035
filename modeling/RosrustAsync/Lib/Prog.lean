import Mathlib.Logic.Relation

namespace RosrustAsync

/-- A program that performs atomic actions `a : A`, each answered by some `R a`. -/
inductive Prog (A : Type) (R : A → Type) (α : Type) : Type
  | ret (a : α)
  | act (a : A) (k : R a → Prog A R α)

namespace Prog

variable {A : Type} {R : A → Type} {W α β : Type}

def bind : Prog A R α → (α → Prog A R β) → Prog A R β
  | ret a, f => f a
  | act a k, f => act a fun r => (k r).bind f

instance : Monad (Prog A R) where
  pure := ret
  bind := bind

def perform (a : A) : Prog A R (R a) := act a ret

/-- The result of a program that nobody disturbs; `none` when an action panics. -/
def eval {W : Type} (exec : (a : A) → W → Option (R a × W)) : Prog A R α → W → Option α
  | ret a, _ => some a
  | act a k, w => (exec a w).bind fun x => (k x.1).eval exec x.2

section Throwing

variable {ε ε' : Type}

def attempt (p : ExceptT ε (Prog A R) α) : ExceptT ε' (Prog A R) (Except ε α) := .lift p.run

def orThrow (f : ε → ε') (p : ExceptT ε (Prog A R) α) : ExceptT ε' (Prog A R) α := .adapt f p

end Throwing

/-!
The rules below are for one program that runs on a world `W` shared with others. `eff a w r w'`
says that action `a` may answer `r` and turn `w` into `w'`; `env` is what the others may do
between two actions.
-/

section Rules

variable (eff : (a : A) → W → R a → W → Prop) (env : W → W → Prop)

def Stable (P : W → Prop) : Prop := ∀ w w', P w → env w w' → P w'

/-- Whatever the others do meanwhile, the program ends in a world that satisfies `Q`. -/
def Safe (Q : α → W → Prop) : Prog A R α → W → Prop
  | ret a, w => ∀ w', Relation.ReflTransGen env w w' → Q a w'
  | act a k, w => ∀ w', Relation.ReflTransGen env w w' → ∀ r w'', eff a w' r w'' →
      Safe Q (k r) w''

def Triple (P : W → Prop) (p : Prog A R α) (Q : α → W → Prop) : Prop :=
  ∀ w, P w → Safe eff env Q p w

variable {eff env} {P P' : W → Prop} {Q : α → W → Prop} {S : β → W → Prop}

theorem Stable.closure (h : Stable env P) {w w' : W} (hw : P w)
    (hr : Relation.ReflTransGen env w w') : P w' := by
  induction hr with
  | refl => exact hw
  | tail _ he ih => exact h _ _ ih he

theorem Safe.interfere {p : Prog A R α} {w w' : W} (h : Safe eff env Q p w) (he : env w w') :
    Safe eff env Q p w' := by
  cases p with
  | ret a => exact fun _ hr => h _ (hr.head he)
  | act a k => exact fun _ hr => h _ (hr.head he)

theorem Safe.act {a : A} {k : R a → Prog A R α} {w w' : W} {r : R a}
    (h : Safe eff env Q (.act a k) w) (he : eff a w r w') : Safe eff env Q (k r) w' :=
  h w .refl r w' he

theorem Safe.ret {a : α} {w : W} (h : Safe eff env Q (.ret a) w) : Q a w := h w .refl

theorem Safe.bind {p : Prog A R α} {f : α → Prog A R β} {w : W}
    (h : Safe eff env (fun a => Safe eff env S (f a)) p w) : Safe eff env S (p.bind f) w := by
  induction p generalizing w with
  | ret a => exact h.ret
  | act a k ih => exact fun w' hr r w'' he => ih r (h w' hr r w'' he)

theorem Safe.mono {Q' : α → W → Prop} {p : Prog A R α} {w : W} (h : Safe eff env Q p w)
    (hq : ∀ a w, Q a w → Q' a w) : Safe eff env Q' p w := by
  induction p generalizing w with
  | ret a => exact fun w' hr => hq _ _ (h w' hr)
  | act a k ih => exact fun w' hr r w'' he => ih r (h w' hr r w'' he)

theorem Safe.mono_ret {S : α → W → Prop} {p : Prog A R α} {w : W} (h : Safe eff env Q p w)
    (hq : ∀ a w, (∀ w', Relation.ReflTransGen env w w' → Q a w') → S a w) :
    Safe eff env S p w := by
  induction p generalizing w with
  | ret a => exact fun w' hr => hq _ _ fun w'' hr' => h w'' (hr.trans hr')
  | act a k ih => exact fun w' hr r w'' he => ih r (h w' hr r w'' he)

theorem Triple.weaken {Q' : α → W → Prop} {p : Prog A R α} (h : Triple eff env P' p Q)
    (hp : ∀ w, P w → P' w) (hq : ∀ a w, Q a w → Q' a w) : Triple eff env P p Q' :=
  fun w hw => (h w (hp w hw)).mono hq

theorem Triple.ret {a : α} (hp : Stable env P) (h : ∀ w, P w → Q a w) :
    Triple eff env P (pure a) Q :=
  fun _ hw _ hr => h _ (hp.closure hw hr)

theorem Triple.perform {a : A} {T : R a → W → Prop} (hp : Stable env P)
    (ht : ∀ r, Stable env (T r)) (h : ∀ w r w', P w → eff a w r w' → T r w') :
    Triple eff env P (perform a) T :=
  fun _ hw w' hr r w'' he _ hr' => (ht r).closure (h w' r w'' (hp.closure hw hr) he) hr'

theorem Triple.trivial (p : Prog A R α) : Triple eff env P p fun _ _ => True := by
  intro w hw
  clear hw
  induction p generalizing w with
  | ret a => exact fun _ _ => True.intro
  | act a k ih => exact fun _ _ r w'' _ => ih r w''

def Outcome {ε : Type} (Q : α → W → Prop) (E : ε → W → Prop) : Except ε α → W → Prop
  | .ok a => Q a
  | .error e => E e

theorem Triple.bind_except {ε : Type} {p : ExceptT ε (Prog A R) α}
    {f : α → ExceptT ε (Prog A R) β} {E : ε → W → Prop} {T : Except ε β → W → Prop}
    (h : Triple eff env P p.run (Outcome Q E)) (hf : ∀ a, Triple eff env (Q a) (f a).run T)
    (he : ∀ e w, E e w → T (.error e) w) : Triple eff env P (p >>= f).run T := by
  intro w hw
  refine (Safe.mono_ret (h w hw) ?_).bind
  rintro (e | a) w hr
  · exact fun w' he' => he e w' (hr w' he')
  · exact hf a w (hr w .refl)

theorem Triple.lift {ε : Type} {p : Prog A R α} {E : ε → W → Prop} (h : Triple eff env P p Q) :
    Triple eff env P (ExceptT.lift p).run (Outcome Q E) :=
  fun w hw => ((h w hw).mono_ret fun _ _ hr => hr).bind

theorem Triple.bind_perform {ε : Type} {a : A} {f : R a → ExceptT ε (Prog A R) β}
    {T : Except ε β → W → Prop} (hp : Stable env P)
    (h : ∀ w r w', P w → eff a w r w' → Safe eff env T (f r).run w') :
    Triple eff env P (ExceptT.lift (Prog.perform a) >>= f).run T :=
  fun _ hw w' hr r w'' he => h w' r w'' (hp.closure hw hr) he

theorem Triple.attempt {ε ε' : Type} {p : ExceptT ε (Prog A R) α} {T : Except ε α → W → Prop}
    {E : ε' → W → Prop} (h : Triple eff env P p.run T) :
    Triple eff env P (Prog.attempt p).run (Outcome T E) := Triple.lift h

theorem Triple.orThrow {ε ε' : Type} {g : ε → ε'} {p : ExceptT ε (Prog A R) α}
    {T : Except ε' α → W → Prop} (h : Triple eff env P p.run fun r => T (r.mapError g)) :
    Triple eff env P (Prog.orThrow g p).run T :=
  fun w hw => ((h w hw).mono_ret fun _ _ hr => hr).bind

theorem Triple.of_false {p : Prog A R α} (h : ∀ w, ¬ P w) : Triple eff env P p Q :=
  fun w hw => (h w hw).elim

end Rules

end Prog

end RosrustAsync
