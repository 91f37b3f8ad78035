import RosrustAsync.Lib.Prog

namespace RosrustAsync.Prog

variable {A : Type} {R : A → Type} {α β γ : Type}

theorem bind_ret (p : Prog A R α) : p.bind ret = p := by
  induction p with
  | ret a => rfl
  | act a k ih => exact congrArg (act a) (funext ih)

theorem bind_bind (p : Prog A R α) (f : α → Prog A R β) (g : β → Prog A R γ) :
    (p.bind f).bind g = p.bind fun a => (f a).bind g := by
  induction p with
  | ret a => rfl
  | act a k ih => exact congrArg (act a) (funext ih)

instance : LawfulMonad (Prog A R) := .mk' (Prog A R) bind_ret (fun _ _ => rfl) bind_bind

@[simp] theorem run_ofExcept {ε : Type} (x : Except ε α) :
    (ofExcept x : ExceptT ε (Prog A R) α).run = pure x := by
  cases x with
  | error e => rfl
  | ok a => rfl

/-- Whatever its actions answer, the result of the program satisfies `φ`. -/
def Returns (φ : α → Prop) : Prog A R α → Prop
  | ret a => φ a
  | act _ k => ∀ r, (k r).Returns φ

theorem Returns.bind_congr {φ : α → Prop} {p : Prog A R α} {f g : α → Prog A R β}
    (h : p.Returns φ) (hfg : ∀ a, φ a → f a = g a) : p.bind f = p.bind g := by
  induction p with
  | ret a => exact hfg a h
  | act a k ih => exact congrArg (act a) (funext fun r => ih r (h r))

end RosrustAsync.Prog
