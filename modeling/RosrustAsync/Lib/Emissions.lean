import RosrustAsync.Lib.Process

namespace RosrustAsync

/-! What a program lets out, on whichever path its actions' answers take it. -/

namespace Prog

variable {A : Type} {R : A → Type} {α β γ ε ε' : Type} (out : A → Option γ)

def Emits (Q : α → Prop) : Prog A R α → List γ → Prop
  | ret a, l => l = [] ∧ Q a
  | act a k, l => ∃ l', l = (out a).toList ++ l' ∧ ∀ r, (k r).Emits Q l'

variable {out} {Q : α → Prop} {S : β → Prop} {l l' : List γ}

theorem Emits.mono {Q' : α → Prop} {p : Prog A R α} (h : p.Emits out Q l) (hq : ∀ a, Q a → Q' a) :
    p.Emits out Q' l := by
  induction p generalizing l with
  | ret a => exact ⟨h.1, hq a h.2⟩
  | act a k ih =>
    obtain ⟨l', rfl, hk⟩ := h
    exact ⟨l', rfl, fun r => ih r (hk r)⟩

theorem Emits.bind {p : Prog A R α} {f : α → Prog A R β} (h : p.Emits out Q l)
    (hf : ∀ a, Q a → (f a).Emits out S l') : (p.bind f).Emits out S (l ++ l') := by
  induction p generalizing l with
  | ret a =>
    obtain ⟨rfl, hq⟩ := h
    exact hf a hq
  | act a k ih =>
    obtain ⟨l₁, rfl, hk⟩ := h
    exact ⟨l₁ ++ l', List.append_assoc .., fun r => ih r (hk r)⟩

/-! Programs that may fail. A mute one lets nothing out, whether it fails or not. -/

variable (out) in
def Mute (p : ExceptT ε (Prog A R) α) : Prop := p.run.Emits out (fun _ => True) []

namespace Mute

variable {p : ExceptT ε (Prog A R) α} {f : α → ExceptT ε (Prog A R) β}

theorem pure (a : α) : Mute out (pure a : ExceptT ε (Prog A R) α) := ⟨rfl, trivial⟩

theorem throw (e : ε) : Mute out (throw e : ExceptT ε (Prog A R) α) := ⟨rfl, trivial⟩

theorem ofExcept (x : Except ε α) : Mute out (ofExcept x : ExceptT ε (Prog A R) α) := by
  cases x with
  | error e => exact .throw e
  | ok a => exact .pure a

theorem perform {a : A} (h : out a = none) :
    Mute out (ExceptT.lift (Prog.perform a) : ExceptT ε (Prog A R) (R a)) :=
  ⟨[], by rw [h]; rfl, fun _ => ⟨rfl, trivial⟩⟩

theorem bind (h : Mute out p) (hf : ∀ a, Mute out (f a)) : Mute out (p >>= f) := by
  refine Emits.bind (l := []) h ?_
  rintro (e | a) -
  · exact ⟨rfl, trivial⟩
  · exact hf a

theorem attempt (h : Mute out p) : Mute out (attempt p : ExceptT ε' (Prog A R) (Except ε α)) :=
  Emits.bind (l := []) h fun _ _ => ⟨rfl, trivial⟩

theorem orThrow {g : ε → ε'} (h : Mute out p) : Mute out (orThrow g p) :=
  Emits.bind (l := []) h fun _ _ => ⟨rfl, trivial⟩

theorem forM {xs : List β} {g : β → ExceptT ε (Prog A R) PUnit} (h : ∀ x, Mute out (g x)) :
    Mute out (xs.forM g) := by
  induction xs with
  | nil => exact .pure _
  | cons x xs ih => exact .bind (h x) fun _ => ih

/-- What is let out after a mute program that does not fail. -/
theorem emits {Q : Except ε α → Prop} {S : Except ε β → Prop} (h : p.run.Emits out Q [])
    (hok : ∀ r, Q r → r.isOk) (hf : ∀ a, (f a).run.Emits out S l) :
    (p >>= f).run.Emits out S l := by
  refine Emits.bind (l := []) h ?_
  rintro (e | a) hq
  · cases hok _ hq
  · exact hf a

end Mute

end Prog

namespace Process

open Runs

structure Account (M γ : Type) where
  arrived : List M
  taken : List M
  emitted : List γ

variable {W L I M A E γ : Type} {R : A → Type} (P : Process W L I M A E R) (out : A → Option γ)
  (queue : W → List M)

def arrives (c : Config W M A E R) : Label L I → List M
  | .outside l =>
    match P.outside c.world l with
    | some world => (queue world).drop (queue c.world).length
    | none => []
  | _ => []

def takes (c : Config W M A E R) : Label L I → List M
  | .start =>
    match c.pc, P.receive c.world with
    | .idle, some (m, _) => [m]
    | _, _ => []
  | _ => []

/-- An action that panics lets nothing out. -/
def emits (c : Config W M A E R) : Label L I → List γ
  | .act input =>
    match c.pc with
    | .busy m (.act a _) =>
      match P.exec m input a c.world with
      | some _ => (out a).toList
      | none => []
    | _ => []
  | _ => []

def accountedStep (x : Config W M A E R × Account M γ) (l : Label L I) :
    Option (Config W M A E R × Account M γ) :=
  (P.step x.1 l).map fun c => (c, ⟨x.2.arrived ++ P.arrives queue x.1 l, x.2.taken ++ P.takes x.1 l,
    x.2.emitted ++ P.emits out x.1 l⟩)

variable (expected : M → Option γ)

/-- What was let out is what the messages that were taken asked for, one by one and in order; the
answer to the last may still be owed. -/
def Answered (c : Config W M A E R) (account : Account M γ) : Prop :=
  match c.pc with
  | .idle => account.emitted = account.taken.filterMap expected
  | .busy m p => ∃ before emitted l, account.taken = before ++ [m] ∧
      account.emitted = before.filterMap expected ++ emitted ∧
      emitted ++ l = (expected m).toList ∧ p.Emits out (fun _ => True) l
  | .stopped => ∃ rest : Option γ,
      account.emitted ++ rest.toList = account.taken.filterMap expected

/-- Messages wait their turn in a queue that only the outside adds to. -/
structure Queued : Prop where
  outside : ∀ w l w', P.outside w l = some w' → queue w <+: queue w'
  receive : ∀ w m w', P.receive w = some (m, w') → queue w = m :: queue w'
  exec : ∀ m input a w r w', P.exec m input a w = some (r, w') → queue w' = queue w

variable {P out queue expected}

theorem filterMap_concat (f : M → Option γ) (ms : List M) (m : M) :
    (ms ++ [m]).filterMap f = ms.filterMap f ++ (f m).toList := by
  rw [List.filterMap_append]
  cases hf : f m <;> simp [hf]

theorem Answered.owed {c : Config W M A E R} {account : Account M γ}
    (h : Answered out expected c account) :
    ∃ rest : Option γ, account.emitted ++ rest.toList = account.taken.filterMap expected := by
  obtain ⟨w, pc⟩ := c
  cases pc with
  | idle => exact ⟨none, (List.append_nil _).trans h⟩
  | busy m p =>
    obtain ⟨before, emitted, l, htaken, hemitted, hl, -⟩ := h
    have hone : (expected m).toList.length ≤ 1 := by cases expected m <;> simp
    rw [htaken, hemitted, filterMap_concat, ← hl]
    rw [← hl, List.length_append] at hone
    match l with
    | [] => exact ⟨none, by simp⟩
    | [b] => exact ⟨some b, by simp⟩
    | _ :: _ :: _ =>
      simp only [List.length_cons] at hone
      omega
  | stopped => exact h

theorem step_queue (hQ : P.Queued queue) {x y : Config W M A E R × Account M γ} {l : Label L I}
    (h : x.2.arrived = x.2.taken ++ queue x.1.world)
    (hs : P.accountedStep out queue x l = some y) : y.2.arrived = y.2.taken ++ queue y.1.world := by
  obtain ⟨c, hc, rfl⟩ := Option.map_eq_some_iff.mp hs
  obtain ⟨⟨w, pc⟩, account⟩ := x
  simp only at h hc ⊢
  cases l with
  | outside l =>
    obtain ⟨w', hw, hc⟩ := Option.bind_eq_some_iff.mp hc
    cases hc
    obtain ⟨more, hmore⟩ := hQ.outside w l w' hw
    simp only [arrives, takes, hw, h, ← hmore, List.append_nil, List.drop_left, List.append_assoc]
  | start =>
    simp only [step] at hc
    split at hc
    · rename_i m w' hm
      cases hc
      simp only [arrives, takes, hm, h, hQ.receive w m w' hm, List.append_nil, List.append_assoc,
        List.singleton_append]
    · cases hc
  | act input =>
    simp only [step] at hc
    split at hc
    · split at hc <;> cases hc
      · rename_i r w' hx
        simp only [arrives, takes, List.append_nil, hQ.exec _ _ _ _ _ _ hx, h]
      · simp only [arrives, takes, List.append_nil, h]
    · cases hc
  | finish =>
    simp only [step] at hc
    split at hc <;> cases hc <;> simp only [arrives, takes, List.append_nil, h]

theorem step_answered
    (hP : ∀ m, (P.handle m).Emits out (fun _ => True) (expected m).toList)
    {x y : Config W M A E R × Account M γ} {l : Label L I} (h : Answered out expected x.1 x.2)
    (hs : P.accountedStep out queue x l = some y) : Answered out expected y.1 y.2 := by
  obtain ⟨c, hc, rfl⟩ := Option.map_eq_some_iff.mp hs
  obtain ⟨⟨w, pc⟩, account⟩ := x
  simp only at hc ⊢
  cases l with
  | outside l =>
    obtain ⟨w', hw, hc⟩ := Option.bind_eq_some_iff.mp hc
    cases hc
    simpa only [Answered, takes, emits, List.append_nil] using h
  | start =>
    simp only [step] at hc
    split at hc
    · rename_i m w' hm
      cases hc
      simp only [Answered, takes, emits, hm]
      exact ⟨account.taken, [], _, rfl, by rw [List.append_nil, List.append_nil]; exact h, rfl, hP m⟩
    · cases hc
  | act input =>
    simp only [step] at hc
    split at hc
    · rename_i m a k
      have howed := h.owed
      obtain ⟨before, emitted, l, htaken, hemitted, hl, l', rfl, hk⟩ := h
      split at hc <;> cases hc
      · rename_i r w' hx
        simp only [Answered, takes, emits, hx, List.append_nil]
        refine ⟨before, emitted ++ (out a).toList, l', htaken, ?_, ?_, hk r⟩
        · rw [hemitted, List.append_assoc]
        · rw [List.append_assoc, hl]
      · rename_i hx
        simp only [Answered, takes, emits, hx, List.append_nil]
        exact howed
    · cases hc
  | finish =>
    simp only [step] at hc
    have hdone : ∀ {m : M} {result : Except E Unit}, pc = .busy m (.ret result) →
        account.emitted = account.taken.filterMap expected := by
      rintro m result rfl
      obtain ⟨before, emitted, l, htaken, hemitted, hl, rfl, -⟩ := h
      rw [htaken, hemitted, filterMap_concat, ← hl, List.append_nil]
    split at hc <;> cases hc
    · simpa only [Answered, takes, emits, List.append_nil] using hdone rfl
    · simp only [Answered, takes, emits, List.append_nil]
      exact ⟨none, by simpa using hdone rfl⟩

end Process

end RosrustAsync
