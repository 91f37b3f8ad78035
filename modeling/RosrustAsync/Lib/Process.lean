import RosrustAsync.Lib.Prog
import RosrustAsync.Lib.Runs

namespace RosrustAsync

/-!
A process takes messages out of its world one at a time and handles each by a program, while others
change the world between two actions of the program.
-/

structure Process (W L I M A E : Type) (R : A → Type) where
  -- what goes on outside the process
  outside : W → L → Option W
  receive : W → Option (M × W)
  handle : M → Prog A R (Except E Unit)
  -- one action of the handler of a message, with an input from outside; `none` when it panics
  exec : M → I → (a : A) → W → Option (R a × W)

namespace Process

inductive Pc (M A E : Type) (R : A → Type) : Type
  | idle
  | busy (m : M) (p : Prog A R (Except E Unit))
  | stopped

structure Config (W M A E : Type) (R : A → Type) where
  world : W
  pc : Pc M A E R

inductive Label (L I : Type) : Type
  | outside (l : L)
  | start
  | act (input : I)
  | finish

variable {W L I M A E : Type} {R : A → Type} (P : Process W L I M A E R)

/-- A handler that panics or ends in an error stops the process. -/
def step (c : Config W M A E R) : Label L I → Option (Config W M A E R)
  | .outside l => do some { c with world := ← P.outside c.world l }
  | .start =>
    match c.pc, P.receive c.world with
    | .idle, some (m, world) => some ⟨world, .busy m (P.handle m)⟩
    | _, _ => none
  | .act input =>
    match c.pc with
    | .busy m (.act a k) =>
      match P.exec m input a c.world with
      | some (r, world) => some ⟨world, .busy m (k r)⟩
      | none => some { c with pc := .stopped }
    | _ => none
  | .finish =>
    match c.pc with
    | .busy _ (.ret (.ok _)) => some { c with pc := .idle }
    | .busy _ (.ret (.error _)) => some { c with pc := .stopped }
    | _ => none

/-!
A run is restricted by what may go on outside, and by what holds when the handler performs an
action. What is proved of each handler under these restrictions then holds of every run.
-/

section Invariant

variable (Allowed : W → L → Prop) (Meets : M → I → A → W → Prop)

def Ok (c : Config W M A E R) : Label L I → Prop
  | .outside l => Allowed c.world l
  | .act input =>
    match c.pc with
    | .busy m (.act a _) => Meets m input a c.world
    | _ => True
  | _ => True

def effect (m : M) (a : A) (w : W) (r : R a) (w' : W) : Prop :=
  ∃ input, Meets m input a w ∧ P.exec m input a w = some (r, w')

def others (w w' : W) : Prop := ∃ l, Allowed w l ∧ P.outside w l = some w'

/-- `Q` holds between two messages and `D` once the process has stopped, and a handler under way
will end in one of the two. -/
def Live (Q D : W → Prop) (c : Config W M A E R) : Prop :=
  match c.pc with
  | .idle => Q c.world
  | .busy m p => p.Safe (P.effect Meets m) (P.others Allowed)
      (Prog.Outcome (fun _ => Q) fun _ => D) c.world
  | .stopped => D c.world

variable {P Allowed Meets} {Q D : W → Prop}

theorem live_busy {w : W} {m : M} {p : Prog A R (Except E Unit)} :
    P.Live Allowed Meets Q D ⟨w, .busy m p⟩ ↔ p.Safe (P.effect Meets m) (P.others Allowed)
      (Prog.Outcome (fun _ => Q) fun _ => D) w := .rfl

theorem live_step (hidle : Prog.Stable (P.others Allowed) Q)
    (hstopped : Prog.Stable (P.others Allowed) D)
    (hpanic : ∀ m input a w, Meets m input a w → P.exec m input a w = none → D w)
    (hstart : ∀ w m w', Q w → P.receive w = some (m, w') →
      (P.handle m).Safe (P.effect Meets m) (P.others Allowed)
        (Prog.Outcome (fun _ => Q) fun _ => D) w')
    {c c' : Config W M A E R} {l : Label L I} (hc : P.Live Allowed Meets Q D c)
    (hl : Ok Allowed Meets c l) (he : P.step c l = some c') : P.Live Allowed Meets Q D c' := by
  obtain ⟨w, pc⟩ := c
  cases l with
  | outside l =>
    obtain ⟨w', hw, hc'⟩ := Option.bind_eq_some_iff.mp he
    cases hc'
    have hothers : P.others Allowed w w' := ⟨l, hl, hw⟩
    cases pc with
    | idle => exact hidle w w' hc hothers
    | busy m p => exact (live_busy.mp hc).interfere hothers
    | stopped => exact hstopped w w' hc hothers
  | start =>
    simp only [step] at he
    split at he
    · rename_i m w' hm
      cases he
      exact hstart w m w' hc hm
    · cases he
  | act input =>
    simp only [step] at he
    split at he
    · rename_i m a k
      have hm : Meets m input a w := hl
      split at he
      · rename_i r w' hx
        cases he
        exact (live_busy.mp hc).act ⟨input, hm, hx⟩
      · rename_i hx
        cases he
        exact hpanic m input a w hm hx
    · cases he
  | finish =>
    simp only [step] at he
    split at he
    · cases he
      exact (live_busy.mp hc).ret
    · cases he
      exact (live_busy.mp hc).ret
    · cases he

end Invariant

end Process

end RosrustAsync
