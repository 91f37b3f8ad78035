import Mathlib.Data.Finset.Insert
import RosrustAsync.Lib.Broadcast
import RosrustAsync.Lib.Process

namespace RosrustAsync.Actor

/-!
An actor that takes the messages of its mailbox one at a time, each by a program whose actions
interleave with its clients. Clients own handles, each an `Arc` of a guard with a key; the actor
keeps the `Weak` of a guard as the guard's number. The last `Arc` of an armed guard leaves behind a
drop message in the mailbox.
-/

inductive MessagingErr : Type
  | channelClosed
  deriving DecidableEq

inductive Act (S K V C : Type) : Type
  | get
  | set (state : S)
  | upgrade (guard : ℕ)
  | disarm (guard : ℕ)
  | release (guard : ℕ)
  | newGuard (key : K)
  | channel (capacity : Option ℕ)
  | call (c : C)
  | send (port : ℕ) (value : V)

def Act.Res {S K V C : Type} (Ans : C → Type) : Act S K V C → Type
  | .get => S
  | .upgrade _ => Bool
  | .newGuard _ => ℕ
  | .channel _ => ℕ
  | .call c => Ans c
  | .send _ _ => Except MessagingErr Unit
  | .set _ | .disarm _ | .release _ => Unit

abbrev Program (S K V C : Type) (Ans : C → Type) (ε : Type) : Type → Type :=
  ExceptT ε (Prog (Act S K V C) (Act.Res Ans))

section Actions

variable {S K V C : Type} {Ans : C → Type} {ε : Type}

def getState : Program S K V C Ans ε S := ExceptT.lift (Prog.perform Act.get)

def setState (state : S) : Program S K V C Ans ε Unit :=
  ExceptT.lift (Prog.perform (Act.set state))

def modifyState (f : S → S) : Program S K V C Ans ε Unit := do setState (f (← getState))

def upgrade (guard : ℕ) : Program S K V C Ans ε Bool :=
  ExceptT.lift (Prog.perform (Act.upgrade guard))

def disarm (guard : ℕ) : Program S K V C Ans ε Unit :=
  ExceptT.lift (Prog.perform (Act.disarm guard))

/-- The end of an `Arc` that the running handler owns. -/
def release (guard : ℕ) : Program S K V C Ans ε Unit :=
  ExceptT.lift (Prog.perform (Act.release guard))

def newGuard (key : K) : Program S K V C Ans ε ℕ := ExceptT.lift (Prog.perform (Act.newGuard key))

def channel (capacity : Option ℕ) : Program S K V C Ans ε ℕ :=
  ExceptT.lift (Prog.perform (Act.channel capacity))

def call (c : C) : Program S K V C Ans ε (Ans c) := ExceptT.lift (Prog.perform (Act.call c))

def send (port : ℕ) (value : V) : Program S K V C Ans MessagingErr Unit :=
  ExceptT.mk (Prog.perform (Act.send port value))

end Actions

structure Behaviour (S K V C M : Type) (Ans : C → Type) where
  handle : M → Program S K V C Ans MessagingErr Unit
  -- the key that a registration message registers
  registers : M → Option K
  -- what a guard that is dropped sends
  dropMsg : K → M
  -- the guard in a reply
  guardOf : V → Option ℕ
  cloneable : K → Bool

structure World (S K M : Type) where
  state : S
  guards : List K
  disarmed : Finset ℕ
  held : List ℕ
  handles : List (K × ℕ)
  dropping : List ℕ
  channels : ℕ
  mailbox : List M
  closed : Finset ℕ

namespace World

variable {S K M : Type}

def init (state : S) : World S K M := ⟨state, [], ∅, [], [], [], 0, [], ∅⟩

def strong (self : World S K M) (guard : ℕ) : ℕ :=
  self.held.count guard + (self.handles.map Prod.snd).count guard

/-- A guard whose last `Arc` is gone is about to be dropped. -/
def settle (self : World S K M) (guard : ℕ) : World S K M :=
  if self.strong guard = 0 then { self with dropping := self.dropping ++ [guard] } else self

theorem settle_eq (self : World S K M) (guard : ℕ) : self.settle guard =
    { self with dropping := self.dropping ++ if self.strong guard = 0 then [guard] else [] } := by
  unfold settle
  split <;> simp

def release (self : World S K M) (guard : ℕ) : World S K M :=
  { self with held := self.held.erase guard }.settle guard

def deliver (self : World S K M) (key : K) (guard : ℕ) : World S K M :=
  { self with held := self.held.erase guard, handles := self.handles ++ [(key, guard)] }

end World

inductive ClientLabel (M : Type) : Type
  | enqueue (m : M)
  | clone (i : ℕ)
  | dropHandle (i : ℕ)
  | guardDrop (i : ℕ)
  | abandon (port : ℕ)

/-- The capacities that the channel accepts; `none` is an unbounded channel. -/
def accepts : Option ℕ → Prop
  | some capacity => Broadcast.channel (α := Unit) capacity ≠ none
  | none => True

instance : DecidablePred accepts
  | some capacity => inferInstanceAs (Decidable (¬ Broadcast.channel (α := Unit) capacity = none))
  | none => inferInstanceAs (Decidable True)

section Steps

variable {S K V C M : Type} {Ans : C → Type} (B : Behaviour S K V C M Ans)

/-- The answer to a reply and where the guard in it goes: to the caller as a handle, or nowhere when
the caller is gone. -/
def reply (m : M) (port : ℕ) (value : V) (w : World S K M) :
    Except MessagingErr Unit × World S K M :=
  if port ∈ w.closed then
    (.error .channelClosed, match B.guardOf value with | some g => w.release g | none => w)
  else
    (.ok (), match B.registers m, B.guardOf value with
      | some key, some g => w.deliver key g
      | _, _ => w)

/-- One action of the handler of `m`; `none` when it panics. -/
def exec (m : M) (answer : (c : C) → Ans c) : (a : Act S K V C) → World S K M →
    Option (Act.Res Ans a × World S K M)
  | .get, w => some (w.state, w)
  | .set state, w => some ((), { w with state })
  | .upgrade g, w =>
    if 0 < w.strong g then some (true, { w with held := g :: w.held }) else some (false, w)
  | .disarm g, w => some ((), { w with disarmed := insert g w.disarmed })
  | .release g, w => some ((), w.release g)
  | .newGuard key, w =>
    some (w.guards.length,
      { w with guards := w.guards ++ [key], held := w.guards.length :: w.held })
  | .channel capacity, w =>
    if accepts capacity then some (w.channels, { w with channels := w.channels + 1 }) else none
  | .call c, w => some (answer c, w)
  | .send port value, w => some (reply B m port value w)

variable {B} in
theorem exec_ne_none {m : M} {answer : (c : C) → Ans c} {a : Act S K V C} {w : World S K M}
    (h : ∀ capacity, a = .channel capacity → accepts capacity) : exec B m answer a w ≠ none := by
  cases a with
  | channel capacity => simp [exec, h capacity rfl]
  | upgrade g =>
    simp only [exec]
    split <;> simp
  | _ => simp [exec]

def clientStep (w : World S K M) : ClientLabel M → Option (World S K M)
  | .enqueue m => some { w with mailbox := w.mailbox ++ [m] }
  | .clone i => do
    let handle ← w.handles[i]?
    if B.cloneable handle.1 then some { w with handles := w.handles ++ [handle] } else none
  | .dropHandle i => do
    let handle ← w.handles[i]?
    some ({ w with handles := w.handles.eraseIdx i }.settle handle.2)
  | .guardDrop i => do
    let g ← w.dropping[i]?
    let key ← w.guards[g]?
    some { w with
      dropping := w.dropping.eraseIdx i
      mailbox := if g ∈ w.disarmed then w.mailbox else w.mailbox ++ [B.dropMsg key] }
  | .abandon port => some { w with closed := insert port w.closed }

def receive (w : World S K M) : Option (M × World S K M) :=
  match w.mailbox with
  | m :: mailbox => some (m, { w with mailbox })
  | [] => none

theorem receive_eq_some {w w' : World S K M} {m : M} (h : receive w = some (m, w')) :
    ∃ mailbox, w.mailbox = m :: mailbox ∧ w' = { w with mailbox } := by
  unfold receive at h
  split at h
  · rename_i m' mailbox hm
    cases h
    exact ⟨mailbox, hm, rfl⟩
  · cases h

def process : Process (World S K M) (ClientLabel M) ((c : C) → Ans c) M (Act S K V C) MessagingErr
    (Act.Res Ans) where
  outside := clientStep B
  receive := receive
  handle m := (B.handle m).run
  exec := exec B

variable {B} in
theorem effect_iff {Meets : M → ((c : C) → Ans c) → Act S K V C → World S K M → Prop} {m : M}
    {a : Act S K V C} {w w' : World S K M} {r : Act.Res Ans a} :
    (process B).effect Meets m a w r w' ↔
      ∃ answer, Meets m answer a w ∧ exec B m answer a w = some (r, w') := .rfl

end Steps

abbrev Config (S K V C M : Type) (Ans : C → Type) : Type :=
  Process.Config (World S K M) M (Act S K V C) MessagingErr (Act.Res Ans)

abbrev Label (C M : Type) (Ans : C → Type) : Type :=
  Process.Label (ClientLabel M) ((c : C) → Ans c)

end RosrustAsync.Actor
