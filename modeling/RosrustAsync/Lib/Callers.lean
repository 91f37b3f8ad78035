import Mathlib.Logic.Function.Basic
import RosrustAsync.Lib.Actor

namespace RosrustAsync.Actor

open Prog

/-! Actors that can be told to stop, and the callers they owe an answer. -/

variable {S K V C M O : Type} {Ans : C → Type}

/-- Told to stop, the actor runs `postStop` and handles nothing after it. -/
def Behaviour.stoppable (B : Behaviour S K V C M Ans)
    (postStop : O → Program S K V C Ans MessagingErr Unit) : Behaviour S K V C (M ⊕ O) Ans where
  handle
    | .inl m => B.handle m
    | .inr order => do
      postStop order
      throw .channelClosed
  registers
    | .inl m => B.registers m
    | .inr _ => none
  dropMsg key := .inl (B.dropMsg key)
  guardOf := B.guardOf
  cloneable := B.cloneable

section Steps

variable (B : Behaviour S K V C (M ⊕ O) Ans)

/-- The stop is handled before what is in the mailbox. -/
def clientOrStop (w : World S K (M ⊕ O)) : ClientLabel (M ⊕ O) ⊕ O → Option (World S K (M ⊕ O))
  | .inl l => clientStep B w l
  | .inr order => some { w with mailbox := .inr order :: w.mailbox }

def stoppableProcess : Process (World S K (M ⊕ O)) (ClientLabel (M ⊕ O) ⊕ O) ((c : C) → Ans c)
    (M ⊕ O) (Act S K V C) MessagingErr (Act.Res Ans) :=
  { process B with outside := clientOrStop B }

end Steps

def next (c : Config S K V C M Ans) : Option (Act S K V C) :=
  match c.pc with
  | .busy _ (.act a _) => some a
  | _ => none

def performed {L : Type} (c : Config S K V C M Ans) :
    Process.Label L ((c : C) → Ans c) → Option (Act S K V C)
  | .act _ => next c
  | _ => none

def isStopped (c : Config S K V C M Ans) : Bool :=
  match c.pc with
  | .stopped => true
  | _ => false

def tell (m : M) (c : Config S K V C M Ans) : Config S K V C M Ans :=
  { c with world := { c.world with mailbox := c.world.mailbox ++ [m] } }

/-- The program answers at `port` before it ends, unless it ends in an error. -/
def Sends (port : ℕ) : Prog (Act S K V C) (Act.Res Ans) (Except MessagingErr Unit) → Prop
  | .ret r => ∃ e, r = .error e
  | .act a k => (∃ value, a = .send port value) ∨ ∀ r, Sends port (k r)

/-- Who waits at `port` will be answered, or find that the actor has stopped. -/
def Owes (B : Behaviour S K V C M Ans) (port : ℕ) (c : Config S K V C M Ans) : Prop :=
  match c.pc with
  | .idle => ∃ m ∈ c.world.mailbox, Sends port (B.handle m).run
  | .busy _ p => Sends port p ∨ ∃ m ∈ c.world.mailbox, Sends port (B.handle m).run
  | .stopped => True

variable {B : Behaviour S K V C (M ⊕ O) Ans} {port : ℕ} {c c' : Config S K V C (M ⊕ O) Ans}

theorem owes_tell {B : Behaviour S K V C M Ans} {c : Config S K V C M Ans} {m : M}
    (hm : Sends port (B.handle m).run) : Owes B port (tell m c) := by
  obtain ⟨w, pc⟩ := c
  have hmem : m ∈ w.mailbox ++ [m] := by simp
  cases pc with
  | idle => exact ⟨m, hmem, hm⟩
  | busy m' p => exact .inr ⟨m, hmem, hm⟩
  | stopped => trivial

theorem Owes.mono {B : Behaviour S K V C M Ans} {c c' : Config S K V C M Ans} (h : Owes B port c)
    (hpc : c'.pc = c.pc) (hmail : ∀ m ∈ c.world.mailbox, m ∈ c'.world.mailbox) :
    Owes B port c' := by
  obtain ⟨w, pc⟩ := c
  obtain ⟨w', pc'⟩ := c'
  cases hpc
  cases pc with
  | idle =>
    obtain ⟨m, hmem, hm⟩ := h
    exact ⟨m, hmail m hmem, hm⟩
  | busy m' p => exact h.imp_right fun ⟨m, hmem, hm⟩ => ⟨m, hmail m hmem, hm⟩
  | stopped => trivial

theorem Owes.tell {B : Behaviour S K V C M Ans} {c : Config S K V C M Ans} (h : Owes B port c)
    {m : M} : Owes B port (tell m c) :=
  h.mono rfl fun _ hmem => List.mem_append_left _ hmem

theorem owes_update {B : Behaviour S K V C M Ans} {I : Type} [DecidableEq I]
    {configs : I → Config S K V C M Ans} {i : I} {c : Config S K V C M Ans} {Q : I → Prop}
    (hc : Owes B port (configs i) → Owes B port c ∨ Q i) (j : I) (h : Owes B port (configs j)) :
    Owes B port (Function.update configs i c j) ∨ Q j :=
  (Function.forall_update_iff configs fun j c => Owes B port (configs j) → Owes B port c ∨ Q j).mpr
    ⟨hc, fun _ _ => .inl⟩ j h

theorem settle_mailbox (w : World S K M) (guard : ℕ) : (w.settle guard).mailbox = w.mailbox := by
  rw [World.settle_eq]

theorem exec_mailbox {B : Behaviour S K V C M Ans} {m : M} {answer : (c : C) → Ans c}
    {a : Act S K V C} {w w' : World S K M} {r : Act.Res Ans a}
    (h : exec B m answer a w = some (r, w')) : w'.mailbox = w.mailbox := by
  cases a with
  | upgrade g =>
    simp only [exec] at h
    split at h <;> cases h <;> rfl
  | channel capacity =>
    simp only [exec] at h
    split at h
    · cases h
      rfl
    · cases h
  | release g =>
    cases h
    exact settle_mailbox _ g
  | send port value =>
    simp only [exec, reply] at h
    split at h
    · cases h
      split
      · exact settle_mailbox _ _
      · rfl
    · cases h
      split <;> rfl
  | _ =>
    cases h
    rfl

theorem mem_clientOrStop {w w' : World S K (M ⊕ O)} {l : ClientLabel (M ⊕ O) ⊕ O}
    (h : clientOrStop B w l = some w') {m : M ⊕ O} (hm : m ∈ w.mailbox) : m ∈ w'.mailbox := by
  obtain l | order := l
  · cases l with
    | enqueue m' =>
      cases h
      exact List.mem_append_left _ hm
    | clone i =>
      obtain ⟨handle, -, h⟩ := Option.bind_eq_some_iff.mp h
      split at h
      · cases h
        exact hm
      · cases h
    | dropHandle i =>
      obtain ⟨handle, -, h⟩ := Option.bind_eq_some_iff.mp h
      cases h
      rw [settle_mailbox]
      exact hm
    | guardDrop i =>
      obtain ⟨g, -, h⟩ := Option.bind_eq_some_iff.mp h
      obtain ⟨key, -, h⟩ := Option.bind_eq_some_iff.mp h
      cases h
      show m ∈ if g ∈ w.disarmed then w.mailbox else w.mailbox ++ [B.dropMsg key]
      split
      · exact hm
      · exact List.mem_append_left _ hm
    | abandon port =>
      cases h
      exact hm
  · cases h
    exact List.mem_cons_of_mem _ hm

theorem owes_step {l : Process.Label (ClientLabel (M ⊕ O) ⊕ O) ((c : C) → Ans c)}
    (h : Owes B port c) (he : (stoppableProcess B).step c l = some c') :
    Owes B port c' ∨ ∃ value, performed c l = some (.send port value) := by
  obtain ⟨w, pc⟩ := c
  cases l with
  | outside l =>
    obtain ⟨w', hw, hc'⟩ := Option.bind_eq_some_iff.mp he
    cases hc'
    exact .inl (h.mono rfl fun m hm => mem_clientOrStop hw hm)
  | start =>
    simp only [Process.step] at he
    split at he
    · rename_i m w' hm
      cases he
      obtain ⟨mailbox, hmail, rfl⟩ := receive_eq_some hm
      obtain ⟨m', hmem, hm'⟩ := h
      rw [hmail] at hmem
      cases hmem with
      | head => exact .inl (.inl hm')
      | tail _ hmem => exact .inl (.inr ⟨m', hmem, hm'⟩)
    · cases he
  | act input =>
    simp only [Process.step] at he
    split at he
    · rename_i m a k
      split at he
      · rename_i r w' hx
        cases he
        obtain (hsend | hk) | ⟨m', hmem, hm'⟩ := h
        · exact .inr (hsend.imp fun value ha => congrArg some ha)
        · exact .inl (.inl (hk r))
        · have hmail : w'.mailbox = w.mailbox := exec_mailbox hx
          exact .inl (.inr ⟨m', by rwa [hmail], hm'⟩)
      · cases he
        exact .inl trivial
    · cases he
  | finish =>
    simp only [Process.step] at he
    split at he
    · cases he
      obtain ⟨e, he⟩ | hmail := h
      · cases he
      · exact .inl hmail
    · cases he
      exact .inl trivial
    · cases he

/-- An actor that owes an answer can go on by itself, whatever its calls come to. -/
theorem Owes.exists_step (answer : (c : C) → Ans c) (h : Owes B port c)
    (hrun : isStopped c = false) : ∃ l, (l = .start ∨ l = .act answer ∨ l = .finish) ∧
      ((stoppableProcess B).step c l).isSome := by
  obtain ⟨w, pc⟩ := c
  cases pc with
  | idle =>
    obtain ⟨m, hmem, -⟩ := h
    obtain ⟨m', mailbox, hmail⟩ : ∃ m' mailbox, w.mailbox = m' :: mailbox :=
      List.exists_cons_of_ne_nil (List.ne_nil_of_mem hmem)
    have hreceive : (stoppableProcess B).receive w = some (m', { w with mailbox }) := by
      show receive w = _
      unfold receive
      rw [hmail]
    refine ⟨.start, .inl rfl, ?_⟩
    simp only [Process.step, hreceive, Option.isSome_some]
  | busy m p =>
    cases p with
    | ret r =>
      refine ⟨.finish, .inr (.inr rfl), ?_⟩
      cases r <;> rfl
    | act a k =>
      refine ⟨.act answer, .inr (.inl rfl), ?_⟩
      simp only [Process.step]
      split <;> rfl
  | stopped => cases hrun

end RosrustAsync.Actor
