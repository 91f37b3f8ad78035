import Mathlib.Data.List.AList
import RosrustAsync.Lib.Watch

namespace RosrustAsync

namespace Prog

variable {A : Type} {R : A → Type} {φ : A → Prop} {ε α β : Type}

/-- Whatever its actions answer, the program performs only such as satisfy `φ`. -/
def All (φ : A → Prop) : Prog A R α → Prop
  | ret _ => True
  | act a k => φ a ∧ ∀ r, (k r).All φ

theorem All.bind {p : Prog A R α} {f : α → Prog A R β} (hp : p.All φ) (hf : ∀ a, (f a).All φ) :
    (p.bind f).All φ := by
  induction p with
  | ret a => exact hf a
  | act a k ih => exact ⟨hp.1, fun r => ih r (hp.2 r)⟩

theorem All.bind_except {p : ExceptT ε (Prog A R) α} {f : α → ExceptT ε (Prog A R) β}
    (hp : p.run.All φ) (hf : ∀ a, (f a).run.All φ) : (p >>= f).run.All φ := by
  refine hp.bind ?_
  rintro (e | a)
  · trivial
  · exact hf a

theorem All.perform_bind {a : A} {f : R a → ExceptT ε (Prog A R) β} (ha : φ a)
    (hf : ∀ r, (f r).run.All φ) : (ExceptT.lift (Prog.perform a) >>= f).run.All φ :=
  ⟨ha, hf⟩

theorem All.attempt {ε' : Type} {p : ExceptT ε (Prog A R) α} (hp : p.run.All φ) :
    (Prog.attempt p : ExceptT ε' (Prog A R) (Except ε α)).run.All φ :=
  hp.bind fun _ => trivial

end Prog

namespace Actor

open Prog Runs

/-!
The program that an actor runs when it stops, after the last message, while its clients go on.
-/

variable {S K V C M R : Type} {Ans : C → Type}

/-- The calls with their answers, and what the callee makes of them. -/
def recorded (master : (c : C) → Ans c → R → R) (c : C) (a : Ans c)
    (g : List (Σ c, Ans c) × R) : List (Σ c, Ans c) × R := (g.1 ++ [⟨c, a⟩], master c a g.2)

/-- No message is handled any more. -/
def Stopping {W L I A : Type} {Res : A → Type} (_ : Process.Config W M A MessagingErr Res) :
    Process.Label L I → Prop
  | .outside _ | .act _ => True
  | .start | .finish => False

def Silent (B : Behaviour S K V C M Ans) (w : World S K M) (guard : ℕ) : Prop :=
  ∀ i w', w.dropping[i]? = some guard → clientStep B w (.guardDrop i) = some w' →
    w'.mailbox = w.mailbox

/-- From every point of a run of `p` it comes to its end, where it has made each of `calls` once.
The callee is left with nothing if all of them succeeded, and those of `guards` that have handles
left send nothing when these are dropped later. -/
def CleansUp [EmptyCollection R] (B : Behaviour S K V C M Ans) (master : (c : C) → Ans c → R → R)
    (Succeeds : (c : C) → Ans c → Prop) (p : Program S K V C Ans MessagingErr Unit)
    (w : World S K M) (reg : R) (calls : List C) (guards : List ℕ) : Prop :=
  ∀ m labels c, Run (watched B (recorded master)).step Stopping ⟨(w, [], reg), .busy m p.run⟩
      labels c →
    (∀ answer, ∃ n c' r, Run (watched B (recorded master)).step Stopping c
      (List.replicate n (.act answer)) c' ∧ c'.pc = .busy m (.ret r)) ∧
    ∀ r, c.pc = .busy m (.ret r) → r = .ok () ∧ (c.world.2.1.map Sigma.fst).Perm calls ∧
      ((∀ x ∈ c.world.2.1, Succeeds x.1 x.2) → c.world.2.2 = ∅) ∧
      ∀ guard ∈ guards, 0 < c.world.1.strong guard → ∀ labels' c',
        Run (watched B (recorded master)).step Stopping c labels' c' → Silent B c'.world.1 guard

section Rules

variable {B : Behaviour S K V C M Ans} {master : (c : C) → Ans c → R → R} {ε α : Type} {m : M}
  {state : S} {log : List (Σ c, Ans c)} {reg : R} {spent guards : List ℕ} {calls : List C}

def AnyAnswer {G : Type} (_ : M) (c : C) (_ : Ans c) (_ : G) : Prop := True

def Channelless : Act S K V C → Prop
  | .channel _ => False
  | _ => True

/-- What the program has added to the log, and the guards it has seen off. -/
def Cleaned (master : (c : C) → Ans c → R → R) (log : List (Σ c, Ans c)) (reg : R)
    (spent : List ℕ) (calls : List C) (guards : List ℕ) (w : World S K M × List (Σ c, Ans c) × R) :
    Prop :=
  ∃ (made : List (Σ c, Ans c)) (state : S), made.map Sigma.fst = calls ∧
    Sees state (log ++ made, made.foldl (fun reg x => master x.1 x.2 reg) reg) (guards ++ spent) w

variable (B master m) in
/-- `p` calls `calls` in turn and sees `guards` off, whatever is answered. -/
structure Cleans (p : Program S K V C Ans ε α) (calls : List C) (guards : List ℕ)
    (T : Except ε α → Prop) : Prop where
  follows : ∀ state log reg spent, Follows B (recorded master) AnyAnswer m
    (Sees state (log, reg) spent) p fun r w => T r ∧ Cleaned master log reg spent calls guards w
  channelless : p.run.All Channelless

theorem Sees.cleaned {w : World S K M × List (Σ c, Ans c) × R} (hw : Sees state (log, reg) spent w) :
    Cleaned master log reg spent [] [] w := by
  refine ⟨[], state, rfl, ?_⟩
  simpa using hw

theorem cleans_pure (a : α) : Cleans (ε := ε) B master m (pure a) [] [] (· = .ok a) where
  follows _ _ _ _ := carries_pure fun _ hw => ⟨rfl, hw.cleaned⟩
  channelless := trivial

theorem cleans_ofExcept (e : Except ε α) : Cleans B master m
    (do let _ ← ofExcept e : Program S K V C Ans ε Unit) [] [] fun _ => True where
  follows state log reg spent := by
    refine carries_ofExcept (fun _ _ => ?_) fun _ _ _ hw => ⟨trivial, hw.cleaned⟩
    exact carries_pure fun w hw => ⟨trivial, hw.cleaned⟩
  channelless := by cases e <;> trivial

theorem cleans_call {c : C} {f : Ans c → Program S K V C Ans ε α} {T : Except ε α → Prop}
    (hf : ∀ a, Cleans B master m (f a) calls guards T) :
    Cleans B master m (call c >>= f) (c :: calls) guards T where
  follows state log reg spent := by
    refine follows_call fun a _ => ((hf a).follows _ _ _ _).weaken (fun _ hw => hw) ?_
    rintro r w ⟨hr, made, state', hmade, hw⟩
    refine ⟨hr, ⟨c, a⟩ :: made, state', by rw [List.map_cons, hmade], ?_⟩
    simpa using hw
  channelless := .perform_bind trivial fun a => (hf a).channelless

theorem cleans_modifyState {f : S → S} {k : Unit → Program S K V C Ans ε α} {T : Except ε α → Prop}
    (hk : Cleans B master m (k ()) calls guards T) :
    Cleans B master m (modifyState f >>= k) calls guards T where
  follows _ _ _ _ := carries_modifyState (hk.follows _ _ _ _)
  channelless := .bind_except (.perform_bind trivial fun _ => .perform_bind trivial fun _ => trivial)
    fun _ => hk.channelless

theorem cleans_guard {guard : ℕ} {k : Unit → Program S K V C Ans ε α} {T : Except ε α → Prop}
    (hk : Cleans B master m (k ()) calls guards T) :
    Cleans B master m (do
      if ← upgrade guard then
        disarm guard
        release guard
      k ()) calls (guard :: guards) T where
  follows state log reg spent := by
    have hclean : Follows B (recorded master) AnyAnswer m (Sees state (log, reg) (guard :: spent))
        (k ()) fun r w => T r ∧ Cleaned master log reg spent calls (guard :: guards) w := by
      refine (hk.follows state log reg (guard :: spent)).weaken (fun _ hw => hw) ?_
      rintro r w ⟨hr, made, state', hmade, hw⟩
      refine ⟨hr, made, state', hmade, hw.state_eq, hw.noted_eq, fun guard' hg => ?_⟩
      refine hw.defused guard' ?_
      simp only [List.mem_append, List.mem_cons, List.cons_append] at hg ⊢
      tauto
    exact carries_upgrade hclean (carries_disarm (carries_release hclean))
  channelless := .perform_bind trivial fun b => by
    cases b with
    | false => exact hk.channelless
    | true => exact .perform_bind trivial fun _ => .perform_bind trivial fun _ => hk.channelless

theorem cleans_entry {guard : ℕ} {c : C} (f : Ans c → Except ε α) : Cleans B master m (do
    if ← upgrade guard then
      disarm guard
      release guard
    let _ ← ofExcept (f (← call c)) : Program S K V C Ans ε Unit) [c] [guard] fun _ => True :=
  cleans_guard (k := fun _ => do let _ ← ofExcept (f (← call c)))
    (cleans_call fun a => cleans_ofExcept (f a))

theorem cleans_bind {β : Type} {p : Program S K V C Ans ε α} {f : α → Program S K V C Ans ε β}
    {calls' : List C} {guards' : List ℕ} {a : α} {T : Except ε β → Prop}
    (hp : Cleans B master m p calls guards (· = .ok a))
    (hf : ∀ a, Cleans B master m (f a) calls' guards' T) :
    Cleans B master m (p >>= f) (calls ++ calls') (guards ++ guards') T where
  follows state log reg spent := by
    refine .bind_except (Q := fun _ => Cleaned master log reg spent calls guards)
      (E := fun _ _ => False) ((hp.follows state log reg spent).weaken (fun _ hw => hw) ?_)
      (fun b => ?_) fun _ _ he => he.elim
    · rintro r w ⟨rfl, hw⟩
      exact hw
    · rintro w ⟨made, state', hmade, hw⟩
      refine ((hf b).follows _ _ _ _ w hw).mono ?_
      rintro r w ⟨hr, made', state'', hmade', hw⟩
      refine ⟨hr, made ++ made', state'', by rw [List.map_append, hmade, hmade'], ?_⟩
      refine ⟨hw.state_eq, ?_, fun guard hg => hw.defused guard ?_⟩
      · rw [hw.noted_eq, List.append_assoc, List.foldl_append]
      · simp only [List.mem_append] at hg ⊢
        tauto
  channelless := hp.channelless.bind_except fun a => (hf a).channelless

theorem cleans_attempt {δ : Type} {p : Program S K V C Ans δ α} {T : Except δ α → Prop}
    (hp : Cleans B master m p calls guards T) :
    Cleans (ε := ε) B master m (do let _ ← Prog.attempt p) calls guards (· = .ok ()) where
  follows state log reg spent := by
    refine .bind_except (Q := fun _ => Cleaned master log reg spent calls guards)
      (E := fun _ _ => False) (.attempt ((hp.follows state log reg spent).weaken (fun _ hw => hw)
        fun r w hw => hw.2)) (fun b => ?_) fun _ _ he => he.elim
    rintro w ⟨made, state', hmade, hw⟩
    exact carries_pure (fun w hw => ⟨rfl, made, state', hmade, hw⟩) w hw
  channelless := hp.channelless.attempt.bind_except fun _ => trivial

theorem cleans_forM {l : List α} {f : α → Program S K V C Ans ε Unit} {callsOf : α → List C}
    {guardsOf : α → List ℕ}
    (hf : ∀ a, Cleans B master m (f a) (callsOf a) (guardsOf a) (· = .ok ())) :
    Cleans B master m (l.forM f) (l.flatMap callsOf) (l.flatMap guardsOf) (· = .ok ()) := by
  induction l with
  | nil => exact cleans_pure ()
  | cons a l ih => exact cleans_bind (hf a) fun _ => ih

/-! The run of a program that cleans. -/

section Stop

variable {G : Type} {note : (c : C) → Ans c → G → G} {w : World S K M × G}

abbrev StopConfig (S K V C M : Type) (Ans : C → Type) (G : Type) : Type :=
  Process.Config (World S K M × G) M (Act S K V C) MessagingErr (Act.Res Ans)

variable (B note) in
def Leads (m : M) (T : Except MessagingErr Unit → World S K M × G → Prop)
    (c : StopConfig S K V C M Ans G) : Prop :=
  ∃ p, c.pc = .busy m p ∧ p.All Channelless ∧
    p.Safe ((watched B note).effect (Answers AnyAnswer) m) ((watched B note).others Anyhow) T c.world

variable (B note m) in
theorem exec_of_channelless {a : Act S K V C} (ha : Channelless a) (answer : (c : C) → Ans c)
    (w : World S K M × G) : ∃ x, (watched B note).exec m answer a w = some x := by
  have hexec : exec B m answer a w.1 ≠ none := exec_ne_none fun capacity hcapacity => by
    rw [hcapacity] at ha
    exact ha.elim
  obtain ⟨x, hx⟩ := Option.ne_none_iff_exists'.mp hexec
  exact ⟨(x.1, x.2, noted note a x.1 w.2), by simp only [watched, hx, Option.map_some]⟩

theorem leads_step {T : Except MessagingErr Unit → World S K M × G → Prop}
    {c c' : StopConfig S K V C M Ans G} {l : Label C M Ans} (hc : Leads B note m T c)
    (hl : Stopping c l) (he : (watched B note).step c l = some c') : Leads B note m T c' := by
  obtain ⟨w, pc⟩ := c
  obtain ⟨p, rfl, hall, hsafe⟩ := hc
  cases l with
  | outside l =>
    obtain ⟨w', hw, hc'⟩ := Option.bind_eq_some_iff.mp he
    cases hc'
    exact ⟨p, rfl, hall, hsafe.interfere ⟨l, trivial, hw⟩⟩
  | start => exact hl.elim
  | finish => exact hl.elim
  | act answer =>
    cases p with
    | ret r => cases he
    | act a k =>
      obtain ⟨⟨r, w'⟩, hx⟩ := exec_of_channelless B m note hall.1 answer w
      simp only [Process.step, hx, Option.some.injEq] at he
      subst he
      exact ⟨k r, rfl, hall.2 r, hsafe.act ⟨answer, by cases a <;> trivial, hx⟩⟩

theorem leads_ends {T : Except MessagingErr Unit → World S K M × G → Prop}
    {c : StopConfig S K V C M Ans G} (hc : Leads B note m T c) (answer : (c : C) → Ans c) :
    ∃ n c' r, Run (watched B note).step Stopping c (List.replicate n (.act answer)) c' ∧
      c'.pc = .busy m (.ret r) := by
  obtain ⟨w, pc⟩ := c
  obtain ⟨p, rfl, hall, -⟩ := hc
  induction p generalizing w with
  | ret r => exact ⟨0, _, r, .nil _, rfl⟩
  | act a k ih =>
    obtain ⟨⟨r, w'⟩, hx⟩ := exec_of_channelless B m note hall.1 answer w
    obtain ⟨n, c', r', hrun, hpc⟩ := ih r w' (hall.2 r)
    refine ⟨n + 1, c', r', .cons trivial ?_ hrun, hpc⟩
    simp only [Process.step, hx]

theorem silent_of_disarmed {w : World S K M} {guard : ℕ} (h : guard ∈ w.disarmed) :
    Silent B w guard := by
  intro i w' hi he
  obtain ⟨g, hg, he⟩ := Option.bind_eq_some_iff.mp he
  obtain ⟨key, -, he⟩ := Option.bind_eq_some_iff.mp he
  obtain rfl : guard = g := Option.some.inj (hi.symm.trans hg)
  cases he
  simp only [if_pos h]

theorem clientStep_disarmed {w w' : World S K M} {l : ClientLabel M}
    (h : clientStep B w l = some w') : w'.disarmed = w.disarmed := by
  cases l with
  | enqueue m | abandon port => cases h; rfl
  | clone i =>
    obtain ⟨x, -, h⟩ := Option.bind_eq_some_iff.mp h
    split at h
    · cases h; rfl
    · cases h
  | dropHandle i =>
    obtain ⟨x, -, h⟩ := Option.bind_eq_some_iff.mp h
    cases h
    rw [World.settle_eq]
  | guardDrop i =>
    obtain ⟨g, -, h⟩ := Option.bind_eq_some_iff.mp h
    obtain ⟨key, -, h⟩ := Option.bind_eq_some_iff.mp h
    cases h; rfl

theorem silent_after {c c' : StopConfig S K V C M Ans G} {r : Except MessagingErr Unit} {guard : ℕ}
    {labels : List (Label C M Ans)} (hpc : c.pc = .busy m (.ret r))
    (hguard : guard ∈ c.world.1.disarmed)
    (h : Run (watched B note).step Stopping c labels c') : Silent B c'.world.1 guard := by
  have hinv : c'.pc = .busy m (.ret r) ∧ guard ∈ c'.world.1.disarmed := by
    refine h.invariant (I := fun c => c.pc = .busy m (.ret r) ∧ guard ∈ c.world.1.disarmed) ?_
      ⟨hpc, hguard⟩
    rintro ⟨w, pc⟩ l c'' ⟨rfl, hg⟩ hl he
    cases l with
    | outside l =>
      obtain ⟨w', hw, hc'⟩ := Option.bind_eq_some_iff.mp he
      cases hc'
      obtain ⟨w₁, hc, heq⟩ := Option.map_eq_some_iff.mp hw
      cases heq
      refine ⟨rfl, ?_⟩
      rwa [clientStep_disarmed hc]
    | start | finish => exact hl.elim
    | act answer => cases he
  exact silent_of_disarmed hinv.2

end Stop

theorem cleansUp [EmptyCollection R] {Succeeds : (c : C) → Ans c → Prop} {w : World S K M}
    {p : Program S K V C Ans MessagingErr Unit} {made : List C}
    (hp : ∀ m, Cleans B master m p made guards (· = .ok ())) (hperm : made.Perm calls)
    (hempty : ∀ log : List (Σ c, Ans c), log.map Sigma.fst = made →
      (∀ x ∈ log, Succeeds x.1 x.2) → log.foldl (fun reg x => master x.1 x.2 reg) reg = ∅) :
    CleansUp B master Succeeds p w reg calls guards := by
  intro m labels c hrun
  have hleads : Leads B (recorded master) m
      (fun r w => r = .ok () ∧ Cleaned master [] reg [] made guards w) c := by
    refine hrun.invariant (fun _ _ _ => leads_step) ⟨p.run, rfl, (hp m).channelless, ?_⟩
    exact (hp m).follows w.state [] reg [] _ ⟨rfl, rfl, fun _ h => nomatch h⟩
  refine ⟨fun answer => leads_ends hleads answer, fun r hpc => ?_⟩
  obtain ⟨p', hpc', -, hsafe⟩ := hleads
  rw [hpc] at hpc'
  cases hpc'
  obtain ⟨hr, log, state, hlog, hsees⟩ := hsafe.ret
  have hnoted := hsees.noted_eq
  rw [List.nil_append] at hnoted
  refine ⟨hr, ?_, fun hok => ?_, fun guard hg hpos labels' c' hrun' => ?_⟩
  · rw [hnoted, hlog]
    exact hperm
  · rw [hnoted] at hok ⊢
    exact hempty log hlog hok
  · rcases hsees.defused guard (by simpa using hg) with hd | hz
    · exact silent_after hpc hd hrun'
    · omega

end Rules

end Actor

end RosrustAsync
