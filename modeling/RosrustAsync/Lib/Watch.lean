import RosrustAsync.Lib.Actor

namespace RosrustAsync.Actor

/-!
An actor with a note of the answers to its calls, and rules for what its programs do to its state
and to the note, whatever the clients do.
-/

variable {S K V C M G : Type} {Ans : C → Type}

def noted (note : (c : C) → Ans c → G → G) : (a : Act S K V C) → Act.Res Ans a → G → G
  | .call c, r, g => note c r g
  | _, _, g => g

def watched (B : Behaviour S K V C M Ans) (note : (c : C) → Ans c → G → G) :
    Process (World S K M × G) (ClientLabel M) ((c : C) → Ans c) M (Act S K V C) MessagingErr
      (Act.Res Ans) where
  outside w l := (clientStep B w.1 l).map (·, w.2)
  receive w := (receive w.1).map fun x => (x.1, x.2, w.2)
  handle m := (B.handle m).run
  exec m answer a w := (exec B m answer a w.1).map fun x => (x.1, x.2, noted note a x.1 w.2)

/-- What is asked of the answer to a call, given what has been noted before it. -/
def Answers (Fits : M → (c : C) → Ans c → G → Prop) (m : M) (answer : (c : C) → Ans c)
    (a : Act S K V C) (w : World S K M × G) : Prop :=
  match a with
  | .call c => Fits m c (answer c) w.2
  | _ => True

/-- What is asked of the answer to a call, given the actor's state. -/
def AnswersIn (Fits : (c : C) → Ans c → S → Prop) (_m : M) (answer : (c : C) → Ans c)
    (a : Act S K V C) (w : World S K M × G) : Prop :=
  match a with
  | .call c => Fits c (answer c) w.1.state
  | _ => True

def Anyhow (_w : World S K M × G) (_l : ClientLabel M) : Prop := True

/-- The end of the guard sends nothing, or it has ended. -/
def Defused (w : World S K M) (guard : ℕ) : Prop := guard ∈ w.disarmed ∨ w.strong guard = 0

structure Sees (state : S) (g : G) (spent : List ℕ) (w : World S K M × G) : Prop where
  state_eq : w.1.state = state
  noted_eq : w.2 = g
  defused : ∀ guard ∈ spent, Defused w.1 guard

def Holds (P : S → G → Prop) (w : World S K M × G) : Prop := P w.1.state w.2

theorem strong_eraseIdx {w : World S K M} (i guard : ℕ) (h : w.strong guard = 0) :
    { w with handles := w.handles.eraseIdx i }.strong guard = 0 := by
  have hsub := ((List.eraseIdx_sublist w.handles i).map Prod.snd).count_le guard
  simp only [World.strong] at h ⊢
  omega

theorem client_step_frame {B : Behaviour S K V C M Ans} {w w' : World S K M} {l : ClientLabel M}
    (h : clientStep B w l = some w') : w'.state = w.state ∧ ∀ guard, Defused w guard → Defused w' guard := by
  cases l with
  | enqueue m => cases h; exact ⟨rfl, fun _ hg => hg⟩
  | clone i =>
    obtain ⟨x, hx, h⟩ := Option.bind_eq_some_iff.mp h
    split at h
    · cases h
      refine ⟨rfl, fun guard hg => hg.imp_right fun hz => ?_⟩
      have hmem : x.2 ∈ w.handles.map Prod.snd := List.mem_map_of_mem (List.mem_of_getElem? hx)
      have hne : x.2 ≠ guard := by
        rintro rfl
        have hpos := List.count_pos_iff.mpr hmem
        simp only [World.strong] at hz
        omega
      simpa [World.strong, hne] using hz
    · cases h
  | dropHandle i =>
    obtain ⟨x, hx, h⟩ := Option.bind_eq_some_iff.mp h
    cases h
    rw [World.settle_eq]
    exact ⟨rfl, fun guard hg => hg.imp_right (strong_eraseIdx i guard)⟩
  | guardDrop i =>
    obtain ⟨g, hg, h⟩ := Option.bind_eq_some_iff.mp h
    obtain ⟨key, hkey, h⟩ := Option.bind_eq_some_iff.mp h
    cases h
    exact ⟨rfl, fun _ hg => hg⟩
  | abandon port => cases h; exact ⟨rfl, fun _ hg => hg⟩

theorem isOk_of_error {ε ε' α : Type} {x : Except ε α} {f : ε → ε'} {e : ε'}
    (h : x.mapError f = .error e) : x.isOk = false := by
  cases x with
  | ok a => cases h
  | error e => rfl

theorem isOk_of_ok {ε ε' α : Type} {x : Except ε α} {f : ε → ε'} {a : α}
    (h : x.mapError f = .ok a) : x.isOk = true := by
  cases x with
  | ok a => rfl
  | error e => cases h

section Rules

variable {B : Behaviour S K V C M Ans} {note : (c : C) → Ans c → G → G}
  {Meets : M → ((c : C) → Ans c) → Act S K V C → World S K M × G → Prop}
  {Fits : M → (c : C) → Ans c → G → Prop} {ε α β : Type} {m : M} {state : S} {g : G}
  {spent : List ℕ} {T : Except ε α → World S K M × G → Prop}

variable (B note Meets) in
abbrev Carries (m : M) (P : World S K M × G → Prop) (p : Program S K V C Ans ε α)
    (T : Except ε α → World S K M × G → Prop) : Prop :=
  Prog.Triple ((watched B note).effect Meets m) ((watched B note).others Anyhow) P p.run T

variable (B note Fits) in
abbrev Follows (m : M) (P : World S K M × G → Prop) (p : Program S K V C Ans ε α)
    (T : Except ε α → World S K M × G → Prop) : Prop :=
  Prog.Triple ((watched B note).effect (Answers Fits) m) ((watched B note).others Anyhow) P p.run T

theorem ok_mono {Fits' : M → (c : C) → Ans c → G → Prop}
    (hfits : ∀ m c a g, Fits m c a g → Fits' m c a g)
    {c : Process.Config (World S K M × G) M (Act S K V C) MessagingErr (Act.Res Ans)}
    {l : Label C M Ans} (h : Process.Ok Anyhow (Answers Fits) c l) :
    Process.Ok Anyhow (Answers Fits') c l := by
  obtain ⟨w, pc⟩ := c
  cases l with
  | act answer =>
    cases pc with
    | busy m p =>
      cases p with
      | act a k =>
        cases a with
        | call c => exact hfits m c _ _ h
        | _ => trivial
      | ret r => trivial
    | _ => trivial
  | _ => trivial

theorem watched_effect {a : Act S K V C} {w w' : World S K M × G} {r : Act.Res Ans a}
    (h : (watched B note).effect Meets m a w r w') :
    ∃ answer w₁, Meets m answer a w ∧ exec B m answer a w.1 = some (r, w₁) ∧
      w' = (w₁, noted note a r w.2) := by
  obtain ⟨answer, hfits, hx⟩ := h
  obtain ⟨⟨r', w₁⟩, hx', heq⟩ := Option.map_eq_some_iff.mp hx
  cases heq
  exact ⟨answer, w₁, hfits, hx', rfl⟩

theorem stable_sees : Prog.Stable ((watched B note).others Anyhow) (Sees state g spent) := by
  rintro w w' hw ⟨l, -, he⟩
  obtain ⟨w₁, hc, heq⟩ := Option.map_eq_some_iff.mp he
  cases heq
  obtain ⟨hstate, hdefused⟩ := client_step_frame hc
  exact ⟨hstate.trans hw.state_eq, hw.noted_eq, fun i hi => hdefused i (hw.defused i hi)⟩

theorem carries_getState {f : S → Program S K V C Ans ε α}
    (h : Carries B note Meets m (Sees state g spent) (f state) T) :
    Carries B note Meets m (Sees state g spent) (getState >>= f) T := by
  refine .bind_perform stable_sees fun w r w' hw he => ?_
  obtain ⟨answer, w₁, -, hx, rfl⟩ := watched_effect he
  cases hx
  rw [hw.state_eq]
  exact h _ hw

theorem carries_setState {state' : S} {f : Unit → Program S K V C Ans ε α}
    (h : Carries B note Meets m (Sees state' g spent) (f ()) T) :
    Carries B note Meets m (Sees state g spent) (setState state' >>= f) T := by
  refine .bind_perform stable_sees fun w r w' hw he => ?_
  obtain ⟨answer, w₁, -, hx, rfl⟩ := watched_effect he
  cases hx
  exact h _ ⟨rfl, hw.noted_eq, hw.defused⟩

theorem carries_modifyState {f : S → S} {k : Unit → Program S K V C Ans ε α}
    (h : Carries B note Meets m (Sees (f state) g spent) (k ()) T) :
    Carries B note Meets m (Sees state g spent) (modifyState f >>= k) T :=
  carries_getState (carries_setState h)

theorem carries_modified {f : S → S} {T : Except ε Unit → World S K M × G → Prop}
    (h : ∀ w, Sees (f state) g spent w → T (.ok ()) w) :
    Carries B note Meets m (Sees state g spent) (modifyState f) T := by
  refine carries_getState ((Prog.Triple.lift (E := fun _ _ => False) (.perform
    (T := fun _ => Sees (f state) g spent) stable_sees (fun _ => stable_sees) ?_)).weaken
    (fun _ hw => hw) fun r w hw => ?_)
  · intro w r w' hw he
    obtain ⟨answer, w₁, -, hx, rfl⟩ := watched_effect he
    cases hx
    exact ⟨rfl, hw.noted_eq, hw.defused⟩
  · cases r with
    | ok u => exact h w hw
    | error e => exact hw.elim

theorem carries_call {c : C} {f : Ans c → Program S K V C Ans ε α}
    (h : ∀ answer w, Sees state g spent w → Meets m answer (.call c) w →
      Carries B note Meets m (Sees state (note c (answer c) g) spent) (f (answer c)) T) :
    Carries B note Meets m (Sees state g spent) (call c >>= f) T := by
  refine .bind_perform stable_sees fun w r w' hw he => ?_
  obtain ⟨answer, w₁, hmeets, hx, rfl⟩ := watched_effect he
  cases hx
  refine h answer w hw hmeets _ ⟨hw.state_eq, ?_, hw.defused⟩
  rw [hw.noted_eq]
  rfl

theorem follows_call {c : C} {f : Ans c → Program S K V C Ans ε α}
    (h : ∀ a, Fits m c a g → Follows B note Fits m (Sees state (note c a g) spent) (f a) T) :
    Follows B note Fits m (Sees state g spent) (call c >>= f) T := by
  refine carries_call fun answer w hw hmeets => h _ ?_
  have hfits : Fits m c (answer c) w.2 := hmeets
  rwa [hw.noted_eq] at hfits

theorem carries_callIn {Fits : (c : C) → Ans c → S → Prop} {c : C}
    {f : Ans c → Program S K V C Ans ε α}
    (h : ∀ a, Fits c a state →
      Carries B note (AnswersIn Fits) m (Sees state (note c a g) spent) (f a) T) :
    Carries B note (AnswersIn Fits) m (Sees state g spent) (call c >>= f) T := by
  refine carries_call fun answer w hw hmeets => h _ ?_
  have hfits : Fits c (answer c) w.1.state := hmeets
  rwa [hw.state_eq] at hfits

theorem carries_channel {capacity : Option ℕ} {f : ℕ → Program S K V C Ans ε α}
    (h : ∀ channel, Carries B note Meets m (Sees state g spent) (f channel) T) :
    Carries B note Meets m (Sees state g spent) (channel capacity >>= f) T := by
  refine .bind_perform stable_sees fun w r w' hw he => ?_
  obtain ⟨answer, w₁, -, hx, rfl⟩ := watched_effect he
  simp only [exec] at hx
  split at hx
  · cases hx
    exact h _ _ ⟨hw.state_eq, hw.noted_eq, hw.defused⟩
  · cases hx

theorem carries_upgrade {guard : ℕ} {f : Bool → Program S K V C Ans ε α}
    (hdead : Carries B note Meets m (Sees state g (guard :: spent)) (f false) T)
    (hlive : Carries B note Meets m (Sees state g spent) (f true) T) :
    Carries B note Meets m (Sees state g spent) (upgrade guard >>= f) T := by
  refine .bind_perform stable_sees fun w r w' hw he => ?_
  obtain ⟨answer, w₁, -, hx, rfl⟩ := watched_effect he
  simp only [exec] at hx
  split at hx
  · rename_i hpos
    cases hx
    refine hlive _ ⟨hw.state_eq, hw.noted_eq, fun i hi => (hw.defused i hi).imp_right fun hz => ?_⟩
    have hne : guard ≠ i := by
      rintro rfl
      omega
    simpa [World.strong, hne] using hz
  · rename_i hzero
    cases hx
    refine hdead _ ⟨hw.state_eq, hw.noted_eq, fun i hi => ?_⟩
    rcases List.mem_cons.mp hi with rfl | hi
    · exact .inr (Nat.eq_zero_of_not_pos hzero)
    · exact hw.defused i hi

theorem carries_disarm {guard : ℕ} {f : Unit → Program S K V C Ans ε α}
    (h : Carries B note Meets m (Sees state g (guard :: spent)) (f ()) T) :
    Carries B note Meets m (Sees state g spent) (disarm guard >>= f) T := by
  refine .bind_perform stable_sees fun w r w' hw he => ?_
  obtain ⟨answer, w₁, -, hx, rfl⟩ := watched_effect he
  cases hx
  refine h _ ⟨hw.state_eq, hw.noted_eq, fun i hi => ?_⟩
  rcases List.mem_cons.mp hi with rfl | hi
  · exact .inl (Finset.mem_insert_self _ _)
  · exact (hw.defused i hi).imp_left fun hd => Finset.mem_insert_of_mem hd

theorem carries_release {guard : ℕ} {f : Unit → Program S K V C Ans ε α}
    (h : Carries B note Meets m (Sees state g spent) (f ()) T) :
    Carries B note Meets m (Sees state g spent) (release guard >>= f) T := by
  refine .bind_perform stable_sees fun w r w' hw he => ?_
  obtain ⟨answer, w₁, -, hx, rfl⟩ := watched_effect he
  cases hx
  have hsettle := World.settle_eq { w.1 with held := w.1.held.erase guard } guard
  refine h _ ⟨?_, hw.noted_eq, fun i hi => ?_⟩
  · rw [World.release, hsettle]
    exact hw.state_eq
  · rw [World.release, hsettle]
    refine (hw.defused i hi).imp_right fun hz => ?_
    have hle := (List.erase_sublist (a := guard) (l := w.1.held)).count_le i
    simp only [World.strong] at hz ⊢
    omega

theorem carries_newGuard {key : K} {f : ℕ → Program S K V C Ans ε α}
    (h : ∀ guard, Carries B note Meets m (Sees state g []) (f guard) T) :
    Carries B note Meets m (Sees state g []) (newGuard key >>= f) T := by
  refine .bind_perform stable_sees fun w r w' hw he => ?_
  obtain ⟨answer, w₁, -, hx, rfl⟩ := watched_effect he
  cases hx
  exact h _ _ ⟨hw.state_eq, hw.noted_eq, (fun _ hi => nomatch hi)⟩

theorem carries_ofExcept {e : Except ε β} {f : β → Program S K V C Ans ε α}
    (hok : ∀ b, e = .ok b → Carries B note Meets m (Sees state g spent) (f b) T)
    (herror : ∀ x w, e = .error x → Sees state g spent w → T (.error x) w) :
    Carries B note Meets m (Sees state g spent) (ofExcept e >>= f) T := by
  cases e with
  | ok b =>
    refine .bind_except (Q := fun b' w => b' = b ∧ Sees state g spent w) (E := fun _ _ => False)
      (.ret stable_sees fun w hw => ⟨rfl, hw⟩) (fun b' => ?_) (fun _ _ he => he.elim)
    rintro w ⟨rfl, hw⟩
    exact hok b' rfl w hw
  | error x =>
    refine .bind_except (Q := fun _ _ => False) (E := fun x' w => x' = x ∧ Sees state g spent w)
      (.ret stable_sees fun w hw => ⟨rfl, hw⟩) (fun _ => .of_false fun _ h => h) ?_
    rintro _ w ⟨rfl, hw⟩
    exact herror _ w rfl hw

theorem stable_holds {P : S → G → Prop} :
    Prog.Stable ((watched B note).others Anyhow) (Holds P : World S K M × G → Prop) := by
  rintro w w' hw ⟨l, -, he⟩
  obtain ⟨w₁, hc, heq⟩ := Option.map_eq_some_iff.mp he
  cases heq
  unfold Holds
  rw [(client_step_frame hc).1]
  exact hw

theorem Sees.holds {P : S → G → Prop} (h : P state g) {w : World S K M × G}
    (hw : Sees state g spent w) : Holds P w := by
  unfold Holds
  rw [hw.state_eq, hw.noted_eq]
  exact h

theorem carries_pure {a : α} (h : ∀ w, Sees state g spent w → T (.ok a) w) :
    Carries B note Meets m (Sees state g spent) (pure a) T := .ret stable_sees h

theorem carries_throw {e : ε} (h : ∀ w, Sees state g spent w → T (.error e) w) :
    Carries B note Meets m (Sees state g spent) (throw e : Program S K V C Ans ε α) T :=
  .ret stable_sees h

theorem carries_holds {P : S → G → Prop} {p : Program S K V C Ans ε α}
    (h : ∀ state g, P state g → Carries B note Meets m (Sees state g []) p T) :
    Carries B note Meets m (Holds P) p T :=
  fun w hw => h w.1.state w.2 hw w ⟨rfl, rfl, (fun _ hi => nomatch hi)⟩

theorem carries_forget {p : Program S K V C Ans ε α}
    (h : Carries B note Meets m (Sees state g []) p T) :
    Carries B note Meets m (Sees state g spent) p T :=
  fun w hw => h w ⟨hw.state_eq, hw.noted_eq, (fun _ hi => nomatch hi)⟩

theorem carries_bind {P : World S K M × G → Prop} {R : Except ε β → S → G → Prop}
    {p : Program S K V C Ans ε β} {f : β → Program S K V C Ans ε α}
    (hp : Carries B note Meets m P p fun r => Holds (R r))
    (hok : ∀ b state g, R (.ok b) state g → Carries B note Meets m (Sees state g []) (f b) T)
    (herror : ∀ e w, Holds (R (.error e)) w → T (.error e) w) :
    Carries B note Meets m P (p >>= f) T :=
  .bind_except (Q := fun b => Holds (R (.ok b))) (E := fun e => Holds (R (.error e)))
    (hp.weaken (fun _ hw => hw) fun r _ hw => by cases r <;> exact hw)
    (fun b => carries_holds (hok b)) herror

theorem carries_attempt {δ : Type} {P : World S K M × G → Prop} {R : Except δ β → S → G → Prop}
    {p : Program S K V C Ans δ β} {f : Except δ β → Program S K V C Ans ε α}
    (hp : Carries B note Meets m P p fun r => Holds (R r))
    (hf : ∀ r state g, R r state g → Carries B note Meets m (Sees state g []) (f r) T) :
    Carries B note Meets m P (Prog.attempt p >>= f) T :=
  .bind_except (Q := fun r => Holds (R r)) (E := fun _ _ => False) (.attempt hp)
    (fun r => carries_holds (hf r)) fun _ _ he => he.elim

theorem carries_attempted {δ : Type} {P : World S K M × G → Prop} {Q : S → G → Prop}
    {p : Program S K V C Ans δ β} (hp : Carries B note Meets m P p fun _ => Holds Q) :
    Carries B note Meets m P (Prog.attempt p : Program S K V C Ans ε (Except δ β))
      fun _ => Holds Q :=
  (Prog.Triple.attempt (E := fun _ => Holds Q) hp).weaken (fun _ hw => hw) fun r _ hw => by
    cases r <;> exact hw

theorem carries_orThrow {δ : Type} {P : World S K M × G → Prop} {R : Except δ β → S → G → Prop}
    {p : Program S K V C Ans δ β} {g' : δ → ε} {f : β → Program S K V C Ans ε α}
    (hp : Carries B note Meets m P p fun r => Holds (R r))
    (hok : ∀ b state g, R (.ok b) state g → Carries B note Meets m (Sees state g []) (f b) T)
    (herror : ∀ e w, Holds (R (.error e)) w → T (.error (g' e)) w) :
    Carries B note Meets m P (Prog.orThrow g' p >>= f) T :=
  .bind_except (Q := fun b => Holds (R (.ok b))) (E := fun e w => T (.error e) w)
    (.orThrow (hp.weaken (fun _ hw => hw) fun r w hw => by
      cases r with
      | ok b => exact hw
      | error e => exact herror e w hw))
    (fun b => carries_holds (hok b)) fun _ _ he => he

theorem reply_state (B : Behaviour S K V C M Ans) (m : M) (port : ℕ) (value : V) (w : World S K M) :
    (reply B m port value w).2.state = w.state := by
  unfold reply
  split
  · cases B.guardOf value with
    | none => rfl
    | some guard =>
      simp only [World.release, World.settle_eq]
  · cases B.registers m <;> cases B.guardOf value <;> rfl

theorem carries_send {port : ℕ} {value : V} {P : S → G → Prop} :
    Carries B note Meets m (Holds P) (send port value) fun _ => Holds P := by
  refine .perform stable_holds (fun r => stable_holds) fun w r w' hw he => ?_
  obtain ⟨answer, w₁, -, hx, rfl⟩ := watched_effect he
  have hstate := reply_state B m port value w.1
  simp only [exec] at hx
  rw [Option.some.inj hx] at hstate
  unfold Holds at hw ⊢
  rw [hstate]
  exact hw

theorem carries_reply {P : World S K M × G → Prop} {Q : S → G → Prop}
    {p : Program S K V C Ans MessagingErr β} {port : ℕ} {value : β → V}
    (h : Carries B note Meets m P p fun _ => Holds Q) :
    Carries B note Meets m P (p >>= fun a => send port (value a)) fun _ => Holds Q :=
  .bind_except (Q := fun _ => Holds Q) (E := fun _ => Holds Q)
    (h.weaken (fun _ hw => hw) fun r _ hw => by cases r <;> exact hw)
    (fun _ => carries_send) fun _ _ he => he

theorem watched_holds {P : S → G → Prop} {s : S} {g₀ : G} (hs : P s g₀)
    (hhandle : ∀ m state g, P state g →
      Carries B note Meets m (Sees state g []) (B.handle m) fun _ => Holds P)
    {labels : List (Label C M Ans)}
    {c : Process.Config (World S K M × G) M (Act S K V C) MessagingErr (Act.Res Ans)}
    (h : Runs.Run (watched B note).step (Process.Ok Anyhow Meets) ⟨(.init s, g₀), .idle⟩
      labels c) (hidle : c.pc = .idle) : Holds P c.world := by
  have hlive : (watched B note).Live Anyhow Meets (Holds P) (fun _ => True) c := by
    refine h.invariant (fun c l c' hc hl he => Process.live_step stable_holds
      (fun _ _ _ _ => trivial) (fun _ _ _ _ _ _ => trivial) (fun w m w' hw hm => ?_) hc hl he) hs
    obtain ⟨⟨m', w₁⟩, hreceive, heq⟩ := Option.map_eq_some_iff.mp hm
    cases heq
    obtain ⟨mailbox, -, rfl⟩ := receive_eq_some hreceive
    refine (carries_holds (hhandle m') ({ w.1 with mailbox }, w.2) hw).mono fun r w hr => ?_
    cases r with
    | ok u => exact hr
    | error e => trivial
  simpa only [Process.Live, hidle] using hlive

/-! Programs that change neither the state nor the note. -/

variable (B note Fits) in
def Leaves (m : M) (p : Program S K V C Ans ε α) : Prop :=
  ∀ state g, Follows B note Fits m (Sees state g []) p
    fun _ => Holds fun state' g' => state' = state ∧ g' = g

theorem leaves_pure (a : α) : Leaves (ε := ε) B note Fits m (pure a) :=
  fun _ _ => carries_pure fun _ hw => hw.holds ⟨rfl, rfl⟩

theorem leaves_ofExcept (e : Except ε α) :
    Leaves B note Fits m (ofExcept e : Program S K V C Ans ε α) := by
  intro state g
  cases e with
  | ok a => exact carries_pure fun w hw => hw.holds ⟨rfl, rfl⟩
  | error e => exact carries_throw fun w hw => hw.holds ⟨rfl, rfl⟩

theorem leaves_bind {p : Program S K V C Ans ε β} {f : β → Program S K V C Ans ε α}
    (hp : Leaves B note Fits m p) (hf : ∀ b, Leaves B note Fits m (f b)) :
    Leaves B note Fits m (p >>= f) := by
  intro state g
  refine carries_bind (hp state g) (fun b state' g' h => ?_) fun _ _ hw => hw
  obtain ⟨rfl, rfl⟩ := h
  exact hf b state' g'

theorem leaves_call_bind {c : C} {f : Ans c → Program S K V C Ans ε α}
    (hnote : ∀ a g, note c a g = g) (hf : ∀ a, Leaves B note Fits m (f a)) :
    Leaves B note Fits m (call c >>= f) := by
  intro state g
  refine follows_call fun a _ => ?_
  rw [hnote]
  exact hf a state g

end Rules

end RosrustAsync.Actor
