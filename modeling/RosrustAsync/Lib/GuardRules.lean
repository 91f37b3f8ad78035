import RosrustAsync.Lib.GuardRegistry

namespace RosrustAsync.Actor

variable {S K V C M : Type} {Ans : C → Type} [DecidableEq K] (R : Registry S K V C M Ans)

/-- No channel is refused, every call succeeds, and a registration finds no dead guard. -/
def Registry.Meets (m : M) (answer : (c : C) → Ans c) (a : Act S K V C) (w : World S K M) : Prop :=
  match a with
  | .channel capacity => accepts capacity
  | .call c => R.succeeds c (answer c)
  | .upgrade g => (R.registers m).isSome → 0 < w.strong g
  | _ => True

structure At (state : S) (guards : List K) (held : List ℕ) (drop : Option K) (fresh : Option ℕ)
    (w : World S K M) : Prop where
  state_eq : w.state = state
  guards_eq : w.guards = guards
  held_eq : w.held = held
  tracked : Tracked R drop fresh w

def Idle (w : World S K M) : Prop := w.held = [] ∧ Tracked R none none w

/-- The guard in a reply is all that the handler holds, and has the key of the registration. -/
def Ready (m : M) (value : V) (w : World S K M) : Prop :=
  w.held = (R.guardOf value).toList ∧ Tracked R none none w ∧
    ∀ g, R.guardOf value = some g → ∃ key, R.registers m = some key ∧ w.guards[g]? = some key

abbrev Does {ε α : Type} (m : M) (P : World S K M → Prop) (p : Program S K V C Ans ε α)
    (T : Except ε α → World S K M → Prop) : Prop :=
  Prog.Triple ((process R.toBehaviour).effect R.Meets m) ((process R.toBehaviour).others R.Allowed) P
    p.run T

variable {R} {ε α : Type} {m : M} {state : S} {guards : List K} {held : List ℕ} {drop : Option K}
  {fresh : Option ℕ} {T : Except ε α → World S K M → Prop}

theorem stable_at : Prog.Stable ((process R.toBehaviour).others R.Allowed)
    (At R state guards held drop fresh) := by
  rintro w w' hw ⟨l, hl, he⟩
  obtain ⟨htracked, hstate, hguards, hheld⟩ := hw.tracked.client_step hl he
  exact ⟨hstate.trans hw.state_eq, hguards.trans hw.guards_eq, hheld.trans hw.held_eq, htracked⟩

theorem stable_idle : Prog.Stable ((process R.toBehaviour).others R.Allowed) (Idle R) := by
  rintro w w' ⟨hheld, hw⟩ ⟨l, hl, he⟩
  obtain ⟨htracked, -, -, hheld'⟩ := hw.client_step hl he
  exact ⟨hheld'.trans hheld, htracked⟩

theorem stable_ready {value : V} : Prog.Stable ((process R.toBehaviour).others R.Allowed)
    (Ready R m value) := by
  rintro w w' ⟨hheld, hw, hkey⟩ ⟨l, hl, he⟩
  obtain ⟨htracked, -, hguards, hheld'⟩ := hw.client_step hl he
  exact ⟨hheld'.trans hheld, htracked, hguards ▸ hkey⟩

theorem At.idle {w : World S K M} (h : At R state guards [] none none w) : Idle R w :=
  ⟨h.held_eq, h.tracked⟩

theorem At.ready_none {w : World S K M} {value : V} (h : At R state guards [] none none w)
    (hv : R.guardOf value = none) : Ready R m value w :=
  ⟨by rw [h.held_eq, hv]; rfl, h.tracked, fun g hg => by rw [hv] at hg; cases hg⟩

theorem At.ready_some {w : World S K M} {value : V} {g : ℕ}
    (h : At R state guards [g] none none w) (key : K) (hv : R.guardOf value = some g)
    (hm : R.registers m = some key) (hg : guards[g]? = some key) : Ready R m value w := by
  refine ⟨by rw [h.held_eq, hv]; rfl, h.tracked, fun i hi => ⟨key, hm, ?_⟩⟩
  rw [hv] at hi
  cases hi
  rw [h.guards_eq]
  exact hg

/-! One rule for each action of a handler. -/

theorem does_getState {f : S → Program S K V C Ans ε α}
    (h : Does R m (At R state guards held drop fresh) (f state) T) :
    Does R m (At R state guards held drop fresh) (getState >>= f) T := by
  refine .bind_perform stable_at fun w r w' hw he => ?_
  obtain ⟨answer, -, hx⟩ := effect_iff.mp he
  cases hx
  rw [hw.state_eq]
  exact h w hw

theorem does_setState {state' : S} {drop' : Option K} {fresh' : Option ℕ}
    {f : Unit → Program S K V C Ans ε α}
    (hset : ∀ w, At R state guards held drop fresh w →
      Tracked R drop' fresh' { w with state := state' })
    (h : Does R m (At R state' guards held drop' fresh') (f ()) T) :
    Does R m (At R state guards held drop fresh) (setState state' >>= f) T := by
  refine .bind_perform stable_at fun w r w' hw he => ?_
  obtain ⟨answer, -, hx⟩ := effect_iff.mp he
  cases hx
  exact h _ ⟨rfl, hw.guards_eq, hw.held_eq, hset w hw⟩

theorem does_register {f : S → S} {g : ℕ} {k : Unit → Program S K V C Ans ε α} (key : K)
    (hg : guards[g]? = some key) (hheld : g ∈ held)
    (hentry : ∀ k, R.entry (f state) k = if k = key then some g else R.entry state k)
    (h : Does R m (At R (f state) guards held drop none) (k ()) T) :
    Does R m (At R state guards held drop (some g)) (modifyState f >>= k) T := by
  refine does_getState (does_setState (fun w hw => ?_) h)
  refine hw.tracked.register key (hw.guards_eq ▸ hg) ?_ (hw.state_eq ▸ hentry)
  rw [World.strong, hw.held_eq]
  exact Nat.add_pos_left (List.count_pos_iff.mpr hheld) _

theorem does_unregister {f : S → S} {g : ℕ} {k : Unit → Program S K V C Ans ε α} (key : K)
    (hg : R.entry state key = some g)
    (hentry : ∀ k, R.entry (f state) k = if k = key then none else R.entry state k)
    (h : guards[g]? = some key → Does R m (At R (f state) guards held none none) (k ()) T) :
    Does R m (At R state guards held (some key) none) (modifyState f >>= k) T := by
  intro w hw
  have hkey := hw.tracked.keyed key g (by rw [hw.state_eq]; exact hg)
  exact does_getState (does_setState
    (fun _ hw => hw.tracked.unregister (hw.state_eq ▸ hentry)) (h (hw.guards_eq ▸ hkey))) w hw

theorem does_drop_none {p : Program S K V C Ans ε α} {key : K} (h : R.entry state key = none) :
    Does R m (At R state guards held (some key) fresh) p T := by
  refine .of_false fun w hw => ?_
  obtain ⟨g, he, -⟩ := hw.tracked.drop_dead
  rw [hw.state_eq, h] at he
  cases he

theorem does_channel {capacity : Option ℕ} {f : ℕ → Program S K V C Ans ε α}
    (h : ∀ channel, Does R m (At R state guards held drop fresh) (f channel) T) :
    Does R m (At R state guards held drop fresh) (channel capacity >>= f) T := by
  refine .bind_perform stable_at fun w r w' hw he => ?_
  obtain ⟨answer, haccepts, hx⟩ := effect_iff.mp he
  have haccepts : accepts capacity := haccepts
  simp only [exec, if_pos haccepts] at hx
  cases hx
  refine h _ _ ⟨hw.state_eq, hw.guards_eq, hw.held_eq, ?_⟩
  have := hw.tracked
  exact ⟨this.open_ports, this.armed, this.mail, this.keyed, this.alive, this.handled, this.known,
    this.paid, this.fresh_held⟩

theorem does_call {c : C} {f : Ans c → Program S K V C Ans ε α}
    (h : ∀ a, R.succeeds c a → Does R m (At R state guards held drop fresh) (f a) T) :
    Does R m (At R state guards held drop fresh) (call c >>= f) T := by
  refine .bind_perform stable_at fun w r w' hw he => ?_
  obtain ⟨answer, hs, hx⟩ := effect_iff.mp he
  cases hx
  exact h _ hs w hw

theorem does_upgrade {g : ℕ} {key : K} {f : Bool → Program S K V C Ans ε α}
    (hm : (R.registers m).isSome) (hentry : R.entry state key = some g)
    (h : guards[g]? = some key → Does R m (At R state guards (g :: held) drop fresh) (f true) T) :
    Does R m (At R state guards held drop fresh) (upgrade g >>= f) T := by
  refine .bind_perform stable_at fun w r w' hw he => ?_
  obtain ⟨answer, halive, hx⟩ := effect_iff.mp he
  have halive : 0 < w.strong g := halive hm
  simp only [exec, if_pos halive] at hx
  cases hx
  have hkey := hw.tracked.keyed key g (by rw [hw.state_eq]; exact hentry)
  refine h (hw.guards_eq ▸ hkey) _ ⟨hw.state_eq, hw.guards_eq, by simp [hw.held_eq], ?_⟩
  refine hw.tracked.rehold (fun i => ?_) hw.tracked.handled
    fun i hi => (hw.tracked.fresh_held i hi).1
  simp only [World.strong, List.count_cons] at halive ⊢
  by_cases hi : g = i
  · subst hi
    omega
  · simp [hi]

theorem does_upgrade_dead {g : ℕ} {key : K} {f : Bool → Program S K V C Ans ε α}
    (hg : guards[g]? = some key) (hentry : R.entry state key = none)
    (h : Does R m (At R state guards held drop none) (f false) T) :
    Does R m (At R state guards held drop none) (upgrade g >>= f) T := by
  refine .bind_perform stable_at fun w r w' hw he => ?_
  obtain ⟨answer, -, hx⟩ := effect_iff.mp he
  have hdead : ¬ 0 < w.strong g := by
    intro halive
    obtain ⟨key', hkey', he'⟩ := hw.tracked.alive g halive (by simp)
    rw [hw.guards_eq, hg] at hkey'
    cases hkey'
    rw [hw.state_eq, hentry] at he'
    cases he'
  simp only [exec, if_neg hdead] at hx
  cases hx
  exact h w hw

theorem does_release {g : ℕ} {f : Unit → Program S K V C Ans ε α}
    (h : Does R m (At R state guards held drop none) (f ()) T) :
    Does R m (At R state guards (g :: held) drop none) (release g >>= f) T := by
  refine .bind_perform stable_at fun w r w' hw he => ?_
  obtain ⟨answer, -, hx⟩ := effect_iff.mp he
  cases hx
  have hheld : w.held.erase g = held := by rw [hw.held_eq, List.erase_cons_head]
  refine h _ ⟨?_, ?_, ?_, ?_⟩
  · rw [World.release, World.settle_eq]
    exact hw.state_eq
  · rw [World.release, World.settle_eq]
    exact hw.guards_eq
  · rw [World.release, World.settle_eq]
    exact hheld
  · apply hw.tracked.lose (by simp) (fun x hx => hx)
    intro i
    simp only [World.strong, hw.held_eq, List.erase_cons_head, List.count_cons, beq_iff_eq,
      eq_comm (a := i)]
    omega

theorem does_newGuard {key : K} {f : ℕ → Program S K V C Ans ε α}
    (hentry : R.entry state key = none)
    (h : Does R m (At R state (guards ++ [key]) (guards.length :: held) drop (some guards.length))
      (f guards.length) T) :
    Does R m (At R state guards held drop none) (newGuard key >>= f) T := by
  refine .bind_perform stable_at fun w r w' hw he => ?_
  obtain ⟨answer, -, hx⟩ := effect_iff.mp he
  cases hx
  obtain ⟨rfl, rfl, rfl, ht⟩ := hw
  refine h _ ⟨rfl, rfl, rfl, ?_⟩
  have hgrow : ∀ {g : ℕ} {k : K}, w.guards[g]? = some k → (w.guards ++ [key])[g]? = some k := by
    intro g k hg
    rw [List.getElem?_append_left (List.getElem?_eq_some_iff.mp hg).1]
    exact hg
  have hstrong : ∀ g, g ≠ w.guards.length →
      { w with guards := w.guards ++ [key], held := w.guards.length :: w.held }.strong g =
        w.strong g := by
    intro g hg
    simp [World.strong, hg.symm]
  refine ⟨ht.open_ports, ht.armed, ht.mail, fun k g hg => hgrow (ht.keyed k g hg), fun g hg hf => ?_,
    fun x hx => hgrow (ht.handled x hx), fun g hg => ?_, fun k => ?_, fun g hf => ?_⟩
  · rw [hstrong g (by simpa [eq_comm] using hf)] at hg
    obtain ⟨k, hk, he⟩ := ht.alive g hg (by simp)
    exact ⟨k, hgrow hk, he⟩
  · rw [List.length_append]
    exact Nat.lt_add_right _ (ht.known g hg)
  · have hpending : w.dropping.filterMap ((w.guards ++ [key])[·]?) =
        w.dropping.filterMap (w.guards[·]?) :=
      List.filterMap_congr fun g hg => List.getElem?_append_left (ht.known g hg)
    have hpaid := ht.paid k
    simp only [Registry.pending, Registry.owed, hpending] at hpaid ⊢
    cases hk : R.entry w.state k with
    | none => rwa [hk] at hpaid
    | some g =>
      have hg := (List.getElem?_eq_some_iff.mp (ht.keyed k g hk)).1
      simp only [hk, hstrong g (Nat.ne_of_lt hg)] at hpaid ⊢
      exact hpaid
  · cases hf
    refine ⟨fun hmem => ?_, key, by simp, hentry⟩
    obtain ⟨x, hx, hxg⟩ := List.mem_map.mp hmem
    have := (List.getElem?_eq_some_iff.mp (ht.handled x hx)).1
    omega

theorem does_send {port : ℕ} {value : V} :
    Does R m (Ready R m value) (send port value) (Prog.Outcome (fun _ => Idle R) fun _ _ => False) := by
  refine .perform stable_ready (fun r w w' h hc => ?_) fun w r w' hw he => ?_
  · cases r with
    | ok u => exact stable_idle w w' h hc
    | error e => exact h
  · obtain ⟨answer, -, hx⟩ := effect_iff.mp he
    obtain ⟨hheld, ht, hkey⟩ := hw
    have hopen : port ∉ w.closed := by rw [ht.open_ports]; exact Finset.notMem_empty port
    simp only [exec, reply, if_neg hopen] at hx
    cases hg : R.guardOf value with
    | none =>
      rw [hg] at hheld hx
      cases hm : R.registers m <;> rw [hm] at hx <;> cases hx <;> exact ⟨hheld, ht⟩
    | some g =>
      obtain ⟨key, hm, hguard⟩ := hkey g hg
      rw [hg] at hheld
      rw [hg, hm] at hx
      cases hx
      have herase : w.held.erase g = [] := by
        rw [hheld]
        exact List.erase_cons_head ..
      refine ⟨herase, ht.rehold (fun i => ?_) (fun x hx => ?_) (by simp)⟩
      · simp only [World.strong, hheld, Option.toList_some, List.erase_cons_head, List.map_append,
          List.map_cons, List.map_nil, List.count_append, List.count_nil]
        omega
      · rcases List.mem_append.mp hx with hx | hx
        · exact ht.handled x hx
        · rw [List.mem_singleton.mp hx]
          exact hguard

theorem does_reply {β : Type} {P : World S K M → Prop} {p : Program S K V C Ans MessagingErr β}
    {port : ℕ} {value : β → V}
    (h : Does R m P p (Prog.Outcome (fun a => Ready R m (value a)) fun _ _ => False)) :
    Does R m P (p >>= fun a => send port (value a))
      (Prog.Outcome (fun _ => Idle R) fun _ _ => False) :=
  .bind_except h (fun _ => does_send) fun _ _ he => he

/-! Programs that change nothing of all this. -/

variable (R) in
def Keeps (m : M) (p : Program S K V C Ans ε α) : Prop :=
  ∀ state guards held drop fresh, Does R m (At R state guards held drop fresh) p
    fun _ => At R state guards held drop fresh

variable {β δ : Type}

theorem does_keeps {p : Program S K V C Ans ε β} {f : β → Program S K V C Ans ε α}
    (hp : Keeps R m p) (h : ∀ a, Does R m (At R state guards held drop fresh) (f a) T)
    (he : ∀ e w, At R state guards held drop fresh w → T (.error e) w) :
    Does R m (At R state guards held drop fresh) (p >>= f) T := by
  refine .bind_except (E := fun _ => At R state guards held drop fresh) ?_ h he
  exact (hp state guards held drop fresh).weaken (fun _ hw => hw) fun r _ hw => by cases r <;> exact hw

theorem keeps_pure (a : α) : Keeps (ε := ε) R m (pure a) :=
  fun _ _ _ _ _ => .ret stable_at fun _ hw => hw

theorem keeps_ofExcept (e : Except ε α) : Keeps R m (ofExcept e : Program S K V C Ans ε α) := by
  intro state guards held drop fresh
  cases e with
  | ok a => exact .ret stable_at fun _ hw => hw
  | error e => exact .ret stable_at fun _ hw => hw

theorem keeps_bind {p : Program S K V C Ans ε β} {f : β → Program S K V C Ans ε α}
    (hp : Keeps R m p) (hf : ∀ a, Keeps R m (f a)) : Keeps R m (p >>= f) :=
  fun _ _ _ _ _ => does_keeps hp (fun a => hf a _ _ _ _ _) fun _ _ hw => hw

theorem keeps_call_bind {c : C} {f : Ans c → Program S K V C Ans ε α} (hf : ∀ a, Keeps R m (f a)) :
    Keeps R m (call c >>= f) :=
  fun _ _ _ _ _ => does_call fun a _ => hf a _ _ _ _ _

theorem keeps_channel_bind {capacity : Option ℕ} {f : ℕ → Program S K V C Ans ε α}
    (hf : ∀ n, Keeps R m (f n)) : Keeps R m (channel capacity >>= f) :=
  fun _ _ _ _ _ => does_channel fun n => hf n _ _ _ _ _

theorem keeps_orThrow {g : δ → ε} {p : Program S K V C Ans δ α} (hp : Keeps R m p) :
    Keeps R m (Prog.orThrow g p) :=
  fun _ _ _ _ _ => .orThrow (hp _ _ _ _ _)

end RosrustAsync.Actor
