import Mathlib.Data.List.AList
import Mathlib.Data.List.InsertIdx
import RosrustAsync.Lib.Actor
import RosrustAsync.Lib.Within

namespace RosrustAsync.Actor

/-!
Registrations under one key share an entry. Each live handle is kept with the tag of the message
that asked for it, which is compared with the tag of the entry only.
-/

structure Tagged (S K M T : Type) where
  world : World S K M
  live : List ((K × ℕ) × T)

structure Sharing (S K V C M T : Type) (Ans : C → Type) extends Behaviour S K V C M Ans where
  -- the guard and the tag registered under a key
  entry : S → K → Option (ℕ × T)
  -- the tag that a registration message brings
  tag : M → Option T
  -- the key whose entry a message takes away
  removes : M → Option K
  fits : T → T → Prop
  -- what a tag must meet beside one of a live handle, when both fit the entry's
  joins : T → T → T → Prop
  fits_refl : ∀ t, fits t t
  fits_symm : ∀ t u, fits t u → fits u t
  fits_of_joins : ∀ u t s, fits t u → fits s u → joins u t s → fits t s

section Process

variable {S K M T : Type}

def liveStep (live : List ((K × ℕ) × T)) : ClientLabel M → List ((K × ℕ) × T)
  | .clone i => live ++ live[i]?.toList
  | .dropHandle i => live.eraseIdx i
  | _ => live

/-- The handles that `w'` has in addition to those of `w`, with the tag they were asked for by. -/
def delivered (tag : Option T) (w w' : World S K M) : List ((K × ℕ) × T) :=
  match tag with
  | some t => (w'.handles.drop w.handles.length).map fun handle => (handle, t)
  | none => []

variable {V C : Type} {Ans : C → Type} (R : Sharing S K V C M T Ans)

def tagged : Process (Tagged S K M T) (ClientLabel M) ((c : C) → Ans c) M (Act S K V C)
    MessagingErr (Act.Res Ans) where
  outside w l := do some ⟨← clientStep R.toBehaviour w.world l, liveStep w.live l⟩
  receive w := do
    let (m, world) ← receive w.world
    some (m, { w with world })
  handle m := (R.handle m).run
  exec m answer a w := do
    let (r, world) ← exec R.toBehaviour m answer a w.world
    some (r, ⟨world, w.live ++ delivered (R.tag m) w.world world⟩)

namespace Sharing

/-- No entry is taken away while its key has a handle, and no handle is added beside one that its
tag does not join. -/
def Meets (m : M) (_answer : (c : C) → Ans c) (a : Act S K V C) (w : Tagged S K M T) : Prop :=
  match a with
  | .set _ => ∀ key, R.removes m = some key → ∀ x ∈ w.live, x.1.1 ≠ key
  | .send _ value => ∀ g key t u, R.guardOf value = some g → R.registers m = some key →
      R.tag m = some t → R.entry w.world.state key = some (g, u) →
        ∀ x ∈ w.live, x.1.1 = key → R.joins u t x.2
  | _ => True

structure Shared (w : Tagged S K M T) : Prop where
  handles_eq : w.live.map Prod.fst = w.world.handles
  stored : ∀ x ∈ w.live, ∃ u, R.entry w.world.state x.1.1 = some (x.1.2, u) ∧ R.fits x.2 u
  fit : ∀ x ∈ w.live, ∀ y ∈ w.live, x.1.1 = y.1.1 → R.fits x.2 y.2

/-- The actor's state, and a key that no handle has. -/
structure Here (state : S) (gone : Option K) (w : Tagged S K M T) : Prop where
  state_eq : w.world.state = state
  shared : R.Shared w
  not_live : ∀ key, gone = some key → ∀ x ∈ w.live, x.1.1 ≠ key

/-- The guard in a reply is that of the entry, whose tag fits the message's. -/
structure Ready (m : M) (value : V) (w : Tagged S K M T) : Prop where
  shared : R.Shared w
  entry : ∀ g, R.guardOf value = some g → ∃ key t u, R.registers m = some key ∧
    R.tag m = some t ∧ R.entry w.world.state key = some (g, u) ∧ R.fits t u

abbrev Others : Tagged S K M T → Tagged S K M T → Prop := (tagged R).others fun _ _ => True

abbrev Holds {ε α : Type} (m : M) (P : Tagged S K M T → Prop) (p : Program S K V C Ans ε α)
    (Q : Except ε α → Tagged S K M T → Prop) : Prop :=
  Prog.Keeping ((tagged R).effect R.Meets m) R.Others R.Shared P p.run Q

variable {R} {w w' : Tagged S K M T}

theorem Shared.of_subset (h : R.Shared w) (hstate : w'.world.state = w.world.state)
    (hhandles : w'.live.map Prod.fst = w'.world.handles) (hlive : ∀ x ∈ w'.live, x ∈ w.live) :
    R.Shared w' := by
  refine ⟨hhandles, fun x hx => ?_, fun x hx y hy => h.fit x (hlive x hx) y (hlive y hy)⟩
  rw [hstate]
  exact h.stored x (hlive x hx)

theorem clientStep_handles {B : Behaviour S K V C M Ans} {w w' : World S K M} {l : ClientLabel M}
    (he : clientStep B w l = some w') : w'.state = w.state ∧
      ∀ live : List ((K × ℕ) × T), live.map Prod.fst = w.handles →
        (liveStep live l).map Prod.fst = w'.handles := by
  cases l with
  | enqueue m | abandon port =>
    cases he
    exact ⟨rfl, fun live h => h⟩
  | clone i =>
    obtain ⟨handle, hi, he⟩ := Option.bind_eq_some_iff.mp he
    split at he
    · cases he
      refine ⟨rfl, fun live h => ?_⟩
      rw [← h, List.getElem?_map] at hi
      obtain ⟨x, hx, rfl⟩ := Option.map_eq_some_iff.mp hi
      simp [liveStep, hx, h]
    · cases he
  | dropHandle i =>
    obtain ⟨handle, hi, he⟩ := Option.bind_eq_some_iff.mp he
    cases he
    rw [World.settle_eq]
    refine ⟨rfl, fun live h => ?_⟩
    rw [liveStep, ← List.eraseIdx_map, h]
  | guardDrop i =>
    obtain ⟨g, hg, he⟩ := Option.bind_eq_some_iff.mp he
    obtain ⟨key, hkey, he⟩ := Option.bind_eq_some_iff.mp he
    cases he
    exact ⟨rfl, fun live h => h⟩

theorem mem_liveStep {live : List ((K × ℕ) × T)} {l : ClientLabel M} {x : (K × ℕ) × T}
    (hx : x ∈ liveStep live l) : x ∈ live := by
  cases l with
  | clone i =>
    rcases List.mem_append.mp hx with hx | hx
    · exact hx
    · exact List.mem_of_getElem? (Option.mem_toList.mp hx)
  | dropHandle i => exact List.mem_of_mem_eraseIdx hx
  | _ => exact hx

theorem shared_others (h : R.Shared w) (he : R.Others w w') : R.Shared w' ∧
    w'.world.state = w.world.state ∧ ∀ x ∈ w'.live, x ∈ w.live := by
  obtain ⟨l, -, he⟩ := he
  obtain ⟨world, hstep, he⟩ := Option.bind_eq_some_iff.mp he
  cases he
  obtain ⟨hstate, hhandles⟩ := clientStep_handles hstep
  have hlive : ∀ x ∈ liveStep w.live l, x ∈ w.live := fun x hx => mem_liveStep hx
  exact ⟨h.of_subset hstate (hhandles _ h.handles_eq) hlive, hstate, hlive⟩

theorem stable_shared : Prog.Stable R.Others R.Shared :=
  fun _ _ h he => (shared_others h he).1

variable {m : M} {state : S} {gone : Option K} {value : V}

theorem stable_here : Prog.Stable R.Others (R.Here state gone) := by
  rintro w w' ⟨hstate, h, hgone⟩ he
  obtain ⟨hshared, hstate', hlive⟩ := shared_others h he
  exact ⟨hstate'.trans hstate, hshared, fun key hkey x hx => hgone key hkey x (hlive x hx)⟩

theorem stable_ready : Prog.Stable R.Others (R.Ready m value) := by
  rintro w w' ⟨h, hentry⟩ he
  obtain ⟨hshared, hstate, -⟩ := shared_others h he
  exact ⟨hshared, by rw [hstate]; exact hentry⟩

/-! One rule for each action of a handler. -/

variable {ε α β δ : Type} {Q : Except ε α → Tagged S K M T → Prop}

theorem effect_tagged {a : Act S K V C} {r : Act.Res Ans a}
    (he : (tagged R).effect R.Meets m a w r w') : ∃ answer world, R.Meets m answer a w ∧
      exec R.toBehaviour m answer a w.world = some (r, world) ∧
      w' = ⟨world, w.live ++ delivered (R.tag m) w.world world⟩ := by
  obtain ⟨answer, hm, hx⟩ := he
  obtain ⟨⟨r', world⟩, hexec, hw⟩ := Option.bind_eq_some_iff.mp hx
  cases hw
  exact ⟨answer, world, hm, hexec, rfl⟩

theorem delivered_of_eq {tag : Option T} {w w' : World S K M} (h : w'.handles = w.handles) :
    delivered tag w w' = [] := by
  cases tag with
  | none => rfl
  | some t =>
    have hdrop : w'.handles.drop w.handles.length = [] := by rw [h, List.drop_length]
    rw [delivered, hdrop]
    rfl

theorem here_of_same {world : World S K M} (h : R.Here state gone w)
    (hstate : world.state = w.world.state) (hhandles : world.handles = w.world.handles) :
    R.Here state gone ⟨world, w.live ++ delivered (R.tag m) w.world world⟩ := by
  rw [delivered_of_eq hhandles, List.append_nil]
  refine ⟨hstate.trans h.state_eq, h.shared.of_subset hstate ?_ (fun x hx => hx), h.not_live⟩
  rw [hhandles]
  exact h.shared.handles_eq

def quiet : Act S K V C → Prop
  | .set _ | .send _ _ => False
  | _ => True

theorem exec_quiet {B : Behaviour S K V C M Ans} {answer : (c : C) → Ans c} {a : Act S K V C}
    {w w' : World S K M} {r : Act.Res Ans a} (ha : quiet a)
    (hx : exec B m answer a w = some (r, w')) : w'.state = w.state ∧ w'.handles = w.handles := by
  cases a with
  | set state | send port value => exact ha.elim
  | upgrade g =>
    simp only [exec] at hx
    split at hx <;> cases hx <;> exact ⟨rfl, rfl⟩
  | channel capacity =>
    simp only [exec] at hx
    split at hx <;> cases hx
    exact ⟨rfl, rfl⟩
  | release g =>
    cases hx
    rw [World.release, World.settle_eq]
    exact ⟨rfl, rfl⟩
  | get | disarm g | newGuard key | call c =>
    cases hx
    exact ⟨rfl, rfl⟩

theorem holds_quiet {a : Act S K V C} {f : Act.Res Ans a → Program S K V C Ans ε α}
    (ha : quiet a) (h : ∀ r, R.Holds m (R.Here state gone) (f r) Q) :
    R.Holds m (R.Here state gone) (ExceptT.lift (Prog.perform a) >>= f) Q := by
  refine .bind_perform stable_here (fun _ hw => hw.shared) fun w r w' hw he => ?_
  obtain ⟨answer, world, -, hx, rfl⟩ := effect_tagged he
  obtain ⟨hstate, hhandles⟩ := exec_quiet ha hx
  exact h r _ (here_of_same hw hstate hhandles)

theorem holds_getState {f : S → Program S K V C Ans ε α}
    (h : R.Holds m (R.Here state gone) (f state) Q) :
    R.Holds m (R.Here state gone) (getState >>= f) Q := by
  refine .bind_perform stable_here (fun _ hw => hw.shared) fun w r w' hw he => ?_
  obtain ⟨answer, world, -, hx, rfl⟩ := effect_tagged he
  cases hx
  rw [hw.state_eq]
  exact h _ (here_of_same hw rfl rfl)

theorem holds_setState {state' : S} {f : Unit → Program S K V C Ans ε α}
    (hentry : ∀ key, gone ≠ some key → R.removes m ≠ some key →
      R.entry state' key = R.entry state key)
    (h : R.Holds m (R.Here state' gone) (f ()) Q) :
    R.Holds m (R.Here state gone) (setState state' >>= f) Q := by
  refine .bind_perform stable_here (fun _ hw => hw.shared) fun w r w' hw he => ?_
  obtain ⟨answer, world, hmeets, hx, rfl⟩ := effect_tagged he
  cases hx
  obtain ⟨rfl, hshared, hgone⟩ := hw
  refine h _ ?_
  have hnone : delivered (R.tag m) w.world { w.world with state := state' } = [] :=
    delivered_of_eq rfl
  rw [hnone, List.append_nil]
  refine ⟨rfl, ⟨hshared.handles_eq, fun x hx => ?_, hshared.fit⟩, hgone⟩
  have hkeep : R.entry state' x.1.1 = R.entry w.world.state x.1.1 :=
    hentry x.1.1 (fun hkey => hgone _ hkey x hx rfl) fun hkey => hmeets _ hkey x hx rfl
  rw [hkeep]
  exact hshared.stored x hx

theorem holds_modifyState {g : S → S} {f : Unit → Program S K V C Ans ε α}
    (hentry : ∀ key, gone ≠ some key → R.removes m ≠ some key →
      R.entry (g state) key = R.entry state key)
    (h : R.Holds m (R.Here (g state) gone) (f ()) Q) :
    R.Holds m (R.Here state gone) (modifyState g >>= f) Q :=
  holds_getState (holds_setState hentry h)

theorem holds_upgrade {g : ℕ} {key : K} {u : T} {f : Bool → Program S K V C Ans ε α}
    (hentry : R.entry state key = some (g, u))
    (htrue : R.Holds m (R.Here state none) (f true) Q)
    (hfalse : R.Holds m (R.Here state (some key)) (f false) Q) :
    R.Holds m (R.Here state none) (upgrade g >>= f) Q := by
  refine .bind_perform stable_here (fun _ hw => hw.shared) fun w r w' hw he => ?_
  obtain ⟨answer, world, -, hx, rfl⟩ := effect_tagged he
  simp only [exec] at hx
  split at hx
  · cases hx
    exact htrue _ (here_of_same hw rfl rfl)
  · rename_i hdead
    cases hx
    refine hfalse _ ?_
    have hsame : R.Here state none ⟨w.world, w.live ++ delivered (R.tag m) w.world w.world⟩ :=
      here_of_same hw rfl rfl
    refine ⟨hsame.state_eq, hsame.shared, ?_⟩
    rintro _ ⟨⟩ x hx hkey
    rw [delivered_of_eq rfl, List.append_nil] at hx
    obtain ⟨u', hu', -⟩ := hw.shared.stored x hx
    rw [hkey, hw.state_eq, hentry] at hu'
    cases hu'
    have hmem : x.1.2 ∈ w.world.handles.map Prod.snd := by
      rw [← hw.shared.handles_eq, List.map_map]
      exact List.mem_map_of_mem hx
    exact hdead (Nat.add_pos_right _ (List.count_pos_iff.mpr hmem))

theorem holds_pure {a : α} (h : ∀ w, R.Here state gone w → Q (.ok a) w) :
    R.Holds m (R.Here state gone) (pure a) Q :=
  .ret stable_here (fun _ hw => hw.shared) h

/-! Programs that leave the actor's state and the handles as they are. -/

variable (R) in
def Silent (m : M) (p : Program S K V C Ans ε α) : Prop :=
  ∀ state gone, R.Holds m (R.Here state gone) p fun _ => R.Here state gone

theorem holds_silent {p : Program S K V C Ans ε β} {f : β → Program S K V C Ans ε α}
    (hp : R.Silent m p) (h : ∀ a, R.Holds m (R.Here state gone) (f a) Q)
    (he : ∀ e w, R.Here state gone w → Q (.error e) w) :
    R.Holds m (R.Here state gone) (p >>= f) Q := by
  refine .bind_except (E := fun _ => R.Here state gone) ?_ h he
  exact (hp state gone).weaken (fun _ hw => hw) fun r _ hw => by cases r <;> exact hw

theorem silent_pure (a : α) : R.Silent (ε := ε) m (pure a) :=
  fun _ _ => holds_pure fun _ hw => hw

theorem silent_ofExcept (x : Except ε α) :
    R.Silent m (ofExcept x : Program S K V C Ans ε α) := by
  intro state gone
  cases x with
  | ok a => exact holds_pure fun _ hw => hw
  | error e => exact .ret stable_here (fun _ hw => hw.shared) fun _ hw => hw

theorem silent_bind {p : Program S K V C Ans ε β} {f : β → Program S K V C Ans ε α}
    (hp : R.Silent m p) (hf : ∀ a, R.Silent m (f a)) : R.Silent m (p >>= f) :=
  fun _ _ => holds_silent hp (fun a => hf a _ _) fun _ _ hw => hw

theorem silent_quiet {a : Act S K V C} {f : Act.Res Ans a → Program S K V C Ans ε α}
    (ha : quiet a) (hf : ∀ r, R.Silent m (f r)) :
    R.Silent m (ExceptT.lift (Prog.perform a) >>= f) :=
  fun _ _ => holds_quiet ha fun r => hf r _ _

theorem silent_attempt {p : Program S K V C Ans δ α} (hp : R.Silent m p) :
    R.Silent (ε := ε) m (Prog.attempt p) := by
  intro state gone
  refine (Prog.Keeping.attempt (E := fun _ => R.Here state gone) (hp state gone)).weaken
    (fun _ hw => hw) fun r _ hw => ?_
  cases r <;> exact hw

theorem Shared.ready (h : R.Shared w) (hv : R.guardOf value = none) : R.Ready m value w := by
  refine ⟨h, fun g hg => ?_⟩
  rw [hv] at hg
  cases hg

theorem holds_none {key : K} {p : Program S K V C Ans ε α} (hentry : R.entry state key = none)
    (h : R.Holds m (R.Here state (some key)) p Q) : R.Holds m (R.Here state none) p Q := by
  intro w hw
  refine h w ⟨hw.state_eq, hw.shared, ?_⟩
  rintro _ ⟨⟩ x hx hkey
  obtain ⟨u, hu, -⟩ := hw.shared.stored x hx
  rw [hkey, hw.state_eq, hentry] at hu
  cases hu

theorem Here.ready_some {g : ℕ} {key : K} {t u : T} (h : R.Here state gone w)
    (hv : R.guardOf value = some g) (hm : R.registers m = some key) (ht : R.tag m = some t)
    (hentry : R.entry state key = some (g, u)) (hfits : R.fits t u) : R.Ready m value w := by
  refine ⟨h.shared, fun i hi => ?_⟩
  rw [hv] at hi
  cases hi
  exact ⟨key, t, u, hm, ht, by rw [h.state_eq]; exact hentry, hfits⟩

theorem shared_deliver {g : ℕ} {key : K} {t u : T} (h : R.Shared w)
    (hentry : R.entry w.world.state key = some (g, u)) (hfits : R.fits t u)
    (hjoins : ∀ x ∈ w.live, x.1.1 = key → R.joins u t x.2) :
    R.Shared ⟨w.world.deliver key g, w.live ++ [((key, g), t)]⟩ := by
  have hnew : ∀ x ∈ w.live, x.1.1 = key → R.fits t x.2 := by
    intro x hx hkey
    obtain ⟨u', hu', hx'⟩ := h.stored x hx
    rw [hkey, hentry] at hu'
    cases hu'
    exact R.fits_of_joins u t x.2 hfits hx' (hjoins x hx hkey)
  refine ⟨?_, fun x hx => ?_, fun x hx y hy hkey => ?_⟩
  · simp [World.deliver, h.handles_eq]
  · rcases List.mem_append.mp hx with hx | hx
    · exact h.stored x hx
    · cases List.mem_singleton.mp hx
      exact ⟨u, hentry, hfits⟩
  · rcases List.mem_append.mp hx with hx | hx
    · rcases List.mem_append.mp hy with hy | hy
      · exact h.fit x hx y hy hkey
      · cases List.mem_singleton.mp hy
        exact R.fits_symm _ _ (hnew x hx hkey)
    · cases List.mem_singleton.mp hx
      rcases List.mem_append.mp hy with hy | hy
      · exact hnew y hy hkey.symm
      · cases List.mem_singleton.mp hy
        exact R.fits_refl t

theorem shared_of_same {world : World S K M} (h : R.Shared w)
    (hstate : world.state = w.world.state) (hhandles : world.handles = w.world.handles) :
    R.Shared ⟨world, w.live ++ delivered (R.tag m) w.world world⟩ := by
  have hhere : R.Here w.world.state none w := ⟨rfl, h, by simp⟩
  exact (here_of_same hhere hstate hhandles).shared

theorem holds_send {port : ℕ} :
    R.Holds m (R.Ready m value) (send port value) fun _ => R.Shared := by
  refine .perform stable_ready (fun _ hw => hw.shared) (fun _ => stable_shared) (fun _ _ hw => hw)
    fun w r w' hw he => ?_
  obtain ⟨answer, world, hmeets, hx, rfl⟩ := effect_tagged he
  simp only [exec, reply] at hx
  split at hx
  · cases hx
    apply shared_of_same hw.shared
    · split
      · rw [World.release, World.settle_eq]
      · rfl
    · split
      · rw [World.release, World.settle_eq]
      · rfl
  · cases hx
    cases hg : R.guardOf value with
    | none => exact shared_of_same hw.shared (by split <;> simp_all) (by split <;> simp_all)
    | some g =>
      obtain ⟨key, t, u, hm, ht, hentry, hfits⟩ := hw.entry g hg
      have hnew := shared_deliver hw.shared hentry hfits (hmeets g key t u hg hm ht hentry)
      simpa [hm, ht, delivered, World.deliver] using hnew

theorem holds_reply {P : Tagged S K M T → Prop} {p : Program S K V C Ans MessagingErr β}
    {port : ℕ} {value : β → V}
    (h : R.Holds m P p (Prog.Outcome (fun a => R.Ready m (value a)) fun _ => R.Shared)) :
    R.Holds m P (p >>= fun a => send port (value a)) fun _ => R.Shared :=
  .bind_except h (fun _ => holds_send) fun _ _ he => he

theorem shared_run {s : S} (hhandle : ∀ m state,
      R.Holds m (R.Here state none) (R.handle m) fun _ => R.Shared)
    {labels : List (Label C M Ans)}
    {c : Process.Config (Tagged S K M T) M (Act S K V C) MessagingErr (Act.Res Ans)}
    (h : Runs.Run (tagged R).step (Process.Ok (fun _ _ => True) R.Meets) ⟨⟨.init s, []⟩, .idle⟩
      labels c) : R.Shared c.world := by
  have hinit : R.Shared ⟨.init s, []⟩ := ⟨rfl, by simp, by simp⟩
  refine Process.always_run stable_shared (fun w m w' hw hm => ?_) hinit h
  obtain ⟨⟨m', world⟩, hreceive, hm⟩ := Option.bind_eq_some_iff.mp hm
  obtain ⟨mailbox, -, hworld⟩ := receive_eq_some hreceive
  cases hm
  cases hworld
  have hhere : R.Here w.world.state none { w with world := { w.world with mailbox := mailbox } } :=
    ⟨rfl, hw.of_subset rfl hw.handles_eq (fun x hx => hx), by simp⟩
  exact (hhandle m _ _ hhere).mono_ret fun _ _ _ => trivial

end Sharing

end Process

section EntryAt

variable {K β T : Type} [DecidableEq K] {table : AList fun _ : K => ℕ × β} {spec : β → T}

def entryAt (spec : β → T) (table : AList fun _ : K => ℕ × β) (name : K) : Option (ℕ × T) :=
  (table.lookup name).map fun entry => (entry.1, spec entry.2)

theorem entryAt_of_lookup {name : K} {entry : Option (ℕ × β)} (h : table.lookup name = entry) :
    entryAt spec table name = entry.map fun entry => (entry.1, spec entry.2) := by
  rw [entryAt, h]

theorem entryAt_insert_self (name : K) (entry : ℕ × β) :
    entryAt spec (table.insert name entry) name = some (entry.1, spec entry.2) := by
  simp [entryAt]

theorem entryAt_insert_ne {name k : K} (h : k ≠ name) (entry : ℕ × β) :
    entryAt spec (table.insert name entry) k = entryAt spec table k := by
  rw [entryAt, AList.lookup_insert_ne h, entryAt]

theorem entryAt_erase_ne {name k : K} (h : k ≠ name) :
    entryAt spec (table.erase name) k = entryAt spec table k := by
  rw [entryAt, AList.lookup_erase_ne h, entryAt]

end EntryAt

end RosrustAsync.Actor
