import Mathlib.Data.List.AList
import Mathlib.Data.List.Count
import Mathlib.Data.List.Perm.Basic
import RosrustAsync.Lib.Actor

namespace RosrustAsync.Actor

structure Registry (S K V C M : Type) (Ans : C → Type) extends Behaviour S K V C M Ans where
  -- the guard registered under a key
  entry : S → K → Option ℕ
  -- the key of a drop message
  drops : M → Option K
  -- the messages that the clients may send
  client : M → Prop
  succeeds : (c : C) → Ans c → Prop
  drops_client : ∀ m, client m → drops m = none
  drops_dropMsg : ∀ key, drops (dropMsg key) = some key

variable {S K V C M : Type} {Ans : C → Type} [DecidableEq K] (R : Registry S K V C M Ans)

/-- The clients send what they may send and wait for every answer. -/
def Registry.Allowed (_w : World S K M) : ClientLabel M → Prop
  | .enqueue m => R.client m
  | .abandon _ => False
  | _ => True

/-- The keys whose guards are dropped but whose drop messages are not handled yet. -/
def Registry.pending (w : World S K M) : List K :=
  w.mailbox.filterMap R.drops ++ w.dropping.filterMap (w.guards[·]?)

/-- The drop messages that a key is owed: one, as long as its entry's guard is dead. -/
def Registry.owed (w : World S K M) (key : K) : ℕ :=
  match R.entry w.state key with
  | some g => if w.strong g = 0 then 1 else 0
  | none => 0

/-- The invariant while the actor handles a drop message for the key `drop`, and has made the guard
`fresh` that it has not registered yet. -/
structure Tracked (drop : Option K) (fresh : Option ℕ) (w : World S K M) : Prop where
  open_ports : w.closed = ∅
  armed : w.disarmed = ∅
  mail : ∀ m ∈ w.mailbox, R.client m ∨ (R.drops m).isSome
  keyed : ∀ key g, R.entry w.state key = some g → w.guards[g]? = some key
  alive : ∀ g, 0 < w.strong g → fresh ≠ some g →
    ∃ key, w.guards[g]? = some key ∧ R.entry w.state key = some g
  handled : ∀ h ∈ w.handles, w.guards[h.2]? = some h.1
  known : ∀ g ∈ w.dropping, g < w.guards.length
  paid : ∀ key, (drop.toList ++ R.pending w).count key = R.owed w key
  fresh_held : ∀ g, fresh = some g → g ∉ w.handles.map Prod.snd ∧
    ∃ key, w.guards[g]? = some key ∧ R.entry w.state key = none

variable {R} {drop : Option K} {fresh : Option ℕ} {w : World S K M}

theorem count_pending_settle {g : ℕ} {key : K} (hg : w.guards[g]? = some key) (k : K) :
    (R.pending (w.settle g)).count k =
      (R.pending w).count k + if w.strong g = 0 ∧ key = k then 1 else 0 := by
  rw [World.settle_eq]
  simp only [Registry.pending, List.filterMap_append, List.count_append]
  by_cases hz : w.strong g = 0
  · simp [hz, hg, List.count_singleton, Nat.add_assoc]
  · simp [hz]

theorem perm_eraseIdx {α : Type} {l : List α} {i : ℕ} {x : α} (h : l[i]? = some x) :
    (x :: l.eraseIdx i).Perm l := by
  obtain ⟨hi, rfl⟩ := List.getElem?_eq_some_iff.mp h
  exact List.getElem_cons_eraseIdx_perm hi

namespace Tracked

theorem key_eq (h : Tracked R drop fresh w) {key key' : K} {g : ℕ}
    (he : R.entry w.state key = some g) (hg : w.guards[g]? = some key') : key = key' :=
  Option.some.inj ((h.keyed key g he).symm.trans hg)

/-- One `Arc` of `g` goes away; the last one makes the key of `g` owe a drop message. -/
theorem lose (h : Tracked R drop fresh w) {held : List ℕ} {handles : List (K × ℕ)} {g : ℕ}
    (hg : fresh ≠ some g) (hsub : ∀ x ∈ handles, x ∈ w.handles)
    (hs : ∀ i, w.strong i = { w with held, handles }.strong i + if i = g then 1 else 0) :
    Tracked R drop fresh ({ w with held, handles }.settle g) := by
  have hpos : 0 < w.strong g := by
    rw [hs g, if_pos rfl]
    exact Nat.succ_pos _
  obtain ⟨key, hkey, he⟩ := h.alive g hpos hg
  have howed : ∀ k, R.owed ({ w with held, handles }.settle g) k =
      R.owed w k + if { w with held, handles }.strong g = 0 ∧ key = k then 1 else 0 := by
    intro k
    rw [World.settle_eq]
    by_cases hk : key = k
    · subst hk
      simp only [Registry.owed, he, Nat.ne_of_gt hpos, if_false, and_true, Nat.zero_add]
      rfl
    · cases hek : R.entry w.state k with
      | none => simp [Registry.owed, hek, hk]
      | some i =>
        have hi : i ≠ g := fun hi => hk (h.key_eq (hi ▸ hek) hkey).symm
        have hsame := hs i
        rw [if_neg hi, Nat.add_zero] at hsame
        simp only [Registry.owed, hek, hsame, hk, and_false, if_false, Nat.add_zero]
        rfl
  have hpaid : ∀ k, (drop.toList ++ R.pending ({ w with held, handles }.settle g)).count k =
      R.owed ({ w with held, handles }.settle g) k := by
    intro k
    rw [howed k, List.count_append, count_pending_settle (w := { w with held, handles }) hkey,
      ← h.paid k, List.count_append, Nat.add_assoc]
    rfl
  rw [World.settle_eq] at hpaid ⊢
  refine ⟨h.open_ports, h.armed, h.mail, h.keyed, fun i hi hf => h.alive i ?_ hf,
    fun x hx => h.handled x (hsub x hx), fun i hi => ?_, hpaid,
    fun i hf => ⟨fun hi => ?_, (h.fresh_held i hf).2⟩⟩
  · rw [hs i]
    exact Nat.add_pos_left hi _
  · rcases List.mem_append.mp hi with hi | hi
    · exact h.known i hi
    · split at hi
      · exact List.mem_singleton.mp hi ▸ (List.getElem?_eq_some_iff.mp hkey).1
      · cases hi
  · obtain ⟨x, hx, rfl⟩ := List.mem_map.mp hi
    exact (h.fresh_held _ hf).1 (List.mem_map_of_mem (hsub x hx))

theorem rehold (h : Tracked R drop fresh w) {held : List ℕ} {handles : List (K × ℕ)}
    (hs : ∀ i, { w with held, handles }.strong i = 0 ↔ w.strong i = 0)
    (hh : ∀ x ∈ handles, w.guards[x.2]? = some x.1)
    (hf : ∀ g, fresh = some g → g ∉ handles.map Prod.snd) :
    Tracked R drop fresh { w with held, handles } := by
  have howed : ∀ k, R.owed { w with held, handles } k = R.owed w k := by
    intro k
    simp only [Registry.owed]
    cases R.entry w.state k with
    | none => rfl
    | some i => simp only [hs i]
  refine ⟨h.open_ports, h.armed, h.mail, h.keyed, fun i hi => h.alive i ?_, hh,
    h.known, fun k => (h.paid k).trans (howed k).symm, fun g hg => ⟨hf g hg, (h.fresh_held g hg).2⟩⟩
  have := hs i
  omega

theorem client_step (h : Tracked R drop fresh w) {l : ClientLabel M} {w' : World S K M}
    (hl : R.Allowed w l)
    (he : clientStep R.toBehaviour w l = some w') :
    Tracked R drop fresh w' ∧ w'.state = w.state ∧ w'.guards = w.guards ∧ w'.held = w.held := by
  cases l with
  | enqueue m =>
    cases he
    refine ⟨⟨h.open_ports, h.armed, fun m' hm => ?_, h.keyed, h.alive, h.handled, h.known,
      fun k => ?_, h.fresh_held⟩, rfl, rfl, rfl⟩
    · rcases List.mem_append.mp hm with hm | hm
      · exact h.mail m' hm
      · exact .inl (List.mem_singleton.mp hm ▸ hl)
    · have hpaid := h.paid k
      simp only [Registry.pending, List.filterMap_append, List.filterMap_cons, List.filterMap_nil,
        R.drops_client m hl, List.append_nil] at hpaid ⊢
      exact hpaid
  | clone i =>
    obtain ⟨x, hx, he⟩ := Option.bind_eq_some_iff.mp he
    split at he
    · cases he
      have hmem : x ∈ w.handles := List.mem_of_getElem? hx
      refine ⟨h.rehold (fun j => ?_) (fun y hy => ?_) (fun g hg hi => ?_), rfl, rfl, rfl⟩
      · have hpos : 0 < (w.handles.map Prod.snd).count x.2 :=
          List.count_pos_iff.mpr (List.mem_map_of_mem hmem)
        simp only [World.strong, List.map_append, List.map_cons, List.map_nil, List.count_append,
          List.count_singleton]
        by_cases hj : x.2 = j
        · subst hj
          omega
        · simp [hj]
      · rcases List.mem_append.mp hy with hy | hy
        · exact h.handled y hy
        · exact List.mem_singleton.mp hy ▸ h.handled x hmem
      · rw [List.map_append, List.mem_append] at hi
        rcases hi with hi | hi
        · exact (h.fresh_held g hg).1 hi
        · exact (h.fresh_held g hg).1 (List.mem_singleton.mp hi ▸ List.mem_map_of_mem hmem)
    · cases he
  | dropHandle i =>
    obtain ⟨x, hx, he⟩ := Option.bind_eq_some_iff.mp he
    cases he
    have hmem : x ∈ w.handles := List.mem_of_getElem? hx
    refine ⟨h.lose (fun hf => (h.fresh_held _ hf).1 (List.mem_map_of_mem hmem))
      (fun y hy => List.mem_of_mem_eraseIdx hy) fun j => ?_, ?_, ?_, ?_⟩
    · have hperm := ((perm_eraseIdx hx).map Prod.snd).count_eq j
      simp only [List.map_cons, List.count_cons] at hperm
      simp only [World.strong, ← hperm, beq_iff_eq, eq_comm (a := j), Nat.add_assoc]
    all_goals rw [World.settle_eq]
  | guardDrop i =>
    obtain ⟨g, hg, he⟩ := Option.bind_eq_some_iff.mp he
    obtain ⟨key, hkey, he⟩ := Option.bind_eq_some_iff.mp he
    have hg' : g ∉ w.disarmed := by rw [h.armed]; exact Finset.notMem_empty g
    rw [if_neg hg'] at he
    cases he
    refine ⟨⟨h.open_ports, h.armed, fun m hm => ?_, h.keyed, h.alive, h.handled,
      fun g hg => h.known g (List.mem_of_mem_eraseIdx hg), fun k => ?_, h.fresh_held⟩, rfl, rfl, rfl⟩
    · rcases List.mem_append.mp hm with hm | hm
      · exact h.mail m hm
      · exact .inr (by rw [List.mem_singleton.mp hm, R.drops_dropMsg]; rfl)
    · have hperm := ((perm_eraseIdx hg).filterMap (w.guards[·]?)).count_eq k
      have hpaid := h.paid k
      simp only [List.filterMap_cons, hkey, List.count_cons] at hperm
      simp only [Registry.pending, List.filterMap_append, List.count_append, List.filterMap_cons,
        List.filterMap_nil, R.drops_dropMsg, List.count_singleton, ← hperm] at hpaid ⊢
      refine Eq.trans ?_ hpaid
      omega
  | abandon port => exact hl.elim

theorem register {g : ℕ} {state' : S} (h : Tracked R drop (some g) w) (key : K)
    (hg : w.guards[g]? = some key) (hpos : 0 < w.strong g)
    (hentry : ∀ k, R.entry state' k = if k = key then some g else R.entry w.state k) :
    Tracked R drop none { w with state := state' } := by
  have hnone : R.entry w.state key = none := by
    obtain ⟨-, key', hkey', he⟩ := h.fresh_held g rfl
    rw [hg] at hkey'
    cases hkey'
    exact he
  refine ⟨h.open_ports, h.armed, h.mail, fun k i he => ?_, fun i hi _ => ?_, h.handled, h.known,
    fun k => ?_, by simp⟩
  · rw [hentry] at he
    split at he
    · rename_i hk
      cases he
      rw [hk]
      exact hg
    · exact h.keyed k i he
  · by_cases hig : i = g
    · exact ⟨key, hig ▸ hg, by rw [hentry, if_pos rfl, hig]⟩
    · obtain ⟨k, hk, he⟩ := h.alive i hi (by simpa [eq_comm] using hig)
      refine ⟨k, hk, ?_⟩
      rw [hentry, if_neg, he]
      rintro rfl
      rw [hnone] at he
      cases he
  · apply (h.paid k).trans
    simp only [Registry.owed, hentry]
    by_cases hk : k = key
    · subst hk
      have hs : { w with state := state' }.strong g = w.strong g := rfl
      simp only [hnone, if_true, hs, Nat.ne_of_gt hpos, if_false]
    · simp only [if_neg hk]
      rfl

theorem drop_dead {key : K} (h : Tracked R (some key) fresh w) :
    ∃ g, R.entry w.state key = some g ∧ w.strong g = 0 ∧ key ∉ R.pending w := by
  have hpaid := h.paid key
  simp only [Registry.owed, Option.toList_some, List.singleton_append, List.count_cons_self] at hpaid
  split at hpaid
  · rename_i g he
    split at hpaid
    · rename_i hz
      exact ⟨g, he, hz, List.count_eq_zero.mp (by omega)⟩
    · omega
  · omega

theorem dead_of_mail (h : Tracked R drop fresh w) {m : M} (hm : m ∈ w.mailbox) {key : K}
    (hdrop : R.drops m = some key) {g : ℕ} (he : R.entry w.state key = some g) :
    w.strong g = 0 := by
  have hpaid := h.paid key
  have hcount : 0 < (drop.toList ++ R.pending w).count key := by
    refine List.count_pos_iff.mpr (List.mem_append_right _ (List.mem_append_left _ ?_))
    exact List.mem_filterMap.mpr ⟨m, hm, hdrop⟩
  simp only [Registry.owed, he] at hpaid
  split at hpaid
  · assumption
  · omega

theorem unregister {state' : S} {key : K} (h : Tracked R (some key) none w)
    (hentry : ∀ k, R.entry state' k = if k = key then none else R.entry w.state k) :
    Tracked R none none { w with state := state' } := by
  obtain ⟨g, hg, hdead, hpending⟩ := h.drop_dead
  refine ⟨h.open_ports, h.armed, h.mail, fun k i he => ?_, fun i hi _ => ?_, h.handled, h.known,
    fun k => ?_, by simp⟩
  · rw [hentry] at he
    split at he
    · cases he
    · exact h.keyed k i he
  · obtain ⟨k, hk, he⟩ := h.alive i hi (by simp)
    refine ⟨k, hk, ?_⟩
    rw [hentry, if_neg, he]
    rintro rfl
    rw [hg] at he
    cases he
    exact absurd hdead (Nat.ne_of_gt hi)
  · by_cases hk : k = key
    · subst hk
      simp only [Registry.owed, hentry, if_true]
      exact List.count_eq_zero.mpr hpending
    · have hpaid := h.paid k
      simp only [Registry.owed, hentry, if_neg hk, Option.toList_some, List.singleton_append,
        List.count_cons_of_ne (Ne.symm hk)] at hpaid ⊢
      exact hpaid

end Tracked

section GuardAt

variable {β : Type} {table : AList fun _ : K => ℕ × β}

def guardAt (table : AList fun _ : K => ℕ × β) (name : K) : Option ℕ :=
  (table.lookup name).map Prod.fst

theorem guardAt_of_some {name : K} {entry : ℕ × β} (h : table.lookup name = some entry) :
    guardAt table name = some entry.1 := by
  rw [guardAt, h]
  rfl

theorem guardAt_of_none {name : K} (h : table.lookup name = none) : guardAt table name = none := by
  rw [guardAt, h]
  rfl

theorem guardAt_insert (name : K) (entry : ℕ × β) (k : K) :
    guardAt (table.insert name entry) k = if k = name then some entry.1 else guardAt table k := by
  by_cases hk : k = name
  · subst hk
    simp [guardAt]
  · simp [guardAt, hk, AList.lookup_insert_ne hk]

theorem guardAt_erase (name k : K) :
    guardAt (table.erase name) k = if k = name then none else guardAt table k := by
  by_cases hk : k = name
  · subst hk
    simp [guardAt]
  · simp [guardAt, hk, AList.lookup_erase_ne hk]

end GuardAt

end RosrustAsync.Actor
