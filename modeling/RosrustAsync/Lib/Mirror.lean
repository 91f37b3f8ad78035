import Mathlib.Data.List.AList
import RosrustAsync.Lib.Watch

namespace RosrustAsync

/-! A table of resources by name, against what has been registered of them elsewhere. -/

structure Mirrors {β U : Type} (nameOf : β → String) (api : β → U)
    (table : AList fun _ : String => ℕ × β) (reg : AList fun _ : String => U) : Prop where
  registered : ∀ name, reg.lookup name = (table.lookup name).map fun entry => api entry.2
  named : ∀ name entry, table.lookup name = some entry → nameOf entry.2 = name

/-- The table has lost what is registered under one name. -/
structure MirrorsBut {β U : Type} (nameOf : β → String) (api : β → U) (lost : String)
    (table : AList fun _ : String => ℕ × β) (reg : AList fun _ : String => U) : Prop where
  absent : table.lookup lost = none
  registered : ∀ name, name ≠ lost →
    reg.lookup name = (table.lookup name).map fun entry => api entry.2
  named : ∀ name entry, table.lookup name = some entry → nameOf entry.2 = name

variable {β U : Type} {nameOf : β → String} {api : β → U} {name : String}
  {table : AList fun _ : String => ℕ × β} {reg : AList fun _ : String => U}

theorem lookup_eq_none_of_error {ε ε' α : Type} {x : Except ε α} {f : ε → ε'} {e : ε'}
    (hfits : (reg.lookup name).isSome → x.isOk) (he : x.mapError f = .error e) :
    reg.lookup name = none := by
  by_contra hreg
  have hok := hfits (Option.isSome_iff_ne_none.mpr hreg)
  rw [Actor.isOk_of_error he] at hok
  cases hok

theorem mirrors_empty : Mirrors nameOf api ∅ ∅ :=
  ⟨fun _ => by simp, fun _ _ h => by simp at h⟩

namespace Mirrors

theorem lookup_isSome (h : Mirrors nameOf api table reg) (name : String) :
    (reg.lookup name).isSome = (table.lookup name).isSome := by
  rw [h.registered name, Option.isSome_map]

theorem but (h : Mirrors nameOf api table reg) (habsent : table.lookup name = none) :
    MirrorsBut nameOf api name table reg :=
  ⟨habsent, fun n _ => h.registered n, h.named⟩

theorem erase (h : Mirrors nameOf api table reg) (name : String) :
    MirrorsBut nameOf api name (table.erase name) reg := by
  refine ⟨AList.lookup_erase .., fun n hn => ?_, fun n entry hn => ?_⟩
  · rw [AList.lookup_erase_ne hn]
    exact h.registered n
  · by_cases heq : n = name
    · rw [heq, AList.lookup_erase] at hn
      cases hn
    · rw [AList.lookup_erase_ne heq] at hn
      exact h.named n entry hn

theorem entries_perm (h : Mirrors nameOf api table reg) :
    (table.entries.map fun e => (⟨e.1, api e.2.2⟩ : Σ _ : String, U)).Perm reg.entries := by
  refine (List.perm_ext_iff_of_nodup ?_ reg.nodupKeys.nodup).mpr ?_
  · refine List.Nodup.of_map Sigma.fst ?_
    rw [List.map_map]
    exact table.keys_nodup
  · rintro ⟨name, u⟩
    rw [← AList.mem_lookup_iff, Option.mem_def, h.registered name]
    constructor
    · intro hu
      obtain ⟨⟨name', entry⟩, hentry, heq⟩ := List.mem_map.mp hu
      cases heq
      rw [Option.mem_def.mp (AList.mem_lookup_iff.mpr hentry)]
      rfl
    · intro hu
      obtain ⟨entry, hentry, rfl⟩ := Option.map_eq_some_iff.mp hu
      exact List.mem_map.mpr ⟨⟨name, entry⟩, AList.mem_lookup_iff.mp hentry, rfl⟩

theorem map_perm (h : Mirrors nameOf api table reg) {order : List (Σ _ : String, ℕ × β)}
    (horder : order.Perm table.entries) {C : Type} (f : String → U → C) :
    (order.map fun e => f (nameOf e.2.2) (api e.2.2)).Perm (reg.entries.map fun e => f e.1 e.2) := by
  have hnamed : ∀ e ∈ order, nameOf e.2.2 = e.1 := fun e he =>
    h.named e.1 e.2 (AList.mem_lookup_iff.mpr (horder.mem_iff.mp he))
  have hmap : (order.map fun e => f (nameOf e.2.2) (api e.2.2)) =
      order.map fun e => f e.1 (api e.2.2) :=
    List.map_congr_left fun e he => by rw [hnamed e he]
  rw [hmap]
  refine (horder.map _).trans ?_
  have hperm := h.entries_perm.map fun e => f e.1 e.2
  rwa [List.map_map] at hperm
end Mirrors

namespace MirrorsBut

theorem mirrors (h : MirrorsBut nameOf api name table reg) (hreg : reg.lookup name = none) :
    Mirrors nameOf api table reg := by
  refine ⟨fun n => ?_, h.named⟩
  by_cases hn : n = name
  · rw [hn, hreg, h.absent]
    rfl
  · exact h.registered n hn

theorem unregister (h : MirrorsBut nameOf api name table reg) :
    MirrorsBut nameOf api name table (reg.erase name) := by
  refine ⟨h.absent, fun n hn => ?_, h.named⟩
  rw [AList.lookup_erase_ne hn]
  exact h.registered n hn

theorem register (h : MirrorsBut nameOf api name table reg) {entry : ℕ × β}
    (hname : nameOf entry.2 = name) :
    Mirrors nameOf api (table.insert name entry) (reg.insert name (api entry.2)) := by
  refine ⟨fun n => ?_, fun n entry' hn => ?_⟩
  · by_cases heq : n = name
    · rw [heq, AList.lookup_insert, AList.lookup_insert]
      rfl
    · rw [AList.lookup_insert_ne heq, AList.lookup_insert_ne heq]
      exact h.registered n heq
  · by_cases heq : n = name
    · rw [heq, AList.lookup_insert] at hn
      cases hn
      exact hname.trans heq.symm
    · rw [AList.lookup_insert_ne heq] at hn
      exact h.named n entry' hn

end MirrorsBut

theorem alist_eq_empty {α : Type} {β : α → Type} [DecidableEq α] {s : AList β}
    (h : ∀ a, s.lookup a = none) : s = ∅ := by
  apply AList.ext
  refine List.eq_nil_iff_forall_not_mem.mpr fun x hx => ?_
  have hl := AList.mem_lookup_iff.mpr (show (⟨x.1, x.2⟩ : Sigma β) ∈ s.entries from hx)
  rw [h x.1] at hl
  cases hl

theorem lookup_foldl {C X U : Type} {Ans : C → Type} {Succeeds : (c : C) → Ans c → Prop}
    {master : (c : C) → Ans c → (AList fun _ : String => U) → AList fun _ : String => U}
    {call : X → C} {nameOf : X → String} {order : List X} {log : List (Σ c, Ans c)}
    {reg : AList fun _ : String => U}
    (hforget : ∀ x ∈ order, ∀ a reg', Succeeds (call x) a →
      reg'.lookup (nameOf x) = reg.lookup (nameOf x) → master (call x) a reg' = reg'.erase (nameOf x))
    (hnodup : (order.map nameOf).Nodup) (hlog : log.map Sigma.fst = order.map call)
    (hok : ∀ x ∈ log, Succeeds x.1 x.2) (name : String) :
    (log.foldl (fun reg x => master x.1 x.2 reg) reg).lookup name =
      if name ∈ order.map nameOf then none else reg.lookup name := by
  induction order generalizing log reg with
  | nil =>
    obtain rfl : log = [] := List.map_eq_nil_iff.mp hlog
    simp
  | cons x order ih =>
    obtain ⟨⟨c, a⟩, log, rfl, hc, htail⟩ := List.map_eq_cons_iff.mp hlog
    obtain rfl : c = call x := hc
    obtain ⟨hx, hnodup⟩ := List.nodup_cons.mp hnodup
    have hforgot := hforget x (by simp) a reg (hok ⟨call x, a⟩ (by simp)) rfl
    rw [List.foldl_cons, hforgot, ih (fun y hy a' reg' hs hl => ?_) hnodup htail
      fun y hy => hok y (List.mem_cons_of_mem _ hy)]
    · by_cases hname : name = nameOf x
      · rw [hname, AList.lookup_erase, ite_self, if_pos (by simp)]
      · simp [hname, AList.lookup_erase_ne hname]
    · have hne : nameOf y ≠ nameOf x := fun heq => hx (heq ▸ List.mem_map_of_mem hy)
      rw [AList.lookup_erase_ne hne] at hl
      exact hforget y (List.mem_cons_of_mem _ hy) a' reg' hs hl

/-- Nothing is left of what is registered once every entry of the table has been unregistered. -/
theorem Mirrors.unregistered (h : Mirrors nameOf api table reg) {C : Type} {Ans : C → Type}
    {Succeeds : (c : C) → Ans c → Prop}
    {master : (c : C) → Ans c → (AList fun _ : String => U) → AList fun _ : String => U}
    {f : String → U → C} {order : List (Σ _ : String, ℕ × β)} {log : List (Σ c, Ans c)}
    (hforget : ∀ name u a reg', Succeeds (f name u) a → reg'.lookup name = some u →
      master (f name u) a reg' = reg'.erase name)
    (horder : order.Perm table.entries)
    (hlog : log.map Sigma.fst = order.map fun e => f (nameOf e.2.2) (api e.2.2))
    (hok : ∀ x ∈ log, Succeeds x.1 x.2) :
    log.foldl (fun reg x => master x.1 x.2 reg) reg = ∅ := by
  have hnames : order.map (fun e => nameOf e.2.2) = order.map Sigma.fst :=
    List.map_congr_left fun e he =>
      h.named e.1 e.2 (AList.mem_lookup_iff.mpr (horder.mem_iff.mp he))
  have hnodup : (order.map fun e => nameOf e.2.2).Nodup := by
    rw [hnames]
    exact (horder.map Sigma.fst).nodup_iff.mpr table.keys_nodup
  refine alist_eq_empty fun name => ?_
  rw [lookup_foldl (fun e he a reg' hs hl => ?_) hnodup hlog hok name]
  · by_cases hname : name ∈ order.map fun e => nameOf e.2.2
    · rw [if_pos hname]
    · rw [if_neg hname, h.registered name, Option.map_eq_none_iff, AList.lookup_eq_none]
      rw [hnames] at hname
      exact fun hmem => hname ((horder.map Sigma.fst).mem_iff.mpr hmem)
  · refine hforget _ _ a reg' hs ?_
    have hmem := horder.mem_iff.mp he
    have hlookup := AList.mem_lookup_iff.mpr (show (⟨e.1, e.2⟩ : Sigma _) ∈ table.entries from hmem)
    rw [hl, h.registered, h.named e.1 e.2 hlookup, Option.mem_def.mp hlookup]
    rfl

end RosrustAsync
