import RosrustAsync.HeaderDe

namespace RosrustAsync

variable {fields : List Field}

/-! The slots after a list of pairs, key by key. -/

def textsOf (ps : List (String × String)) (key : String) : List String :=
  (ps.filter (·.1 == key)).map Prod.snd

theorem textsOf_cons_self {p : String × String} {ps : List (String × String)} {key : String}
    (h : p.1 = key) : textsOf (p :: ps) key = p.2 :: textsOf ps key := by
  simp [textsOf, h]

theorem textsOf_cons_of_ne {p : String × String} {ps : List (String × String)} {key : String}
    (h : p.1 ≠ key) : textsOf (p :: ps) key = textsOf ps key := by
  simp [textsOf, h]

theorem mem_textsOf {ps : List (String × String)} {key text : String} :
    text ∈ textsOf ps key ↔ (key, text) ∈ ps := by
  simp [textsOf]

theorem find?_key (hn : (fields.map Field.key).Nodup) {f : Field} (hf : f ∈ fields) :
    fields.find? (·.key == f.key) = some f := by
  induction fields with
  | nil => cases hf
  | cons g gs ih =>
    rw [List.map_cons, List.nodup_cons] at hn
    rcases List.mem_cons.mp hf with rfl | hf
    · simp
    · have hne : g.key ≠ f.key := fun h => hn.1 (h ▸ List.mem_map_of_mem hf)
      rw [List.find?_cons_of_neg (by simpa using hne)]
      exact ih hn.2 hf

theorem fillSlot_of_ne {slots slots' : Slots} {p : String × String}
    (h : fillSlot fields slots p = some slots') {key : String} (hk : p.1 ≠ key) :
    slots' key = slots key := by
  unfold fillSlot at h
  split at h
  · split at h
    · cases h
    · obtain ⟨v, -, rfl⟩ := Option.map_eq_some_iff.mp h
      exact Function.update_of_ne hk.symm _ _
  · cases h
    rfl

/-- How one field's slot goes from `slots` to `slots'` over the pairs `ps`. -/
inductive Fills (ps : List (String × String)) (slots slots' : Slots) (f : Field) : Prop
  | absent : textsOf ps f.key = [] → slots' f.key = slots f.key → Fills ps slots slots' f
  | once {text : String} {v : Value} : textsOf ps f.key = [text] → slots f.key = none →
      parseText f.kind text = some v → slots' f.key = some v → Fills ps slots slots' f

theorem fills_of_foldlM (hn : (fields.map Field.key).Nodup) {ps : List (String × String)}
    {slots slots' : Slots} (h : ps.foldlM (fillSlot fields) slots = some slots') {f : Field}
    (hf : f ∈ fields) : Fills ps slots slots' f := by
  induction ps generalizing slots with
  | nil =>
    cases h
    exact .absent rfl rfl
  | cons p ps ih =>
    rw [List.foldlM_cons, Option.bind_eq_bind, Option.bind_eq_some_iff] at h
    obtain ⟨slots₁, hs, h⟩ := h
    have hrest := ih h
    by_cases hk : p.1 = f.key
    · simp only [fillSlot, hk, find?_key hn hf] at hs
      split at hs
      · cases hs
      · rename_i hnone
        obtain ⟨v, hv, rfl⟩ := Option.map_eq_some_iff.mp hs
        -- the slot is taken now, so no second pair of this key can follow
        cases hrest with
        | absent ht heq =>
          refine .once (textsOf_cons_self hk |>.trans (by rw [ht])) ?_ hv ?_
          · simpa using hnone
          · rw [heq, Function.update_self]
        | once _ hfree => simp at hfree
    · have hsame := fillSlot_of_ne hs hk
      cases hrest with
      | absent ht heq => exact .absent ((textsOf_cons_of_ne hk).trans ht) (heq.trans hsame)
      | once ht hfree hv heq =>
        exact .once ((textsOf_cons_of_ne hk).trans ht) (hsame ▸ hfree) hv heq

def Fillable (ps : List (String × String)) (slots : Slots) (f : Field) : Prop :=
  textsOf ps f.key = [] ∨ ∃ text, textsOf ps f.key = [text] ∧ slots f.key = none ∧
    (parseText f.kind text).isSome

theorem foldlM_of_fillable {ps : List (String × String)}
    {slots : Slots} (h : ∀ f ∈ fields, Fillable ps slots f) :
    ∃ slots', ps.foldlM (fillSlot fields) slots = some slots' := by
  induction ps generalizing slots with
  | nil => exact ⟨slots, rfl⟩
  | cons p ps ih =>
    obtain ⟨slots₁, hs⟩ : ∃ slots₁, fillSlot fields slots p = some slots₁ := by
      unfold fillSlot
      cases hfind : fields.find? (·.key == p.1) with
      | none => exact ⟨slots, rfl⟩
      | some f =>
        have hk : p.1 = f.key := (by simpa using List.find?_some hfind : f.key = p.1).symm
        rcases h f (List.mem_of_find?_eq_some hfind) with ht | ⟨text, ht, hfree, hv⟩
        · simp [textsOf_cons_self hk] at ht
        · rw [textsOf_cons_self hk] at ht
          obtain ⟨rfl, -⟩ := List.cons.inj ht
          obtain ⟨v, hv⟩ := Option.isSome_iff_exists.mp hv
          exact ⟨Function.update slots f.key (some v), by simp [hk, hfree, hv]⟩
    have hfill : ∀ f ∈ fields, Fillable ps slots₁ f := by
      intro f hf
      by_cases hk : p.1 = f.key
      · apply Or.inl
        rcases h f hf with ht | ⟨text, ht, -⟩ <;> rw [textsOf_cons_self hk] at ht
        · cases ht
        · exact (List.cons.inj ht).2
      · rw [Fillable, fillSlot_of_ne hs hk, ← textsOf_cons_of_ne hk]
        exact h f hf
    obtain ⟨slots', hrest⟩ := ih hfill
    exact ⟨slots', by rw [List.foldlM_cons, hs]; exact hrest⟩

end RosrustAsync
