import Mathlib.Data.List.Forall2
import RosrustAsync.HeaderSlots

namespace RosrustAsync

open Header (toValues ofValues)

variable {T : Type} [Header T] {ps : List (String × String)}

def textValue : Kind → String → Value
  | .str, text => .str text
  | .bool, text => .bool (text == "1")

theorem parseText_eq_some {kind : Kind} {text : String} {v : Value} :
    parseText kind text = some v ↔
      (kind = .bool → text = "0" ∨ text = "1") ∧ v = textValue kind text := by
  cases kind with
  | str => simp [parseText, textValue, eq_comm]
  | bool =>
    simp only [parseText, textValue, forall_const]
    split_ifs with h₀ h₁
    · subst h₀
      simp [eq_comm]
    · subst h₁
      simp [eq_comm]
    · simp [h₀, h₁]

structure WellFormed (T : Type) [Header T] (ps : List (String × String)) : Prop where
  plain : ∀ p ∈ ps, PlainField p
  unique : ∀ f ∈ Header.fields T, (textsOf ps f.key).length ≤ 1
  occurs : ∀ f ∈ Header.fields T, f.default = none → ∃ text, (f.key, text) ∈ ps
  readable : ∀ f ∈ Header.fields T, f.kind = .bool → ∀ text, (f.key, text) ∈ ps →
    text = "0" ∨ text = "1"

def FieldHolds (ps : List (String × String)) (f : Field) (v : Value) : Prop :=
  (∃ text, (f.key, text) ∈ ps ∧ v = textValue f.kind text) ∨
    (∀ text, (f.key, text) ∉ ps) ∧ f.default = some v

structure Decodes (ps : List (String × String)) (h : T) : Prop extends WellFormed T ps where
  holds : List.Forall₂ (FieldHolds ps) (Header.fields T) (toValues h)

theorem fillDefaults_ok {fields : List Field} {slots : Slots} {vs : List Value} :
    fillDefaults fields slots = .ok vs ↔ List.Forall₂ (fun f v => slots f.key = some v ∨
      slots f.key = none ∧ f.default = some v) fields vs := by
  unfold fillDefaults
  induction fields generalizing vs with
  | nil =>
    rw [List.mapM_nil, List.forall₂_nil_left_iff]
    exact ⟨fun h => by cases h; rfl, fun h => by cases h; rfl⟩
  | cons f fields ih =>
    rw [List.mapM_cons, bind_eq_ok, List.forall₂_cons_left_iff]
    constructor
    · rintro ⟨v, hv, hrest⟩
      obtain ⟨us, hus, h⟩ := bind_eq_ok.mp hrest
      cases h
      refine ⟨v, us, ?_, ih.mp hus, rfl⟩
      cases hs : slots f.key with
      | some w =>
        simp only [hs, Except.ok.injEq] at hv
        exact .inl (congrArg some hv)
      | none =>
        cases hd : f.default with
        | none => simp [hs, hd] at hv
        | some w =>
          simp only [hs, hd, Except.ok.injEq] at hv
          exact .inr ⟨rfl, congrArg some hv⟩
    · rintro ⟨v, us, hv, hus, rfl⟩
      refine ⟨v, ?_, bind_eq_ok.mpr ⟨us, ih.mpr hus, rfl⟩⟩
      rcases hv with hv | ⟨hv, hd⟩
      · simp only [hv]
      · simp only [hv, hd]

theorem fills_iff {slots : Slots} {f : Field} (h : Fills ps (fun _ => none) slots f) (v : Value) :
    (slots f.key = some v ∨ slots f.key = none ∧ f.default = some v) ↔ FieldHolds ps f v := by
  cases h with
  | absent ht heq =>
    have hno : ∀ text, (f.key, text) ∉ ps := fun text hm => by
      simpa [ht] using mem_textsOf.mpr hm
    simp [heq, FieldHolds, hno]
  | @once text w ht _ hw heq =>
    have hmem : ∀ t, (f.key, t) ∈ ps ↔ t = text := fun t => by rw [← mem_textsOf, ht]; simp
    obtain ⟨-, rfl⟩ := parseText_eq_some.mp hw
    simp [heq, FieldHolds, hmem, eq_comm]

theorem holds_of_mem {fields : List Field} {vs : List Value}
    (h : List.Forall₂ (FieldHolds ps) fields vs) {f : Field} (hf : f ∈ fields) :
    ∃ v ∈ vs, FieldHolds ps f v := by
  induction h with
  | nil => cases hf
  | @cons g v fields vs hv _ ih =>
    rcases List.mem_cons.mp hf with rfl | hf
    · exact ⟨v, by simp, hv⟩
    · obtain ⟨w, hw, h⟩ := ih hf
      exact ⟨w, List.mem_cons_of_mem _ hw, h⟩

theorem wellFormed_of_fills {slots : Slots} {vs : List Value} (hp : ∀ p ∈ ps, PlainField p)
    (hf : ∀ f ∈ Header.fields T, Fills ps (fun _ => none) slots f)
    (hv : List.Forall₂ (FieldHolds ps) (Header.fields T) vs) : WellFormed T ps := by
  refine ⟨hp, fun f hm => ?_, fun f hm hd => ?_, fun f hm hk text ht => ?_⟩
  · cases hf f hm with
    | absent ht _ => simp [ht]
    | once ht _ _ _ => simp [ht]
  · obtain ⟨v, -, ⟨text, ht, -⟩ | ⟨-, hv⟩⟩ := holds_of_mem hv hm
    · exact ⟨text, ht⟩
    · simp [hd] at hv
  · have hm' := mem_textsOf.mpr ht
    cases hf f hm with
    | absent hn _ => simp [hn] at hm'
    | once ho _ hw _ =>
      obtain rfl : text = _ := by simpa [ho] using hm'
      exact (parseText_eq_some.mp hw).1 hk

theorem WellFormed.fillable (h : WellFormed T ps) {f : Field} (hf : f ∈ Header.fields T) :
    Fillable ps (fun _ => none) f := by
  have hu := h.unique f hf
  match ht : textsOf ps f.key with
  | [] => exact .inl ht
  | [text] =>
    refine .inr ⟨text, ht, rfl, ?_⟩
    rw [parseText_eq_some.mpr ⟨fun hk => h.readable f hf hk text ?_, rfl⟩]
    · rfl
    · exact mem_textsOf.mp (by simp [ht])
  | _ :: _ :: _ => simp [ht] at hu

theorem kinds_of_holds {fields : List Field} {vs : List Value}
    (hd : ∀ f ∈ fields, ∀ v, f.default = some v → v.kind = f.kind)
    (h : List.Forall₂ (FieldHolds ps) fields vs) : vs.map Value.kind = fields.map Field.kind := by
  induction h with
  | nil => rfl
  | @cons f v fields vs hv _ ih =>
    have hk : v.kind = f.kind := by
      rcases hv with ⟨text, -, rfl⟩ | ⟨-, hv⟩
      · cases f.kind <;> rfl
      · exact hd f (by simp) v hv
    rw [List.map_cons, List.map_cons, hk, ih fun g hg => hd g (List.mem_cons_of_mem _ hg)]

theorem deserialize_ok {reader : Bytes} {h : T} : deserialize T ⟨reader, none⟩ = .ok h ↔
    ∃ (ps : List (String × String)) (stray : Bytes), stray.length < 4 ∧
      reader = fieldBytes ps ++ stray ∧ Decodes ps h := by
  unfold deserialize
  rw [bind_eq_ok]
  constructor
  · rintro ⟨⟨slots, d⟩, hmap, hrest⟩
    obtain ⟨-, ps, stray, hl, hr, hp, hfold⟩ := Deserializer.visitMap_ok.mp hmap
    obtain ⟨vs, hvs, hof⟩ := bind_eq_ok.mp hrest
    have hf : ∀ f ∈ Header.fields T, Fills ps (fun _ => none) slots f :=
      fun f hm => fills_of_foldlM Header.keys_nodup hfold hm
    have hv : List.Forall₂ (FieldHolds ps) (Header.fields T) vs :=
      ((List.forall₂_and_left _ _).mpr ⟨hf, fillDefaults_ok.mp hvs⟩).imp
        fun f v hfv => (fills_iff hfv.1 v).mp hfv.2
    obtain ⟨h', hh', rfl⟩ := Header.exists_ofValues (T := T) vs
      (kinds_of_holds Header.default_kind hv)
    simp only [hh'] at hof
    cases hof
    exact ⟨ps, stray, hl, hr, wellFormed_of_fills hp hf hv, hv⟩
  · rintro ⟨ps, stray, hl, hr, hd⟩
    obtain ⟨slots, hfold⟩ := foldlM_of_fillable fun f hm => hd.toWellFormed.fillable hm
    have hf : ∀ f ∈ Header.fields T, Fills ps (fun _ => none) slots f :=
      fun f hm => fills_of_foldlM Header.keys_nodup hfold hm
    refine ⟨_, Deserializer.visitMap_ok.mpr ⟨rfl, ps, stray, hl, hr, hd.plain, hfold⟩,
      bind_eq_ok.mpr ⟨toValues h, fillDefaults_ok.mpr ?_, ?_⟩⟩
    · exact ((List.forall₂_and_left _ _).mpr ⟨hf, hd.holds⟩).imp
        fun f v hfv => (fills_iff hfv.1 v).mpr hfv.2
    · simp only [Header.ofValues_toValues]

end RosrustAsync
