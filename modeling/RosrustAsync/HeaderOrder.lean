import Mathlib.Data.List.Perm.Basic
import RosrustAsync.FrameStream

namespace RosrustAsync

open Header (toValues)

variable {T : Type} [Header T] {ps qs : List (String × String)} {raws raws' : List String}

def frameText (raw : String) : Bytes := le32 (.ofNat (asBytes raw).length) ++ asBytes raw

def textBytes (raws : List String) : Bytes := raws.flatMap frameText

/-- Texts with a separator, short enough for the length before them to be right. -/
structure Encodable (raws : List String) : Prop where
  separated : ∀ raw ∈ raws, '=' ∈ raw.toList
  size : (textBytes raws).length < 2 ^ 32

/-- A field whose key the header does not have, and which is no error. -/
def Ignored (T : Type) [Header T] (raw : String) : Prop :=
  ∃ key value, splitOnce '=' raw = some (key, value) ∧ key ≠ tcprosErrorField ∧
    key ∉ (Header.fields T).map Field.key

/-- One list of fields becomes the other when fields change their places and ignored fields are put
in and taken out. -/
inductive Rearranged (T : Type) [Header T] : List String → List String → Prop
  | perm {raws raws' : List String} : raws.Perm raws' → Rearranged T raws raws'
  | insert {raw : String} (before after : List String) : Ignored T raw →
      Rearranged T (before ++ after) (before ++ raw :: after)
  | remove {raw : String} (before after : List String) : Ignored T raw →
      Rearranged T (before ++ raw :: after) (before ++ after)
  | trans {raws raws' raws'' : List String} : Rearranged T raws raws' → Rearranged T raws' raws'' →
      Rearranged T raws raws''

def fieldsOf (raws : List String) : List (String × String) := raws.filterMap (splitOnce '=')

theorem exists_splitOnce {raw : String} (h : '=' ∈ raw.toList) :
    ∃ p, splitOnce '=' raw = some p ∧ raw = p.1 ++ "=" ++ p.2 ∧ '=' ∉ p.1.toList := by
  obtain ⟨p, hp⟩ : ∃ p, splitOnce '=' raw = some p := by
    unfold splitOnce
    split
    case h_1 hnil =>
      have hall := List.dropWhile_eq_nil_iff.mp hnil '=' h
      simp at hall
    case h_2 => exact ⟨_, rfl⟩
  obtain ⟨key, value⟩ := p
  exact ⟨_, hp, splitOnce_eq_some.mp hp⟩

theorem fieldsOf_cons {raw : String} {p : String × String} (h : splitOnce '=' raw = some p) :
    fieldsOf (raw :: raws) = p :: fieldsOf raws := by
  simp [fieldsOf, h]

theorem fieldBytes_fieldsOf (h : ∀ raw ∈ raws, '=' ∈ raw.toList) :
    fieldBytes (fieldsOf raws) = textBytes raws := by
  induction raws with
  | nil => rfl
  | cons raw raws ih =>
    obtain ⟨p, hp, hraw, -⟩ := exists_splitOnce (h raw List.mem_cons_self)
    rw [fieldsOf_cons hp, fieldBytes_cons, ih fun r hr => h r (List.mem_cons_of_mem _ hr)]
    simp only [textBytes, List.flatMap_cons, frameText, frameField, ← hraw]

theorem separated_fieldsOf : ∀ p ∈ fieldsOf raws, '=' ∉ p.1.toList := by
  intro p hp
  obtain ⟨raw, -, hsplit⟩ := List.mem_filterMap.mp hp
  exact (splitOnce_eq_some.mp hsplit).2

theorem fromBytes_textBytes (h : Encodable raws) {value : T} :
    fromBytes T (frame (textBytes raws)) = .ok value ↔ Decodes (fieldsOf raws) value := by
  rw [← fieldBytes_fieldsOf h.separated]
  refine fromBytes_fieldBytes separated_fieldsOf ?_
  rw [fieldBytes_fieldsOf h.separated]
  exact h.size

/-! Decoding reads only the fields of the header, and tells an error. -/

def Relevant (T : Type) [Header T] (p : String × String) : Prop :=
  p.1 = tcprosErrorField ∨ p.1 ∈ (Header.fields T).map Field.key

instance : DecidablePred (Relevant T) := fun _ => inferInstanceAs (Decidable (_ ∨ _))

/-- The same relevant fields, as often, in some order. -/
def SameFields (T : Type) [Header T] (ps qs : List (String × String)) : Prop :=
  (ps.filter (Relevant T ·)).Perm (qs.filter (Relevant T ·))

theorem SameFields.mem_iff (h : SameFields T ps qs) {p : String × String} (hp : Relevant T p) :
    p ∈ ps ↔ p ∈ qs := by
  have hmem := List.Perm.mem_iff (a := p) h
  simpa only [List.mem_filter, hp, decide_true, and_true] using hmem

theorem SameFields.length_textsOf (h : SameFields T ps qs) {f : Field}
    (hf : f ∈ Header.fields T) : (textsOf ps f.key).length = (textsOf qs f.key).length := by
  have htexts (rs : List (String × String)) :
      textsOf rs f.key = textsOf (rs.filter (Relevant T ·)) f.key := by
    unfold textsOf
    rw [List.filter_filter]
    apply congrArg (List.map Prod.snd)
    apply List.filter_congr
    intro p _
    by_cases hp : p.1 = f.key
    · have hrelevant : Relevant T p := .inr (hp ▸ List.mem_map_of_mem hf)
      simp [hrelevant]
    · simp [hp]
  rw [htexts ps, htexts qs]
  exact ((h.filter _).map _).length_eq

theorem SameFields.plain (h : SameFields T ps qs) (hqs : ∀ q ∈ qs, FramedField q)
    (hps : ∀ p ∈ ps, PlainField p) : ∀ q ∈ qs, PlainField q := by
  intro q hq
  refine ⟨(hqs q hq).size, (hqs q hq).separated, fun herror => ?_⟩
  exact (hps q ((h.mem_iff (.inl herror)).mpr hq)).no_error herror

theorem Decodes.of_sameFields {value : T} (hd : Decodes ps value) (h : SameFields T ps qs)
    (hqs : ∀ q ∈ qs, FramedField q) : Decodes qs value := by
  have hmem {f : Field} (hf : f ∈ Header.fields T) (text : String) :
      (f.key, text) ∈ ps ↔ (f.key, text) ∈ qs :=
    h.mem_iff (.inr (List.mem_map_of_mem hf))
  refine ⟨⟨h.plain hqs hd.plain, fun f hf => ?_, fun f hf hdefault => ?_,
    fun f hf hkind text htext => ?_⟩, ?_⟩
  · exact h.length_textsOf hf ▸ hd.unique f hf
  · obtain ⟨text, htext⟩ := hd.occurs f hf hdefault
    exact ⟨text, (hmem hf text).mp htext⟩
  · exact hd.readable f hf hkind text ((hmem hf text).mpr htext)
  · have hfields : ∀ f ∈ Header.fields T, f ∈ Header.fields T := fun _ hf => hf
    refine ((List.forall₂_and_left _ _).mpr ⟨hfields, hd.holds⟩).imp fun f v hfv => ?_
    simpa only [FieldHolds, hmem hfv.1] using hfv.2

theorem sameFields_of_rearranged (h : Rearranged T raws raws') :
    SameFields T (fieldsOf raws) (fieldsOf raws') := by
  have hignored {raw : String} (before after : List String) (hraw : Ignored T raw) :
      (fieldsOf (before ++ raw :: after)).filter (Relevant T ·) =
        (fieldsOf (before ++ after)).filter (Relevant T ·) := by
    obtain ⟨key, value, hsplit, herror, hkey⟩ := hraw
    have hirrelevant : ¬ Relevant T (key, value) := not_or.mpr ⟨herror, hkey⟩
    simp [fieldsOf, hsplit, hirrelevant]
  induction h with
  | perm hperm => exact (hperm.filterMap _).filter _
  | insert before after hraw => exact .of_eq (hignored before after hraw).symm
  | remove before after hraw => exact .of_eq (hignored before after hraw)
  | trans _ _ ih ih' => exact ih.trans ih'

/-- For every header type: the order of the fields does not matter, nor do fields that the header
does not have, whatever fields are missing or there twice. -/
theorem fromBytes_rearranged (h : Encodable raws) (h' : Encodable raws')
    (hrearranged : Rearranged T raws raws') (value : T) :
    fromBytes T (frame (textBytes raws)) = .ok value ↔
      fromBytes T (frame (textBytes raws')) = .ok value := by
  have hsame := sameFields_of_rearranged hrearranged
  have hframed {raws : List String} (h : Encodable raws) : ∀ p ∈ fieldsOf raws, FramedField p := by
    intro p hp
    refine ⟨(length_le_fieldBytes hp).trans_lt ?_, separated_fieldsOf p hp⟩
    rw [fieldBytes_fieldsOf h.separated]
    exact h.size
  rw [fromBytes_textBytes h, fromBytes_textBytes h']
  exact ⟨fun hd => hd.of_sameFields hsame (hframed h'),
    fun hd => hd.of_sameFields (List.Perm.symm hsame) (hframed h)⟩

theorem fromBytes_rearranged_probe :
    fromBytes ProbeRequestHeader (frame (textBytes
        ["callerid=/a", "service=/add", "md5sum=*", "probe=1"])) = .ok ⟨"/a", "/add", "*", true⟩ ↔
      fromBytes ProbeRequestHeader (frame (textBytes
        ["probe=1", "type=*", "callerid=/a", "service=/add", "md5sum=*"])) =
          .ok ⟨"/a", "/add", "*", true⟩ := by
  refine fromBytes_rearranged ⟨by decide, by decide⟩ ⟨by decide, by decide⟩ ?_ _
  have hperm : ["callerid=/a", "service=/add", "md5sum=*", "probe=1"].Perm
      ["probe=1", "callerid=/a", "service=/add", "md5sum=*"] := by decide
  refine .trans (.perm hperm) (.insert ["probe=1"] ["callerid=/a", "service=/add", "md5sum=*"] ?_)
  exact ⟨"type", "*", by decide, by decide, by decide⟩

end RosrustAsync
