import RosrustAsync.HeaderAcceptance
import RosrustAsync.HeaderSer

namespace RosrustAsync

open Header (toValues)

variable {T : Type} [Header T]

def Value.text : Value → String
  | .str s => s
  | .bool b => if b then "1" else "0"

def encodedFields (fields : List Field) (values : List Value) : List (String × String) :=
  (fields.map Field.key).zip (values.map Value.text)

theorem serializeField_eq (w : Bytes) (key : String) (value : Value) :
    Serializer.serializeField ⟨w, none⟩ key value = .ok ⟨w ++ frameField (key, value.text), none⟩ := by
  cases value <;> simp [Serializer.serializeField, Serializer.serializeStr,
    Serializer.serializeBool, Serializer.writeField, Serializer.writeString, frameField, Value.text]

theorem serializeStruct_eq (w : Bytes) (fields : List Field) (values : List Value) :
    Serializer.serializeStruct ⟨w, none⟩ ((fields.map Field.key).zip values) =
      .ok ⟨w ++ fieldBytes (encodedFields fields values), none⟩ := by
  induction fields generalizing w values with
  | nil => simp [Serializer.serializeStruct, encodedFields]
  | cons f fields ih =>
    cases values with
    | nil => simp [Serializer.serializeStruct, encodedFields]
    | cons v values =>
      simp only [List.map_cons, List.zip_cons_cons, Serializer.serializeStruct, encodedFields,
        fieldBytes_cons, ← List.append_assoc]
      rw [bind_eq_ok]
      exact ⟨_, serializeField_eq w f.key v, ih _ _⟩

def bodyOf (value : T) : Bytes := fieldBytes (encodedFields (Header.fields T) (toValues value))

theorem toBytes_eq (value : T) :
    toBytes value = .ok (le32 (.ofNat (bodyOf value).length) ++ bodyOf value) := by
  unfold toBytes
  refine bind_eq_ok.mpr ⟨_, serializeStruct_eq (le32 0) _ _, ?_⟩
  rw [List.drop_append_of_le_length (by simp), List.length_append, le32_length,
    Nat.add_sub_cancel_left]
  rfl

/-! What is written makes a header, and the one it was written from. -/

variable {fields : List Field} {values : List Value}

theorem textsOf_encodedFields_of_notMem {key : String} (h : key ∉ fields.map Field.key) :
    textsOf (encodedFields fields values) key = [] := by
  rw [textsOf, List.map_eq_nil_iff, List.filter_eq_nil_iff]
  intro p hp hk
  exact h (beq_iff_eq.mp hk ▸ (List.of_mem_zip hp).1)

theorem textsOf_encodedFields (hn : (fields.map Field.key).Nodup) {f : Field} {v : Value}
    (h : (f, v) ∈ fields.zip values) : textsOf (encodedFields fields values) f.key = [v.text] := by
  induction fields generalizing values with
  | nil => cases h
  | cons g fields ih =>
    cases values with
    | nil => cases h
    | cons w values =>
      rw [List.map_cons, List.nodup_cons] at hn
      rw [List.zip_cons_cons, List.mem_cons] at h
      rcases h with h | h
      · cases h
        exact (textsOf_cons_self rfl).trans
          (congrArg (v.text :: ·) (textsOf_encodedFields_of_notMem hn.1))
      · have hne : g.key ≠ f.key := fun hk => hn.1 (hk ▸ List.mem_map_of_mem (List.of_mem_zip h).1)
        exact (textsOf_cons_of_ne hne).trans (ih hn.2 h)

theorem length_le_fieldBytes {ps : List (String × String)} {p : String × String} (h : p ∈ ps) :
    (asBytes (p.1 ++ "=" ++ p.2)).length ≤ (fieldBytes ps).length := by
  induction ps with
  | nil => cases h
  | cons q ps ih =>
    rw [fieldBytes_cons, List.length_append]
    rcases List.mem_cons.mp h with rfl | h
    · simp only [frameField, List.length_append]
      omega
    · have := ih h
      omega

theorem textValue_text {f : Field} {v : Value} (h : v.kind = f.kind) :
    textValue f.kind v.text = v := by
  rw [← h]
  cases v with
  | str s => rfl
  | bool b => cases b <;> rfl

theorem kinds_zip (value : T) :
    List.Forall₂ (fun f v => v.kind = f.kind) (Header.fields T) (toValues value) := by
  have h : List.Forall₂ (· = ·) ((Header.fields T).map Field.kind)
      ((toValues value).map Value.kind) := by
    rw [List.forall₂_eq_eq_eq]
    exact (Header.kinds value).symm
  rw [List.forall₂_map_left_iff, List.forall₂_map_right_iff] at h
  exact h.imp fun _ _ => Eq.symm

theorem wellFormed_encodedFields (value : T) (hsize : (bodyOf value).length < 2 ^ 32) :
    WellFormed T (encodedFields (Header.fields T) (toValues value)) := by
  obtain ⟨hlen, hkind⟩ := List.forall₂_iff_zip.mp (kinds_zip value)
  have htexts : ∀ f ∈ Header.fields T, ∃ v : Value, v.kind = f.kind ∧
      textsOf (encodedFields (Header.fields T) (toValues value)) f.key = [v.text] := by
    intro f hf
    rw [← List.map_fst_zip hlen.le, List.mem_map] at hf
    obtain ⟨⟨f, v⟩, hz, rfl⟩ := hf
    exact ⟨v, hkind hz, textsOf_encodedFields Header.keys_nodup hz⟩
  refine ⟨fun p hp => ?_, fun f hf => ?_, fun f hf _ => ?_, fun f hf hk text ht => ?_⟩
  · obtain ⟨f, hf, hkey⟩ := List.mem_map.mp (List.of_mem_zip hp).1
    obtain ⟨hsep, herr⟩ := Header.key_plain f hf
    exact ⟨(length_le_fieldBytes hp).trans_lt hsize, hkey ▸ hsep, hkey ▸ herr⟩
  · obtain ⟨v, -, hv⟩ := htexts f hf
    rw [hv, List.length_singleton]
  · obtain ⟨v, -, hv⟩ := htexts f hf
    exact ⟨v.text, mem_textsOf.mp (by rw [hv]; simp)⟩
  · obtain ⟨v, hkind, hv⟩ := htexts f hf
    obtain rfl : text = v.text := by simpa [hv] using mem_textsOf.mpr ht
    cases v with
    | str s => simp [Value.kind, hk] at hkind
    | bool b => cases b <;> simp [Value.text]

theorem decodes_encodedFields (value : T) (hsize : (bodyOf value).length < 2 ^ 32) :
    Decodes (encodedFields (Header.fields T) (toValues value)) value := by
  refine ⟨wellFormed_encodedFields value hsize, ?_⟩
  obtain ⟨hlen, hkind⟩ := List.forall₂_iff_zip.mp (kinds_zip value)
  refine List.forall₂_iff_zip.mpr ⟨hlen, fun {f v} hz => ?_⟩
  have ht := textsOf_encodedFields Header.keys_nodup hz
  exact .inl ⟨v.text, mem_textsOf.mp (by rw [ht]; simp), (textValue_text (hkind hz)).symm⟩

/-- A body of framed fields that are not too long decodes exactly as its fields do. -/
theorem fromBytes_fieldBytes {ps : List (String × String)} (hps : ∀ p ∈ ps, '=' ∉ p.1.toList)
    (hsize : (fieldBytes ps).length < 2 ^ 32) {value : T} :
    fromBytes T (le32 (.ofNat (fieldBytes ps).length) ++ fieldBytes ps) = .ok value ↔
      Decodes ps value := by
  have hframed (p : String × String) (hp : p ∈ ps) : FramedField p :=
    ⟨(length_le_fieldBytes hp).trans_lt hsize, hps p hp⟩
  rw [fromBytes_ok]
  constructor
  · rintro ⟨n, qs, stray, hstray, hbytes, -, hdecodes⟩
    obtain ⟨-, hbody⟩ := List.append_inj hbytes rfl
    rw [← List.append_nil (fieldBytes ps)] at hbody
    obtain ⟨rfl, -⟩ := fieldBytes_unique hframed (fun q hq => (hdecodes.plain q hq).framed)
      (by simp) hstray hbody
    exact hdecodes
  · intro hdecodes
    refine ⟨.ofNat (fieldBytes ps).length, ps, [], by simp, ?_, ?_, hdecodes⟩
    · rw [List.append_nil]
    · rw [List.append_nil]
      exact UInt32.toNat_ofNat_of_lt' hsize

theorem fromBytes_bodyOf_iff {U : Type} [Header U] {value : U} {value' : T}
    (hsize : (bodyOf value).length < 2 ^ 32) :
    fromBytes T (le32 (.ofNat (bodyOf value).length) ++ bodyOf value) = .ok value' ↔
      Decodes (encodedFields (Header.fields U) (toValues value)) value' :=
  fromBytes_fieldBytes (fun p hp => ((wellFormed_encodedFields value hsize).plain p hp).separated)
    hsize

theorem fromBytes_bodyOf (value : T) (hsize : (bodyOf value).length < 2 ^ 32) :
    fromBytes T (le32 (.ofNat (bodyOf value).length) ++ bodyOf value) = .ok value :=
  (fromBytes_bodyOf_iff hsize).mpr (decodes_encodedFields value hsize)

theorem fromBytes_toBytes (value : T) :
    ∃ b, toBytes value = .ok b ∧ (b.length < 4 + 2 ^ 32 → fromBytes T b = .ok value) := by
  refine ⟨_, toBytes_eq value, fun hb => fromBytes_bodyOf value ?_⟩
  rwa [List.length_append, le32_length, Nat.add_lt_add_iff_left] at hb

theorem fromBytes_toBytes_separators :
    ∃ b, toBytes (SubscriberHeader.mk "error=" "" "=\n" "type=*" "" true) = .ok b ∧
      fromBytes SubscriberHeader b = .ok ⟨"error=", "", "=\n", "type=*", "", true⟩ := by
  obtain ⟨b, hb, h⟩ := fromBytes_toBytes (SubscriberHeader.mk "error=" "" "=\n" "type=*" "" true)
  refine ⟨b, hb, h ?_⟩
  rw [toBytes_eq] at hb
  cases hb
  decide

end RosrustAsync
