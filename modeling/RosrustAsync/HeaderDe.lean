import RosrustAsync.HeaderFields

namespace RosrustAsync

/-! What one field's text says, apart from the reader. -/

def parseText : Kind → String → Option Value
  | .str, text => some (.str text)
  | .bool, text =>
    if text = "0" then some (.bool false) else if text = "1" then some (.bool true) else none

def fillSlot (fields : List Field) (slots : Slots) (p : String × String) : Option Slots :=
  match fields.find? (·.key == p.1) with
  | some f =>
    if (slots p.1).isSome then none
    else (parseText f.kind p.2).map fun v => Function.update slots p.1 (some v)
  | none => some slots

namespace Deserializer

theorem nextKeySeed_some {self self' : Deserializer} {key : String} :
    self.nextKeySeed = .ok (some key, self') ↔ ∃ p rest, p.1 = key ∧ PlainField p ∧
      self.reader = frameField p ++ rest ∧ self' = ⟨rest, some p⟩ := by
  unfold nextKeySeed
  rw [bind_eq_ok]
  constructor
  · rintro ⟨⟨field, d⟩, hp, h⟩
    cases field with
    | none => cases h
    | some p =>
      obtain ⟨hplain, rest, hr, rfl⟩ := parseField_some.mp hp
      cases h
      exact ⟨p, rest, rfl, hplain, hr, rfl⟩
  · rintro ⟨p, rest, rfl, hplain, hr, rfl⟩
    exact ⟨_, parseField_some.mpr ⟨hplain, rest, hr, rfl⟩, rfl⟩

theorem nextKeySeed_none {self self' : Deserializer} :
    self.nextKeySeed = .ok (none, self') ↔ self.reader.length < 4 ∧ self' = ⟨[], none⟩ := by
  unfold nextKeySeed
  rw [bind_eq_ok]
  constructor
  · rintro ⟨⟨field, d⟩, hp, h⟩
    cases field with
    | some p => cases h
    | none =>
      obtain ⟨hl, rfl⟩ := parseField_none.mp hp
      cases h
      exact ⟨hl, rfl⟩
  · rintro ⟨hl, rfl⟩
    exact ⟨_, parseField_none.mpr ⟨hl, rfl⟩, rfl⟩

theorem nextValueSeed_ok {reader : Bytes} {p : String × String} {kind : Kind} {v : Value}
    {self' : Deserializer} : nextValueSeed ⟨reader, some p⟩ kind = .ok (v, self') ↔
      parseText kind p.2 = some v ∧ self' = ⟨reader, none⟩ := by
  obtain ⟨key, text⟩ := p
  cases kind with
  | str =>
    simp only [nextValueSeed, bind_eq_ok, deserializeStr, parseText]
    constructor
    · rintro ⟨_, h, h'⟩
      cases h
      cases h'
      exact ⟨rfl, rfl⟩
    · rintro ⟨h, rfl⟩
      cases h
      exact ⟨_, rfl, rfl⟩
  | bool =>
    simp only [nextValueSeed, bind_eq_ok, deserializeBool, parseText]
    constructor
    · rintro ⟨_, h, h'⟩
      split_ifs at h ⊢ <;> cases h <;> cases h' <;> exact ⟨rfl, rfl⟩
    · rintro ⟨h, rfl⟩
      split_ifs at h ⊢ <;> cases h <;> exact ⟨_, rfl, rfl⟩

theorem visitKey_ok {reader : Bytes} {p : String × String} {fields : List Field}
    {slots slots' : Slots} {self' : Deserializer} :
    visitKey ⟨reader, some p⟩ fields slots p.1 = .ok (slots', self') ↔
      fillSlot fields slots p = some slots' ∧ self' = ⟨reader, none⟩ := by
  unfold visitKey fillSlot
  cases fields.find? (·.key == p.1) with
  | none =>
    simp only [deserializeIgnoredAny, deserializeStr, bind_eq_ok]
    constructor
    · rintro ⟨_, ⟨_, h, h'⟩, h''⟩
      cases h
      cases h'
      cases h''
      exact ⟨rfl, rfl⟩
    · rintro ⟨h, rfl⟩
      cases h
      exact ⟨_, ⟨_, rfl, rfl⟩, rfl⟩
  | some f =>
    cases hs : slots p.1 with
    | some v => simp
    | none =>
      simp only [bind_eq_ok, Option.isSome_none, Bool.false_eq_true, ↓reduceIte,
        Option.map_eq_some_iff]
      constructor
      · rintro ⟨⟨v, d⟩, hv, h⟩
        obtain ⟨ht, rfl⟩ := nextValueSeed_ok.mp hv
        cases h
        exact ⟨⟨v, ht, rfl⟩, rfl⟩
      · rintro ⟨⟨v, ht, rfl⟩, rfl⟩
        exact ⟨_, nextValueSeed_ok.mpr ⟨ht, rfl⟩, rfl⟩

/-- The derived `visit_map`: pairs are taken from the reader until it has no more. -/
def visitMap (self : Deserializer) (fields : List Field) (slots : Slots) :
    Except HeaderError (Slots × Deserializer) :=
  match _hk : self.nextKeySeed with
  | .error e => .error e
  | .ok (none, self) => .ok (slots, self)
  | .ok (some key, self) =>
    match _hv : self.visitKey fields slots key with
    | .error e => .error e
    | .ok (slots, self) => self.visitMap fields slots
termination_by self.reader.length
decreasing_by
  obtain ⟨p, rest, rfl, -, hr, rfl⟩ := nextKeySeed_some.mp _hk
  obtain ⟨-, rfl⟩ := visitKey_ok.mp _hv
  have := four_le_frameField p
  simp only [hr, List.length_append]
  omega

theorem visitMap_stop {self self' : Deserializer} {fields : List Field} {slots : Slots}
    (hk : self.nextKeySeed = .ok (none, self')) :
    self.visitMap fields slots = .ok (slots, self') := by
  rw [visitMap]
  split <;> rename_i he <;> rw [hk] at he <;> cases he
  rfl

theorem visitMap_next {self d d' : Deserializer} {fields : List Field} {slots slots' : Slots}
    {key : String} (hk : self.nextKeySeed = .ok (some key, d))
    (hv : d.visitKey fields slots key = .ok (slots', d')) :
    self.visitMap fields slots = d'.visitMap fields slots' := by
  rw [visitMap]
  split <;> rename_i he <;> rw [hk] at he <;> cases he
  split <;> rename_i he <;> rw [hv] at he <;> cases he
  rfl

theorem visitMap_ok {fields : List Field} {self self' : Deserializer} {slots slots' : Slots} :
    self.visitMap fields slots = .ok (slots', self') ↔ self' = ⟨[], none⟩ ∧
      ∃ (ps : List (String × String)) (stray : Bytes), stray.length < 4 ∧ self.reader = fieldBytes ps ++ stray ∧
        (∀ p ∈ ps, PlainField p) ∧ ps.foldlM (fillSlot fields) slots = some slots' := by
  constructor
  · intro h
    fun_induction visitMap self fields slots with
    | case1 self slots e he => cases h
    | case2 self slots d hk =>
      cases h
      obtain ⟨hl, rfl⟩ := nextKeySeed_none.mp hk
      exact ⟨rfl, [], self.reader, hl, rfl, by simp, rfl⟩
    | case3 self slots key d hk e he => cases h
    | case4 self slots key d hk slots₁ d₁ hv ih =>
      obtain ⟨rfl, ps, stray, hl, hr, hp, hf⟩ := ih h
      obtain ⟨p, rest, rfl, hplain, hreader, rfl⟩ := nextKeySeed_some.mp hk
      obtain ⟨hs, rfl⟩ := visitKey_ok.mp hv
      refine ⟨rfl, p :: ps, stray, hl, ?_, by simpa [hplain] using hp, ?_⟩
      · simp only at hr
        rw [hreader, hr, fieldBytes_cons, List.append_assoc]
      · rw [List.foldlM_cons, hs]
        exact hf
  · rintro ⟨rfl, ps, stray, hl, hr, hp, hf⟩
    induction ps generalizing self slots with
    | nil =>
      cases hf
      exact visitMap_stop (nextKeySeed_none.mpr ⟨hr ▸ hl, rfl⟩)
    | cons p ps ih =>
      rw [List.foldlM_cons, Option.bind_eq_bind, Option.bind_eq_some_iff] at hf
      obtain ⟨slots₁, hs, hf⟩ := hf
      rw [fieldBytes_cons, List.append_assoc] at hr
      rw [visitMap_next (nextKeySeed_some.mpr ⟨p, _, rfl, hp p (by simp), hr, rfl⟩)
        (visitKey_ok.mpr ⟨hs, rfl⟩)]
      exact ih rfl (fun q hq => hp q (List.mem_cons_of_mem _ hq)) hf

end Deserializer

def fillDefaults (fields : List Field) (slots : Slots) : Except HeaderError (List Value) :=
  fields.mapM fun f =>
    match slots f.key with
    | some v => .ok v
    | none =>
      match f.default with
      | some v => .ok v
      | none => .error (.serde ("missing field `" ++ f.key ++ "`"))

def deserialize (T : Type) [Header T] (self : Deserializer) : Except HeaderError T := do
  let (slots, _) ← self.visitMap (Header.fields T) fun _ => none
  let values ← fillDefaults (Header.fields T) slots
  match Header.ofValues values with
  | some value => .ok value
  | none => .error (.serde "invalid type")

def fromBytes (T : Type) [Header T] (bytes : Bytes) : Except HeaderError T :=
  match readU32 bytes with
  | .error e => .error (.io e)
  | .ok (expectedLength, rest) =>
    let actualLength := bytes.length - 4
    if expectedLength.toNat ≠ actualLength then
      .error (.invalidLength ("expected: " ++ toString expectedLength.toNat ++
        ", actual: " ++ toString actualLength))
    else deserialize T ⟨rest, none⟩

end RosrustAsync
