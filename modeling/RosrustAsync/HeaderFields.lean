import RosrustAsync.HeaderTypes

namespace RosrustAsync

def tcprosErrorField : String := "error"

abbrev Slots := String → Option Value

structure Deserializer where
  reader : Bytes
  currentField : Option (String × String)

namespace Deserializer

def readRawField (self : Deserializer) : Except HeaderError (Option String × Deserializer) :=
  match readU32 self.reader with
  | .ok (fieldLength, rest) =>
    match readExact fieldLength.toNat rest with
    | .ok (fieldBuffer, rest) =>
      match fromUtf8 fieldBuffer with
      | some rawField => .ok (some rawField, { self with reader := rest })
      | none => .error (.invalidUtf8 fieldBuffer)
    | .error e => .error (.io e)
  | .error .unexpectedEof => .ok (none, { self with reader := [] })
  | .error e => .error (.io e)

def parseField (self : Deserializer) :
    Except HeaderError (Option (String × String) × Deserializer) := do
  match ← self.readRawField with
  | (none, self) => .ok (none, self)
  | (some rawField, self) =>
    match splitOnce '=' rawField with
    | none => .error (.invalidFormat rawField)
    | some (key, value) =>
      if key = tcprosErrorField then .error (.tcpRosProtocol value)
      else .ok (some (key, value), self)

def nextKeySeed (self : Deserializer) : Except HeaderError (Option String × Deserializer) := do
  let (field, self) ← self.parseField
  .ok (field.map Prod.fst, { self with currentField := field })

def deserializeStr (self : Deserializer) : Except HeaderError (String × Deserializer) :=
  match self.currentField with
  | some (_, value) => .ok (value, { self with currentField := none })
  | none => .error (.serde "String must be part of a struct field")

def deserializeBool (self : Deserializer) : Except HeaderError (Bool × Deserializer) :=
  match self.currentField with
  | some (_, value) =>
    if value = "0" then .ok (false, { self with currentField := none })
    else if value = "1" then .ok (true, { self with currentField := none })
    else .error (.serde ("Invalid bool value: " ++ value))
  | none => .error (.serde "Bool must be part of a struct field")

def deserializeIgnoredAny (self : Deserializer) : Except HeaderError Deserializer := do
  .ok (← self.deserializeStr).2

def nextValueSeed (self : Deserializer) : Kind → Except HeaderError (Value × Deserializer)
  | .str => do
    let (s, self) ← self.deserializeStr
    .ok (.str s, self)
  | .bool => do
    let (b, self) ← self.deserializeBool
    .ok (.bool b, self)

def visitKey (self : Deserializer) (fields : List Field) (slots : Slots) (key : String) :
    Except HeaderError (Slots × Deserializer) :=
  match fields.find? (·.key == key) with
  | some f =>
    match slots key with
    | some _ => .error (.serde ("duplicate field `" ++ key ++ "`"))
    | none => do
      let (value, self) ← self.nextValueSeed f.kind
      .ok (Function.update slots key (some value), self)
  | none => do .ok (slots, ← self.deserializeIgnoredAny)

end Deserializer

def frameField (p : String × String) : Bytes :=
  le32 (.ofNat (asBytes (p.1 ++ "=" ++ p.2)).length) ++ asBytes (p.1 ++ "=" ++ p.2)

theorem four_le_frameField (p : String × String) : 4 ≤ (frameField p).length := by
  simp [frameField]

def fieldBytes (ps : List (String × String)) : Bytes := ps.flatMap frameField

@[simp] theorem fieldBytes_nil : fieldBytes [] = [] := rfl

@[simp] theorem fieldBytes_cons (p : String × String) (ps : List (String × String)) :
    fieldBytes (p :: ps) = frameField p ++ fieldBytes ps := rfl

structure PlainField (p : String × String) : Prop where
  size : (asBytes (p.1 ++ "=" ++ p.2)).length < 2 ^ 32
  separated : '=' ∉ p.1.toList
  no_error : p.1 ≠ tcprosErrorField

namespace Deserializer

theorem readRawField_some {self self' : Deserializer} {raw : String} :
    self.readRawField = .ok (some raw, self') ↔ (asBytes raw).length < 2 ^ 32 ∧ ∃ rest,
      self.reader = le32 (.ofNat (asBytes raw).length) ++ asBytes raw ++ rest ∧
        self' = { self with reader := rest } := by
  constructor
  · intro h
    unfold readRawField at h
    split at h
    · rename_i len rest hlen
      split at h
      · rename_i buffer rest' hbuf
        split at h
        · rename_i raw' hraw
          cases h
          obtain ⟨rfl, hl⟩ := readExact_eq_ok hbuf
          obtain rfl := fromUtf8_eq_some.mp hraw
          refine ⟨hl ▸ len.toNat_lt, rest', ?_, rfl⟩
          rw [readU32_eq_ok hlen, hl, UInt32.ofNat_toNat, List.append_assoc]
        · cases h
      · cases h
    · cases h
    · cases h
  · rintro ⟨hl, rest, hr, rfl⟩
    rw [List.append_assoc] at hr
    have hn : (UInt32.ofNat (asBytes raw).length).toNat = (asBytes raw).length :=
      UInt32.toNat_ofNat_of_lt' hl
    simp only [readRawField, hr, readU32_le32, hn, readExact_append, fromUtf8_asBytes]

theorem readRawField_none {self self' : Deserializer} :
    self.readRawField = .ok (none, self') ↔
      self.reader.length < 4 ∧ self' = { self with reader := [] } := by
  constructor
  · intro h
    unfold readRawField at h
    split at h
    · repeat' (split at h)
      all_goals cases h
    · rename_i he
      cases h
      exact ⟨(readU32_eq_error he).1, rfl⟩
    · cases h
  · rintro ⟨hl, rfl⟩
    simp only [readRawField, readU32_short hl]

theorem parseField_some {self self' : Deserializer} {p : String × String} :
    self.parseField = .ok (some p, self') ↔ PlainField p ∧ ∃ rest,
      self.reader = frameField p ++ rest ∧ self' = { self with reader := rest } := by
  obtain ⟨k, v⟩ := p
  unfold parseField
  rw [bind_eq_ok]
  constructor
  · rintro ⟨⟨raw, d⟩, hraw, h⟩
    cases raw with
    | none => cases h
    | some raw =>
      obtain ⟨hl, rest, hr, rfl⟩ := readRawField_some.mp hraw
      cases hs : splitOnce '=' raw with
      | none => simp only [hs, reduceCtorEq] at h
      | some q =>
        obtain ⟨key, value⟩ := q
        simp only [hs] at h
        split at h
        · cases h
        · rename_i hk
          cases h
          obtain ⟨rfl, hc⟩ := splitOnce_eq_some.mp hs
          exact ⟨⟨hl, hc, hk⟩, rest, hr, rfl⟩
  · rintro ⟨hp, rest, hr, rfl⟩
    refine ⟨_, readRawField_some.mpr ⟨hp.size, rest, hr, rfl⟩, ?_⟩
    have hs : splitOnce '=' (k ++ "=" ++ v) = some (k, v) := splitOnce_eq_some.mpr ⟨rfl, hp.separated⟩
    simp only [hs, if_neg hp.no_error]

theorem parseField_none {self self' : Deserializer} :
    self.parseField = .ok (none, self') ↔
      self.reader.length < 4 ∧ self' = { self with reader := [] } := by
  unfold parseField
  rw [bind_eq_ok, ← readRawField_none]
  constructor
  · rintro ⟨⟨raw, d⟩, hraw, h⟩
    cases raw with
    | none => cases h; exact hraw
    | some raw =>
      simp only at h
      split at h
      · cases h
      · split at h <;> cases h
  · exact fun h => ⟨_, h, rfl⟩

end Deserializer

end RosrustAsync
