import RosrustAsync.HeaderTypes

namespace RosrustAsync

structure Serializer where
  writer : Bytes
  currentFieldName : Option String

namespace Serializer

def writeString (self : Serializer) (s : String) : Serializer :=
  { self with writer := self.writer ++ le32 (.ofNat (asBytes s).length) ++ asBytes s }

def writeField (self : Serializer) (name value : String) : Serializer :=
  self.writeString (name ++ "=" ++ value)

def serializeStr (self : Serializer) (v : String) : Except HeaderError Serializer :=
  match self.currentFieldName with
  | some fieldName => .ok ({ self with currentFieldName := none }.writeField fieldName v)
  | none => .error (.serde "String must be part of a struct field")

def serializeBool (self : Serializer) (v : Bool) : Except HeaderError Serializer :=
  match self.currentFieldName with
  | some fieldName =>
    .ok ({ self with currentFieldName := none }.writeField fieldName (if v then "1" else "0"))
  | none => .error (.serde "Boolean must be part of a struct field")

def serializeField (self : Serializer) (key : String) (value : Value) :
    Except HeaderError Serializer :=
  match value with
  | .str s => { self with currentFieldName := some key }.serializeStr s
  | .bool b => { self with currentFieldName := some key }.serializeBool b

def serializeStruct (self : Serializer) : List (String × Value) → Except HeaderError Serializer
  | [] => .ok self
  | (key, value) :: rest => do (← self.serializeField key value).serializeStruct rest

end Serializer

def toBytes {T : Type} [Header T] (value : T) : Except HeaderError Bytes := do
  let buffer := le32 0
  let keys := (Header.fields T).map Field.key
  let serializer ← Serializer.serializeStruct ⟨buffer, none⟩ (keys.zip (Header.toValues value))
  let headerSize : UInt32 := .ofNat (serializer.writer.length - 4)
  .ok (le32 headerSize ++ serializer.writer.drop 4)

end RosrustAsync
