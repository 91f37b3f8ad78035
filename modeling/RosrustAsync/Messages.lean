import RosrustAsync.FrameStream

namespace RosrustAsync

/-- What is used of a type of messages. -/
structure Message (T : Type) where
  encodeVec : T → Except IoError Bytes
  decodeSlice : Bytes → Except IoError T
  decodeSlice_encodeVec : ∀ {m b}, encodeVec m = .ok b → decodeSlice b = .ok m
  isFrame_encodeVec : ∀ {m b}, encodeVec m = .ok b → IsFrame b

namespace Message

variable {T : Type} (M : Message T)

def decode? (b : Bytes) : Option T := (M.decodeSlice b).toOption

/-- The values that `bytes` were sent for. -/
def Encodes (msgs : List T) (bytes : List Bytes) : Prop := msgs.map M.encodeVec = bytes.map .ok

variable {M}

theorem exists_encodes {bytes : List Bytes} (h : ∀ b ∈ bytes, ∃ m, M.encodeVec m = .ok b) :
    ∃ msgs, M.Encodes msgs bytes := by
  induction bytes with
  | nil => exact ⟨[], rfl⟩
  | cons b bytes ih =>
    obtain ⟨m, hm⟩ := h b (by simp)
    obtain ⟨msgs, hmsgs⟩ := ih fun b hb => h b (List.mem_cons_of_mem _ hb)
    exact ⟨m :: msgs, congrArg₂ List.cons hm hmsgs⟩

theorem Encodes.filterMap {msgs : List T} {bytes : List Bytes} (h : M.Encodes msgs bytes) :
    bytes.filterMap M.decode? = msgs := by
  induction msgs generalizing bytes with
  | nil =>
    cases bytes with
    | nil => rfl
    | cons b bytes => cases h
  | cons m msgs ih =>
    cases bytes with
    | nil => cases h
    | cons b bytes =>
      obtain ⟨hm, hmsgs⟩ := List.cons.inj h
      have hdecode : M.decode? b = some m := by
        rw [decode?, M.decodeSlice_encodeVec hm]
        rfl
      rw [List.filterMap_cons_some hdecode, ih hmsgs]

theorem Encodes.drop {msgs : List T} {bytes : List Bytes} (h : M.Encodes msgs bytes) (n : ℕ) :
    M.Encodes (msgs.drop n) (bytes.drop n) := by
  rw [Encodes, List.map_drop, List.map_drop, h]

end Message

/-- A message of one byte. -/
def byteMessage : Message UInt8 where
  encodeVec x := .ok (frame [x])
  decodeSlice
    | [_, _, _, _, x] => .ok x
    | _ => .error .unexpectedEof
  decodeSlice_encodeVec := by
    rintro m b h
    cases h
    rfl
  isFrame_encodeVec := by
    rintro m b h
    cases h
    exact ⟨[m], by simp, rfl⟩

end RosrustAsync
