import Mathlib.Data.List.TakeWhile
import RosrustAsync.Lib.Bytes

namespace RosrustAsync

/-! `String::as_bytes`, `String::from_utf8` and `str::split_once`. -/

def asBytes (s : String) : Bytes := s.toByteArray.data.toList

def fromUtf8 (bs : Bytes) : Option String := String.fromUTF8? ⟨bs.toArray⟩

theorem asBytes_append (s t : String) : asBytes (s ++ t) = asBytes s ++ asBytes t := by
  simp [asBytes]

theorem fromUtf8_eq_some {bs : Bytes} {s : String} : fromUtf8 bs = some s ↔ asBytes s = bs := by
  unfold fromUtf8 String.fromUTF8?
  constructor
  · intro h
    split at h
    · cases h; rfl
    · cases h
  · rintro rfl
    have hb : (⟨(asBytes s).toArray⟩ : ByteArray) = s.toByteArray := rfl
    simp only [hb, s.isValidUTF8, ↓reduceDIte]
    rfl

@[simp] theorem fromUtf8_asBytes (s : String) : fromUtf8 (asBytes s) = some s :=
  fromUtf8_eq_some.mpr rfl

def splitOnce (c : Char) (s : String) : Option (String × String) :=
  match s.toList.dropWhile (· != c) with
  | [] => none
  | _ :: rest => some (.ofList (s.toList.takeWhile (· != c)), .ofList rest)

theorem splitOnce_eq_some {c : Char} {s k v : String} :
    splitOnce c s = some (k, v) ↔ s = k ++ .singleton c ++ v ∧ c ∉ k.toList := by
  unfold splitOnce
  constructor
  · intro h
    split at h
    · cases h
    · rename_i d rest hd
      cases h
      have hc : d = c := by
        have := List.head?_dropWhile_not (· != c) s.toList
        rw [hd] at this
        simpa using this
      subst hc
      refine ⟨String.toList_inj.mp ?_, ?_⟩
      · simp [← hd]
      · intro hm
        have := List.mem_takeWhile_imp (by simpa using hm)
        simp at this
  · rintro ⟨rfl, hc⟩
    have hall : ∀ x ∈ k.toList, (x != c) = true := fun x hx => bne_iff_ne.mpr (by grind)
    simp [List.dropWhile_append_of_pos hall, List.takeWhile_append_of_pos hall]

end RosrustAsync
