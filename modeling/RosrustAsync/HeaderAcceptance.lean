import RosrustAsync.HeaderGrammar

namespace RosrustAsync

open Header (toValues)

variable {T : Type} [Header T] {ps qs : List (String × String)}

theorem fromBytes_ok {b : Bytes} {h : T} : fromBytes T b = .ok h ↔
    ∃ (n : UInt32) (ps : List (String × String)) (stray : Bytes), stray.length < 4 ∧
      b = le32 n ++ (fieldBytes ps ++ stray) ∧ n.toNat = (fieldBytes ps ++ stray).length ∧
        Decodes ps h := by
  unfold fromBytes
  constructor
  · intro hb
    split at hb
    · cases hb
    · rename_i n rest hn
      obtain rfl := readU32_eq_ok hn
      simp only [List.length_append, le32_length, Nat.add_sub_cancel_left] at hb
      split at hb
      · cases hb
      · rename_i hlen
        obtain ⟨ps, stray, hl, rfl, hd⟩ := deserialize_ok.mp hb
        exact ⟨n, ps, stray, hl, rfl, not_not.mp hlen, hd⟩
  · rintro ⟨n, ps, stray, hl, rfl, hlen, hd⟩
    have hb : (le32 n ++ (fieldBytes ps ++ stray)).length - 4 = n.toNat := by
      rw [List.length_append, le32_length, hlen, Nat.add_sub_cancel_left]
    simp only [readU32_le32, hb, ne_eq, not_true_eq_false, ↓reduceIte]
    exact deserialize_ok.mpr ⟨ps, stray, hl, rfl, hd⟩

/-- The grammar of a header: the length of a body that is fields and nothing else. -/
def Grammar (T : Type) [Header T] (b : Bytes) (h : T) : Prop :=
  ∃ (n : UInt32) (ps : List (String × String)),
    b = le32 n ++ fieldBytes ps ∧ n.toNat = (fieldBytes ps).length ∧ Decodes ps h

/-- The fields of a header, and behind them one to three bytes of a further length prefix. -/
def EndsInLengthPrefix (T : Type) [Header T] (b : Bytes) : Prop :=
  ∃ (n : UInt32) (ps : List (String × String)) (stray : Bytes), stray ≠ [] ∧ stray.length < 4 ∧
    b = le32 n ++ (fieldBytes ps ++ stray) ∧ n.toNat = (fieldBytes ps ++ stray).length ∧
      WellFormed T ps

/-! The fields of a body are read one way only, since `read_raw_field` and `split_once` read them. -/

structure FramedField (p : String × String) : Prop where
  size : (asBytes (p.1 ++ "=" ++ p.2)).length < 2 ^ 32
  separated : '=' ∉ p.1.toList

theorem PlainField.framed {p : String × String} (h : PlainField p) : FramedField p :=
  ⟨h.size, h.separated⟩

theorem frameField_unique {p q : String × String} {xs ys : Bytes} (hp : FramedField p)
    (hq : FramedField q) (h : frameField p ++ xs = frameField q ++ ys) : p = q ∧ xs = ys := by
  have hread {p : String × String} (hp : FramedField p) (xs : Bytes) :
      Deserializer.readRawField ⟨frameField p ++ xs, none⟩ =
        .ok (some (p.1 ++ "=" ++ p.2), ⟨xs, none⟩) :=
    Deserializer.readRawField_some.mpr ⟨hp.size, xs, rfl, rfl⟩
  have hsplit {p : String × String} (hp : FramedField p) :
      splitOnce '=' (p.1 ++ "=" ++ p.2) = some p := splitOnce_eq_some.mpr ⟨rfl, hp.separated⟩
  have hp' := hread hp xs
  rw [h, hread hq ys] at hp'
  obtain ⟨htext, hrest⟩ := Prod.mk.inj (Except.ok.inj hp')
  have hq' := hsplit hq
  rw [Option.some.inj htext, hsplit hp] at hq'
  exact ⟨Option.some.inj hq', (Deserializer.mk.inj hrest).1.symm⟩

theorem fieldBytes_unique {xs ys : Bytes} (hp : ∀ p ∈ ps, FramedField p)
    (hq : ∀ q ∈ qs, FramedField q) (hx : xs.length < 4) (hy : ys.length < 4)
    (h : fieldBytes ps ++ xs = fieldBytes qs ++ ys) : ps = qs ∧ xs = ys := by
  induction ps generalizing qs with
  | nil =>
    cases qs with
    | nil => exact ⟨rfl, h⟩
    | cons q qs =>
      have := congrArg List.length h
      have hl := four_le_frameField q
      simp only [fieldBytes_nil, fieldBytes_cons, List.nil_append, List.length_append] at this
      omega
  | cons p ps ih =>
    cases qs with
    | nil =>
      have := congrArg List.length h
      have hl := four_le_frameField p
      simp only [fieldBytes_nil, fieldBytes_cons, List.nil_append, List.length_append] at this
      omega
    | cons q qs =>
      simp only [fieldBytes_cons, List.append_assoc] at h
      obtain ⟨rfl, hrest⟩ := frameField_unique (hp p (by simp)) (hq q (by simp)) h
      obtain ⟨rfl, rfl⟩ := ih (fun r hr => hp r (List.mem_cons_of_mem _ hr))
        (fun r hr => hq r (List.mem_cons_of_mem _ hr)) hrest
      exact ⟨rfl, rfl⟩

theorem exists_values {fields : List Field}
    (ho : ∀ f ∈ fields, f.default = none → ∃ text, (f.key, text) ∈ ps) :
    ∃ vs, List.Forall₂ (FieldHolds ps) fields vs := by
  induction fields with
  | nil => exact ⟨[], .nil⟩
  | cons f fields ih =>
    obtain ⟨vs, hvs⟩ := ih fun g hg => ho g (List.mem_cons_of_mem _ hg)
    obtain ⟨v, hv⟩ : ∃ v, FieldHolds ps f v := by
      by_cases hm : ∃ text, (f.key, text) ∈ ps
      · obtain ⟨text, ht⟩ := hm
        exact ⟨_, .inl ⟨text, ht, rfl⟩⟩
      · cases hd : f.default with
        | none => exact absurd (ho f (by simp) hd) hm
        | some v => exact ⟨v, .inr ⟨not_exists.mp hm, hd⟩⟩
    exact ⟨v :: vs, .cons hv hvs⟩

theorem WellFormed.exists_decodes (h : WellFormed T ps) : ∃ value : T, Decodes ps value := by
  obtain ⟨vs, hvs⟩ := exists_values h.occurs
  obtain ⟨value, -, rfl⟩ := Header.exists_ofValues (T := T) vs
    (kinds_of_holds Header.default_kind hvs)
  exact ⟨value, h, hvs⟩

theorem fromBytes_grammar_iff (T : Type) [Header T] (b : Bytes) :
    (∀ h : T, fromBytes T b = .ok h ↔ Grammar T b h) ↔ ¬ EndsInLengthPrefix T b := by
  constructor
  · rintro hg ⟨n, ps, stray, hne, hl, rfl, hlen, hw⟩
    obtain ⟨h, hd⟩ := hw.exists_decodes
    obtain ⟨m, qs, hb, -, hq⟩ := (hg h).mp (fromBytes_ok.mpr ⟨n, ps, stray, hl, rfl, hlen, hd⟩)
    obtain ⟨-, hbody⟩ := List.append_inj hb rfl
    rw [← List.append_nil (fieldBytes qs)] at hbody
    exact hne (fieldBytes_unique (fun p hp => (hd.plain p hp).framed)
      (fun q hq' => (hq.plain q hq').framed) hl (by simp) hbody).2
  · intro hno h
    rw [fromBytes_ok]
    constructor
    · rintro ⟨n, ps, stray, hl, rfl, hlen, hd⟩
      obtain rfl : stray = [] := by
        by_contra hne
        exact hno ⟨n, ps, stray, hne, hl, rfl, hlen, hd.toWellFormed⟩
      rw [List.append_nil] at hlen ⊢
      exact ⟨n, ps, rfl, hlen, hd⟩
    · rintro ⟨n, ps, rfl, hlen, hd⟩
      refine ⟨n, ps, [], by simp, ?_, ?_, hd⟩ <;> rw [List.append_nil]
      exact hlen

theorem fromBytes_grammar_counterexample :
    fromBytes ServiceServerHeader [1, 0, 0, 0, 0] = .ok ⟨defaultCallerid⟩ ∧
      ¬ Grammar ServiceServerHeader [1, 0, 0, 0, 0] ⟨defaultCallerid⟩ := by
  constructor
  · refine fromBytes_ok.mpr ⟨1, [], [0], by decide, by decide, by decide, ⟨?_, ?_, ?_, ?_⟩, ?_⟩
    all_goals simp [Header.fields, toValues, textsOf, FieldHolds]
  · rintro ⟨n, ps, hb, -, -⟩
    have hb' : [1, 0, 0, 0] ++ [0] = le32 n ++ fieldBytes ps := hb
    obtain ⟨-, hbody⟩ := List.append_inj hb' rfl
    cases ps with
    | nil => cases hbody
    | cons p ps =>
      have := congrArg List.length hbody
      have hl := four_le_frameField p
      simp only [List.length_cons, List.length_nil, fieldBytes_cons, List.length_append] at this
      omega

end RosrustAsync
