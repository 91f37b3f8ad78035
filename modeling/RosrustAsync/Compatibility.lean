import Mathlib.Data.Nat.Notation

namespace RosrustAsync

def rosWildcard : String := "*"

inductive CompatibilityError : Type
  | md5 (expected actual : String)
  | type (expected actual : String)
  | definition (expected actual : String)
  deriving DecidableEq

def areFieldsCompatible (lhs rhs : String) : Bool :=
  lhs == rhs || (lhs == rosWildcard || rhs == rosWildcard)

def validateFields (md5sum md5sum' msgType msgType' : String) : Except CompatibilityError Unit :=
  if ¬ areFieldsCompatible md5sum md5sum' then .error (.md5 md5sum md5sum')
  else if ¬ areFieldsCompatible msgType msgType' then .error (.type msgType msgType')
  else .ok ()

structure TopicSpec where
  md5sum : String
  msgType : String
  msgDefinition : String
  deriving DecidableEq

structure Topic where
  name : String
  spec : TopicSpec
  deriving DecidableEq

def TopicSpec.validateCompatibility (self other : TopicSpec) : Except CompatibilityError Unit :=
  if ¬ areFieldsCompatible self.md5sum other.md5sum then .error (.md5 self.md5sum other.md5sum)
  else if ¬ areFieldsCompatible self.msgType other.msgType then
    .error (.type self.msgType other.msgType)
  else if ¬ areFieldsCompatible self.msgDefinition other.msgDefinition then
    .error (.definition self.msgDefinition other.msgDefinition)
  else .ok ()

structure ServiceSpec where
  md5sum : String
  msgType : String
  deriving DecidableEq

structure Service where
  name : String
  spec : ServiceSpec
  deriving DecidableEq

def ServiceSpec.validateCompatibility (self other : ServiceSpec) : Except CompatibilityError Unit :=
  validateFields self.md5sum other.md5sum self.msgType other.msgType

theorem areFieldsCompatible_comm (lhs rhs : String) :
    areFieldsCompatible lhs rhs = areFieldsCompatible rhs lhs := by
  rw [areFieldsCompatible, areFieldsCompatible, Bool.beq_comm, Bool.or_comm (lhs == rosWildcard)]

theorem validateFields_comm {md5sum md5sum' msgType msgType' : String}
    (h : validateFields md5sum md5sum' msgType msgType' = .ok ()) :
    validateFields md5sum' md5sum msgType' msgType = .ok () := by
  unfold validateFields at h ⊢
  rw [areFieldsCompatible_comm md5sum', areFieldsCompatible_comm msgType']
  split at h
  · cases h
  · split at h
    · cases h
    · rename_i hmd5 htype
      rw [if_neg hmd5, if_neg htype]

theorem areFieldsCompatible_iff {lhs rhs : String} :
    areFieldsCompatible lhs rhs ↔ lhs = rhs ∨ lhs = rosWildcard ∨ rhs = rosWildcard := by
  simp only [areFieldsCompatible, Bool.or_eq_true, beq_iff_eq]

section Fields

variable {T : Type} {fields : List (T → String)} {s t u : T}

def FieldsFit (fields : List (T → String)) (s t : T) : Prop :=
  ∀ f ∈ fields, areFieldsCompatible (f s) (f t)

/-- Where `stored` has the wildcard, `new` agrees with `live`. -/
def JoinsOpen (fields : List (T → String)) (stored new live : T) : Prop :=
  ∀ f ∈ fields, f stored = rosWildcard → areFieldsCompatible (f new) (f live)

theorem fieldsFit_nil : FieldsFit [] s t := by simp [FieldsFit]

theorem fieldsFit_cons {f : T → String} :
    FieldsFit (f :: fields) s t ↔ areFieldsCompatible (f s) (f t) ∧ FieldsFit fields s t :=
  List.forall_mem_cons

theorem fieldsFit_refl (t : T) : FieldsFit fields t t :=
  fun _ _ => areFieldsCompatible_iff.mpr (.inl rfl)

theorem FieldsFit.symm (h : FieldsFit fields s t) : FieldsFit fields t s := by
  intro f hf
  rw [areFieldsCompatible_comm]
  exact h f hf

/-- Two specs that fit a third one fit each other where that one is concrete. -/
theorem FieldsFit.of_joinsOpen (ht : FieldsFit fields t u) (hs : FieldsFit fields s u)
    (h : JoinsOpen fields u t s) : FieldsFit fields t s := by
  intro f hf
  by_cases hu : f u = rosWildcard
  · exact h f hf hu
  · have htu := areFieldsCompatible_iff.mp (ht f hf)
    have hsu := areFieldsCompatible_iff.mp (hs f hf)
    rw [areFieldsCompatible_iff]
    rcases htu with htu | htu | htu
    · rcases hsu with hsu | hsu | hsu
      · exact .inl (htu.trans hsu.symm)
      · exact .inr (.inr hsu)
      · exact absurd hsu hu
    · exact .inr (.inl htu)
    · exact absurd htu hu

end Fields

def TopicSpec.fields : List (TopicSpec → String) := [md5sum, msgType, msgDefinition]

def ServiceSpec.fields : List (ServiceSpec → String) := [md5sum, msgType]

theorem TopicSpec.validateCompatibility_iff {self other : TopicSpec} :
    self.validateCompatibility other = .ok () ↔ FieldsFit fields self other := by
  simp only [fields, fieldsFit_cons, fieldsFit_nil, and_true, validateCompatibility]
  split
  · simp_all
  · split
    · simp_all
    · split <;> simp_all

theorem validateFields_iff {md5sum md5sum' msgType msgType' : String} :
    validateFields md5sum md5sum' msgType msgType' = .ok () ↔
      areFieldsCompatible md5sum md5sum' ∧ areFieldsCompatible msgType msgType' := by
  unfold validateFields
  split
  · simp_all
  · split <;> simp_all

theorem ServiceSpec.validateCompatibility_iff {self other : ServiceSpec} :
    self.validateCompatibility other = .ok () ↔ FieldsFit fields self other := by
  simp only [fields, fieldsFit_cons, fieldsFit_nil, and_true, validateCompatibility,
    validateFields_iff]

end RosrustAsync
