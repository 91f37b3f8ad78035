import Mathlib.Data.List.Infix

namespace RosrustAsync

/-- A master that keeps the parameters in a tree: the value at a path has the values below it as
its members, and what is written at a path replaces all of them. -/
structure ParamTree (V T : Type) where
  -- the namespaces that lead to a name, as the master resolves it
  path : String → List String
  get : T → List String → Option V
  set : T → List String → V → T
  delete : T → List String → T
  search : T → String → Option String
  names : T → List String
  member : V → List String → Option V
  get_append : ∀ t p q, get t (p ++ q) = (get t p).bind fun v => member v q
  get_set : ∀ t p v, get (set t p v) p = some v
  get_set_apart : ∀ t p q v, ¬ p <+: q → ¬ q <+: p → get (set t p v) q = get t q
  get_delete : ∀ t p, p ≠ [] → get (delete t p) p = none
  get_delete_apart : ∀ t p q, ¬ p <+: q → ¬ q <+: p → get (delete t p) q = get t q
  get_set_same : ∀ t p q v, get t p = some v → get (set t p v) q = get t q
  get_delete_absent : ∀ t p q, get t p = none → get (delete t p) q = get t q

/-- Integers and dictionaries, a dictionary as its members one after the other. -/
inductive ParamValue : Type
  | int (value : ℤ)
  | empty
  | member (name : String) (value rest : ParamValue)
  deriving DecidableEq

namespace ParamValue

def lookup : ParamValue → String → Option ParamValue
  | .member name value rest, s => if s = name then some value else rest.lookup s
  | _, _ => none

def erase : ParamValue → String → ParamValue
  | .member name value rest, s =>
    if s = name then rest.erase s else .member name value (rest.erase s)
  | self, _ => self

/-- A value that is no dictionary is replaced by one. -/
def insert : ParamValue → String → ParamValue → ParamValue
  | .member name value rest, s, new =>
    if s = name then .member name new rest else .member name value (rest.insert s new)
  | _, s, new => .member s new .empty

def get : ParamValue → List String → Option ParamValue
  | self, [] => some self
  | self, s :: p => (self.lookup s).bind (get · p)

def set : ParamValue → List String → ParamValue → ParamValue
  | _, [], value => value
  | self, s :: p, value => self.insert s (set ((self.lookup s).getD .empty) p value)

def delete : ParamValue → List String → ParamValue
  | _, [] => .empty
  | self, [s] => self.erase s
  | self, s :: p =>
    match self.lookup s with
    | some value => self.insert s (value.delete p)
    | none => self

theorem lookup_erase (self : ParamValue) (s : String) : (self.erase s).lookup s = none := by
  induction self with
  | int value => rfl
  | empty => rfl
  | member name value rest _ ih =>
    by_cases hs : s = name
    · simp only [erase, if_pos hs, ih]
    · simp only [erase, if_neg hs, lookup, ih]

theorem lookup_erase_ne (self : ParamValue) {s s' : String} (h : s' ≠ s) :
    (self.erase s).lookup s' = self.lookup s' := by
  induction self with
  | int value => rfl
  | empty => rfl
  | member name value rest _ ih =>
    by_cases hs : s = name
    · have hne : s' ≠ name := hs ▸ h
      simp only [erase, if_pos hs, lookup, if_neg hne, ih]
    · simp only [erase, if_neg hs, lookup, ih]

theorem lookup_insert (self : ParamValue) (s : String) (new : ParamValue) :
    (self.insert s new).lookup s = some new := by
  induction self with
  | int value => exact if_pos rfl
  | empty => exact if_pos rfl
  | member name value rest _ ih =>
    by_cases hs : s = name
    · simp only [insert, if_pos hs, lookup]
    · simp only [insert, if_neg hs, lookup, ih]

theorem lookup_insert_ne (self : ParamValue) {s s' : String} (h : s' ≠ s) (new : ParamValue) :
    (self.insert s new).lookup s' = self.lookup s' := by
  induction self with
  | int value => exact if_neg h
  | empty => exact if_neg h
  | member name value rest _ ih =>
    by_cases hs : s = name
    · have hne : s' ≠ name := hs ▸ h
      simp only [insert, if_pos hs, lookup, if_neg hne]
    · simp only [insert, if_neg hs, lookup, ih]

theorem insert_lookup {self value : ParamValue} {s : String} (h : self.lookup s = some value) :
    self.insert s value = self := by
  induction self with
  | int _ => cases h
  | empty => cases h
  | member name _ rest _ ih =>
    by_cases hs : s = name
    · simp only [lookup, if_pos hs, Option.some.injEq] at h
      simp only [insert, if_pos hs, h]
    · simp only [lookup, if_neg hs] at h
      simp only [insert, if_neg hs, ih h]

theorem erase_of_lookup {self : ParamValue} {s : String} (h : self.lookup s = none) :
    self.erase s = self := by
  induction self with
  | int _ => rfl
  | empty => rfl
  | member name value rest _ ih =>
    by_cases hs : s = name
    · simp only [lookup, if_pos hs, reduceCtorEq] at h
    · simp only [lookup, if_neg hs] at h
      simp only [erase, if_neg hs, ih h]

theorem get_append (self : ParamValue) (p q : List String) :
    self.get (p ++ q) = (self.get p).bind (get · q) := by
  induction p generalizing self with
  | nil => rfl
  | cons s p ih =>
    simp only [List.cons_append, get, Option.bind_assoc]
    exact Option.bind_congr fun v _ => ih v

theorem get_set (self : ParamValue) (p : List String) (value : ParamValue) :
    (self.set p value).get p = some value := by
  induction p generalizing self with
  | nil => rfl
  | cons s p ih =>
    simp only [set, get, lookup_insert, Option.bind_some]
    exact ih _

theorem get_set_apart (self : ParamValue) (p q : List String) (value : ParamValue)
    (h : ¬ p <+: q) (h' : ¬ q <+: p) : (self.set p value).get q = self.get q := by
  induction p generalizing self q with
  | nil => exact absurd List.nil_prefix h
  | cons s p ih =>
    cases q with
    | nil => exact absurd List.nil_prefix h'
    | cons s' q =>
      by_cases hs : s' = s
      · subst hs
        rw [List.cons_prefix_cons, not_and] at h h'
        simp only [set, get, lookup_insert, Option.bind_some]
        rw [ih _ q (h rfl) (h' rfl)]
        cases self.lookup s' with
        | some v => rfl
        | none =>
          cases q with
          | nil => exact absurd List.nil_prefix (h' rfl)
          | cons s q => rfl
      · simp only [set, get, lookup_insert_ne _ hs]

theorem get_delete (self : ParamValue) (p : List String) (hp : p ≠ []) :
    (self.delete p).get p = none := by
  induction p generalizing self with
  | nil => exact absurd rfl hp
  | cons s p ih =>
    cases p with
    | nil => simp only [delete, get, lookup_erase, Option.bind_none]
    | cons s' p =>
      cases hs : self.lookup s with
      | none => simp only [delete, hs, get, Option.bind_none]
      | some v =>
        simp only [delete, hs]
        rw [get, lookup_insert, Option.bind_some]
        exact ih v (by simp)

theorem get_delete_apart (self : ParamValue) (p q : List String) (h : ¬ p <+: q)
    (h' : ¬ q <+: p) : (self.delete p).get q = self.get q := by
  induction p generalizing self q with
  | nil => exact absurd List.nil_prefix h
  | cons s p ih =>
    cases q with
    | nil => exact absurd List.nil_prefix h'
    | cons s' q =>
      by_cases hs : s' = s
      · subst hs
        rw [List.cons_prefix_cons, not_and] at h h'
        cases p with
        | nil => exact absurd List.nil_prefix (h rfl)
        | cons s p =>
          cases hv : self.lookup s' with
          | none => simp only [delete, hv]
          | some v =>
            simp only [delete, hv]
            rw [get, lookup_insert, get, hv, Option.bind_some, Option.bind_some]
            exact ih v q (h rfl) (h' rfl)
      · cases p with
        | nil => simp only [delete, get, lookup_erase_ne _ hs]
        | cons s₁ p =>
          cases hv : self.lookup s with
          | none => simp only [delete, hv]
          | some v => simp only [delete, hv, get, lookup_insert_ne _ hs]

theorem set_same {self value : ParamValue} {p : List String} (h : self.get p = some value) :
    self.set p value = self := by
  induction p generalizing self with
  | nil => exact (Option.some.inj h).symm
  | cons s p ih =>
    obtain ⟨v, hv, hvalue⟩ := Option.bind_eq_some_iff.mp h
    simp only [set, hv, Option.getD_some, ih hvalue]
    exact insert_lookup hv

theorem delete_absent {self : ParamValue} {p : List String} (h : self.get p = none) :
    self.delete p = self := by
  induction p generalizing self with
  | nil => cases h
  | cons s p ih =>
    cases p with
    | nil =>
      cases hs : self.lookup s with
      | none => exact erase_of_lookup hs
      | some v => simp only [get, hs, Option.bind_some, reduceCtorEq] at h
    | cons s' p =>
      cases hs : self.lookup s with
      | none => simp only [delete, hs]
      | some v =>
        rw [get, hs, Option.bind_some] at h
        simp only [delete, hs, ih h]
        exact insert_lookup hs

def memberNames : ParamValue → List String
  | .member name _ rest => name :: rest.memberNames
  | _ => []

/-- Every name is absolute, and the namespaces in it are split by slashes. -/
def splitName (name : String) : List String :=
  ((name.toList.splitOn '/').filter (· ≠ [])).map String.ofList

def tree : ParamTree ParamValue ParamValue where
  path := splitName
  get := get
  set := set
  delete := delete
  search t name := if (t.get (splitName name)).isSome then some name else none
  names := memberNames
  member := get
  get_append := get_append
  get_set := get_set
  get_set_apart := get_set_apart
  get_delete := get_delete
  get_delete_apart := get_delete_apart
  get_set_same _ _ q _ h := congrArg (get · q) (set_same h)
  get_delete_absent _ _ q h := congrArg (get · q) (delete_absent h)

end ParamValue

end RosrustAsync
