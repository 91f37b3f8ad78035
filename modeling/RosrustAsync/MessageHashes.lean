import Mathlib.Data.Fintype.Order
import Mathlib.Data.List.AList
import Mathlib.Data.Set.Finite.Range
import Mathlib.Logic.Relation
import Mathlib.Order.WellFounded

namespace RosrustAsync

open Relation

structure MessagePath where
  package : String
  name : String
  deriving DecidableEq

/-- What the node uses of the message and digest libraries. -/
structure MessageLib (Msg ε : Type) where
  path : Msg → MessagePath
  dependencies : Msg → List MessagePath
  md5Representation : Msg → (AList fun _ : MessagePath => String) → Except ε String
  md5 : String → String

/-- A representation fails exactly when a message that it names has no hash. -/
def MessageLib.NamesHashes {Msg ε : Type} (lib : MessageLib Msg ε) : Prop := ∀ msg hashes,
  (lib.md5Representation msg hashes).isOk ↔ ∀ p ∈ lib.dependencies msg, p ∈ hashes

@[simp]
theorem isOk_ok {ε α : Type} (a : α) : (Except.ok a : Except ε α).isOk = true := rfl

@[simp]
theorem isOk_error {ε α : Type} (e : ε) : (Except.error e : Except ε α).isOk = false := rfl

structure DynamicMsg {Msg ε : Type} (lib : MessageLib Msg ε) where
  msg : Msg
  dependencies : AList fun _ : MessagePath => Msg
  path_eq : ∀ p m, dependencies.lookup p = some m → lib.path m = p

namespace DynamicMsg

variable {Msg ε : Type} {lib : MessageLib Msg ε}

def dependency (root : DynamicMsg lib) (p : MessagePath) : Option Msg :=
  root.dependencies.lookup p

/-- The table of hashes, and the paths in the order in which they were hashed. -/
structure Hashing where
  hashes : AList fun _ : MessagePath => String
  hashed : List MessagePath

def hashDependencies (root : DynamicMsg lib)
    (hashMessage : Msg → Hashing → Option (Except ε String × Hashing)) :
    List MessagePath → Hashing → Option (Except ε Unit × Hashing)
  | [], st => some (.ok (), st)
  | depPath :: paths, st =>
    if depPath ∈ st.hashes then root.hashDependencies hashMessage paths st
    else
      match root.dependency depPath with
      | none => root.hashDependencies hashMessage paths st
      | some depMsg =>
        match hashMessage depMsg st with
        | none => none
        | some (.error e, st') => some (.error e, st')
        | some (.ok _, st') => root.hashDependencies hashMessage paths st'

/-- `none` when the calls are nested deeper than the fuel. -/
def hashMessage (root : DynamicMsg lib) : ℕ → Msg → Hashing → Option (Except ε String × Hashing)
  | 0, _, _ => none
  | fuel + 1, msg, st =>
    match root.hashDependencies (root.hashMessage fuel) (lib.dependencies msg) st with
    | none => none
    | some (.error e, st') => some (.error e, st')
    | some (.ok (), st') =>
      match lib.md5Representation msg st'.hashes with
      | .error e => some (.error e, st')
      | .ok text =>
        some (.ok (lib.md5 text),
          ⟨st'.hashes.insert (lib.path msg) (lib.md5 text), st'.hashed ++ [lib.path msg]⟩)

def md5sum (root : DynamicMsg lib) (fuel : ℕ) : Option (Except ε String × Hashing) :=
  root.hashMessage fuel root.msg ⟨∅, []⟩

/-- The recursion ends, and no path has been hashed twice. -/
def Settles (root : DynamicMsg lib) : Prop :=
  ∃ fuel result st, root.md5sum fuel = some (result, st) ∧ st.hashed.Nodup

/-- All definitions that a message needs are there, and none of them needs itself. -/
inductive Hashable (root : DynamicMsg lib) : Msg → Prop
  | intro (msg : Msg)
      (present : ∀ p ∈ lib.dependencies msg, (root.dependency p).isSome)
      (hashable : ∀ p ∈ lib.dependencies msg, ∀ dep, root.dependency p = some dep →
        root.Hashable dep) : root.Hashable msg

/-- Those of the paths that are defined have definitions that can be hashed. -/
def AllHashable (root : DynamicMsg lib) (paths : List MessagePath) : Prop :=
  ∀ p ∈ paths, ∀ dep, root.dependency p = some dep → root.Hashable dep

/-- A definition that a message names, with no unhashable one named before it. -/
def Enters (root : DynamicMsg lib) (msg dep : Msg) : Prop :=
  ∃ before p after, lib.dependencies msg = before ++ p :: after ∧ root.dependency p = some dep ∧
    root.AllHashable before

/-- Nothing that the root enters enters itself, or has the path of a root that can be hashed. -/
structure NoReturn (root : DynamicMsg lib) : Prop where
  acyclic : ∀ m, TransGen root.Enters root.msg m → ¬ TransGen root.Enters m m
  other_path : root.Hashable root.msg → ∀ m, TransGen root.Enters root.msg m →
    lib.path m ≠ lib.path root.msg

variable {root : DynamicMsg lib}

@[simp]
theorem allHashable_nil : root.AllHashable [] := by
  simp [AllHashable]

theorem AllHashable.append_singleton {paths : List MessagePath} {p : MessagePath}
    (h : root.AllHashable paths)
    (hp : ∀ dep, root.dependency p = some dep → root.Hashable dep) :
    root.AllHashable (paths ++ [p]) := by
  intro q hq
  rcases List.mem_append.mp hq with hq | hq
  · exact h q hq
  · rw [List.mem_singleton.mp hq]
    exact hp

theorem Enters.dependency_eq {msg dep : Msg} (h : root.Enters msg dep) :
    root.dependency (lib.path dep) = some dep := by
  obtain ⟨_, p, _, -, hp, -⟩ := h
  rw [root.path_eq p dep hp]
  exact hp

theorem Enters.mem {msg dep : Msg} (h : root.Enters msg dep) :
    lib.path dep ∈ lib.dependencies msg := by
  obtain ⟨_, p, _, heq, hp, -⟩ := h
  rw [root.path_eq p dep hp, heq]
  simp

theorem dependency_of_transGen {msg dep : Msg} (h : TransGen root.Enters msg dep) :
    root.dependency (lib.path dep) = some dep := by
  obtain ⟨_, -, h⟩ := TransGen.tail'_iff.mp h
  exact h.dependency_eq

theorem Hashable.acc {msg : Msg} (h : root.Hashable msg) : Acc (flip root.Enters) msg := by
  induction h with
  | intro msg _ _ ih => exact ⟨_, fun dep he => ih _ he.mem dep he.dependency_eq⟩

theorem not_cyclic_of_acc {r : Msg → Msg → Prop} {msg : Msg} (h : Acc (flip r) msg) :
    ¬ TransGen r msg msg := by
  have hacc := h.transGen
  clear h
  induction hacc with
  | intro msg _ ih =>
    intro hcycle
    exact ih msg (transGen_swap.mpr hcycle) hcycle

theorem acc_of_transGen {r : Msg → Msg → Prop} {msg dep : Msg} (h : Acc (flip r) msg)
    (hdep : TransGen r msg dep) : Acc (flip r) dep := by
  induction hdep with
  | single he => exact h.inv he
  | tail _ he ih => exact ih.inv he

/-- A relation to messages of the table is well founded below a message where it has no cycle there:
a table is finite. -/
theorem acc_of_defined {r : Msg → Msg → Prop}
    (hr : ∀ m dep, r m dep → root.dependency (lib.path dep) = some dep) {msg : Msg}
    (h : ∀ m, TransGen r msg m → ¬ TransGen r m m) : Acc (flip r) msg := by
  let Below := {m : Msg // TransGen r msg m}
  have hdefined (m : Below) : root.dependency (lib.path m.1) = some m.1 := by
    obtain ⟨_, -, hlast⟩ := TransGen.tail'_iff.mp m.2
    exact hr _ _ hlast
  have hfinite : Finite Below := by
    have hkey (m : Below) : lib.path m.1 ∈ root.dependencies.keys :=
      AList.mem_keys.mp (AList.lookup_isSome.mp (Option.isSome_of_eq_some (hdefined m)))
    apply Finite.of_injective (fun m : Below => (⟨_, hkey m⟩ : {p // p ∈ root.dependencies.keys}))
    intro a b hab
    have hpath : lib.path a.1 = lib.path b.1 := congrArg Subtype.val hab
    have hb := hdefined b
    rw [← hpath, hdefined a] at hb
    exact Subtype.ext (Option.some.inj hb)
  let below : Below → Below → Prop := fun a b => TransGen r b.1 a.1
  have htrans : IsTrans Below below := ⟨fun _ _ _ hab hbc => hbc.trans hab⟩
  have hirrefl : Std.Irrefl below := ⟨fun m hm => h m.1 m.2 hm⟩
  have hwf : WellFounded below := Finite.wellFounded_of_trans_of_irrefl below
  have hacc (m : Below) : Acc (flip r) m.1 := by
    induction m using hwf.induction with
    | _ m ih =>
      constructor
      intro dep hdep
      exact ih ⟨dep, m.2.tail hdep⟩ (.single hdep)
  constructor
  intro dep hdep
  exact hacc ⟨dep, .single hdep⟩

/-- What holds of the table whenever a dependency is looked at. -/
structure Hashing.Valid (root : DynamicMsg lib) (st : Hashing) : Prop where
  hashable : ∀ p ∈ st.hashes, ∃ m, root.dependency p = some m ∧ root.Hashable m
  closed : ∀ p ∈ st.hashes, ∀ m, root.dependency p = some m →
    ∀ q ∈ lib.dependencies m, q ∈ st.hashes
  mem_hashed : ∀ p, p ∈ st.hashed ↔ p ∈ st.hashes
  nodup : st.hashed.Nodup

theorem Hashing.Valid.hashable_of_mem {st : Hashing} (h : st.Valid root) {p : MessagePath}
    (hp : p ∈ st.hashes) : ∀ dep, root.dependency p = some dep → root.Hashable dep := by
  intro dep hdep
  obtain ⟨m, hm, hhash⟩ := h.hashable p hp
  rw [hm] at hdep
  exact Option.some.inj hdep ▸ hhash

/-- The table grows by paths that the message enters. -/
structure Hashing.Grows (root : DynamicMsg lib) (msg : Msg) (st st' : Hashing) : Prop where
  valid : st'.Valid root
  mono : ∀ p ∈ st.hashes, p ∈ st'.hashes
  entered : ∀ p ∈ st'.hashes, p ∈ st.hashes ∨ ∃ m, TransGen root.Enters msg m ∧ lib.path m = p

theorem Hashing.Grows.refl {msg : Msg} {st : Hashing} (h : st.Valid root) :
    Hashing.Grows root msg st st :=
  ⟨h, fun _ hp => hp, fun _ hp => .inl hp⟩

theorem Hashing.Grows.trans {msg : Msg} {st st' st'' : Hashing}
    (h : Hashing.Grows root msg st st') (h' : Hashing.Grows root msg st' st'') :
    Hashing.Grows root msg st st'' := by
  refine ⟨h'.valid, fun p hp => h'.mono p (h.mono p hp), fun p hp => ?_⟩
  rcases h'.entered p hp with hold | hnew
  · exact h.entered p hold
  · exact .inr hnew

structure Hashing.Returned (root : DynamicMsg lib) (dep : Msg) (st : Hashing)
    (result : Except ε String) (st' : Hashing) : Prop where
  valid : st'.Valid root
  mono : ∀ p ∈ st.hashes, p ∈ st'.hashes
  entered : ∀ p ∈ st'.hashes, p ∈ st.hashes ∨
    ∃ m, ReflTransGen root.Enters dep m ∧ lib.path m = p
  isOk_iff : result.isOk ↔ root.Hashable dep
  mem : result.isOk → lib.path dep ∈ st'.hashes

theorem Hashing.Returned.grows {msg dep : Msg} {st st' : Hashing} {result : Except ε String}
    (h : Hashing.Returned root dep st result st') (he : root.Enters msg dep) :
    Hashing.Grows root msg st st' := by
  refine ⟨h.valid, h.mono, fun p hp => ?_⟩
  rcases h.entered p hp with hold | ⟨m, hm, hpath⟩
  · exact .inl hold
  · exact .inr ⟨m, .head' he hm, hpath⟩

theorem Hashing.Grows.returned {dep : Msg} {st st' : Hashing} {result : Except ε String}
    (h : Hashing.Grows root dep st st') (hr : ¬ result.isOk) (hhash : ¬ root.Hashable dep) :
    Hashing.Returned root dep st result st' := by
  refine ⟨h.valid, h.mono, fun p hp => ?_, by simp [hr, hhash], fun hok => absurd hok hr⟩
  rcases h.entered p hp with hold | ⟨m, hm, hpath⟩
  · exact .inl hold
  · exact .inr ⟨m, hm.to_reflTransGen, hpath⟩

/-- What the loop over a message's dependencies does from any point on. -/
structure Hashing.Looped (root : DynamicMsg lib) (msg : Msg) (paths : List MessagePath)
    (st : Hashing) (result : Except ε Unit) (st' : Hashing) : Prop where
  grows : Hashing.Grows root msg st st'
  isOk_iff : result.isOk ↔ root.AllHashable paths
  mem : result.isOk → ∀ p ∈ paths, (root.dependency p).isSome → p ∈ st'.hashes

/-- Every call that the loop makes from a valid table does what it should. -/
def CallsReturn (root : DynamicMsg lib)
    (call : Msg → Hashing → Option (Except ε String × Hashing)) : Prop :=
  ∀ dep st result st', root.dependency (lib.path dep) = some dep → lib.path dep ∉ st.hashes →
    st.Valid root → call dep st = some (result, st') → Hashing.Returned root dep st result st'

theorem Hashing.Looped.cons {msg : Msg} {p : MessagePath} {paths : List MessagePath}
    {st st₁ st' : Hashing} {result : Except ε Unit}
    (h : Hashing.Looped root msg paths st₁ result st') (hgrows : Hashing.Grows root msg st st₁)
    (hp : ∀ dep, root.dependency p = some dep → root.Hashable dep)
    (hmem : (root.dependency p).isSome → p ∈ st₁.hashes) :
    Hashing.Looped root msg (p :: paths) st result st' := by
  refine ⟨hgrows.trans h.grows, ?_, ?_⟩
  · rw [h.isOk_iff, AllHashable, AllHashable, List.forall_mem_cons]
    exact ⟨fun hall => ⟨hp, hall⟩, fun hall => hall.2⟩
  · intro hr
    rw [List.forall_mem_cons]
    exact ⟨fun hsome => h.grows.mono p (hmem hsome), h.mem hr⟩

theorem hashDependencies_looped {call : Msg → Hashing → Option (Except ε String × Hashing)}
    (hcall : root.CallsReturn call) {msg : Msg} {before paths : List MessagePath}
    {st st' : Hashing} {result : Except ε Unit} (hst : st.Valid root)
    (heq : lib.dependencies msg = before ++ paths)
    (hbefore : root.AllHashable before)
    (h : root.hashDependencies call paths st = some (result, st')) :
    Hashing.Looped root msg paths st result st' := by
  induction paths generalizing before st with
  | nil =>
    simp only [hashDependencies, Option.some.injEq, Prod.mk.injEq] at h
    obtain ⟨rfl, rfl⟩ := h
    exact ⟨.refl hst, by simp, by simp⟩
  | cons p paths ih =>
    have hcons : lib.dependencies msg = (before ++ [p]) ++ paths := by simp [heq]
    simp only [hashDependencies] at h
    split at h
    case isTrue hmem =>
      have hp := hst.hashable_of_mem hmem
      exact (ih hst hcons (hbefore.append_singleton hp) h).cons (.refl hst) hp (fun _ => hmem)
    case isFalse hmem =>
      split at h
      case h_1 hnone =>
        have hp : ∀ dep, root.dependency p = some dep → root.Hashable dep := by
          simp [hnone]
        exact (ih hst hcons (hbefore.append_singleton hp) h).cons (.refl hst) hp (by simp [hnone])
      case h_2 dep hdep =>
        have henters : root.Enters msg dep := ⟨before, p, paths, heq, hdep, hbefore⟩
        have hpath : lib.path dep = p := root.path_eq p dep hdep
        split at h
        case h_1 => cases h
        case h_2 e st₁ hret =>
          cases h
          have hreturned := hcall dep st _ _ henters.dependency_eq (hpath ▸ hmem) hst hret
          have hnot : ¬ root.Hashable dep := by
            rw [← hreturned.isOk_iff]
            simp
          refine ⟨hreturned.grows henters, ?_, fun hr => by simp at hr⟩
          constructor
          · intro hr
            simp at hr
          · intro hall
            exact absurd (hall p (by simp) dep hdep) hnot
        case h_3 hash st₁ hret =>
          have hreturned := hcall dep st _ _ henters.dependency_eq (hpath ▸ hmem) hst hret
          have hhash : root.Hashable dep := hreturned.isOk_iff.mp rfl
          have hp : ∀ dep', root.dependency p = some dep' → root.Hashable dep' := by
            intro dep' hdep'
            rw [hdep] at hdep'
            exact Option.some.inj hdep' ▸ hhash
          exact (ih hreturned.valid hcons (hbefore.append_singleton hp) h).cons (hreturned.grows henters) hp
            (fun _ => hpath ▸ hreturned.mem rfl)

theorem hashDependencies_all {call : Msg → Hashing → Option (Except ε String × Hashing)}
    (hcall : root.CallsReturn call) {msg : Msg} {st st' : Hashing} {result : Except ε Unit}
    (hst : st.Valid root)
    (h : root.hashDependencies call (lib.dependencies msg) st = some (result, st')) :
    Hashing.Looped root msg (lib.dependencies msg) st result st' :=
  hashDependencies_looped hcall hst (List.nil_append _).symm allHashable_nil h

theorem Hashing.Looped.hashable {msg : Msg} {st st' : Hashing} {result : Except ε Unit}
    (h : Hashing.Looped root msg (lib.dependencies msg) st result st')
    (hall : ∀ p ∈ lib.dependencies msg, p ∈ st'.hashes) : root.Hashable msg := by
  constructor
  · intro p hp
    obtain ⟨m, hm, -⟩ := h.grows.valid.hashable p (hall p hp)
    exact Option.isSome_of_eq_some hm
  · intro p hp
    exact h.grows.valid.hashable_of_mem (hall p hp)

theorem Hashing.Looped.isOk_of_hashable {msg : Msg} {st st' : Hashing} {result : Except ε Unit}
    (h : Hashing.Looped root msg (lib.dependencies msg) st result st')
    (hhash : root.Hashable msg) : result.isOk := by
  obtain ⟨_, -, hall⟩ := hhash
  exact h.isOk_iff.mpr hall

theorem Hashing.Looped.mem_of_hashable {msg : Msg} {st st' : Hashing} {result : Except ε Unit}
    (h : Hashing.Looped root msg (lib.dependencies msg) st result st')
    (hhash : root.Hashable msg) : ∀ p ∈ lib.dependencies msg, p ∈ st'.hashes := by
  have hok := h.isOk_of_hashable hhash
  obtain ⟨_, hpresent, -⟩ := hhash
  exact fun p hp => h.mem hok p hp (hpresent p hp)

theorem Hashing.Valid.insert {st : Hashing} (h : st.Valid root) {dep : Msg}
    (hdep : root.dependency (lib.path dep) = some dep) (hhash : root.Hashable dep)
    (hnew : lib.path dep ∉ st.hashes) (hall : ∀ p ∈ lib.dependencies dep, p ∈ st.hashes)
    (hash : String) :
    Hashing.Valid root ⟨st.hashes.insert (lib.path dep) hash, st.hashed ++ [lib.path dep]⟩ := by
  constructor
  case hashable =>
    intro p hp
    rcases (AList.mem_insert _).mp hp with rfl | hp
    · exact ⟨dep, hdep, hhash⟩
    · exact h.hashable p hp
  case closed =>
    intro p hp m hm q hq
    rcases (AList.mem_insert _).mp hp with rfl | hp
    · rw [hdep] at hm
      cases hm
      exact (AList.mem_insert _).mpr (.inr (hall q hq))
    · exact (AList.mem_insert _).mpr (.inr (h.closed p hp m hm q hq))
  case mem_hashed =>
    intro p
    rw [List.mem_append, List.mem_singleton, AList.mem_insert, h.mem_hashed, or_comm]
  case nodup =>
    rw [← List.concat_eq_append]
    exact h.nodup.concat ((h.mem_hashed _).not.mpr hnew)

theorem hashMessage_returned (hlib : lib.NamesHashes) (fuel : ℕ) :
    root.CallsReturn (root.hashMessage fuel) := by
  induction fuel with
  | zero =>
    intro dep st result st' _ _ _ h
    cases h
  | succ fuel ih =>
    intro dep st result st' hdep hnew hst h
    simp only [hashMessage] at h
    split at h
    case h_1 => cases h
    case h_2 e st₁ hloop =>
      cases h
      have hlooped := hashDependencies_all ih hst hloop
      refine hlooped.grows.returned (fun hr => ?_) (fun hhash => ?_)
      · simp at hr
      · simpa using hlooped.isOk_of_hashable hhash
    case h_3 st₁ hloop =>
      have hlooped := hashDependencies_all ih hst hloop
      split at h
      case h_1 e herr =>
        simp only [Option.some.injEq, Prod.mk.injEq] at h
        obtain ⟨rfl, rfl⟩ := h
        refine hlooped.grows.returned (fun hr => ?_) (fun hhash => ?_)
        · simp at hr
        · have hok := (hlib dep _).mpr (hlooped.mem_of_hashable hhash)
          simp [herr] at hok
      case h_2 text hok =>
        cases h
        have hall : ∀ p ∈ lib.dependencies dep, p ∈ st₁.hashes := by
          rw [← hlib dep, hok]
          rfl
        have hhash := hlooped.hashable hall
        have hfresh : lib.path dep ∉ st₁.hashes := by
          intro hmem
          rcases hlooped.grows.entered _ hmem with hold | ⟨m, hm, hpath⟩
          · exact hnew hold
          · have hdep' := dependency_of_transGen hm
            rw [hpath, hdep] at hdep'
            cases hdep'
            exact not_cyclic_of_acc hhash.acc hm
        refine ⟨hlooped.grows.valid.insert hdep hhash hfresh hall _, ?_, ?_, ?_, ?_⟩
        · exact fun p hp => (AList.mem_insert _).mpr (.inr (hlooped.grows.mono p hp))
        · intro p hp
          rcases (AList.mem_insert _).mp hp with rfl | hp
          · exact .inr ⟨dep, .refl, rfl⟩
          · rcases hlooped.grows.entered p hp with hold | ⟨m, hm, hpath⟩
            · exact .inl hold
            · exact .inr ⟨m, hm.to_reflTransGen, hpath⟩
        · exact ⟨fun _ => hhash, fun _ => rfl⟩
        · exact fun _ => (AList.mem_insert _).mpr (.inl rfl)

theorem Hashing.Looped.mem_of_transGen {msg : Msg} {st st' : Hashing} {result : Except ε Unit}
    (h : Hashing.Looped root msg (lib.dependencies msg) st result st')
    (hhash : root.Hashable msg) {m : Msg} (hm : TransGen root.Enters msg m) :
    lib.path m ∈ st'.hashes := by
  induction hm with
  | single he => exact h.mem_of_hashable hhash _ he.mem
  | tail hab he ih => exact h.grows.valid.closed _ ih _ (dependency_of_transGen hab) _ he.mem

theorem acc_of_hashDependencies {call : Msg → Hashing → Option (Except ε String × Hashing)}
    (hcall : root.CallsReturn call)
    (hacc : ∀ dep st x, st.Valid root → call dep st = some x → Acc (flip root.Enters) dep)
    {named after : List MessagePath} {p : MessagePath} {st : Hashing}
    {x : Except ε Unit × Hashing} (hst : st.Valid root) {dep : Msg}
    (hdep : root.dependency p = some dep)
    (hnamed : root.AllHashable named)
    (h : root.hashDependencies call (named ++ p :: after) st = some x) :
    Acc (flip root.Enters) dep := by
  induction named generalizing st with
  | nil =>
    simp only [List.nil_append, hashDependencies] at h
    split at h
    case isTrue hmem => exact (hst.hashable_of_mem hmem dep hdep).acc
    case isFalse =>
      rw [hdep] at h
      simp only at h
      split at h
      case h_1 => cases h
      all_goals
        rename_i hret
        exact hacc dep st _ hst hret
  | cons q named ih =>
    rw [AllHashable, List.forall_mem_cons] at hnamed
    simp only [List.cons_append, hashDependencies] at h
    split at h
    case isTrue => exact ih hst hnamed.2 h
    case isFalse hnew =>
      split at h
      case h_1 => exact ih hst hnamed.2 h
      case h_2 m hm =>
        have hpath : lib.path m = q := root.path_eq q m hm
        have hreturned (result st') := hcall m st result st' (by rw [hpath, hm]) (hpath ▸ hnew) hst
        split at h
        case h_1 => cases h
        case h_2 e st₁ hret =>
          have hok := (hreturned _ _ hret).isOk_iff.mpr (hnamed.1 m hm)
          simp at hok
        case h_3 hash st₁ hret => exact ih (hreturned _ _ hret).valid hnamed.2 h

theorem acc_of_hashMessage (hlib : lib.NamesHashes) (fuel : ℕ) (msg : Msg) (st : Hashing)
    (x : Except ε String × Hashing) (hst : st.Valid root)
    (h : root.hashMessage fuel msg st = some x) : Acc (flip root.Enters) msg := by
  induction fuel generalizing msg st x with
  | zero => cases h
  | succ fuel ih =>
    constructor
    intro dep hdep
    obtain ⟨before, p, after, heq, hp, hbefore⟩ := hdep
    simp only [hashMessage] at h
    split at h
    case h_1 => cases h
    all_goals
      rename_i hloop
      rw [heq] at hloop
      exact acc_of_hashDependencies (hashMessage_returned hlib fuel) ih hst hp hbefore hloop

theorem hashDependencies_mono {call call' : Msg → Hashing → Option (Except ε String × Hashing)}
    (hcall : ∀ dep st x, call dep st = some x → call' dep st = some x)
    {paths : List MessagePath} {st : Hashing} {x : Except ε Unit × Hashing}
    (h : root.hashDependencies call paths st = some x) :
    root.hashDependencies call' paths st = some x := by
  induction paths generalizing st with
  | nil => exact h
  | cons p paths ih =>
    simp only [hashDependencies] at h ⊢
    split at h
    case isTrue hmem =>
      rw [if_pos hmem]
      exact ih h
    case isFalse hmem =>
      rw [if_neg hmem]
      split at h
      case h_1 hnone => exact ih h
      case h_2 dep hdep =>
        split at h
        case h_1 => cases h
        all_goals
          rename_i hret
          rw [hcall _ _ _ hret]
        · exact h
        · exact ih h

theorem hashMessage_succ {fuel : ℕ} {msg : Msg} {st : Hashing} {x : Except ε String × Hashing}
    (h : root.hashMessage fuel msg st = some x) : root.hashMessage (fuel + 1) msg st = some x := by
  induction fuel generalizing msg st x with
  | zero => cases h
  | succ fuel ih =>
    rw [hashMessage] at h ⊢
    split at h
    case h_1 => cases h
    all_goals
      rename_i hloop
      rw [hashDependencies_mono (fun _ _ _ => ih) hloop]
      exact h

theorem hashMessage_mono {fuel fuel' : ℕ} (hle : fuel ≤ fuel') {msg : Msg} {st : Hashing}
    {x : Except ε String × Hashing} (h : root.hashMessage fuel msg st = some x) :
    root.hashMessage fuel' msg st = some x := by
  induction hle with
  | refl => exact h
  | step _ ih => exact hashMessage_succ ih

theorem hashDependencies_exists (hlib : lib.NamesHashes) {msg : Msg}
    (hdeps : ∀ dep, root.Enters msg dep → ∃ fuel, ∀ st, st.Valid root →
      (root.hashMessage fuel dep st).isSome) (before paths : List MessagePath)
    (heq : lib.dependencies msg = before ++ paths)
    (hbefore : root.AllHashable before) :
    ∃ fuel, ∀ st, st.Valid root →
      (root.hashDependencies (root.hashMessage fuel) paths st).isSome := by
  induction paths generalizing before with
  | nil => exact ⟨0, fun st _ => rfl⟩
  | cons p paths ih =>
    have hcons : lib.dependencies msg = (before ++ [p]) ++ paths := by simp [heq]
    cases hdep : root.dependency p with
    | none =>
      have hp : ∀ dep, root.dependency p = some dep → root.Hashable dep := by
        simp [hdep]
      obtain ⟨fuel, hfuel⟩ := ih (before ++ [p]) hcons (hbefore.append_singleton hp)
      refine ⟨fuel, fun st hst => ?_⟩
      simp only [hashDependencies, hdep, ite_self]
      exact hfuel st hst
    | some dep =>
      have hpath : lib.path dep = p := root.path_eq p dep hdep
      obtain ⟨fuel, hfuel⟩ := hdeps dep ⟨before, p, paths, heq, hdep, hbefore⟩
      by_cases hhash : root.Hashable dep
      · have hp : ∀ dep', root.dependency p = some dep' → root.Hashable dep' := by
          intro dep' hdep'
          rw [hdep] at hdep'
          exact Option.some.inj hdep' ▸ hhash
        obtain ⟨fuel', hfuel'⟩ := ih (before ++ [p]) hcons (hbefore.append_singleton hp)
        refine ⟨max fuel fuel', fun st hst => ?_⟩
        have hrest (st : Hashing) (hst : st.Valid root) :
            (root.hashDependencies (root.hashMessage (max fuel fuel')) paths st).isSome := by
          obtain ⟨x, hx⟩ := Option.isSome_iff_exists.mp (hfuel' st hst)
          have hcall (dep st x) (hret : root.hashMessage fuel' dep st = some x) :
              root.hashMessage (max fuel fuel') dep st = some x :=
            hashMessage_mono (le_max_right fuel fuel') hret
          exact Option.isSome_of_eq_some (hashDependencies_mono hcall hx)
        simp only [hashDependencies, hdep]
        split
        case isTrue => exact hrest st hst
        case isFalse hnew =>
          obtain ⟨⟨result, st'⟩, hret⟩ := Option.isSome_iff_exists.mp (hfuel st hst)
          have hreturned := hashMessage_returned hlib fuel dep st result st'
            (by rw [hpath, hdep]) (hpath ▸ hnew) hst hret
          rw [hashMessage_mono (le_max_left fuel fuel') hret]
          cases result with
          | error e => rfl
          | ok hash => exact hrest st' hreturned.valid
      · refine ⟨fuel, fun st hst => ?_⟩
        have hnew : p ∉ st.hashes := fun hmem => hhash (hst.hashable_of_mem hmem dep hdep)
        simp only [hashDependencies, hdep, if_neg hnew]
        obtain ⟨⟨result, st'⟩, hret⟩ := Option.isSome_iff_exists.mp (hfuel st hst)
        have hreturned := hashMessage_returned hlib fuel dep st result st'
          (by rw [hpath, hdep]) (hpath ▸ hnew) hst hret
        rw [hret]
        cases result with
        | error e => rfl
        | ok hash => exact absurd (hreturned.isOk_iff.mp rfl) hhash

theorem hashMessage_exists (hlib : lib.NamesHashes) {msg : Msg} (h : Acc (flip root.Enters) msg) :
    ∃ fuel, ∀ st, st.Valid root → (root.hashMessage fuel msg st).isSome := by
  induction h with
  | intro msg _ ih =>
    obtain ⟨fuel, hfuel⟩ := hashDependencies_exists hlib ih [] _ (List.nil_append _).symm
      allHashable_nil
    refine ⟨fuel + 1, fun st hst => ?_⟩
    obtain ⟨⟨result, st'⟩, hloop⟩ := Option.isSome_iff_exists.mp (hfuel st hst)
    simp only [hashMessage, hloop]
    cases result with
    | error e => rfl
    | ok =>
      simp only
      split <;> rfl

theorem Hashing.Valid.empty : Hashing.Valid root ⟨∅, []⟩ where
  hashable := by simp
  closed := by simp
  mem_hashed := by simp
  nodup := by simp

/-- A root that can be hashed is hashed last, behind the paths of everything that it enters. -/
theorem md5sum_hashed (hlib : lib.NamesHashes) {fuel : ℕ} {result : Except ε String}
    {st : Hashing} (h : root.md5sum fuel = some (result, st)) :
    ¬ root.Hashable root.msg ∧ st.hashed.Nodup ∨
      root.Hashable root.msg ∧ ∃ entered, entered.Nodup ∧
        st.hashed = entered ++ [lib.path root.msg] ∧
          ∀ p, p ∈ entered ↔ ∃ m, TransGen root.Enters root.msg m ∧ lib.path m = p := by
  cases fuel with
  | zero => cases h
  | succ fuel =>
    simp only [md5sum, hashMessage] at h
    have hloops (r : Except ε Unit) (st₁ : Hashing)
        (hloop : root.hashDependencies (root.hashMessage fuel) (lib.dependencies root.msg) ⟨∅, []⟩ =
          some (r, st₁)) :
        Hashing.Looped root root.msg (lib.dependencies root.msg) ⟨∅, []⟩ r st₁ :=
      hashDependencies_all (hashMessage_returned hlib fuel) .empty hloop
    split at h
    case h_1 => cases h
    case h_2 e st₁ hloop =>
      simp only [Option.some.injEq, Prod.mk.injEq] at h
      obtain ⟨rfl, rfl⟩ := h
      have hlooped := hloops _ _ hloop
      exact .inl ⟨fun hhash => by simpa using hlooped.isOk_of_hashable hhash,
        hlooped.grows.valid.nodup⟩
    case h_3 st₁ hloop =>
      have hlooped := hloops _ _ hloop
      split at h
      case h_1 e herr =>
        simp only [Option.some.injEq, Prod.mk.injEq] at h
        obtain ⟨rfl, rfl⟩ := h
        refine .inl ⟨fun hhash => ?_, hlooped.grows.valid.nodup⟩
        have hok := (hlib root.msg _).mpr (hlooped.mem_of_hashable hhash)
        simp [herr] at hok
      case h_2 text hok =>
        simp only [Option.some.injEq, Prod.mk.injEq] at h
        obtain ⟨rfl, rfl⟩ := h
        have hall : ∀ p ∈ lib.dependencies root.msg, p ∈ st₁.hashes := by
          rw [← hlib root.msg, hok]
          rfl
        have hhash := hlooped.hashable hall
        refine .inr ⟨hhash, st₁.hashed, hlooped.grows.valid.nodup, rfl, fun p => ?_⟩
        rw [hlooped.grows.valid.mem_hashed]
        constructor
        · intro hp
          rcases hlooped.grows.entered p hp with hold | hnew
          · simp at hold
          · exact hnew
        · rintro ⟨m, hm, rfl⟩
          exact hlooped.mem_of_transGen hhash hm

/-- For every table of definitions: the recursion for the root ends, and hashes each path at most
once, exactly if nothing that it enters enters itself or has a hashable root's path. -/
theorem settles_iff (hlib : lib.NamesHashes) (root : DynamicMsg lib) :
    root.Settles ↔ root.NoReturn := by
  constructor
  · rintro ⟨fuel, result, st, h, hnodup⟩
    have hacc := acc_of_hashMessage hlib fuel root.msg _ _ .empty h
    refine ⟨fun m hm => not_cyclic_of_acc (acc_of_transGen hacc hm), fun hhash m hm hpath => ?_⟩
    rcases md5sum_hashed hlib h with ⟨hnot, -⟩ | ⟨-, entered, -, hhashed, hmem⟩
    · exact hnot hhash
    · rw [hhashed, ← List.concat_eq_append, List.nodup_concat] at hnodup
      exact hnodup.1 ((hmem _).mpr ⟨m, hm, hpath⟩)
  · intro h
    obtain ⟨fuel, hfuel⟩ := hashMessage_exists hlib
      (acc_of_defined (fun _ _ he => he.dependency_eq) h.acyclic)
    obtain ⟨⟨result, st⟩, hret⟩ := Option.isSome_iff_exists.mp (hfuel _ .empty)
    refine ⟨fuel, result, st, hret, ?_⟩
    rcases md5sum_hashed hlib hret with ⟨-, hnodup⟩ | ⟨hhash, entered, hnodup, hhashed, hmem⟩
    · exact hnodup
    · rw [hhashed, ← List.concat_eq_append, List.nodup_concat]
      refine ⟨fun hp => ?_, hnodup⟩
      obtain ⟨m, hm, hpath⟩ := (hmem _).mp hp
      exact h.other_path hhash m hm hpath

/-- The definitions are put into the table one after the other, each under its own path. -/
def ofDefinitions (lib : MessageLib Msg ε) (msg : Msg) (definitions : List Msg) :
    DynamicMsg lib where
  msg := msg
  dependencies := definitions.foldl (fun table m => table.insert (lib.path m) m) ∅
  path_eq := by
    have hkeyed (table : AList fun _ : MessagePath => Msg)
        (htable : ∀ p m, table.lookup p = some m → lib.path m = p) :
        ∀ p m, (definitions.foldl (fun table m => table.insert (lib.path m) m) table).lookup p =
          some m → lib.path m = p := by
      induction definitions generalizing table with
      | nil => exact htable
      | cons d definitions ih =>
        apply ih
        intro p m h
        by_cases hp : p = lib.path d
        · rw [hp, AList.lookup_insert] at h
          rw [hp, ← Option.some.inj h]
        · rw [AList.lookup_insert_ne hp] at h
          exact htable p m h
    exact hkeyed ∅ (by simp)

end DynamicMsg

inductive FieldType
  | builtin (name : String)
  | message (path : MessagePath)

/-- A message definition in the text format, less its constants. -/
structure MessageDefinition where
  path : MessagePath
  fields : List (FieldType × String)

namespace MessageDefinition

def dependency : FieldType × String → Option MessagePath
  | (.builtin _, _) => none
  | (.message p, _) => some p

def line (hashes : AList fun _ : MessagePath => String) : FieldType × String → String
  | (.builtin type, name) => type ++ " " ++ name
  | (.message p, name) => (hashes.lookup p).getD "" ++ " " ++ name

def lib (md5 : String → String) : MessageLib MessageDefinition MessagePath where
  path := path
  dependencies msg := msg.fields.filterMap dependency
  md5Representation msg hashes :=
    match (msg.fields.filterMap dependency).find? (· ∉ hashes) with
    | some missing => .error missing
    | none => .ok ("\n".intercalate (msg.fields.map (line hashes)))
  md5 := md5

theorem lib_namesHashes (md5 : String → String) : (lib md5).NamesHashes := by
  intro msg hashes
  simp only [lib]
  split
  case h_1 p hp =>
    have hmem := List.mem_of_find?_eq_some hp
    have hnot := List.find?_some hp
    simp only [decide_not, Bool.not_eq_true', decide_eq_false_iff_not] at hnot
    simp only [isOk_error, Bool.false_eq_true, false_iff]
    exact fun hall => hnot (hall p hmem)
  case h_2 hnone =>
    rw [List.find?_eq_none] at hnone
    simp only [isOk_ok, true_iff]
    intro p hp
    simpa using hnone p hp

def digest : String → String
  | "string data" => "992ce8a1687cec8c8bd883ec73ca41d1"
  | "992ce8a1687cec8c8bd883ec73ca41d1 s" => "9a786cce468f1dfe6613bd1420495ccc"
  | "992ce8a1687cec8c8bd883ec73ca41d1 a" => "e84691c9f67b66e3cd77c36cee7a3696"
  | "e84691c9f67b66e3cd77c36cee7a3696 b" => "1c3e00eaa9f16b7c9e20ff279840618e"
  | _ => ""

def string : MessageDefinition := ⟨⟨"std_msgs", "String"⟩, [(.builtin "string", "data")]⟩

def chatter : DynamicMsg (lib digest) :=
  .ofDefinitions _ ⟨⟨"pkg", "Chatter"⟩, [(.message ⟨"std_msgs", "String"⟩, "s")]⟩ [string]

theorem settles_iff_chatter : chatter.NoReturn := by
  apply (DynamicMsg.settles_iff (lib_namesHashes digest) chatter).mp
  exact ⟨2, .ok "9a786cce468f1dfe6613bd1420495ccc", _, rfl, by decide⟩

/-- A message with a field of a type that has a field of its own type. -/
def selfNested : DynamicMsg (lib digest) :=
  .ofDefinitions _ ⟨⟨"pkg", "A"⟩, [(.message ⟨"pkg", "B"⟩, "b")]⟩
    [⟨⟨"pkg", "B"⟩, [(.message ⟨"pkg", "B"⟩, "b")]⟩]

/-- A message whose type is defined again among the definitions it needs. -/
def redefined : DynamicMsg (lib digest) :=
  .ofDefinitions _ ⟨⟨"pkg", "A"⟩, [(.message ⟨"pkg", "B"⟩, "b")]⟩
    [⟨⟨"pkg", "B"⟩, [(.message ⟨"pkg", "A"⟩, "a")]⟩, ⟨⟨"pkg", "A"⟩, [(.builtin "string", "data")]⟩]

/-- The first recursion never ends; the second hashes the root's path twice. -/
theorem hashing_unsettled :
    (∀ fuel, selfNested.md5sum fuel = none) ∧
      ∃ result st, redefined.md5sum 3 = some (result, st) ∧
        st.hashed = [⟨"pkg", "A"⟩, ⟨"pkg", "B"⟩, ⟨"pkg", "A"⟩] := by
  constructor
  · let nested : MessageDefinition := ⟨⟨"pkg", "B"⟩, [(.message ⟨"pkg", "B"⟩, "b")]⟩
    have hnested (fuel : ℕ) : selfNested.hashMessage fuel nested ⟨∅, []⟩ = none := by
      induction fuel with
      | zero => rfl
      | succ fuel ih =>
        have hloop : selfNested.hashDependencies (selfNested.hashMessage fuel)
            [⟨"pkg", "B"⟩] ⟨∅, []⟩ = none := by
          have hdep : selfNested.dependency ⟨"pkg", "B"⟩ = some nested := rfl
          simp only [DynamicMsg.hashDependencies, hdep, ih]
          rfl
        have hdeps : (lib digest).dependencies nested = [⟨"pkg", "B"⟩] := rfl
        rw [DynamicMsg.hashMessage, hdeps, hloop]
    intro fuel
    cases fuel with
    | zero => rfl
    | succ fuel =>
      have hdep : selfNested.dependency ⟨"pkg", "B"⟩ = some nested := rfl
      have hdeps : (lib digest).dependencies selfNested.msg = [⟨"pkg", "B"⟩] := rfl
      rw [DynamicMsg.md5sum, DynamicMsg.hashMessage, hdeps]
      simp only [DynamicMsg.hashDependencies, hdep, hnested]
      rfl
  · exact ⟨.ok "1c3e00eaa9f16b7c9e20ff279840618e", _, rfl, rfl⟩

end MessageDefinition

end RosrustAsync
