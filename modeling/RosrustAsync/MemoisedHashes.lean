import RosrustAsync.MessageHashes

namespace RosrustAsync

open Relation

/-- A representation reads only the hashes of the messages that its message names. -/
def MessageLib.ReadsDependencies {Msg ε : Type} (lib : MessageLib Msg ε) : Prop :=
  ∀ msg hashes hashes', (∀ p ∈ lib.dependencies msg, hashes.lookup p = hashes'.lookup p) →
    lib.md5Representation msg hashes = lib.md5Representation msg hashes'

namespace DynamicMsg

variable {Msg ε : Type} {lib : MessageLib Msg ε}

/-! The hash of a message without a table: those of its dependencies are hashed for it alone. -/

def plainHashes (root : DynamicMsg lib) (plainHash : Msg → Option (Except ε String)) :
    List MessagePath → (AList fun _ : MessagePath => String) →
      Option (Except ε (AList fun _ : MessagePath => String))
  | [], hashes => some (.ok hashes)
  | depPath :: paths, hashes =>
    match root.dependency depPath with
    | none => root.plainHashes plainHash paths hashes
    | some depMsg =>
      match plainHash depMsg with
      | none => none
      | some (.error e) => some (.error e)
      | some (.ok hash) => root.plainHashes plainHash paths (hashes.insert depPath hash)

/-- `none` when the calls are nested deeper than the fuel. -/
def plainHash (root : DynamicMsg lib) : ℕ → Msg → Option (Except ε String)
  | 0, _ => none
  | fuel + 1, msg =>
    match root.plainHashes (root.plainHash fuel) (lib.dependencies msg) ∅ with
    | none => none
    | some (.error e) => some (.error e)
    | some (.ok hashes) => some ((lib.md5Representation msg hashes).map lib.md5)

/-- The message that a path of the table stands for once `msg` has been hashed. -/
def definition (root : DynamicMsg lib) (msg : Msg) (p : MessagePath) : Option Msg :=
  if p = lib.path msg then some msg else root.dependency p

def Depends (root : DynamicMsg lib) (msg dep : Msg) : Prop :=
  ∃ p ∈ lib.dependencies msg, root.dependency p = some dep

/-- Nothing that the message needs, itself included, needs itself. -/
def Acyclic (root : DynamicMsg lib) (msg : Msg) : Prop :=
  ∀ m, ReflTransGen root.Depends msg m → ¬ TransGen root.Depends m m

variable {root : DynamicMsg lib}

theorem plainHashes_mono {call call' : Msg → Option (Except ε String)}
    (hcall : ∀ dep x, call dep = some x → call' dep = some x) {paths : List MessagePath}
    {hashes : AList fun _ : MessagePath => String}
    {x : Except ε (AList fun _ : MessagePath => String)}
    (h : root.plainHashes call paths hashes = some x) :
    root.plainHashes call' paths hashes = some x := by
  induction paths generalizing hashes with
  | nil => exact h
  | cons p paths ih =>
    simp only [plainHashes] at h ⊢
    split at h
    case h_1 hnone => exact ih h
    case h_2 dep hdep =>
      split at h
      case h_1 => cases h
      all_goals
        rename_i hret
        rw [hcall _ _ hret]
      · exact h
      · exact ih h

theorem plainHash_succ {fuel : ℕ} {msg : Msg} {x : Except ε String}
    (h : root.plainHash fuel msg = some x) : root.plainHash (fuel + 1) msg = some x := by
  induction fuel generalizing msg x with
  | zero => cases h
  | succ fuel ih =>
    rw [plainHash] at h ⊢
    split at h
    case h_1 => cases h
    all_goals
      rename_i hloop
      rw [plainHashes_mono (fun _ _ => ih) hloop]
      exact h

theorem plainHash_mono {fuel fuel' : ℕ} (hle : fuel ≤ fuel') {msg : Msg} {x : Except ε String}
    (h : root.plainHash fuel msg = some x) : root.plainHash fuel' msg = some x := by
  induction hle with
  | refl => exact h
  | step _ ih => exact plainHash_succ ih

/-- Every hash of the table is the plain one of the definition under its path. -/
def Correct (root : DynamicMsg lib) (fuel : ℕ) (hashes : AList fun _ : MessagePath => String) :
    Prop :=
  ∀ p hash, hashes.lookup p = some hash →
    ∃ dep, root.dependency p = some dep ∧ root.plainHash fuel dep = some (.ok hash)

def Covers (root : DynamicMsg lib) (paths : List MessagePath)
    (hashes : AList fun _ : MessagePath => String) : Prop :=
  ∀ p ∈ paths, (root.dependency p).isSome → p ∈ hashes

theorem Correct.mono {fuel fuel' : ℕ} {hashes : AList fun _ : MessagePath => String}
    (h : root.Correct fuel hashes) (hle : fuel ≤ fuel') : root.Correct fuel' hashes := by
  intro p hash hp
  obtain ⟨dep, hdep, hhash⟩ := h p hash hp
  exact ⟨dep, hdep, plainHash_mono hle hhash⟩

theorem Correct.insert {fuel : ℕ} {hashes : AList fun _ : MessagePath => String} {p : MessagePath}
    {dep : Msg} {hash : String} (h : root.Correct fuel hashes) (hdep : root.dependency p = some dep)
    (hhash : root.plainHash fuel dep = some (.ok hash)) :
    root.Correct fuel (hashes.insert p hash) := by
  intro q hash' hq
  by_cases hpq : q = p
  · rw [hpq, AList.lookup_insert] at hq
    cases hq
    exact ⟨dep, hpq ▸ hdep, hhash⟩
  · rw [AList.lookup_insert_ne hpq] at hq
    exact h q hash' hq

theorem Correct.lookup {fuel : ℕ} {hashes : AList fun _ : MessagePath => String} {p : MessagePath}
    {dep : Msg} (h : root.Correct fuel hashes) (hdep : root.dependency p = some dep)
    (hp : p ∈ hashes) :
    ∃ hash, hashes.lookup p = some hash ∧ root.plainHash fuel dep = some (.ok hash) := by
  obtain ⟨hash, hlookup⟩ := Option.isSome_iff_exists.mp (AList.lookup_isSome.mpr hp)
  obtain ⟨dep', hdep', hhash⟩ := h p hash hlookup
  rw [hdep] at hdep'
  cases hdep'
  exact ⟨hash, hlookup, hhash⟩

theorem Correct.not_mem {fuel : ℕ} {hashes : AList fun _ : MessagePath => String} {p : MessagePath}
    (h : root.Correct fuel hashes) (hdep : root.dependency p = none) : p ∉ hashes := by
  intro hp
  obtain ⟨hash, hlookup⟩ := Option.isSome_iff_exists.mp (AList.lookup_isSome.mpr hp)
  obtain ⟨dep, hdep', -⟩ := h p hash hlookup
  rw [hdep] at hdep'
  cases hdep'

theorem Correct.agree {fuel : ℕ} {hashes hashes' : AList fun _ : MessagePath => String}
    {paths : List MessagePath} (h : root.Correct fuel hashes) (h' : root.Correct fuel hashes')
    (hc : root.Covers paths hashes) (hc' : root.Covers paths hashes') {p : MessagePath}
    (hp : p ∈ paths) : hashes.lookup p = hashes'.lookup p := by
  cases hdep : root.dependency p with
  | none =>
    rw [AList.lookup_eq_none.mpr (h.not_mem hdep), AList.lookup_eq_none.mpr (h'.not_mem hdep)]
  | some dep =>
    have hsome : (root.dependency p).isSome := by rw [hdep]; rfl
    obtain ⟨hash, hlookup, hplain⟩ := h.lookup hdep (hc p hp hsome)
    obtain ⟨hash', hlookup', hplain'⟩ := h'.lookup hdep (hc' p hp hsome)
    rw [hplain] at hplain'
    cases hplain'
    rw [hlookup, hlookup']

/-- What hashing dependencies leaves: a correct table that has kept its entries. -/
structure Memoised (root : DynamicMsg lib) (fuel : ℕ) (st st' : Hashing) : Prop where
  correct : root.Correct fuel st'.hashes
  mono : ∀ p ∈ st.hashes, p ∈ st'.hashes

theorem Memoised.refl {fuel : ℕ} {st : Hashing} (h : root.Correct fuel st.hashes) :
    root.Memoised fuel st st := ⟨h, fun _ hp => hp⟩

theorem Memoised.trans {fuel : ℕ} {st st' st'' : Hashing} (h : root.Memoised fuel st st')
    (h' : root.Memoised fuel st' st'') : root.Memoised fuel st st'' :=
  ⟨h'.correct, fun p hp => h'.mono p (h.mono p hp)⟩

theorem Covers.concat {paths : List MessagePath} {hashes : AList fun _ : MessagePath => String}
    {p : MessagePath} (h : root.Covers paths hashes)
    (hp : (root.dependency p).isSome → p ∈ hashes) : root.Covers (paths ++ [p]) hashes := by
  intro q hq
  rcases List.mem_append.mp hq with hq | hq
  · exact h q hq
  · rw [List.mem_singleton.mp hq]
    exact hp

theorem Covers.mono {paths : List MessagePath}
    {hashes hashes' : AList fun _ : MessagePath => String} (h : root.Covers paths hashes)
    (hmono : ∀ p ∈ hashes, p ∈ hashes') : root.Covers paths hashes' :=
  fun p hp hsome => hmono p (h p hp hsome)

/-- A call that the plain recursion returns from, made with a correct table. -/
def Simulates (root : DynamicMsg lib) (fuel : ℕ) (call : Msg → Option (Except ε String))
    (memoised : Msg → Hashing → Option (Except ε String × Hashing)) : Prop :=
  ∀ dep result st, root.dependency (lib.path dep) = some dep → call dep = some result →
    root.Correct fuel st.hashes → ∃ st', memoised dep st = some (result, st') ∧
      root.Memoised fuel st st' ∧ (result.isOk → lib.path dep ∈ st'.hashes)

theorem hashDependencies_simulates {fuel : ℕ} {call : Msg → Option (Except ε String)}
    {memoised : Msg → Hashing → Option (Except ε String × Hashing)}
    (hcall : root.Simulates fuel call memoised)
    (hplain : ∀ dep x, call dep = some x → root.plainHash fuel dep = some x)
    (before paths : List MessagePath) {hashes : AList fun _ : MessagePath => String} {st : Hashing}
    {result : Except ε (AList fun _ : MessagePath => String)}
    (hhashes : root.Correct fuel hashes) (hcovers : root.Covers before hashes)
    (hst : root.Correct fuel st.hashes) (hcovers' : root.Covers before st.hashes)
    (h : root.plainHashes call paths hashes = some result) :
    ∃ st', root.hashDependencies memoised paths st = some (result.map fun _ => (), st') ∧
      root.Memoised fuel st st' ∧ ∀ table, result = .ok table → root.Correct fuel table ∧
        root.Covers (before ++ paths) table ∧ root.Covers (before ++ paths) st'.hashes := by
  induction paths generalizing before hashes st with
  | nil =>
    cases h
    refine ⟨st, rfl, .refl hst, fun table htable => ?_⟩
    cases htable
    rw [List.append_nil]
    exact ⟨hhashes, hcovers, hcovers'⟩
  | cons p paths ih =>
    have happend : before ++ p :: paths = before ++ [p] ++ paths := by simp
    rw [happend]
    simp only [plainHashes] at h
    split at h
    case h_1 hnone =>
      have habsent : (root.dependency p).isSome → False := by simp [hnone]
      simp only [hashDependencies, if_neg (hst.not_mem hnone), hnone]
      exact ih _ hhashes (hcovers.concat fun hs => (habsent hs).elim) hst
        (hcovers'.concat fun hs => (habsent hs).elim) h
    case h_2 dep hdep =>
      have hpath : lib.path dep = p := root.path_eq p dep hdep
      have hself : root.dependency (lib.path dep) = some dep := by rw [hpath, hdep]
      by_cases hmem : p ∈ st.hashes
      · -- the stored hash is what the plain call returns
        obtain ⟨hash, -, hhash⟩ := hst.lookup hdep hmem
        simp only [hashDependencies, if_pos hmem]
        split at h
        case h_1 => cases h
        case h_2 e hret =>
          rw [hplain _ _ hret] at hhash
          cases hhash
        case h_3 hash' hret =>
          have hcorrect := hhashes.insert hdep (hplain _ _ hret)
          refine ih _ hcorrect (Covers.concat (hcovers.mono fun q hq => ?_) fun _ => ?_) hst
            (hcovers'.concat fun _ => hmem) h
          · exact (AList.mem_insert _).mpr (.inr hq)
          · exact (AList.mem_insert _).mpr (.inl rfl)
      · simp only [hashDependencies, if_neg hmem, hdep]
        split at h
        case h_1 => cases h
        case h_2 e hret =>
          cases h
          obtain ⟨st', hcalled, hmemo, -⟩ := hcall dep _ st hself hret hst
          rw [hcalled]
          exact ⟨st', rfl, hmemo, by simp⟩
        case h_3 hash hret =>
          obtain ⟨st₁, hcalled, hmemo, hnew⟩ := hcall dep _ st hself hret hst
          rw [hcalled]
          have hcorrect := hhashes.insert hdep (hplain _ _ hret)
          obtain ⟨st', hrest, hmemo', htables⟩ := ih _ hcorrect
            (Covers.concat (hcovers.mono fun q hq => (AList.mem_insert _).mpr (.inr hq))
              fun _ => (AList.mem_insert _).mpr (.inl rfl))
            hmemo.correct ((hcovers'.mono hmemo.mono).concat fun _ => hpath ▸ hnew rfl) h
          exact ⟨st', hrest, hmemo.trans hmemo', htables⟩

def Hashing.enter (st : Hashing) (p : MessagePath) : Except ε String → Hashing
  | .ok hash => ⟨st.hashes.insert p hash, st.hashed ++ [p]⟩
  | .error _ => st

theorem hashMessage_eq_plain (hlib : lib.ReadsDependencies) {bound fuel : ℕ} {msg : Msg}
    {result : Except ε String} {st : Hashing}
    (hcall : root.Simulates bound (root.plainHash fuel) (root.hashMessage fuel))
    (hle : fuel ≤ bound) (hst : root.Correct bound st.hashes)
    (h : root.plainHash (fuel + 1) msg = some result) :
    ∃ st', root.Memoised bound st st' ∧
      root.hashMessage (fuel + 1) msg st = some (result, st'.enter (lib.path msg) result) := by
  have hplain : ∀ dep x, root.plainHash fuel dep = some x → root.plainHash bound dep = some x :=
    fun dep x => plainHash_mono hle
  have hempty : root.Correct bound ∅ := by
    intro p hash hp
    cases hp
  rw [plainHash] at h
  split at h
  case h_1 => cases h
  case h_2 e hloop =>
    cases h
    obtain ⟨st', hloop', hmemo, -⟩ :=
      hashDependencies_simulates hcall hplain [] _ hempty nofun hst nofun hloop
    refine ⟨st', hmemo, ?_⟩
    rw [hashMessage, hloop']
    rfl
  case h_3 hashes hloop =>
    cases h
    obtain ⟨st', hloop', hmemo, htables⟩ :=
      hashDependencies_simulates hcall hplain [] _ hempty nofun hst nofun hloop
    obtain ⟨hcorrect, hcovers, hcovers'⟩ := htables hashes rfl
    have htext : lib.md5Representation msg st'.hashes = lib.md5Representation msg hashes :=
      hlib msg _ _ fun p hp => hmemo.correct.agree hcorrect hcovers' hcovers hp
    refine ⟨st', hmemo, ?_⟩
    rw [hashMessage, hloop']
    simp only [Except.map, htext]
    cases lib.md5Representation msg hashes <;> rfl

theorem hashMessage_simulates (hlib : lib.ReadsDependencies) {bound fuel : ℕ} (hle : fuel ≤ bound) :
    root.Simulates bound (root.plainHash fuel) (root.hashMessage fuel) := by
  induction fuel with
  | zero =>
    intro dep result st _ h
    cases h
  | succ fuel ih =>
    intro dep result st hdep h hst
    have hfuel : fuel ≤ bound := by omega
    obtain ⟨st', hmemo, heq⟩ := hashMessage_eq_plain hlib (ih hfuel) hfuel hst h
    refine ⟨_, heq, ?_⟩
    cases result with
    | error e => exact ⟨hmemo, by simp⟩
    | ok hash =>
      refine ⟨⟨hmemo.correct.insert hdep (plainHash_mono hle h), fun p hp => ?_⟩, fun _ => ?_⟩
      · exact (AList.mem_insert _).mpr (.inr (hmemo.mono p hp))
      · exact (AList.mem_insert _).mpr (.inl rfl)

theorem plainHashes_exists {fuel : ℕ} {paths : List MessagePath}
    (h : ∀ p ∈ paths, ∀ dep, root.dependency p = some dep → (root.plainHash fuel dep).isSome)
    (hashes : AList fun _ : MessagePath => String) :
    (root.plainHashes (root.plainHash fuel) paths hashes).isSome := by
  induction paths generalizing hashes with
  | nil => rfl
  | cons p paths ih =>
    have hrest := ih fun q hq => h q (List.mem_cons_of_mem _ hq)
    simp only [plainHashes]
    split
    case h_1 => exact hrest hashes
    case h_2 dep hdep =>
      have hsome := h p List.mem_cons_self dep hdep
      split
      case h_1 hnone =>
        rw [hnone] at hsome
        cases hsome
      case h_2 => rfl
      case h_3 hash _ => exact hrest _

theorem plainHash_exists_forall {paths : List MessagePath}
    (h : ∀ p ∈ paths, ∀ dep, root.dependency p = some dep →
      ∃ fuel, (root.plainHash fuel dep).isSome) :
    ∃ fuel, ∀ p ∈ paths, ∀ dep, root.dependency p = some dep →
      (root.plainHash fuel dep).isSome := by
  have hmono {fuel fuel' : ℕ} (hle : fuel ≤ fuel') {dep : Msg}
      (hsome : (root.plainHash fuel dep).isSome) : (root.plainHash fuel' dep).isSome := by
    obtain ⟨x, hx⟩ := Option.isSome_iff_exists.mp hsome
    exact Option.isSome_of_eq_some (plainHash_mono hle hx)
  induction paths with
  | nil => exact ⟨0, nofun⟩
  | cons p paths ih =>
    obtain ⟨hp, hpaths⟩ := List.forall_mem_cons.mp h
    obtain ⟨fuel, hrest⟩ := ih hpaths
    cases hdep : root.dependency p with
    | none =>
      refine ⟨fuel, List.forall_mem_cons.mpr ⟨fun dep hdep' => ?_, hrest⟩⟩
      rw [hdep] at hdep'
      cases hdep'
    | some dep =>
      obtain ⟨fuel', hfuel'⟩ := hp dep hdep
      refine ⟨max fuel fuel', List.forall_mem_cons.mpr ⟨fun dep' hdep' => ?_, ?_⟩⟩
      · rw [hdep] at hdep'
        cases hdep'
        exact hmono (le_max_right _ _) hfuel'
      · exact fun q hq dep' hdep' => hmono (le_max_left _ _) (hrest q hq dep' hdep')

theorem plainHash_exists {msg : Msg} (h : Acc (flip root.Depends) msg) :
    ∃ fuel, (root.plainHash fuel msg).isSome := by
  induction h with
  | intro msg _ ih =>
    obtain ⟨fuel, hfuel⟩ := plainHash_exists_forall fun p hp dep hdep => ih dep ⟨p, hp, hdep⟩
    obtain ⟨x, hx⟩ := Option.isSome_iff_exists.mp (plainHashes_exists hfuel ∅)
    refine ⟨fuel + 1, ?_⟩
    rw [plainHash, hx]
    cases x <;> rfl

theorem Depends.dependency_eq {msg dep : Msg} (h : root.Depends msg dep) :
    root.dependency (lib.path dep) = some dep := by
  obtain ⟨p, -, hp⟩ := h
  rw [root.path_eq p dep hp]
  exact hp

theorem acyclic_iff {msg : Msg} : root.Acyclic msg ↔ Acc (flip root.Depends) msg := by
  constructor
  · intro h
    exact acc_of_defined (fun _ _ hdep => hdep.dependency_eq) fun m hm => h m hm.to_reflTransGen
  · intro h m hm
    rcases reflTransGen_iff_eq_or_transGen.mp hm with rfl | hm
    · exact not_cyclic_of_acc h
    · exact not_cyclic_of_acc (acc_of_transGen h hm)

theorem Correct.enter {fuel : ℕ} {hashes : AList fun _ : MessagePath => String} {msg : Msg}
    {hash : String} (h : root.Correct fuel hashes)
    (hmsg : root.plainHash fuel msg = some (.ok hash)) {p : MessagePath} {hash' : String}
    (hp : (hashes.insert (lib.path msg) hash).lookup p = some hash') :
    ∃ m, root.definition msg p = some m ∧ root.plainHash fuel m = some (.ok hash') := by
  unfold definition
  split
  case isTrue hpath =>
    rw [hpath, AList.lookup_insert] at hp
    cases hp
    exact ⟨msg, rfl, hmsg⟩
  case isFalse hpath =>
    rw [AList.lookup_insert_ne hpath] at hp
    exact h p hash' hp

/-- For every table of definitions and every message without a cycle below it: hashing with one
shared table of hashes gives what hashing each dependency anew does, and leaves only such hashes. -/
theorem memoised_eq_plain (hlib : lib.ReadsDependencies) (root : DynamicMsg lib) (msg : Msg)
    (hacyclic : root.Acyclic msg) :
    ∃ enough result st, ∀ fuel ≥ enough,
      root.hashMessage fuel msg ⟨∅, []⟩ = some (result, st) ∧
      root.plainHash fuel msg = some result ∧
      (result.isOk → ∀ p hash, st.hashes.lookup p = some hash → ∃ m,
        root.definition msg p = some m ∧ root.plainHash fuel m = some (.ok hash)) := by
  obtain ⟨enough, hsome⟩ := plainHash_exists (acyclic_iff.mp hacyclic)
  obtain ⟨result, hplain⟩ := Option.isSome_iff_exists.mp hsome
  cases enough with
  | zero => cases hplain
  | succ enough =>
    have hempty : root.Correct enough (⟨∅, []⟩ : Hashing).hashes := nofun
    obtain ⟨st, hmemo, hmemoised⟩ := hashMessage_eq_plain hlib
      (hashMessage_simulates hlib (le_refl enough)) (le_refl enough) hempty hplain
    refine ⟨enough + 1, result, _, fun fuel hfuel => ⟨hashMessage_mono hfuel hmemoised,
      plainHash_mono hfuel hplain, fun hok p hash hp => ?_⟩⟩
    cases result with
    | error e => cases hok
    | ok msgHash =>
      exact (hmemo.correct.mono (by omega)).enter (plainHash_mono hfuel hplain) hp

end DynamicMsg

namespace MessageDefinition

theorem lib_readsDependencies (md5 : String → String) : (lib md5).ReadsDependencies := by
  intro msg hashes hashes' h
  have hmem (p : MessagePath) (hp : p ∈ msg.fields.filterMap dependency) :
      p ∈ hashes ↔ p ∈ hashes' := by
    rw [← AList.lookup_isSome, ← AList.lookup_isSome, h p hp]
  have hfind : (msg.fields.filterMap dependency).find? (· ∉ hashes) =
      (msg.fields.filterMap dependency).find? (· ∉ hashes') := by
    rw [← List.head?_filter, ← List.head?_filter]
    apply congrArg List.head?
    apply List.filter_congr
    intro p hp
    simp only [hmem p hp]
  have hline (field : FieldType × String) (hfield : field ∈ msg.fields) :
      line hashes field = line hashes' field := by
    obtain ⟨type, name⟩ := field
    cases type with
    | builtin type => rfl
    | message p =>
      simp only [line]
      rw [h p (List.mem_filterMap.mpr ⟨_, hfield, rfl⟩)]
  simp only [lib]
  rw [hfind, List.map_congr_left hline]

def diamondDigest : String → String
  | "9a786cce468f1dfe6613bd1420495ccc b\ne84691c9f67b66e3cd77c36cee7a3696 c" =>
    "3deecd3639e1732f1dd29adaec72268f"
  | text => digest text

def left : MessageDefinition := ⟨⟨"pkg", "B"⟩, [(.message ⟨"std_msgs", "String"⟩, "s")]⟩

def right : MessageDefinition := ⟨⟨"pkg", "C"⟩, [(.message ⟨"std_msgs", "String"⟩, "a")]⟩

/-- Two fields whose types both need a third. -/
def diamond : DynamicMsg (lib diamondDigest) :=
  .ofDefinitions _ ⟨⟨"pkg", "A"⟩, [(.message ⟨"pkg", "B"⟩, "b"), (.message ⟨"pkg", "C"⟩, "c")]⟩
    [left, string, right]

theorem diamond_acyclic : diamond.Acyclic diamond.msg := by
  have hstring : Acc (flip diamond.Depends) string := by
    constructor
    rintro dep ⟨p, hp, -⟩
    cases hp
  have hleft : Acc (flip diamond.Depends) left := by
    constructor
    rintro dep ⟨p, hp, hdep⟩
    cases List.mem_singleton.mp hp
    cases hdep
    exact hstring
  have hright : Acc (flip diamond.Depends) right := by
    constructor
    rintro dep ⟨p, hp, hdep⟩
    cases List.mem_singleton.mp hp
    cases hdep
    exact hstring
  apply DynamicMsg.acyclic_iff.mpr
  constructor
  rintro dep ⟨p, hp, hdep⟩
  rcases List.mem_pair.mp hp with rfl | rfl
  all_goals cases hdep
  · exact hleft
  · exact hright

theorem memoised_eq_plain_diamond : ∃ enough result st, ∀ fuel ≥ enough,
    diamond.hashMessage fuel diamond.msg ⟨∅, []⟩ = some (result, st) ∧
      diamond.plainHash fuel diamond.msg = some result ∧
      (result.isOk → ∀ p hash, st.hashes.lookup p = some hash → ∃ m,
        diamond.definition diamond.msg p = some m ∧
          diamond.plainHash fuel m = some (.ok hash)) :=
  DynamicMsg.memoised_eq_plain (lib_readsDependencies diamondDigest) diamond diamond.msg
    diamond_acyclic

example : (diamond.md5sum 3).map (fun x => (x.1.toOption, x.2.hashed)) =
    some (some "3deecd3639e1732f1dd29adaec72268f",
      [⟨"std_msgs", "String"⟩, ⟨"pkg", "B"⟩, ⟨"pkg", "C"⟩, ⟨"pkg", "A"⟩]) := rfl

end MessageDefinition

end RosrustAsync
