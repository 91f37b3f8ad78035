import RosrustAsync.Lib.Watch
import RosrustAsync.ParameterActor
import RosrustAsync.ParameterNet
import RosrustAsync.ParameterTree

namespace RosrustAsync.ParameterActor

open Actor Prog Runs

/-! The node's own writes, with a master that keeps the parameters in a tree. -/

variable {V T : Type}

def treeServe (tree : ParamTree V T) : (c : ParameterCall V) → c.Ans → T → T
  | .setParam name value, answer, t => if answer.isOk then tree.set t (tree.path name) value else t
  | .deleteParam name, answer, t => if answer.isOk then tree.delete t (tree.path name) else t
  | _, _, t => t

def treeAnswers (emptyStruct : V) (tree : ParamTree V T) (t : T) : (c : ParameterCall V) → c.Ans
  | .getParam name =>
    match tree.get t (tree.path name) with
    | some value => .ok value
    | none => ParameterNet.notSet
  | .setParam _ _ => .ok 0
  | .deleteParam name =>
    if (tree.get t (tree.path name)).isSome then .ok 0 else ParameterNet.notSet
  | .searchParam name =>
    match tree.search t name with
    | some key => .ok key
    | none => ParameterNet.notSet
  | .subscribeParam name => .ok ((tree.get t (tree.path name)).getD emptyStruct)
  | .unsubscribeParam _ => .ok 1
  | .hasParam name => .ok (tree.get t (tree.path name)).isSome
  | .getParamNames => .ok (tree.names t)

abbrev TreeWorld (V T : Type) : Type := World (ParameterActorState V) Empty (ParameterActorMsg V) × T

/-- One of two paths is at or below the other. -/
def Related (p q : List String) : Prop := p <+: q ∨ q <+: p

inductive Write (V : Type) : Type
  | set (name : String) (value : V)
  | delete (name : String)

namespace Write

def program : Write V → ParameterProgram V ParameterActorError Unit
  | .set name value => setParam name value
  | .delete name => deleteParam name

def name : Write V → String
  | .set name _ | .delete name => name

def carriedOut (tree : ParamTree V T) (t : T) : Write V → T
  | .set name value => tree.set t (tree.path name) value
  | .delete name => tree.delete t (tree.path name)

/-- The actor stores what it sets if it has subscribed to the name, and forgets what it deletes. -/
def Renews (state : ParameterActorState V) : Write V → Prop
  | .set name _ => name ∈ state.subscribedParams
  | .delete _ => True

def value : Write V → Option V
  | .set _ value => some value
  | .delete _ => none

/-- The cached names at, above and below the written one, but for the one that the write renews. -/
def Others (tree : ParamTree V T) (state : ParameterActorState V) (write : Write V) (name : String)
    (cached : V) : Prop :=
  state.paramCache.lookup name = some cached ∧
    Related (tree.path name) (tree.path write.name) ∧ ¬ (name = write.name ∧ write.Renews state)

/-- What is cached at or below the name is found in its place in the value that is written, and what
is cached above it is what the master has, which the write does not change. -/
def Spares (tree : ParamTree V T) (state : ParameterActorState V) (t : T) (write : Write V) :
    Prop :=
  ∀ name cached, write.Others tree state name cached →
    (∀ q, tree.path name = tree.path write.name ++ q →
      write.value.bind (tree.member · q) = some cached) ∧
    ∀ q, q ≠ [] → tree.path write.name = tree.path name ++ q →
      tree.get t (tree.path name) = some cached ∧ tree.get t (tree.path write.name) = write.value

/-- What is cached above the name is what the master has, and the root is not deleted. -/
def Begins (tree : ParamTree V T) (state : ParameterActorState V) (t : T) (write : Write V) :
    Prop :=
  (write.value = none → tree.path write.name ≠ []) ∧
    ∀ name cached, state.paramCache.lookup name = some cached →
      tree.path name <+: tree.path write.name → tree.get t (tree.path name) = some cached

def Kept (tree : ParamTree V T) (state : ParameterActorState V) (t : T) (write : Write V) : Prop :=
  ∀ name cached, write.Others tree state name cached →
    tree.get (write.carriedOut tree t) (tree.path name) = some cached

variable {tree : ParamTree V T} {state : ParameterActorState V} {t : T} {write : Write V}

theorem get_written (h : write.value = none → tree.path write.name ≠ []) :
    tree.get (write.carriedOut tree t) (tree.path write.name) = write.value := by
  cases write with
  | set name value => exact tree.get_set t _ value
  | delete name => exact tree.get_delete t _ (h rfl)

theorem get_unchanged (h : tree.get t (tree.path write.name) = write.value) (p : List String) :
    tree.get (write.carriedOut tree t) p = tree.get t p := by
  cases write with
  | set name value => exact tree.get_set_same t _ p value h
  | delete name => exact tree.get_delete_absent t _ p h

theorem Spares.kept (h : write.Spares tree state t) : write.Kept tree state t := by
  intro name cached hothers
  obtain ⟨hbelow, habove⟩ := h name cached hothers
  have hat (q : List String) (hq : tree.path name = tree.path write.name ++ q) :
      tree.get (write.carriedOut tree t) (tree.path name) = some cached := by
    have hplace := hbelow q hq
    obtain ⟨v, hv, -⟩ := Option.bind_eq_some_iff.mp hplace
    have hwritten : tree.get (write.carriedOut tree t) (tree.path write.name) = write.value :=
      get_written fun hnone => by rw [hnone] at hv; cases hv
    rw [hq, tree.get_append, hwritten]
    exact hplace
  rcases hothers.2.1 with ⟨q, hq⟩ | ⟨q, hq⟩
  · rcases eq_or_ne q [] with rfl | hne
    · exact hat [] (by simpa using hq)
    · obtain ⟨hcached, hsame⟩ := habove q hne hq.symm
      rw [get_unchanged hsame]
      exact hcached
  · exact hat q hq.symm

theorem Kept.spares (h : write.Kept tree state t) (hbegins : write.Begins tree state t) :
    write.Spares tree state t := by
  intro name cached hothers
  have hkept := h name cached hothers
  refine ⟨fun q hq => ?_, fun q _ hq => ?_⟩
  · rw [hq, tree.get_append, get_written hbegins.1] at hkept
    exact hkept
  · have hcached := hbegins.2 name cached hothers.1 ⟨q, hq.symm⟩
    refine ⟨hcached, ?_⟩
    calc tree.get t (tree.path write.name)
        = tree.get (write.carriedOut tree t) (tree.path write.name) := by
          rw [hq, tree.get_append, tree.get_append, hcached, hkept]
      _ = write.value := get_written hbegins.1

end Write

variable [DecidableEq V] (emptyStruct : V) (tree : ParamTree V T)

/-- What a program returns when nobody else takes a step. -/
def returned {ε α : Type} (m : ParameterActorMsg V) (p : ParameterProgram V ε α)
    (w : TreeWorld V T) : Option (Except ε α) :=
  p.run.eval (fun a w => (watched (behaviour emptyStruct) (treeServe tree)).exec m
    (treeAnswers emptyStruct tree w.2) a w) w

/-- The cached value of a name is the one on the master. -/
def Visible (name : String) (w : TreeWorld V T) : Prop :=
  ∀ m, returned emptyStruct tree m (getCachedParam name) w =
    returned emptyStruct tree m (getParam name) w

variable {emptyStruct tree} {ε α : Type} {m : ParameterActorMsg V} {w : TreeWorld V T}

theorem returned_getState {f : ParameterActorState V → ParameterProgram V ε α} :
    returned emptyStruct tree m (getState >>= f) w =
      returned emptyStruct tree m (f w.1.state) w := rfl

theorem returned_modifyState {g : ParameterActorState V → ParameterActorState V}
    {f : Unit → ParameterProgram V ε α} : returned emptyStruct tree m (modifyState g >>= f) w =
      returned emptyStruct tree m (f ()) ({ w.1 with state := g w.1.state }, w.2) := rfl

theorem returned_call {c : ParameterCall V} {f : c.Ans → ParameterProgram V ε α} :
    returned emptyStruct tree m (call c >>= f) w =
      returned emptyStruct tree m (f (treeAnswers emptyStruct tree w.2 c))
        (w.1, treeServe tree c (treeAnswers emptyStruct tree w.2 c) w.2) := by
  cases c <;> rfl

theorem returned_getParam (name : String) : returned emptyStruct tree m (getParam name) w =
    some (.ok (tree.get w.2 (tree.path name))) := by
  apply returned_call.trans
  cases h : tree.get w.2 (tree.path name) <;> simp only [treeAnswers, h] <;> rfl

theorem returned_cachedOrFetched (name : String) :
    returned emptyStruct tree m (cachedOrFetched name) w =
      some (.ok ((w.1.state.paramCache.lookup name).or (tree.get w.2 (tree.path name)))) := by
  apply returned_getState.trans
  cases hcache : w.1.state.paramCache.lookup name with
  | some value => rfl
  | none =>
    apply returned_call.trans
    cases h : tree.get w.2 (tree.path name) <;> simp only [treeAnswers, h] <;> rfl

theorem returned_getCachedParam (name : String) :
    returned emptyStruct tree m (getCachedParam name) w =
      some (.ok ((w.1.state.paramCache.lookup name).or (tree.get w.2 (tree.path name)))) := by
  apply returned_getState.trans
  by_cases hs : name ∈ w.1.state.subscribedParams
  · simp only [hs, not_true_eq_false, if_false]
    exact returned_cachedOrFetched name
  · simp only [hs, not_false_eq_true, if_true]
    apply returned_call.trans
    apply returned_modifyState.trans
    exact returned_cachedOrFetched name

theorem visible_iff {name : String} : Visible emptyStruct tree name w ↔
    ∀ value, w.1.state.paramCache.lookup name = some value →
      tree.get w.2 (tree.path name) = some value := by
  simp only [Visible, returned_getCachedParam, returned_getParam, Option.some.injEq,
    Except.ok.injEq]
  constructor
  · intro h value hvalue
    rw [← h (.getParamNames 0), hvalue]
    rfl
  · intro h _
    cases hcache : w.1.state.paramCache.lookup name with
    | none => rfl
    | some value => exact (h value hcache).symm

/-- What a write that succeeds leaves behind. -/
structure Written (tree : ParamTree V T) (state : ParameterActorState V) (t : T) (write : Write V)
    (w : TreeWorld V T) : Prop where
  carried_out : w.2 = write.carriedOut tree t
  other : ∀ name, ¬ (name = write.name ∧ write.Renews state) →
    w.1.state.paramCache.lookup name = state.paramCache.lookup name
  renewed : write.Renews state → ∀ value, w.1.state.paramCache.lookup write.name = some value →
    tree.get w.2 (tree.path write.name) = some value

theorem Written.visible_iff_kept {state : ParameterActorState V} {t : T} {write : Write V}
    (h : Written tree state t write w) :
    (∀ name, Related (tree.path name) (tree.path write.name) → Visible emptyStruct tree name w) ↔
      write.Kept tree state t := by
  simp only [visible_iff]
  constructor
  · rintro hvisible name cached ⟨hcached, hrelated, hrenewed⟩
    rw [← h.other name hrenewed] at hcached
    have hvalue := hvisible name hrelated cached hcached
    rw [h.carried_out] at hvalue
    exact hvalue
  · intro hkept name hrelated cached hcached
    by_cases hrenewed : name = write.name ∧ write.Renews state
    · obtain ⟨rfl, hrenews⟩ := hrenewed
      exact h.renewed hrenews cached hcached
    · rw [h.other name hrenewed] at hcached
      rw [h.carried_out]
      exact hkept name cached ⟨hcached, hrelated, hrenewed⟩

abbrev Anyway (_m : ParameterActorMsg V) (_answer : (c : ParameterCall V) → c.Ans)
    (_a : Act (ParameterActorState V) Empty (ParameterReply V) (ParameterCall V))
    (_w : TreeWorld V T) : Prop := True

variable {state : ParameterActorState V} {t : T}

theorem carries_setParam (name : String) (value : V) :
    Carries (behaviour emptyStruct) (treeServe tree) Anyway m (Sees state t [])
      (setParam name value) fun r w => r = .ok () → Written tree state t (.set name value) w := by
  apply carries_call
  intro answer _ _ _
  apply carries_ofExcept
  · intro _ hok
    simp only [treeServe, isOk_of_ok hok, if_true]
    apply carries_getState
    split
    case isTrue hname =>
      refine carries_modified fun w hw _ => ⟨hw.noted_eq, fun n hn => ?_, fun _ v hv => ?_⟩
      · have hne : n ≠ name := fun heq => hn ⟨heq, hname⟩
        rw [hw.state_eq]
        exact AList.lookup_insert_ne hne
      · rw [hw.state_eq] at hv
        have hlookup : (state.paramCache.insert name value).lookup name = some v := hv
        rw [AList.lookup_insert] at hlookup
        rw [hw.noted_eq, ← Option.some.inj hlookup]
        exact tree.get_set t _ value
    case isFalse hname =>
      refine carries_pure fun w hw _ => ⟨hw.noted_eq, fun n _ => ?_, fun hrenews => ?_⟩
      · rw [hw.state_eq]
      · exact absurd hrenews hname
  · intro e w _ _ h
    cases h

theorem carries_deleted (name : String) {subs : Finset String} :
    Carries (behaviour emptyStruct) (treeServe tree) Anyway m
      (Sees { state with subscribedParams := subs } t [])
      (do
        let _ ← ofExcept ((← call (ParameterCall.deleteParam name)).mapError
          ParameterActorError.masterClient)
        modifyState fun state => { state with paramCache := state.paramCache.erase name } :
          ParameterProgram V ParameterActorError Unit)
      fun r w => r = .ok () → Written tree state t (.delete name) w := by
  apply carries_call
  intro answer _ _ _
  apply carries_ofExcept
  · intro _ hok
    simp only [treeServe, isOk_of_ok hok, if_true]
    refine carries_modified fun w hw _ => ⟨hw.noted_eq, fun n hn => ?_, fun _ v hv => ?_⟩
    · have hne : n ≠ name := fun heq => hn ⟨heq, trivial⟩
      rw [hw.state_eq]
      exact AList.lookup_erase_ne hne
    · rw [hw.state_eq] at hv
      have hlookup : (state.paramCache.erase name).lookup name = some v := hv
      rw [AList.lookup_erase] at hlookup
      cases hlookup
  · intro e w _ _ h
    cases h

theorem carries_deleteParam (name : String) :
    Carries (behaviour emptyStruct) (treeServe tree) Anyway m (Sees state t [])
      (deleteParam name) fun r w => r = .ok () → Written tree state t (.delete name) w := by
  apply carries_getState
  split
  case isTrue =>
    apply carries_modifyState
    apply carries_call
    intro answer _ _ _
    apply carries_ofExcept
    · exact fun _ _ => carries_deleted name
    · intro e w _ _ h
      cases h
  case isFalse => exact carries_deleted name

theorem carries_write (write : Write V) :
    Carries (behaviour emptyStruct) (treeServe tree) Anyway m (Sees state t []) write.program
      fun r w => r = .ok () → Written tree state t write w := by
  cases write with
  | set name value => exact carries_setParam name value
  | delete name => exact carries_deleteParam name

/-- From every state, and whatever the clients do: when a write of the node succeeds that spares the
other names, what is cached at, above and below the name is what the master has there; and if what
was cached above it was so before, then only when the write spares them. -/
theorem own_write_visible (emptyStruct : V) (tree : ParamTree V T) (m : ParameterActorMsg V)
    (write : Write V) (state : ParameterActorState V) (t : T) :
    Carries (behaviour emptyStruct) (treeServe tree) Anyway m (Sees state t []) write.program
      fun r w => r = .ok () →
        (write.Spares tree state t → ∀ name, Related (tree.path name) (tree.path write.name) →
          Visible emptyStruct tree name w) ∧
        (write.Begins tree state t →
          (∀ name, Related (tree.path name) (tree.path write.name) →
            Visible emptyStruct tree name w) → write.Spares tree state t) := by
  refine (carries_write write).weaken (fun _ hw => hw) fun _ _ hw hr => ⟨fun hspares => ?_, ?_⟩
  · exact (hw hr).visible_iff_kept.mpr hspares.kept
  · exact fun hbegins hvisible => ((hw hr).visible_iff_kept.mp hvisible).spares hbegins

/-- A master that answers every call at once. -/
def Answered (emptyStruct : V) (tree : ParamTree V T) (_m : ParameterActorMsg V)
    (answer : (c : ParameterCall V) → c.Ans)
    (a : Act (ParameterActorState V) Empty (ParameterReply V) (ParameterCall V))
    (w : TreeWorld V T) : Prop :=
  match a with
  | .call c => answer c = treeAnswers emptyStruct tree w.2 c
  | _ => True

def namespaced (value : ℤ) : ParamValue :=
  .member "a" (.member "b" (.int value) .empty) .empty

theorem own_write_unseen : ∃ labels c,
    Run (watched (behaviour .empty) (treeServe ParamValue.tree)).step
      (Process.Ok Anyhow (Answered .empty ParamValue.tree))
      ⟨(.init ⟨∅, ∅⟩, namespaced 1), .idle⟩ labels c ∧ c.pc = .idle ∧ c.world.1.mailbox = [] ∧
      c.world.2 = namespaced 2 ∧ ¬ Visible .empty ParamValue.tree "/a/b" c.world := by
  obtain ⟨c, hrun, hidle, hmailbox, htree, hcache⟩ : ∃ c,
      Run (watched (behaviour .empty) (treeServe ParamValue.tree)).step
        (Process.Ok Anyhow (Answered .empty ParamValue.tree))
        ⟨(.init ⟨∅, ∅⟩, namespaced 1), .idle⟩
        ([.outside (.enqueue (.getCachedParam "/a/b" 0)), .start] ++
          .replicate 9 (.act (treeAnswers .empty ParamValue.tree (namespaced 1))) ++ [.finish,
          .outside (.enqueue (.setParam "/a" (.member "b" (.int 2) .empty) 1)), .start] ++
          .replicate 3 (.act (treeAnswers .empty ParamValue.tree (namespaced 1))) ++ [.finish]) c ∧
      c.pc = .idle ∧ c.world.1.mailbox = [] ∧ c.world.2 = namespaced 2 ∧
      c.world.1.state.paramCache.lookup "/a/b" = some (.int 1) := by
    refine ⟨_, .cons trivial rfl <| .cons trivial rfl <| .cons trivial rfl <| .cons rfl rfl <|
      .cons trivial rfl <| .cons trivial rfl <| .cons trivial rfl <| .cons rfl rfl <|
      .cons trivial rfl <| .cons trivial rfl <| .cons trivial rfl <| .cons trivial rfl <|
      .cons trivial rfl <| .cons trivial rfl <| .cons rfl rfl <| .cons trivial rfl <|
      .cons trivial rfl <| .cons trivial rfl <| .nil _, ?_⟩
    exact ⟨rfl, rfl, rfl, rfl⟩
  refine ⟨_, c, hrun, hidle, hmailbox, htree, fun hvisible => ?_⟩
  have hvalue := visible_iff.mp hvisible (.int 1) hcache
  rw [htree] at hvalue
  exact absurd hvalue (by decide)

end RosrustAsync.ParameterActor
