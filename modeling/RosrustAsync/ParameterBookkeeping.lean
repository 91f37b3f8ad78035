import RosrustAsync.ShutdownCleanup

namespace RosrustAsync.ParameterActor

open Actor Prog Runs

variable {V : Type}

/-- An unsubscription does not fail, and neither does the deletion of a parameter with a value in
the cache. -/
def Deletes : (c : ParameterCall V) → c.Ans → ParameterActorState V → Prop
  | .unsubscribeParam _, answer, _ => answer.isOk
  | .deleteParam paramName, answer, state => paramName ∈ state.paramCache → answer.isOk
  | _, _, _ => True

structure Bookkept (state : ParameterActorState V) (reg : Finset String) : Prop where
  cached : ∀ paramName ∈ state.paramCache, paramName ∈ state.subscribedParams
  registered : reg = state.subscribedParams

variable {state : ParameterActorState V} {reg : Finset String} {paramName : String}

theorem Bookkept.insert_cache (h : Bookkept state reg) (hname : paramName ∈ state.subscribedParams)
    (value : V) :
    Bookkept { state with paramCache := state.paramCache.insert paramName value } reg := by
  refine ⟨fun name hcached => ?_, h.registered⟩
  rcases (AList.mem_insert _).mp hcached with rfl | hcached
  · exact hname
  · exact h.cached name hcached

theorem Bookkept.erase_cache (h : Bookkept state reg) (paramName : String) :
    Bookkept { state with paramCache := state.paramCache.erase paramName } reg := by
  refine ⟨fun name hcached => ?_, h.registered⟩
  exact h.cached name (AList.mem_erase.mp hcached).2

theorem Bookkept.subscribe (h : Bookkept state reg) (paramName : String) :
    Bookkept { state with subscribedParams := insert paramName state.subscribedParams }
      (insert paramName reg) := by
  refine ⟨fun name hcached => ?_, congrArg (insert paramName) h.registered⟩
  exact Finset.mem_insert_of_mem (h.cached name hcached)

/-- The subscription of one name has ended, whose cached value is still there. -/
structure BookkeptBut (paramName : String) (state : ParameterActorState V) (reg : Finset String) :
    Prop where
  cached : ∀ name ∈ state.paramCache, name ≠ paramName → name ∈ state.subscribedParams
  registered : reg = state.subscribedParams

theorem Bookkept.but (h : Bookkept state reg) (paramName : String) :
    BookkeptBut paramName state reg :=
  ⟨fun name hcached _ => h.cached name hcached, h.registered⟩

theorem Bookkept.unsubscribe (h : Bookkept state reg) (paramName : String) :
    BookkeptBut paramName
      { state with subscribedParams := state.subscribedParams.erase paramName }
      (reg.erase paramName) := by
  refine ⟨fun name hcached hne => ?_, congrArg (Finset.erase · paramName) h.registered⟩
  exact Finset.mem_erase.mpr ⟨hne, h.cached name hcached⟩

theorem BookkeptBut.bookkept (h : BookkeptBut paramName state reg)
    (hname : paramName ∉ state.paramCache) : Bookkept state reg := by
  refine ⟨fun name hcached => h.cached name hcached ?_, h.registered⟩
  rintro rfl
  exact hname hcached

theorem BookkeptBut.erase_cache (h : BookkeptBut paramName state reg) :
    Bookkept { state with paramCache := state.paramCache.erase paramName } reg := by
  refine ⟨fun name hcached => ?_, h.registered⟩
  obtain ⟨hne, hcached⟩ := AList.mem_erase.mp hcached
  exact h.cached name hcached hne

variable [DecidableEq V] {emptyStruct : V} {m : ParameterActorMsg V}

variable (emptyStruct m) in
abbrev KeepsBooks {ε α : Type} (state : ParameterActorState V) (reg : Finset String)
    (p : ParameterProgram V ε α) : Prop :=
  Carries (behaviour emptyStruct) master (AnswersIn Deletes) m (Sees state reg []) p
    fun _ => Holds Bookkept

theorem keeps_cachedOrFetched (h : Bookkept state reg) (hname : paramName ∈ state.subscribedParams) :
    KeepsBooks emptyStruct m state reg (cachedOrFetched paramName) := by
  apply carries_getState
  split
  · exact carries_pure fun w hw => hw.holds h
  · apply carries_callIn
    intro answer _
    apply carries_ofExcept
    · intro param _
      cases param with
      | some value =>
        apply carries_modifyState
        exact carries_pure fun w hw => hw.holds (h.insert_cache hname value)
      | none => exact carries_pure fun w hw => hw.holds h
    · exact fun e w _ hw => hw.holds h

theorem keeps_getCachedParam (paramName : String) (h : Bookkept state reg) :
    KeepsBooks emptyStruct m state reg (getCachedParam paramName) := by
  apply carries_getState
  split
  case isTrue =>
    apply carries_callIn
    intro answer _
    apply carries_ofExcept
    · intro _ hok
      apply carries_modifyState
      refine keeps_cachedOrFetched ?_ (Finset.mem_insert_self _ _)
      simp only [master, isOk_of_ok hok, if_true]
      exact h.subscribe paramName
    · intro e w he hw
      refine hw.holds ?_
      simp only [master, isOk_of_error he, Bool.false_eq_true, if_false]
      exact h
  case isFalse hname => exact keeps_cachedOrFetched h (not_not.mp hname)

theorem keeps_setParam (paramName : String) (value : V) (h : Bookkept state reg) :
    KeepsBooks emptyStruct m state reg (setParam paramName value) := by
  apply carries_callIn
  intro answer _
  apply carries_ofExcept
  · intro _ _
    apply carries_getState
    split
    case isTrue hname => exact carries_modified fun w hw => hw.holds (h.insert_cache hname value)
    case isFalse => exact carries_pure fun w hw => hw.holds h
  · exact fun e w _ hw => hw.holds h

theorem keeps_deleted (h : BookkeptBut paramName state reg) :
    KeepsBooks emptyStruct m state reg
      (do
        let _ ← ofExcept ((← call (ParameterCall.deleteParam paramName)).mapError
          ParameterActorError.masterClient)
        modifyState fun state => { state with paramCache := state.paramCache.erase paramName } :
          ParameterProgram V ParameterActorError Unit) := by
  apply carries_callIn
  intro answer hdeletes
  apply carries_ofExcept
  · exact fun _ _ => carries_modified fun w hw => hw.holds h.erase_cache
  · intro e w he hw
    refine hw.holds (h.bookkept fun hname => ?_)
    have hok := hdeletes hname
    rw [isOk_of_error he] at hok
    cases hok

theorem keeps_deleteParam (paramName : String) (h : Bookkept state reg) :
    KeepsBooks emptyStruct m state reg (deleteParam paramName) := by
  apply carries_getState
  split
  case isTrue =>
    apply carries_modifyState
    apply carries_callIn
    intro answer hok
    apply carries_ofExcept
    · intro _ _
      refine keeps_deleted ?_
      have hok : answer.isOk := hok
      simp only [master, hok, if_true]
      exact h.unsubscribe paramName
    · intro e w he hw
      have hok : answer.isOk := hok
      rw [isOk_of_error he] at hok
      cases hok
  case isFalse => exact keeps_deleted (h.but paramName)

theorem keeps_updateCachedParam (paramName : String) (value : V) (h : Bookkept state reg) :
    KeepsBooks emptyStruct m state reg (updateCachedParam emptyStruct paramName value) := by
  apply carries_getState
  split
  case isTrue hname =>
    split
    · exact carries_modified fun w hw => hw.holds (h.insert_cache hname value)
    · apply carries_callIn
      intro answer _
      apply carries_ofExcept
      · intro set _
        split
        · exact carries_modified fun w hw => hw.holds (h.insert_cache hname value)
        · exact carries_modified fun w hw => hw.holds (h.erase_cache paramName)
      · exact fun e w _ hw => hw.holds h
  case isFalse => exact carries_pure fun w hw => hw.holds h

theorem keeps_handle (h : Bookkept state reg) :
    KeepsBooks emptyStruct m state reg (handle emptyStruct m) := by
  have hasked {c : ParameterCall V} {α : Type} {f : c.Ans → Except ParameterActorError α}
      (hnote : ∀ answer reg, master c answer reg = reg) :
      KeepsBooks emptyStruct m state reg
        (do ofExcept (f (← call c)) : ParameterProgram V ParameterActorError α) := by
    apply carries_callIn
    intro answer _
    rw [hnote]
    cases f answer with
    | ok a => exact carries_pure fun w hw => hw.holds h
    | error e => exact carries_throw fun w hw => hw.holds h
  cases m with
  | getParam name reply | searchParam name reply | paramExists name reply | getParamNames reply =>
    exact carries_reply (carries_attempted (hasked fun _ _ => rfl))
  | getCachedParam name reply =>
    exact carries_reply (carries_attempted (keeps_getCachedParam name h))
  | setParam name value reply =>
    exact carries_reply (carries_attempted (keeps_setParam name value h))
  | deleteParam name reply =>
    exact carries_reply (carries_attempted (keeps_deleteParam name h))
  | updateCachedParam name value =>
    apply carries_attempt (keeps_updateCachedParam name value h)
    exact fun _ _ _ h => carries_pure fun w hw => hw.holds h

/-- As long as no unsubscription fails, and no deletion of a parameter with a cached value, between
two messages every cached value is kept up to date and every subscription at the master is known to
the actor, which ends them all when it stops. -/
theorem bookkeeping_survives (emptyStruct : V) {labels c}
    (h : Run (watched (behaviour emptyStruct) master).step (Process.Ok Anyhow (AnswersIn Deletes))
      ⟨(.init ⟨∅, ∅⟩, ∅), .idle⟩ labels c) (hidle : c.pc = .idle) :
    (∀ paramName ∈ c.world.1.state.paramCache, paramName ∈ c.world.1.state.subscribedParams) ∧
      (∀ paramName ∈ c.world.2, paramName ∈ c.world.1.state.subscribedParams) ∧
        ∀ subscribedParams : List String,
          subscribedParams.Perm c.world.1.state.subscribedParams.toList →
            CleansUp (behaviour emptyStruct) master Succeeds (postStop subscribedParams) c.world.1
              c.world.2 (c.world.2.toList.map .unsubscribeParam) [] := by
  have hempty : Bookkept (V := V) ⟨∅, ∅⟩ ∅ := ⟨by simp, rfl⟩
  have hkept : Bookkept c.world.1.state c.world.2 :=
    watched_holds (P := Bookkept) hempty (fun _ _ _ h => keeps_handle h) h hidle
  refine ⟨hkept.cached, fun paramName hname => ?_, fun _ horder => ?_⟩
  · rw [← hkept.registered]
    exact hname
  · exact cleansUp_postStop hkept.registered horder

def refused {V : Type} : (c : ParameterCall V) → c.Ans
  | .getParam _ | .setParam _ _ | .deleteParam _ | .searchParam _ | .subscribeParam _
  | .unsubscribeParam _ | .hasParam _ | .getParamNames => .error (.client (.net ""))

theorem bookkeeping_survives_cached :
    ∃ labels c, Run (watched (behaviour (0 : ℕ)) master).step
      (Process.Ok Anyhow (AnswersIn Deletes)) ⟨(.init ⟨∅, ∅⟩, ∅), .idle⟩ labels c ∧
      c.world.1.state.paramCache.lookup "/a" = some 1 ∧
      "/a" ∈ c.world.1.state.subscribedParams := by
  have hrun : ∃ c, Run (watched (behaviour (0 : ℕ)) master).step
      (Process.Ok Anyhow (AnswersIn Deletes)) ⟨(.init ⟨∅, ∅⟩, ∅), .idle⟩
      ([.outside (.enqueue (.getCachedParam "/a" 0)), .outside (.enqueue (.deleteParam "/b" 1)),
        .start] ++ .replicate 9 (.act (answers 1)) ++ [.finish, .start] ++
        .replicate 3 (.act refused) ++ [.finish]) c ∧ c.pc = .idle ∧
      c.world.1.state.paramCache.lookup "/a" = some 1 := by
    have huncached : "/b" ∈ (∅ : AList fun _ : String => ℕ).insert "/a" 1 → False := by decide
    have hdeletes (h : "/b" ∈ (∅ : AList fun _ : String => ℕ).insert "/a" 1) :
        (refused (.deleteParam "/b" : ParameterCall ℕ)).isOk := (huncached h).elim
    refine ⟨_, .cons trivial rfl <| .cons trivial rfl <| .cons trivial rfl <| .cons trivial rfl <|
      .cons trivial rfl <| .cons trivial rfl <| .cons trivial rfl <| .cons trivial rfl <|
      .cons trivial rfl <| .cons trivial rfl <| .cons trivial rfl <| .cons trivial rfl <|
      .cons trivial rfl <| .cons trivial rfl <| .cons trivial rfl <| .cons hdeletes rfl <|
      .cons trivial rfl <| .cons trivial rfl <| .nil _, ?_⟩
    exact ⟨rfl, rfl⟩
  obtain ⟨c, hrun, hidle, hcached⟩ := hrun
  have hmem : "/a" ∈ c.world.1.state.paramCache :=
    AList.lookup_isSome.mp (Option.isSome_of_eq_some hcached)
  exact ⟨_, c, hrun, hcached, (bookkeeping_survives 0 hrun hidle).1 "/a" hmem⟩

def deletionRefused {V : Type} : (c : ParameterCall V) → c.Ans
  | .deleteParam _ => .error (.client (.net ""))
  | .unsubscribeParam _ => .ok 1
  | c => refused c

/-- A refused deletion leaves a cached value without a subscription, and a refused unsubscription
one at the master that the actor has forgotten. -/
theorem bookkeeping_lost :
    (∃ labels c, Run (watched (behaviour (0 : ℕ)) master).step (fun _ _ => True)
      ⟨(.init ⟨∅, ∅⟩, ∅), .idle⟩ labels c ∧ c.pc = .idle ∧
      c.world.1.state.paramCache.lookup "/a" = some 1 ∧ c.world.1.state.subscribedParams = ∅) ∧
    ∃ labels c, Run (watched (behaviour (0 : ℕ)) master).step (fun _ _ => True)
      ⟨(.init ⟨∅, ∅⟩, ∅), .idle⟩ labels c ∧ c.pc = .idle ∧
      c.world.2 = {"/a"} ∧ c.world.1.state.subscribedParams = ∅ := by
  constructor
  · exact ⟨[.outside (.enqueue (.getCachedParam "/a" 0)), .outside (.enqueue (.deleteParam "/a" 1)),
      .start] ++ .replicate 9 (.act (answers 1)) ++ [.finish, .start] ++
      .replicate 6 (.act deletionRefused) ++ [.finish], _, run_of_exec rfl fun _ _ _ => trivial,
      rfl, rfl, rfl⟩
  · exact ⟨[.outside (.enqueue (.getCachedParam "/a" 0)), .outside (.enqueue (.deleteParam "/a" 1)),
      .start] ++ .replicate 9 (.act (answers 1)) ++ [.finish, .start] ++
      .replicate 5 (.act refused) ++ [.finish], _, run_of_exec rfl fun _ _ _ => trivial,
      rfl, rfl, rfl⟩

end RosrustAsync.ParameterActor
