import RosrustAsync.Lib.Watch
import RosrustAsync.ParameterActor

namespace RosrustAsync.ParameterActor

open Actor Prog

variable {V : Type}

/-- The names that the master has the node subscribed to, by the answers to the actor's calls. -/
def master : (c : ParameterCall V) → c.Ans → Finset String → Finset String
  | .subscribeParam paramName, answer, reg => if answer.isOk then insert paramName reg else reg
  | .unsubscribeParam paramName, answer, reg => if answer.isOk then reg.erase paramName else reg
  | _, _, reg => reg

def Kept (_ : ParameterActorMsg V) : (c : ParameterCall V) → c.Ans → Finset String → Prop
  | .unsubscribeParam _, answer, _ => answer.isOk
  | _, _, _ => True

def Succeeds : (c : ParameterCall V) → c.Ans → Prop
  | .subscribeParam _, answer | .unsubscribeParam _, answer => answer.isOk
  | _, _ => True

theorem kept_of_succeeds {m : ParameterActorMsg V} {c : ParameterCall V} {answer : c.Ans}
    {reg : Finset String} (h : Succeeds c answer) : Kept m c answer reg := by
  cases c with
  | unsubscribeParam paramName => exact h
  | _ => trivial

def Mirrored (state : ParameterActorState V) (reg : Finset String) : Prop :=
  reg = state.subscribedParams

variable [DecidableEq V] {emptyStruct : V} {m : ParameterActorMsg V} {state : ParameterActorState V}
  {reg : Finset String}

theorem follows_cachedOrFetched (paramName : String) (h : Mirrored state reg) :
    Follows (behaviour emptyStruct) master Kept m (Sees state reg []) (cachedOrFetched paramName)
      fun _ => Holds Mirrored := by
  apply carries_getState
  split
  · exact carries_pure fun w hw => hw.holds h
  · refine follows_call fun answer _ => carries_ofExcept (fun param _ => ?_) fun e w _ hw => ?_
    · cases param with
      | some value =>
        refine carries_modifyState (carries_pure fun w hw => hw.holds ?_)
        exact h
      | none => exact carries_pure fun w hw => hw.holds h
    · exact hw.holds h

theorem follows_getCachedParam (paramName : String) (h : Mirrored state reg) :
    Follows (behaviour emptyStruct) master Kept m (Sees state reg []) (getCachedParam paramName)
      fun _ => Holds Mirrored := by
  apply carries_getState
  split
  · refine follows_call fun answer _ => carries_ofExcept (fun _ hok => ?_) fun e w he hw => ?_
    · refine carries_modifyState (follows_cachedOrFetched paramName ?_)
      simp only [master, isOk_of_ok hok, if_true]
      exact congrArg (insert paramName) h
    · refine hw.holds ?_
      simp only [master, isOk_of_error he, Bool.false_eq_true, if_false]
      exact h
  · exact follows_cachedOrFetched paramName h

theorem follows_setParam (paramName : String) (value : V) (h : Mirrored state reg) :
    Follows (behaviour emptyStruct) master Kept m (Sees state reg []) (setParam paramName value)
      fun _ => Holds Mirrored := by
  refine follows_call fun answer _ => carries_ofExcept (fun _ _ => carries_getState ?_)
    fun e w _ hw => hw.holds h
  split
  · refine carries_modified fun w hw => hw.holds ?_
    exact h
  · exact carries_pure fun w hw => hw.holds h

theorem follows_deleteParam (paramName : String) (h : Mirrored state reg) :
    Follows (behaviour emptyStruct) master Kept m (Sees state reg []) (deleteParam paramName)
      fun _ => Holds Mirrored := by
  have hdelete : ∀ {state : ParameterActorState V} {reg : Finset String}, Mirrored state reg →
      Follows (behaviour emptyStruct) master Kept m (Sees state reg [])
        (do
          let _ ← ofExcept ((← call (ParameterCall.deleteParam paramName)).mapError
            ParameterActorError.masterClient)
          modifyState fun state => { state with paramCache := state.paramCache.erase paramName } :
            ParameterProgram V ParameterActorError Unit) fun _ => Holds Mirrored := by
    intro state reg h
    refine follows_call fun answer _ => carries_ofExcept (fun _ _ => ?_) fun e w _ hw => hw.holds h
    refine carries_modified fun w hw => hw.holds ?_
    exact h
  apply carries_getState
  split
  · refine carries_modifyState (follows_call fun answer hfits => carries_ofExcept (fun _ hok => ?_)
      fun e w he hw => ?_)
    · refine hdelete ?_
      simp only [master, isOk_of_ok hok, if_true]
      exact congrArg (Finset.erase · paramName) h
    · have hok : answer.isOk := hfits
      rw [isOk_of_error he] at hok
      cases hok
  · exact hdelete h

theorem follows_updateCachedParam (paramName : String) (value : V) (h : Mirrored state reg) :
    Follows (behaviour emptyStruct) master Kept m (Sees state reg [])
      (updateCachedParam emptyStruct paramName value) fun _ => Holds Mirrored := by
  have hcache : ∀ f : (AList fun _ : String => V) → AList fun _ : String => V,
      Follows (behaviour emptyStruct) master Kept m (Sees state reg [])
        (modifyState fun state => { state with paramCache := f state.paramCache } :
          ParameterProgram V ParameterActorError Unit) fun _ => Holds Mirrored := by
    intro f
    refine carries_modified fun w hw => hw.holds ?_
    exact h
  apply carries_getState
  split
  · split
    · exact hcache _
    · refine follows_call fun answer _ => carries_ofExcept (fun set _ => ?_) fun e w _ hw => hw.holds h
      split
      · exact hcache _
      · exact hcache _
  · exact carries_pure fun w hw => hw.holds h

theorem follows_handle (h : Mirrored state reg) : Follows (behaviour emptyStruct) master Kept m
    (Sees state reg []) (handle emptyStruct m) fun _ => Holds Mirrored := by
  have hasked : ∀ {α : Type} {p : ParameterProgram V ParameterActorError α},
      Leaves (behaviour emptyStruct) master Kept m p →
        Follows (behaviour emptyStruct) master Kept m (Sees state reg []) p fun _ => Holds Mirrored := by
    intro α p hp
    refine (hp state reg).weaken (fun _ hw => hw) fun _ w hw => ?_
    unfold Holds at hw ⊢
    rw [hw.1, hw.2]
    exact h
  cases m with
  | getParam name reply | searchParam name reply | paramExists name reply | getParamNames reply =>
    exact carries_reply (carries_attempted (hasked
      (leaves_call_bind (fun _ _ => rfl) fun _ => leaves_ofExcept _)))
  | getCachedParam name reply =>
    exact carries_reply (carries_attempted (follows_getCachedParam name h))
  | setParam name value reply =>
    exact carries_reply (carries_attempted (follows_setParam name value h))
  | deleteParam name reply =>
    exact carries_reply (carries_attempted (follows_deleteParam name h))
  | updateCachedParam name value =>
    exact carries_attempt (follows_updateCachedParam name value h)
      fun _ _ _ h => carries_pure fun w hw => hw.holds h

theorem run_kept {s labels c} (h : Runs.Run (watched (behaviour emptyStruct) master).step
    (Process.Ok Anyhow (Answers fun _ c answer _ => Succeeds c answer)) s labels c) :
    Runs.Run (watched (behaviour emptyStruct) master).step (Process.Ok Anyhow (Answers Kept)) s labels c :=
  h.mono fun _ _ => ok_mono fun _ _ _ _ => kept_of_succeeds

theorem mirrored_idle {labels c} (h : Runs.Run (watched (behaviour emptyStruct) master).step
    (Process.Ok Anyhow (Answers Kept)) ⟨(.init ⟨∅, ∅⟩, ∅), .idle⟩ labels c) (hidle : c.pc = .idle) :
    Mirrored c.world.1.state c.world.2 :=
  watched_holds (P := Mirrored) rfl (fun _ _ _ h => follows_handle h) h hidle

end RosrustAsync.ParameterActor
