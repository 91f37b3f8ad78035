import Mathlib.Data.Finset.Erase
import Mathlib.Data.List.AList
import RosrustAsync.Lib.Actor
import RosrustAsync.Network

namespace RosrustAsync

open Actor Prog

inductive ParameterActorError : Type
  | masterClient (error : MasterClientError)
  | dxr (error : DxrError)

structure ParameterActorState (V : Type) where
  paramCache : AList fun _ : String => V
  subscribedParams : Finset String

inductive ParameterActorMsg (V : Type) : Type
  | getParam (name : String) (reply : ℕ)
  | getCachedParam (name : String) (reply : ℕ)
  | setParam (name : String) (value : V) (reply : ℕ)
  | deleteParam (name : String) (reply : ℕ)
  | searchParam (name : String) (reply : ℕ)
  | paramExists (name : String) (reply : ℕ)
  | getParamNames (reply : ℕ)
  | updateCachedParam (name : String) (value : V)

inductive ParameterReply (V : Type) : Type
  | param (value : Except ParameterActorError (Option V))
  | unit (value : Except ParameterActorError Unit)
  | key (value : Except ParameterActorError (Option String))
  | present (value : Except ParameterActorError Bool)
  | names (value : Except ParameterActorError (List String))

inductive ParameterCall (V : Type) : Type
  | getParam (name : String)
  | setParam (name : String) (value : V)
  | deleteParam (name : String)
  | searchParam (name : String)
  | subscribeParam (name : String)
  | unsubscribeParam (name : String)
  | hasParam (name : String)
  | getParamNames

abbrev ParameterCall.Ans {V : Type} : ParameterCall V → Type
  | .getParam _ => Except MasterClientError V
  | .setParam _ _ => Except MasterClientError ℤ
  | .deleteParam _ => Except MasterClientError ℤ
  | .searchParam _ => Except MasterClientError String
  | .subscribeParam _ => Except MasterClientError V
  | .unsubscribeParam _ => Except MasterClientError ℤ
  | .hasParam _ => Except MasterClientError Bool
  | .getParamNames => Except MasterClientError (List String)

abbrev ParameterProgram (V : Type) : Type → Type → Type :=
  Program (ParameterActorState V) Empty (ParameterReply V) (ParameterCall V) ParameterCall.Ans

namespace ParameterActor

variable {V : Type}

def getParam (paramName : String) : ParameterProgram V ParameterActorError (Option V) := do
  ofExcept ((optionOfInvalidRequest (← call (ParameterCall.getParam paramName))).mapError
    .masterClient)

/-- The match on the name's cache entry. -/
def cachedOrFetched (paramName : String) : ParameterProgram V ParameterActorError (Option V) := do
  match (← getState).paramCache.lookup paramName with
  | some value => return some value
  | none =>
    let param ← ofExcept
      ((optionOfInvalidRequest (← call (ParameterCall.getParam paramName))).mapError .masterClient)
    if let some value := param then
      modifyState fun state => { state with paramCache := state.paramCache.insert paramName value }
    return param

def getCachedParam (paramName : String) : ParameterProgram V ParameterActorError (Option V) := do
  if paramName ∉ (← getState).subscribedParams then
    let _ ← ofExcept ((← call (ParameterCall.subscribeParam paramName)).mapError .masterClient)
    modifyState fun state =>
      { state with subscribedParams := insert paramName state.subscribedParams }
  cachedOrFetched paramName

def setParam (paramName : String) (value : V) : ParameterProgram V ParameterActorError Unit := do
  let _ ← ofExcept ((← call (ParameterCall.setParam paramName value)).mapError .masterClient)
  if paramName ∈ (← getState).subscribedParams then
    modifyState fun state => { state with paramCache := state.paramCache.insert paramName value }

def deleteParam (paramName : String) : ParameterProgram V ParameterActorError Unit := do
  if paramName ∈ (← getState).subscribedParams then
    modifyState fun state =>
      { state with subscribedParams := state.subscribedParams.erase paramName }
    let _ ← ofExcept ((← call (ParameterCall.unsubscribeParam paramName)).mapError .masterClient)
  let _ ← ofExcept ((← call (ParameterCall.deleteParam paramName)).mapError .masterClient)
  modifyState fun state => { state with paramCache := state.paramCache.erase paramName }

def paramExists (paramName : String) : ParameterProgram V ParameterActorError Bool := do
  ofExcept ((← call (ParameterCall.hasParam paramName)).mapError .masterClient)

def searchParam (paramName : String) : ParameterProgram V ParameterActorError (Option String) := do
  ofExcept ((optionOfInvalidRequest (← call (ParameterCall.searchParam paramName))).mapError
    .masterClient)

def getParamNames : ParameterProgram V ParameterActorError (List String) := do
  ofExcept ((← call ParameterCall.getParamNames).mapError .masterClient)

/-- The set is iterated in the order `subscribedParams`. -/
def postStop (subscribedParams : List String) : ParameterProgram V MessagingErr Unit := do
  modifyState fun state => { state with subscribedParams := ∅ }
  subscribedParams.forM fun paramName => do
    -- an error is logged, and the loop goes on
    let _ ← call (ParameterCall.unsubscribeParam paramName)

section Update

variable [DecidableEq V] (emptyStruct : V)

def updateCachedParam (paramName : String) (value : V) :
    ParameterProgram V ParameterActorError Unit := do
  if paramName ∈ (← getState).subscribedParams then
    -- an empty struct may announce a deletion, so that the master is asked about it
    if value ≠ emptyStruct then
      modifyState fun state => { state with paramCache := state.paramCache.insert paramName value }
    else if ← ofExcept ((← call (ParameterCall.hasParam paramName)).mapError .masterClient) then
      modifyState fun state => { state with paramCache := state.paramCache.insert paramName value }
    else
      modifyState fun state => { state with paramCache := state.paramCache.erase paramName }

def handle : ParameterActorMsg V → ParameterProgram V MessagingErr Unit
  | .getParam name reply => do send reply (.param (← attempt (getParam name)))
  | .getCachedParam name reply => do send reply (.param (← attempt (getCachedParam name)))
  | .setParam name value reply => do send reply (.unit (← attempt (setParam name value)))
  | .deleteParam name reply => do send reply (.unit (← attempt (deleteParam name)))
  | .searchParam name reply => do send reply (.key (← attempt (searchParam name)))
  | .paramExists name reply => do send reply (.present (← attempt (paramExists name)))
  | .getParamNames reply => do send reply (.names (← attempt getParamNames))
  | .updateCachedParam name value => do
    let _ ← attempt (updateCachedParam emptyStruct name value)

def behaviour : Behaviour (ParameterActorState V) Empty (ParameterReply V) (ParameterCall V)
    (ParameterActorMsg V) ParameterCall.Ans where
  handle := handle emptyStruct
  registers _ := none
  dropMsg := nofun
  guardOf _ := none
  cloneable := nofun

end Update

def init : Config (ParameterActorState V) Empty (ParameterReply V) (ParameterCall V)
    (ParameterActorMsg V) ParameterCall.Ans := ⟨.init ⟨∅, ∅⟩, .idle⟩

end ParameterActor

end RosrustAsync
