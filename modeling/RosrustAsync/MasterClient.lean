import Mathlib.Data.Finset.Insert
import RosrustAsync.Lib.Collect
import RosrustAsync.XmlRpc

namespace RosrustAsync

open Prog XmlRpc

abbrev StateEntry : Type := AList fun _ : String => Finset String

structure SystemState where
  publishers : StateEntry
  subscribers : StateEntry
  serviceProviders : StateEntry

namespace SystemState

def nodeProvidesResource (state : StateEntry) (nodeName resource : String) : Bool :=
  match state.lookup resource with
  | some entry => nodeName ∈ entry
  | none => false

def isPublishing (self : SystemState) (nodeName topicName : String) : Bool :=
  nodeProvidesResource self.publishers nodeName topicName

def isSubscribed (self : SystemState) (nodeName topicName : String) : Bool :=
  nodeProvidesResource self.subscribers nodeName topicName

def isProvidingService (self : SystemState) (nodeName serviceName : String) : Bool :=
  nodeProvidesResource self.serviceProviders nodeName serviceName

end SystemState

abbrev RawStateEntry : Type := List (String × List String)

section SystemState

variable (D : Dxr)

def rawStateEntry : Conversion D.Value DxrError RawStateEntry :=
  D.vec (D.tuple (D.members₂ D.string (D.vec D.string)))

def rawSystemState : Conversion D.Value DxrError (RawStateEntry × RawStateEntry × RawStateEntry) :=
  D.tuple (D.members₃ (rawStateEntry D) (rawStateEntry D) (rawStateEntry D))

def SystemState.tryFromValue (value : D.Value) : Except DxrError SystemState := do
  let rawState ← (rawSystemState D).ofValue value
  let stateEntries := [rawState.1, rawState.2.1, rawState.2.2].map (collect List.toFinset)
  match stateEntries with
  | [publishers, subscribers, serviceProviders] => .ok ⟨publishers, subscribers, serviceProviders⟩
  | _ => .error (.invalidData "Malformed system state")

end SystemState

structure RosMasterClient where
  callerId : String
  callerApi : String

namespace RosMasterClient

variable {D : Dxr} (X : Xml D.Value) {A : Type} {R : A → Type}
  (post : String → Prog A R (Except String String))

def call {β : Type} (method : String) (params : List D.Value)
    (tryFromValue : D.Value → Except DxrError β) : ExceptT MasterClientError (Prog A R) β :=
  typedCall X .client .dxr post method params tryFromValue

variable (self : RosMasterClient)

def callerIdParams (D : Dxr) : List D.Value := (D.members₁ D.string).toValue self.callerId

/-- The parameters of most calls: the caller and a name. -/
def nameParams (D : Dxr) (name : String) : List D.Value :=
  (D.members₂ D.string D.string).toValue (self.callerId, name)

def apiParams (D : Dxr) (name : String) : List D.Value :=
  (D.members₃ D.string D.string D.string).toValue (self.callerId, name, self.callerApi)

def registerParams (D : Dxr) (name typeOrApi : String) : List D.Value :=
  (D.members₄ D.string D.string D.string D.string).toValue
    (self.callerId, name, typeOrApi, self.callerApi)

def registerService (serviceName serviceApi : String) : ExceptT MasterClientError (Prog A R) Unit := do
  let _ ← call X post "registerService" (self.registerParams D serviceName serviceApi) D.i4.ofValue

def unregisterService (serviceName serviceApi : String) :
    ExceptT MasterClientError (Prog A R) Int32 :=
  call X post "unregisterService"
    ((D.members₃ D.string D.string D.string).toValue (self.callerId, serviceName, serviceApi))
    D.i4.ofValue

def registerSubscriber (topicName topicType : String) :
    ExceptT MasterClientError (Prog A R) (List String) :=
  call X post "registerSubscriber" (self.registerParams D topicName topicType)
    (D.vec D.string).ofValue

def unregisterSubscriber (topicName : String) : ExceptT MasterClientError (Prog A R) Int32 :=
  call X post "unregisterSubscriber" (self.apiParams D topicName) D.i4.ofValue

def registerPublisher (topicName topicType : String) :
    ExceptT MasterClientError (Prog A R) (List String) :=
  call X post "registerPublisher" (self.registerParams D topicName topicType)
    (D.vec D.string).ofValue

def unregisterPublisher (topicName : String) : ExceptT MasterClientError (Prog A R) Int32 :=
  call X post "unregisterPublisher" (self.apiParams D topicName) D.i4.ofValue

def lookupNode (nodeName : String) : ExceptT MasterClientError (Prog A R) String :=
  call X post "lookupNode" (self.nameParams D nodeName) D.string.ofValue

def topicTypes (D : Dxr) : Conversion D.Value DxrError (List (String × String)) :=
  D.vec (D.tuple (D.members₂ D.string D.string))

def getPublishedTopics (subgraph : Option String) :
    ExceptT MasterClientError (Prog A R) (AList fun _ : String => String) := do
  let rawResult ← call X post "getPublishedTopics" (self.nameParams D (subgraph.getD ""))
    (topicTypes D).ofValue
  return collect id rawResult

def getTopicTypes : ExceptT MasterClientError (Prog A R) (AList fun _ : String => String) := do
  let rawResult ← call X post "getTopicTypes" (self.callerIdParams D) (topicTypes D).ofValue
  return collect id rawResult

def getSystemState : ExceptT MasterClientError (Prog A R) SystemState :=
  call X post "getSystemState" (self.callerIdParams D) (SystemState.tryFromValue D)

def getUri : ExceptT MasterClientError (Prog A R) String :=
  call X post "getUri" (self.callerIdParams D) D.string.ofValue

def lookupService (serviceName : String) : ExceptT MasterClientError (Prog A R) String :=
  call X post "lookupService" (self.nameParams D serviceName) D.string.ofValue

def getParamAny (paramName : String) : ExceptT MasterClientError (Prog A R) (Option D.Value) := do
  let result ← attempt (call X post "getParam" (self.nameParams D paramName)
    (Conversion.self (E := DxrError)).ofValue)
  ofExcept (optionOfInvalidRequest result)

def getParam {T : Type} (tryFromValue : D.Value → Except DxrError T) (paramName : String) :
    ExceptT MasterClientError (Prog A R) (Option T) := do
  match ← self.getParamAny X post paramName with
  | some param => return some (← ofExcept ((tryFromValue param).mapError .dxr))
  | none => return none

def setParamAny (paramName : String) (value : D.Value) :
    ExceptT MasterClientError (Prog A R) Int32 :=
  call X post "setParam"
    ((D.members₃ D.string D.string .self).toValue (self.callerId, paramName, value)) D.i4.ofValue

/-- What `value` is converted to may be an error. -/
def setParam (paramName : String) (value : Except DxrError D.Value) :
    ExceptT MasterClientError (Prog A R) Int32 := do
  self.setParamAny X post paramName (← ofExcept (value.mapError .dxr))

def deleteParam (paramName : String) : ExceptT MasterClientError (Prog A R) Int32 :=
  call X post "deleteParam" (self.nameParams D paramName) D.i4.ofValue

def searchParam (paramName : String) : ExceptT MasterClientError (Prog A R) (Option String) := do
  let result ← attempt (call X post "searchParam" (self.nameParams D paramName) D.string.ofValue)
  ofExcept (optionOfInvalidRequest result)

def subscribeParams (D : Dxr) (paramName : String) : List D.Value :=
  (D.members₃ D.string D.string D.string).toValue (self.callerId, self.callerApi, paramName)

def subscribeParamAny (paramName : String) : ExceptT MasterClientError (Prog A R) D.Value :=
  call X post "subscribeParam" (self.subscribeParams D paramName)
    (Conversion.self (E := DxrError)).ofValue

def subscribeParam {T : Type} (tryFromValue : D.Value → Except DxrError T) (paramName : String) :
    ExceptT MasterClientError (Prog A R) T := do
  ofExcept ((tryFromValue (← self.subscribeParamAny X post paramName)).mapError .dxr)

def unsubscribeParam (paramName : String) : ExceptT MasterClientError (Prog A R) Int32 :=
  call X post "unsubscribeParam" (self.subscribeParams D paramName) D.i4.ofValue

def hasParam (paramName : String) : ExceptT MasterClientError (Prog A R) Bool :=
  call X post "hasParam" (self.nameParams D paramName) D.boolean.ofValue

def getParamNames : ExceptT MasterClientError (Prog A R) (List String) :=
  call X post "getParamNames" (self.callerIdParams D) (D.vec D.string).ofValue

end RosMasterClient

end RosrustAsync
