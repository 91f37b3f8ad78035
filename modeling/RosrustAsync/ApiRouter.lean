import RosrustAsync.AdvertisedEndpoints
import RosrustAsync.ApiServer
import RosrustAsync.NodeShutdown

namespace RosrustAsync

/-! The slave API of a node. -/

/-- What the handlers ask of the node; an actor that cannot be reached is an error. -/
inductive ApiAct (V : Type) : Type
  | triggerShutdown (reason : Option String)
  | getSubscriptions
  | getPublications
  | updateCachedParam (name : String) (value : V)
  | updateConnectedPublishers (topicName : String) (publishers : Finset String)
  | getPublisherAddress (topicName : String)

abbrev ApiAct.Res {V : Type} : ApiAct V → Type
  | .triggerShutdown _ => Except ShutdownError Unit
  | .getSubscriptions | .getPublications => Except String (List (String × String))
  | .updateCachedParam _ _ | .updateConnectedPublishers _ _ => Except String Unit
  | .getPublisherAddress _ => Except String (Option SocketAddr)

structure ApiState (P : AddressParsers) where
  node : NodeState P
  masterUri : String
  -- `process::id()`
  processId : UInt32

namespace ApiRouter

open XmlRpc

variable {D : Dxr} {P : AddressParsers}

abbrev ApiResult (D : Dxr) : Type :=
  ExceptT HandlerError (Prog (ApiAct D.Value) ApiAct.Res) (HandlerResponse D.Value)

/-! The handlers, once they have got their parameters. -/

def serverError {α : Type} (text : String) (result : Except String α) :
    ExceptT HandlerError (Prog (ApiAct D.Value) ApiAct.Res) α :=
  ofExcept (result.mapError fun e => HandlerError.api (.serverError (text ++ e)))

def getBusStats (_callerId : String) : ApiResult D :=
  throw (.api (.serverError "getBusStats not implemented!"))

def getBusInfo (_callerId : String) : ApiResult D :=
  throw (.api (.serverError "getBusInfo not implemented!"))

def getMasterUri (state : ApiState P) (_callerId : String) : ApiResult D :=
  return .new D.string "Master URI" state.masterUri

def shutdown (params : String × String) : ApiResult D := do
  -- a shutdown that has been triggered before is a warning
  let _ ← ExceptT.lift (Prog.perform (.triggerShutdown
    (some s!"API request: [caller_id: {params.1}, reason: \"{params.2}\"]")))
  return .new D.i4 "Node shut down" 0

def getPid (state : ApiState P) (_callerId : String) : ApiResult D :=
  return .new D.i4 "PID" state.processId.toInt32

def topics (D : Dxr) : Conversion D.Value DxrError (List (String × String)) :=
  D.vec (D.tuple (D.members₂ D.string D.string))

def getSubscriptions (_callerId : String) : ApiResult D := do
  let subscriptions ← serverError "Failed to get subscriptions: "
    (← ExceptT.lift (Prog.perform .getSubscriptions))
  return .new (topics D) "List of subscriptions" subscriptions

def getPublications (_callerId : String) : ApiResult D := do
  let publications ← serverError "Failed to get publications: "
    (← ExceptT.lift (Prog.perform .getPublications))
  return .new (topics D) "List of publications" publications

def paramUpdate (params : String × String × D.Value) : ApiResult D := do
  serverError "Failed to update parameter: "
    (← ExceptT.lift (Prog.perform (.updateCachedParam params.2.1 params.2.2)))
  return .new D.i4 "Parameter updated" 0

def publisherUpdate (params : String × String × List String) : ApiResult D := do
  serverError "Failed to update connected publishers: "
    (← ExceptT.lift (Prog.perform (.updateConnectedPublishers params.2.1 params.2.2.toFinset)))
  return .new D.i4 "Publishers updated" 0

def protocolInfo (D : Dxr) : Conversion D.Value DxrError (String × String × Int32) :=
  D.tuple (D.members₃ D.string D.string D.i4)

def requestTopic (state : ApiState P) (params : String × String × List (List String)) :
    ApiResult D := do
  let publisherAddr ← serverError "Failed to set up publisher channel: "
    (← ExceptT.lift (Prog.perform (.getPublisherAddress params.2.1)))
  let (msg, data) ← ofExcept ((state.node.requestTopic params.2.1 publisherAddr).mapError HandlerError.api)
  return .new (protocolInfo D) msg data

def callerIdParam (D : Dxr) : Members D.Value DxrError String := D.members₁ D.string

def shutdownParams (D : Dxr) : Members D.Value DxrError (String × String) :=
  D.members₂ D.string D.string

def paramUpdateParams (D : Dxr) : Members D.Value DxrError (String × String × D.Value) :=
  D.members₃ D.string D.string .self

def publisherUpdateParams (D : Dxr) : Members D.Value DxrError (String × String × List String) :=
  D.members₃ D.string D.string (D.vec D.string)

def requestTopicParams (D : Dxr) :
    Members D.Value DxrError (String × String × List (List String)) :=
  D.members₃ D.string D.string (D.vec (D.vec D.string))

end ApiRouter

end RosrustAsync
