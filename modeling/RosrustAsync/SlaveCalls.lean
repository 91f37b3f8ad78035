import RosrustAsync.RpcCalls
import RosrustAsync.SlaveApi
import RosrustAsync.SlaveClient

namespace RosrustAsync

open Prog XmlRpc

/-! The calls of a slave client, and what they come to when a node's router answers them. -/

inductive SlaveCall (V : Type) : Type
  | getMasterUri
  | shutdown (reason : String)
  | getPid
  | getSubscriptions
  | getPublications
  | paramUpdateAny (paramName : String) (value : V)
  | publisherUpdate (topicName : String) (publishers : List String)
  | requestTopic (topicName : String) (protocols : List (List String))

namespace SlaveCall

abbrev Ans {V : Type} : SlaveCall V → Type
  | getMasterUri => String
  | getPid => Int32
  | getSubscriptions | getPublications => List (String × String)
  | shutdown _ | paramUpdateAny _ _ | publisherUpdate _ _ => Unit
  | requestTopic _ _ => Option (String × String × Int32)

variable {D : Dxr} {P : AddressParsers}

def perform (X : Xml D.Value) {A : Type} {R : A → Type}
    (post : String → Prog A R (Except String String)) (client : RosSlaveClient) :
    (c : SlaveCall D.Value) → ExceptT SlaveClientError (Prog A R) c.Ans
  | getMasterUri => client.getMasterUri X post
  | shutdown reason => client.shutdown X post reason
  | getPid => client.getPid X post
  | getSubscriptions => client.getSubscriptions X post
  | getPublications => client.getPublications X post
  | paramUpdateAny paramName value => client.paramUpdateAny X post paramName value
  | publisherUpdate topicName publishers => client.publisherUpdate X post topicName publishers
  | requestTopic topicName protocols =>
    client.requestTopic X post (ApiRouter.protocolInfo D) topicName protocols

def request (callerId : String) : SlaveCall D.Value → ApiRequest D.Value
  | getMasterUri => .getMasterUri callerId
  | shutdown reason => .shutdown callerId reason
  | getPid => .getPid callerId
  | getSubscriptions => .getSubscriptions callerId
  | getPublications => .getPublications callerId
  | paramUpdateAny paramName value => .paramUpdate callerId paramName value
  | publisherUpdate topicName publishers => .publisherUpdate callerId topicName publishers
  | requestTopic topicName protocols => .requestTopic callerId topicName protocols

abbrev Direct (D : Dxr) : Type → Type :=
  ExceptT SlaveClientError (Prog (ApiAct D.Value) ApiAct.Res)

def reached (text : String) {α : Type} (answer : Except String α) : Direct D α :=
  ofExcept (answer.mapError fun e => .client (.api (.serverError (text ++ e))))

/-- The call without XML-RPC between the client and the node. -/
def direct (state : ApiState P) (callerId : String) : (c : SlaveCall D.Value) → Direct D c.Ans
  | getMasterUri => return state.masterUri
  | shutdown reason => do
    let _ ← ExceptT.lift (Prog.perform (.triggerShutdown
      (some s!"API request: [caller_id: {callerId}, reason: \"{reason}\"]")))
  | getPid => return state.processId.toInt32
  | getSubscriptions => do
    reached "Failed to get subscriptions: " (← ExceptT.lift (Prog.perform .getSubscriptions))
  | getPublications => do
    reached "Failed to get publications: " (← ExceptT.lift (Prog.perform .getPublications))
  | paramUpdateAny paramName value => do
    reached "Failed to update parameter: "
      (← ExceptT.lift (Prog.perform (.updateCachedParam paramName value)))
  | publisherUpdate topicName publishers => do
    reached "Failed to update connected publishers: "
      (← ExceptT.lift (Prog.perform (.updateConnectedPublishers topicName publishers.toFinset)))
  | requestTopic topicName _ => do
    let publisherAddr ← ExceptT.lift (Prog.perform (.getPublisherAddress topicName))
    match (publisherAddr : Except String (Option SocketAddr)) with
    | .ok (some address) =>
      return some ("TCPROS", state.node.hostname, .ofNat address.port.toNat)
    | .ok none => throw (.client (.api (.invalidRequest
        ("Node is not currently publishing to topic \"" ++ topicName ++ "\""))))
    -- an actor that cannot be reached is taken for a publisher without a common protocol
    | .error _ => return none

section Served

variable {X : Xml D.Value} {state : ApiState P}

/-- `X` carries the request and whatever it may be answered. -/
structure Carried (X : Xml D.Value) (state : ApiState P) (r : ApiRequest D.Value) : Prop where
  call : X.CarriesCall r.call
  response : (r.handle state).run.Returns fun result =>
    X.CarriesResponse (apiResponse result).tryToValue

end Served

end SlaveCall

end RosrustAsync
