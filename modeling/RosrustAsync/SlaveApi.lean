import RosrustAsync.ApiRouter

namespace RosrustAsync

open XmlRpc

/-- The calls that the router answers, with their parameters. -/
inductive ApiRequest (V : Type) : Type
  | getBusStats (callerId : String)
  | getBusInfo (callerId : String)
  | getMasterUri (callerId : String)
  | shutdown (callerId reason : String)
  | getPid (callerId : String)
  | getSubscriptions (callerId : String)
  | getPublications (callerId : String)
  | paramUpdate (callerId paramName : String) (newValue : V)
  | publisherUpdate (callerId topicName : String) (publishers : List String)
  | requestTopic (callerId topicName : String) (protocols : List (List String))

namespace ApiRequest

open ApiRouter

variable {D : Dxr} {P : AddressParsers} {state : ApiState P} {method : String} {params : List D.Value}

def call : ApiRequest D.Value → MethodCall D.Value
  | getBusStats callerId => ⟨"getBusStats", (callerIdParam D).toValue callerId⟩
  | getBusInfo callerId => ⟨"getBusInfo", (callerIdParam D).toValue callerId⟩
  | getMasterUri callerId => ⟨"getMasterUri", (callerIdParam D).toValue callerId⟩
  | shutdown callerId reason => ⟨"shutdown", (shutdownParams D).toValue (callerId, reason)⟩
  | getPid callerId => ⟨"getPid", (callerIdParam D).toValue callerId⟩
  | getSubscriptions callerId => ⟨"getSubscriptions", (callerIdParam D).toValue callerId⟩
  | getPublications callerId => ⟨"getPublications", (callerIdParam D).toValue callerId⟩
  | paramUpdate callerId paramName newValue =>
    ⟨"paramUpdate", (paramUpdateParams D).toValue (callerId, paramName, newValue)⟩
  | publisherUpdate callerId topicName publishers =>
    ⟨"publisherUpdate", (publisherUpdateParams D).toValue (callerId, topicName, publishers)⟩
  | requestTopic callerId topicName protocols =>
    ⟨"requestTopic", (requestTopicParams D).toValue (callerId, topicName, protocols)⟩

def handle (state : ApiState P) : ApiRequest D.Value → ApiResult D
  | getBusStats callerId => ApiRouter.getBusStats callerId
  | getBusInfo callerId => ApiRouter.getBusInfo callerId
  | getMasterUri callerId => ApiRouter.getMasterUri state callerId
  | shutdown callerId reason => ApiRouter.shutdown (callerId, reason)
  | getPid callerId => ApiRouter.getPid state callerId
  | getSubscriptions callerId => ApiRouter.getSubscriptions callerId
  | getPublications callerId => ApiRouter.getPublications callerId
  | paramUpdate callerId paramName newValue => ApiRouter.paramUpdate (callerId, paramName, newValue)
  | publisherUpdate callerId topicName publishers =>
    ApiRouter.publisherUpdate (callerId, topicName, publishers)
  | requestTopic callerId topicName protocols =>
    ApiRouter.requestTopic state (callerId, topicName, protocols)

section Served

variable {X : Xml D.Value} {body : String}

end Served

end ApiRequest

end RosrustAsync
