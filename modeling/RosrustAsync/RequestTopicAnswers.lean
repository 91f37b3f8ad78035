import RosrustAsync.RpcResponses
import RosrustAsync.SlaveCalls

namespace RosrustAsync

open XmlRpc

/-! What a subscriber makes of the answer of any publisher to `requestTopic`. -/

namespace XmlRpc

variable {D : Dxr} {X : Xml D.Value} {client : RosSlaveClient} {T : Type} {c : Conversion D.Value DxrError T}
  {raw topicName : String} {protocols : List (List String)}

/-- What a call of `requestTopic` ends with, once the publisher has sent `raw`. -/
def requestTopicAnswer (X : Xml D.Value) (c : Conversion D.Value DxrError T) (raw : String) :
    Except SlaveClientError (Option T) :=
  RosSlaveClient.requestTopicResult D
    (typedResult .client .dxr c.ofValue (responseToResult X raw))

theorem requestTopic_run {A : Type} {R : A → Type} {body : String}
    (h : requestToBody X (ApiRequest.requestTopic client.callerId topicName protocols).call =
      .ok body) :
    (client.requestTopic X (fun _ => (pure (.ok raw) : Prog A R _)) c topicName protocols).run =
      pure (requestTopicAnswer X c raw) := by
  have hraw : (callRaw X (fun _ => (pure (.ok raw) : Prog A R _)) "requestTopic"
      ((D.members₃ D.string D.string (D.vec (D.vec D.string))).toValue
        (client.callerId, topicName, protocols))).run = _ := callRaw_run h
  simp only [RosSlaveClient.requestTopic, Prog.attempt, ExceptT.run_bind_lift, Prog.run_ofExcept]
  rw [RosSlaveClient.call, typedCall_run, hraw]
  rfl

/-- The answers of a publisher that come to no channel and to no error. -/
inductive NoChannel (X : Xml D.Value) (raw : String) : Prop
  | serverError (msg : String) (data : D.Value) :
      Reads X raw ((responseTuple D).toValue (rpcServerError, msg, data)) → NoChannel X raw
  | empty : Reads X raw (D.array.toValue []) → NoChannel X raw
  | fault (e : DxrError) : X.deserializeFault raw = .ok (.error e) → D.argument e = some 0 →
      NoChannel X raw

theorem requestTopicResult_eq_none {result : Except SlaveClientError T} :
    RosSlaveClient.requestTopicResult D result = .ok none ↔
      (∃ msg, result = .error (.client (.api (.serverError msg)))) ∨
        ∃ e, result = .error (.client (.dxr e)) ∧ D.argument e = some 0 := by
  unfold RosSlaveClient.requestTopicResult
  split
  · simp
  · simp
  · rename_i e
    split_ifs with h
    · simp [h]
    · simp [h]
  · rename_i e hserver hdxr
    constructor
    · intro h
      cases h
    · rintro (⟨msg, h⟩ | ⟨e', h, -⟩)
      · cases h
        exact (hserver msg rfl).elim
      · cases h
        exact (hdxr e' rfl).elim

theorem eq_client_error {result : Except ClientError D.Value} {e : ClientError} :
    typedResult SlaveClientError.client .dxr c.ofValue result = .error (.client e) ↔
      result = .error e := by
  cases result with
  | error e' => simp [typedResult, Except.mapError, bind, Except.bind]
  | ok data => cases h : c.ofValue data <;>
      simp [typedResult, Except.mapError, bind, Except.bind, h]

theorem requestTopicAnswer_eq_none : requestTopicAnswer X c raw = .ok none ↔ NoChannel X raw := by
  rw [requestTopicAnswer, requestTopicResult_eq_none]
  simp only [eq_client_error, responseToResult_eq_api, responseToResult_eq_dxr]
  constructor
  · rintro (⟨msg, data, hreads⟩ | ⟨e, hfault | ⟨v, hreads, hv⟩, he⟩)
    · exact .serverError msg data hreads
    · exact .fault e hfault he
    · exact .empty (tryFromValue_argument.mp ⟨e, hv, he⟩ ▸ hreads)
  · rintro (⟨msg, data, hreads⟩ | hreads | ⟨e, hfault, he⟩)
    · exact .inl ⟨msg, data, hreads⟩
    · obtain ⟨e, hv, he⟩ := tryFromValue_argument.mpr (rfl : D.array.toValue [] = _)
      exact .inr ⟨e, .inr ⟨_, hreads, hv⟩, he⟩
    · exact .inr ⟨e, .inl hfault, he⟩

/-- A publisher without a protocol to offer may say so by an empty list, which is an error here. -/
theorem requestTopicAnswer_empty {msg : String}
    (h : Reads X raw ((responseTuple D).toValue (rpcSuccess, msg, D.array.toValue []))) :
    requestTopicAnswer X (ApiRouter.protocolInfo D) raw =
      .error (.dxr (D.parameterMismatch 0 3)) := by
  have hresult : responseToResult X raw = .ok (D.array.toValue []) :=
    responseToResult_eq_ok.mpr ⟨msg, h⟩
  have hvalue : (ApiRouter.protocolInfo D).ofValue (D.array.toValue []) =
      .error (D.parameterMismatch 0 3) := by
    simp only [ApiRouter.protocolInfo, Dxr.tuple, Conversion.comp, D.array.ofValue_toValue]
    rfl
  rw [requestTopicAnswer, hresult, typedResult_ok, hvalue]
  rfl

theorem requestTopic_answers {A : Type} {R : A → Type} (X : Xml D.Value) (client : RosSlaveClient)
    (topicName : String) (protocols : List (List String)) (raw : String) {body : String}
    (hrequest : requestToBody X
      (ApiRequest.requestTopic client.callerId topicName protocols).call = .ok body) :
    (∃ answer, (client.requestTopic X (fun _ => (pure (.ok raw) : Prog A R _))
      (ApiRouter.protocolInfo D) topicName protocols).run = .ret answer ∧
      (answer = .ok none ↔ NoChannel X raw)) ∧
    ∀ msg, Reads X raw ((responseTuple D).toValue (rpcSuccess, msg, D.array.toValue [])) →
      (client.requestTopic X (fun _ => (pure (.ok raw) : Prog A R _))
        (ApiRouter.protocolInfo D) topicName protocols).run =
          .ret (.error (.dxr (D.parameterMismatch 0 3))) := by
  refine ⟨⟨_, requestTopic_run hrequest, requestTopicAnswer_eq_none⟩, fun msg hreads => ?_⟩
  rw [requestTopic_run hrequest, requestTopicAnswer_empty hreads]
  rfl

/-- A publisher that offers nothing. -/
def emptyOffer : PlainValue := .array [.i4 1, .string "", .array []]

theorem requestTopic_answers_empty : ∃ e,
    ((RosSlaveClient.mk "/mapper").requestTopic (D := plainDxr)
      (exchangeXml (ApiRequest.call (D := plainDxr) (.requestTopic "/mapper" "/scan" [["TCPROS"]]))
        emptyOffer)
      (fun _ => (pure (.ok (responseXml emptyOffer)) : Prog Empty (fun _ => Empty) _))
      (ApiRouter.protocolInfo plainDxr) "/scan" [["TCPROS"]]).run = .ret (.error (.dxr e)) := by
  have hanswers := requestTopic_answers (D := plainDxr) (A := Empty) (R := fun _ => Empty)
    (exchangeXml (ApiRequest.call (D := plainDxr) (.requestTopic "/mapper" "/scan" [["TCPROS"]]))
      emptyOffer) ⟨"/mapper"⟩ "/scan" [["TCPROS"]] (responseXml emptyOffer) rfl
  obtain ⟨xml, hxml, hfault, hresponse⟩ := exchangeXml_response
    (ApiRequest.call (D := plainDxr) (.requestTopic "/mapper" "/scan" [["TCPROS"]])) emptyOffer
  cases hxml
  exact ⟨_, hanswers.2 "" ⟨hfault, hresponse⟩⟩

end XmlRpc

end RosrustAsync
