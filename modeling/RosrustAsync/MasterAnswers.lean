import RosrustAsync.MasterClient
import RosrustAsync.RpcCalls
import RosrustAsync.RpcResponses

namespace RosrustAsync

open XmlRpc

/-! What a node makes of the answers of the master. -/

namespace RosMasterClient

variable {D : Dxr} {X : Xml D.Value} {A : Type} {R : A → Type} {β : Type}
  {tryFromValue : D.Value → Except DxrError β} {raw method body : String} {params : List D.Value}

/-- The master has answered `raw`. -/
def answered (raw : String) : String → Prog A R (Except String String) := fun _ => pure (.ok raw)

def result (X : Xml D.Value) (tryFromValue : D.Value → Except DxrError β) (raw : String) :
    Except MasterClientError β :=
  typedResult .client .dxr tryFromValue (responseToResult X raw)

theorem call_run (h : requestToBody X ⟨method, params⟩ = .ok body) :
    (call X (answered (A := A) (R := R) raw) method params tryFromValue).run =
      .ret (result X tryFromValue raw) := by
  rw [call, typedCall_run, callRaw_run h]
  rfl

theorem result_eq_ok {b : β} : result X tryFromValue raw = .ok b ↔ ∃ msg data,
    Reads X raw ((responseTuple D).toValue (XmlRpc.rpcSuccess, msg, data)) ∧
      tryFromValue data = .ok b := by
  rw [result]
  constructor
  · intro h
    cases hresponse : responseToResult X raw with
    | error e =>
      rw [hresponse, typedResult_error] at h
      cases h
    | ok data =>
      obtain ⟨msg, hreads⟩ := responseToResult_eq_ok.mp hresponse
      refine ⟨msg, data, hreads, ?_⟩
      rw [hresponse, typedResult_ok] at h
      cases hdata : tryFromValue data with
      | error e =>
        rw [hdata] at h
        cases h
      | ok b' =>
        rw [hdata] at h
        cases h
        rfl
  · rintro ⟨msg, data, hreads, hdata⟩
    rw [responseToResult_eq_ok.mpr ⟨msg, hreads⟩, typedResult_ok, hdata]
    rfl

theorem result_eq_client {e : ClientError} :
    result X tryFromValue raw = .error (.client e) ↔ responseToResult X raw = .error e := by
  rw [result]
  cases responseToResult X raw with
  | error e' => simp
  | ok data => cases h : tryFromValue data <;> simp [h, Except.mapError]

/-! A parameter that is not set. -/

/-- The master refuses the request. -/
def Refuses (X : Xml D.Value) (raw : String) : Prop :=
  ∃ msg data, Reads X raw ((responseTuple D).toValue (rpcInvalidRequest, msg, data))

theorem optionOfInvalidRequest_eq_none {x : Except MasterClientError β} :
    optionOfInvalidRequest x = .ok none ↔ ∃ msg, x = .error (.client (.api (.invalidRequest msg))) := by
  unfold optionOfInvalidRequest
  split <;> simp_all

theorem optionOfInvalidRequest_eq_some {x : Except MasterClientError β} {b : β} :
    optionOfInvalidRequest x = .ok (some b) ↔ x = .ok b := by
  unfold optionOfInvalidRequest
  split <;> simp_all

theorem option_result_none :
    optionOfInvalidRequest (result X tryFromValue raw) = .ok none ↔ Refuses X raw := by
  simp only [optionOfInvalidRequest_eq_none, result_eq_client, responseToResult_eq_api]
  rfl

theorem option_result_some {b : β} :
    optionOfInvalidRequest (result X tryFromValue raw) = .ok (some b) ↔ ∃ msg data,
      Reads X raw ((responseTuple D).toValue (XmlRpc.rpcSuccess, msg, data)) ∧
        tryFromValue data = .ok b := by
  rw [optionOfInvalidRequest_eq_some, result_eq_ok]

theorem searchParam_run {client : RosMasterClient} {paramName : String}
    (h : requestToBody X ⟨"searchParam", client.nameParams D paramName⟩ = .ok body) :
    (client.searchParam X (answered (A := A) (R := R) raw) paramName).run =
      .ret (optionOfInvalidRequest (result X D.string.ofValue raw)) := by
  simp only [searchParam, Prog.attempt, ExceptT.run_bind_lift, Prog.run_ofExcept]
  rw [call_run h]
  rfl

/-- What a call of `getParam` ends with. -/
def getParamResult (X : Xml D.Value) (tryFromValue : D.Value → Except DxrError β) (raw : String) :
    Except MasterClientError (Option β) := do
  match ← optionOfInvalidRequest (result X (.ok : D.Value → Except DxrError D.Value) raw) with
  | some param => some <$> (tryFromValue param).mapError .dxr
  | none => .ok none

theorem getParam_run {client : RosMasterClient} {paramName : String}
    (h : requestToBody X ⟨"getParam", client.nameParams D paramName⟩ = .ok body) :
    (client.getParam X (answered (A := A) (R := R) raw) tryFromValue paramName).run =
      .ret (getParamResult X tryFromValue raw) := by
  have hany : (client.getParamAny X (answered (A := A) (R := R) raw) paramName).run =
      .ret (optionOfInvalidRequest (result X .ok raw)) := by
    simp only [getParamAny, Prog.attempt, ExceptT.run_bind_lift, Prog.run_ofExcept]
    rw [call_run h]
    rfl
  rw [getParam, ExceptT.run_bind, hany, getParamResult]
  cases optionOfInvalidRequest (result X .ok raw) with
  | error e => rfl
  | ok param =>
    cases param with
    | none => rfl
    | some param =>
      show (some <$> ofExcept ((tryFromValue param).mapError .dxr) :
        ExceptT MasterClientError (Prog A R) (Option β)).run =
          .ret (some <$> (tryFromValue param).mapError .dxr)
      cases tryFromValue param <;> rfl

theorem getParamResult_none : getParamResult X tryFromValue raw = .ok none ↔ Refuses X raw := by
  have hraw : optionOfInvalidRequest (result X .ok raw) = .ok none ↔ Refuses X raw :=
    option_result_none
  rw [← hraw, getParamResult, bind_eq_ok]
  constructor
  · rintro ⟨param, hparam, h⟩
    cases param with
    | none => exact hparam
    | some param =>
      simp only at h
      cases hvalue : tryFromValue param <;> rw [hvalue] at h <;> cases h
  · exact fun h => ⟨none, h, rfl⟩

theorem getParamResult_some {b : β} : getParamResult X tryFromValue raw = .ok (some b) ↔
    ∃ msg data, Reads X raw ((responseTuple D).toValue (XmlRpc.rpcSuccess, msg, data)) ∧
      tryFromValue data = .ok b := by
  rw [getParamResult, bind_eq_ok]
  constructor
  · rintro ⟨param, hparam, h⟩
    cases param with
    | none => cases h
    | some param =>
      obtain ⟨msg, data, hreads, hdata⟩ := option_result_some.mp hparam
      cases hdata
      refine ⟨msg, param, hreads, ?_⟩
      simp only at h
      cases hvalue : tryFromValue param <;> rw [hvalue] at h <;> cases h
      rfl
  · rintro ⟨msg, data, hreads, hdata⟩
    refine ⟨some data, option_result_some.mpr ⟨msg, data, hreads, rfl⟩, ?_⟩
    simp only [hdata]
    rfl

theorem params_absent_iff_refused (X : Xml D.Value) (client : RosMasterClient)
    (tryFromValue : D.Value → Except DxrError β) (paramName raw : String) {getBody searchBody : String}
    (hget : requestToBody X ⟨"getParam", client.nameParams D paramName⟩ = .ok getBody)
    (hsearch : requestToBody X ⟨"searchParam", client.nameParams D paramName⟩ = .ok searchBody) :
    (∃ answer,
      (client.getParam X (answered (A := A) (R := R) raw) tryFromValue paramName).run =
        .ret answer ∧
      (answer = .ok none ↔ Refuses X raw) ∧
      ∀ b, answer = .ok (some b) ↔ ∃ msg data,
        Reads X raw ((responseTuple D).toValue (XmlRpc.rpcSuccess, msg, data)) ∧
          tryFromValue data = .ok b) ∧
    ∃ answer,
      (client.searchParam X (answered (A := A) (R := R) raw) paramName).run = .ret answer ∧
      (answer = .ok none ↔ Refuses X raw) ∧
      ∀ key, answer = .ok (some key) ↔ ∃ msg data,
        Reads X raw ((responseTuple D).toValue (XmlRpc.rpcSuccess, msg, data)) ∧
          D.string.ofValue data = .ok key :=
  ⟨⟨_, getParam_run hget, getParamResult_none, fun _ => getParamResult_some⟩,
    ⟨_, searchParam_run hsearch, option_result_none, fun _ => option_result_some⟩⟩

/-- What the master sends of a parameter that is not set. -/
def notSet : PlainValue := .array [.i4 (-1), .string "not set", .i4 0]

theorem params_absent_iff_refused_notSet :
    ((RosMasterClient.mk "/mapper" "http://mapper:1").getParam (D := plainDxr)
      (exchangeXml ⟨"getParam", [.string "/mapper", .string "/rate"]⟩ notSet)
      (answered (A := Empty) (R := fun _ => Empty) (responseXml notSet))
      plainDxr.i4.ofValue "/rate").run = .ret (.ok none) := by
  obtain ⟨⟨answer, hrun, hnone, -⟩, -⟩ :=
    params_absent_iff_refused (D := plainDxr) (A := Empty) (R := fun _ => Empty)
      (exchangeXml ⟨"getParam", [.string "/mapper", .string "/rate"]⟩ notSet)
      ⟨"/mapper", "http://mapper:1"⟩ plainDxr.i4.ofValue "/rate" (responseXml notSet) rfl rfl
  obtain ⟨xml, hxml, hfault, hresponse⟩ :=
    exchangeXml_response ⟨"getParam", [.string "/mapper", .string "/rate"]⟩ notSet
  cases hxml
  rw [hrun, hnone.mpr ⟨"not set", .i4 0, hfault, hresponse⟩]

/-! The system state. -/

/-- The last entry of the resource lists the node. -/
def Listed (entries : RawStateEntry) (nodeName resource : String) : Prop :=
  ∃ earlier nodes later, entries = earlier ++ (resource, nodes) :: later ∧
    (∀ entry ∈ later, entry.1 ≠ resource) ∧ nodeName ∈ nodes

theorem nodeProvidesResource_collect (entries : RawStateEntry) (nodeName resource : String) :
    SystemState.nodeProvidesResource (collect List.toFinset entries) nodeName resource = true ↔
      Listed entries nodeName resource := by
  have hlisted : Listed entries nodeName resource ↔
      ∃ nodes, lastEntry entries resource = some nodes ∧ nodeName ∈ nodes := by
    simp only [lastEntry_eq_some]
    constructor
    · rintro ⟨earlier, nodes, later, heq, hlater, hmem⟩
      exact ⟨nodes, ⟨earlier, later, heq, hlater⟩, hmem⟩
    · rintro ⟨nodes, ⟨earlier, later, heq, hlater⟩, hmem⟩
      exact ⟨earlier, nodes, later, heq, hlater, hmem⟩
  rw [hlisted, SystemState.nodeProvidesResource, lookup_collect]
  cases lastEntry entries resource with
  | none => simp
  | some nodes => simp

theorem tryFromValue_eq_ok {value : D.Value} {state : SystemState} :
    SystemState.tryFromValue D value = .ok state ↔ ∃ raw, value = (rawSystemState D).toValue raw ∧
      state = ⟨collect List.toFinset raw.1, collect List.toFinset raw.2.1,
        collect List.toFinset raw.2.2⟩ := by
  rw [SystemState.tryFromValue, bind_eq_ok]
  constructor
  · rintro ⟨raw, hraw, h⟩
    cases h
    exact ⟨raw, (rawSystemState D).ofValue_eq_ok.mp hraw, rfl⟩
  · rintro ⟨raw, rfl, rfl⟩
    exact ⟨raw, (rawSystemState D).ofValue_toValue raw, rfl⟩

/-- The state says what the master's three lists say. -/
structure Tells (raw : RawStateEntry × RawStateEntry × RawStateEntry) (state : SystemState) :
    Prop where
  publishers : ∀ nodeName topicName,
    state.isPublishing nodeName topicName = true ↔ Listed raw.1 nodeName topicName
  subscribers : ∀ nodeName topicName,
    state.isSubscribed nodeName topicName = true ↔ Listed raw.2.1 nodeName topicName
  serviceProviders : ∀ nodeName serviceName,
    state.isProvidingService nodeName serviceName = true ↔ Listed raw.2.2 nodeName serviceName

theorem tells (raw : RawStateEntry × RawStateEntry × RawStateEntry) :
    Tells raw ⟨collect List.toFinset raw.1, collect List.toFinset raw.2.1,
      collect List.toFinset raw.2.2⟩ where
  publishers := nodeProvidesResource_collect raw.1
  subscribers := nodeProvidesResource_collect raw.2.1
  serviceProviders := nodeProvidesResource_collect raw.2.2

theorem system_state_told (X : Xml D.Value) (client : RosMasterClient) (raw : String)
    (hrequest : requestToBody X ⟨"getSystemState", client.callerIdParams D⟩ = .ok body) :
    ∃ answer, (client.getSystemState X (answered (A := A) (R := R) raw)).run = .ret answer ∧
      (∀ state, answer = .ok state → ∃ msg rawState, Tells rawState state ∧
        Reads X raw ((responseTuple D).toValue
          (XmlRpc.rpcSuccess, msg, (rawSystemState D).toValue rawState))) ∧
      ∀ msg rawState, Reads X raw ((responseTuple D).toValue
          (XmlRpc.rpcSuccess, msg, (rawSystemState D).toValue rawState)) →
        ∃ state, answer = .ok state ∧ Tells rawState state := by
  refine ⟨_, call_run hrequest, fun state h => ?_, fun msg rawState hreads => ?_⟩
  · obtain ⟨msg, data, hreads, hdata⟩ := result_eq_ok.mp h
    obtain ⟨rawState, rfl, rfl⟩ := tryFromValue_eq_ok.mp hdata
    exact ⟨msg, rawState, tells rawState, hreads⟩
  · exact ⟨_, result_eq_ok.mpr ⟨msg, _, hreads, tryFromValue_eq_ok.mpr ⟨rawState, rfl, rfl⟩⟩,
      tells rawState⟩

/-- A master that knows one publisher. -/
def onePublisher : PlainValue := .array [.i4 1, .string "current system state", .array [
  .array [.array [.string "/scan", .array [.string "/laser"]]], .array [], .array []]]

theorem system_state_told_laser : ∃ state : SystemState,
    ((RosMasterClient.mk "/mapper" "http://mapper:1").getSystemState (D := plainDxr)
      (exchangeXml ⟨"getSystemState", [.string "/mapper"]⟩ onePublisher)
      (answered (A := Empty) (R := fun _ => Empty) (responseXml onePublisher))).run =
        .ret (.ok state) ∧ state.isPublishing "/laser" "/scan" = true := by
  obtain ⟨answer, hrun, -, htold⟩ :=
    system_state_told (D := plainDxr) (A := Empty) (R := fun _ => Empty)
      (exchangeXml ⟨"getSystemState", [.string "/mapper"]⟩ onePublisher)
      ⟨"/mapper", "http://mapper:1"⟩ (responseXml onePublisher) rfl
  obtain ⟨xml, hxml, hfault, hresponse⟩ :=
    exchangeXml_response ⟨"getSystemState", [.string "/mapper"]⟩ onePublisher
  cases hxml
  obtain ⟨state, rfl, htells⟩ :=
    htold "current system state" ([("/scan", ["/laser"])], [], []) ⟨hfault, hresponse⟩
  exact ⟨state, hrun, (htells.publishers "/laser" "/scan").mpr
    ⟨[], ["/laser"], [], rfl, by simp, by simp⟩⟩

end RosMasterClient

end RosrustAsync
