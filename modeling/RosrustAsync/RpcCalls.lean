import RosrustAsync.ApiServer
import RosrustAsync.Lib.Collect

namespace RosrustAsync

/-! What a call is to the client, once the server has a handler for it. -/

namespace Xml

variable {V : Type} (X : Xml V)

def CarriesCall (call : MethodCall V) : Prop :=
  ∃ xml, X.serializeCall call = .ok xml ∧
    X.deserializeCall ("\n".intercalate [XmlRpc.xmlProlog, xml, ""]) = .ok call

def CarriesResponse (value : V) : Prop :=
  ∃ xml, X.serializeResponse value = .ok xml ∧ (∃ e, X.deserializeFault xml = .error e) ∧
    X.deserializeResponse xml = .ok value

end Xml

namespace XmlRpc

variable {D : Dxr} {X : Xml D.Value} {A : Type} {R : A → Type} {handlers : HandlerMap A R D.Value}
  {method : String} {params : List D.Value}

theorem callRaw_run {post : String → Prog A R (Except String String)} {body : String}
    (h : requestToBody X ⟨method, params⟩ = .ok body) :
    (callRaw X post method params).run = (post body >>= fun response =>
      pure (response.mapError .net >>= responseToResult X)) := by
  simp only [callRaw, h, Except.mapError, ExceptT.run_bind, Prog.run_ofExcept, pure_bind,
    ExceptT.run_lift, bind_map_left]
  refine bind_congr fun response => ?_
  cases response with
  | error e => rfl
  | ok response => rfl

end XmlRpc

/-! Values as they are, and the XML of one call and its response. -/

inductive PlainValue : Type
  | i4 (n : Int32)
  | boolean (b : Bool)
  | string (s : String)
  | array (values : List PlainValue)

def wrongType {α : Type} : Except DxrError α := .error (.invalidData "wrong type")

def plainDxr : Dxr where
  Value := PlainValue
  array := {
    toValue := .array
    ofValue
      | .array values => .ok values
      | _ => wrongType
    ofValue_eq_ok := by
      intro v a
      cases v <;> simp [wrongType] }
  i4 := {
    toValue := .i4
    ofValue
      | .i4 n => .ok n
      | _ => wrongType
    ofValue_eq_ok := by
      intro v a
      cases v <;> simp [wrongType] }
  boolean := {
    toValue := .boolean
    ofValue
      | .boolean b => .ok b
      | _ => wrongType
    ofValue_eq_ok := by
      intro v a
      cases v <;> simp [wrongType] }
  string := {
    toValue := .string
    ofValue
      | .string s => .ok s
      | _ => wrongType
    ofValue_eq_ok := by
      intro v a
      cases v <;> simp [wrongType] }
  -- a stroke for each argument
  parameterMismatch argument _ := .other (String.ofList (List.replicate argument '|'))
  display
    | .invalidData e => e
    | .other e => e
  argument
    | .invalidData _ => none
    | .other e => some e.length
  argument_mismatch := by simp
  argument_invalidData _ := rfl
  argument_array := by
    intro v e h
    cases v <;> cases h <;> rfl
  argument_i4 := by
    intro v e h
    cases v <;> cases h <;> rfl
  argument_string := by
    intro v e h
    cases v <;> cases h <;> rfl

mutual

def PlainValue.xml : PlainValue → String
  | .i4 n => "<value><i4>" ++ toString n ++ "</i4></value>"
  | .boolean b => "<value><boolean>" ++ (if b then "1" else "0") ++ "</boolean></value>"
  | .string s => "<value><string>" ++ s ++ "</string></value>"
  | .array values => "<value><array><data>" ++ PlainValue.xmls values ++ "</data></array></value>"

def PlainValue.xmls : List PlainValue → String
  | [] => ""
  | value :: values => value.xml ++ PlainValue.xmls values

end

def callXml (call : MethodCall PlainValue) : String :=
  "<methodCall><methodName>" ++ call.name ++ "</methodName><params>" ++
    String.join (call.params.map fun value => "<param>" ++ value.xml ++ "</param>") ++
      "</params></methodCall>"

def responseXml (value : PlainValue) : String :=
  "<methodResponse><params><param>" ++ value.xml ++ "</param></params></methodResponse>"

def exchangeXml (call : MethodCall PlainValue) (response : PlainValue) : Xml PlainValue where
  serializeCall c := .ok (callXml c)
  deserializeCall text :=
    if text = "\n".intercalate [XmlRpc.xmlProlog, callXml call, ""] then .ok call
    else .error "unexpected call"
  serializeResponse value := .ok (responseXml value)
  deserializeResponse text :=
    if text = responseXml response then .ok response else .error "unexpected response"
  serializeFault fault := .ok ("<methodResponse><fault>" ++
    (PlainValue.string fault.string).xml ++ "</fault></methodResponse>")
  deserializeFault _ := .error "missing field fault"

theorem exchangeXml_response (call : MethodCall PlainValue) (response : PlainValue) :
    (exchangeXml call response).CarriesResponse response :=
  ⟨_, rfl, ⟨_, rfl⟩, if_pos rfl⟩

namespace XmlRpc

end XmlRpc

end RosrustAsync
