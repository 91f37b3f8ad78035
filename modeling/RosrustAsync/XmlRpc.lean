import RosrustAsync.Lib.Conversion
import RosrustAsync.Lib.ProgLaws
import RosrustAsync.Network

namespace RosrustAsync

/-! XML-RPC as ROS uses it. -/

/-- What is used of the values of `dxr`. -/
structure Dxr where
  Value : Type
  array : Conversion Value DxrError (List Value)
  i4 : Conversion Value DxrError Int32
  boolean : Conversion Value DxrError Bool
  string : Conversion Value DxrError String
  parameterMismatch (argument expected : ℕ) : DxrError
  display : DxrError → String
  -- the `argument` of a `ParameterMismatch`
  argument : DxrError → Option ℕ
  argument_mismatch : ∀ n m, argument (parameterMismatch n m) = some n
  argument_invalidData : ∀ e, argument (.invalidData e) = none
  argument_array : ∀ {v e}, array.ofValue v = .error e → argument e = none
  argument_i4 : ∀ {v e}, i4.ofValue v = .error e → argument e = none
  argument_string : ∀ {v e}, string.ofValue v = .error e → argument e = none

namespace Dxr

variable (D : Dxr)

def vec {α : Type} (c : Conversion D.Value DxrError α) : Conversion D.Value DxrError (List α) :=
  D.array.comp c.list

def tuple {α : Type} (m : Members D.Value DxrError α) : Conversion D.Value DxrError α :=
  D.array.comp m.toConversion

def members₁ {α : Type} (c : Conversion D.Value DxrError α) : Members D.Value DxrError α :=
  .one D.parameterMismatch c

def members₂ {α β : Type} (c : Conversion D.Value DxrError α) (d : Conversion D.Value DxrError β) :
    Members D.Value DxrError (α × β) :=
  .cons D.parameterMismatch c (D.members₁ d)

def members₃ {α β γ : Type} (c : Conversion D.Value DxrError α)
    (d : Conversion D.Value DxrError β) (e : Conversion D.Value DxrError γ) :
    Members D.Value DxrError (α × β × γ) :=
  .cons D.parameterMismatch c (D.members₂ d e)

def members₄ {α β γ δ : Type} (c : Conversion D.Value DxrError α)
    (d : Conversion D.Value DxrError β) (e : Conversion D.Value DxrError γ)
    (f : Conversion D.Value DxrError δ) : Members D.Value DxrError (α × β × γ × δ) :=
  .cons D.parameterMismatch c (D.members₃ d e f)

end Dxr

structure MethodCall (V : Type) where
  name : String
  params : List V

structure Fault where
  code : Int32
  string : String

/-- The XML of `dxr`; a fault response is read in two steps. -/
structure Xml (V : Type) where
  serializeCall : MethodCall V → Except String String
  deserializeCall : String → Except String (MethodCall V)
  serializeResponse : V → Except String String
  deserializeResponse : String → Except String V
  serializeFault : Fault → Except String String
  deserializeFault : String → Except String (Except DxrError Fault)

namespace XmlRpc

variable {D : Dxr}

def rpcSuccess : Int32 := 1

def rpcServerError : Int32 := 0

def rpcInvalidRequest : Int32 := -1

def responseTuple (D : Dxr) : Conversion D.Value DxrError (Int32 × String × D.Value) :=
  D.tuple (D.members₃ D.i4 D.string .self)

inductive ApiResponse (V : Type) : Type
  | success (msg : String) (data : V)
  | error (error : ApiError)

namespace ApiResponse

def tryToValue : ApiResponse D.Value → D.Value
  | .success msg data => (responseTuple D).toValue (rpcSuccess, msg, data)
  | .error (.serverError msg) => (responseTuple D).toValue (rpcServerError, msg, D.i4.toValue 0)
  | .error (.invalidRequest msg) =>
    (responseTuple D).toValue (rpcInvalidRequest, msg, D.i4.toValue 0)

def tryFromValue (value : D.Value) : Except DxrError (ApiResponse D.Value) := do
  let (statusCode, msg, data) ← (responseTuple D).ofValue value
  if statusCode = rpcSuccess then .ok (.success msg data)
  else if statusCode = rpcServerError then .ok (.error (.serverError msg))
  else if statusCode = rpcInvalidRequest then .ok (.error (.invalidRequest msg))
  else .error (.invalidData s!"Invalid ROS status code: {statusCode}")

@[simp] theorem tryFromValue_tryToValue (response : ApiResponse D.Value) :
    tryFromValue response.tryToValue = .ok response := by
  rcases response with ⟨msg, data⟩ | (msg | msg)
  · simp [tryFromValue, tryToValue, bind, Except.bind]
  · simp [tryFromValue, tryToValue, bind, Except.bind, rpcSuccess, rpcServerError]
  · simp [tryFromValue, tryToValue, bind, Except.bind, rpcSuccess, rpcServerError,
      rpcInvalidRequest]

end ApiResponse

variable (X : Xml D.Value)

def xmlProlog : String := "<?xml version=\"1.0\"?>"

def requestToBody (call : MethodCall D.Value) : Except DxrError String := do
  let xml ← (X.serializeCall call).mapError .invalidData
  .ok ("\n".intercalate [xmlProlog, xml, ""])

def responseToResult (rawResponse : String) : Except ClientError D.Value :=
  match X.deserializeFault rawResponse with
  | .ok fault => do
    let fault ← fault.mapError .dxr
    .error (.rpcFault fault.code.toInt fault.string)
  | .error _ => do
    let response ← (X.deserializeResponse rawResponse).mapError .xmlParse
    match ← (ApiResponse.tryFromValue response).mapError .dxr with
    | .success _ data => .ok data
    | .error e => .error (.api e)

section Client

variable {A : Type} {R : A → Type}

/-- A call, over whatever answers the body of a request with that of a response. -/
def callRaw (post : String → Prog A R (Except String String)) (method : String)
    (params : List D.Value) : ExceptT ClientError (Prog A R) D.Value := do
  let body ← ofExcept ((requestToBody X ⟨method, params⟩).mapError .dxr)
  let response ← ofExcept ((← ExceptT.lift (post body)).mapError .net)
  ofExcept (responseToResult X response)

/-- A `call` of the clients, each of which wraps the errors in its own. -/
def typedCall {ε β : Type} (client : ClientError → ε) (dxr : DxrError → ε)
    (post : String → Prog A R (Except String String)) (method : String) (params : List D.Value)
    (tryFromValue : D.Value → Except DxrError β) : ExceptT ε (Prog A R) β := do
  let result ← Prog.orThrow client (callRaw X post method params)
  ofExcept ((tryFromValue result).mapError dxr)

def typedResult {ε β : Type} (client : ClientError → ε) (dxr : DxrError → ε)
    (tryFromValue : D.Value → Except DxrError β) (result : Except ClientError D.Value) :
    Except ε β := do
  let data ← result.mapError client
  (tryFromValue data).mapError dxr

@[simp] theorem typedResult_ok {ε β : Type} (client : ClientError → ε) (dxr : DxrError → ε)
    (tryFromValue : D.Value → Except DxrError β) (data : D.Value) :
    typedResult client dxr tryFromValue (.ok data) = (tryFromValue data).mapError dxr := rfl

@[simp] theorem typedResult_error {ε β : Type} (client : ClientError → ε) (dxr : DxrError → ε)
    (tryFromValue : D.Value → Except DxrError β) (e : ClientError) :
    typedResult client dxr tryFromValue (.error e) = .error (client e) := rfl

theorem typedCall_run {ε β : Type} {client : ClientError → ε} {dxr : DxrError → ε}
    {post : String → Prog A R (Except String String)} {method : String} {params : List D.Value}
    {tryFromValue : D.Value → Except DxrError β} :
    (typedCall X client dxr post method params tryFromValue).run =
      typedResult client dxr tryFromValue <$> (callRaw X post method params).run := by
  simp only [typedCall, Prog.orThrow, ExceptT.run_bind, ExceptT.run_adapt, bind_map_left,
    Prog.run_ofExcept]
  rw [map_eq_pure_bind]
  refine bind_congr fun result => ?_
  cases result with
  | error e => rfl
  | ok data => rfl

end Client

end XmlRpc

end RosrustAsync
