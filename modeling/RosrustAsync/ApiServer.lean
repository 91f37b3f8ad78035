import Mathlib.Data.List.AList
import RosrustAsync.XmlRpc

namespace RosrustAsync

namespace XmlRpc

inductive HandlerError : Type
  | dxr (error : DxrError)
  | api (error : ApiError)

structure HandlerResponse (V : Type) where
  msg : String
  data : V

def HandlerResponse.new {D : Dxr} {α : Type} (c : Conversion D.Value DxrError α) (msg : String)
    (data : α) : HandlerResponse D.Value :=
  ⟨msg, c.toValue data⟩

abbrev Handler (A : Type) (R : A → Type) (V : Type) : Type :=
  List V → ExceptT HandlerError (Prog A R) (HandlerResponse V)

abbrev HandlerMap (A : Type) (R : A → Type) (V : Type) : Type := AList fun _ : String => Handler A R V

structure RouteBuilder (A : Type) (R : A → Type) (V : Type) where
  handlers : HandlerMap A R V

namespace RouteBuilder

variable {A : Type} {R : A → Type} {V : Type}

def new : RouteBuilder A R V := ⟨∅⟩

end RouteBuilder

inductive StatusCode : Type
  | ok
  | internalServerError

structure Response where
  status : StatusCode
  contentType : String
  body : String

section Server

variable {D : Dxr} {A : Type} {R : A → Type}

def makeResponse {α : Type} (serialize : α → Except String String) (response : α) : Response :=
  match serialize response with
  | .ok xml => ⟨.ok, "text/xml", xml⟩
  | .error e => ⟨.internalServerError, "text/xml", e⟩

variable (X : Xml D.Value)

def defaultFaultCode : Int32 := -1

def faultResponse (code : Int32) (msg : String) : Response :=
  makeResponse X.serializeFault ⟨code, msg⟩

def apiResponse : Except HandlerError (HandlerResponse D.Value) → ApiResponse D.Value
  | .ok success => .success success.msg success.data
  | .error (.api e) => .error e
  | .error (.dxr e) => .error (.serverError ("Internal server error: " ++ D.display e))

def handleRpc (handlers : HandlerMap A R D.Value) (body : String) : Prog A R Response :=
  match X.deserializeCall body with
  | .error e => pure (faultResponse X defaultFaultCode ("XML error: " ++ e))
  | .ok method =>
    match handlers.lookup method.name with
    | none => pure (faultResponse X defaultFaultCode ("Unknown method: " ++ method.name))
    | some handler => do
      let result ← (handler method.params).run
      return makeResponse X.serializeResponse (apiResponse result).tryToValue

/-- A request that is carried to a server, and its response back, whatever the status is. -/
def served (handlers : HandlerMap A R D.Value) (body : String) : Prog A R (Except String String) := do
  return .ok (← handleRpc X handlers body).body

end Server

end XmlRpc

end RosrustAsync
