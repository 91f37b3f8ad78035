import Mathlib.Data.Int.Notation

namespace RosrustAsync

inductive ApiError : Type
  | serverError (message : String)
  | invalidRequest (message : String)
  deriving DecidableEq

inductive DxrError : Type
  | invalidData (error : String)
  | other (error : String)
  deriving DecidableEq

inductive ClientError : Type
  | xmlParse (error : String)
  | dxr (error : DxrError)
  | net (error : String)
  | rpcFault (code : ℤ) (message : String)
  | api (error : ApiError)
  deriving DecidableEq

inductive MasterClientError : Type
  | dxr (error : DxrError)
  | client (error : ClientError)
  deriving DecidableEq

inductive SlaveClientError : Type
  | dxr (error : DxrError)
  | client (error : ClientError)
  deriving DecidableEq

inductive IpAddr : Type
  | v4 (bits : UInt32)
  | v6 (bits : BitVec 128)

structure SocketAddr where
  ip : IpAddr
  port : UInt16

structure UrlParseError where
  error : String

/-- A parameter or key that is not set is no error: the master refuses it as an invalid request. -/
def optionOfInvalidRequest {α : Type} : Except MasterClientError α →
    Except MasterClientError (Option α)
  | .ok value => .ok (some value)
  | .error (.client (.api (.invalidRequest _))) => .ok none
  | .error e => .error e

end RosrustAsync
