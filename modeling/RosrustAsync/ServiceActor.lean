import Mathlib.Data.List.AList
import RosrustAsync.HeaderSer
import RosrustAsync.Lib.Actor
import RosrustAsync.Network

namespace RosrustAsync

open Actor Prog

inductive ServiceProviderError : Type
  | io (error : IoError)
  | urlParse (error : UrlParseError)
  | header (error : HeaderError)

inductive ServiceActorError : Type
  | masterClient (error : MasterClientError)
  | header (error : HeaderError)
  | compatibility (error : CompatibilityError)
  | serviceProvider (error : ServiceProviderError)

structure ServiceClientLink where
  service : Service
  rpcTx : ℕ

structure ServiceProvider where
  service : Service
  address : SocketAddr
  url : String

structure ServiceActorState where
  clients : AList fun _ : String => ℕ × ServiceClientLink
  servers : AList fun _ : String => ℕ × ServiceProvider

structure ServiceClient where
  rpcTx : ℕ
  guard : ℕ

structure ServiceServer where
  guard : ℕ

inductive ServiceKey : Type
  | client (serviceName : String)
  | server (serviceName : String)
  deriving DecidableEq

inductive ServiceActorMsg : Type
  | registerClient (service : Service) (callerId : String) (persistent : Bool) (reply : ℕ)
  | dropClient (serviceName : String)
  | getServices (reply : ℕ)
  | registerService (service : Service) (address : IpAddr) (callerId : String) (reply : ℕ)
  | dropService (serviceName : String)

inductive ServiceReply : Type
  | client (value : Except ServiceActorError ServiceClient)
  | services (value : List (String × String))
  | server (value : Except ServiceActorError ServiceServer)

inductive ServiceCall : Type
  | bind (address : SocketAddr)
  -- `Url::parse` of the `rosrpc` address
  | url (boundAddr : SocketAddr)
  | registerService (serviceName serviceApi : String)
  | unregisterService (serviceName serviceApi : String)

abbrev ServiceCall.Ans : ServiceCall → Type
  | .bind _ => Except IoError SocketAddr
  | .url _ => Except UrlParseError String
  | .registerService _ _ => Except MasterClientError Unit
  | .unregisterService _ _ => Except MasterClientError ℤ

abbrev ServiceProgram : Type → Type → Type :=
  Program ServiceActorState ServiceKey ServiceReply ServiceCall ServiceCall.Ans

namespace ServiceActor

variable {ε : Type}

def newClientLink (service : Service) (callerId : String) (persistent : Bool) :
    ServiceProgram HeaderError (ℕ × ServiceClientLink) := do
  let rpcTx ← channel none
  let _probeHeaderBytes ← ofExcept
    (toBytes (⟨callerId, service.name, service.spec.md5sum, true⟩ : ProbeRequestHeader))
  let _clientHeaderBytes ← ofExcept (toBytes (⟨callerId, service.name, service.spec.md5sum,
    service.spec.msgType, persistent⟩ : ServiceClientHeader))
  return (rpcTx, ⟨service, rpcTx⟩)

def newProvider (address : SocketAddr) (service : Service) (callerId : String) :
    ServiceProgram ServiceProviderError ServiceProvider := do
  let boundAddr ← ofExcept ((← call (ServiceCall.bind address)).mapError .io)
  let url ← ofExcept ((← call (ServiceCall.url boundAddr)).mapError .urlParse)
  let _probeHeaderBytes ← ofExcept ((toBytes
    (⟨callerId, service.spec.md5sum, service.spec.msgType⟩ : ProbeResponseHeader)).mapError .header)
  let _serverHeaderBytes ← ofExcept
    ((toBytes (⟨callerId⟩ : ServiceServerHeader)).mapError .header)
  return ⟨service, boundAddr, url⟩

/-- The rest of `register_client`, once the registry has no entry for the service. -/
def createClient (service : Service) (callerId : String) (persistent : Bool) :
    ServiceProgram ServiceActorError ServiceClient := do
  let (callTx, client) ← orThrow .header (newClientLink service callerId persistent)
  let guard ← newGuard (.client service.name)
  modifyState fun state =>
    { state with clients := state.clients.insert service.name (guard, client) }
  return ⟨callTx, guard⟩

def registerClient (service : Service) (callerId : String) (persistent : Bool) :
    ServiceProgram ServiceActorError ServiceClient := do
  match (← getState).clients.lookup service.name with
  | some (guard, client) =>
    if ← upgrade guard then
      match service.spec.validateCompatibility client.service.spec with
      | .ok _ => return ⟨client.rpcTx, guard⟩
      | .error e =>
        release guard
        throw (.compatibility e)
    else
      modifyState fun state => { state with clients := state.clients.erase service.name }
      createClient service callerId persistent
  | none => createClient service callerId persistent

def unregisterClient (serviceName : String) : ServiceProgram ε Unit :=
  modifyState fun state => { state with clients := state.clients.erase serviceName }

def getServices : ServiceProgram ε (List (String × String)) := do
  return (← getState).servers.entries.map fun entry => (entry.1, entry.2.2.service.spec.msgType)

/-- The rest of `register_service`, once the registry has no entry for the service. -/
def createService (service : Service) (address : IpAddr) (callerId : String) :
    ServiceProgram ServiceActorError ServiceServer := do
  let srv ← orThrow .serviceProvider (newProvider ⟨address, 0⟩ service callerId)
  let guard ← newGuard (.server service.name)
  match ← call (ServiceCall.registerService service.name srv.url) with
  | .ok _ =>
    modifyState fun state =>
      { state with servers := state.servers.insert service.name (guard, srv) }
    return ⟨guard⟩
  | .error e =>
    release guard
    throw (.masterClient e)

def registerService (service : Service) (address : IpAddr) (callerId : String) :
    ServiceProgram ServiceActorError ServiceServer := do
  match (← getState).servers.lookup service.name with
  | some (guard, server) =>
    if ← upgrade guard then
      match service.spec.validateCompatibility server.service.spec with
      | .ok _ => return ⟨guard⟩
      | .error e =>
        release guard
        throw (.compatibility e)
    else
      modifyState fun state => { state with servers := state.servers.erase service.name }
      createService service address callerId
  | none => createService service address callerId

def unregisterService (serviceName : String) : ServiceProgram ServiceActorError Unit := do
  match (← getState).servers.lookup serviceName with
  | some (guard, server) =>
    modifyState fun state => { state with servers := state.servers.erase serviceName }
    if ← upgrade guard then
      disarm guard
      release guard
    let _ ← ofExcept ((← call (ServiceCall.unregisterService serviceName server.url)).mapError
      .masterClient)
  | none => return

def handle : ServiceActorMsg → ServiceProgram MessagingErr Unit
  | .registerClient service callerId persistent reply => do
    send reply (.client (← attempt (registerClient service callerId persistent)))
  | .dropClient serviceName => unregisterClient serviceName
  | .getServices reply => do send reply (.services (← getServices))
  | .registerService service address callerId reply => do
    send reply (.server (← attempt (registerService service address callerId)))
  | .dropService serviceName => do
    let _ ← attempt (unregisterService serviceName)

def cleanupServer (guard : ℕ) (server : ServiceProvider) : ServiceProgram ServiceActorError Unit := do
  if ← upgrade guard then
    disarm guard
    release guard
  let _ ← ofExcept ((← call (ServiceCall.unregisterService server.service.name server.url)).mapError
    .masterClient)

/-- The maps are iterated in the orders `servers` and `clients`. -/
def postStop (servers : List (Σ _ : String, ℕ × ServiceProvider))
    (clients : List (Σ _ : String, ℕ × ServiceClientLink)) : ServiceProgram MessagingErr Unit := do
  modifyState fun state => { state with servers := ∅ }
  servers.forM fun entry => do
    let _ ← attempt (cleanupServer entry.2.1 entry.2.2)
  modifyState fun state => { state with clients := ∅ }
  clients.forM fun entry => do
    if ← upgrade entry.2.1 then
      disarm entry.2.1
      release entry.2.1

def behaviour : Behaviour ServiceActorState ServiceKey ServiceReply ServiceCall ServiceActorMsg
    ServiceCall.Ans where
  handle := handle
  registers
    | .registerClient service _ _ _ => some (.client service.name)
    | .registerService service _ _ _ => some (.server service.name)
    | _ => none
  dropMsg
    | .client serviceName => .dropClient serviceName
    | .server serviceName => .dropService serviceName
  guardOf
    | .client (.ok client) => some client.guard
    | .server (.ok server) => some server.guard
    | _ => none
  cloneable
    | .client _ => true
    | .server _ => false

def init : Config ServiceActorState ServiceKey ServiceReply ServiceCall ServiceActorMsg
    ServiceCall.Ans := ⟨.init ⟨∅, ∅⟩, .idle⟩

end ServiceActor

end RosrustAsync
