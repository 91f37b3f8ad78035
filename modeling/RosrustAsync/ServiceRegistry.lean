import RosrustAsync.Lib.GuardRules
import RosrustAsync.ServiceActor

namespace RosrustAsync

open Actor Prog

namespace ServiceActor

def registry : Registry ServiceActorState ServiceKey ServiceReply ServiceCall ServiceActorMsg
    ServiceCall.Ans where
  toBehaviour := behaviour
  entry state
    | .client serviceName => guardAt state.clients serviceName
    | .server serviceName => guardAt state.servers serviceName
  drops
    | .dropClient serviceName => some (.client serviceName)
    | .dropService serviceName => some (.server serviceName)
    | _ => none
  client
    | .dropClient _ | .dropService _ => False
    | _ => True
  succeeds
    | .registerService _ _, .error _ => False
    | _, _ => True
  drops_client m hm := by
    cases m with
    | dropClient serviceName | dropService serviceName => exact hm.elim
    | _ => rfl
  drops_dropMsg key := by cases key <;> rfl

variable {m : ServiceActorMsg} {state : ServiceActorState} {guards : List ServiceKey}

theorem entry_insertClient (serviceName : String) (entry : ℕ × ServiceClientLink) (k : ServiceKey) :
    registry.entry { state with clients := state.clients.insert serviceName entry } k =
      if k = .client serviceName then some entry.1 else registry.entry state k := by
  cases k with
  | client name =>
    simp only [ServiceKey.client.injEq]
    exact guardAt_insert ..
  | server name => rfl

theorem entry_insertServer (serviceName : String) (entry : ℕ × ServiceProvider) (k : ServiceKey) :
    registry.entry { state with servers := state.servers.insert serviceName entry } k =
      if k = .server serviceName then some entry.1 else registry.entry state k := by
  cases k with
  | client name => rfl
  | server name =>
    simp only [ServiceKey.server.injEq]
    exact guardAt_insert ..

theorem entry_eraseClient (serviceName : String) (k : ServiceKey) :
    registry.entry { state with clients := state.clients.erase serviceName } k =
      if k = .client serviceName then none else registry.entry state k := by
  cases k with
  | client name =>
    simp only [ServiceKey.client.injEq]
    exact guardAt_erase ..
  | server name => rfl

theorem entry_eraseServer (serviceName : String) (k : ServiceKey) :
    registry.entry { state with servers := state.servers.erase serviceName } k =
      if k = .server serviceName then none else registry.entry state k := by
  cases k with
  | client name => rfl
  | server name =>
    simp only [ServiceKey.server.injEq]
    exact guardAt_erase ..

theorem keeps_newClientLink (service : Service) (callerId : String) (persistent : Bool) :
    Keeps registry m (newClientLink service callerId persistent) :=
  keeps_channel_bind fun _ => keeps_bind (keeps_ofExcept _) fun _ =>
    keeps_bind (keeps_ofExcept _) fun _ => keeps_pure _

theorem keeps_newProvider (address : SocketAddr) (service : Service) (callerId : String) :
    Keeps registry m (newProvider address service callerId) :=
  keeps_call_bind fun _ => keeps_bind (keeps_ofExcept _) fun _ => keeps_call_bind fun _ =>
    keeps_bind (keeps_ofExcept _) fun _ => keeps_bind (keeps_ofExcept _) fun _ =>
      keeps_bind (keeps_ofExcept _) fun _ => keeps_pure _

theorem does_createClient (service : Service) (callerId : String) (persistent : Bool) (reply : ℕ)
    (hentry : registry.entry state (.client service.name) = none) :
    Does registry (.registerClient service callerId persistent reply)
      (At registry state guards [] none none) (createClient service callerId persistent)
      fun r => Ready registry (.registerClient service callerId persistent reply) (.client r) := by
  refine does_keeps (keeps_orThrow (keeps_newClientLink _ _ _)) (fun x => ?_)
    fun e w hw => hw.ready_none rfl
  have hguard : (guards ++ [.client service.name])[guards.length]? =
      some (.client service.name) := by simp
  exact does_newGuard hentry (does_register (.client service.name) hguard (by simp)
    (fun k => entry_insertClient ..)
    (.ret stable_at fun w hw => hw.ready_some (.client service.name) rfl rfl hguard))

theorem does_registerClient (service : Service) (callerId : String) (persistent : Bool)
    (reply : ℕ) :
    Does registry (.registerClient service callerId persistent reply)
      (At registry state guards [] none none) (registerClient service callerId persistent)
      fun r => Ready registry (.registerClient service callerId persistent reply) (.client r) := by
  apply does_getState
  cases hlookup : state.clients.lookup service.name with
  | some entry =>
    have hentry : registry.entry state (.client service.name) = some entry.1 :=
      guardAt_of_some hlookup
    apply does_upgrade rfl hentry
    intro hkey
    simp only [if_true]
    split
    · exact .ret stable_at fun w hw => hw.ready_some (.client service.name) rfl rfl hkey
    · exact does_release (.ret stable_at fun w hw => hw.ready_none rfl)
  | none => exact does_createClient service callerId persistent reply (guardAt_of_none hlookup)

theorem does_createService (service : Service) (address : IpAddr) (callerId : String) (reply : ℕ)
    (hentry : registry.entry state (.server service.name) = none) :
    Does registry (.registerService service address callerId reply)
      (At registry state guards [] none none) (createService service address callerId)
      fun r => Ready registry (.registerService service address callerId reply) (.server r) := by
  refine does_keeps (keeps_orThrow (keeps_newProvider _ _ _)) (fun srv => ?_)
    fun e w hw => hw.ready_none rfl
  have hguard : (guards ++ [.server service.name])[guards.length]? =
      some (.server service.name) := by simp
  refine does_newGuard hentry (does_call fun a ha => ?_)
  cases a with
  | ok u =>
    exact does_register (.server service.name) hguard (by simp) (fun k => entry_insertServer ..)
      (.ret stable_at fun w hw => hw.ready_some (.server service.name) rfl rfl hguard)
  | error e => exact ha.elim

theorem does_registerService (service : Service) (address : IpAddr) (callerId : String)
    (reply : ℕ) :
    Does registry (.registerService service address callerId reply)
      (At registry state guards [] none none) (registerService service address callerId)
      fun r => Ready registry (.registerService service address callerId reply) (.server r) := by
  apply does_getState
  cases hlookup : state.servers.lookup service.name with
  | some entry =>
    have hentry : registry.entry state (.server service.name) = some entry.1 :=
      guardAt_of_some hlookup
    apply does_upgrade rfl hentry
    intro hkey
    simp only [if_true]
    split
    · exact .ret stable_at fun w hw => hw.ready_some (.server service.name) rfl rfl hkey
    · exact does_release (.ret stable_at fun w hw => hw.ready_none rfl)
  | none => exact does_createService service address callerId reply (guardAt_of_none hlookup)

theorem does_unregisterService (serviceName : String) :
    Does registry (.dropService serviceName)
      (At registry state guards [] (some (.server serviceName)) none)
      (unregisterService serviceName) fun _ => Idle registry := by
  apply does_getState
  cases hlookup : state.servers.lookup serviceName with
  | some entry =>
    have hentry : registry.entry state (.server serviceName) = some entry.1 :=
      guardAt_of_some hlookup
    refine does_unregister (ServiceKey.server serviceName) hentry (entry_eraseServer serviceName)
      fun hkey => ?_
    refine does_upgrade_dead hkey ((entry_eraseServer serviceName _).trans
      (if_pos rfl)) ?_
    simp only [Bool.false_eq_true, if_false]
    exact does_call fun a _ => does_keeps (keeps_ofExcept _)
      (fun _ => .ret stable_at fun w hw => hw.idle) fun e w hw => hw.idle
  | none => exact does_drop_none (guardAt_of_none hlookup)

theorem does_unregisterClient (serviceName : String) :
    Does (ε := MessagingErr) registry (.dropClient serviceName)
      (At registry state guards [] (some (.client serviceName)) none)
      (unregisterClient serviceName) (Outcome (fun _ => Idle registry) fun _ _ => False) := by
  cases hlookup : state.clients.lookup serviceName with
  | some entry =>
    have hentry : registry.entry state (.client serviceName) = some entry.1 :=
      guardAt_of_some hlookup
    refine does_unregister (k := pure) (ServiceKey.client serviceName) hentry
      (entry_eraseClient serviceName) fun hkey => ?_
    exact .ret stable_at fun w hw => hw.idle
  | none => exact does_drop_none (guardAt_of_none hlookup)

theorem does_handle (hm : registry.client m ∨ (registry.drops m).isSome) :
    Does registry m (At registry state guards [] (registry.drops m) none) (handle m)
      (Outcome (fun _ => Idle registry) fun _ _ => False) := by
  cases m with
  | registerClient service callerId persistent reply =>
    exact does_reply (.attempt (does_registerClient service callerId persistent reply))
  | dropClient serviceName => exact does_unregisterClient serviceName
  | getServices reply =>
    exact does_reply (does_getState (.ret stable_at fun w hw => hw.ready_none rfl))
  | registerService service address callerId reply =>
    exact does_reply (.attempt (does_registerService service address callerId reply))
  | dropService serviceName =>
    exact .bind_except (.attempt (does_unregisterService serviceName))
      (fun _ => .ret stable_idle fun w hw => hw) fun _ _ he => he

end ServiceActor

end RosrustAsync
