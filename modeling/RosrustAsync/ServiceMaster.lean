import RosrustAsync.HeaderRoundTrip
import RosrustAsync.Lib.Mirror
import RosrustAsync.ServiceActor

namespace RosrustAsync.ServiceActor

open Actor Prog

/-- The URLs under which the master holds the node's services, by the answers to the actor's calls:
it keeps one for each name, and gives up the one it is asked to. -/
def master : (c : ServiceCall) → c.Ans → (AList fun _ : String => String) →
    AList fun _ : String => String
  | .registerService serviceName serviceApi, answer, reg =>
    if answer.isOk then reg.insert serviceName serviceApi else reg
  | .unregisterService serviceName serviceApi, answer, reg =>
    if answer.isOk ∧ reg.lookup serviceName = some serviceApi then reg.erase serviceName else reg
  | _, _, reg => reg

/-- An unregistration does not fail, and neither does the registration of a service that is still
registered. -/
def Kept (m : ServiceActorMsg) : (c : ServiceCall) → c.Ans → (AList fun _ : String => String) → Prop
  | .bind _, answer, reg | .url _, answer, reg => ∀ serviceName,
      behaviour.registers m = some (.server serviceName) → (reg.lookup serviceName).isSome →
        answer.isOk
  | .registerService serviceName _, answer, reg => (reg.lookup serviceName).isSome → answer.isOk
  | .unregisterService _ _, answer, _ => answer.isOk

def Succeeds : (c : ServiceCall) → c.Ans → Prop
  | .bind _, answer | .url _, answer | .registerService _ _, answer
  | .unregisterService _ _, answer => answer.isOk

theorem kept_of_succeeds {m : ServiceActorMsg} {c : ServiceCall} {answer : c.Ans}
    {reg : AList fun _ : String => String} (h : Succeeds c answer) : Kept m c answer reg := by
  cases c with
  | bind address | url boundAddr => exact fun _ _ _ => h
  | registerService serviceName serviceApi => exact fun _ => h
  | unregisterService serviceName serviceApi => exact h

abbrev Mirrored (state : ServiceActorState) (reg : AList fun _ : String => String) : Prop :=
  Mirrors (fun server => server.service.name) (fun server => server.url) state.servers reg

abbrev MirroredBut (serviceName : String) (state : ServiceActorState)
    (reg : AList fun _ : String => String) : Prop :=
  MirrorsBut (fun server => server.service.name) (fun server => server.url) serviceName
    state.servers reg

variable {m : ServiceActorMsg} {state : ServiceActorState} {reg : AList fun _ : String => String}

theorem follows_newProvider (address : SocketAddr) (service : Service) (callerId : String) :
    Follows behaviour master Kept m (Sees state reg []) (newProvider address service callerId)
      fun r => Holds fun state' reg' => state' = state ∧ reg' = reg ∧ match r with
        | .ok srv => srv.service = service
        | .error _ => ∀ serviceName, behaviour.registers m = some (.server serviceName) →
            reg.lookup serviceName = none := by
  refine follows_call fun answer hfits => carries_ofExcept (fun boundAddr _ => ?_) fun e w he hw => ?_
  · refine follows_call fun answer hfits => carries_ofExcept (fun url _ => ?_) fun e w he hw => ?_
    · refine carries_ofExcept (fun _ _ => carries_ofExcept (fun _ _ => ?_) fun x w hx => ?_)
        fun x w hx => ?_
      · exact carries_pure fun w hw => hw.holds ⟨rfl, rfl, rfl⟩
      · rw [toBytes_eq] at hx
        cases hx
      · rw [toBytes_eq] at hx
        cases hx
    · exact hw.holds ⟨rfl, rfl, fun n hm => lookup_eq_none_of_error (hfits n hm) he⟩
  · exact hw.holds ⟨rfl, rfl, fun n hm => lookup_eq_none_of_error (hfits n hm) he⟩

theorem follows_createService (service : Service) (address : IpAddr) (callerId : String)
    (hm : behaviour.registers m = some (.server service.name))
    (h : MirroredBut service.name state reg) : Follows behaviour master Kept m (Sees state reg [])
      (createService service address callerId) fun _ => Holds Mirrored := by
  refine carries_orThrow (follows_newProvider _ _ _) (fun srv state' reg' hsrv => ?_) ?_
  · obtain ⟨rfl, rfl, hservice⟩ := hsrv
    refine carries_newGuard fun guard => follows_call fun answer hfits => ?_
    cases answer with
    | ok u =>
      refine carries_modifyState (carries_pure fun w hw => hw.holds ?_)
      exact h.register (show (guard, srv).2.service.name = service.name by rw [hservice])
    | error e =>
      have hreg : reg'.lookup service.name = none := by
        by_contra hreg
        cases hfits (Option.isSome_iff_ne_none.mpr hreg)
      refine carries_release (carries_throw fun w hw => hw.holds ?_)
      exact h.mirrors hreg
  · rintro e w ⟨hstate, hreg, hnone⟩
    unfold Holds
    rw [hstate, hreg]
    exact h.mirrors (hnone _ hm)

theorem follows_registerService (service : Service) (address : IpAddr) (callerId : String)
    (hm : behaviour.registers m = some (.server service.name)) (h : Mirrored state reg) :
    Follows behaviour master Kept m (Sees state reg []) (registerService service address callerId)
      fun _ => Holds Mirrored := by
  apply carries_getState
  cases hlookup : state.servers.lookup service.name with
  | some entry =>
    refine carries_upgrade ?_ ?_
    · -- the entry goes and the master is not told
      exact carries_modifyState (carries_forget
        (follows_createService service address callerId hm (h.erase service.name)))
    · simp only [if_true]
      split
      · exact carries_pure fun w hw => hw.holds h
      · exact carries_release (carries_throw fun w hw => hw.holds h)
  | none => exact follows_createService service address callerId hm (h.but hlookup)

theorem follows_unregisterService (serviceName : String) (h : Mirrored state reg) :
    Follows behaviour master Kept m (Sees state reg []) (unregisterService serviceName)
      fun _ => Holds Mirrored := by
  apply carries_getState
  cases hlookup : state.servers.lookup serviceName with
  | some entry =>
    have hreg : reg.lookup serviceName = some entry.2.url := by
      rw [h.registered, hlookup]
      rfl
    refine carries_modifyState (carries_upgrade ?_ (carries_disarm (carries_release ?_)))
    all_goals
      refine follows_call fun answer hfits => carries_ofExcept (fun _ hok => ?_) fun e w he hw => ?_
      · refine carries_pure fun w hw => hw.holds ?_
        simp only [master, isOk_of_ok hok, hreg, and_self, if_true]
        exact (h.erase serviceName).unregister.mirrors (AList.lookup_erase ..)
      · have hok : answer.isOk := hfits
        rw [isOk_of_error he] at hok
        cases hok
  | none => exact carries_pure fun w hw => hw.holds h

theorem follows_registerClient (service : Service) (callerId : String) (persistent : Bool)
    (h : Mirrored state reg) : Follows behaviour master Kept m (Sees state reg [])
      (registerClient service callerId persistent) fun _ => Holds Mirrored := by
  have hcreate : ∀ (state : ServiceActorState) (spent : List ℕ), Mirrored state reg →
      Follows behaviour master Kept m (Sees state reg spent)
        (createClient service callerId persistent) fun _ => Holds Mirrored := by
    intro state spent h
    refine carries_forget (carries_orThrow (R := fun _ state' reg' => state' = state ∧ reg' = reg)
      (carries_channel fun rpcTx => ?_) (fun client state' reg' hclient => ?_) fun e w hw => ?_)
    · refine carries_ofExcept (fun _ _ => carries_ofExcept (fun _ _ => ?_) ?_) ?_
      · exact carries_pure fun w hw => hw.holds ⟨rfl, rfl⟩
      · exact fun x w _ hw => hw.holds ⟨rfl, rfl⟩
      · exact fun x w _ hw => hw.holds ⟨rfl, rfl⟩
    · obtain ⟨rfl, rfl⟩ := hclient
      refine carries_newGuard fun guard => carries_modifyState (carries_pure fun w hw => hw.holds ?_)
      exact h
    · unfold Holds at hw ⊢
      rw [hw.1, hw.2]
      exact h
  apply carries_getState
  split
  · refine carries_upgrade (carries_modifyState (hcreate _ _ h)) ?_
    simp only [if_true]
    split
    · exact carries_pure fun w hw => hw.holds h
    · exact carries_release (carries_throw fun w hw => hw.holds h)
  · exact hcreate state [] h

theorem follows_handle (h : Mirrored state reg) : Follows behaviour master Kept m
    (Sees state reg []) (handle m) fun _ => Holds Mirrored := by
  cases m with
  | registerClient service callerId persistent reply =>
    exact carries_reply (carries_attempted (follows_registerClient service callerId persistent h))
  | dropClient serviceName =>
    refine carries_modified fun w hw => hw.holds ?_
    exact h
  | getServices reply =>
    exact carries_reply (carries_getState (carries_pure fun w hw => hw.holds h))
  | registerService service address callerId reply =>
    exact carries_reply (carries_attempted
      (follows_registerService service address callerId rfl h))
  | dropService serviceName =>
    exact carries_attempt (follows_unregisterService serviceName h)
      fun _ _ _ h => carries_pure fun w hw => hw.holds h

theorem run_kept {s labels c} (h : Runs.Run (watched behaviour master).step
    (Process.Ok Anyhow (Answers fun _ c answer _ => Succeeds c answer)) s labels c) :
    Runs.Run (watched behaviour master).step (Process.Ok Anyhow (Answers Kept)) s labels c :=
  h.mono fun _ _ => ok_mono fun _ _ _ _ => kept_of_succeeds

theorem mirrored_idle {labels c} (h : Runs.Run (watched behaviour master).step
    (Process.Ok Anyhow (Answers Kept)) ⟨(.init ⟨∅, ∅⟩, ∅), .idle⟩ labels c) (hidle : c.pc = .idle) :
    Mirrored c.world.1.state c.world.2 :=
  watched_holds (P := Mirrored) mirrors_empty (fun _ _ _ h => follows_handle h) h hidle

end RosrustAsync.ServiceActor
