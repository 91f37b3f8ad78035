import RosrustAsync.Compatibility
import RosrustAsync.Lib.SharedHandles
import RosrustAsync.PublisherActor
import RosrustAsync.ServiceActor
import RosrustAsync.SubscriberActor

namespace RosrustAsync

open Actor Sharing Prog

/-- An actor whose entries are compared with newcomers by the fields of their specs. -/
def sharing {S K V C M T : Type} {Ans : C → Type} (B : Behaviour S K V C M Ans)
    (entry : S → K → Option (ℕ × T)) (tag : M → Option T) (removes : M → Option K)
    (fields : List (T → String)) : Sharing S K V C M T Ans where
  toBehaviour := B
  entry := entry
  tag := tag
  removes := removes
  fits := FieldsFit fields
  joins := JoinsOpen fields
  fits_refl t := fieldsFit_refl t
  fits_symm _ _ h := h.symm
  fits_of_joins _ _ _ ht hs h := ht.of_joinsOpen hs h

def RegisteredPublication.spec (self : RegisteredPublication) : TopicSpec := self.topic.spec

namespace PublisherActor

def shared : Sharing PublisherActorState String PublisherReply PublisherCall PublisherActorMsg
    TopicSpec PublisherCall.Ans :=
  sharing behaviour (fun state => entryAt RegisteredPublication.spec state.publications)
    (fun
      | .registerPublisher topic _ _ _ _ _ _ => some topic.spec
      | _ => none)
    (fun
      | .unregisterPublisher topicName _ | .dropPublisher topicName => some topicName
      | _ => none)
    TopicSpec.fields

variable {m : PublisherActorMsg} {state : PublisherActorState} {gone : Option String}

theorem entry_eq (state : PublisherActorState) (key : String) :
    shared.entry state key = entryAt RegisteredPublication.spec state.publications key := rfl

theorem entry_none {topicName : String} (h : state.publications.lookup topicName = none) :
    shared.entry state topicName = none := by
  rw [entry_eq, entryAt_of_lookup h]
  rfl

theorem entry_some {topicName : String} {entry : ℕ × RegisteredPublication}
    (h : state.publications.lookup topicName = some entry) :
    shared.entry state topicName = some (entry.1, entry.2.spec) := by
  rw [entry_eq, entryAt_of_lookup h]
  rfl

theorem entry_insert (topicName : String) (entry : ℕ × RegisteredPublication) :
    shared.entry { state with publications := state.publications.insert topicName entry } topicName =
      some (entry.1, entry.2.spec) := by
  rw [entry_eq]
  exact entryAt_insert_self ..

theorem entry_insert_ne {topicName key : String} (h : some topicName ≠ some key)
    (entry : ℕ × RegisteredPublication) :
    shared.entry { state with publications := state.publications.insert topicName entry } key =
      shared.entry state key := by
  rw [entry_eq, entry_eq]
  exact entryAt_insert_ne (by rintro rfl; exact h rfl) _

theorem entry_erase_ne {topicName key : String} (h : some topicName ≠ some key) :
    shared.entry { state with publications := state.publications.erase topicName } key =
      shared.entry state key := by
  rw [entry_eq, entry_eq]
  exact entryAt_erase_ne (by rintro rfl; exact h rfl)

theorem holds_newPublication (address : SocketAddr) (topic : Topic) (callerId : String)
    (queueSize : ℕ) (tcpNodelay latching : Bool) : shared.Holds m (shared.Here state gone)
      (newPublication address topic callerId queueSize tcpNodelay latching)
      (Outcome (fun x w => x.2.topic = topic ∧ shared.Here state gone w)
        fun _ => shared.Here state gone) := by
  refine holds_quiet trivial fun bound => ?_
  refine holds_silent (silent_ofExcept _) (fun boundAddr => ?_) fun _ _ hw => hw
  refine holds_silent (silent_ofExcept _) (fun headerBytes => ?_) fun _ _ hw => hw
  exact holds_quiet trivial fun dataTx => holds_pure fun w hw => ⟨rfl, hw⟩

theorem silent_cleanupPublication (guard : ℕ) (publication : RegisteredPublication) :
    shared.Silent m (cleanupPublication guard publication) := by
  refine silent_quiet trivial fun upgraded => ?_
  split
  · exact silent_quiet trivial fun _ => silent_quiet trivial fun _ => silent_quiet trivial fun _ =>
      silent_bind (silent_ofExcept _) fun _ => silent_pure _
  · exact silent_quiet trivial fun _ => silent_bind (silent_ofExcept _) fun _ => silent_pure _

theorem holds_createPublication (topic : Topic) (address : IpAddr) (callerId : String)
    (queueSize : ℕ) (latching tcpNodelay : Bool) (reply : ℕ) :
    shared.Holds (.registerPublisher topic address callerId queueSize latching tcpNodelay reply)
      (shared.Here state (some topic.name))
      (createPublication topic address callerId queueSize latching tcpNodelay)
      fun r => shared.Ready
        (.registerPublisher topic address callerId queueSize latching tcpNodelay reply)
        (.registered r) := by
  refine .bind_except (Q := fun x w => x.2.topic = topic ∧ shared.Here state (some topic.name) w)
    (E := fun _ => shared.Here state (some topic.name)) (.orThrow ?_) (fun x w hw => ?_)
    fun e w hw => hw.shared.ready rfl
  · refine (holds_newPublication _ topic _ _ _ _).weaken (fun _ hw => hw) fun r _ hw => ?_
    cases r <;> exact hw
  · obtain ⟨htopic, hw⟩ := hw
    revert w
    refine holds_quiet trivial fun registered => ?_
    refine holds_silent (silent_ofExcept _) (fun _ => ?_) fun e w hw => hw.shared.ready rfl
    refine holds_quiet trivial fun guard => holds_modifyState (fun key hkey _ => ?_) ?_
    · exact entry_insert_ne hkey _
    · refine holds_pure fun w hw => hw.ready_some rfl rfl rfl (entry_insert _ _) ?_
      rw [RegisteredPublication.spec, htopic]
      exact fieldsFit_refl topic.spec

theorem holds_registerPublisher (topic : Topic) (address : IpAddr) (callerId : String)
    (queueSize : ℕ) (latching tcpNodelay : Bool) (reply : ℕ) :
    shared.Holds (.registerPublisher topic address callerId queueSize latching tcpNodelay reply)
      (shared.Here state none)
      (registerPublisher topic address callerId queueSize latching tcpNodelay)
      fun r => shared.Ready
        (.registerPublisher topic address callerId queueSize latching tcpNodelay reply)
        (.registered r) := by
  apply holds_getState
  cases hlookup : state.publications.lookup topic.name with
  | none =>
    exact holds_none (entry_none hlookup)
      (holds_createPublication topic address callerId queueSize latching tcpNodelay reply)
  | some entry =>
    apply holds_upgrade (entry_some hlookup)
    · simp only [if_true]
      split
      · rename_i hfits
        exact holds_pure fun w hw => hw.ready_some rfl rfl rfl (entry_some hlookup)
          (TopicSpec.validateCompatibility_iff.mp hfits)
      · exact holds_quiet trivial fun _ =>
          .ret stable_here (fun _ hw => hw.shared) fun w hw => hw.shared.ready rfl
    · simp only [Bool.false_eq_true, if_false]
      refine holds_modifyState (fun key hkey _ => entry_erase_ne hkey) ?_
      exact holds_silent (silent_attempt (silent_cleanupPublication _ _))
        (fun _ => holds_createPublication topic address callerId queueSize latching tcpNodelay reply)
        fun e w hw => hw.shared.ready rfl

theorem holds_unregisterPublisher {topicName : String}
    (hm : shared.removes m = some topicName) : shared.Holds m (shared.Here state none)
      (unregisterPublisher topicName) fun _ => shared.Shared := by
  apply holds_getState
  split
  · refine holds_modifyState (fun key _ hkey => entry_erase_ne (by rw [← hm]; exact hkey)) ?_
    exact (silent_cleanupPublication _ _ _ _).weaken (fun _ hw => hw) fun _ _ hw => hw.shared
  · exact holds_pure fun w hw => hw.shared

theorem holds_handle (m : PublisherActorMsg) (state : PublisherActorState) :
    shared.Holds m (shared.Here state none) (handle m) fun _ => shared.Shared := by
  cases m with
  | getPublications reply | getPublisherAddress topicName reply =>
    exact holds_reply (holds_getState (holds_pure fun w hw => hw.shared.ready rfl))
  | getConnectedSubscriberIds topicName reply =>
    refine holds_reply (holds_getState ?_)
    split
    · exact holds_quiet trivial fun a => holds_pure fun w hw => hw.shared.ready rfl
    · exact holds_pure fun w hw => hw.shared.ready rfl
  | registerPublisher topic address callerId queueSize latching tcpNodelay reply =>
    exact holds_reply (.attempt
      (holds_registerPublisher topic address callerId queueSize latching tcpNodelay reply))
  | unregisterPublisher topicName reply =>
    refine holds_reply (.attempt ((holds_unregisterPublisher rfl).weaken (fun _ hw => hw) ?_))
    exact fun r w hw => hw.ready rfl
  | dropPublisher topicName =>
    refine .bind_except (.attempt (holds_unregisterPublisher rfl)) (fun _ => ?_) fun _ _ he => he
    exact .ret stable_shared (fun _ hw => hw) fun _ hw => hw

end PublisherActor

def RegisteredSubscription.spec (self : RegisteredSubscription) : TopicSpec := self.topic.spec

namespace SubscriberActor

def shared : Sharing SubscriberActorState String SubscriberReply SubscriberCall SubscriberActorMsg
    TopicSpec SubscriberCall.Ans :=
  sharing behaviour (fun state => entryAt RegisteredSubscription.spec state.subscriptions)
    (fun
      | .registerSubscriber topic _ _ _ _ => some topic.spec
      | _ => none)
    (fun
      | .unregisterSubscriber topicName _ | .dropSubscriber topicName => some topicName
      | _ => none)
    TopicSpec.fields

variable {m : SubscriberActorMsg} {state : SubscriberActorState} {gone : Option String}

theorem entry_eq (state : SubscriberActorState) (key : String) :
    shared.entry state key = entryAt RegisteredSubscription.spec state.subscriptions key := rfl

theorem entry_none {topicName : String} (h : state.subscriptions.lookup topicName = none) :
    shared.entry state topicName = none := by
  rw [entry_eq, entryAt_of_lookup h]
  rfl

theorem entry_some {topicName : String} {entry : ℕ × RegisteredSubscription}
    (h : state.subscriptions.lookup topicName = some entry) :
    shared.entry state topicName = some (entry.1, entry.2.spec) := by
  rw [entry_eq, entryAt_of_lookup h]
  rfl

theorem entry_insert (topicName : String) (entry : ℕ × RegisteredSubscription) :
    shared.entry { state with subscriptions := state.subscriptions.insert topicName entry }
      topicName = some (entry.1, entry.2.spec) := by
  rw [entry_eq]
  exact entryAt_insert_self ..

theorem entry_insert_ne {topicName key : String} (h : some topicName ≠ some key)
    (entry : ℕ × RegisteredSubscription) :
    shared.entry { state with subscriptions := state.subscriptions.insert topicName entry } key =
      shared.entry state key := by
  rw [entry_eq, entry_eq]
  exact entryAt_insert_ne (by rintro rfl; exact h rfl) _

theorem entry_erase_ne {topicName key : String} (h : some topicName ≠ some key) :
    shared.entry { state with subscriptions := state.subscriptions.erase topicName } key =
      shared.entry state key := by
  rw [entry_eq, entry_eq]
  exact entryAt_erase_ne (by rintro rfl; exact h rfl)

theorem holds_newSubscription (topic : Topic) (callerId : String) (queueSize : ℕ)
    (tcpNodelay : Bool) : shared.Holds m (shared.Here state gone)
      (newSubscription topic callerId queueSize tcpNodelay)
      (Outcome (fun x w => x.2.topic = topic ∧ shared.Here state gone w)
        fun _ => shared.Here state gone) := by
  refine holds_silent (silent_ofExcept _) (fun headerBytes => ?_) fun _ _ hw => hw
  exact holds_quiet trivial fun dataTx => holds_pure fun w hw => ⟨rfl, hw⟩

theorem silent_cleanupSubscription (guard : ℕ) (subscription : RegisteredSubscription) :
    shared.Silent m (cleanupSubscription guard subscription) := by
  refine silent_quiet trivial fun upgraded => ?_
  split
  · exact silent_quiet trivial fun _ => silent_quiet trivial fun _ => silent_quiet trivial fun _ =>
      silent_bind (silent_ofExcept _) fun _ => silent_pure _
  · exact silent_quiet trivial fun _ => silent_bind (silent_ofExcept _) fun _ => silent_pure _

theorem silent_addPublisherToSubscription (callerId topicName publisherAddr : String)
    (subscription : RegisteredSubscription) : shared.Silent m
      (addPublisherToSubscription callerId topicName publisherAddr subscription) := by
  refine silent_bind ?_ fun channelAddr => ?_
  · exact silent_quiet trivial fun _ => silent_bind (silent_ofExcept _) fun _ =>
      silent_quiet trivial fun _ => silent_bind (silent_ofExcept _) fun _ => silent_pure _
  · cases channelAddr with
    | some channelAddr => exact silent_quiet trivial fun _ => silent_ofExcept _
    | none => exact silent_pure _

theorem silent_addPublishers {ε : Type} (topicName : String)
    (subscription : RegisteredSubscription) (publishers : List String) :
    shared.Silent (ε := ε) m (addPublishers topicName subscription publishers) := by
  induction publishers with
  | nil => exact silent_pure _
  | cons publisher publishers ih =>
    refine silent_bind (silent_quiet trivial fun state => ?_) fun _ => ih
    exact silent_bind (silent_attempt (silent_addPublisherToSubscription _ _ _ _))
      fun _ => silent_pure _

theorem holds_createSubscription (topic : Topic) (callerId : String) (queueSize : ℕ)
    (tcpNodelay : Bool) (reply : ℕ) :
    shared.Holds (.registerSubscriber topic callerId queueSize tcpNodelay reply)
      (shared.Here state (some topic.name))
      (createSubscription topic callerId queueSize tcpNodelay)
      fun r => shared.Ready (.registerSubscriber topic callerId queueSize tcpNodelay reply)
        (.registered r) := by
  refine .bind_except (Q := fun x w => x.2.topic = topic ∧ shared.Here state (some topic.name) w)
    (E := fun _ => shared.Here state (some topic.name)) (.orThrow ?_) (fun x w hw => ?_)
    fun e w hw => hw.shared.ready rfl
  · refine (holds_newSubscription topic _ _ _).weaken (fun _ hw => hw) fun r _ hw => ?_
    cases r <;> exact hw
  · obtain ⟨htopic, hw⟩ := hw
    revert w
    refine holds_quiet trivial fun registered => ?_
    refine holds_silent (silent_ofExcept _) (fun existing => ?_) fun e w hw => hw.shared.ready rfl
    refine holds_silent (silent_addPublishers _ _ _) (fun _ => ?_) fun e w hw => hw.shared.ready rfl
    refine holds_quiet trivial fun guard => holds_modifyState (fun key hkey _ => ?_) ?_
    · exact entry_insert_ne hkey _
    · refine holds_pure fun w hw => hw.ready_some rfl rfl rfl (entry_insert _ _) ?_
      rw [RegisteredSubscription.spec, htopic]
      exact fieldsFit_refl topic.spec

theorem holds_registerSubscriber (topic : Topic) (callerId : String) (queueSize : ℕ)
    (tcpNodelay : Bool) (reply : ℕ) :
    shared.Holds (.registerSubscriber topic callerId queueSize tcpNodelay reply)
      (shared.Here state none) (registerSubscriber topic callerId queueSize tcpNodelay)
      fun r => shared.Ready (.registerSubscriber topic callerId queueSize tcpNodelay reply)
        (.registered r) := by
  apply holds_getState
  cases hlookup : state.subscriptions.lookup topic.name with
  | none =>
    exact holds_none (entry_none hlookup)
      (holds_createSubscription topic callerId queueSize tcpNodelay reply)
  | some entry =>
    apply holds_upgrade (entry_some hlookup)
    · simp only [if_true]
      split
      · rename_i hfits
        refine holds_quiet trivial fun latchedMsgs => ?_
        exact holds_pure fun w hw => hw.ready_some rfl rfl rfl (entry_some hlookup)
          (TopicSpec.validateCompatibility_iff.mp hfits)
      · exact holds_quiet trivial fun _ =>
          .ret stable_here (fun _ hw => hw.shared) fun w hw => hw.shared.ready rfl
    · simp only [Bool.false_eq_true, if_false]
      refine holds_modifyState (fun key hkey _ => entry_erase_ne hkey) ?_
      exact holds_silent (silent_attempt (silent_cleanupSubscription _ _))
        (fun _ => holds_createSubscription topic callerId queueSize tcpNodelay reply)
        fun e w hw => hw.shared.ready rfl

theorem holds_unregisterSubscriber {topicName : String}
    (hm : shared.removes m = some topicName) : shared.Holds m (shared.Here state none)
      (unregisterSubscriber topicName) fun _ => shared.Shared := by
  apply holds_getState
  split
  · refine holds_modifyState (fun key _ hkey => entry_erase_ne (by rw [← hm]; exact hkey)) ?_
    exact (silent_cleanupSubscription _ _ _ _).weaken (fun _ hw => hw) fun _ _ hw => hw.shared
  · exact holds_pure fun w hw => hw.shared

theorem holds_handle (m : SubscriberActorMsg) (state : SubscriberActorState) :
    shared.Holds m (shared.Here state none) (handle m) fun _ => shared.Shared := by
  cases m with
  | getSubscriptions reply =>
    exact holds_reply (holds_getState (holds_pure fun w hw => hw.shared.ready rfl))
  | getConnectedPublisherUrls topicName reply =>
    refine holds_reply (holds_getState ?_)
    split
    · exact holds_quiet trivial fun a => holds_pure fun w hw => hw.shared.ready rfl
    · exact holds_pure fun w hw => hw.shared.ready rfl
  | registerSubscriber topic callerId queueSize tcpNodelay reply =>
    exact holds_reply (.attempt
      (holds_registerSubscriber topic callerId queueSize tcpNodelay reply))
  | unregisterSubscriber topicName reply =>
    refine holds_reply (.attempt ((holds_unregisterSubscriber rfl).weaken (fun _ hw => hw) ?_))
    exact fun r w hw => hw.ready rfl
  | dropSubscriber topicName =>
    refine .bind_except (.attempt (holds_unregisterSubscriber rfl)) (fun _ => ?_) fun _ _ he => he
    exact .ret stable_shared (fun _ hw => hw) fun _ hw => hw
  | updateConnectedPublishers topicName publishers =>
    apply holds_getState
    split
    · refine holds_quiet trivial fun connected => ?_
      exact (silent_addPublishers _ _ _ _ _).weaken (fun _ hw => hw) fun _ _ hw => hw.shared
    · exact holds_pure fun w hw => hw.shared

end SubscriberActor

def ServiceClientLink.spec (self : ServiceClientLink) : ServiceSpec := self.service.spec

def ServiceProvider.spec (self : ServiceProvider) : ServiceSpec := self.service.spec

namespace ServiceActor

def shared : Sharing ServiceActorState ServiceKey ServiceReply ServiceCall ServiceActorMsg
    ServiceSpec ServiceCall.Ans :=
  sharing behaviour
    (fun state key => match key with
      | .client serviceName => entryAt ServiceClientLink.spec state.clients serviceName
      | .server serviceName => entryAt ServiceProvider.spec state.servers serviceName)
    (fun
      | .registerClient service _ _ _ | .registerService service _ _ _ => some service.spec
      | _ => none)
    (fun
      | .dropClient serviceName => some (.client serviceName)
      | .dropService serviceName => some (.server serviceName)
      | _ => none)
    ServiceSpec.fields

variable {m : ServiceActorMsg} {state : ServiceActorState} {gone : Option ServiceKey}

theorem entry_client (state : ServiceActorState) (serviceName : String) :
    shared.entry state (.client serviceName) =
      entryAt ServiceClientLink.spec state.clients serviceName := rfl

theorem entry_server (state : ServiceActorState) (serviceName : String) :
    shared.entry state (.server serviceName) =
      entryAt ServiceProvider.spec state.servers serviceName := rfl

theorem entry_of_clients {clients : AList fun _ : String => ℕ × ServiceClientLink}
    {serviceName : String} {key : ServiceKey} (hkey : some (.client serviceName) ≠ some key)
    (h : ∀ k, k ≠ serviceName → clients.lookup k = state.clients.lookup k) :
    shared.entry { state with clients := clients } key = shared.entry state key := by
  cases key with
  | client name =>
    rw [entry_client, entry_client, entryAt, entryAt, h name]
    rintro rfl
    exact hkey rfl
  | server name => rfl

theorem entry_of_servers {servers : AList fun _ : String => ℕ × ServiceProvider}
    {serviceName : String} {key : ServiceKey} (hkey : some (.server serviceName) ≠ some key)
    (h : ∀ k, k ≠ serviceName → servers.lookup k = state.servers.lookup k) :
    shared.entry { state with servers := servers } key = shared.entry state key := by
  cases key with
  | client name => rfl
  | server name =>
    rw [entry_server, entry_server, entryAt, entryAt, h name]
    rintro rfl
    exact hkey rfl

theorem holds_newClientLink (service : Service) (callerId : String) (persistent : Bool) :
    shared.Holds m (shared.Here state gone) (newClientLink service callerId persistent)
      (Outcome (fun x w => x.2.service = service ∧ shared.Here state gone w)
        fun _ => shared.Here state gone) := by
  refine holds_quiet trivial fun rpcTx => ?_
  refine holds_silent (silent_ofExcept _) (fun _ => ?_) fun _ _ hw => hw
  exact holds_silent (silent_ofExcept _) (fun _ => holds_pure fun w hw => ⟨rfl, hw⟩)
    fun _ _ hw => hw

theorem holds_createClient (service : Service) (callerId : String) (persistent : Bool)
    (reply : ℕ) : shared.Holds (.registerClient service callerId persistent reply)
      (shared.Here state (some (.client service.name))) (createClient service callerId persistent)
      fun r => shared.Ready (.registerClient service callerId persistent reply) (.client r) := by
  refine .bind_except
    (Q := fun x w => x.2.service = service ∧ shared.Here state (some (.client service.name)) w)
    (E := fun _ => shared.Here state (some (.client service.name))) (.orThrow ?_)
    (fun x w hw => ?_) fun e w hw => hw.shared.ready rfl
  · refine (holds_newClientLink service _ _).weaken (fun _ hw => hw) fun r _ hw => ?_
    cases r <;> exact hw
  · obtain ⟨hservice, hw⟩ := hw
    revert w
    refine holds_quiet trivial fun guard => holds_modifyState (fun key hkey _ => ?_) ?_
    · exact entry_of_clients hkey fun k hk => AList.lookup_insert_ne hk
    · refine holds_pure fun w hw => hw.ready_some rfl rfl rfl
        ((entry_client _ _).trans (entryAt_insert_self _ _)) ?_
      rw [ServiceClientLink.spec, hservice]
      exact fieldsFit_refl service.spec

theorem holds_registerClient (service : Service) (callerId : String) (persistent : Bool)
    (reply : ℕ) : shared.Holds (.registerClient service callerId persistent reply)
      (shared.Here state none) (registerClient service callerId persistent)
      fun r => shared.Ready (.registerClient service callerId persistent reply) (.client r) := by
  apply holds_getState
  cases hlookup : state.clients.lookup service.name with
  | none =>
    exact holds_none ((entry_client _ _).trans (entryAt_of_lookup hlookup))
      (holds_createClient service callerId persistent reply)
  | some entry =>
    have hentry : shared.entry state (.client service.name) = some (entry.1, entry.2.spec) :=
      (entry_client _ _).trans (entryAt_of_lookup hlookup)
    apply holds_upgrade hentry
    · simp only [if_true]
      split
      · rename_i hfits
        exact holds_pure fun w hw => hw.ready_some rfl rfl rfl hentry
          (ServiceSpec.validateCompatibility_iff.mp hfits)
      · exact holds_quiet trivial fun _ =>
          .ret stable_here (fun _ hw => hw.shared) fun w hw => hw.shared.ready rfl
    · simp only [Bool.false_eq_true, if_false]
      refine holds_modifyState (fun key hkey _ => ?_) ?_
      · exact entry_of_clients hkey fun k hk => AList.lookup_erase_ne hk
      · exact holds_createClient service callerId persistent reply

theorem holds_newProvider (address : SocketAddr) (service : Service) (callerId : String) :
    shared.Holds m (shared.Here state gone) (newProvider address service callerId)
      (Outcome (fun srv w => srv.service = service ∧ shared.Here state gone w)
        fun _ => shared.Here state gone) := by
  refine holds_quiet trivial fun bound => ?_
  refine holds_silent (silent_ofExcept _) (fun boundAddr => ?_) fun _ _ hw => hw
  refine holds_quiet trivial fun parsed => ?_
  refine holds_silent (silent_ofExcept _) (fun url => ?_) fun _ _ hw => hw
  refine holds_silent (silent_ofExcept _) (fun _ => ?_) fun _ _ hw => hw
  exact holds_silent (silent_ofExcept _) (fun _ => holds_pure fun w hw => ⟨rfl, hw⟩)
    fun _ _ hw => hw

theorem holds_createService (service : Service) (address : IpAddr) (callerId : String)
    (reply : ℕ) : shared.Holds (.registerService service address callerId reply)
      (shared.Here state (some (.server service.name))) (createService service address callerId)
      fun r => shared.Ready (.registerService service address callerId reply) (.server r) := by
  refine .bind_except
    (Q := fun srv w => srv.service = service ∧ shared.Here state (some (.server service.name)) w)
    (E := fun _ => shared.Here state (some (.server service.name))) (.orThrow ?_)
    (fun srv w hw => ?_) fun e w hw => hw.shared.ready rfl
  · refine (holds_newProvider _ service _).weaken (fun _ hw => hw) fun r _ hw => ?_
    cases r <;> exact hw
  · obtain ⟨hservice, hw⟩ := hw
    revert w
    refine holds_quiet trivial fun guard => holds_quiet trivial fun registered => ?_
    cases registered with
    | ok u =>
      refine holds_modifyState (fun key hkey _ => ?_) ?_
      · exact entry_of_servers hkey fun k hk => AList.lookup_insert_ne hk
      · refine holds_pure fun w hw => hw.ready_some rfl rfl rfl
          ((entry_server _ _).trans (entryAt_insert_self _ _)) ?_
        rw [ServiceProvider.spec, hservice]
        exact fieldsFit_refl service.spec
    | error e =>
      exact holds_quiet trivial fun _ =>
        .ret stable_here (fun _ hw => hw.shared) fun w hw => hw.shared.ready rfl

theorem holds_registerService (service : Service) (address : IpAddr) (callerId : String)
    (reply : ℕ) : shared.Holds (.registerService service address callerId reply)
      (shared.Here state none) (registerService service address callerId)
      fun r => shared.Ready (.registerService service address callerId reply) (.server r) := by
  apply holds_getState
  cases hlookup : state.servers.lookup service.name with
  | none =>
    exact holds_none ((entry_server _ _).trans (entryAt_of_lookup hlookup))
      (holds_createService service address callerId reply)
  | some entry =>
    have hentry : shared.entry state (.server service.name) = some (entry.1, entry.2.spec) :=
      (entry_server _ _).trans (entryAt_of_lookup hlookup)
    apply holds_upgrade hentry
    · simp only [if_true]
      split
      · rename_i hfits
        exact holds_pure fun w hw => hw.ready_some rfl rfl rfl hentry
          (ServiceSpec.validateCompatibility_iff.mp hfits)
      · exact holds_quiet trivial fun _ =>
          .ret stable_here (fun _ hw => hw.shared) fun w hw => hw.shared.ready rfl
    · simp only [Bool.false_eq_true, if_false]
      refine holds_modifyState (fun key hkey _ => ?_) ?_
      · exact entry_of_servers hkey fun k hk => AList.lookup_erase_ne hk
      · exact holds_createService service address callerId reply

theorem holds_unregisterService (serviceName : String) :
    shared.Holds (.dropService serviceName) (shared.Here state none)
      (unregisterService serviceName) fun _ => shared.Shared := by
  apply holds_getState
  split
  · refine holds_modifyState (fun key _ hkey => ?_) ?_
    · exact entry_of_servers hkey fun k hk => AList.lookup_erase_ne hk
    · refine holds_quiet trivial fun upgraded => ?_
      split
      · refine holds_quiet trivial fun _ => holds_quiet trivial fun _ => holds_quiet trivial fun _ => ?_
        exact holds_silent (silent_ofExcept _) (fun _ => holds_pure fun w hw => hw.shared)
          fun _ _ hw => hw.shared
      · refine holds_quiet trivial fun _ => ?_
        exact holds_silent (silent_ofExcept _) (fun _ => holds_pure fun w hw => hw.shared)
          fun _ _ hw => hw.shared
  · exact holds_pure fun w hw => hw.shared

theorem holds_handle (m : ServiceActorMsg) (state : ServiceActorState) :
    shared.Holds m (shared.Here state none) (handle m) fun _ => shared.Shared := by
  cases m with
  | registerClient service callerId persistent reply =>
    exact holds_reply (.attempt (holds_registerClient service callerId persistent reply))
  | dropClient serviceName =>
    refine holds_getState (holds_setState (f := pure) (fun key _ hkey => ?_) ?_)
    · exact entry_of_clients hkey fun k hk => AList.lookup_erase_ne hk
    · exact holds_pure fun w hw => hw.shared
  | getServices reply =>
    exact holds_reply (holds_getState (holds_pure fun w hw => hw.shared.ready rfl))
  | registerService service address callerId reply =>
    exact holds_reply (.attempt (holds_registerService service address callerId reply))
  | dropService serviceName =>
    refine .bind_except (.attempt (holds_unregisterService serviceName)) (fun _ => ?_)
      fun _ _ he => he
    exact .ret stable_shared (fun _ hw => hw) fun _ hw => hw

end ServiceActor

end RosrustAsync
