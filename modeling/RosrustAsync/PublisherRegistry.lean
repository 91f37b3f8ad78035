import RosrustAsync.Lib.GuardRules
import RosrustAsync.PublisherActor

namespace RosrustAsync

open Actor Prog

namespace PublisherActor

def registry : Registry PublisherActorState String PublisherReply PublisherCall PublisherActorMsg
    PublisherCall.Ans where
  toBehaviour := behaviour
  entry state := guardAt state.publications
  drops
    | .dropPublisher topicName => some topicName
    | _ => none
  client
    | .unregisterPublisher _ _ | .dropPublisher _ => False
    | _ => True
  succeeds _ _ := True
  drops_client m hm := by
    cases m with
    | dropPublisher topicName => exact hm.elim
    | _ => rfl
  drops_dropMsg _ := rfl

variable {m : PublisherActorMsg} {state : PublisherActorState} {guards : List String}

theorem keeps_newPublication (address : SocketAddr) (topic : Topic) (callerId : String)
    (queueSize : ℕ) (tcpNodelay latching : Bool) : Keeps registry m
      (newPublication address topic callerId queueSize tcpNodelay latching) :=
  keeps_call_bind fun _ => keeps_bind (keeps_ofExcept _) fun _ =>
    keeps_bind (keeps_ofExcept _) fun _ => keeps_channel_bind fun _ => keeps_pure _

theorem does_createPublication (topic : Topic) (address : IpAddr) (callerId : String)
    (queueSize : ℕ) (latching tcpNodelay : Bool) (reply : ℕ)
    (hentry : registry.entry state topic.name = none) :
    Does registry (.registerPublisher topic address callerId queueSize latching tcpNodelay reply)
      (At registry state guards [] none none)
      (createPublication topic address callerId queueSize latching tcpNodelay)
      fun r => Ready registry
        (.registerPublisher topic address callerId queueSize latching tcpNodelay reply)
        (.registered r) := by
  refine does_keeps (keeps_orThrow (keeps_newPublication _ _ _ _ _ _)) (fun x => ?_)
    fun e w hw => hw.ready_none rfl
  refine does_call fun a _ => does_keeps (keeps_ofExcept _) (fun _ => ?_)
    fun e w hw => hw.ready_none rfl
  have hguard : (guards ++ [topic.name])[guards.length]? = some topic.name := by simp
  exact does_newGuard hentry (does_register topic.name hguard (by simp)
    (fun k => guardAt_insert ..)
    (.ret stable_at fun w hw => hw.ready_some topic.name rfl rfl hguard))

theorem does_registerPublisher (topic : Topic) (address : IpAddr) (callerId : String)
    (queueSize : ℕ) (latching tcpNodelay : Bool) (reply : ℕ) :
    Does registry (.registerPublisher topic address callerId queueSize latching tcpNodelay reply)
      (At registry state guards [] none none)
      (registerPublisher topic address callerId queueSize latching tcpNodelay)
      fun r => Ready registry
        (.registerPublisher topic address callerId queueSize latching tcpNodelay reply)
        (.registered r) := by
  apply does_getState
  cases hlookup : state.publications.lookup topic.name with
  | some entry =>
    apply does_upgrade rfl (guardAt_of_some hlookup)
    intro hkey
    simp only [if_true]
    split
    · exact .ret stable_at fun w hw => hw.ready_some topic.name rfl rfl hkey
    · exact does_release (.ret stable_at fun w hw => hw.ready_none rfl)
  | none =>
    exact does_createPublication topic address callerId queueSize latching tcpNodelay reply
      (guardAt_of_none hlookup)

theorem does_unregisterPublisher (topicName : String) :
    Does registry (.dropPublisher topicName) (At registry state guards [] (some topicName) none)
      (unregisterPublisher topicName) fun _ => Idle registry := by
  apply does_getState
  cases hlookup : state.publications.lookup topicName with
  | some entry =>
    have hentry : ∀ k, registry.entry
        { state with publications := state.publications.erase topicName } k =
        if k = topicName then none else registry.entry state k := fun k => guardAt_erase ..
    apply does_unregister topicName (guardAt_of_some hlookup) hentry
    intro hkey
    apply does_upgrade_dead hkey ((hentry topicName).trans (if_pos rfl))
    simp only [Bool.false_eq_true, if_false]
    exact does_call fun a _ => does_keeps (keeps_ofExcept _)
      (fun _ => .ret stable_at fun w hw => hw.idle) fun e w hw => hw.idle
  | none => exact does_drop_none (guardAt_of_none hlookup)

theorem does_handle (hm : registry.client m ∨ (registry.drops m).isSome) :
    Does registry m (At registry state guards [] (registry.drops m) none) (handle m)
      (Outcome (fun _ => Idle registry) fun _ _ => False) := by
  cases m with
  | getPublications reply | getPublisherAddress topicName reply =>
    exact does_reply (does_getState (.ret stable_at fun w hw => hw.ready_none rfl))
  | getConnectedSubscriberIds topicName reply =>
    refine does_reply (does_getState ?_)
    split
    · exact does_call fun a _ => .ret stable_at fun w hw => hw.ready_none rfl
    · exact .ret stable_at fun w hw => hw.ready_none rfl
  | registerPublisher topic address callerId queueSize latching tcpNodelay reply =>
    exact does_reply (.attempt
      (does_registerPublisher topic address callerId queueSize latching tcpNodelay reply))
  | unregisterPublisher topicName reply => rcases hm with hm | hm <;> cases hm
  | dropPublisher topicName =>
    exact .bind_except (.attempt (does_unregisterPublisher topicName))
      (fun _ => .ret stable_idle fun w hw => hw) fun _ _ he => he

end PublisherActor

end RosrustAsync
