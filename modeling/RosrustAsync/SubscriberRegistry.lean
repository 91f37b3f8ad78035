import RosrustAsync.Lib.GuardRules
import RosrustAsync.SubscriberActor

namespace RosrustAsync

open Actor Prog

namespace SubscriberActor

def registry : Registry SubscriberActorState String SubscriberReply SubscriberCall
    SubscriberActorMsg SubscriberCall.Ans where
  toBehaviour := behaviour
  entry state := guardAt state.subscriptions
  drops
    | .dropSubscriber topicName => some topicName
    | _ => none
  client
    | .unregisterSubscriber _ _ | .dropSubscriber _ => False
    | _ => True
  succeeds _ _ := True
  drops_client m hm := by
    cases m with
    | dropSubscriber topicName => exact hm.elim
    | _ => rfl
  drops_dropMsg _ := rfl

variable {m : SubscriberActorMsg} {state : SubscriberActorState} {guards : List String}

theorem keeps_newSubscription (topic : Topic) (callerId : String) (queueSize : ℕ)
    (tcpNodelay : Bool) : Keeps registry m (newSubscription topic callerId queueSize tcpNodelay) :=
  keeps_bind (keeps_ofExcept _) fun _ => keeps_channel_bind fun _ => keeps_pure _

theorem keeps_addPublisherToSubscription (callerId topicName publisherAddr : String)
    (subscription : RegisteredSubscription) : Keeps registry m
      (addPublisherToSubscription callerId topicName publisherAddr subscription) := by
  refine keeps_bind ?_ fun channelAddr => ?_
  · exact keeps_call_bind fun _ => keeps_bind (keeps_ofExcept _) fun _ => keeps_call_bind fun _ =>
      keeps_bind (keeps_ofExcept _) fun _ => keeps_pure _
  · cases channelAddr with
    | some channelAddr => exact keeps_call_bind fun _ => keeps_ofExcept _
    | none => exact keeps_pure _

theorem does_addPublishers {ε : Type} (topicName : String) (subscription : RegisteredSubscription)
    (publishers : List String) :
    Does (ε := ε) registry m (At registry state guards [] none none)
      (addPublishers topicName subscription publishers)
      (Outcome (fun _ => At registry state guards [] none none) fun _ _ => False) := by
  induction publishers with
  | nil => exact .ret stable_at fun w hw => hw
  | cons publisher publishers ih =>
    refine .bind_except (does_getState ?_) (fun _ => ih) fun _ _ he => he
    exact .bind_except (.attempt (keeps_addPublisherToSubscription _ _ _ _ _ _ _ _ _))
      (fun _ => .ret stable_at fun w hw => hw) fun _ _ he => he

theorem does_createSubscription (topic : Topic) (callerId : String) (queueSize : ℕ)
    (tcpNodelay : Bool) (reply : ℕ) (hentry : registry.entry state topic.name = none) :
    Does registry (.registerSubscriber topic callerId queueSize tcpNodelay reply)
      (At registry state guards [] none none)
      (createSubscription topic callerId queueSize tcpNodelay)
      fun r => Ready registry (.registerSubscriber topic callerId queueSize tcpNodelay reply)
        (.registered r) := by
  refine does_keeps (keeps_orThrow (keeps_newSubscription _ _ _ _)) (fun x => ?_)
    fun e w hw => hw.ready_none rfl
  refine does_call fun a _ => does_keeps (keeps_ofExcept _) (fun existingPublishers => ?_)
    fun e w hw => hw.ready_none rfl
  refine .bind_except (does_addPublishers _ _ existingPublishers) (fun _ => ?_)
    fun _ _ he => he.elim
  have hguard : (guards ++ [topic.name])[guards.length]? = some topic.name := by simp
  exact does_newGuard hentry (does_register topic.name hguard (by simp)
    (fun k => guardAt_insert ..)
    (.ret stable_at fun w hw => hw.ready_some topic.name rfl rfl hguard))

theorem does_registerSubscriber (topic : Topic) (callerId : String) (queueSize : ℕ)
    (tcpNodelay : Bool) (reply : ℕ) :
    Does registry (.registerSubscriber topic callerId queueSize tcpNodelay reply)
      (At registry state guards [] none none)
      (registerSubscriber topic callerId queueSize tcpNodelay)
      fun r => Ready registry (.registerSubscriber topic callerId queueSize tcpNodelay reply)
        (.registered r) := by
  apply does_getState
  cases hlookup : state.subscriptions.lookup topic.name with
  | some entry =>
    apply does_upgrade rfl (guardAt_of_some hlookup)
    intro hkey
    simp only [if_true]
    split
    · exact does_call fun a _ =>
        .ret stable_at fun w hw => hw.ready_some topic.name rfl rfl hkey
    · exact does_release (.ret stable_at fun w hw => hw.ready_none rfl)
  | none =>
    exact does_createSubscription topic callerId queueSize tcpNodelay reply
      (guardAt_of_none hlookup)

theorem does_unregisterSubscriber (topicName : String) :
    Does registry (.dropSubscriber topicName) (At registry state guards [] (some topicName) none)
      (unregisterSubscriber topicName) fun _ => Idle registry := by
  apply does_getState
  cases hlookup : state.subscriptions.lookup topicName with
  | some entry =>
    have hentry : ∀ k, registry.entry
        { state with subscriptions := state.subscriptions.erase topicName } k =
        if k = topicName then none else registry.entry state k := fun k => guardAt_erase ..
    apply does_unregister topicName (guardAt_of_some hlookup) hentry
    intro hkey
    apply does_upgrade_dead hkey ((hentry topicName).trans (if_pos rfl))
    simp only [Bool.false_eq_true, if_false]
    exact does_call fun a _ => does_keeps (keeps_ofExcept _)
      (fun _ => .ret stable_at fun w hw => hw.idle) fun e w hw => hw.idle
  | none => exact does_drop_none (guardAt_of_none hlookup)

theorem does_updateConnectedPublishers (topicName : String) (publishers : List String) :
    Does (ε := MessagingErr) registry m (At registry state guards [] none none)
      (updateConnectedPublishers topicName publishers)
      (Outcome (fun _ => Idle registry) fun _ _ => False) := by
  apply does_getState
  split
  · refine does_call fun connected _ => .weaken (does_addPublishers _ _ _) (fun _ hw => hw) ?_
    rintro (e | u) w hw
    · exact hw
    · exact hw.idle
  · exact .ret stable_at fun w hw => hw.idle

theorem does_handle (hm : registry.client m ∨ (registry.drops m).isSome) :
    Does registry m (At registry state guards [] (registry.drops m) none) (handle m)
      (Outcome (fun _ => Idle registry) fun _ _ => False) := by
  cases m with
  | getSubscriptions reply =>
    exact does_reply (does_getState (.ret stable_at fun w hw => hw.ready_none rfl))
  | getConnectedPublisherUrls topicName reply =>
    refine does_reply (does_getState ?_)
    split
    · exact does_call fun a _ => .ret stable_at fun w hw => hw.ready_none rfl
    · exact .ret stable_at fun w hw => hw.ready_none rfl
  | registerSubscriber topic callerId queueSize tcpNodelay reply =>
    exact does_reply (.attempt
      (does_registerSubscriber topic callerId queueSize tcpNodelay reply))
  | unregisterSubscriber topicName reply => rcases hm with hm | hm <;> cases hm
  | dropSubscriber topicName =>
    exact .bind_except (.attempt (does_unregisterSubscriber topicName))
      (fun _ => .ret stable_idle fun w hw => hw) fun _ _ he => he
  | updateConnectedPublishers topicName publishers =>
    exact does_updateConnectedPublishers topicName publishers

end SubscriberActor

end RosrustAsync
