import RosrustAsync.HeaderRoundTrip
import RosrustAsync.Lib.Mirror
import RosrustAsync.SubscriberActor

namespace RosrustAsync.SubscriberActor

open Actor Prog

/-- What the master holds of the node's subscriptions, by the answers to the actor's calls. -/
def master : (c : SubscriberCall) → c.Ans → (AList fun _ : String => Unit) →
    AList fun _ : String => Unit
  | .registerSubscriber topicName _, answer, reg =>
    if answer.isOk then reg.insert topicName () else reg
  | .unregisterSubscriber topicName, answer, reg => if answer.isOk then reg.erase topicName else reg
  | _, _, reg => reg

/-- An unregistration does not fail unless it makes way for a new registration, and the registration
of a topic that is still registered does not fail. -/
def Kept (m : SubscriberActorMsg) : (c : SubscriberCall) → c.Ans →
    (AList fun _ : String => Unit) → Prop
  | .registerSubscriber topicName _, answer, reg => (reg.lookup topicName).isSome → answer.isOk
  | .unregisterSubscriber _, answer, _ => behaviour.registers m = none → answer.isOk
  | _, _, _ => True

def Succeeds : (c : SubscriberCall) → c.Ans → Prop
  | .registerSubscriber _ _, answer | .unregisterSubscriber _, answer => answer.isOk
  | _, _ => True

theorem kept_of_succeeds {m : SubscriberActorMsg} {c : SubscriberCall} {answer : c.Ans}
    {reg : AList fun _ : String => Unit} (h : Succeeds c answer) : Kept m c answer reg := by
  cases c with
  | registerSubscriber topicName topicType | unregisterSubscriber topicName => exact fun _ => h
  | _ => trivial

abbrev Mirrored (state : SubscriberActorState) (reg : AList fun _ : String => Unit) : Prop :=
  Mirrors (fun subscription => subscription.topic.name) (fun _ => ()) state.subscriptions reg

abbrev MirroredBut (topicName : String) (state : SubscriberActorState)
    (reg : AList fun _ : String => Unit) : Prop :=
  MirrorsBut (fun subscription => subscription.topic.name) (fun _ => ()) topicName
    state.subscriptions reg

variable {m : SubscriberActorMsg} {state : SubscriberActorState}
  {reg : AList fun _ : String => Unit}

theorem follows_newSubscription (topic : Topic) (callerId : String) (queueSize : ℕ)
    (tcpNodelay : Bool) : Follows behaviour master Kept m (Sees state reg [])
      (newSubscription topic callerId queueSize tcpNodelay)
      fun r => Holds fun state' reg' => state' = state ∧ reg' = reg ∧
        ∃ subscription, r = .ok subscription ∧ subscription.2.topic = topic := by
  refine carries_ofExcept (fun _ _ => ?_) fun x w hx => ?_
  · exact carries_channel fun dataTx => carries_pure fun w hw => hw.holds ⟨rfl, rfl, _, rfl, rfl⟩
  · rw [toBytes_eq] at hx
    cases hx

theorem leaves_addPublisherToSubscription (callerId topicName publisherAddr : String)
    (subscription : RegisteredSubscription) : Leaves behaviour master Kept m
      (addPublisherToSubscription callerId topicName publisherAddr subscription) := by
  refine leaves_bind ?_ fun channelAddr => ?_
  · refine leaves_call_bind (fun _ _ => rfl) fun _ => leaves_bind (leaves_ofExcept _) fun _ => ?_
    exact leaves_call_bind (fun _ _ => rfl) fun _ => leaves_bind (leaves_ofExcept _) fun _ =>
      leaves_pure _
  · cases channelAddr with
    | some channelAddr => exact leaves_call_bind (fun _ _ => rfl) fun _ => leaves_ofExcept _
    | none => exact leaves_pure _

theorem follows_addPublishers {ε : Type} (topicName : String)
    (subscription : RegisteredSubscription) (publishers : List String) :
    Follows (ε := ε) behaviour master Kept m (Sees state reg [])
      (addPublishers topicName subscription publishers)
      fun r => Holds fun state' reg' => state' = state ∧ reg' = reg ∧ r = .ok () := by
  induction publishers with
  | nil => exact carries_pure fun w hw => hw.holds ⟨rfl, rfl, rfl⟩
  | cons publisher publishers ih =>
    refine carries_bind (R := fun r state' reg' => state' = state ∧ reg' = reg ∧ r = .ok ())
      (carries_getState ?_) (fun _ state' reg' h => ?_) fun e w hw => nomatch hw.2.2
    · refine carries_attempt (leaves_addPublisherToSubscription _ _ _ _ _ _) fun _ state' reg' h => ?_
      exact carries_pure fun w hw => hw.holds ⟨h.1, h.2, rfl⟩
    · obtain ⟨rfl, rfl, -⟩ := h
      exact ih

theorem follows_cleanupSubscription (guard : ℕ) (subscription : RegisteredSubscription) :
    Follows behaviour master Kept m (Sees state reg []) (cleanupSubscription guard subscription)
      fun _ => Holds fun state' reg' => state' = state ∧
        (reg' = reg.erase subscription.topic.name ∨ reg' = reg ∧ behaviour.registers m ≠ none) := by
  refine carries_upgrade ?_ (carries_disarm (carries_release ?_))
  all_goals
    refine follows_call fun answer hfits => carries_ofExcept (fun _ hok => ?_) fun e w he hw => ?_
    · refine carries_pure fun w hw => hw.holds ⟨rfl, .inl ?_⟩
      simp [master, isOk_of_ok hok]
    · refine hw.holds ⟨rfl, .inr ⟨?_, fun hm => ?_⟩⟩
      · simp [master, isOk_of_error he]
      · have hok := hfits hm
        rw [isOk_of_error he] at hok
        cases hok

theorem follows_createSubscription (topic : Topic) (callerId : String) (queueSize : ℕ)
    (tcpNodelay : Bool) (h : MirroredBut topic.name state reg) : Follows behaviour master Kept m
      (Sees state reg []) (createSubscription topic callerId queueSize tcpNodelay)
      fun _ => Holds Mirrored := by
  refine carries_orThrow (follows_newSubscription _ _ _ _) (fun entry state' reg' hentry => ?_) ?_
  · obtain ⟨rfl, rfl, subscription, hsome, htopic⟩ := hentry
    cases hsome
    refine follows_call fun answer hfits => carries_ofExcept (fun publishers hok => ?_)
      fun e w he hw => ?_
    · refine carries_bind (follows_addPublishers _ _ _) (fun _ state reg hadded => ?_)
        fun e w hw => nomatch hw.2.2
      obtain ⟨rfl, rfl, -⟩ := hadded
      refine carries_newGuard fun guard => carries_modifyState (carries_pure fun w hw => hw.holds ?_)
      simp only [master, isOk_of_ok hok, if_true]
      exact h.register (show (guard, entry.2).2.topic.name = topic.name by rw [htopic])
    · refine hw.holds ?_
      simp only [master, isOk_of_error he, Bool.false_eq_true, if_false]
      exact h.mirrors (lookup_eq_none_of_error hfits he)
  · rintro e w ⟨-, -, subscription, hsome, -⟩
    cases hsome

theorem follows_registerSubscriber (topic : Topic) (callerId : String) (queueSize : ℕ)
    (tcpNodelay : Bool) (h : Mirrored state reg) : Follows behaviour master Kept m
      (Sees state reg []) (registerSubscriber topic callerId queueSize tcpNodelay)
      fun _ => Holds Mirrored := by
  apply carries_getState
  cases hlookup : state.subscriptions.lookup topic.name with
  | some entry =>
    refine carries_upgrade ?_ ?_
    · have hname : entry.2.topic.name = topic.name := h.named _ _ hlookup
      refine carries_modifyState (carries_forget (carries_attempt
        (follows_cleanupSubscription entry.1 entry.2) fun r state' reg' hcleanup => ?_))
      obtain ⟨rfl, hreg⟩ := hcleanup
      refine follows_createSubscription topic callerId queueSize tcpNodelay ?_
      rcases hreg with rfl | ⟨rfl, -⟩
      · rw [hname]
        exact (h.erase topic.name).unregister
      · exact h.erase topic.name
    · simp only [if_true]
      split
      · exact follows_call fun _ _ => carries_pure fun w hw => hw.holds h
      · exact carries_release (carries_throw fun w hw => hw.holds h)
  | none => exact follows_createSubscription topic callerId queueSize tcpNodelay (h.but hlookup)

theorem follows_unregisterSubscriber (topicName : String) (hm : behaviour.registers m = none)
    (h : Mirrored state reg) : Follows behaviour master Kept m (Sees state reg [])
      (unregisterSubscriber topicName) fun _ => Holds Mirrored := by
  apply carries_getState
  cases hlookup : state.subscriptions.lookup topicName with
  | some entry =>
    refine carries_modifyState ((follows_cleanupSubscription entry.1 entry.2).weaken
      (fun _ hw => hw) ?_)
    rintro r w ⟨hstate, hreg⟩
    unfold Holds
    rcases hreg with hreg | ⟨-, hregisters⟩
    · rw [hstate, hreg, h.named _ _ hlookup]
      exact (h.erase topicName).unregister.mirrors (AList.lookup_erase ..)
    · exact absurd hm hregisters
  | none => exact carries_pure fun w hw => hw.holds h

theorem follows_handle (h : Mirrored state reg) : Follows behaviour master Kept m
    (Sees state reg []) (handle m) fun _ => Holds Mirrored := by
  cases m with
  | getSubscriptions reply =>
    exact carries_reply (carries_getState (carries_pure fun w hw => hw.holds h))
  | getConnectedPublisherUrls topicName reply =>
    refine carries_reply (carries_getState ?_)
    split
    · exact follows_call fun _ _ => carries_pure fun w hw => hw.holds h
    · exact carries_pure fun w hw => hw.holds h
  | registerSubscriber topic callerId queueSize tcpNodelay reply =>
    exact carries_reply (carries_attempted
      (follows_registerSubscriber topic callerId queueSize tcpNodelay h))
  | unregisterSubscriber topicName reply =>
    exact carries_reply (carries_attempted (follows_unregisterSubscriber topicName rfl h))
  | dropSubscriber topicName =>
    exact carries_attempt (follows_unregisterSubscriber topicName rfl h)
      fun _ _ _ h => carries_pure fun w hw => hw.holds h
  | updateConnectedPublishers topicName publishers =>
    apply carries_getState
    split
    · refine follows_call fun connected _ => (follows_addPublishers _ _ _).weaken
        (fun _ hw => hw) fun r w hw => ?_
      unfold Holds at hw ⊢
      rw [hw.1, hw.2.1]
      exact h
    · exact carries_pure fun w hw => hw.holds h

theorem run_kept {s labels c} (h : Runs.Run (watched behaviour master).step
    (Process.Ok Anyhow (Answers fun _ c answer _ => Succeeds c answer)) s labels c) :
    Runs.Run (watched behaviour master).step (Process.Ok Anyhow (Answers Kept)) s labels c :=
  h.mono fun _ _ => ok_mono fun _ _ _ _ => kept_of_succeeds

theorem mirrored_idle {nodeName : String} {labels c} (h : Runs.Run (watched behaviour master).step
    (Process.Ok Anyhow (Answers Kept)) ⟨(.init ⟨nodeName, ∅⟩, ∅), .idle⟩ labels c) (hidle : c.pc = .idle) :
    Mirrored c.world.1.state c.world.2 :=
  watched_holds (P := Mirrored) mirrors_empty (fun _ _ _ h => follows_handle h) h hidle

end RosrustAsync.SubscriberActor
