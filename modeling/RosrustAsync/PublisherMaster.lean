import RosrustAsync.HeaderRoundTrip
import RosrustAsync.Lib.Mirror
import RosrustAsync.PublisherActor

namespace RosrustAsync.PublisherActor

open Actor Prog

/-- What the master holds of the node's publications, by the answers to the actor's calls. -/
def master : (c : PublisherCall) → c.Ans → (AList fun _ : String => Unit) → AList fun _ : String => Unit
  | .registerPublisher topicName _, answer, reg =>
    if answer.isOk then reg.insert topicName () else reg
  | .unregisterPublisher topicName, answer, reg => if answer.isOk then reg.erase topicName else reg
  | _, _, reg => reg

/-- An unregistration does not fail unless it makes way for a new registration, and the registration
of a topic that is still registered does not fail. -/
def Kept (m : PublisherActorMsg) : (c : PublisherCall) → c.Ans → (AList fun _ : String => Unit) → Prop
  | .bind _, answer, reg => ∀ topicName, behaviour.registers m = some topicName →
      (reg.lookup topicName).isSome → answer.isOk
  | .registerPublisher topicName _, answer, reg => (reg.lookup topicName).isSome → answer.isOk
  | .unregisterPublisher _, answer, _ => behaviour.registers m = none → answer.isOk
  | _, _, _ => True

def Succeeds : (c : PublisherCall) → c.Ans → Prop
  | .bind _, answer | .registerPublisher _ _, answer | .unregisterPublisher _, answer => answer.isOk
  | .subscriberIds _, _ => True

theorem kept_of_succeeds {m : PublisherActorMsg} {c : PublisherCall} {answer : c.Ans}
    {reg : AList fun _ : String => Unit} (h : Succeeds c answer) : Kept m c answer reg := by
  cases c with
  | bind address => exact fun _ _ _ => h
  | subscriberIds dataTx => trivial
  | registerPublisher topicName topicType | unregisterPublisher topicName => exact fun _ => h

abbrev Mirrored (state : PublisherActorState) (reg : AList fun _ : String => Unit) : Prop :=
  Mirrors (fun publication => publication.topic.name) (fun _ => ()) state.publications reg

abbrev MirroredBut (topicName : String) (state : PublisherActorState)
    (reg : AList fun _ : String => Unit) : Prop :=
  MirrorsBut (fun publication => publication.topic.name) (fun _ => ()) topicName state.publications
    reg

variable {m : PublisherActorMsg} {state : PublisherActorState} {reg : AList fun _ : String => Unit}

theorem follows_newPublication (address : SocketAddr) (topic : Topic) (callerId : String)
    (queueSize : ℕ) (tcpNodelay latching : Bool) : Follows behaviour master Kept m
      (Sees state reg []) (newPublication address topic callerId queueSize tcpNodelay latching)
      fun r => Holds fun state' reg' => state' = state ∧ reg' = reg ∧ match r with
        | .ok publication => publication.2.topic = topic
        | .error _ => ∀ topicName, behaviour.registers m = some topicName →
            reg.lookup topicName = none := by
  refine follows_call fun answer hfits => carries_ofExcept (fun boundAddr hok => ?_) ?_
  · refine carries_ofExcept (fun _ _ => ?_) fun x w hx => ?_
    · exact carries_channel fun dataTx => carries_pure fun w hw => hw.holds ⟨rfl, rfl, rfl⟩
    · rw [toBytes_eq] at hx
      cases hx
  · intro e w he hw
    exact hw.holds ⟨rfl, rfl, fun n hm => lookup_eq_none_of_error (hfits n hm) he⟩

theorem follows_cleanupPublication (guard : ℕ) (publication : RegisteredPublication) :
    Follows behaviour master Kept m (Sees state reg []) (cleanupPublication guard publication)
      fun _ => Holds fun state' reg' => state' = state ∧
        (reg' = reg.erase publication.topic.name ∨ reg' = reg ∧ behaviour.registers m ≠ none) := by
  refine carries_upgrade ?_ (carries_disarm (carries_release ?_))
  all_goals
    refine follows_call fun answer hfits => carries_ofExcept (fun _ hok => ?_) fun e w he hw => ?_
    · refine carries_pure fun w hw => hw.holds ⟨rfl, .inl ?_⟩
      simp [master, isOk_of_ok hok]
    · refine hw.holds ⟨rfl, .inr ⟨?_, fun hm => ?_⟩⟩
      · simp [master, isOk_of_error he]
      · have hok := hfits hm
        rw [isOk_of_error he] at hok
        cases hok

theorem follows_createPublication (topic : Topic) (address : IpAddr) (callerId : String)
    (queueSize : ℕ) (latching tcpNodelay : Bool) (hm : behaviour.registers m = some topic.name)
    (h : MirroredBut topic.name state reg) : Follows behaviour master Kept m
      (Sees state reg []) (createPublication topic address callerId queueSize latching tcpNodelay)
      fun _ => Holds Mirrored := by
  refine carries_orThrow (follows_newPublication _ _ _ _ _ _) (fun entry state' reg' hentry => ?_) ?_
  · obtain ⟨rfl, rfl, htopic⟩ := hentry
    refine follows_call fun answer hfits => carries_ofExcept (fun _ hok => ?_) fun e w he hw => ?_
    · refine carries_newGuard fun guard => carries_modifyState (carries_pure fun w hw => hw.holds ?_)
      simp only [master, isOk_of_ok hok, if_true]
      exact h.register (show (guard, entry.2).2.topic.name = topic.name by rw [htopic])
    · refine hw.holds ?_
      simp only [master, isOk_of_error he, Bool.false_eq_true, if_false]
      exact h.mirrors (lookup_eq_none_of_error hfits he)
  · rintro e w ⟨hstate, hreg, hnone⟩
    unfold Holds
    rw [hstate, hreg]
    exact h.mirrors (hnone _ hm)

theorem follows_registerPublisher (topic : Topic) (address : IpAddr) (callerId : String)
    (queueSize : ℕ) (latching tcpNodelay : Bool) (hm : behaviour.registers m = some topic.name)
    (h : Mirrored state reg) : Follows behaviour master Kept m (Sees state reg [])
      (registerPublisher topic address callerId queueSize latching tcpNodelay)
      fun _ => Holds Mirrored := by
  apply carries_getState
  cases hlookup : state.publications.lookup topic.name with
  | some entry =>
    refine carries_upgrade ?_ ?_
    · simp only [Bool.false_eq_true, if_false]
      have hname : entry.2.topic.name = topic.name := h.named _ _ hlookup
      refine carries_modifyState (carries_forget (carries_attempt
        (follows_cleanupPublication entry.1 entry.2) fun r state' reg' hcleanup => ?_))
      obtain ⟨rfl, hreg⟩ := hcleanup
      refine follows_createPublication topic address callerId queueSize latching tcpNodelay hm ?_
      rcases hreg with rfl | ⟨rfl, -⟩
      · rw [hname]
        exact (h.erase topic.name).unregister
      · exact h.erase topic.name
    · simp only [if_true]
      split
      · exact carries_pure fun w hw => hw.holds h
      · exact carries_release (carries_throw fun w hw => hw.holds h)
  | none => exact follows_createPublication _ _ _ _ _ _ hm (h.but hlookup)

theorem follows_unregisterPublisher (topicName : String) (hm : behaviour.registers m = none)
    (h : Mirrored state reg) : Follows behaviour master Kept m (Sees state reg [])
      (unregisterPublisher topicName) fun _ => Holds Mirrored := by
  apply carries_getState
  cases hlookup : state.publications.lookup topicName with
  | some entry =>
    refine carries_modifyState ((follows_cleanupPublication entry.1 entry.2).weaken (fun _ hw => hw) ?_)
    rintro r w ⟨hstate, hreg⟩
    unfold Holds
    rcases hreg with hreg | ⟨-, hregisters⟩
    · rw [hstate, hreg, h.named _ _ hlookup]
      exact (h.erase topicName).unregister.mirrors (AList.lookup_erase ..)
    · exact absurd hm hregisters
  | none => exact carries_pure fun w hw => hw.holds h

theorem follows_handle (h : Mirrored state reg) : Follows behaviour master Kept m
    (Sees state reg []) (handle m) fun _ => Holds Mirrored := by
  cases m with
  | getPublications reply | getPublisherAddress topicName reply =>
    exact carries_reply (carries_getState (carries_pure fun w hw => hw.holds h))
  | getConnectedSubscriberIds topicName reply =>
    refine carries_reply (carries_getState ?_)
    split
    · exact follows_call fun _ _ => carries_pure fun w hw => hw.holds h
    · exact carries_pure fun w hw => hw.holds h
  | registerPublisher topic address callerId queueSize latching tcpNodelay reply =>
    exact carries_reply (carries_attempted (follows_registerPublisher topic address callerId
      queueSize latching tcpNodelay rfl h))
  | unregisterPublisher topicName reply =>
    exact carries_reply (carries_attempted (follows_unregisterPublisher topicName rfl h))
  | dropPublisher topicName =>
    exact carries_attempt (follows_unregisterPublisher topicName rfl h)
      fun _ _ _ h => carries_pure fun w hw => hw.holds h

theorem run_kept {s labels c} (h : Runs.Run (watched behaviour master).step
    (Process.Ok Anyhow (Answers fun _ c answer _ => Succeeds c answer)) s labels c) :
    Runs.Run (watched behaviour master).step (Process.Ok Anyhow (Answers Kept)) s labels c :=
  h.mono fun _ _ => ok_mono fun _ _ _ _ => kept_of_succeeds

theorem mirrored_idle {labels c} (h : Runs.Run (watched behaviour master).step
    (Process.Ok Anyhow (Answers Kept)) ⟨(.init ⟨∅⟩, ∅), .idle⟩ labels c) (hidle : c.pc = .idle) :
    Mirrored c.world.1.state c.world.2 :=
  watched_holds (P := Mirrored) mirrors_empty (fun _ _ _ h => follows_handle h) h hidle

end RosrustAsync.PublisherActor
