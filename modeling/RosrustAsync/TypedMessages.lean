import RosrustAsync.SubscriberCallbackRuns

namespace RosrustAsync

open Runs

/-! What a typed publisher sends and the callback of a typed subscriber is called with. -/

namespace PubSub

variable {T : Type}

/-- The publishers of the topic send messages of type `T`. -/
def Typed (M : Message T) (_ : PubSub) : Label → Prop
  | .pub (.send b) => ∃ msg, M.encodeVec msg = .ok b
  | _ => True

theorem Typed.framed {M : Message T} {s : PubSub} {label : Label} (h : Typed M s label) :
    s.Framed label := by
  unfold Framed
  split
  · obtain ⟨msg, hmsg⟩ := h
    exact M.isFrame_encodeVec hmsg
  · trivial

theorem mem_sent {s t : PubSub} {label : Label} {b : Bytes} (hs : s.step label = some t)
    (hb : b ∈ t.publication.data.sent) :
    b ∈ s.publication.data.sent ∨ label = .pub (.send b) := by
  cases label with
  | pub label =>
    simp only [step] at hs
    split at hs
    · cases hs
    · obtain ⟨p, hp, hs⟩ := Option.bind_eq_some_iff.mp hs
      cases hs
      exact ((Publication.step_move hp).mem_sent hb).imp_right (congrArg _)
  | sub label =>
    simp only [step] at hs
    split at hs
    · cases hs
    · obtain ⟨q, -, hs⟩ := Option.bind_eq_some_iff.mp hs
      cases hs
      exact .inl hb
  | greet setNodelay =>
    simp only [step] at hs
    split at hs
    · obtain ⟨p, hp, hs⟩ := Option.bind_eq_some_iff.mp hs
      split at hs <;> cases hs
      exact ((Publication.step_move hp).mem_sent hb).imp_right (fun h => by cases h)
    · cases hs
  | join =>
    simp only [step] at hs
    split at hs
    · obtain ⟨q, -, hs⟩ := Option.bind_eq_some_iff.mp hs
      split at hs <;> cases hs
      exact .inl hb
    · cases hs
  | write result torn =>
    obtain ⟨link, -, hs⟩ := Option.bind_eq_some_iff.mp hs
    obtain ⟨task, -, hs⟩ := Option.bind_eq_some_iff.mp hs
    obtain ⟨p, hp, hs⟩ := Option.bind_eq_some_iff.mp hs
    cases hs
    rcases (Publication.step_move hp).mem_sent hb with hb | hlabel
    · exact .inl hb
    · unfold writeLabel at hlabel
      split at hlabel <;> cases hlabel
  | read =>
    obtain ⟨link, -, hs⟩ := Option.bind_eq_some_iff.mp hs
    obtain ⟨i, -, hs⟩ := Option.bind_eq_some_iff.mp hs
    split at hs
    · obtain ⟨q, -, hs⟩ := Option.bind_eq_some_iff.mp hs
      cases hs
      exact .inl hb
    · cases hs
  | readError e =>
    obtain ⟨link, -, hs⟩ := Option.bind_eq_some_iff.mp hs
    obtain ⟨i, -, hs⟩ := Option.bind_eq_some_iff.mp hs
    obtain ⟨q, -, hs⟩ := Option.bind_eq_some_iff.mp hs
    cases hs
    exact .inl hb

structure TypedInvariant (M : Message T) (s : PubSub) : Prop where
  invariant : s.Invariant
  typed : ∀ b ∈ s.publication.data.sent, ∃ msg, M.encodeVec msg = .ok b

theorem step_typed {M : Message T} {s t : PubSub} {label : Label} (h : s.TypedInvariant M)
    (hok : Typed M s label) (hs : s.step label = some t) : t.TypedInvariant M := by
  refine ⟨step_invariant h.invariant hok.framed hs, fun b hb => ?_⟩
  rcases mem_sent hs hb with hb | rfl
  · exact h.typed b hb
  · exact hok

end PubSub

namespace SubscriberCallback

variable {T : Type} {M : Message T} {s t : SubscriberCallback T}

def Typed (M : Message T) (s : SubscriberCallback T) : Label → Prop
  | .system label => PubSub.Typed M s.system label
  | _ => True

theorem step_system {label : Label} (h : s.system.TypedInvariant M) (hok : s.Typed M label)
    (hs : s.step M label = some t) : t.system.TypedInvariant M := by
  refine step_kept (fun _ _ _ => PubSub.step_typed) (fun _ _ => trivial) (fun _ _ => trivial)
    (fun l hl => ?_) h hs
  cases hl
  exact hok

/-- The calls whose messages came from one task. -/
def callsOf (i : ℕ) (called : List (ℕ × T)) : List T :=
  (called.filter (·.1 == i)).map Prod.snd

theorem message_ok {frame : Frame} {call : ℕ × T} (h : message M frame = .ok call) :
    call.1 = frame.task ∧ M.decode? frame.data = some call.2 := by
  unfold message at h
  cases hdecode : M.decodeSlice frame.data with
  | error e =>
    rw [hdecode] at h
    cases h
  | ok msg =>
    rw [hdecode] at h
    cases h
    exact ⟨rfl, by rw [Message.decode?, hdecode]; rfl⟩

theorem message_error {frame : Frame} {e : IoError} (h : message M frame = .error e) :
    M.decode? frame.data = none := by
  unfold message at h
  cases hdecode : M.decodeSlice frame.data with
  | error e' => rw [Message.decode?, hdecode]; rfl
  | ok msg =>
    rw [hdecode] at h
    cases h

/-- The calls of a task are what its messages decode to. -/
theorem callsOf_eq {pc : CallbackPc} {got : List Frame} {called : List (ℕ × T)} (i : ℕ)
    (h : got.map (message M) = called.map .ok ++ CallbackPc.failure pc) :
    callsOf i called = ((framesOf i got).map Frame.data).filterMap M.decode? := by
  induction called generalizing got with
  | nil =>
    have hnone : ∀ frame ∈ got, M.decode? frame.data = none := by
      intro frame hf
      have hmem : message M frame ∈ CallbackPc.failure pc := by
        rw [List.map_nil, List.nil_append] at h
        exact h ▸ List.mem_map_of_mem hf
      unfold CallbackPc.failure at hmem
      split at hmem
      · exact message_error (List.mem_singleton.mp hmem)
      · cases hmem
    symm
    rw [callsOf, List.filter_nil, List.map_nil, List.filterMap_eq_nil_iff]
    intro b hb
    obtain ⟨frame, hf, rfl⟩ := List.mem_map.mp hb
    exact hnone frame (List.mem_filter.mp hf).1
  | cons call called ih =>
    cases got with
    | nil => cases h
    | cons frame got =>
      obtain ⟨hmessage, hrest⟩ := List.cons.inj h
      obtain ⟨htask, hdecode⟩ := message_ok hmessage
      have ih := ih hrest
      by_cases hi : frame.task = i
      · rw [framesOf, List.filter_cons_of_pos (by simpa using hi), List.map_cons,
          List.filterMap_cons_some hdecode, callsOf,
          List.filter_cons_of_pos (by simpa [htask] using hi), List.map_cons]
        exact congrArg _ ih
      · rw [framesOf, List.filter_cons_of_neg (by simpa using hi), callsOf,
          List.filter_cons_of_neg (by simpa [htask] using hi)]
        exact ih

theorem typed_messages_delivered {topic topic' : Topic} {callerId callerId' : String}
    {queueSize queueSize' : ℕ} {tcpNodelay tcpNodelay' latching : Bool} {p : Publication}
    {u : Subscription} {system : PubSub} {before : List PubSub.Label} {subscriber : ℕ}
    {origin : SubscriberHandle} {labels : List Label}
    (hp : Publication.new topic callerId queueSize tcpNodelay latching = some p)
    (hu : Subscription.new topic' callerId' queueSize' tcpNodelay' = some u)
    (hbefore : Run PubSub.step (PubSub.Typed M) (PubSub.ofPubSub p u) before system)
    (hi : system.subscription.handles[subscriber]? = some origin)
    (hfresh : Fresh system.subscription.data origin)
    (hrun : Run (step M) (Typed M) (spawn system subscriber) labels t)
    {link : Link} (hlink : t.system.link = some link) {i : ℕ}
    (htask : link.subscriberTask = some i) :
    ∃ published, M.Encodes published t.system.publication.data.sent ∧
      (callsOf i t.called).Sublist published ∧
      (∀ handle frame, t.system.subscription.handles[t.subscriber]? = some handle →
        frame ∈ handle.got → frame.task = i → ∃ call, message M frame = .ok call) ∧
      ∀ handle task, t.system.subscription.handles[t.subscriber]? = some handle →
        t.subscriber < link.handles → t.system.Drained link task handle →
          published.drop task.joined <:+ callsOf i t.called := by
  have hsystem : t.system.TypedInvariant M := by
    have hstart : system.TypedInvariant M := hbefore.invariant (fun _ _ _ h => PubSub.step_typed h)
      ⟨PubSub.ofPubSub_invariant hp hu, fun b hb => by
        obtain ⟨data, hdata, h⟩ := Option.bind_eq_some_iff.mp hp
        obtain ⟨-, hsent, -⟩ := Broadcast.channel_eq_some hdata
        cases h
        simp [PubSub.ofPubSub, hsent] at hb⟩
    exact hrun.invariant (I := fun s => s.system.TypedInvariant M)
      (fun _ _ _ h => step_system h) hstart
  obtain ⟨handle, h⟩ : ∃ handle, t.Consumes M origin handle := by
    refine hrun.invariant (I := fun s => ∃ handle, s.Consumes M origin handle)
      (fun _ _ _ h _ hs => ?_) ⟨origin, spawn_consumes hi hfresh⟩
    obtain ⟨handle, h⟩ := h
    exact step_consumes h hs
  obtain ⟨published, hpublished⟩ := Message.exists_encodes hsystem.typed
  have hsublist := hsystem.invariant.sublist hlink htask (List.mem_of_getElem? h.subscriber)
  refine ⟨published, hpublished, ?_, fun handle' frame hh hf hframe => ?_,
    fun handle' task hh hn hd => ?_⟩
  · rw [callsOf_eq i h.calls, ← hpublished.filterMap]
    exact hsublist.filterMap _
  · rw [h.subscriber] at hh
    cases hh
    have hmem : frame ∈ framesOf i handle.got := List.mem_filter.mpr ⟨hf, by simpa using hframe⟩
    obtain ⟨msg, hmsg⟩ := hsystem.typed _ (hsublist.subset (List.mem_map_of_mem hmem))
    exact ⟨(frame.task, msg), by rw [message, M.decodeSlice_encodeVec hmsg]; rfl⟩
  · rw [h.subscriber] at hh
    cases hh
    have hsuffix := hsystem.invariant.complete hlink htask hn h.subscriber hd
    rw [callsOf_eq i h.calls, ← (hpublished.drop task.joined).filterMap]
    exact hsuffix.filterMap _

theorem typed_messages_delivered_two : ∃ (t : SubscriberCallback UInt8) (published : List UInt8),
    t.called = [(0, 1), (0, 2)] ∧ byteMessage.Encodes published t.system.publication.data.sent ∧
      (callsOf 0 t.called).Sublist published ∧ published.drop 1 <:+ callsOf 0 t.called := by
  obtain ⟨t, hrun, hcalled, link, task, handle, hlink, htask, hn, hh, hd, hjoined⟩ :
      ∃ t, Run (step byteMessage) (Typed byteMessage)
        (spawn (PubSub.ofPubSub PubSub.scanPublication PubSub.scanSubscription) 0)
        [.system (.pub (.send (frame [1]))), .system (.pub .listenerRecv),
          .system (.sub (.addPublisher "http://laser")), .system (.pub (.accept (.ok ()))),
          .system (.greet (.ok ())), .system (.pub .register), .system .join,
          .system (.write (.ok ()) 0), .system .read, .recv, .returned,
          .system (.sub (.taskStore 0)), .system (.pub (.send (frame [2]))),
          .system (.write (.ok ()) 0), .system .read, .recv] t ∧
      t.called = [(0, 1), (0, 2)] ∧ ∃ link task handle, t.system.link = some link ∧
        link.subscriberTask = some 0 ∧ t.subscriber < link.handles ∧
        t.system.subscription.handles[t.subscriber]? = some handle ∧
        t.system.Drained link task handle ∧ task.joined = 1 :=
    ⟨_, .cons ⟨1, rfl⟩ rfl <| .cons trivial rfl <| .cons trivial rfl <| .cons trivial rfl <|
      .cons trivial rfl <| .cons trivial rfl <| .cons trivial rfl <| .cons trivial rfl <|
      .cons trivial rfl <| .cons trivial rfl <| .cons trivial rfl <| .cons trivial rfl <|
      .cons ⟨2, rfl⟩ rfl <| .cons trivial rfl <| .cons trivial rfl <| .cons trivial rfl <| .nil _,
      rfl, _, _, _, rfl, rfl, by decide, rfl,
      ⟨rfl, rfl, rfl, rfl, rfl, rfl, by rintro _ ⟨⟩; exact ⟨_, rfl, rfl⟩, rfl, rfl, rfl⟩, rfl⟩
  have hp : Publication.new PubSub.scanTopic "/laser" 2 false true = some PubSub.scanPublication := rfl
  have hu : Subscription.new PubSub.scanTopic "/mapper" 2 false = some PubSub.scanSubscription := rfl
  obtain ⟨origin, hi, hfresh⟩ := new_fresh hu
  obtain ⟨published, hpublished, hsublist, -, hcomplete⟩ :=
    typed_messages_delivered hp hu (.nil _) hi hfresh hrun hlink htask
  exact ⟨t, published, hcalled, hpublished, hsublist, hjoined ▸ hcomplete handle task hh hn hd⟩

end SubscriberCallback

end RosrustAsync
