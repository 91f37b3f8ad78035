import RosrustAsync.ActorSurvival
import RosrustAsync.SharedRegistrations

namespace RosrustAsync

open Actor Process Runs

/-- No two live handles of one name were registered with specs that conflict. -/
def Agree {K T : Type} (validate : T → T → Except CompatibilityError Unit)
    (live : List ((K × ℕ) × T)) : Prop :=
  ∀ x ∈ live, ∀ y ∈ live, x.1.1 = y.1.1 → validate x.2 y.2 = .ok ()

def startTagged {S K V C M T : Type} {Ans : C → Type} (s : S) :
    Process.Config (Tagged S K M T) M (Act S K V C) MessagingErr (Act.Res Ans) :=
  ⟨⟨.init s, []⟩, .idle⟩

theorem shared_handles_agree (nodeName : String) :
    (∀ labels c, Run (tagged PublisherActor.shared).step
      (Ok (fun _ _ => True) PublisherActor.shared.Meets) (startTagged ⟨∅⟩) labels c →
        c.world.live.map Prod.fst = c.world.world.handles ∧
          Agree TopicSpec.validateCompatibility c.world.live) ∧
    (∀ labels c, Run (tagged SubscriberActor.shared).step
      (Ok (fun _ _ => True) SubscriberActor.shared.Meets) (startTagged ⟨nodeName, ∅⟩) labels c →
        c.world.live.map Prod.fst = c.world.world.handles ∧
          Agree TopicSpec.validateCompatibility c.world.live) ∧
    ∀ labels c, Run (tagged ServiceActor.shared).step
      (Ok (fun _ _ => True) ServiceActor.shared.Meets) (startTagged ⟨∅, ∅⟩) labels c →
        c.world.live.map Prod.fst = c.world.world.handles ∧
          Agree ServiceSpec.validateCompatibility c.world.live := by
  refine ⟨fun labels c h => ?_, fun labels c h => ?_, fun labels c h => ?_⟩
  · have hshared := Sharing.shared_run PublisherActor.holds_handle h
    refine ⟨hshared.handles_eq, fun x hx y hy hkey => ?_⟩
    exact TopicSpec.validateCompatibility_iff.mpr (hshared.fit x hx y hy hkey)
  · have hshared := Sharing.shared_run SubscriberActor.holds_handle h
    refine ⟨hshared.handles_eq, fun x hx y hy hkey => ?_⟩
    exact TopicSpec.validateCompatibility_iff.mpr (hshared.fit x hx y hy hkey)
  · have hshared := Sharing.shared_run ServiceActor.holds_handle h
    refine ⟨hshared.handles_eq, fun x hx y hy hkey => ?_⟩
    exact ServiceSpec.validateCompatibility_iff.mpr (hshared.fit x hx y hy hkey)

def anySpec : TopicSpec := ⟨"*", "*", "*"⟩

def stringSpec : TopicSpec := ⟨"992ce8a1687cec8c8bd883ec73ca41d1", "std_msgs/String", "string data"⟩

def boolSpec : TopicSpec := ⟨"8b94c1b53db61fb6aed406028ad6332a", "std_msgs/Bool", "bool data"⟩

def registerA (spec : TopicSpec) (reply : ℕ) :
    Process.Label (ClientLabel PublisherActorMsg) ((c : PublisherCall) → c.Ans) :=
  .outside (.enqueue (.registerPublisher ⟨"/a", spec⟩ (.v4 0) "/n" 4 false false reply))

def handling (acts : ℕ) :
    List (Process.Label (ClientLabel PublisherActorMsg) ((c : PublisherCall) → c.Ans)) :=
  [.start] ++ .replicate acts (.act PublisherActor.answers) ++ [.finish]

theorem shared_handles_agree_joined :
    (∃ labels c, Run (tagged PublisherActor.shared).step
      (Ok (fun _ _ => True) PublisherActor.shared.Meets) (startTagged ⟨∅⟩) labels c ∧
      c.world.live = [(("/a", 0), anySpec), (("/a", 0), stringSpec)] ∧
      Agree TopicSpec.validateCompatibility c.world.live) ∧
    (∃ labels c, Run (tagged SubscriberActor.shared).step
      (Ok (fun _ _ => True) SubscriberActor.shared.Meets) (startTagged ⟨"/n", ∅⟩) labels c ∧
      c.world.live = [(("/a", 0), stringSpec)] ∧
      Agree TopicSpec.validateCompatibility c.world.live) ∧
    ∃ labels c, Run (tagged ServiceActor.shared).step
      (Ok (fun _ _ => True) ServiceActor.shared.Meets) (startTagged ⟨∅, ∅⟩) labels c ∧
      c.world.live = [((.client "/a", 0), ⟨"*", "*"⟩)] ∧
      Agree ServiceSpec.validateCompatibility c.world.live := by
  obtain ⟨hpub, hsub, hsrv⟩ := shared_handles_agree "/n"
  refine ⟨?_, ?_, ?_⟩
  · obtain ⟨c, hrun, hlive⟩ : ∃ c, Run (tagged PublisherActor.shared).step
        (Ok (fun _ _ => True) PublisherActor.shared.Meets) (startTagged ⟨∅⟩)
        ([registerA anySpec 0] ++ handling 8 ++ [registerA stringSpec 1] ++ handling 3) c ∧
        c.world.live = [(("/a", 0), anySpec), (("/a", 0), stringSpec)] := by
      refine ⟨_, .cons trivial rfl <| .cons trivial rfl <| .cons trivial rfl <| .cons trivial rfl <|
        .cons trivial rfl <| .cons trivial rfl <| .cons trivial rfl <| .cons trivial rfl <|
        .cons (fun key h => by cases h) rfl <| .cons ?_ rfl <| .cons trivial rfl <|
        .cons trivial rfl <| .cons trivial rfl <| .cons trivial rfl <| .cons trivial rfl <|
        .cons ?_ rfl <| .cons trivial rfl <| .nil _, rfl⟩
      · intro g key t u _ _ _ _ x hx
        cases hx
      · intro g key t u _ _ ht _ x hx _
        cases ht
        cases List.mem_singleton.mp hx
        intro f hf _
        simp only [TopicSpec.fields, List.mem_cons, List.not_mem_nil, or_false] at hf
        rcases hf with rfl | rfl | rfl <;> rfl
    exact ⟨_, c, hrun, hlive, (hpub _ _ hrun).2⟩
  · obtain ⟨c, hrun, hlive⟩ : ∃ c, Run (tagged SubscriberActor.shared).step
        (Ok (fun _ _ => True) SubscriberActor.shared.Meets) (startTagged ⟨"/n", ∅⟩)
        ([.outside (.enqueue (.registerSubscriber ⟨"/a", stringSpec⟩ "/n" 4 false 0)), .start] ++
          .replicate 7 (.act SubscriberActor.answers) ++ [.finish]) c ∧
        c.world.live = [(("/a", 0), stringSpec)] := by
      refine ⟨_, .cons trivial rfl <| .cons trivial rfl <| .cons trivial rfl <| .cons trivial rfl <|
        .cons trivial rfl <| .cons trivial rfl <| .cons trivial rfl <|
        .cons (fun key h => by cases h) rfl <| .cons ?_ rfl <| .cons trivial rfl <| .nil _, rfl⟩
      intro g key t u _ _ _ _ x hx
      cases hx
    exact ⟨_, c, hrun, hlive, (hsub _ _ hrun).2⟩
  · obtain ⟨c, hrun, hlive⟩ : ∃ c, Run (tagged ServiceActor.shared).step
        (Ok (fun _ _ => True) ServiceActor.shared.Meets) (startTagged ⟨∅, ∅⟩)
        ([.outside (.enqueue (.registerClient ⟨"/a", ⟨"*", "*"⟩⟩ "/n" true 0)), .start] ++
          .replicate 6 (.act ServiceActor.answers) ++ [.finish]) c ∧
        c.world.live = [((.client "/a", 0), ⟨"*", "*"⟩)] := by
      refine ⟨_, .cons trivial rfl <| .cons trivial rfl <| .cons trivial rfl <| .cons trivial rfl <|
        .cons trivial rfl <| .cons trivial rfl <| .cons (fun key h => by cases h) rfl <|
        .cons ?_ rfl <| .cons trivial rfl <| .nil _, rfl⟩
      intro g key t u _ _ _ _ x hx
      cases hx
    exact ⟨_, c, hrun, hlive, (hsrv _ _ hrun).2⟩

/-- Two types join a wildcard registration; or the entry is lost to a late drop message. -/
theorem shared_handles_conflict :
    (∃ c, Run (tagged PublisherActor.shared).step (fun _ _ => True) (startTagged ⟨∅⟩)
      ([registerA anySpec 0] ++ handling 8 ++ [registerA stringSpec 1] ++ handling 3 ++
        [registerA boolSpec 2] ++ handling 3) c ∧
      c.world.live = [(("/a", 0), anySpec), (("/a", 0), stringSpec), (("/a", 0), boolSpec)] ∧
      ¬ Agree TopicSpec.validateCompatibility c.world.live) ∧
    ∃ c, Run (tagged PublisherActor.shared).step (fun _ _ => True) (startTagged ⟨∅⟩)
      ([registerA stringSpec 0] ++ handling 8 ++ [.outside (.dropHandle 0), registerA stringSpec 1,
        .outside (.guardDrop 0), registerA boolSpec 2] ++ handling 13 ++ handling 7 ++ handling 8) c ∧
      c.world.live = [(("/a", 1), stringSpec), (("/a", 2), boolSpec)] ∧
      ¬ Agree TopicSpec.validateCompatibility c.world.live := by
  have hconflict : stringSpec.validateCompatibility boolSpec ≠ .ok () := by decide
  constructor
  · obtain ⟨c, hrun, hlive⟩ : ∃ c, Run (tagged PublisherActor.shared).step (fun _ _ => True)
        (startTagged ⟨∅⟩) ([registerA anySpec 0] ++ handling 8 ++ [registerA stringSpec 1] ++ handling 3 ++
          [registerA boolSpec 2] ++ handling 3) c ∧
        c.world.live = [(("/a", 0), anySpec), (("/a", 0), stringSpec), (("/a", 0), boolSpec)] :=
      ⟨_, run_of_exec rfl fun _ _ _ => trivial, rfl⟩
    refine ⟨c, hrun, hlive, fun h => hconflict ?_⟩
    exact h (("/a", 0), stringSpec) (by simp [hlive]) (("/a", 0), boolSpec) (by simp [hlive]) rfl
  · obtain ⟨c, hrun, hlive⟩ : ∃ c, Run (tagged PublisherActor.shared).step (fun _ _ => True)
        (startTagged ⟨∅⟩) ([registerA stringSpec 0] ++ handling 8 ++ [.outside (.dropHandle 0),
          registerA stringSpec 1, .outside (.guardDrop 0), registerA boolSpec 2] ++ handling 13 ++
          handling 7 ++ handling 8) c ∧
        c.world.live = [(("/a", 1), stringSpec), (("/a", 2), boolSpec)] :=
      ⟨_, run_of_exec rfl fun _ _ _ => trivial, rfl⟩
    refine ⟨c, hrun, hlive, fun h => hconflict ?_⟩
    exact h (("/a", 1), stringSpec) (by simp [hlive]) (("/a", 2), boolSpec) (by simp [hlive]) rfl

end RosrustAsync
