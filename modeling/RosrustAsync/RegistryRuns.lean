import RosrustAsync.ActorSurvival
import RosrustAsync.Lib.GuardRuns
import RosrustAsync.PublisherRegistry
import RosrustAsync.ServiceRegistry
import RosrustAsync.SubscriberRegistry

namespace RosrustAsync

open Actor Process Prog Runs

/-- Entries and live handles match when nothing is on its way, and whatever drop message is on its
way finds no live guard under its key. -/
structure Matches {S K V C M : Type} {Ans : C → Type} (R : Registry S K V C M Ans)
    (c : Config S K V C M Ans) : Prop where
  quiescent : c.pc = .idle → c.world.mailbox = [] → c.world.dropping = [] → ∀ key,
    ((R.entry c.world.state key).isSome ↔ ∃ g, (key, g) ∈ c.world.handles) ∧
      ∀ g, (key, g) ∈ c.world.handles → R.entry c.world.state key = some g
  drop_dead : c.pc = .idle → ∀ m ∈ c.world.mailbox, ∀ key, R.drops m = some key →
    ∀ g, R.entry c.world.state key = some g → c.world.strong g = 0

theorem matches_of_handlers {S K V C M : Type} {Ans : C → Type} [DecidableEq K]
    {R : Registry S K V C M Ans} {s : S} (hs : ∀ key, R.entry s key = none)
    (hhandle : ∀ m state guards, R.client m ∨ (R.drops m).isSome →
      Does R m (At R state guards [] (R.drops m) none) (R.handle m)
        (Outcome (fun _ => Idle R) fun _ _ => False))
    {labels : List (Label C M Ans)} {c : Config S K V C M Ans}
    (h : Run (process R.toBehaviour).step (Ok R.Allowed R.Meets) ⟨.init s, .idle⟩ labels c) :
    Matches R c := by
  have hlive := registry_live hs hhandle h
  have hidle : c.pc = .idle → Idle R c.world := by
    intro hpc
    simpa only [Live, hpc] using hlive
  refine ⟨fun hpc => (hidle hpc).agrees, fun hpc m hm key hdrop g he => ?_⟩
  exact (hidle hpc).2.dead_of_mail hm hdrop he

theorem registries_match_handles (nodeName : String) :
    (∀ labels c, Run (process PublisherActor.behaviour).step
      (Ok PublisherActor.registry.Allowed PublisherActor.registry.Meets)
      PublisherActor.init labels c → Matches PublisherActor.registry c) ∧
    (∀ labels c, Run (process SubscriberActor.behaviour).step
      (Ok SubscriberActor.registry.Allowed SubscriberActor.registry.Meets)
      (SubscriberActor.init nodeName) labels c → Matches SubscriberActor.registry c) ∧
    ∀ labels c, Run (process ServiceActor.behaviour).step
      (Ok ServiceActor.registry.Allowed ServiceActor.registry.Meets)
      ServiceActor.init labels c → Matches ServiceActor.registry c := by
  refine ⟨fun labels c => matches_of_handlers (R := PublisherActor.registry) (fun key => rfl)
      fun m state guards hm => PublisherActor.does_handle hm,
    fun labels c => matches_of_handlers (R := SubscriberActor.registry) (fun key => rfl)
      fun m state guards hm => SubscriberActor.does_handle hm,
    fun labels c => matches_of_handlers (R := ServiceActor.registry) (fun key => ?_)
      fun m state guards hm => ServiceActor.does_handle hm⟩
  cases key <;> rfl

theorem registries_match_handles_registered :
    (∃ labels c labels' c', Run (process PublisherActor.behaviour).step
      (Ok PublisherActor.registry.Allowed PublisherActor.registry.Meets)
      PublisherActor.init labels c ∧ c.world.handles = [("/a", 0), ("/a", 0)] ∧
      PublisherActor.registry.entry c.world.state "/a" = some 0 ∧
      Run (process PublisherActor.behaviour).step
        (Ok PublisherActor.registry.Allowed PublisherActor.registry.Meets) c labels' c' ∧
      c'.world.handles = [("/a", 1)] ∧
      PublisherActor.registry.entry c'.world.state "/a" = some 1) ∧
    (∃ labels c, Run (process SubscriberActor.behaviour).step
      (Ok SubscriberActor.registry.Allowed SubscriberActor.registry.Meets)
      (SubscriberActor.init "/node") labels c ∧ c.world.handles = [("/a", 0)] ∧
      SubscriberActor.registry.entry c.world.state "/a" = some 0) ∧
    ∃ labels c, Run (process ServiceActor.behaviour).step
      (Ok ServiceActor.registry.Allowed ServiceActor.registry.Meets)
      ServiceActor.init labels c ∧ c.world.handles = [(.client "/a", 0)] ∧
      ServiceActor.registry.entry c.world.state (.client "/a") = some 0 := by
  obtain ⟨hpub, hsub, hsrv⟩ := registries_match_handles "/node"
  have haccepts : accepts (some 4) := by decide
  refine ⟨?_, ?_, ?_⟩
  · obtain ⟨c, c', hrun, hrun', hc, hc'⟩ : ∃ c c', Run (process PublisherActor.behaviour).step
        (Ok PublisherActor.registry.Allowed PublisherActor.registry.Meets) PublisherActor.init
        ([.outside (.enqueue (.registerPublisher ⟨"/a", ⟨"*", "*", ""⟩⟩ (.v4 0) "" 4 false false 0)),
            .start] ++ .replicate 8 (.act PublisherActor.answers) ++ [.finish,
          .outside (.enqueue (.registerPublisher ⟨"/a", ⟨"*", "*", ""⟩⟩ (.v4 0) "" 4 false false 1)),
            .start] ++ .replicate 3 (.act PublisherActor.answers) ++ [.finish]) c ∧
        Run (process PublisherActor.behaviour).step
          (Ok PublisherActor.registry.Allowed PublisherActor.registry.Meets) c
          ([.outside (.dropHandle 0), .outside (.dropHandle 0), .outside (.guardDrop 0), .start] ++
            .replicate 5 (.act PublisherActor.answers) ++ [.finish,
            .outside (.enqueue
              (.registerPublisher ⟨"/a", ⟨"*", "*", ""⟩⟩ (.v4 0) "" 4 false false 2)), .start] ++
            .replicate 8 (.act PublisherActor.answers) ++ [.finish]) c' ∧
        (c.pc = .idle ∧ c.world.mailbox = [] ∧ c.world.dropping = [] ∧
          c.world.handles = [("/a", 0), ("/a", 0)]) ∧
        c'.pc = .idle ∧ c'.world.mailbox = [] ∧ c'.world.dropping = [] ∧
          c'.world.handles = [("/a", 1)] := by
      refine ⟨_, _, .cons trivial rfl <| .cons trivial rfl <| .cons trivial rfl <|
        .cons trivial rfl <| .cons haccepts rfl <| .cons trivial rfl <| .cons trivial rfl <|
        .cons trivial rfl <| .cons trivial rfl <| .cons trivial rfl <| .cons trivial rfl <|
        .cons trivial rfl <| .cons trivial rfl <| .cons trivial rfl <|
        .cons (fun _ => Nat.one_pos) rfl <| .cons trivial rfl <| .cons trivial rfl <| .nil _,
        .cons trivial rfl <| .cons trivial rfl <| .cons trivial rfl <| .cons trivial rfl <|
        .cons trivial rfl <| .cons trivial rfl <| .cons trivial rfl <|
        .cons (fun h => by cases h) rfl <| .cons trivial rfl <| .cons trivial rfl <|
        .cons trivial rfl <| .cons trivial rfl <| .cons trivial rfl <| .cons trivial rfl <|
        .cons haccepts rfl <| .cons trivial rfl <| .cons trivial rfl <| .cons trivial rfl <|
        .cons trivial rfl <| .cons trivial rfl <| .cons trivial rfl <| .nil _, ?_⟩
      exact ⟨⟨rfl, rfl, rfl, rfl⟩, rfl, rfl, rfl, rfl⟩
    obtain ⟨hpc, hmail, hdropping, hhandles⟩ := hc
    obtain ⟨hpc', hmail', hdropping', hhandles'⟩ := hc'
    refine ⟨_, c, _, c', hrun, hhandles, ?_, hrun', hhandles', ?_⟩
    · exact ((hpub _ _ hrun).quiescent hpc hmail hdropping "/a").2 0 (by simp [hhandles])
    · exact ((hpub _ _ (hrun.trans hrun')).quiescent hpc' hmail' hdropping' "/a").2 1
        (by simp [hhandles'])
  · obtain ⟨c, hrun, hpc, hmail, hdropping, hc⟩ : ∃ c, Run (process SubscriberActor.behaviour).step
        (Ok SubscriberActor.registry.Allowed SubscriberActor.registry.Meets)
        (SubscriberActor.init "/node")
        ([.outside (.enqueue (.registerSubscriber ⟨"/a", ⟨"*", "*", ""⟩⟩ "" 4 false 0)), .start] ++
          .replicate 7 (.act SubscriberActor.answers) ++ [.finish]) c ∧
        c.pc = .idle ∧ c.world.mailbox = [] ∧ c.world.dropping = [] ∧
        c.world.handles = [("/a", 0)] := by
      refine ⟨_, .cons trivial rfl <| .cons trivial rfl <| .cons trivial rfl <| .cons haccepts rfl <|
        .cons trivial rfl <| .cons trivial rfl <| .cons trivial rfl <| .cons trivial rfl <|
        .cons trivial rfl <| .cons trivial rfl <| .nil _, ?_⟩
      exact ⟨rfl, rfl, rfl, rfl⟩
    refine ⟨_, c, hrun, hc, ?_⟩
    exact ((hsub _ _ hrun).quiescent hpc hmail hdropping "/a").2 0 (by simp [hc])
  · obtain ⟨c, hrun, hpc, hmail, hdropping, hc⟩ : ∃ c, Run (process ServiceActor.behaviour).step
        (Ok ServiceActor.registry.Allowed ServiceActor.registry.Meets) ServiceActor.init
        ([.outside (.enqueue (.registerClient ⟨"/a", ⟨"*", "*"⟩⟩ "" true 0)), .start] ++
          .replicate 6 (.act ServiceActor.answers) ++ [.finish]) c ∧
        c.pc = .idle ∧ c.world.mailbox = [] ∧ c.world.dropping = [] ∧
        c.world.handles = [(.client "/a", 0)] := by
      refine ⟨_, .cons trivial rfl <| .cons trivial rfl <| .cons trivial rfl <| .cons trivial rfl <|
        .cons trivial rfl <| .cons trivial rfl <| .cons trivial rfl <| .cons trivial rfl <|
        .cons trivial rfl <| .nil _, ?_⟩
      exact ⟨rfl, rfl, rfl, rfl⟩
    refine ⟨_, c, hrun, hc, ?_⟩
    exact ((hsrv _ _ hrun).quiescent hpc hmail hdropping (.client "/a")).2 0 (by simp [hc])

theorem registration_lost : ∃ c, Run (process PublisherActor.behaviour).step (fun _ _ => True)
    PublisherActor.init
    ([.outside (.enqueue (.registerPublisher ⟨"/a", ⟨"*", "*", ""⟩⟩ (.v4 0) "" 4 false false 0)),
        .start] ++ .replicate 8 (.act PublisherActor.answers) ++ [.finish,
      .outside (.dropHandle 0),
      .outside (.enqueue (.registerPublisher ⟨"/a", ⟨"*", "*", ""⟩⟩ (.v4 0) "" 4 false false 1)),
      .outside (.guardDrop 0), .start] ++ .replicate 13 (.act PublisherActor.answers) ++
      [.finish, .start] ++ .replicate 7 (.act PublisherActor.answers) ++ [.finish]) c ∧
    c.pc = .idle ∧ c.world.mailbox = [] ∧ c.world.dropping = [] ∧
    c.world.handles = [("/a", 1)] ∧ PublisherActor.registry.entry c.world.state "/a" = none :=
  ⟨_, run_of_exec rfl fun _ _ _ => trivial, rfl, rfl, rfl, rfl, rfl⟩

end RosrustAsync
