import RosrustAsync.PublisherSets

namespace RosrustAsync

open Actor Prog Runs

namespace SubscriberNet

theorem run_idle {nodeName : String} {labels : List (Process.Label Outside FarEnd)} {c : Config}
    (h : Run process.step (Process.Ok Connected Meets) (init nodeName) labels c)
    (hidle : c.pc = .idle) : Idle c.world := by
  have hinit : Idle (init nodeName).world := ⟨⟨rfl, nofun, nofun, nofun⟩, nofun⟩
  have hlive : process.Live Connected Meets Idle (fun _ => True) c :=
    h.invariant (fun _ _ _ hc hl he => Process.live_step stable_idle (fun _ _ _ _ => trivial)
      (fun _ _ _ _ _ _ => trivial) (fun _ _ _ hw hm => hw.start hm) hc hl he) hinit
  simpa only [Process.Live, hidle] using hlive

theorem publisher_sets_complete {nodeName : String}
    {labels : List (Process.Label Outside FarEnd)} {c : Config}
    (h : Run process.step (Process.Ok Connected Meets) (init nodeName) labels c)
    (hidle : c.pc = .idle) (hmail : c.world.actor.mailbox = []) (hflight : c.world.inFlight = [])
    {topicName : String} {entry : ℕ × RegisteredSubscription}
    (hentry : c.world.actor.state.subscriptions.lookup topicName = some entry) :
    ∃ connections, c.world.connections[entry.2.dataTx]? = some connections ∧
      connections.subscription.topic.name = topicName ∧
      ∀ url ∈ c.world.publishers topicName, ∀ opening host port,
        c.world.publications (topicName, url) = .up opening host port →
        url ∈ connections.subscription.publisherAddrs ∧ connections.Running url opening := by
  obtain ⟨hcomplete, -⟩ := run_idle h hidle
  have hview : registered c.world.actor.state topicName = some entry.2.dataTx := by
    rw [registered, hentry]
    rfl
  obtain ⟨connections, hconnections, hsound⟩ := hcomplete.has topicName _ hview
  refine ⟨connections, hconnections, hsound.topic_eq, fun url hmem opening host port hpub => ?_⟩
  have hrunning : connections.Running url opening := by
    rcases hcomplete.current topicName _ url hview (fun _ => List.not_mem_nil) hmem
      (by simp [hpub]) with hannounced | ⟨opening', host', port', connections', hpub', hc, hrun⟩
    · rcases hannounced with ⟨publishers, hin, -⟩ | ⟨urls, hin, -⟩
      · rw [hmail] at hin
        cases hin
      · rw [hflight] at hin
        cases hin
    · rw [hpub] at hpub'
      cases hpub'
      rw [hconnections] at hc
      cases hc
      exact hrun
  exact ⟨hrunning.mem_publisherAddrs hsound, hrunning⟩

def lidarEnd (opening : ℕ) : FarEnd where
  answer
    | .registerSubscriber _ _ => .ok []
    | .unregisterSubscriber _ => .ok 1
    | .parseUrl _ => .ok ()
    | .requestTopic _ _ _ _ => .ok (some ("TCPROS", "lidar", 40000))
    | .addPublisher _ _ _ => .ok ()
    | .publisherAddrs _ => ∅
    | .latchedMsgs _ => []
  stream := Subscription.lidar
  opening := opening

/-- The node subscribes, and is connected to the publisher that registers next. -/
def connectLabels : List (Process.Label Outside FarEnd) :=
  [.outside (.client (.enqueue (.registerSubscriber Subscription.scan "/mapper" 2 true 0))),
    .start] ++ .replicate 7 (.act (lidarEnd 0)) ++
    [.finish, .outside (.registerPublisher "/scan" "http://a"),
    .outside (.insertPublication "/scan" "http://a" "lidar" 40000),
    .outside (.deliver ["http://a"]), .start] ++ .replicate 6 (.act (lidarEnd 0)) ++ [.finish]

/-- The publisher closes its publication and opens it again, and the node is told. -/
def reopenLabels : List (Process.Label Outside FarEnd) :=
  [.outside (.removePublication "/scan" "http://a"),
    .outside (.unregisterPublisher "/scan" "http://a"),
    .outside (.registerPublisher "/scan" "http://a"),
    .outside (.insertPublication "/scan" "http://a" "lidar" 40000),
    .outside (.deliver []), .outside (.deliver ["http://a"])]

def exitLabels : List (Process.Label Outside FarEnd) :=
  [.outside (.subscription 0 (.taskRead 0 (.error .unexpectedEof))),
    .outside (.subscription 0 (.taskRemoveLatched 0)),
    .outside (.subscription 0 (.taskRemoveAddr 0))]

def handleLabels (n : ℕ) : List (Process.Label Outside FarEnd) :=
  .start :: .replicate n (.act (lidarEnd 1)) ++ [.finish]

def connectedNet : Config := (Runs.exec process.step (init "/mapper") connectLabels).get rfl

theorem connected_run : Run process.step (Process.Ok Connected Meets) (init "/mapper") connectLabels
    connectedNet := by
  refine .cons trivial rfl <| .cons trivial rfl <| .cons ⟨trivial, trivial⟩ rfl <|
    .cons ⟨trivial, trivial⟩ rfl <| .cons ⟨fun existing h => ?_, trivial⟩ rfl <|
    .cons ⟨trivial, trivial⟩ rfl <| .cons ⟨trivial, trivial⟩ rfl <| .cons ⟨trivial, trivial⟩ rfl <|
    .cons ⟨trivial, trivial⟩ rfl <| .cons trivial rfl <| .cons trivial rfl <| .cons trivial rfl <|
    .cons trivial rfl <| .cons trivial rfl <| .cons ⟨trivial, trivial⟩ rfl <|
    .cons ⟨trivial, fun _ _ _ _ _ hmem => absurd hmem (Finset.notMem_empty _)⟩ rfl <|
    .cons ⟨trivial, trivial⟩ rfl <| .cons ⟨fun _ => rfl, trivial⟩ rfl <|
    .cons ⟨⟨"TCPROS", rfl⟩, trivial⟩ rfl <|
    .cons ⟨fun c opening host port hc hp _ => ?_,
      fun hmem => absurd hmem (Finset.notMem_empty _)⟩ rfl <|
    .cons trivial rfl <| .nil _
  · cases h
    rfl
  · cases hc
    exact ⟨(PublicationState.up.inj ((show PublicationState.up 0 "lidar" 40000 = _ from rfl).trans
      hp)).1, rfl⟩

theorem exit_connected {w : SubscriberNet} (e : IoError) {c : Connections} {task : SubscriberTask}
    {opening : ℕ} {host : String} {port : Int32} (hc : w.connections[0]? = some c)
    (ht : c.subscription.tasks[0]? = some task) (ho : c.openings[0]? = some 0)
    (hp : w.publications (c.subscription.topic.name, task.publisherAddr) =
      .up (opening + 1) host port) :
    Connected w (.subscription 0 (.taskRead 0 (.error e))) := by
  intro c' task' opening' hc' _ ht' ho' host' port' hp'
  rw [hc] at hc'
  cases hc'
  rw [ht] at ht'
  cases ht'
  rw [ho] at ho'
  cases ho'
  rw [hp] at hp'
  cases hp'

/-- The old connection has ended before the updates are handled. -/
theorem publisher_sets_complete_reopened : ∃ labels c connections,
    Run process.step (Process.Ok Connected Meets) (init "/mapper") labels c ∧
      c.world.connections[0]? = some connections ∧
      "http://a" ∈ connections.subscription.publisherAddrs ∧ connections.Running "http://a" 1 := by
  obtain ⟨c, hrun, hidle, hmail, hflight, hentry, hlisted, hpub⟩ : ∃ c, Run process.step
      (Process.Ok Connected Meets) connectedNet (reopenLabels ++ exitLabels ++ handleLabels 2 ++
        handleLabels 6) c ∧ c.pc = .idle ∧ c.world.actor.mailbox = [] ∧ c.world.inFlight = [] ∧
      c.world.actor.state.subscriptions.lookup "/scan" = some (0, ⟨Subscription.scan, 0⟩) ∧
      "http://a" ∈ c.world.publishers "/scan" ∧
      c.world.publications ("/scan", "http://a") = .up 1 "lidar" 40000 := by
    refine ⟨_, .cons trivial rfl <| .cons trivial rfl <| .cons trivial rfl <| .cons trivial rfl <|
      .cons trivial rfl <| .cons trivial rfl <|
      .cons (exit_connected .unexpectedEof rfl rfl rfl rfl) rfl <| .cons trivial rfl <|
      .cons trivial rfl <| .cons trivial rfl <| .cons ⟨trivial, trivial⟩ rfl <|
      .cons ⟨trivial, fun _ _ _ _ _ hmem => absurd hmem (Finset.notMem_empty _)⟩ rfl <|
      .cons trivial rfl <| .cons trivial rfl <| .cons ⟨trivial, trivial⟩ rfl <|
      .cons ⟨trivial, fun _ _ _ _ _ hmem => absurd hmem (Finset.notMem_empty _)⟩ rfl <|
      .cons ⟨trivial, trivial⟩ rfl <| .cons ⟨fun _ => rfl, trivial⟩ rfl <|
      .cons ⟨⟨"TCPROS", rfl⟩, trivial⟩ rfl <|
      .cons ⟨fun c opening host port hc hp _ => ?_,
        fun hmem => absurd hmem (Finset.notMem_empty _)⟩ rfl <| .cons trivial rfl <| .nil _,
      rfl, rfl, rfl, rfl, Finset.mem_singleton_self _, rfl⟩
    cases hc
    exact ⟨(PublicationState.up.inj ((show PublicationState.up 1 "lidar" 40000 = _ from rfl).trans
      hp)).1, rfl⟩
  have hall := connected_run.trans hrun
  obtain ⟨connections, hc, -, hurl⟩ := publisher_sets_complete hall hidle hmail hflight hentry
  exact ⟨_, c, connections, hall, hc, hurl "http://a" hlisted 1 "lidar" 40000 hpub⟩

theorem ok_answered (c : Config) (l : Process.Label Outside FarEnd)
    (hl : Process.Ok Connected Meets c l) : Process.Ok Connected Answered c l := by
  obtain ⟨w, pc⟩ := c
  cases l with
  | act far =>
    cases pc with
    | busy m p =>
      cases p with
      | act a k => exact hl.1
      | ret r => trivial
    | _ => trivial
  | _ => exact hl

theorem reopened_publisher_missed : ∃ labels c connections,
    Run process.step (Process.Ok Connected Answered) (init "/mapper") labels c ∧ c.pc = .idle ∧
      c.world.actor.mailbox = [] ∧ c.world.inFlight = [] ∧
      c.world.actor.state.subscriptions.lookup "/scan" = some (0, ⟨Subscription.scan, 0⟩) ∧
      c.world.connections[0]? = some connections ∧
      (∀ task ∈ connections.subscription.tasks, task.pc = .finished) ∧
      "http://a" ∈ c.world.publishers "/scan" ∧
      c.world.publications ("/scan", "http://a") = .up 1 "lidar" 40000 ∧
      connections.subscription.publisherAddrs = ∅ := by
  obtain ⟨c, hrun, h⟩ : ∃ c, Run process.step (Process.Ok Connected Answered) connectedNet
      (reopenLabels ++ handleLabels 2 ++ handleLabels 2 ++ exitLabels) c ∧ c.pc = .idle ∧
      c.world.actor.mailbox = [] ∧ c.world.inFlight = [] ∧
      c.world.actor.state.subscriptions.lookup "/scan" = some (0, ⟨Subscription.scan, 0⟩) ∧
      (∃ connections, c.world.connections[0]? = some connections ∧
        (∀ task ∈ connections.subscription.tasks, task.pc = .finished) ∧
        connections.subscription.publisherAddrs = ∅) ∧
      "http://a" ∈ c.world.publishers "/scan" ∧
      c.world.publications ("/scan", "http://a") = .up 1 "lidar" 40000 := by
    refine ⟨_, .cons trivial rfl <| .cons trivial rfl <| .cons trivial rfl <| .cons trivial rfl <|
      .cons trivial rfl <| .cons trivial rfl <| .cons trivial rfl <| .cons trivial rfl <|
      .cons trivial rfl <| .cons trivial rfl <| .cons trivial rfl <| .cons trivial rfl <|
      .cons trivial rfl <| .cons trivial rfl <|
      .cons (exit_connected .unexpectedEof rfl rfl rfl rfl) rfl <|
      .cons trivial rfl <| .cons trivial rfl <| .nil _, rfl, rfl, rfl, rfl, ⟨_, rfl, ?_, rfl⟩,
      Finset.mem_singleton_self _, rfl⟩
    intro task htask
    cases htask with
    | head => rfl
    | tail _ h => cases h
  obtain ⟨hidle, hmail, hflight, hentry, ⟨connections, hc, htasks, haddrs⟩, hlisted, hpub⟩ := h
  exact ⟨_, c, connections, (connected_run.mono ok_answered).trans hrun, hidle, hmail, hflight,
    hentry, hc, htasks, hlisted, hpub, haddrs⟩

end SubscriberNet

end RosrustAsync
