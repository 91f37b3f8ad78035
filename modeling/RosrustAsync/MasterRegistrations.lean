import RosrustAsync.ActorSurvival
import RosrustAsync.PublisherMaster
import RosrustAsync.ServiceMaster
import RosrustAsync.SubscriberMaster

namespace RosrustAsync

open Actor Runs

/-! The registries of the actors against the registrations at the master. -/

/-- As long as no unregistration fails that nothing replaces, and nothing fails on the way to a
registration that replaces another, what is registered at the master is in the registry. -/
theorem registrations_kept (nodeName : String) :
    (∀ labels c, Run (watched PublisherActor.behaviour PublisherActor.master).step
      (Process.Ok Anyhow (Answers PublisherActor.Kept)) ⟨(.init ⟨∅⟩, ∅), .idle⟩ labels c →
      c.pc = .idle → ∀ topicName, (c.world.2.lookup topicName).isSome →
        (c.world.1.state.publications.lookup topicName).isSome) ∧
    (∀ labels c, Run (watched SubscriberActor.behaviour SubscriberActor.master).step
      (Process.Ok Anyhow (Answers SubscriberActor.Kept)) ⟨(.init ⟨nodeName, ∅⟩, ∅), .idle⟩ labels c →
      c.pc = .idle → ∀ topicName, (c.world.2.lookup topicName).isSome →
        (c.world.1.state.subscriptions.lookup topicName).isSome) ∧
    ∀ labels c, Run (watched ServiceActor.behaviour ServiceActor.master).step
      (Process.Ok Anyhow (Answers ServiceActor.Kept)) ⟨(.init ⟨∅, ∅⟩, ∅), .idle⟩ labels c →
      c.pc = .idle → ∀ serviceName, (c.world.2.lookup serviceName).isSome →
        (c.world.1.state.servers.lookup serviceName).isSome := by
  refine ⟨fun labels c hrun hidle name hreg => ?_, fun labels c hrun hidle name hreg => ?_,
    fun labels c hrun hidle name hreg => ?_⟩
  · rwa [← (PublisherActor.mirrored_idle hrun hidle).lookup_isSome]
  · rwa [← (SubscriberActor.mirrored_idle hrun hidle).lookup_isSome]
  · rwa [← (ServiceActor.mirrored_idle hrun hidle).lookup_isSome]

/-! Runs in which one name has been registered. -/

theorem PublisherActor.one_registered : ∃ c, Run (watched behaviour master).step
    (Process.Ok Anyhow (Answers fun _ c answer _ => Succeeds c answer)) ⟨(.init ⟨∅⟩, ∅), .idle⟩
    ([.outside (.enqueue (.registerPublisher ⟨"/a", ⟨"*", "*", ""⟩⟩ (.v4 0) "" 4 false false 0)),
      .start] ++ .replicate 8 (.act PublisherActor.answers) ++ [.finish]) c ∧ c.pc = .idle ∧
    c.world.2.entries = [⟨"/a", ()⟩] ∧
    c.world.1.state.publications.entries.map (fun e => e.2.1) = [0] := by
  refine ⟨_, .cons trivial rfl <| .cons trivial rfl <| .cons trivial rfl <| .cons rfl rfl <|
    .cons trivial rfl <| .cons rfl rfl <| .cons trivial rfl <| .cons trivial rfl <|
    .cons trivial rfl <| .cons trivial rfl <| .cons trivial rfl <| .nil _, ?_⟩
  exact ⟨rfl, rfl, rfl⟩

theorem SubscriberActor.one_registered : ∃ c, Run (watched behaviour master).step
    (Process.Ok Anyhow (Answers fun _ c answer _ => Succeeds c answer))
    ⟨(.init ⟨"/node", ∅⟩, ∅), .idle⟩
    ([.outside (.enqueue (.registerSubscriber ⟨"/a", ⟨"*", "*", ""⟩⟩ "" 4 false 0)), .start] ++
      .replicate 7 (.act SubscriberActor.answers) ++ [.finish]) c ∧ c.pc = .idle ∧
    c.world.2.entries = [⟨"/a", ()⟩] ∧
    c.world.1.state.subscriptions.entries.map (fun e => e.2.1) = [0] := by
  refine ⟨_, .cons trivial rfl <| .cons trivial rfl <| .cons trivial rfl <| .cons trivial rfl <|
    .cons rfl rfl <| .cons trivial rfl <| .cons trivial rfl <| .cons trivial rfl <|
    .cons trivial rfl <| .cons trivial rfl <| .nil _, ?_⟩
  exact ⟨rfl, rfl, rfl⟩

theorem ServiceActor.one_registered : ∃ c, Run (watched behaviour master).step
    (Process.Ok Anyhow (Answers fun _ c answer _ => Succeeds c answer)) ⟨(.init ⟨∅, ∅⟩, ∅), .idle⟩
    ([.outside (.enqueue (.registerService ⟨"/a", ⟨"*", "*"⟩⟩ (.v4 0) "" 0)), .start] ++
      .replicate 8 (.act ServiceActor.answers) ++ [.finish]) c ∧ c.pc = .idle ∧
    c.world.2.entries = [⟨"/a", "rosrpc://0.0.0.0:0"⟩] ∧
    c.world.1.state.servers.entries.map (fun e => e.2.1) = [0] ∧
    c.world.1.state.clients.entries = [] := by
  refine ⟨_, .cons trivial rfl <| .cons trivial rfl <| .cons trivial rfl <| .cons rfl rfl <|
    .cons rfl rfl <| .cons trivial rfl <| .cons rfl rfl <| .cons trivial rfl <|
    .cons trivial rfl <| .cons trivial rfl <| .cons trivial rfl <| .nil _, ?_⟩
  exact ⟨rfl, rfl, rfl, rfl⟩

theorem registrations_kept_registered :
    (∃ labels c, Run (watched PublisherActor.behaviour PublisherActor.master).step
      (Process.Ok Anyhow (Answers PublisherActor.Kept)) ⟨(.init ⟨∅⟩, ∅), .idle⟩ labels c ∧
      (c.world.2.lookup "/a").isSome ∧ (c.world.1.state.publications.lookup "/a").isSome) ∧
    (∃ labels c, Run (watched SubscriberActor.behaviour SubscriberActor.master).step
      (Process.Ok Anyhow (Answers SubscriberActor.Kept)) ⟨(.init ⟨"/node", ∅⟩, ∅), .idle⟩ labels c ∧
      (c.world.2.lookup "/a").isSome ∧ (c.world.1.state.subscriptions.lookup "/a").isSome) ∧
    ∃ labels c, Run (watched ServiceActor.behaviour ServiceActor.master).step
      (Process.Ok Anyhow (Answers ServiceActor.Kept)) ⟨(.init ⟨∅, ∅⟩, ∅), .idle⟩ labels c ∧
      (c.world.2.lookup "/a").isSome ∧ (c.world.1.state.servers.lookup "/a").isSome := by
  obtain ⟨hpub, hsub, hsrv⟩ := registrations_kept "/node"
  refine ⟨?_, ?_, ?_⟩
  · obtain ⟨c, hrun, hidle, hreg, -⟩ := PublisherActor.one_registered
    have hkept := PublisherActor.run_kept hrun
    exact ⟨_, c, hkept, by simp [AList.lookup, hreg],
      hpub _ c hkept hidle "/a" (by simp [AList.lookup, hreg])⟩
  · obtain ⟨c, hrun, hidle, hreg, -⟩ := SubscriberActor.one_registered
    have hkept := SubscriberActor.run_kept hrun
    exact ⟨_, c, hkept, by simp [AList.lookup, hreg],
      hsub _ c hkept hidle "/a" (by simp [AList.lookup, hreg])⟩
  · obtain ⟨c, hrun, hidle, hreg, -⟩ := ServiceActor.one_registered
    have hkept := ServiceActor.run_kept hrun
    exact ⟨_, c, hkept, by simp [AList.lookup, hreg],
      hsrv _ c hkept hidle "/a" (by simp [AList.lookup, hreg])⟩

def PublisherActor.unreachable : (c : PublisherCall) → PublisherCall.Ans c
  | .bind address => .ok address
  | .subscriberIds _ => ∅
  | .registerPublisher _ _ | .unregisterPublisher _ => .error (.client (.net ""))

def ServiceActor.refused : (c : ServiceCall) → ServiceCall.Ans c
  | .bind _ => .error (.other "")
  | .url _ => .ok ""
  | .registerService _ _ => .ok ()
  | .unregisterService _ _ => .ok 1

/-- A dropped publisher whose unregistration fails stays registered, and so does a dropped service
whose entry is replaced when the listener of the new one fails to bind. -/
theorem registration_leaked :
    (∃ labels c, Run (watched PublisherActor.behaviour PublisherActor.master).step
      (fun _ _ => True) ⟨(.init ⟨∅⟩, ∅), .idle⟩ labels c ∧ c.pc = .idle ∧
      (c.world.2.lookup "/a").isSome ∧ c.world.1.state.publications.lookup "/a" = none) ∧
    ∃ labels c, Run (watched ServiceActor.behaviour ServiceActor.master).step
      (fun _ _ => True) ⟨(.init ⟨∅, ∅⟩, ∅), .idle⟩ labels c ∧ c.pc = .idle ∧
      (c.world.2.lookup "/a").isSome ∧ c.world.1.state.servers.lookup "/a" = none :=
  ⟨⟨[.outside (.enqueue (.registerPublisher ⟨"/a", ⟨"*", "*", ""⟩⟩ (.v4 0) "" 4 false false 0)),
      .start] ++ .replicate 8 (.act PublisherActor.answers) ++
      [.finish, .outside (.dropHandle 0), .outside (.guardDrop 0), .start] ++
      .replicate 5 (.act PublisherActor.unreachable) ++ [.finish], _,
      run_of_exec rfl fun _ _ _ => trivial, rfl, rfl, rfl⟩,
    ⟨[.outside (.enqueue (.registerService ⟨"/a", ⟨"*", "*"⟩⟩ (.v4 0) "" 0)),
      .outside (.enqueue (.registerService ⟨"/a", ⟨"*", "*"⟩⟩ (.v4 0) "" 1)), .start] ++
      .replicate 8 (.act ServiceActor.answers) ++ [.finish, .outside (.dropHandle 0), .start] ++
      .replicate 6 (.act ServiceActor.refused) ++ [.finish], _,
      run_of_exec rfl fun _ _ _ => trivial, rfl, rfl, rfl⟩⟩

end RosrustAsync
