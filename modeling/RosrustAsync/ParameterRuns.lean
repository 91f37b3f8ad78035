import RosrustAsync.Lib.Runs
import RosrustAsync.ParameterCoherence

namespace RosrustAsync

open Actor Prog Runs

namespace ParameterNet

variable {V : Type} [DecidableEq V] {emptyStruct : V} {ε α : Type} {m : ParameterActorMsg V}

/-- What a handler's program returns when nobody else takes a step. -/
def alone (emptyStruct : V) (m : ParameterActorMsg V) (p : ParameterProgram V ε α)
    (self : ParameterNet V) : Option (Except ε α) :=
  p.run.eval (fun a w => w.exec emptyStruct m a) self

theorem alone_getState {f : ParameterActorState V → ParameterProgram V ε α} (w : ParameterNet V) :
    alone emptyStruct m (getState >>= f) w = alone emptyStruct m (f w.actor.state) w := rfl

theorem alone_modifyState {g : ParameterActorState V → ParameterActorState V}
    {f : Unit → ParameterProgram V ε α} (w : ParameterNet V) :
    alone emptyStruct m (modifyState g >>= f) w = alone emptyStruct m (f ())
      { w with actor := { w.actor with state := g w.actor.state } } := rfl

theorem alone_call {c : ParameterCall V} {f : ParameterCall.Ans c → ParameterProgram V ε α}
    (w : ParameterNet V) : alone emptyStruct m (call c >>= f) w =
      alone emptyStruct m (f (w.answers emptyStruct c)) (w.serve c) := by
  cases c <;> rfl

theorem alone_getParam (name : String) (w : ParameterNet V) :
    alone emptyStruct m (ParameterActor.getParam name) w = some (.ok (w.params.lookup name)) := by
  apply (alone_call w).trans
  cases h : w.params.lookup name <;> simp only [answers, h] <;> rfl

theorem alone_cachedOrFetched {name : String} {w : ParameterNet V}
    (h : ∀ value, w.actor.state.paramCache.lookup name = some value →
      w.params.lookup name = some value) :
    alone emptyStruct m (ParameterActor.cachedOrFetched name) w =
      some (.ok (w.params.lookup name)) := by
  apply (alone_getState w).trans
  cases hcache : w.actor.state.paramCache.lookup name with
  | some value =>
    rw [h value hcache]
    rfl
  | none =>
    apply (alone_call w).trans
    cases hvalue : w.params.lookup name <;> simp only [answers, hvalue] <;> rfl

theorem alone_getCachedParam {name : String} {w : ParameterNet V}
    (h : ∀ value, w.actor.state.paramCache.lookup name = some value →
      w.params.lookup name = some value) :
    alone emptyStruct m (ParameterActor.getCachedParam name) w =
      some (.ok (w.params.lookup name)) := by
  apply (alone_getState w).trans
  by_cases hs : name ∈ w.actor.state.subscribedParams
  · simp only [hs, not_true_eq_false, if_false]
    exact alone_cachedOrFetched h
  · simp only [hs, not_false_eq_true, if_true]
    refine (alone_call w).trans ((alone_modifyState _).trans ?_)
    exact alone_cachedOrFetched h

theorem run_idle (params : AList fun _ : String => V) {labels : List (Process.Label (Outside V) Unit)}
    {c : Config V} (h : Run (process emptyStruct).step (Process.Ok Anything Settled) (init params)
      labels c) (hidle : c.pc = .idle) : Idle emptyStruct c.world := by
  have hinit : Idle emptyStruct (init params).world :=
    ⟨rfl, fun name => ⟨fun _ => rfl, fun _ => nofun, nofun⟩⟩
  have hlive : (process emptyStruct).Live Anything Settled (Idle emptyStruct) (fun _ => True) c :=
    h.invariant (fun _ _ _ hc hl he => Process.live_step stable_idle (fun _ _ _ _ => trivial)
      (fun _ _ _ _ _ _ => trivial) (fun _ _ _ hw hm => hw.start hm) hc hl he) hinit
  simpa only [Process.Live, hidle] using hlive

theorem cache_coherent (params : AList fun _ : String => V)
    {labels : List (Process.Label (Outside V) Unit)} {c : Config V}
    (h : Run (process emptyStruct).step (Process.Ok Anything Settled) (init params) labels c)
    (hidle : c.pc = .idle) (hquiet : c.world.updates = []) :
    (∀ name value, c.world.actor.state.paramCache.lookup name = some value →
      c.world.params.lookup name = some value) ∧
    ∀ name m, alone emptyStruct m (ParameterActor.getCachedParam name) c.world =
      alone emptyStruct m (ParameterActor.getParam name) c.world := by
  have hcoherent := run_idle params h hidle
  have hfresh : ∀ name value, c.world.actor.state.paramCache.lookup name = some value →
      c.world.params.lookup name = some value := by
    intro name value hvalue
    apply (hcoherent.tracks name).fresh value hvalue
    rw [pending, hquiet, List.filterMap_nil]
  refine ⟨hfresh, fun name m => ?_⟩
  rw [alone_getCachedParam (hfresh name), alone_getParam]

def getCachedLabels : List (Process.Label (Outside ℕ) Unit) :=
  [.outside (.request (.getCachedParam "/a" 0)), .start] ++ .replicate 7 (.act ()) ++ [.finish]

theorem cache_coherent_updated : ∃ labels c, Run (process (0 : ℕ)).step (Process.Ok Anything Settled)
      (init ∅) labels c ∧ c.world.actor.state.paramCache.lookup "/a" = some 7 ∧
      c.world.params.lookup "/a" = some 7 := by
  obtain ⟨c, hrun, hidle, hquiet, hcache⟩ : ∃ c, Run (process (0 : ℕ)).step
      (Process.Ok Anything Settled) (init ∅)
      (getCachedLabels ++ [.outside (.set "/a" 5), .outside .deliver, .start] ++
        .replicate 3 (.act ()) ++ [.finish, .outside (.request (.setParam "/a" 7 0)), .start] ++
        .replicate 5 (.act ()) ++ [.finish]) c ∧ c.pc = .idle ∧ c.world.updates = [] ∧
      c.world.actor.state.paramCache.lookup "/a" = some 7 := by
    refine ⟨_, .cons trivial rfl <| .cons trivial rfl <| .cons trivial rfl <|
      .cons (List.filterMap_nil ..) rfl <| .cons trivial rfl <| .cons trivial rfl <|
      .cons trivial rfl <| .cons trivial rfl <| .cons trivial rfl <| .cons trivial rfl <|
      .cons trivial rfl <| .cons trivial rfl <| .cons trivial rfl <| .cons trivial rfl <|
      .cons trivial rfl <| .cons trivial rfl <| .cons trivial rfl <| .cons trivial rfl <|
      .cons trivial rfl <| .cons (fun _ => List.filterMap_nil ..) rfl <| .cons trivial rfl <|
      .cons trivial rfl <| .cons trivial rfl <| .cons trivial rfl <| .cons trivial rfl <|
      .nil _, ?_⟩
    exact ⟨rfl, rfl, rfl⟩
  exact ⟨_, c, hrun, hcache, (cache_coherent ∅ hrun hidle hquiet).1 "/a" 7 hcache⟩

theorem stale_update_cached : ∃ c, Run (process (0 : ℕ)).step (fun _ _ => True) (init ∅)
    (getCachedLabels ++ [.outside (.set "/a" 5), .outside (.request (.setParam "/a" 7 0)), .start] ++
      .replicate 5 (.act ()) ++ [.finish, .outside .deliver, .start] ++ .replicate 3 (.act ()) ++
      [.finish]) c ∧
    c.pc = .idle ∧ c.world.updates = [] ∧
    c.world.actor.state.paramCache.lookup "/a" = some 5 ∧ c.world.params.lookup "/a" = some 7 :=
  ⟨_, run_of_exec rfl fun _ _ _ => trivial, rfl, rfl, rfl, rfl⟩

end ParameterNet

end RosrustAsync
