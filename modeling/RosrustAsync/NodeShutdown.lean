import Mathlib.Data.List.Basic
import RosrustAsync.Lib.Runs

namespace RosrustAsync

/-- Shutdown is complete once it was triggered and no delay token is held. -/
structure ShutdownManager where
  reason : Option (Option String)
  delayTokens : ℕ

inductive ShutdownError : Type
  | alreadyStarted
  | alreadyCompleted

namespace ShutdownManager

def new : ShutdownManager := ⟨none, 0⟩

def isShutdownTriggered (self : ShutdownManager) : Bool := self.reason.isSome

def isShutdownCompleted (self : ShutdownManager) : Bool :=
  self.reason.isSome && self.delayTokens == 0

def triggerShutdown (self : ShutdownManager) (reason : Option String) :
    Except ShutdownError ShutdownManager :=
  if self.isShutdownTriggered then .error .alreadyStarted else .ok { self with reason := some reason }

def delayShutdownToken (self : ShutdownManager) : Except ShutdownError ShutdownManager :=
  if self.isShutdownCompleted then .error .alreadyCompleted
  else .ok { self with delayTokens := self.delayTokens + 1 }

def dropToken (self : ShutdownManager) : ShutdownManager :=
  { self with delayTokens := self.delayTokens - 1 }

end ShutdownManager

inductive NodeActor : Type
  | publisher
  | subscriber
  | service
  | parameter
  deriving DecidableEq

inductive ActorPc : Type
  | running
  | postStop
  | stopped
  | failed
  deriving DecidableEq

structure ActorCell where
  pc : ActorPc
  stopRequested : Bool

inductive ShutdownTaskPc : Type
  | spawned
  | select
  | stop (actors : List NodeActor)
  | wait (actor : NodeActor) (actors : List NodeActor)
  | finished

inductive NodeCall : Type
  | shutdown (reason : Option String)
  | shutdownAndWait (reason : Option String)
  | shutdownComplete

inductive CallPc : Type
  | check (reason : Option String)
  | trigger (reason : Option String)
  | wait
  | returned (result : Except ShutdownError Unit)

structure PendingCall where
  waits : Bool
  pc : CallPc

def NodeCall.start : NodeCall → PendingCall
  | .shutdown reason => ⟨false, .check reason⟩
  | .shutdownAndWait reason => ⟨true, .check reason⟩
  | .shutdownComplete => ⟨true, .wait⟩

/-- What is left of a call once `shutdown` has returned in it. -/
def PendingCall.afterShutdown (self : PendingCall) : Except ShutdownError Unit → PendingCall
  | .ok _ => { self with pc := if self.waits then .wait else .returned (.ok ()) }
  | .error e => { self with pc := .returned (.error e) }

structure NodeShutdown where
  shutdownMgr : ShutdownManager
  task : ShutdownTaskPc
  -- whether the task holds the token it asked for
  shutdownGuard : Bool
  actors : NodeActor → ActorCell
  calls : List PendingCall

namespace NodeShutdown

def actorCells : List NodeActor := [.publisher, .subscriber, .service, .parameter]

def new : NodeShutdown := ⟨.new, .spawned, false, fun _ => ⟨.running, false⟩, []⟩

inductive Label : Type
  | takeToken
  | shutdownTriggered
  | serveError
  | stop
  | waited
  | finish
  | postStop (actor : NodeActor)
  | stopped (actor : NodeActor)
  | failed (actor : NodeActor)
  | call (call : NodeCall)
  | check (i : ℕ)
  | trigger (i : ℕ)
  | complete (i : ℕ)
  | handleShutdown (callerId reason : String)

def setActor (self : NodeShutdown) (actor : NodeActor) (cell : ActorCell) : NodeShutdown :=
  { self with actors := fun a => if a = actor then cell else self.actors a }

def stopAndWait (self : NodeShutdown) (actor : NodeActor) (actors : List NodeActor) :
    NodeShutdown :=
  match (self.actors actor).pc with
  | .running | .postStop =>
    { self.setActor actor { self.actors actor with stopRequested := true } with
      task := .wait actor actors }
  | .stopped | .failed => { self with task := .stop actors }

def step (self : NodeShutdown) : Label → Option NodeShutdown
  | .takeToken =>
    match self.task with
    | .spawned =>
      match self.shutdownMgr.delayShutdownToken with
      | .ok mgr => some { self with shutdownMgr := mgr, task := .select, shutdownGuard := true }
      | .error _ => some { self with task := .select }
    | _ => none
  | .shutdownTriggered =>
    match self.task with
    | .select =>
      if self.shutdownMgr.isShutdownTriggered then some { self with task := .stop actorCells }
      else none
    | _ => none
  | .serveError =>
    match self.task with
    | .select => some { self with task := .stop actorCells }
    | _ => none
  | .stop =>
    match self.task with
    | .stop (actor :: actors) => some (self.stopAndWait actor actors)
    | _ => none
  | .waited =>
    match self.task with
    | .wait actor actors =>
      match (self.actors actor).pc with
      | .stopped | .failed => some { self with task := .stop actors }
      | _ => none
    | _ => none
  | .finish =>
    match self.task with
    | .stop [] =>
      some { self with
        task := .finished
        shutdownMgr := if self.shutdownGuard then self.shutdownMgr.dropToken else self.shutdownMgr
        shutdownGuard := false }
    | _ => none
  | .postStop actor =>
    match self.actors actor with
    | ⟨.running, true⟩ => some (self.setActor actor ⟨.postStop, true⟩)
    | _ => none
  | .stopped actor =>
    match self.actors actor with
    | ⟨.postStop, stopRequested⟩ => some (self.setActor actor ⟨.stopped, stopRequested⟩)
    | _ => none
  | .failed actor =>
    match self.actors actor with
    | ⟨.running, stopRequested⟩ | ⟨.postStop, stopRequested⟩ =>
      some (self.setActor actor ⟨.failed, stopRequested⟩)
    | _ => none
  | .call call => some { self with calls := self.calls ++ [call.start] }
  | .check i => do
    let call ← self.calls[i]?
    match call.pc with
    | .check reason =>
      let call := if self.shutdownMgr.isShutdownTriggered then call.afterShutdown (.ok ())
        else { call with pc := .trigger reason }
      some { self with calls := self.calls.set i call }
    | _ => none
  | .trigger i => do
    let call ← self.calls[i]?
    match call.pc with
    | .trigger reason =>
      match self.shutdownMgr.triggerShutdown reason with
      | .ok mgr =>
        some { self with shutdownMgr := mgr, calls := self.calls.set i (call.afterShutdown (.ok ())) }
      | .error e => some { self with calls := self.calls.set i (call.afterShutdown (.error e)) }
    | _ => none
  | .complete i => do
    let call ← self.calls[i]?
    match call.pc with
    | .wait =>
      if self.shutdownMgr.isShutdownCompleted then
        some { self with calls := self.calls.set i { call with pc := .returned (.ok ()) } }
      else none
    | _ => none
  | .handleShutdown callerId reason =>
    -- requests are served by the task
    match self.task with
    | .spawned => none
    | _ =>
      match self.shutdownMgr.triggerShutdown
        (some s!"API request: [caller_id: {callerId}, reason: \"{reason}\"]") with
      | .ok mgr => some { self with shutdownMgr := mgr }
      | .error _ => some self

def isShutdown (self : NodeShutdown) : Bool := self.shutdownMgr.isShutdownCompleted

def AllStopped (self : NodeShutdown) : Prop := ∀ actor, (self.actors actor).pc = .stopped

def resolved (call : PendingCall) : Bool :=
  match call.pc with
  | .returned _ => call.waits
  | _ => false

/-- What says that the node has shut down says so of all its actors. -/
structure Sound (s : NodeShutdown) : Prop where
  isShutdown : s.isShutdown → s.AllStopped
  resolved : ∀ call ∈ s.calls, resolved call → s.AllStopped

end NodeShutdown

end RosrustAsync
