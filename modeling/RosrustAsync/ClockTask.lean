import RosrustAsync.Clock
import RosrustAsync.Lib.Runs

namespace RosrustAsync.Clock

inductive Label : Type
  | sleepUntil (deadline : Time)
  | pollTime (i : ℕ) (waker : ℕ)
  | pollRegister (i : ℕ)
  | pollSend (i : ℕ)
  | dropFuture (i : ℕ)
  | publish (msg : Option Time)
  | recvTimer
  | recvClock
  | cancel
  | cancelled
  | close
  | drainTimer (k : ℕ)
  | drainChannel

/-- The clock of a subscriber that has messages latched for it and a place in the channel. -/
def fromSubscriber (latchedMsgs : List (Option Time)) (clockMsgs : Broadcast (Option Time))
    (clockRx : ℕ) : Clock :=
  ⟨.new ⟨0, 0⟩, .empty, [], false, latchedMsgs, clockMsgs, clockRx, false, .select, []⟩

/-! The steps of `SleepFuture::poll`. -/

def pollTime (self : Clock) (waker : ℕ) (f : SleepFuture) : SleepFuture :=
  { f with
    pc := if f.deadline ≤ self.time.get ∨ self.timerClosed then .ready else .register waker
    polledBy := waker
    woken := false }

def pollRegister (f : SleepFuture) (waker : ℕ) : SleepFuture :=
  match f.waker with
  | some _ => { f with waker := some (some waker), pc := .idle }
  | none => { f with pc := .send waker }

def pollSend (self : Clock) (i : ℕ) (f : SleepFuture) (waker : ℕ) : Clock :=
  if self.timerClosed then { self with futures := self.futures.set i { f with pc := .ready } }
  else { self with
    timerRx := self.timerRx ++ [⟨f.deadline, i⟩]
    futures := self.futures.set i { f with waker := some (some waker), pc := .idle } }

def recvClock (self : Clock) : Option Clock := do
  match ← self.recv with
  | (.value (some clock), self) => some (self.onTick clock)
  | (.value none, self) => some { self with pc := .close }
  | (.lagged _, self) => some self
  | (.closed, self) => some { self with pc := .close }

def stepFuture (self : Clock) (i : ℕ) (g : SleepFuture → Option Clock) : Option Clock := do
  let f ← self.futures[i]?
  g f

def step (self : Clock) : Label → Option Clock
  | .sleepUntil deadline => some { self with futures := self.futures ++ [.new deadline] }
  | .pollTime i waker => self.stepFuture i fun f =>
      match f.pc with
      | .idle => some { self with futures := self.futures.set i (self.pollTime waker f) }
      | _ => none
  | .pollRegister i => self.stepFuture i fun f =>
      match f.pc with
      | .register waker => some { self with futures := self.futures.set i (pollRegister f waker) }
      | _ => none
  | .pollSend i => self.stepFuture i fun f =>
      match f.pc with
      | .send waker => some (self.pollSend i f waker)
      | _ => none
  | .dropFuture i => self.stepFuture i fun f =>
      match f.pc with
      | .idle => some { self with futures := self.futures.set i { f with pc := .dropped } }
      | _ => none
  | .publish msg => some { self with clockMsgs := self.clockMsgs.send msg }
  | .recvTimer =>
    match self.pc, self.timerRx with
    | .select, entry :: entries =>
      some { self with timers := self.timers.push entry, timerRx := entries }
    | _, _ => none
  | .recvClock =>
    match self.pc with
    | .select => self.recvClock
    | _ => none
  | .cancel => some { self with cancelled := true }
  | .cancelled =>
    match self.pc with
    | .select => if self.cancelled then some { self with pc := .close } else none
    | _ => none
  | .close =>
    match self.pc with
    | .close => some { self with timerClosed := true, pc := .drain }
    | _ => none
  | .drainTimer k =>
    match self.pc, self.timers.entries[k]? with
    | .drain, some entry =>
      some { self with timers := self.timers.eraseIdx k, futures := notify self.futures entry }
    | _, _ => none
  | .drainChannel =>
    match self.pc, self.timers.entries, self.timerRx with
    | .drain, [], entry :: entries =>
      some { self with timerRx := entries, futures := notify self.futures entry }
    | .drain, [], [] => some { self with pc := .finished }
    | _, _, _ => none

end RosrustAsync.Clock
