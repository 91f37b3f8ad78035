import RosrustAsync.Messages
import RosrustAsync.PubSub

namespace RosrustAsync

namespace Subscription

def Label.handle? : Label → Option ℕ
  | .recvRaw i | .cloneHandle i | .dropHandle i => some i
  | _ => none

/-- `recv_raw`, with what it returns. -/
def recvRawResult (data : Broadcast Frame) (handle : SubscriberHandle) :
    Option (Received Frame × SubscriberHandle) :=
  match handle.latchedMsgs with
  | m :: ms => some (.value m, { handle with latchedMsgs := ms, got := handle.got ++ [m] })
  | [] => do
    match ← data.recv handle.dataRx with
    | (.value m, next) =>
      some (.value m, { handle with dataRx := next, got := handle.got ++ [m] })
    | (.lagged n, next) => some (.lagged n, { handle with dataRx := next, lagged := true })
    | (.closed, _) => some (.closed, handle)

theorem recvRawResult_snd (data : Broadcast Frame) (handle : SubscriberHandle) :
    (recvRawResult data handle).map Prod.snd = recvRaw data handle := by
  unfold recvRawResult recvRaw
  cases handle.latchedMsgs with
  | cons m ms => rfl
  | nil =>
    cases data.recv handle.dataRx with
    | none => rfl
    | some r =>
      obtain ⟨received, next⟩ := r
      cases received <;> rfl

/-- What `recv_raw` returns and leaves. -/
inductive Receives (data : Broadcast Frame) (handle : SubscriberHandle) :
    Received Frame → SubscriberHandle → Prop
  | latched {m : Frame} {ms : List Frame} : handle.latchedMsgs = m :: ms →
      Receives data handle (.value m)
        { handle with latchedMsgs := ms, got := handle.got ++ [m] }
  | value {m : Frame} {next : ℕ} : handle.latchedMsgs = [] →
      data.recv handle.dataRx = some (.value m, next) →
      Receives data handle (.value m)
        { handle with dataRx := next, got := handle.got ++ [m] }
  | lagged {n next : ℕ} : handle.latchedMsgs = [] →
      data.recv handle.dataRx = some (.lagged n, next) →
      Receives data handle (.lagged n) { handle with dataRx := next, lagged := true }
  | closed {next : ℕ} : handle.latchedMsgs = [] →
      data.recv handle.dataRx = some (.closed, next) → Receives data handle .closed handle

theorem recvRawResult_receives {data : Broadcast Frame} {handle handle' : SubscriberHandle}
    {result : Received Frame} (h : recvRawResult data handle = some (result, handle')) :
    Receives data handle result handle' := by
  unfold recvRawResult at h
  split at h
  · rename_i m ms hms
    cases h
    exact .latched hms
  · rename_i hnone
    obtain ⟨⟨received, next⟩, hrecv, h⟩ := Option.bind_eq_some_iff.mp h
    cases received <;> cases h
    · exact .value hnone hrecv
    · exact .lagged hnone hrecv
    · exact .closed hnone hrecv

end Subscription

inductive CallbackEnd : Type
  | cancelled
  | closed
  | decode (error : IoError)
  | panicked
  | aborted

inductive CallbackPc : Type
  | select
  | callback
  | finished (why : CallbackEnd)

/-- The task of `subscribe_callback`, and the system its subscriber belongs to. -/
structure SubscriberCallback (T : Type) where
  system : PubSub
  subscriber : ℕ
  pc : CallbackPc
  cancelled : Bool
  -- the calls, each with the task that its message came from, and the messages reported dropped
  called : List (ℕ × T)
  dropped : ℕ

namespace SubscriberCallback

variable {T : Type}

def spawn (system : PubSub) (subscriber : ℕ) : SubscriberCallback T :=
  ⟨system, subscriber, .select, false, [], 0⟩

inductive Label : Type
  | system (label : PubSub.Label)
  | cancel
  | stopped
  | recv
  | returned
  | panicked
  | abort

/-- No one but the task has its subscriber. -/
def owns (subscriber : ℕ) : PubSub.Label → Bool
  | .sub label => label.handle? == some subscriber
  | _ => false

/-- The task ends, and drops its subscriber. -/
def finish (self : SubscriberCallback T) (why : CallbackEnd) : Option (SubscriberCallback T) := do
  let system ← self.system.step (.sub (.dropHandle self.subscriber))
  some { self with system := system, pc := .finished why }

def received (self : SubscriberCallback T) (M : Message T) :
    Received Frame → Option (SubscriberCallback T)
  | .value m =>
    match M.decodeSlice m.data with
    | .ok msg => some { self with pc := .callback, called := self.called ++ [(m.task, msg)] }
    | .error e => self.finish (.decode e)
  | .lagged n => some { self with dropped := self.dropped + n }
  | .closed => self.finish .closed

def step (M : Message T) (self : SubscriberCallback T) : Label → Option (SubscriberCallback T)
  | .system label =>
    if owns self.subscriber label then none
    else do
      let system ← self.system.step label
      some { self with system := system }
  | .cancel => some { self with cancelled := true }
  | .stopped =>
    match self.pc with
    | .select => if self.cancelled then self.finish .cancelled else none
    | _ => none
  | .recv =>
    match self.pc with
    | .select => do
      let handle ← self.system.subscription.handles[self.subscriber]?
      let (result, _) ← Subscription.recvRawResult self.system.subscription.channel handle
      let system ← self.system.step (.sub (.recvRaw self.subscriber))
      { self with system := system }.received M result
    | _ => none
  | .returned =>
    match self.pc with
    | .callback => some { self with pc := .select }
    | _ => none
  | .panicked =>
    match self.pc with
    | .callback => self.finish .panicked
    | _ => none
  | .abort =>
    match self.pc with
    | .finished _ => none
    | _ => self.finish .aborted

end SubscriberCallback

end RosrustAsync
