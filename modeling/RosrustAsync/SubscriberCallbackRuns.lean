import RosrustAsync.Lib.Reception
import RosrustAsync.MessageOrder
import RosrustAsync.SubscriberCallback

namespace RosrustAsync

open Runs

theorem Broadcast.Reception.of_closed {α : Type} {c : Broadcast α} {closed : Bool}
    {start next missed : ℕ} {taken : List α}
    (h : Reception { c with closed := closed } start next taken missed) :
    c.Reception start next taken missed := ⟨h.start_le, h.next_le, h.sublist, h.count⟩

def Received.missed {α : Type} : Received α → ℕ
  | .lagged n => n
  | _ => 0

/-- What a handle has returned: messages of its snapshot, then of the channel. -/
structure SubscriberHandle.Account (data : Broadcast Frame) (handle : SubscriberHandle)
    (missed : ℕ) : Prop where
  split : ∃ popped taken, handle.got = popped ++ taken ∧
    popped ++ handle.latchedMsgs = handle.snapshot ∧ (handle.latchedMsgs ≠ [] → taken = []) ∧
    data.Reception handle.joined handle.dataRx taken missed

namespace SubscriberHandle.Account

variable {data : Broadcast Frame} {handle handle' : SubscriberHandle} {missed : ℕ}

theorem send (h : handle.Account data missed) (frame : Frame) :
    handle.Account (data.send frame) missed := by
  obtain ⟨popped, taken, hgot, hsnapshot, hnil, hreception⟩ := h.split
  exact ⟨popped, taken, hgot, hsnapshot, hnil, hreception.send frame⟩

theorem receives {closed : Bool} {result : Received Frame} (h : handle.Account data missed)
    (hr : Subscription.Receives { data with closed := closed } handle result handle') :
    handle'.Account data (missed + result.missed) := by
  obtain ⟨popped, taken, hgot, hsnapshot, hnil, hreception⟩ := h.split
  have hchannel : Broadcast.Reception { data with closed := closed } handle.joined handle.dataRx
      taken missed := ⟨hreception.start_le, hreception.next_le, hreception.sublist, hreception.count⟩
  cases hr with
  | @latched m ms hms =>
    obtain rfl := hnil (by simp [hms])
    refine ⟨popped ++ [m], [], by simp [hgot], ?_, fun _ => rfl, hreception⟩
    simpa [hms] using hsnapshot
  | @value m next hnone hrecv =>
    refine ⟨popped, taken ++ [m], by simp [hgot], hsnapshot, fun hne => (hne hnone).elim, ?_⟩
    exact (hchannel.value hrecv).of_closed
  | lagged hnone hrecv =>
    exact ⟨popped, taken, hgot, hsnapshot, fun hne => (hne hnone).elim,
      (hchannel.lagged hrecv).of_closed⟩
  | closed hnone hrecv => exact ⟨popped, taken, hgot, hsnapshot, hnil, hreception⟩

theorem sublist (h : handle.Account data missed) :
    handle.got.Sublist (handle.snapshot ++ data.window handle.joined handle.dataRx) := by
  obtain ⟨popped, taken, hgot, hsnapshot, -, hreception⟩ := h.split
  rw [hgot, ← hsnapshot]
  exact (List.sublist_append_left popped _).append hreception.sublist

theorem count (h : handle.Account data missed) : handle.got.length + handle.latchedMsgs.length +
    missed = handle.snapshot.length + (handle.dataRx - handle.joined) := by
  obtain ⟨popped, taken, hgot, hsnapshot, -, hreception⟩ := h.split
  rw [hgot, ← hsnapshot, ← hreception.count, List.length_append, List.length_append]
  omega

end SubscriberHandle.Account

namespace Subscription

variable {s q : Subscription} {label : Label} {i : ℕ} {handle : SubscriberHandle}

theorem Move.handle_kept (hs : Move s label q) (hl : label.handle? ≠ some i)
    (hi : s.handles[i]? = some handle) : q.handles[i]? = some handle := by
  have happend : ∀ new : SubscriberHandle, (s.handles ++ [new])[i]? = some handle := fun new => by
    rw [List.getElem?_append_left (List.getElem?_eq_some_iff.mp hi).1]
    exact hi
  have hset : ∀ {j : ℕ} (new : SubscriberHandle), some j ≠ some i →
      (s.handles.set j new)[i]? = some handle := by
    intro j new hji
    exact getElem?_set_of_ne (fun hij => hji (congrArg some hij.symm)) hi
  cases hs with
  | dataReceiver ho | cloneHandle hj => exact happend _
  | recvRaw hj hrecv | dropHandle hj => exact hset _ hl
  | _ => exact hi

/-- A handle has taken all, and no more will come. -/
structure Exhausted (s : Subscription) (handle : SubscriberHandle) : Prop where
  latchedMsgs : handle.latchedMsgs = []
  dataRx : s.data.tail ≤ handle.dataRx
  dropped : s.owner = .dropped
  disconnected : ∀ (i : ℕ) task, s.tasks[i]? = some task → connected task = false

theorem exhausted_of_closed (hnil : handle.latchedMsgs = []) {next : ℕ}
    (hrecv : s.channel.recv handle.dataRx = some (.closed, next)) : s.Exhausted handle := by
  obtain ⟨-, htail, hclosed⟩ := Broadcast.recv_closed hrecv
  obtain ⟨hdropped, htasks⟩ := Bool.and_eq_true_iff.mp hclosed
  refine ⟨hnil, htail, ?_, fun i task ht => ?_⟩
  · unfold isDropped at hdropped
    split at hdropped
    · assumption
    · cases hdropped
  · by_contra hc
    have hany : s.tasks.any connected = true :=
      List.any_eq_true.mpr ⟨task, List.mem_of_getElem? ht, by simpa using hc⟩
    rw [hany] at htasks
    cases htasks

theorem Exhausted.move (h : s.Exhausted handle) (hs : Move s label q) : q.Exhausted handle := by
  have howner := h.dropped
  have hset : ∀ {j : ℕ} {t : SubscriberTask} (pc : SubscriberTaskPc), s.tasks[j]? = some t →
      connected { t with pc := pc } = false →
        ∀ (i : ℕ) task, (s.setPc j t pc)[i]? = some task → connected task = false := by
    intro j t pc hj hc i task ht
    rcases getElem?_set_cases ht with ⟨-, rfl⟩ | ⟨-, ht⟩
    · exact hc
    · exact h.disconnected i task ht
  cases hs with
  | alreadyAdded ho hmem | addPublisher ho hmem | connect ho hconnect | connectError ho hconnect
  | latchedMsgs ho hspec horder | dataReceiver ho | drop ho =>
    rw [howner] at ho
    cases ho
  | read hi hpc | store hi hpc =>
    have hc := h.disconnected _ _ hi
    simp [connected, hpc] at hc
  | readClosed hi hpc hclosed | readError e hi hpc | cancelled hi hpc | removeLatched hi hpc
  | removeAddr hi hpc =>
    exact ⟨h.latchedMsgs, h.dataRx, h.dropped, hset _ hi rfl⟩
  | _ => exact ⟨h.latchedMsgs, h.dataRx, h.dropped, h.disconnected⟩

end Subscription

namespace PubSub

/-- The steps of the subscription that those of the system are. -/
inductive Drives : Label → Subscription.Label → Prop
  | sub (label : Subscription.Label) : Drives (.sub label) label
  | join (stream : ConnectIo) : Drives .join (.connect stream)
  | read (i : ℕ) (data : Bytes) : Drives .read (.taskRead i (.ok data))
  | readError (i : ℕ) (error : IoError) : Drives (.readError error) (.taskRead i (.error error))

/-- A step of the system is one of its subscription at most. -/
theorem step_subscription {s t : PubSub} {label : Label} (hs : s.step label = some t) :
    (t.subscription = s.subscription ∧ ∀ l, ¬ Drives label l) ∨
      ∃ l, Drives label l ∧ s.subscription.Move l t.subscription := by
  cases label with
  | pub label =>
    simp only [step] at hs
    split at hs
    · cases hs
    · obtain ⟨p, -, hs⟩ := Option.bind_eq_some_iff.mp hs
      cases hs
      exact .inl ⟨rfl, fun l hl => by cases hl⟩
  | sub label =>
    simp only [step] at hs
    split at hs
    · cases hs
    · obtain ⟨q, hq, hs⟩ := Option.bind_eq_some_iff.mp hs
      cases hs
      exact .inr ⟨label, .sub label, Subscription.step_move hq⟩
  | greet setNodelay =>
    simp only [step] at hs
    split at hs
    · obtain ⟨p, -, hs⟩ := Option.bind_eq_some_iff.mp hs
      split at hs <;> cases hs
      exact .inl ⟨rfl, fun l hl => by cases hl⟩
    · cases hs
  | join =>
    simp only [step] at hs
    split at hs
    · obtain ⟨q, hq, hs⟩ := Option.bind_eq_some_iff.mp hs
      split at hs <;> cases hs
      exact .inr ⟨_, .join _, Subscription.step_move hq⟩
    · cases hs
  | write result torn =>
    obtain ⟨link, -, hs⟩ := Option.bind_eq_some_iff.mp hs
    obtain ⟨task, -, hs⟩ := Option.bind_eq_some_iff.mp hs
    obtain ⟨p, -, hs⟩ := Option.bind_eq_some_iff.mp hs
    cases hs
    exact .inl ⟨rfl, fun l hl => by cases hl⟩
  | read =>
    obtain ⟨link, -, hs⟩ := Option.bind_eq_some_iff.mp hs
    obtain ⟨i, -, hs⟩ := Option.bind_eq_some_iff.mp hs
    split at hs
    · obtain ⟨q, hq, hs⟩ := Option.bind_eq_some_iff.mp hs
      cases hs
      exact .inr ⟨_, .read i _, Subscription.step_move hq⟩
    · cases hs
  | readError e =>
    obtain ⟨link, -, hs⟩ := Option.bind_eq_some_iff.mp hs
    obtain ⟨i, -, hs⟩ := Option.bind_eq_some_iff.mp hs
    obtain ⟨q, hq, hs⟩ := Option.bind_eq_some_iff.mp hs
    cases hs
    exact .inr ⟨_, .readError i e, Subscription.step_move hq⟩

end PubSub

namespace SubscriberCallback

variable {T : Type} {M : Message T} {origin : SubscriberHandle} {s t : SubscriberCallback T}

def message (M : Message T) (frame : Frame) : Except IoError (ℕ × T) :=
  (M.decodeSlice frame.data).map (Prod.mk frame.task)

def CallbackPc.failure : CallbackPc → List (Except IoError (ℕ × T))
  | .finished (.decode e) => [.error e]
  | _ => []

/-- What has become of the messages of the task's subscriber, which began as `origin`. -/
structure Consumes (M : Message T) (origin : SubscriberHandle) (s : SubscriberCallback T)
    (handle : SubscriberHandle) : Prop where
  subscriber : s.system.subscription.handles[s.subscriber]? = some handle
  account : handle.Account s.system.subscription.data s.dropped
  calls : handle.got.map (message M) = s.called.map .ok ++ CallbackPc.failure s.pc
  released : handle.alive = false ↔ ∃ why, s.pc = .finished why
  closed : s.pc = .finished .closed → s.system.subscription.Exhausted handle
  cancelled : s.pc = .finished .cancelled → s.cancelled = true
  snapshot : handle.snapshot = origin.snapshot
  joined : handle.joined = origin.joined

theorem system_recvRaw {p q : PubSub} {i : ℕ} {handle handle' : SubscriberHandle}
    {result : Received Frame} (hs : p.step (.sub (.recvRaw i)) = some q)
    (hi : p.subscription.handles[i]? = some handle)
    (hr : Subscription.recvRawResult p.subscription.channel handle = some (result, handle')) :
    q = { p with
      subscription := { p.subscription with handles := p.subscription.handles.set i handle' } } := by
  have hraw := Subscription.recvRawResult_snd p.subscription.channel handle
  rw [hr, Option.map_some] at hraw
  simp only [PubSub.step] at hs
  split at hs
  · cases hs
  · obtain ⟨u, hu, hs⟩ := Option.bind_eq_some_iff.mp hs
    cases hs
    simp only [Subscription.step, hi, ← hraw, Option.bind_eq_bind, Option.bind_some] at hu
    split at hu <;> cases hu
    rfl

theorem system_dropHandle {p q : PubSub} {i : ℕ} {handle : SubscriberHandle}
    (hs : p.step (.sub (.dropHandle i)) = some q)
    (hi : p.subscription.handles[i]? = some handle) :
    q = { p with
      subscription := { p.subscription with
        handles := p.subscription.handles.set i { handle with alive := false } } } := by
  simp only [PubSub.step] at hs
  split at hs
  · cases hs
  · obtain ⟨u, hu, hs⟩ := Option.bind_eq_some_iff.mp hs
    cases hs
    simp only [Subscription.step, hi, Option.bind_eq_bind, Option.bind_some] at hu
    cases hu
    rfl

theorem consumes_finish {why : CallbackEnd} {handle : SubscriberHandle}
    (hi : s.system.subscription.handles[s.subscriber]? = some handle)
    (haccount : handle.Account s.system.subscription.data s.dropped)
    (hcalls : handle.got.map (message M) =
      s.called.map .ok ++ CallbackPc.failure (.finished why))
    (hclosed : why = .closed → s.system.subscription.Exhausted handle)
    (hcancelled : why = .cancelled → s.cancelled = true)
    (hsnapshot : handle.snapshot = origin.snapshot) (hjoined : handle.joined = origin.joined)
    (hs : s.finish why = some t) :
    ∃ handle', t.Consumes M origin handle' := by
  obtain ⟨q, hq, hs⟩ := Option.bind_eq_some_iff.mp hs
  cases hs
  obtain rfl := system_dropHandle hq hi
  refine ⟨{ handle with alive := false }, getElem?_set_of_some hi, ⟨haccount.split⟩, hcalls,
    ⟨fun _ => ⟨why, rfl⟩, fun _ => rfl⟩, fun h => ?_, fun h => ?_, hsnapshot, hjoined⟩
  · cases h
    obtain ⟨hnil, hrx, hdropped, hdisconnected⟩ := hclosed rfl
    exact ⟨hnil, hrx, hdropped, hdisconnected⟩
  · cases h
    exact hcancelled rfl

/-- Steps of others leave the subscriber as it is. -/
theorem Consumes.system {handle : SubscriberHandle} (h : s.Consumes M origin handle) {q : PubSub}
    {label : PubSub.Label} (howns : owns s.subscriber label = false)
    (hs : s.system.step label = some q) : Consumes M origin { s with system := q } handle := by
  rcases PubSub.step_subscription hs with ⟨heq, -⟩ | ⟨l, hl, hmove⟩
  · exact ⟨heq ▸ h.subscriber, heq ▸ h.account, h.calls, h.released, fun hpc => heq ▸ h.closed hpc,
      h.cancelled, h.snapshot, h.joined⟩
  · have hkept : l.handle? ≠ some s.subscriber := by
      cases hl with
      | sub => simpa [owns] using howns
      | _ => exact fun hsome => by cases hsome
    refine ⟨hmove.handle_kept hkept h.subscriber, ?_, h.calls, h.released,
      fun hpc => (h.closed hpc).move hmove, h.cancelled, h.snapshot, h.joined⟩
    rcases hmove.data_eq with heq | ⟨i, data, -, heq⟩
    · exact heq ▸ h.account
    · rw [heq]
      exact h.account.send _

/-- What the task does to the system are steps of the system. -/
theorem step_kept {I : PubSub → Prop} {ok : PubSub → PubSub.Label → Prop}
    (hI : ∀ p label q, I p → ok p label → PubSub.step p label = some q → I q)
    (hrecv : ∀ p i, ok p (.sub (.recvRaw i))) (hdrop : ∀ p i, ok p (.sub (.dropHandle i)))
    {label : Label} (hok : ∀ l, label = .system l → ok s.system l) (h : I s.system)
    (hs : s.step M label = some t) : I t.system := by
  have hfinish {s : SubscriberCallback T} {why : CallbackEnd} (h : I s.system)
      (hs : s.finish why = some t) : I t.system := by
    obtain ⟨q, hq, hs⟩ := Option.bind_eq_some_iff.mp hs
    cases hs
    exact hI _ _ _ h (hdrop _ _) hq
  cases label with
  | system label =>
    simp only [step] at hs
    split at hs
    · cases hs
    · obtain ⟨q, hq, hs⟩ := Option.bind_eq_some_iff.mp hs
      cases hs
      exact hI _ _ _ h (hok _ rfl) hq
  | cancel =>
    cases hs
    exact h
  | stopped =>
    simp only [step] at hs
    split at hs
    · split at hs
      · exact hfinish h hs
      · cases hs
    · cases hs
  | recv =>
    simp only [step] at hs
    split at hs
    · obtain ⟨handle, -, hs⟩ := Option.bind_eq_some_iff.mp hs
      obtain ⟨⟨result, handle'⟩, -, hs⟩ := Option.bind_eq_some_iff.mp hs
      obtain ⟨q, hq, hs⟩ := Option.bind_eq_some_iff.mp hs
      have hkept := hI _ _ _ h (hrecv _ _) hq
      cases result with
      | value m =>
        simp only [received] at hs
        split at hs
        · cases hs
          exact hkept
        · exact hfinish hkept hs
      | lagged n =>
        cases hs
        exact hkept
      | closed => exact hfinish hkept hs
    · cases hs
  | returned =>
    simp only [step] at hs
    split at hs
    · cases hs
      exact h
    · cases hs
  | panicked =>
    simp only [step] at hs
    split at hs
    · exact hfinish h hs
    · cases hs
  | abort =>
    simp only [step] at hs
    split at hs
    · cases hs
    · exact hfinish h hs

theorem failure_select {pc : CallbackPc} (h : ∀ why, pc ≠ .finished why) :
    CallbackPc.failure (T := T) pc = [] := by
  cases pc with
  | finished why => exact (h why rfl).elim
  | _ => rfl

/-- The task with its subscriber as `recv_raw` left it. -/
def withSubscriber (self : SubscriberCallback T) (handle : SubscriberHandle) :
    SubscriberCallback T :=
  { self with system := { self.system with subscription := { self.system.subscription with
    handles := self.system.subscription.handles.set self.subscriber handle } } }

theorem map_message {got : List Frame} {called : List (ℕ × T)} {m : Frame}
    {result : Except IoError (ℕ × T)} (h : got.map (message M) = called.map .ok)
    (hm : message M m = result) : (got ++ [m]).map (message M) = called.map .ok ++ [result] := by
  rw [List.map_append, h, List.map_singleton, hm]

theorem Consumes.recv_value {handle handle' : SubscriberHandle} {m : Frame}
    (h : s.Consumes M origin handle) (hpc : s.pc = .select) (hgot : handle'.got = handle.got ++ [m])
    (halive : handle'.alive = handle.alive) (hsnapshot : handle'.snapshot = handle.snapshot)
    (hjoined : handle'.joined = handle.joined)
    (haccount : handle'.Account s.system.subscription.data s.dropped)
    (hs : (s.withSubscriber handle').received M (.value m) = some t) :
    ∃ handle, t.Consumes M origin handle := by
  have hi : (s.withSubscriber handle').system.subscription.handles[s.subscriber]? = some handle' :=
    getElem?_set_of_some h.subscriber
  have hcalls := h.calls
  rw [hpc, failure_select (by simp), List.append_nil] at hcalls
  simp only [received] at hs
  split at hs
  · rename_i msg hmsg
    cases hs
    have hmessage : message M m = .ok (m.task, msg) := by
      rw [message, hmsg]
      rfl
    refine ⟨handle', hi, haccount, ?_, ?_, (fun h => nomatch h), (fun h => nomatch h),
      hsnapshot.trans h.snapshot, hjoined.trans h.joined⟩
    · rw [hgot, map_message hcalls hmessage]
      simp [CallbackPc.failure, withSubscriber]
    · have hreleased := h.released
      rw [halive, hreleased, hpc]
      simp
  · rename_i e he
    have hmessage : message M m = .error e := by
      rw [message, he]
      rfl
    have hfailed : handle'.got.map (message M) =
        s.called.map .ok ++ CallbackPc.failure (.finished (.decode e)) := by
      rw [hgot, map_message hcalls hmessage]
      rfl
    exact consumes_finish hi haccount hfailed (by simp) (by simp) (hsnapshot.trans h.snapshot)
      (hjoined.trans h.joined) hs

theorem Consumes.recv {handle handle' : SubscriberHandle} {result : Received Frame}
    (h : s.Consumes M origin handle) (hpc : s.pc = .select)
    (hr : Subscription.Receives s.system.subscription.channel handle result handle')
    (hs : (s.withSubscriber handle').received M result = some t) :
    ∃ handle, t.Consumes M origin handle := by
  have haccount := h.account.receives hr
  have hi : (s.withSubscriber handle').system.subscription.handles[s.subscriber]? = some handle' :=
    getElem?_set_of_some h.subscriber
  cases hr with
  | latched hms => exact h.recv_value hpc (by rfl) (by rfl) (by rfl) (by rfl) haccount hs
  | value hnone hrecv => exact h.recv_value hpc (by rfl) (by rfl) (by rfl) (by rfl) haccount hs
  | lagged hnone hrecv =>
    cases hs
    have hselect : ∀ why, s.pc ≠ .finished why := by simp [hpc]
    exact ⟨_, hi, haccount, h.calls, h.released, (absurd · (hselect _)), (absurd · (hselect _)),
      h.snapshot, h.joined⟩
  | closed hnone hrecv =>
    obtain ⟨hnil, hrx, hdropped, hdisconnected⟩ := Subscription.exhausted_of_closed hnone hrecv
    have hcalls : handle.got.map (message M) =
        s.called.map .ok ++ CallbackPc.failure (.finished .closed) := by
      rw [h.calls, hpc]
      rfl
    exact consumes_finish hi haccount hcalls (fun _ => ⟨hnil, hrx, hdropped, hdisconnected⟩)
      (by simp) h.snapshot h.joined hs

theorem step_consumes {label : Label} {handle : SubscriberHandle} (h : s.Consumes M origin handle)
    (hs : s.step M label = some t) : ∃ handle', t.Consumes M origin handle' := by
  have hfinish : ∀ why, (∀ e, why ≠ .decode e) → why ≠ .closed →
      (why = .cancelled → s.cancelled = true) → (∀ e, s.pc ≠ .finished e) →
        s.finish why = some t → ∃ handle', t.Consumes M origin handle' := by
    intro why hdecode hclosed hcancelled hpc hs
    refine consumes_finish h.subscriber h.account ?_ (fun hc => (hclosed hc).elim) hcancelled
      h.snapshot h.joined hs
    have hnone : CallbackPc.failure (T := T) (.finished why) = [] := by
      cases why with
      | decode e => exact (hdecode e rfl).elim
      | _ => rfl
    rw [h.calls, failure_select hpc, hnone]
  cases label with
  | system label =>
    simp only [step] at hs
    split at hs
    · cases hs
    · rename_i howns
      obtain ⟨q, hq, hs⟩ := Option.bind_eq_some_iff.mp hs
      cases hs
      exact ⟨handle, h.system (by simpa using howns) hq⟩
  | cancel =>
    cases hs
    exact ⟨handle, h.subscriber, h.account, h.calls, h.released, h.closed, fun _ => rfl, h.snapshot,
      h.joined⟩
  | stopped =>
    simp only [step] at hs
    split at hs
    · rename_i hpc
      split at hs
      · rename_i hcancelled
        exact hfinish .cancelled (by simp) (by simp) (fun _ => hcancelled) (by simp [hpc]) hs
      · cases hs
    · cases hs
  | recv =>
    simp only [step] at hs
    split at hs
    · rename_i hpc
      obtain ⟨handle₀, hi, hs⟩ := Option.bind_eq_some_iff.mp hs
      rw [h.subscriber] at hi
      cases hi
      obtain ⟨⟨result, handle'⟩, hr, hs⟩ := Option.bind_eq_some_iff.mp hs
      obtain ⟨q, hq, hs⟩ := Option.bind_eq_some_iff.mp hs
      obtain rfl := system_recvRaw hq h.subscriber hr
      exact h.recv hpc (Subscription.recvRawResult_receives hr) hs
    · cases hs
  | returned =>
    simp only [step] at hs
    split at hs
    · rename_i hpc
      cases hs
      refine ⟨handle, h.subscriber, h.account, ?_, ?_, (fun h => nomatch h), (fun h => nomatch h),
        h.snapshot, h.joined⟩
      · have hcalls := h.calls
        rwa [hpc] at hcalls
      · have hreleased := h.released
        rw [hreleased, hpc]
        simp
    · cases hs
  | panicked =>
    simp only [step] at hs
    split at hs
    · rename_i hpc
      exact hfinish .panicked (by simp) (by simp) (by simp) (by simp [hpc]) hs
    · cases hs
  | abort =>
    simp only [step] at hs
    split at hs
    · cases hs
    · rename_i hpc
      exact hfinish .aborted (by simp) (by simp) (by simp) hpc hs

/-- A subscriber that has just been returned. -/
structure Fresh (data : Broadcast Frame) (handle : SubscriberHandle) : Prop where
  alive : handle.alive = true
  latchedMsgs : handle.latchedMsgs = handle.snapshot
  dataRx : handle.dataRx = handle.joined
  joined_le : handle.joined ≤ data.tail
  got : handle.got = []

theorem spawn_consumes {system : PubSub} {subscriber : ℕ}
    (hi : system.subscription.handles[subscriber]? = some origin)
    (hfresh : Fresh system.subscription.data origin) :
    (spawn system subscriber).Consumes M origin origin := by
  refine ⟨hi, ⟨[], [], hfresh.got, hfresh.latchedMsgs, fun _ => rfl, ?_⟩, ?_, ?_,
    (fun h => nomatch h), (fun h => nomatch h), rfl, rfl⟩
  · rw [hfresh.dataRx]
    exact Broadcast.reception_start hfresh.joined_le
  · rw [hfresh.got]
    rfl
  · simp [hfresh.alive, spawn]

theorem Consumes.count {handle : SubscriberHandle} (h : s.Consumes M origin handle) :
    s.called.length + (CallbackPc.failure (T := T) s.pc).length + handle.latchedMsgs.length +
      s.dropped = origin.snapshot.length + (handle.dataRx - origin.joined) := by
  have hcount := h.account.count
  have hgot := congrArg List.length h.calls
  rw [List.length_map, List.length_append, List.length_map] at hgot
  rwa [hgot, h.snapshot, h.joined] at hcount

theorem callback_accounts {system : PubSub} {subscriber : ℕ} {labels : List Label}
    (hi : system.subscription.handles[subscriber]? = some origin)
    (hfresh : Fresh system.subscription.data origin)
    (hrun : Run (step M) (fun _ _ => True) (spawn system subscriber) labels t) :
    ∃ handle, t.system.subscription.handles[t.subscriber]? = some handle ∧
      (handle.got.map (message M) = t.called.map .ok ++ CallbackPc.failure t.pc ∧
        handle.got.Sublist (origin.snapshot ++
          t.system.subscription.data.window origin.joined handle.dataRx) ∧
        t.called.length + (CallbackPc.failure (T := T) t.pc).length + handle.latchedMsgs.length +
          t.dropped = origin.snapshot.length + (handle.dataRx - origin.joined)) ∧
      (t.pc = .finished .closed → t.called.length + t.dropped =
        origin.snapshot.length + (t.system.subscription.data.tail - origin.joined)) ∧
      (t.pc = .finished .cancelled → t.cancelled = true) ∧
      (handle.alive = false ↔ ∃ why, t.pc = .finished why) := by
  obtain ⟨handle, h⟩ : ∃ handle, t.Consumes M origin handle :=
    hrun.invariant (I := fun s => ∃ handle, s.Consumes M origin handle)
      (fun _ _ _ ⟨_, h⟩ _ hs => step_consumes h hs) ⟨origin, spawn_consumes hi hfresh⟩
  have hsublist := h.account.sublist
  rw [h.snapshot, h.joined] at hsublist
  refine ⟨handle, h.subscriber, ⟨h.calls, hsublist, h.count⟩, fun hclosed => ?_, h.cancelled,
    h.released⟩
  obtain ⟨popped, taken, -, -, -, hreception⟩ := h.account.split
  have hexhausted := h.closed hclosed
  have hcount := h.count
  rw [hclosed, hexhausted.latchedMsgs,
    Nat.le_antisymm hreception.next_le hexhausted.dataRx] at hcount
  exact hcount

theorem new_fresh {topic : Topic} {callerId : String} {queueSize : ℕ} {tcpNodelay : Bool}
    {u : Subscription} (hu : Subscription.new topic callerId queueSize tcpNodelay = some u) :
    ∃ handle, u.handles[0]? = some handle ∧ Fresh u.data handle := by
  obtain ⟨data, -, h⟩ := Option.bind_eq_some_iff.mp hu
  cases h
  exact ⟨_, rfl, rfl, rfl, rfl, Nat.le_refl _, rfl⟩

theorem callback_accounts_lagged : ∃ (t : SubscriberCallback UInt8) (handle : SubscriberHandle),
    t.called = [(0, 2), (0, 3)] ∧ t.dropped = 1 ∧
      handle.got.map (message byteMessage) = t.called.map .ok ++ CallbackPc.failure t.pc := by
  obtain ⟨t, hrun, hcalled, hdropped⟩ : ∃ t, Run (step byteMessage) (fun _ _ => True)
      (spawn (PubSub.ofPubSub PubSub.scanPublication PubSub.scanSubscription) 0)
      [.system (.sub (.addPublisher "http://laser")),
        .system (.sub (.connect ⟨.ok (), .ok (), .ok PubSub.scanPublication.header⟩)),
        .system (.sub (.taskRead 0 (.ok (frame [1])))), .system (.sub (.taskStore 0)),
        .system (.sub (.taskRead 0 (.ok (frame [2])))), .system (.sub (.taskStore 0)),
        .system (.sub (.taskRead 0 (.ok (frame [3])))), .recv, .recv, .returned, .recv] t ∧
      t.called = [(0, 2), (0, 3)] ∧ t.dropped = 1 :=
    ⟨_, run_of_exec rfl fun _ _ _ => trivial, rfl, rfl⟩
  have hu : Subscription.new PubSub.scanTopic "/mapper" 2 false = some PubSub.scanSubscription := rfl
  obtain ⟨origin, hi, hfresh⟩ := new_fresh hu
  obtain ⟨handle, -, ⟨hgot, -⟩, -⟩ := callback_accounts hi hfresh hrun
  exact ⟨t, handle, hcalled, hdropped, hgot⟩

end SubscriberCallback

end RosrustAsync
