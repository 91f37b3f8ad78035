import Mathlib.Data.List.ReduceOption
import RosrustAsync.ClockTimers
import RosrustAsync.Lib.Slots

namespace RosrustAsync.Clock

open Runs

def FirstPoll (f : SleepFuture) : Prop :=
  (∃ w, f.pc = .register w) ∧ f.waker = none ∨ ∃ w, f.pc = .send w

/-- No clock message reaches a deadline that a first poll has found to lie ahead, or whose entry
waits in the channel. -/
def Clear (s : Clock) (t : Time) : Prop :=
  (∀ f ∈ s.futures, FirstPoll f → t < f.deadline) ∧ s.PassesNone t

/-- The clock messages still to be handled, oldest first. -/
def unread (s : Clock) : List Time :=
  (s.latchedMsgs ++ s.clockMsgs.sent.drop s.clockRx).reduceOption

def NonDecreasing (s : Clock) : Label → Prop
  | .publish (some t) => s.time.get ≤ t ∧ ∀ t' ∈ s.unread, t' ≤ t
  | _ => True

/-- No clock message comes between a poll and its timer. -/
def Undisturbed (s : Clock) : Label → Prop
  | .recvClock => ∀ t s', s.recv = some (.value (some t), s') → s.Clear t ∧ s.WakesPoll t
  | _ => True

structure Punctual (s : Clock) : Prop where
  ordered : s.unread.Pairwise (· ≤ ·)
  time_le : ∀ t ∈ s.unread, s.time.get ≤ t
  fired_le : ∀ f ∈ s.futures, f.fired → f.deadline ≤ s.time.get
  polling : ∀ f ∈ s.futures, FirstPoll f → s.time.get < f.deadline
  late : ∀ e, s.InFlight e → ∀ f, s.futures[e.waker]? = some f → Live f → s.time.get < e.deadline

theorem fromSubscriber_punctual {latchedMsgs : List (Option Time)}
    {clockMsgs : Broadcast (Option Time)} {clockRx : ℕ}
    (hordered : (fromSubscriber latchedMsgs clockMsgs clockRx).unread.Pairwise (· ≤ ·)) :
    (fromSubscriber latchedMsgs clockMsgs clockRx).Punctual := by
  refine ⟨hordered, fun t _ => ?_, by simp [fromSubscriber], by simp [fromSubscriber],
    fun e he => ?_⟩
  · have hzero : (fromSubscriber latchedMsgs clockMsgs clockRx).time.get = ⟨0, 0⟩ :=
      EncodedTime.get_new _
    exact hzero ▸ Time.zero_le t
  · rcases he with he | he <;> cases he

/-- What is received leaves the unread messages, and older ones may be passed over. -/
theorem unread_recv {s s' : Clock} {received : Received (Option Time)}
    (h : s.recv = some (received, s')) :
    s'.unread.Sublist s.unread ∧
      ∀ t, received = .value (some t) → (t :: s'.unread).Sublist s.unread := by
  obtain ⟨msg, msgs, hlatched, rfl, rfl⟩ | ⟨hlatched, next, hrecv, rfl⟩ := recv_cases h
  · simp only [unread, hlatched, List.cons_append]
    cases msg with
    | none => exact ⟨.refl _, by simp⟩
    | some t =>
      refine ⟨List.sublist_cons_self _ _, fun t' ht => ?_⟩
      cases ht
      exact .refl _
  · simp only [unread, hlatched, List.nil_append]
    cases received with
    | value msg =>
      obtain ⟨hn, rfl, -⟩ := Broadcast.recv_value hrecv
      obtain ⟨hlt, hmsg⟩ := List.getElem?_eq_some_iff.mp hn
      rw [List.drop_eq_getElem_cons hlt, hmsg]
      refine ⟨(List.sublist_cons_self _ _).filterMap _, fun t ht => ?_⟩
      cases ht
      exact .refl _
    | lagged missed =>
      obtain ⟨hlt, rfl⟩ := Broadcast.recv_lagged hrecv
      exact ⟨(List.drop_sublist_drop_left _ hlt.le).filterMap _, by simp⟩
    | closed =>
      obtain ⟨rfl, -⟩ := Broadcast.recv_closed hrecv
      exact ⟨.refl _, by simp⟩

theorem Punctual.setFuture {s : Clock} (h : s.Punctual) {i : ℕ} {f : SleepFuture}
    (hi : s.futures[i]? = some f) (g : SleepFuture) (hg : g.deadline = f.deadline ∧ g.fired = f.fired)
    (hlive : Live g → Live f) (hpoll : FirstPoll g → s.time.get < g.deadline)
    {rx : List TimerEntry} (hrx : ∀ e ∈ rx, e ∈ s.timerRx ∨ s.time.get < e.deadline) :
    Punctual { s with timerRx := rx, futures := s.futures.set i g } := by
  refine ⟨h.ordered, h.time_le, fun f' hf => ?_, fun f' hf => ?_,
    fun e he f' hf' hf'live => ?_⟩
  · rcases List.mem_or_eq_of_mem_set hf with hf | rfl
    · exact h.fired_le f' hf
    · rw [hg.1, hg.2]
      exact h.fired_le _ (List.mem_of_getElem? hi)
  · rcases List.mem_or_eq_of_mem_set hf with hf | rfl
    · exact h.polling f' hf
    · exact hpoll
  · have hwas : s.InFlight e ∨ s.time.get < e.deadline := by
      rcases he with he | he
      · exact (hrx e he).imp_left .inl
      · exact .inl (.inr he)
    rcases hwas with hwas | hlate
    · rcases getElem?_set_cases hf' with ⟨rfl, rfl⟩ | ⟨-, hold⟩
      · exact h.late e hwas f hi (hlive hf'live)
      · exact h.late e hwas f' hold hf'live
    · exact hlate

theorem firstPoll_notify {f : SleepFuture} : FirstPoll f.notify ↔ FirstPoll f := by
  simp [FirstPoll, SleepFuture.notify]

theorem Punctual.recv {s s' : Clock} {received : Received (Option Time)} (h : s.Punctual)
    (hrecv : s.recv = some (received, s')) :
    s'.Punctual ∧ ∀ t, received = .value (some t) → s.time.get ≤ t ∧ ∀ t' ∈ s'.unread, t ≤ t' := by
  obtain ⟨hsub, hvalue⟩ := unread_recv hrecv
  obtain ⟨msgs, next, rfl⟩ := recv_frame hrecv
  refine ⟨⟨h.ordered.sublist hsub, fun t ht => h.time_le t (hsub.subset ht), h.fired_le,
    h.polling, h.late⟩, fun t ht => ?_⟩
  have hcons := h.ordered.sublist (hvalue t ht)
  exact ⟨h.time_le t ((hvalue t ht).subset List.mem_cons_self), (List.pairwise_cons.mp hcons).1⟩

theorem Punctual.onTick {s : Clock} (h : s.Punctual) (hinv : s.Invariant) {t : Time}
    (hle : s.time.get ≤ t) (hnext : ∀ t' ∈ s.unread, t ≤ t') (hclear : s.Clear t) :
    (s.onTick t).Punctual := by
  have htime : (s.onTick t).time.get = t := EncodedTime.get_set s.time t
  have hget : ∀ {i : ℕ} {f' : SleepFuture}, (s.onTick t).futures[i]? = some f' →
      ∃ f, s.futures[i]? = some f ∧ (f' = f ∨ f' = f.notify ∧ f.deadline ≤ t) := by
    intro i f' hi
    simp only [Clock.onTick, getElem?_foldl_notify, Option.map_eq_some_iff] at hi
    obtain ⟨f, hi, rfl⟩ := hi
    refine ⟨f, hi, ?_⟩
    split
    · rename_i hdue
      exact .inr ⟨rfl, (hinv.due hi hdue).2⟩
    · exact .inl rfl
  have hfuture : ∀ f' ∈ (s.onTick t).futures, ∃ f ∈ s.futures,
      f' = f ∨ f' = f.notify ∧ f.deadline ≤ t := by
    intro f' hf'
    obtain ⟨i, hi⟩ := List.mem_iff_getElem?.mp hf'
    obtain ⟨f, hi, hf⟩ := hget hi
    exact ⟨f, List.mem_of_getElem? hi, hf⟩
  refine ⟨h.ordered, fun t' ht' => ?_, fun f' hf' hfired => ?_, fun f' hf' hpoll => ?_,
    fun e he f' hf' hlive => ?_⟩
  · rw [htime]
    exact hnext t' ht'
  · rw [htime]
    obtain ⟨f, hf, rfl | ⟨rfl, hd⟩⟩ := hfuture f' hf'
    · exact (h.fired_le f' hf hfired).trans hle
    · exact hd
  · rw [htime]
    obtain ⟨f, hf, rfl | ⟨rfl, -⟩⟩ := hfuture f' hf'
    · exact hclear.1 f' hf hpoll
    · exact hclear.1 f hf (firstPoll_notify.mp hpoll)
  · rw [htime]
    rcases he with he | he
    · obtain ⟨f, hf, rfl | ⟨rfl, -⟩⟩ := hget hf'
      · exact hclear.2 e he f' hf hlive
      · exact hclear.2 e he f hf hlive
    · exact (MinQueue.mem_popDue_snd.mp he).2

theorem Punctual.publish {s : Clock} (h : s.Punctual) {msg : Option Time}
    (hok : s.NonDecreasing (.publish msg)) : Punctual { s with clockMsgs := s.clockMsgs.send msg } := by
  have hsub : (unread { s with clockMsgs := s.clockMsgs.send msg }).Sublist
      (s.unread ++ msg.toList) := by
    simp only [unread, Broadcast.send, List.drop_append, ← List.reduceOption_concat,
      List.concat_eq_append, List.append_assoc]
    exact (((List.drop_sublist _ _).append_left _).append_left _).filterMap _
  have hunread : ∀ t' ∈ unread { s with clockMsgs := s.clockMsgs.send msg },
      t' ∈ s.unread ∨ msg = some t' := by
    intro t' ht'
    exact (List.mem_append.mp (hsub.subset ht')).imp_right Option.mem_toList.mp
  refine ⟨?_, fun t' ht' => ?_, h.fired_le, h.polling, h.late⟩
  · refine List.Pairwise.sublist hsub (List.pairwise_append.mpr ⟨h.ordered, ?_, fun a ha b hb => ?_⟩)
    · cases msg <;> simp
    · obtain rfl := Option.mem_toList.mp hb
      exact hok.2 a ha
  · rcases hunread t' ht' with ht' | rfl
    · exact h.time_le t' ht'
    · exact hok.1

theorem Punctual.steady {s : Clock} (h : s.Punctual) {label : Label} (hok : s.Undisturbed label) :
    s.Steady label := by
  cases label with
  | pollTime i w => exact fun f hi hfired => h.fired_le f (List.mem_of_getElem? hi) hfired
  | recvClock => exact fun t s' hrecv => (hok t s' hrecv).2
  | _ => trivial

theorem recvClock_punctual {s s' : Clock} (h : s.Punctual) (hinv : s.Invariant)
    (hok : s.Undisturbed .recvClock) (hs : s.recvClock = some s') : s'.Punctual := by
  obtain ⟨received, s₁, hrecv, hs⟩ := recvClock_cases hs
  obtain ⟨h₁, hvalue⟩ := h.recv hrecv
  rcases hs with ⟨t, rfl, rfl⟩ | ⟨-, rfl⟩ | ⟨-, rfl⟩
  · obtain ⟨hle, hnext⟩ := hvalue t rfl
    have hclear := (hok t _ hrecv).1
    obtain ⟨msgs, next, rfl⟩ := recv_frame hrecv
    exact h₁.onTick ⟨hinv.entries, hinv.futures⟩ hle hnext hclear
  · exact h₁
  · exact ⟨h₁.ordered, h₁.time_le, h₁.fired_le, h₁.polling, h₁.late⟩

theorem step_punctual {s s' : Clock} {label : Label} (hinv : s.Running → s.Invariant)
    (h : s.Running → s.Punctual) (hnd : s.NonDecreasing label) (hok : s.Undisturbed label)
    (hs : s.step label = some s') (hrun : s'.Running) : s'.Punctual := by
  cases label with
  | sleepUntil deadline =>
    cases hs
    have h := h hrun
    refine ⟨h.ordered, h.time_le, fun f hf => ?_, fun f hf => ?_, fun e he f hf => ?_⟩
    · rcases List.mem_append.mp hf with hf | hf
      · exact h.fired_le f hf
      · simp [List.mem_singleton.mp hf, SleepFuture.new]
    · rcases List.mem_append.mp hf with hf | hf
      · exact h.polling f hf
      · simp [List.mem_singleton.mp hf, FirstPoll, SleepFuture.new]
    · obtain ⟨f', hf', -⟩ := (hinv hrun).entries e he
      have hlt := (List.getElem?_eq_some_iff.mp hf').1
      exact h.late e he f ((List.getElem?_append_left hlt).symm.trans hf)
  | pollTime i waker =>
    obtain ⟨f, hi, hs⟩ := stepFuture_some hs
    split at hs
    · rename_i hpc
      cases hs
      have h := h hrun
      refine h.setFuture hi (s.pollTime waker f) ⟨rfl, rfl⟩ (fun _ => by simp [Live, hpc])
        (fun hpoll => ?_) (fun _ he => .inl he)
      by_cases hnow : f.deadline ≤ s.time.get
      · simp [FirstPoll, pollTime, hnow] at hpoll
      · exact Time.not_le.mp hnow
    · cases hs
  | pollRegister i =>
    obtain ⟨f, hi, hs⟩ := stepFuture_some hs
    split at hs
    · rename_i waker hpc
      cases hs
      have h := h hrun
      have hlive : Live f := by simp [Live, hpc]
      unfold pollRegister
      split
      · exact h.setFuture hi { f with waker := some (some waker), pc := .idle } ⟨rfl, rfl⟩
          (fun _ => hlive) (by simp [FirstPoll]) (fun _ he => .inl he)
      · rename_i hnone
        exact h.setFuture hi { f with pc := .send waker } ⟨rfl, rfl⟩ (fun _ => hlive)
          (fun _ => h.polling f (List.mem_of_getElem? hi) (.inl ⟨⟨waker, hpc⟩, hnone⟩))
          (fun _ he => .inl he)
    · cases hs
  | pollSend i =>
    obtain ⟨f, hi, hs⟩ := stepFuture_some hs
    split at hs
    · rename_i waker hpc
      cases hs
      have h := h (pollSend_running hrun)
      have hf := List.mem_of_getElem? hi
      unfold pollSend
      split
      · exact h.setFuture hi { f with pc := .ready } ⟨rfl, rfl⟩ (by simp [Live])
          (by simp [FirstPoll]) (fun _ he => .inl he)
      · refine h.setFuture hi { f with waker := some (some waker), pc := .idle } ⟨rfl, rfl⟩
          (fun _ => by simp [Live, hpc]) (by simp [FirstPoll]) (fun e he => ?_)
        apply (List.mem_append.mp he).imp_right
        intro he
        exact List.mem_singleton.mp he ▸ h.polling f hf (.inr ⟨waker, hpc⟩)
    · cases hs
  | dropFuture i =>
    obtain ⟨f, hi, hs⟩ := stepFuture_some hs
    split at hs
    · cases hs
      have h := h hrun
      exact h.setFuture hi { f with pc := .dropped } ⟨rfl, rfl⟩ (by simp [Live])
        (by simp [FirstPoll]) (fun _ he => .inl he)
    · cases hs
  | publish msg =>
    cases hs
    exact (h hrun).publish hnd
  | recvTimer =>
    simp only [step] at hs
    split at hs
    · rename_i hpc hrx
      cases hs
      have h := h (.inl hpc)
      refine ⟨h.ordered, h.time_le, h.fired_le, h.polling, fun e he => h.late e ?_⟩
      rw [InFlight, MinQueue.mem_push] at he
      rw [InFlight, hrx, List.mem_cons]
      tauto
    · cases hs
  | recvClock =>
    simp only [step] at hs
    split at hs
    · rename_i hpc
      exact recvClock_punctual (h (.inl hpc)) (hinv (.inl hpc)) hok hs
    · cases hs
  | cancel =>
    cases hs
    have h := h hrun
    exact ⟨h.ordered, h.time_le, h.fired_le, h.polling, h.late⟩
  | cancelled =>
    simp only [step] at hs
    split at hs
    · rename_i hpc
      split at hs
      · cases hs
        have h := h (.inl hpc)
        exact ⟨h.ordered, h.time_le, h.fired_le, h.polling, h.late⟩
      · cases hs
    · cases hs
  | close => exact absurd hrun (close_not_running hs)
  | drainTimer k => exact absurd hrun (drainTimer_not_running hs)
  | drainChannel => exact absurd hrun (drainChannel_not_running hs)

theorem run_punctual {latchedMsgs : List (Option Time)} {clockMsgs : Broadcast (Option Time)}
    {clockRx : ℕ} {s : Clock} {labels : List Label}
    (hordered : (fromSubscriber latchedMsgs clockMsgs clockRx).unread.Pairwise (· ≤ ·))
    (hrun : Run step (fun s label => s.NonDecreasing label ∧ s.Undisturbed label)
      (fromSubscriber latchedMsgs clockMsgs clockRx) labels s) :
    s.Running → s.Invariant ∧ s.Punctual := by
  refine hrun.invariant (I := fun s => s.Running → s.Invariant ∧ s.Punctual)
    (fun s label s' h hok hs hrun => ?_)
    (fun _ => ⟨fromSubscriber_invariant _ _ _, fromSubscriber_punctual hordered⟩)
  have hinv : s.Running → s.Invariant := fun hr => (h hr).1
  have hpunctual : s.Running → s.Punctual := fun hr => (h hr).2
  exact ⟨step_invariant hinv (fun hr => (hpunctual hr).steady hok.2) hs hrun,
    step_punctual hinv hpunctual hok.1 hok.2 hs hrun⟩

theorem no_missed_wakeup {latchedMsgs : List (Option Time)} {clockMsgs : Broadcast (Option Time)}
    {clockRx : ℕ} {s : Clock} {labels : List Label}
    (hordered : (fromSubscriber latchedMsgs clockMsgs clockRx).unread.Pairwise (· ≤ ·))
    (hrun : Run step (fun s label => s.NonDecreasing label ∧ s.Undisturbed label)
      (fromSubscriber latchedMsgs clockMsgs clockRx) labels s)
    (hpc : s.pc = .select) {f : SleepFuture} (hf : f ∈ s.futures) (hpending : Pending f)
    (hreached : f.deadline ≤ s.time.get) : f.woken = true := by
  obtain ⟨hinv, hpunctual⟩ := run_punctual hordered hrun (.inl hpc)
  obtain ⟨i, hi⟩ := List.mem_iff_getElem?.mp hf
  obtain ⟨r, hr⟩ := Option.isSome_iff_exists.mp hpending.2
  rcases (hinv.futures i f hi).idle hpending.1 r hr with ⟨-, hflight⟩ | ⟨-, hw⟩
  · have hlive : Live f := by simp [Live, hpending.1]
    exact absurd hreached (hpunctual.late _ hflight f hi hlive).not_ge
  · exact hw

theorem no_missed_wakeup_in_heap : ∃ (s : Clock) (f : SleepFuture), f ∈ s.futures ∧ Pending f ∧
    f.deadline ≤ s.time.get ∧ f.woken = true := by
  obtain ⟨s, hrun, hpc, f, hf, hpending, ht⟩ : ∃ s,
      Run step (fun s label => s.NonDecreasing label ∧ s.Undisturbed label)
        (fromSubscriber [some ⟨1, 0⟩] ⟨1, [], false⟩ 0)
        [.recvClock, .sleepUntil ⟨5, 0⟩, .pollTime 0 7, .pollRegister 0, .pollSend 0, .recvTimer,
          .publish (some ⟨5, 0⟩), .recvClock] s ∧ s.pc = .select ∧
      ∃ f ∈ s.futures, Pending f ∧ f.deadline ≤ s.time.get := by
    refine ⟨_, .cons ⟨trivial, fun t _ _ => ⟨⟨?_, fun e he => ?_⟩, WakesPoll.of_idle (by decide) t⟩⟩ rfl <|
      .cons ⟨trivial, trivial⟩ rfl <| .cons ⟨trivial, trivial⟩ rfl <|
      .cons ⟨trivial, trivial⟩ rfl <| .cons ⟨trivial, trivial⟩ rfl <|
      .cons ⟨trivial, trivial⟩ rfl <| .cons ⟨⟨by decide, by decide⟩, trivial⟩ rfl <|
      .cons ⟨trivial, fun t _ _ => ⟨⟨fun f hf hp => ?_, fun e he => ?_⟩,
        WakesPoll.of_idle (by decide) t⟩⟩ rfl <| .nil _, rfl, _, List.mem_singleton_self _,
      ⟨rfl, rfl⟩, by decide⟩
    · intro f hf
      cases hf
    · cases he
    · obtain rfl := List.mem_singleton.mp hf
      rcases hp with ⟨⟨w, hp⟩, -⟩ | ⟨w, hp⟩ <;> cases hp
    · cases he
  exact ⟨s, f, hf, hpending, ht, no_missed_wakeup (by decide) hrun hpc hf hpending ht⟩

/-- The clock message is handled between the poll's time read and the arrival of its entry. -/
theorem wakeup_missed : ∃ (s : Clock) (labels : List Label) (f : SleepFuture),
    Run step NonDecreasing simClock labels s ∧ s.pc = .select ∧ s.timerRx = [] ∧
      s.unread = [] ∧ f ∈ s.futures ∧ Pending f ∧ f.deadline ≤ s.time.get ∧
      f.woken = false := by
  refine ⟨_, [.sleepUntil ⟨5, 0⟩, .pollTime 0 7, .publish (some ⟨5, 0⟩), .recvClock,
    .pollRegister 0, .pollSend 0, .recvTimer], _, .cons trivial rfl <| .cons trivial rfl <|
    .cons ⟨by decide, by decide⟩ rfl <| .cons trivial rfl <| .cons trivial rfl <|
    .cons trivial rfl <| .cons trivial rfl <| .nil _, rfl, rfl, rfl, List.mem_singleton_self _,
    ⟨rfl, rfl⟩, by decide, rfl⟩

end RosrustAsync.Clock
