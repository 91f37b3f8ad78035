import Mathlib.Data.List.Perm.Basic
import RosrustAsync.ClockTimers

namespace RosrustAsync.Clock

/-! What happens to the timer entries in a run of the clock. -/

inductive Event : Type
  | sent (e : TimerEntry)
  | tick (t : Time)
  | ticked (t : Time) (e : TimerEntry)
  | drained (e : TimerEntry)

def sentOf : Event → Option TimerEntry
  | .sent e => some e
  | _ => none

def notifiedOf : Event → Option TimerEntry
  | .ticked _ e | .drained e => some e
  | _ => none

def sends (log : List Event) : List TimerEntry := log.filterMap sentOf

def notices (log : List Event) : List TimerEntry := log.filterMap notifiedOf

/-- What a step that is taken does to the entries. -/
def events (s : Clock) : Label → List Event
  | .pollSend i =>
    match s.futures[i]? with
    | some f => if s.timerClosed then [] else [.sent ⟨f.deadline, i⟩]
    | none => []
  | .recvClock =>
    match s.recv with
    | some (.value (some t), _) => .tick t :: (s.timers.popDue t.nanos).1.map (.ticked t)
    | _ => []
  | .drainTimer k =>
    match s.timers.entries[k]? with
    | some e => [.drained e]
    | none => []
  | .drainChannel =>
    match s.timerRx with
    | e :: _ => [.drained e]
    | [] => []
  | _ => []

def loggedStep (x : Clock × List Event) (label : Label) : Option (Clock × List Event) :=
  (x.1.step label).map fun s => (s, x.2 ++ x.1.events label)

theorem events_tick {s s₁ : Clock} {t : Time} (h : s.recv = some (.value (some t), s₁)) :
    s.events .recvClock = .tick t :: (s.timers.popDue t.nanos).1.map (.ticked t) := by
  simp only [events, h]

theorem events_recv {s s₁ : Clock} {received : Received (Option Time)}
    (h : s.recv = some (received, s₁)) (hreceived : ∀ t, received ≠ .value (some t)) :
    s.events .recvClock = [] := by
  simp only [events, h]
  split
  · rename_i t s' hvalue
    cases hvalue
    exact absurd rfl (hreceived t)
  · rfl

theorem mem_sends {log : List Event} {e : TimerEntry} : e ∈ sends log ↔ .sent e ∈ log := by
  rw [sends, List.mem_filterMap]
  constructor
  · rintro ⟨ev, hev, hsent⟩
    cases ev <;> cases hsent
    exact hev
  · exact fun h => ⟨_, h, rfl⟩

theorem sends_append (log log' : List Event) : sends (log ++ log') = sends log ++ sends log' :=
  List.filterMap_append ..

theorem notices_append (log log' : List Event) :
    notices (log ++ log') = notices log ++ notices log' := List.filterMap_append ..

theorem sends_tick (t : Time) (due : List TimerEntry) :
    sends (.tick t :: due.map (.ticked t)) = [] := by
  simp [sends, sentOf]

theorem notices_tick (t : Time) (due : List TimerEntry) :
    notices (.tick t :: due.map (.ticked t)) = due := by
  have hcomp : notifiedOf ∘ Event.ticked t = some := rfl
  rw [notices, List.filterMap_cons_none (by rfl), List.filterMap_map, hcomp, List.filterMap_some]

/-- Every entry that was sent is in the channel, in the heap or notified, and in one of them once. -/
structure Conserved (s : Clock) (log : List Event) : Prop where
  perm : (sends log).Perm (s.timerRx ++ s.timers.entries ++ notices log)
  nodup : (sends log).Nodup
  owner : ∀ e ∈ sends log, ∃ f, s.futures[e.waker]? = some f ∧ f.deadline = e.deadline ∧
    f.waker.isSome
  unsent : ∀ (i : ℕ) f w, s.futures[i]? = some f → f.pc = .send w → f.waker = none
  reached : ∀ t e, .ticked t e ∈ log → e.deadline ≤ t
  opened : s.Running ↔ s.timerClosed = false
  empty : s.pc = .finished → s.timerRx = [] ∧ s.timers.entries = []

theorem fromSubscriber_conserved (latchedMsgs : List (Option Time))
    (clockMsgs : Broadcast (Option Time)) (clockRx : ℕ) :
    (fromSubscriber latchedMsgs clockMsgs clockRx).Conserved [] where
  perm := .refl _
  nodup := .nil
  owner := by simp [sends]
  unsent := by simp [fromSubscriber]
  reached := by simp
  opened := by simp [fromSubscriber, Running]
  empty := by simp [fromSubscriber]

namespace Conserved

variable {s : Clock} {log : List Event}

theorem inFlight_sent (h : s.Conserved log) {e : TimerEntry} (he : s.InFlight e) :
    e ∈ sends log := by
  rw [h.perm.mem_iff]
  rcases he with he | he <;> simp [he]

theorem inFlight_not_notified (h : s.Conserved log) {e : TimerEntry} (he : s.InFlight e) :
    e ∉ notices log := by
  have hnodup := h.perm.nodup_iff.mp h.nodup
  have hdisjoint := List.disjoint_of_nodup_append hnodup
  refine fun hnoticed => hdisjoint ?_ hnoticed
  exact List.mem_append.mpr he

theorem entry_eq (h : s.Conserved log) {e e' : TimerEntry} (he : e ∈ sends log)
    (he' : e' ∈ sends log) (hwaker : e.waker = e'.waker) : e = e' := by
  obtain ⟨f, hf, hd, -⟩ := h.owner e he
  obtain ⟨f', hf', hd', -⟩ := h.owner e' he'
  rw [hwaker, hf'] at hf
  cases hf
  obtain ⟨deadline, waker⟩ := e
  obtain ⟨deadline', waker'⟩ := e'
  exact TimerEntry.mk.injEq .. ▸ ⟨hd.symm.trans hd', hwaker⟩

theorem apart (h : s.Conserved log) {e e' : TimerEntry} (he : s.InFlight e)
    (he' : e' ∈ notices log) : e.waker ≠ e'.waker := by
  intro hwaker
  have hsent : e' ∈ sends log := h.perm.mem_iff.mpr (List.mem_append_right _ he')
  obtain rfl := h.entry_eq (h.inFlight_sent he) hsent hwaker
  exact h.inFlight_not_notified he he'

theorem setFuture (h : s.Conserved log) {i : ℕ} {f g : SleepFuture} (hi : s.futures[i]? = some f)
    (hg : g.deadline = f.deadline) (hwaker : f.waker.isSome → g.waker.isSome)
    (hsend : ∀ w, g.pc = .send w → g.waker = none) :
    Conserved { s with futures := s.futures.set i g } log := by
  have hlt := (List.getElem?_eq_some_iff.mp hi).1
  refine ⟨h.perm, h.nodup, fun e he => ?_, fun j f' w hj hpc => ?_, h.reached, h.opened, h.empty⟩
  · obtain ⟨f', hf', hd, hw⟩ := h.owner e he
    by_cases hei : e.waker = i
    · rw [hei, hi] at hf'
      cases hf'
      exact ⟨g, by rw [hei]; exact List.getElem?_set_self hlt, hg.trans hd, hwaker hw⟩
    · exact ⟨f', (List.getElem?_set_ne (Ne.symm hei)).trans hf', hd, hw⟩
  · by_cases hji : j = i
    · subst hji
      obtain rfl : g = f' := Option.some.inj ((List.getElem?_set_self hlt).symm.trans hj)
      exact hsend w hpc
    · exact h.unsent j f' w ((List.getElem?_set_ne (Ne.symm hji)).symm.trans hj) hpc

theorem not_sent (h : s.Conserved log) {i w : ℕ} {f : SleepFuture} (hi : s.futures[i]? = some f)
    (hpc : f.pc = .send w) : ⟨f.deadline, i⟩ ∉ sends log := by
  intro hsent
  obtain ⟨f', hf', -, hw⟩ := h.owner _ hsent
  rw [hi] at hf'
  cases hf'
  rw [h.unsent i f w hi hpc] at hw
  cases hw

theorem send (h : s.Conserved log) {i w : ℕ} {f : SleepFuture} (hi : s.futures[i]? = some f)
    (hpc : f.pc = .send w) (hopen : s.timerClosed = false) :
    Conserved { s with
      timerRx := s.timerRx ++ [⟨f.deadline, i⟩]
      futures := s.futures.set i { f with waker := some (some w), pc := .idle } }
      (log ++ [.sent ⟨f.deadline, i⟩]) := by
  have hset := h.setFuture (g := { f with waker := some (some w), pc := .idle }) hi rfl
    (fun _ => rfl) (by simp)
  have hlt := (List.getElem?_eq_some_iff.mp hi).1
  have hsends : sends (log ++ [.sent ⟨f.deadline, i⟩]) = sends log ++ [⟨f.deadline, i⟩] :=
    sends_append ..
  have hnotices : notices (log ++ [.sent ⟨f.deadline, i⟩]) = notices log := by
    rw [notices_append]
    exact List.append_nil _
  refine ⟨?_, ?_, fun e he => ?_, hset.unsent, fun t e he => ?_, h.opened, fun hfin => ?_⟩
  · rw [hsends, hnotices]
    refine (h.perm.append_right _).trans ?_
    simp only [List.append_assoc]
    apply List.Perm.append_left
    rw [← List.append_assoc]
    exact List.perm_append_comm
  · rw [hsends, ← List.concat_eq_append]
    exact h.nodup.concat (h.not_sent hi hpc)
  · rw [hsends] at he
    rcases List.mem_append.mp he with he | he
    · exact hset.owner e he
    · rw [List.mem_singleton.mp he]
      exact ⟨_, List.getElem?_set_self hlt, rfl, rfl⟩
  · rcases List.mem_append.mp he with he | he
    · exact h.reached t e he
    · cases List.mem_singleton.mp he
  · have hrun := h.opened.mpr hopen
    have hpc : s.pc = .finished := hfin
    rw [Running, hpc] at hrun
    rcases hrun with hrun | hrun <;> cases hrun

theorem task {s' : Clock} {evs : List Event} (h : s.Conserved log) (hsends : sends evs = [])
    (hperm : (s.timerRx ++ s.timers.entries).Perm (s'.timerRx ++ s'.timers.entries ++ notices evs))
    (hdue : ∀ t e, .ticked t e ∈ evs → e.deadline ≤ t)
    (hfutures : ∀ (i : ℕ) f, s.futures[i]? = some f → ∃ f', s'.futures[i]? = some f' ∧
      f'.deadline = f.deadline ∧ f'.pc = f.pc ∧ f'.waker.isSome = f.waker.isSome)
    (hlength : s'.futures.length = s.futures.length)
    (hopened : s'.Running ↔ s'.timerClosed = false)
    (hempty : s'.pc = .finished → s'.timerRx = [] ∧ s'.timers.entries = []) :
    s'.Conserved (log ++ evs) := by
  have hsent : sends (log ++ evs) = sends log := by
    rw [sends_append, hsends, List.append_nil]
  refine ⟨?_, ?_, fun e he => ?_, fun i f' w hi hpc => ?_, fun t e he => ?_, hopened, hempty⟩
  · rw [hsent, notices_append]
    refine h.perm.trans ((hperm.append_right _).trans ?_)
    simp only [List.append_assoc]
    exact ((List.perm_append_comm.append_left _).append_left _)
  · rw [hsent]
    exact h.nodup
  · rw [hsent] at he
    obtain ⟨f, hf, hd, hw⟩ := h.owner e he
    obtain ⟨f', hf', hd', -, hw'⟩ := hfutures e.waker f hf
    exact ⟨f', hf', hd'.trans hd, hw'.trans hw⟩
  · have hlt : i < s.futures.length := hlength ▸ (List.getElem?_eq_some_iff.mp hi).1
    obtain ⟨f₁, hf₁, -, hpc', hw'⟩ := hfutures i _ (List.getElem?_eq_getElem hlt)
    rw [hi] at hf₁
    cases hf₁
    have hnone := h.unsent i _ w (List.getElem?_eq_getElem hlt) (hpc'.symm.trans hpc)
    rw [hnone] at hw'
    exact Option.isNone_iff_eq_none.mp (by simpa using hw')
  · rcases List.mem_append.mp he with he | he
    · exact h.reached t e he
    · exact hdue t e he

theorem notify_frame (futures : List SleepFuture) (due : List TimerEntry) (i : ℕ) (f : SleepFuture)
    (hf : futures[i]? = some f) : ∃ f', (due.foldl notify futures)[i]? = some f' ∧
      f'.deadline = f.deadline ∧ f'.pc = f.pc ∧ f'.waker.isSome = f.waker.isSome := by
  rw [getElem?_foldl_notify, hf]
  refine ⟨_, rfl, ?_⟩
  split
  · exact ⟨rfl, rfl, Option.isSome_map⟩
  · exact ⟨rfl, rfl, rfl⟩

theorem length_foldl_notify (due : List TimerEntry) (futures : List SleepFuture) :
    (due.foldl notify futures).length = futures.length := by
  induction due generalizing futures with
  | nil => rfl
  | cons e due ih =>
    rw [List.foldl_cons, ih]
    exact List.length_modify ..

theorem onTick (h : s.Conserved log) (hpc : s.pc = .select) (t : Time) :
    (s.onTick t).Conserved
      (log ++ Event.tick t :: (s.timers.popDue t.nanos).1.map (.ticked t)) := by
  have hopen := h.opened.mp (.inl hpc)
  refine h.task (sends_tick t _) ?_ (fun t' e he => ?_) (notify_frame _ _) (length_foldl_notify _ _)
    ⟨fun _ => hopen, fun _ => .inl hpc⟩ (fun hfin => ?_)
  · rw [notices_tick]
    simp only [Clock.onTick, List.append_assoc]
    apply List.Perm.append_left
    have hsplit := MinQueue.splitDue_append TimerEntry.nanos t.nanos s.timers.entries
    refine (List.Perm.of_eq hsplit.symm).trans ?_
    exact List.perm_append_comm
  · simp only [List.mem_cons, reduceCtorEq, List.mem_map, Event.ticked.injEq, false_or] at he
    obtain ⟨e', he', rfl, rfl⟩ := he
    exact (MinQueue.mem_popDue_fst.mp he').2
  · have hpc' : s.pc = .finished := hfin
    rw [hpc] at hpc'
    cases hpc'

theorem drain {s' : Clock} {e : TimerEntry} (h : s.Conserved log) (hpc : s.pc = .drain)
    (hpc' : s'.pc = .drain) (hclosed : s'.timerClosed = s.timerClosed)
    (hperm : (s.timerRx ++ s.timers.entries).Perm (s'.timerRx ++ s'.timers.entries ++ [e]))
    (hfutures : s'.futures = notify s.futures e) : s'.Conserved (log ++ [.drained e]) := by
  have hstill : ¬ s.Running := by simp [Running, hpc]
  have hstill' : ¬ s'.Running := by simp [Running, hpc']
  have hfold : s'.futures = [e].foldl notify s.futures := hfutures
  refine h.task rfl hperm (fun t e' he => ?_) (fun i f hf => ?_) ?_ ?_ (fun hfin => ?_)
  · cases List.mem_singleton.mp he
  · rw [hfold]
    exact notify_frame _ _ i f hf
  · rw [hfold]
    exact length_foldl_notify _ _
  · rw [hclosed, ← h.opened]
    exact ⟨fun hrun => absurd hrun hstill', fun hrun => absurd hrun hstill⟩
  · rw [hpc'] at hfin
    cases hfin

theorem frame {s' : Clock} (h : s.Conserved log) (hrx : s'.timerRx = s.timerRx)
    (htimers : s'.timers = s.timers) (hfutures : s'.futures = s.futures)
    (hopened : s'.Running ↔ s'.timerClosed = false)
    (hempty : s'.pc = .finished → s.timerRx = [] ∧ s.timers.entries = []) :
    s'.Conserved log := by
  refine ⟨?_, h.nodup, ?_, ?_, h.reached, hopened, ?_⟩
  · rw [hrx, htimers]
    exact h.perm
  · rw [hfutures]
    exact h.owner
  · rw [hfutures]
    exact h.unsent
  · rw [hrx, htimers]
    exact hempty

theorem recvTimer (h : s.Conserved log) (hpc : s.pc = .select) {entry : TimerEntry}
    {entries : List TimerEntry} (hrx : s.timerRx = entry :: entries) :
    Conserved { s with timers := s.timers.push entry, timerRx := entries } log := by
  have hopen := h.opened.mp (.inl hpc)
  rw [← List.append_nil log]
  refine h.task rfl ?_ (by simp) (fun i f hf => ⟨f, hf, rfl, rfl, rfl⟩) rfl
    ⟨fun _ => hopen, fun _ => .inl hpc⟩ (fun hfin => ?_)
  · have hpush : (s.timers.push entry).entries.Perm (entry :: s.timers.entries) :=
      List.perm_orderedInsert ..
    rw [hrx]
    simp only [notices, List.filterMap_nil, List.append_nil]
    refine List.Perm.trans ?_ (hpush.symm.append_left entries)
    exact List.perm_middle.symm
  · have hpc' : s.pc = .finished := hfin
    rw [hpc] at hpc'
    cases hpc'

theorem recvClock {s' : Clock} (h : s.Conserved log) (hpc : s.pc = .select)
    (hs : s.recvClock = some s') : s'.Conserved (log ++ s.events .recvClock) := by
  obtain ⟨received, s₁, hrecv, hs⟩ := recvClock_cases hs
  have hopen := h.opened.mp (.inl hpc)
  obtain ⟨msgs, next, rfl⟩ := recv_frame hrecv
  have h₁ : Conserved { s with latchedMsgs := msgs, clockRx := next } log :=
    h.frame rfl rfl rfl h.opened h.empty
  rcases hs with ⟨t, rfl, rfl⟩ | ⟨hreceived, rfl⟩ | ⟨hreceived, rfl⟩
  · rw [events_tick hrecv]
    exact h₁.onTick hpc t
  · rw [events_recv hrecv fun t => hreceived (some t), List.append_nil]
    exact h₁
  · rw [events_recv hrecv hreceived, List.append_nil]
    exact h.frame rfl rfl rfl ⟨fun _ => hopen, fun _ => .inr rfl⟩ (fun hfin => by cases hfin)

end Conserved

theorem step_conserved {s s' : Clock} {log : List Event} {label : Label} (h : s.Conserved log)
    (hs : s.step label = some s') : s'.Conserved (log ++ s.events label) := by
  cases label with
  | sleepUntil deadline =>
    cases hs
    simp only [events, List.append_nil]
    refine ⟨h.perm, h.nodup, fun e he => ?_, fun i f w hi hpc => ?_, h.reached, h.opened, h.empty⟩
    · obtain ⟨f, hf, hd, hw⟩ := h.owner e he
      exact ⟨f, (List.getElem?_append_left (List.getElem?_eq_some_iff.mp hf).1).trans hf, hd, hw⟩
    · rw [List.getElem?_append] at hi
      split at hi
      · exact h.unsent i f w hi hpc
      · obtain rfl := List.mem_singleton.mp (List.mem_of_getElem? hi)
        cases hpc
  | pollTime i waker =>
    obtain ⟨f, hi, hs⟩ := stepFuture_some hs
    split at hs
    · rename_i hpc
      cases hs
      simp only [events, List.append_nil]
      refine h.setFuture (g := s.pollTime waker f) hi rfl id (fun w hw => ?_)
      unfold pollTime at hw
      split at hw <;> cases hw
    · cases hs
  | pollRegister i =>
    obtain ⟨f, hi, hs⟩ := stepFuture_some hs
    split at hs
    · rename_i waker hpc
      cases hs
      simp only [events, List.append_nil]
      unfold pollRegister
      split
      · exact h.setFuture (g := { f with waker := some (some waker), pc := .idle }) hi rfl
          (fun _ => rfl) (fun w hw => by cases hw)
      · rename_i hnone
        exact h.setFuture (g := { f with pc := .send waker }) hi rfl id (fun _ _ => hnone)
    · cases hs
  | pollSend i =>
    obtain ⟨f, hi, hs⟩ := stepFuture_some hs
    split at hs
    · rename_i waker hpc
      cases hs
      by_cases hclosed : s.timerClosed
      · simp only [events, hi, pollSend, if_pos hclosed, List.append_nil]
        exact h.setFuture (g := { f with pc := .ready }) hi rfl id (fun w hw => by cases hw)
      · simp only [events, hi, pollSend, if_neg hclosed]
        exact h.send hi hpc (Bool.not_eq_true _ ▸ hclosed)
    · cases hs
  | dropFuture i =>
    obtain ⟨f, hi, hs⟩ := stepFuture_some hs
    split at hs
    · cases hs
      simp only [events, List.append_nil]
      exact h.setFuture (g := { f with pc := .dropped }) hi rfl id (fun w hw => by cases hw)
    · cases hs
  | publish msg | cancel =>
    cases hs
    simp only [events, List.append_nil]
    exact h.frame rfl rfl rfl h.opened h.empty
  | recvTimer =>
    simp only [step] at hs
    split at hs
    · rename_i hpc hrx
      cases hs
      simp only [events, List.append_nil]
      exact h.recvTimer hpc hrx
    · cases hs
  | recvClock =>
    simp only [step] at hs
    split at hs
    · rename_i hpc
      exact h.recvClock hpc hs
    · cases hs
  | cancelled =>
    simp only [step] at hs
    split at hs
    · rename_i hpc
      split at hs
      · cases hs
        simp only [events, List.append_nil]
        have hopen := h.opened.mp (.inl hpc)
        exact h.frame rfl rfl rfl ⟨fun _ => hopen, fun _ => .inr rfl⟩ (fun hfin => by cases hfin)
      · cases hs
    · cases hs
  | close =>
    simp only [step] at hs
    split at hs
    · cases hs
      simp only [events, List.append_nil]
      exact h.frame rfl rfl rfl (by simp [Running]) (fun hfin => by cases hfin)
    · cases hs
  | drainTimer k =>
    simp only [step] at hs
    split at hs
    · rename_i entry hpc hk
      cases hs
      simp only [events, hk]
      refine h.drain hpc hpc rfl ?_ rfl
      obtain ⟨hlt, rfl⟩ := List.getElem?_eq_some_iff.mp hk
      rw [List.append_assoc]
      apply List.Perm.append_left
      exact (List.getElem_cons_eraseIdx_perm hlt).symm.trans (List.perm_append_singleton _ _).symm
    · cases hs
  | drainChannel =>
    simp only [step] at hs
    split at hs
    · rename_i entry entries hpc hheap hrx
      cases hs
      simp only [events, hrx]
      refine h.drain hpc hpc rfl ?_ rfl
      simp only [hrx, hheap, List.append_nil]
      exact (List.perm_append_singleton _ _).symm
    · rename_i hpc hheap hrx
      cases hs
      simp only [events, hrx, List.append_nil]
      have hclosed := closed_of_not_running h.opened (by simp [Running, hpc])
      exact h.frame hrx.symm rfl rfl (by simp [Running, hclosed]) (fun _ => ⟨hrx, hheap⟩)
    · cases hs

end RosrustAsync.Clock
