import RosrustAsync.Clock
import RosrustAsync.Lib.MaxHeap

namespace RosrustAsync

/-! `on_tick` over any heap of timers, and what it does in which order. -/

instance : Ord TimerEntry := ⟨fun self other => compare self.deadline other.deadline⟩

inductive TickEvent : Type
  | setTime (now : Time)
  | warnBackwards (previousTs currentTs : Time)
  | notify (entry : TimerEntry)

structure Tick (H : Type) where
  time : EncodedTime
  timers : H
  events : List TickEvent

namespace Tick

variable {H : Type} [MaxHeap H (Reverse TimerEntry)]

/-- The loop of `on_tick`: pop the timer on top of the heap while it is due. -/
def notifyDue (currentTs : Time) (self : Tick H) : Tick H :=
  match _hpeek : MaxHeap.peek self.timers with
  | some timer =>
    if timer.val.deadline ≤ currentTs then
      notifyDue currentTs { self with
        timers := MaxHeap.pop self.timers
        events := self.events ++ [.notify timer.val] }
    else self
  | none => self
termination_by (MaxHeap.entries self.timers).card
decreasing_by exact MaxHeap.card_pop_lt _hpeek

theorem notifyDue_empty {currentTs : Time} {self : Tick H} (h : MaxHeap.peek self.timers = none) :
    self.notifyDue currentTs = self := by
  rw [notifyDue]
  split
  case h_1 hpeek =>
    rw [h] at hpeek
    cases hpeek
  case h_2 => rfl

theorem notifyDue_late {currentTs : Time} {self : Tick H} {timer : Reverse TimerEntry}
    (h : MaxHeap.peek self.timers = some timer) (hlate : ¬ timer.val.deadline ≤ currentTs) :
    self.notifyDue currentTs = self := by
  rw [notifyDue]
  split
  case h_1 hpeek =>
    rw [h] at hpeek
    cases hpeek
    exact if_neg hlate
  case h_2 => rfl

theorem notifyDue_next {currentTs : Time} {self : Tick H} {timer : Reverse TimerEntry}
    (h : MaxHeap.peek self.timers = some timer) (hdue : timer.val.deadline ≤ currentTs) :
    self.notifyDue currentTs = notifyDue currentTs { self with
      timers := MaxHeap.pop self.timers
      events := self.events ++ [.notify timer.val] } := by
  rw [notifyDue]
  split
  case h_1 hpeek =>
    rw [h] at hpeek
    cases hpeek
    exact if_pos hdue
  case h_2 hpeek =>
    rw [h] at hpeek
    cases hpeek

def warnings (previousTs currentTs : Time) : List TickEvent :=
  if currentTs < previousTs then [.warnBackwards previousTs currentTs] else []

def onTick (currentTs : Time) (time : EncodedTime) (timers : H) : Tick H :=
  notifyDue currentTs
    ⟨time.set currentTs, timers, .setTime currentTs :: warnings time.get currentTs⟩

def timerEntries (timers : H) : Multiset TimerEntry := (MaxHeap.entries timers).map Reverse.val

theorem timerEntries_of_peek {timers : H} (h : MaxHeap.peek timers = none) :
    timerEntries timers = 0 := by
  rw [timerEntries, MaxHeap.entries_of_peek h, Multiset.map_zero]

theorem timerEntries_pop {timers : H} {timer : Reverse TimerEntry}
    (h : MaxHeap.peek timers = some timer) :
    timerEntries timers = timer.val ::ₘ timerEntries (MaxHeap.pop timers) := by
  rw [timerEntries, MaxHeap.entries_pop h, Multiset.map_cons, timerEntries]

theorem deadline_peek_le {timers : H} (hvalid : MaxHeap.Valid timers)
    {timer : Reverse TimerEntry} (h : MaxHeap.peek timers = some timer) {entry : TimerEntry}
    (hentry : entry ∈ timerEntries timers) : timer.val.deadline ≤ entry.deadline := by
  obtain ⟨⟨entry⟩, hmem, rfl⟩ := Multiset.mem_map.mp hentry
  exact Time.isLE_compare.mp (MaxHeap.le_peek hvalid h _ hmem)

/-- What the loop has done by the time it stops. -/
structure Fired (currentTs : Time) (timers timers' : H) (notified : List TimerEntry) : Prop where
  due : (notified : Multiset TimerEntry) =
    (timerEntries timers).filter (·.deadline ≤ currentTs)
  left : timerEntries timers' = (timerEntries timers).filter (currentTs < ·.deadline)
  valid : MaxHeap.Valid timers'

theorem Fired.stop {currentTs : Time} {timers : H} (hvalid : MaxHeap.Valid timers)
    (h : ∀ entry ∈ timerEntries timers, currentTs < entry.deadline) :
    Fired currentTs timers timers [] := by
  refine ⟨?_, ?_, hvalid⟩
  · have hnone : ∀ entry ∈ timerEntries timers, ¬ entry.deadline ≤ currentTs :=
      fun entry hentry => Time.not_le.mpr (h entry hentry)
    rw [Multiset.coe_nil, Multiset.filter_eq_nil.mpr hnone]
  · rw [Multiset.filter_eq_self.mpr h]

theorem Fired.next {currentTs : Time} {timers timers' : H} {timer : Reverse TimerEntry}
    {notified : List TimerEntry} (hpeek : MaxHeap.peek timers = some timer)
    (hdue : timer.val.deadline ≤ currentTs)
    (h : Fired currentTs (MaxHeap.pop timers) timers' notified) :
    Fired currentTs timers timers' (timer.val :: notified) := by
  have hcons := timerEntries_pop hpeek
  have hnot : ¬ currentTs < timer.val.deadline := Time.not_lt.mpr hdue
  refine ⟨?_, ?_, h.valid⟩
  · rw [hcons, Multiset.filter_cons, if_pos hdue, ← Multiset.cons_coe, h.due,
      Multiset.singleton_add]
  · rw [hcons, Multiset.filter_cons, if_neg hnot, h.left, zero_add]

theorem notifyDue_fired (currentTs : Time) (self : Tick H) (hvalid : MaxHeap.Valid self.timers) :
    ∃ notified,
    (self.notifyDue currentTs).time = self.time ∧
      (self.notifyDue currentTs).events = self.events ++ notified.map .notify ∧
      Fired currentTs self.timers (self.notifyDue currentTs).timers notified := by
  fun_induction notifyDue currentTs self with
  | case1 self timer hpeek hdue ih =>
    obtain ⟨notified, htime, hevents, hfired⟩ := ih (MaxHeap.valid_pop hvalid)
    refine ⟨timer.val :: notified, htime, ?_, hfired.next hpeek hdue⟩
    rw [hevents, List.append_assoc]
    rfl
  | case2 self timer hpeek hlate =>
    refine ⟨[], rfl, (List.append_nil _).symm, .stop hvalid fun entry hentry => ?_⟩
    exact (Time.not_le.mp hlate).trans_le (deadline_peek_le hvalid hpeek hentry)
  | case3 self hpeek =>
    refine ⟨[], rfl, (List.append_nil _).symm, .stop hvalid fun entry hentry => ?_⟩
    rw [timerEntries_of_peek hpeek] at hentry
    cases hentry

/-- For every heap, previous time and clock message: the time is set first, then each timer that is
due is notified once and taken out, and the others are left alone. -/
theorem onTick_fires_due (currentTs : Time) (time : EncodedTime) (timers : H)
    (hvalid : MaxHeap.Valid timers) :
    ∃ notified : List TimerEntry,
      (onTick currentTs time timers).time.get = currentTs ∧
      (onTick currentTs time timers).events =
        .setTime currentTs :: warnings time.get currentTs ++ notified.map .notify ∧
      (notified : Multiset TimerEntry) = (timerEntries timers).filter (·.deadline ≤ currentTs) ∧
      timerEntries (onTick currentTs time timers).timers =
        (timerEntries timers).filter (currentTs < ·.deadline) ∧
      MaxHeap.Valid (onTick currentTs time timers).timers := by
  obtain ⟨notified, htime, hevents, hfired⟩ := notifyDue_fired currentTs
    ⟨time.set currentTs, timers, .setTime currentTs :: warnings time.get currentTs⟩ hvalid
  refine ⟨notified, ?_, hevents, hfired.due, hfired.left, hfired.valid⟩
  rw [onTick, htime, EncodedTime.get_set]

end Tick

/-- A list that is ordered, earliest deadline first, is a heap of reversed entries. -/
instance : MaxHeap (List (Reverse TimerEntry)) (Reverse TimerEntry) where
  entries timers := timers
  Valid timers := timers.Pairwise fun a b => a.val.deadline ≤ b.val.deadline
  peek timers := timers.head?
  pop timers := timers.tail
  entries_of_peek h := by
    rw [List.head?_eq_none_iff.mp h]
    rfl
  entries_pop {timers a} h := by
    rw [← List.cons_head?_tail h]
    rfl
  le_peek {timers a} hvalid h b hb := by
    rw [← List.cons_head?_tail h] at hvalid hb
    have hle : a.val.deadline ≤ b.val.deadline := by
      rcases List.mem_cons.mp (Multiset.mem_coe.mp hb) with rfl | hb
      · exact le_refl _
      · exact (List.pairwise_cons.mp hvalid).1 b hb
    exact Time.isLE_compare.mpr hle
  valid_pop h := h.tail

namespace Tick

def threeTimers : List TimerEntry := [⟨⟨5, 0⟩, 0⟩, ⟨⟨5, 0⟩, 1⟩, ⟨⟨7, 0⟩, 2⟩]

theorem onTick_fires_due_backwards : ∃ notified : List TimerEntry,
    (onTick ⟨5, 0⟩ (.new ⟨9, 0⟩) (threeTimers.map Reverse.mk)).events =
        .setTime ⟨5, 0⟩ :: [.warnBackwards ⟨9, 0⟩ ⟨5, 0⟩] ++ notified.map .notify ∧
      (notified : Multiset TimerEntry) = {⟨⟨5, 0⟩, 0⟩, ⟨⟨5, 0⟩, 1⟩} := by
  have hvalid : MaxHeap.Valid (threeTimers.map Reverse.mk) := List.pairwise_map.mpr (by decide)
  obtain ⟨notified, -, hevents, hdue, -⟩ :=
    onTick_fires_due ⟨5, 0⟩ (.new ⟨9, 0⟩) (threeTimers.map Reverse.mk) hvalid
  have htwo : (timerEntries (threeTimers.map Reverse.mk)).filter (·.deadline ≤ ⟨5, 0⟩) =
      {⟨⟨5, 0⟩, 0⟩, ⟨⟨5, 0⟩, 1⟩} := by decide
  exact ⟨notified, hevents, hdue.trans htwo⟩

end Tick

namespace Clock

theorem notifyDue_splitDue (currentTs : Time) (time : EncodedTime) (entries : List TimerEntry)
    (events : List TickEvent) :
    Tick.notifyDue currentTs ⟨time, entries.map Reverse.mk, events⟩ =
      ⟨time, (MinQueue.splitDue TimerEntry.nanos currentTs.nanos entries).2.map Reverse.mk,
        events ++ (MinQueue.splitDue TimerEntry.nanos currentTs.nanos entries).1.map .notify⟩ := by
  induction entries generalizing events with
  | nil =>
    rw [Tick.notifyDue_empty rfl]
    simp [MinQueue.splitDue]
  | cons entry entries ih =>
    by_cases hdue : entry.deadline ≤ currentTs
    · have hnext : Tick.notifyDue currentTs ⟨time, (entry :: entries).map Reverse.mk, events⟩ =
          Tick.notifyDue currentTs ⟨time, entries.map Reverse.mk, events ++ [.notify entry]⟩ :=
        Tick.notifyDue_next rfl hdue
      have hkey : entry.nanos ≤ currentTs.nanos := hdue
      rw [hnext, ih]
      simp [MinQueue.splitDue, hkey]
    · have hlate : Tick.notifyDue currentTs ⟨time, (entry :: entries).map Reverse.mk, events⟩ =
          ⟨time, (entry :: entries).map Reverse.mk, events⟩ := Tick.notifyDue_late rfl hdue
      have hkey : ¬ entry.nanos ≤ currentTs.nanos := hdue
      rw [hlate]
      simp [MinQueue.splitDue, hkey]

def tick (self : Clock) (currentTs : Time) : Tick (List (Reverse TimerEntry)) :=
  Tick.onTick currentTs self.time (self.timers.entries.map Reverse.mk)

/-- The clock's own step is this tick, over its queue of timers. -/
theorem onTick_eq (self : Clock) (currentTs : Time) : ∃ notified : List TimerEntry,
    MaxHeap.Valid (self.timers.entries.map Reverse.mk) ∧
      (self.tick currentTs).events =
        .setTime currentTs :: Tick.warnings self.time.get currentTs ++ notified.map .notify ∧
      (self.onTick currentTs).time = (self.tick currentTs).time ∧
      (self.onTick currentTs).timers.entries.map Reverse.mk = (self.tick currentTs).timers ∧
      (self.onTick currentTs).futures = notified.foldl notify self.futures := by
  refine ⟨(self.timers.popDue currentTs.nanos).1, ?_, ?_, ?_, ?_, rfl⟩
  · exact List.pairwise_map.mpr self.timers.sorted
  all_goals rw [tick, Tick.onTick, notifyDue_splitDue]
  all_goals rfl

end Clock

end RosrustAsync
