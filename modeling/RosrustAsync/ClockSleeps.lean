import RosrustAsync.ClockConservation
import RosrustAsync.Lib.Slots
import RosrustAsync.Rate

namespace RosrustAsync.Clock

open Runs

/-- `sleep`, from the time that `now` returns; `max` is that of durations. -/
def sleep (add : Time → Duration → Time) (max : Duration → Duration → Duration) (self : Clock)
    (duration : Duration) : Label := .sleepUntil (add self.time.get (max duration ⟨0, 0⟩))

/-- The deadline was reached when the sleep began, or by a tick since. -/
def Elapsed (start : Time) (log : List Event) (deadline : Time) : Prop :=
  deadline ≤ start ∨ ∃ t, Event.tick t ∈ log ∧ deadline ≤ t

theorem Elapsed.append {start deadline : Time} {log : List Event} (h : Elapsed start log deadline)
    (evs : List Event) : Elapsed start (log ++ evs) deadline :=
  h.imp_right fun ⟨t, ht, hle⟩ => ⟨t, List.mem_append_left _ ht, hle⟩

/-- The future that began at `start`, and what has been logged since. -/
structure Awaits (start deadline : Time) (i : ℕ) (s : Clock) (log : List Event) : Prop where
  time : s.time.get = start ∨ Event.tick s.time.get ∈ log
  entries : ∀ e, s.InFlight e → e.waker = i → e.deadline = deadline
  opened : s.Running ↔ s.timerClosed = false
  future : ∃ f, s.futures[i]? = some f ∧ f.deadline = deadline ∧
    (f.pc = .ready ∨ f.fired = true → s.timerClosed = true ∨ Elapsed start log deadline)

namespace Awaits

variable {start deadline : Time} {i : ℕ} {s s' : Clock} {log : List Event}

theorem elapsed (h : Awaits start deadline i s log) (hle : deadline ≤ s.time.get) :
    Elapsed start log deadline := by
  rcases h.time with htime | htick
  · exact .inl (htime ▸ hle)
  · exact .inr ⟨_, htick, hle⟩

theorem frame (h : Awaits start deadline i s log) (htime : s'.time = s.time)
    (hflight : ∀ e, s'.InFlight e → s.InFlight e) (hfutures : s'.futures = s.futures)
    (hopened : s'.Running ↔ s'.timerClosed = false)
    (hclosed : s.timerClosed = true → s'.timerClosed = true) : Awaits start deadline i s' log := by
  obtain ⟨f, hi, hd, hready⟩ := h.future
  refine ⟨htime ▸ h.time, fun e he => h.entries e (hflight e he), hopened,
    f, hfutures ▸ hi, hd, fun hf => (hready hf).imp_left hclosed⟩

theorem setFuture (h : Awaits start deadline i s log) {j : ℕ} {f g : SleepFuture}
    (hj : s.futures[j]? = some f) (hg : g.deadline = f.deadline)
    (hready : g.pc = .ready ∨ g.fired = true →
      (f.pc = .ready ∨ f.fired = true) ∨ s.timerClosed = true ∨ f.deadline ≤ s.time.get) :
    Awaits start deadline i { s with futures := s.futures.set j g } log := by
  refine ⟨h.time, h.entries, h.opened, ?_⟩
  obtain ⟨f', hi, hd, hf'⟩ := h.future
  by_cases hij : i = j
  · subst hij
    rw [hi] at hj
    cases hj
    refine ⟨g, getElem?_set_of_some hi, hg.trans hd, fun hpc => ?_⟩
    rcases hready hpc with hbefore | hclosed | hle
    · exact hf' hbefore
    · exact .inl hclosed
    · exact .inr (h.elapsed (hd ▸ hle))
  · exact ⟨f', getElem?_set_of_ne hij hi, hd, hf'⟩

/-- Those notified are due, or the clock has ended. -/
theorem notified (h : Awaits start deadline i s log) (due : List TimerEntry) {evs : List Event}
    (htime : s'.time.get = s.time.get ∨ Event.tick s'.time.get ∈ evs)
    (hflight : ∀ e, s'.InFlight e → s.InFlight e)
    (hopened : s'.Running ↔ s'.timerClosed = false)
    (hclosed : s.timerClosed = true → s'.timerClosed = true)
    (hfutures : s'.futures = due.foldl notify s.futures)
    (hdue : ∀ e ∈ due, s.InFlight e ∧
      (s'.timerClosed = true ∨ ∃ t, Event.tick t ∈ evs ∧ e.deadline ≤ t)) :
    Awaits start deadline i s' (log ++ evs) := by
  refine ⟨?_, fun e he => h.entries e (hflight e he), hopened, ?_⟩
  · rcases htime with htime | htick
    · rw [htime]
      exact h.time.imp_right (List.mem_append_left _)
    · exact .inr (List.mem_append_right _ htick)
  · obtain ⟨f, hi, hd, hready⟩ := h.future
    have hbefore : f.pc = .ready ∨ f.fired = true →
        s'.timerClosed = true ∨ Elapsed start (log ++ evs) deadline :=
      fun hf => (hready hf).imp hclosed fun he => he.append evs
    rw [hfutures, getElem?_foldl_notify, hi]
    refine ⟨_, rfl, ?_, ?_⟩
    · split <;> exact hd
    · split
      · rename_i hmem
        obtain ⟨e, he, hwaker⟩ := hmem
        obtain ⟨hin, hreason⟩ := hdue e he
        rintro -
        rcases hreason with hclosed' | ⟨t, ht, hle⟩
        · exact .inl hclosed'
        · exact .inr (.inr ⟨t, List.mem_append_right _ ht, h.entries e hin hwaker ▸ hle⟩)
      · exact hbefore

theorem recvClock (h : Awaits start deadline i s log) (hpc : s.pc = .select)
    (hs : s.recvClock = some s') : Awaits start deadline i s' (log ++ s.events .recvClock) := by
  obtain ⟨received, s₁, hrecv, hs⟩ := recvClock_cases hs
  obtain ⟨msgs, next, rfl⟩ := recv_frame hrecv
  have hopen := h.opened.mp (.inl hpc)
  rcases hs with ⟨t, rfl, rfl⟩ | ⟨hreceived, rfl⟩ | ⟨hreceived, rfl⟩
  · rw [events_tick hrecv]
    refine h.notified (s.timers.popDue t.nanos).1 (.inr ?_) (fun e he => ?_)
      ⟨fun _ => hopen, fun _ => .inl hpc⟩ id rfl fun e he => ?_
    · simp [onTick]
    · exact he.imp_right fun hmem => (MinQueue.mem_popDue_snd.mp hmem).1
    · obtain ⟨hmem, hle⟩ := MinQueue.mem_popDue_fst.mp he
      exact ⟨.inr hmem, .inr ⟨t, List.mem_cons_self, hle⟩⟩
  · rw [events_recv hrecv fun t => hreceived (some t), List.append_nil]
    exact h.frame rfl (fun _ => id) rfl h.opened id
  · rw [events_recv hrecv hreceived, List.append_nil]
    exact h.frame rfl (fun _ => id) rfl ⟨fun _ => hopen, fun _ => .inr rfl⟩ id

end Awaits

end RosrustAsync.Clock
