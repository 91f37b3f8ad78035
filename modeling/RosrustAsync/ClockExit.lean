import RosrustAsync.ClockConservation

namespace RosrustAsync.Clock

open Runs

/-- A clock message that reached the entry's deadline has been handled since the entry was sent. -/
def Reached (log : List Event) (e : TimerEntry) : Prop :=
  ∃ t, [.sent e, .tick t].Sublist log ∧ e.deadline ≤ t

/-- The future of the entry is not being polled again with a waker that it has not registered. -/
def Finds (s : Clock) (e : TimerEntry) : Prop :=
  ∀ f w, s.futures[e.waker]? = some f → f.pc = .register w → f.waker = some (some w)

/-- No clock message overtakes an entry in the channel, and the exit does not come between a poll and
its waker. -/
def Handed (s : Clock) : Label → Prop
  | .recvClock => ∀ t s', s.recv = some (.value (some t), s') → ∀ e ∈ s.timerRx, t < e.deadline
  | .drainTimer k => ∀ e, s.timers.entries[k]? = some e → s.Finds e
  | .drainChannel => ∀ e, s.timerRx.head? = some e → s.Finds e
  | _ => True

theorem reached_append {log evs : List Event} {e : TimerEntry} (h : Reached (log ++ evs) e) :
    Reached log e ∨ ∃ t, .tick t ∈ evs ∧ e.deadline ≤ t := by
  obtain ⟨t, hsub, ht⟩ := h
  obtain ⟨l₁, l₂, heq, h₁, h₂⟩ := List.sublist_append_iff.mp hsub
  rcases List.eq_nil_or_concat l₂ with rfl | ⟨l, ev, rfl⟩
  · rw [List.append_nil] at heq
    exact .inl ⟨t, heq ▸ h₁, ht⟩
  · have hlast : ev = .tick t := by
      have hlasts := congrArg List.getLast? heq
      simpa using hlasts.symm
    exact .inr ⟨t, h₂.subset (by simp [hlast]), ht⟩

/-- What holds as long as every entry is handed over to its notification. -/
structure Roused (s : Clock) (log : List Event) : Prop where
  polled : ∀ (i : ℕ) f w, s.futures[i]? = some f → f.pc = .register w ∨ f.pc = .send w →
    f.polledBy = w
  registered : ∀ e, s.InFlight e → ∀ f, s.futures[e.waker]? = some f →
    ∃ w, f.waker = some (some w) ∧ (f.pc = .idle → w = f.polledBy)
  drained : ∀ e, .drained e ∈ log → s.timerClosed ∧ ∀ f, s.futures[e.waker]? = some f →
    (f.pc = .idle ∨ ∃ w, f.pc = .register w) → f.woken
  unreached : ∀ e, s.InFlight e ∨ .drained e ∈ log → ¬ Reached log e

theorem fromSubscriber_roused (latchedMsgs : List (Option Time))
    (clockMsgs : Broadcast (Option Time)) (clockRx : ℕ) :
    (fromSubscriber latchedMsgs clockMsgs clockRx).Roused [] where
  polled := by simp [fromSubscriber]
  registered := by simp [fromSubscriber]
  drained := by simp
  unreached := by
    intro e he
    rcases he with (he | he) | he <;> cases he

namespace Roused

variable {s s' : Clock} {log : List Event}

theorem frame (h : s.Roused log) (hrx : s'.timerRx = s.timerRx)
    (htimers : s'.timers = s.timers) (hfutures : s'.futures = s.futures)
    (hclosed : s.timerClosed → s'.timerClosed) : s'.Roused log := by
  have hflight (e : TimerEntry) : s'.InFlight e ↔ s.InFlight e := by
    rw [InFlight, InFlight, hrx, htimers]
  refine ⟨?_, fun e he => ?_, fun e he => ?_, fun e he => h.unreached e ?_⟩
  · rw [hfutures]
    exact h.polled
  · rw [hfutures]
    exact h.registered e ((hflight e).mp he)
  · rw [hfutures]
    exact ⟨hclosed (h.drained e he).1, (h.drained e he).2⟩
  · exact he.imp_left (hflight e).mp

theorem setFuture (h : s.Roused log) {i : ℕ} {f g : SleepFuture} (hi : s.futures[i]? = some f)
    (hpolled : ∀ w, g.pc = .register w ∨ g.pc = .send w → g.polledBy = w)
    (hregistered : ∀ w, f.waker = some (some w) → (f.pc = .idle → w = f.polledBy) →
      ∃ w, g.waker = some (some w) ∧ (g.pc = .idle → w = g.polledBy))
    (hwoken : s.timerClosed → ((f.pc = .idle ∨ ∃ w, f.pc = .register w) → f.woken) →
      (g.pc = .idle ∨ ∃ w, g.pc = .register w) → g.woken) :
    Roused { s with futures := s.futures.set i g } log := by
  have hlt := (List.getElem?_eq_some_iff.mp hi).1
  have hfuture {j : ℕ} {f' : SleepFuture} (hj : (s.futures.set i g)[j]? = some f') :
      j = i ∧ f' = g ∨ s.futures[j]? = some f' := by
    by_cases hji : j = i
    · subst hji
      rw [List.getElem?_set_self hlt] at hj
      exact .inl ⟨rfl, (Option.some.inj hj).symm⟩
    · exact .inr ((List.getElem?_set_ne (Ne.symm hji)).symm.trans hj)
  refine ⟨fun j f' w hj hpc => ?_, fun e he f' hf' => ?_, fun e he => ?_, h.unreached⟩
  · rcases hfuture hj with ⟨rfl, rfl⟩ | hold
    · exact hpolled w hpc
    · exact h.polled j f' w hold hpc
  · rcases hfuture hf' with ⟨hei, rfl⟩ | hold
    · obtain ⟨w, hw, hidle⟩ := h.registered e he f (hei ▸ hi)
      exact hregistered w hw hidle
    · exact h.registered e he f' hold
  · refine ⟨(h.drained e he).1, fun f' hf' hpc => ?_⟩
    rcases hfuture hf' with ⟨hei, rfl⟩ | hold
    · exact hwoken (h.drained e he).1 ((h.drained e he).2 f (hei ▸ hi)) hpc
    · exact (h.drained e he).2 f' hold hpc

theorem notified {evs : List Event} (h : s.Roused log) (due : List TimerEntry)
    (hconserved : s'.Conserved (log ++ evs)) (hdue : ∀ e ∈ due, e ∈ notices evs)
    (hfutures : s'.futures = due.foldl notify s.futures)
    (hflight : ∀ e, s'.InFlight e → s.InFlight e) (hclosed : s.timerClosed → s'.timerClosed)
    (hdrained : ∀ e, .drained e ∈ evs → s'.timerClosed ∧ e ∈ due ∧ s.InFlight e ∧ s.Finds e)
    (htick : ∀ t e, .tick t ∈ evs → s'.InFlight e ∨ .drained e ∈ log ++ evs → t < e.deadline) :
    s'.Roused (log ++ evs) := by
  have hfuture {i : ℕ} {f' : SleepFuture} (hi : s'.futures[i]? = some f') :
      ∃ f, s.futures[i]? = some f ∧ f' = if ∃ e ∈ due, e.waker = i then f.notify else f := by
    rw [hfutures, getElem?_foldl_notify] at hi
    obtain ⟨f, hf, rfl⟩ := Option.map_eq_some_iff.mp hi
    exact ⟨f, hf, rfl⟩
  have hpcs {f : SleepFuture} {p : Prop} [Decidable p] :
      (if p then f.notify else f).pc = f.pc ∧ (if p then f.notify else f).polledBy = f.polledBy := by
    split <;> exact ⟨rfl, rfl⟩
  refine ⟨fun i f' w hi hpc => ?_, fun e he f' hf' => ?_, fun e he => ?_, fun e he hreached => ?_⟩
  · obtain ⟨f, hf, rfl⟩ := hfuture hi
    rw [hpcs.1] at hpc
    rw [hpcs.2]
    exact h.polled i f w hf hpc
  · obtain ⟨f, hf, rfl⟩ := hfuture hf'
    have hnot : ¬ ∃ e' ∈ due, e'.waker = e.waker := by
      rintro ⟨e', he', heq⟩
      exact hconserved.apart he (by rw [notices_append]; simp [hdue e' he']) heq.symm
    rw [if_neg hnot]
    exact h.registered e (hflight e he) f hf
  · rcases List.mem_append.mp he with hold | hnew
    · obtain ⟨hwas, hwoken⟩ := h.drained e hold
      refine ⟨hclosed hwas, fun f' hf' hpc => ?_⟩
      obtain ⟨f, hf, rfl⟩ := hfuture hf'
      rw [hpcs.1] at hpc
      have hw := hwoken f hf hpc
      split
      · simp [SleepFuture.notify, hw]
      · exact hw
    · obtain ⟨hclosed, hmem, hflight, hfinds⟩ := hdrained e hnew
      refine ⟨hclosed, fun f' hf' hpc => ?_⟩
      obtain ⟨f, hf, rfl⟩ := hfuture hf'
      rw [hpcs.1] at hpc
      rw [if_pos ⟨e, hmem, rfl⟩]
      obtain ⟨w, hw, hidle⟩ := h.registered e hflight f hf
      have hpolled : w = f.polledBy := by
        rcases hpc with hpc | ⟨v, hpc⟩
        · exact hidle hpc
        · rw [hfinds f v hf hpc] at hw
          rw [h.polled e.waker f v hf (.inl hpc)]
          exact (Option.some.inj (Option.some.inj hw)).symm
      simp [SleepFuture.notify, hw, hpolled]
  · rcases reached_append hreached with hold | ⟨t, ht, hle⟩
    · refine h.unreached e ?_ hold
      rcases he with he | he
      · exact .inl (hflight e he)
      · rcases List.mem_append.mp he with he | he
        · exact .inr he
        · exact .inl (hdrained e he).2.2.1
    · exact (htick t e ht he).not_ge hle

theorem send (h : s.Roused log) (hconserved : s.Conserved log) {i w : ℕ} {f : SleepFuture}
    (hi : s.futures[i]? = some f) (hpc : f.pc = .send w) (hopen : s.timerClosed = false) :
    Roused { s with
      timerRx := s.timerRx ++ [⟨f.deadline, i⟩]
      futures := s.futures.set i { f with waker := some (some w), pc := .idle } }
      (log ++ [.sent ⟨f.deadline, i⟩]) := by
  have hlt := (List.getElem?_eq_some_iff.mp hi).1
  have hpolled := h.polled i f w hi (.inr hpc)
  have hset := h.setFuture (g := { f with waker := some (some w), pc := .idle }) hi (by simp)
    (fun _ _ _ => ⟨w, rfl, fun _ => hpolled.symm⟩) (fun hclosed => by rw [hopen] at hclosed; cases hclosed)
  have hundrained {e : TimerEntry} (he : .drained e ∈ log) : False := by
    have hclosed := (h.drained e he).1
    rw [hopen] at hclosed
    cases hclosed
  have hlog {e : TimerEntry} (he : .drained e ∈ log ++ [.sent ⟨f.deadline, i⟩]) : False := by
    rcases List.mem_append.mp he with he | he
    · exact hundrained he
    · cases List.mem_singleton.mp he
  refine ⟨hset.polled, fun e he f' hf' => ?_, fun e he => (hlog he).elim, fun e he hreached => ?_⟩
  · by_cases hei : e.waker = i
    · have hself : f' = { f with waker := some (some w), pc := .idle } := by
        have hf' : (s.futures.set i _)[e.waker]? = some f' := hf'
        rw [hei, List.getElem?_set_self hlt] at hf'
        exact (Option.some.inj hf').symm
      rw [hself]
      exact ⟨w, rfl, fun _ => hpolled.symm⟩
    · refine hset.registered e ?_ f' hf'
      rcases he with he | he
      · rcases List.mem_append.mp he with he | he
        · exact .inl he
        · exact absurd (congrArg TimerEntry.waker (List.mem_singleton.mp he)) hei
      · exact .inr he
  · rcases reached_append hreached with hold | ⟨t, ht, -⟩
    · rcases he with (he | he) | he
      · rcases List.mem_append.mp he with he | he
        · exact h.unreached e (.inl (.inl he)) hold
        · obtain ⟨t, hsub, -⟩ := hold
          obtain rfl := List.mem_singleton.mp he
          exact hconserved.not_sent hi hpc (mem_sends.mpr (hsub.subset List.mem_cons_self))
      · exact h.unreached e (.inl (.inr he)) hold
      · exact (hlog he).elim
    · cases List.mem_singleton.mp ht

theorem sleepUntil (h : s.Roused log) (hconserved : s.Conserved log) (deadline : Time) :
    Roused { s with futures := s.futures ++ [.new deadline] } log := by
  have hold {e : TimerEntry} (he : e ∈ sends log) {f : SleepFuture}
      (hf : (s.futures ++ [.new deadline])[e.waker]? = some f) : s.futures[e.waker]? = some f := by
    obtain ⟨f', hf', -, -⟩ := hconserved.owner e he
    rwa [List.getElem?_append_left (List.getElem?_eq_some_iff.mp hf').1] at hf
  refine ⟨fun i f w hi hpc => ?_, fun e he f hf => ?_, fun e he => ?_, h.unreached⟩
  · have hi : (s.futures ++ [.new deadline])[i]? = some f := hi
    rw [List.getElem?_append] at hi
    split at hi
    · exact h.polled i f w hi hpc
    · obtain rfl := List.mem_singleton.mp (List.mem_of_getElem? hi)
      rcases hpc with hpc | hpc <;> cases hpc
  · exact h.registered e he f (hold (hconserved.inFlight_sent he) hf)
  · have hsent : e ∈ sends log := hconserved.perm.mem_iff.mpr
      (List.mem_append_right _ (List.mem_filterMap.mpr ⟨_, he, rfl⟩))
    exact ⟨(h.drained e he).1, fun f hf => (h.drained e he).2 f (hold hsent hf)⟩

theorem onTick (h : s.Roused log) (hconserved : s.Conserved log) (hpc : s.pc = .select) {t : Time}
    (hlate : ∀ e ∈ s.timerRx, t < e.deadline) :
    (s.onTick t).Roused
      (log ++ Event.tick t :: (s.timers.popDue t.nanos).1.map (.ticked t)) := by
  have hopen := hconserved.opened.mp (.inl hpc)
  refine h.notified (s.timers.popDue t.nanos).1 (hconserved.onTick hpc t) ?_ rfl ?_ id ?_ ?_
  · intro e he
    rw [notices_tick]
    exact he
  · exact fun e he => he.imp_right fun he => (MinQueue.mem_popDue_snd.mp he).1
  · intro e he
    simp at he
  · intro t' e ht he
    have heq : t' = t := by simpa using ht
    rcases he with (he | he) | he
    · exact heq ▸ hlate e he
    · exact heq ▸ (MinQueue.mem_popDue_snd.mp he).2
    · have hdrained : .drained e ∈ log := by simpa using he
      have hclosed := (h.drained e hdrained).1
      rw [hopen] at hclosed
      cases hclosed

theorem drain {e : TimerEntry} (h : s.Roused log) (hconserved : s.Conserved log)
    (hconserved' : s'.Conserved (log ++ [.drained e])) (hpc : s.pc = .drain)
    (hfutures : s'.futures = notify s.futures e) (hclosed : s'.timerClosed = s.timerClosed)
    (hflight : ∀ e', s'.InFlight e' → s.InFlight e') (he : s.InFlight e) (hfinds : s.Finds e) :
    s'.Roused (log ++ [.drained e]) := by
  have hwas := closed_of_not_running hconserved.opened (by simp [Running, hpc])
  refine h.notified [e] hconserved' (by simp [notices, notifiedOf]) hfutures hflight
    (fun _ => hclosed.trans hwas) (fun e' he' => ?_) (fun t e' ht => ?_)
  · obtain rfl : e' = e := by simpa using he'
    exact ⟨hclosed.trans hwas, List.mem_singleton_self _, he, hfinds⟩
  · simp at ht

theorem recvClock (h : s.Roused log) (hconserved : s.Conserved log) (hpc : s.pc = .select)
    (hok : s.Handed .recvClock) (hs : s.recvClock = some s') :
    s'.Roused (log ++ s.events .recvClock) := by
  obtain ⟨received, s₁, hrecv, hs⟩ := recvClock_cases hs
  obtain ⟨msgs, next, rfl⟩ := recv_frame hrecv
  have h₁ : Roused { s with latchedMsgs := msgs, clockRx := next } log := h.frame rfl rfl rfl id
  rcases hs with ⟨t, rfl, rfl⟩ | ⟨hreceived, rfl⟩ | ⟨hreceived, rfl⟩
  · have hconserved₁ : Conserved { s with latchedMsgs := msgs, clockRx := next } log :=
      hconserved.frame rfl rfl rfl hconserved.opened hconserved.empty
    rw [events_tick hrecv]
    exact h₁.onTick hconserved₁ hpc (hok t _ hrecv)
  · rw [events_recv hrecv fun t => hreceived (some t), List.append_nil]
    exact h₁
  · rw [events_recv hrecv hreceived, List.append_nil]
    exact h.frame rfl rfl rfl id

end Roused

theorem step_roused {s s' : Clock} {log : List Event} {label : Label} (h : s.Roused log)
    (hconserved : s.Conserved log) (hok : s.Handed label) (hs : s.step label = some s') :
    s'.Roused (log ++ s.events label) := by
  have hconserved' := step_conserved hconserved hs
  cases label with
  | sleepUntil deadline =>
    cases hs
    simp only [events, List.append_nil]
    exact h.sleepUntil hconserved deadline
  | pollTime i waker =>
    obtain ⟨f, hi, hs⟩ := stepFuture_some hs
    split at hs
    · rename_i hpc
      cases hs
      simp only [events, List.append_nil]
      refine h.setFuture (g := s.pollTime waker f) hi (fun w hw => ?_) (fun w hw _ => ?_)
        (fun hclosed _ hw => ?_)
      · unfold pollTime at hw ⊢
        split at hw
        · rcases hw with hw | hw <;> cases hw
        · rcases hw with hw | hw <;> cases hw
          rfl
      · refine ⟨w, hw, fun hidle => ?_⟩
        unfold pollTime at hidle
        split at hidle <;> cases hidle
      · unfold pollTime at hw
        rw [if_pos (.inr hclosed)] at hw
        rcases hw with hw | ⟨v, hw⟩ <;> cases hw
    · cases hs
  | pollRegister i =>
    obtain ⟨f, hi, hs⟩ := stepFuture_some hs
    split at hs
    · rename_i waker hpc
      cases hs
      simp only [events, List.append_nil]
      have hpolled := h.polled i f waker hi (.inl hpc)
      unfold pollRegister
      split
      · exact h.setFuture (g := { f with waker := some (some waker), pc := .idle }) hi (by simp)
          (fun _ _ _ => ⟨waker, rfl, fun _ => hpolled.symm⟩)
          (fun _ hwoken _ => hwoken (.inr ⟨waker, hpc⟩))
      · rename_i hnone
        refine h.setFuture (g := { f with pc := .send waker }) hi (fun w hw => ?_) (fun w hw _ => ?_)
          (fun _ _ hw => ?_)
        · rcases hw with hw | hw <;> cases hw
          exact hpolled
        · rw [hnone] at hw
          cases hw
        · rcases hw with hw | ⟨v, hw⟩ <;> cases hw
    · cases hs
  | pollSend i =>
    obtain ⟨f, hi, hs⟩ := stepFuture_some hs
    split at hs
    · rename_i waker hpc
      cases hs
      by_cases hclosed : s.timerClosed
      · simp only [events, hi, pollSend, if_pos hclosed, List.append_nil]
        refine h.setFuture (g := { f with pc := .ready }) hi (by simp)
          (fun w hw _ => ⟨w, hw, fun hidle => by cases hidle⟩) (by simp)
      · simp only [events, hi, pollSend, if_neg hclosed]
        exact h.send hconserved hi hpc (Bool.not_eq_true _ ▸ hclosed)
    · cases hs
  | dropFuture i =>
    obtain ⟨f, hi, hs⟩ := stepFuture_some hs
    split at hs
    · cases hs
      simp only [events, List.append_nil]
      exact h.setFuture (g := { f with pc := .dropped }) hi (by simp)
        (fun w hw _ => ⟨w, hw, fun hidle => by cases hidle⟩) (by simp)
    · cases hs
  | publish msg | cancel =>
    cases hs
    simp only [events, List.append_nil]
    exact h.frame rfl rfl rfl id
  | recvTimer =>
    simp only [step] at hs
    split at hs
    · rename_i entry entries hpc hrx
      cases hs
      simp only [events, List.append_nil]
      have hmem : ∀ e, (e ∈ entries ∨ e ∈ (s.timers.push entry).entries) ↔ s.InFlight e := by
        intro e
        rw [InFlight, hrx, MinQueue.mem_push, List.mem_cons]
        tauto
      exact ⟨h.polled, fun e he => h.registered e ((hmem e).mp he), h.drained,
        fun e he => h.unreached e (he.imp_left (hmem e).mp)⟩
    · cases hs
  | recvClock =>
    simp only [step] at hs
    split at hs
    · rename_i hpc
      exact h.recvClock hconserved hpc hok hs
    · cases hs
  | cancelled =>
    simp only [step] at hs
    split at hs
    · split at hs
      · cases hs
        simp only [events, List.append_nil]
        exact h.frame rfl rfl rfl id
      · cases hs
    · cases hs
  | close =>
    simp only [step] at hs
    split at hs
    · cases hs
      simp only [events, List.append_nil]
      exact h.frame rfl rfl rfl fun _ => rfl
    · cases hs
  | drainTimer k =>
    simp only [step] at hs
    split at hs
    · rename_i entry hpc hk
      cases hs
      simp only [events, hk] at hconserved' ⊢
      refine h.drain hconserved hconserved' hpc rfl rfl (fun e he => ?_)
        (.inr (List.mem_of_getElem? hk)) (hok entry hk)
      exact he.imp_right fun he => (List.eraseIdx_sublist ..).subset he
    · cases hs
  | drainChannel =>
    simp only [step] at hs
    split at hs
    · rename_i entry entries hpc hheap hrx
      cases hs
      simp only [events, hrx] at hconserved' ⊢
      refine h.drain hconserved hconserved' hpc rfl rfl (fun e he => ?_)
        (.inl (by simp [hrx])) (hok entry (by simp [hrx]))
      exact he.imp_left fun he => by simp [hrx, he]
    · rename_i hpc hheap hrx
      cases hs
      simp only [events, hrx, List.append_nil]
      exact h.frame hrx.symm rfl rfl id
    · cases hs

theorem pollTime_ready {s s' : Clock} (hclosed : s.timerClosed) {i w : ℕ}
    (hs : s.step (.pollTime i w) = some s') : ∃ f, s'.futures[i]? = some f ∧ f.pc = .ready := by
  obtain ⟨f, hi, hs⟩ := stepFuture_some hs
  split at hs
  · cases hs
    have hlt := (List.getElem?_eq_some_iff.mp hi).1
    exact ⟨s.pollTime w f, List.getElem?_set_self hlt, if_pos (.inr hclosed)⟩
  · cases hs

theorem pollSend_ready {s s' : Clock} (hclosed : s.timerClosed) {i : ℕ}
    (hs : s.step (.pollSend i) = some s') : ∃ f, s'.futures[i]? = some f ∧ f.pc = .ready := by
  obtain ⟨f, hi, hs⟩ := stepFuture_some hs
  split at hs
  · cases hs
    have hlt := (List.getElem?_eq_some_iff.mp hi).1
    unfold pollSend
    rw [if_pos hclosed]
    exact ⟨{ f with pc := .ready }, List.getElem?_set_self hlt, rfl⟩
  · cases hs

/-- In every run each entry that was sent is in the channel, in the heap or notified, and there once;
a tick notifies only what it has reached, nothing is left after the exit, and no poll that comes to
the closed channel waits. If every entry is handed over, what the exit notifies no tick has reached,
and no sleeper among them stays asleep. -/
theorem timer_entries_conserved (latchedMsgs : List (Option Time))
    (clockMsgs : Broadcast (Option Time)) (clockRx : ℕ) :
    (∀ labels s log, Run loggedStep (fun _ _ => True)
      (fromSubscriber latchedMsgs clockMsgs clockRx, []) labels (s, log) →
      (sends log).Nodup ∧ (sends log).Perm (s.timerRx ++ s.timers.entries ++ notices log) ∧
      (∀ t e, .ticked t e ∈ log → e.deadline ≤ t) ∧
      (s.pc = .finished → s.timerRx = [] ∧ s.timers.entries = []) ∧
      (s.timerClosed → ∀ i s',
        (∃ w, s.step (.pollTime i w) = some s') ∨ s.step (.pollSend i) = some s' →
          ∃ f, s'.futures[i]? = some f ∧ f.pc = .ready)) ∧
    ∀ labels s log, Run loggedStep (fun x label => x.1.Handed label)
      (fromSubscriber latchedMsgs clockMsgs clockRx, []) labels (s, log) →
      ∀ e, .drained e ∈ log → ¬ Reached log e ∧
        ∀ f, s.futures[e.waker]? = some f → Pending f → f.woken := by
  constructor
  · intro labels s log hrun
    have h : s.Conserved log := by
      refine hrun.invariant (I := fun x => x.1.Conserved x.2) (fun x label y h _ hs => ?_)
        (fromSubscriber_conserved latchedMsgs clockMsgs clockRx)
      obtain ⟨s', hs', rfl⟩ := Option.map_eq_some_iff.mp hs
      exact step_conserved h hs'
    refine ⟨h.nodup, h.perm, h.reached, h.empty, fun hclosed i s' hs => ?_⟩
    rcases hs with ⟨w, hs⟩ | hs
    · exact pollTime_ready hclosed hs
    · exact pollSend_ready hclosed hs
  · intro labels s log hrun e he
    have h : s.Conserved log ∧ s.Roused log := by
      refine hrun.invariant (I := fun x => x.1.Conserved x.2 ∧ x.1.Roused x.2)
        (fun x label y h hok hs => ?_)
        ⟨fromSubscriber_conserved latchedMsgs clockMsgs clockRx,
          fromSubscriber_roused latchedMsgs clockMsgs clockRx⟩
      obtain ⟨s', hs', rfl⟩ := Option.map_eq_some_iff.mp hs
      exact ⟨step_conserved h.1 hs', step_roused h.2 h.1 hok hs'⟩
    exact ⟨h.2.unreached e (.inr he), fun f hf hpending =>
      (h.2.drained e he).2 f hf (.inl hpending.1)⟩

theorem timer_entries_conserved_cancelled : ∃ (s : Clock) (f : SleepFuture),
    s.timerRx = [] ∧ s.timers.entries = [] ∧ s.futures[0]? = some f ∧ Pending f ∧ f.woken := by
  obtain ⟨s, hrun, hpc, hf⟩ : ∃ s, Run loggedStep (fun x label => x.1.Handed label) (simClock, [])
      [.sleepUntil ⟨5, 0⟩, .pollTime 0 7, .pollRegister 0, .pollSend 0, .recvTimer,
        .publish (some ⟨4, 0⟩), .recvClock, .cancel, .cancelled, .close, .drainTimer 0,
        .drainChannel] (s, [.sent ⟨⟨5, 0⟩, 0⟩, .tick ⟨4, 0⟩, .drained ⟨⟨5, 0⟩, 0⟩]) ∧
      s.pc = .finished ∧
      s.futures[0]? = some ⟨⟨5, 0⟩, some none, .idle, 7, true, true⟩ := by
    refine ⟨_, .cons trivial rfl <| .cons trivial rfl <| .cons trivial rfl <| .cons trivial rfl <|
      .cons trivial rfl <| .cons trivial rfl <| .cons ?_ rfl <| .cons trivial rfl <|
      .cons trivial rfl <| .cons trivial rfl <| .cons ?_ rfl <| .cons ?_ rfl <| .nil _, rfl, rfl⟩
    · intro t next _ e he
      cases he
    · intro e he f w hf hw
      cases he
      cases hf
      cases hw
    · intro e he
      cases he
  have hall : Run loggedStep (fun _ _ => True) (simClock, []) _ (s, _) :=
    hrun.mono fun _ _ _ => trivial
  obtain ⟨hconserved, hroused⟩ := timer_entries_conserved [] ⟨1, [], false⟩ 0
  have hempty := (hconserved _ s _ hall).2.2.2.1 hpc
  have hwoken := (hroused _ s _ hrun ⟨⟨5, 0⟩, 0⟩ (by simp)).2 _ hf ⟨rfl, rfl⟩
  exact ⟨s, _, hempty.1, hempty.2, hf, ⟨rfl, rfl⟩, hwoken⟩

/-- A tick that reaches a deadline leaves the entry in the channel for the exit, and the exit wakes
the waker of an earlier poll. -/
theorem timer_entries_mishandled :
    (∃ labels s log, Run loggedStep (fun _ _ => True) (simClock, []) labels (s, log) ∧
      s.pc = .finished ∧ .drained ⟨⟨5, 0⟩, 0⟩ ∈ log ∧ Reached log ⟨⟨5, 0⟩, 0⟩) ∧
    ∃ labels s log f, Run loggedStep (fun _ _ => True) (simClock, []) labels (s, log) ∧
      s.pc = .finished ∧ .drained ⟨⟨5, 0⟩, 0⟩ ∈ log ∧ s.futures[0]? = some f ∧ Pending f ∧
      f.woken = false := by
  constructor
  · refine ⟨[.sleepUntil ⟨5, 0⟩, .pollTime 0 7, .pollRegister 0, .pollSend 0, .publish (some ⟨5, 0⟩),
      .recvClock, .cancel, .cancelled, .close, .drainChannel, .drainChannel], _,
      [.sent ⟨⟨5, 0⟩, 0⟩, .tick ⟨5, 0⟩, .drained ⟨⟨5, 0⟩, 0⟩],
      run_of_exec rfl (fun _ _ _ => trivial), rfl, by simp, ⟨5, 0⟩, ?_, le_rfl⟩
    exact List.sublist_append_left [_, _] [_]
  · exact ⟨[.sleepUntil ⟨5, 0⟩, .pollTime 0 7, .pollRegister 0, .pollSend 0, .pollTime 0 8, .cancel,
      .cancelled, .close, .drainChannel, .drainChannel, .pollRegister 0], _,
      [.sent ⟨⟨5, 0⟩, 0⟩, .drained ⟨⟨5, 0⟩, 0⟩], ⟨⟨5, 0⟩, some (some 8), .idle, 8, false, true⟩,
      run_of_exec rfl (fun _ _ _ => trivial), rfl, by simp, rfl, ⟨rfl, rfl⟩, rfl⟩

end RosrustAsync.Clock
