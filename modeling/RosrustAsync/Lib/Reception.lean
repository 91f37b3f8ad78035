import RosrustAsync.Lib.Broadcast

namespace RosrustAsync.Broadcast

variable {α : Type} {c : Broadcast α}

/-- What a receiver that began at `start` has taken, and how many values it was told it missed. -/
structure Reception (c : Broadcast α) (start next : ℕ) (taken : List α) (missed : ℕ) : Prop where
  start_le : start ≤ next
  next_le : next ≤ c.tail
  sublist : taken.Sublist (c.window start next)
  count : taken.length + missed = next - start

variable {start next missed : ℕ} {taken : List α}

theorem window_sublist {next' : ℕ} (h : next ≤ next') :
    (c.window start next).Sublist (c.window start next') :=
  (List.take_sublist_take_left h).drop start

theorem reception_start {n : ℕ} (h : n ≤ c.tail) : c.Reception n n [] 0 :=
  ⟨Nat.le_refl n, h, List.nil_sublist _, (Nat.sub_self n).symm⟩

namespace Reception

theorem send (h : c.Reception start next taken missed) (a : α) :
    (c.send a).Reception start next taken missed := by
  refine ⟨h.start_le, ?_, ?_, h.count⟩
  · rw [tail_send]
    exact Nat.le_succ_of_le h.next_le
  · rw [window_send start a h.next_le]
    exact h.sublist

theorem value {next' : ℕ} {a : α} (h : c.Reception start next taken missed)
    (hr : c.recv next = some (.value a, next')) :
    c.Reception start next' (taken ++ [a]) missed := by
  obtain ⟨ha, rfl, hle⟩ := recv_value hr
  refine ⟨Nat.le_succ_of_le h.start_le, hle, ?_, ?_⟩
  · rw [window_succ ha h.start_le]
    exact h.sublist.append (List.Sublist.refl _)
  · rw [List.length_append, List.length_singleton, Nat.succ_sub h.start_le, ← h.count]
    omega

theorem lagged {next' n : ℕ} (h : c.Reception start next taken missed)
    (hr : c.recv next = some (.lagged n, next')) :
    c.Reception start next' taken (missed + n) := by
  have hn : n = next' - next := by
    unfold recv at hr
    split at hr
    · split at hr <;> cases hr
      rfl
    · split at hr <;> cases hr
  obtain ⟨hlt, rfl⟩ := recv_lagged hr
  have hle := Nat.le_of_lt hlt
  refine ⟨Nat.le_trans h.start_le hle, Nat.sub_le _ _, h.sublist.trans (window_sublist hle), ?_⟩
  rw [← Nat.add_assoc, h.count, hn]
  have hs := h.start_le
  omega

end Reception

/-- A receiver that has caught up took the last value that was sent since it began. -/
def Current (c : Broadcast α) (start next : ℕ) (taken : List α) : Prop :=
  next = c.tail → taken.getLast? = (c.sent.drop start).getLast?

theorem current_start (n : ℕ) (h : n = c.tail) : c.Current n n [] := by
  intro _
  rw [h, tail, List.drop_length]

theorem Reception.current_send (h : c.Reception start next taken missed) (a : α) :
    (c.send a).Current start next taken := by
  intro htail
  rw [tail_send] at htail
  have hle := h.next_le
  omega

theorem Reception.current_value {next' : ℕ} {a : α} (h : c.Reception start next taken missed)
    (hr : c.recv next = some (.value a, next')) : c.Current start next' (taken ++ [a]) := by
  obtain ⟨ha, rfl, hle⟩ := recv_value hr
  intro htail
  have hlast : c.sent.getLast? = some a := by
    rw [List.getLast?_eq_getElem?, ← tail, ← htail]
    exact ha
  have hstart := h.start_le
  rw [List.getLast?_concat, List.getLast?_drop, hlast, if_neg]
  rw [← tail]
  omega

/-- A lagging receiver is moved to a value that it still has to take. -/
theorem current_lagged {next' n : ℕ} (hcapacity : 0 < c.capacity)
    (hr : c.recv next = some (.lagged n, next')) : c.Current start next' taken := by
  obtain ⟨hlt, rfl⟩ := recv_lagged hr
  intro htail
  omega

end RosrustAsync.Broadcast
