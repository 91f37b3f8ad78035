import RosrustAsync.LatchedPublication

namespace RosrustAsync.Publication

open Runs

/-! The message that the listener has latched, however far it lags behind. -/

/-- What the listener holds is the last message that it has read, if it has read all. -/
structure Latched (p : Publication) : Prop where
  capacity : 0 < p.data.capacity
  dataRx_le : p.dataRx ≤ p.data.tail
  newest : p.dataRx = p.data.tail → p.latchedMessage = p.data.sent.getLast?
  read : ∀ m, p.latchedMessage = some m → ∃ k < p.dataRx, p.data.sent[k]? = some m

theorem Latched.move {p q : Publication} {label : Label} (h : p.Latched) (hs : p.Move label q) :
    q.Latched := by
  cases hs with
  | send m =>
    have hle := h.dataRx_le
    refine ⟨h.capacity, ?_, fun heq => ?_, fun m' hm => ?_⟩
    · rw [Broadcast.tail_send]
      exact Nat.le_succ_of_le hle
    · simp only [Broadcast.tail_send] at heq
      omega
    · obtain ⟨k, hk, hsent⟩ := h.read m' hm
      refine ⟨k, hk, ?_⟩
      rw [Broadcast.send, List.getElem?_append_left (List.getElem?_eq_some_iff.mp hsent).1]
      exact hsent
  | @latch m hpc hm =>
    obtain ⟨hlt, hget⟩ := List.getElem?_eq_some_iff.mp hm
    refine ⟨h.capacity, hlt, fun heq => ?_, fun m' hm' => ?_⟩
    · -- the message is the last one when the receiver is now at the tail
      simp only [Broadcast.tail] at heq
      rw [List.getLast?_eq_getElem?, ← heq, Nat.add_sub_cancel, hm]
    · cases hm'
      exact ⟨p.dataRx, Nat.lt_succ_self _, hm⟩
  | lag hpc hlt =>
    have hcapacity := h.capacity
    refine ⟨hcapacity, Nat.sub_le _ _, fun heq => ?_, fun m hm => ?_⟩
    · simp only at heq
      omega
    · obtain ⟨k, hk, hsent⟩ := h.read m hm
      exact ⟨k, hk.trans hlt, hsent⟩
  | _ => exact ⟨h.capacity, h.dataRx_le, h.newest, h.read⟩

theorem Latched.new {topic : Topic} {callerId : String} {queueSize : ℕ} {tcpNodelay latching : Bool}
    {p : Publication} (h : new topic callerId queueSize tcpNodelay latching = some p) :
    p.Latched := by
  obtain ⟨data, hdata, h⟩ := Option.bind_eq_some_iff.mp h
  obtain ⟨hcapacity, hsent, -⟩ := Broadcast.channel_eq_some hdata
  cases h
  refine ⟨hcapacity, le_refl _, fun _ => ?_, nofun⟩
  rw [hsent]
  rfl

/-- What happens between two states: the listener reads on, and what it holds stays or makes way for
a message behind all that it had read. -/
structure Follows (p q : Publication) : Prop where
  sent : p.data.sent <+: q.data.sent
  dataRx_le : p.dataRx ≤ q.dataRx
  latched : q.latchedMessage = p.latchedMessage ∨
    ∃ m k, q.latchedMessage = some m ∧ p.dataRx ≤ k ∧ k < q.dataRx ∧ q.data.sent[k]? = some m

theorem Follows.refl (p : Publication) : p.Follows p := ⟨List.prefix_refl _, le_refl _, .inl rfl⟩

theorem Follows.trans {p q r : Publication} (h : p.Follows q) (h' : q.Follows r) : p.Follows r := by
  refine ⟨h.sent.trans h'.sent, h.dataRx_le.trans h'.dataRx_le, ?_⟩
  rcases h'.latched with heq | ⟨m, k, hm, hle, hlt, hk⟩
  · rw [heq]
    refine h.latched.imp_right ?_
    rintro ⟨m, k, hm, hle, hlt, hk⟩
    refine ⟨m, k, hm, hle, hlt.trans_le h'.dataRx_le, ?_⟩
    obtain ⟨rest, hrest⟩ := h'.sent
    rw [← hrest, List.getElem?_append_left (List.getElem?_eq_some_iff.mp hk).1]
    exact hk
  · exact .inr ⟨m, k, hm, h.dataRx_le.trans hle, hlt, hk⟩

theorem Move.follows {p q : Publication} {label : Label} (hs : p.Move label q) : p.Follows q := by
  cases hs with
  | send m => exact ⟨List.prefix_append _ _, le_refl _, .inl rfl⟩
  | @latch m hpc hm =>
    exact ⟨List.prefix_refl _, Nat.le_succ _,
      .inr ⟨m, p.dataRx, rfl, le_refl _, Nat.lt_succ_self _, hm⟩⟩
  | lag hpc hlt => exact ⟨List.prefix_refl _, hlt.le, .inl rfl⟩
  | _ => exact ⟨List.prefix_refl _, le_refl _, .inl rfl⟩

theorem Follows.of_run {p q : Publication} {labels : List Label} {ok : Publication → Label → Prop}
    (h : Run step ok p labels q) : p.Follows q := by
  induction h with
  | nil p => exact .refl p
  | cons _ hs _ ih => exact (step_move hs).follows.trans ih

/-- In every state that a run of a latching publication reaches: the listener holds the last message
once it has read all, and at any time one that it has read, and never an older one again. -/
theorem latched_under_lag {topic : Topic} {callerId : String} {queueSize : ℕ} {tcpNodelay : Bool}
    {p q : Publication} {labels : List Label}
    (hnew : new topic callerId queueSize tcpNodelay true = some p)
    (hrun : Run step (fun _ _ => True) p labels q) :
    (q.dataRx = q.data.tail → q.latchedMessage = q.data.sent.getLast?) ∧
    (∀ m, q.latchedMessage = some m → ∃ k < q.dataRx, q.data.sent[k]? = some m) ∧
    ∀ labels' r, Run step (fun _ _ => True) q labels' r →
      q.data.sent <+: r.data.sent ∧
      (r.latchedMessage = q.latchedMessage ∨ ∃ m k, r.latchedMessage = some m ∧
        q.dataRx ≤ k ∧ k < r.dataRx ∧ r.data.sent[k]? = some m) := by
  have hq : q.Latched := hrun.invariant (fun _ _ _ h _ hs => h.move (step_move hs)) (.new hnew)
  refine ⟨hq.newest, hq.read, fun labels' r hrest => ?_⟩
  have hfollows := Follows.of_run hrest
  exact ⟨hfollows.sent, hfollows.latched⟩

/-- A queue of one message: the listener lags behind twice, and ends with the newest message. -/
theorem latched_under_lag_burst : ∃ (p q : Publication) (labels : List Label),
    new latchTopic "/talker" 1 false true = some p ∧
      Run step (fun _ _ => True) p labels q ∧ q.dataRx = q.data.tail ∧
      q.data.sent = [[1], [2], [3]] ∧ q.latchedMessage = q.data.sent.getLast? := by
  obtain ⟨p, hnew⟩ : ∃ p, new latchTopic "/talker" 1 false true = some p := ⟨_, rfl⟩
  obtain ⟨q, hrun, hread, hsent⟩ : ∃ q, Run step (fun _ _ => True) p
      [.send [1], .send [2], .listenerRecv, .send [3], .listenerRecv, .listenerRecv] q ∧
      q.dataRx = q.data.tail ∧ q.data.sent = [[1], [2], [3]] := by
    cases hnew
    exact ⟨_, run_of_exec rfl fun _ _ _ => trivial, rfl, rfl⟩
  exact ⟨p, q, _, hnew, hrun, hread, hsent, (latched_under_lag hnew hrun).1 hread⟩

end RosrustAsync.Publication
