import RosrustAsync.ClientExchanges
import RosrustAsync.ClientStreams

namespace RosrustAsync

/-- The connection that the link is using for a call, once it is one to a service. -/
def ClientLink.connection (self : ClientLink) : Option ℕ :=
  match self.pc with
  | .headerWrite _ _ i | .headerRead _ _ i => some i
  | _ => self.exchange.map Prod.snd

theorem ClientLink.connection_of_exchange {link : ClientLink} {call i : ℕ}
    (h : link.exchange = some (call, i)) : link.connection = some i := by
  unfold connection
  split
  · rename_i hpc
    simp only [exchange, hpc] at h
    cases h
  · rename_i hpc
    simp only [exchange, hpc] at h
    cases h
  · rw [h, Option.map_some]

namespace ClientExchanges

variable {decodeString : Bytes → Except IoError String} {s t : ClientExchanges}
  {link' : ClientLink}

/-- A reply to a call, as it is sent in answer to that call. -/
def answerTo (call : ℕ) (frame : Bytes) : List (UInt8 × Option ℕ) :=
  (rpcSuccess :: frame).map fun b => (b, some call)

/-- What is still to be read from a connection has been sent in answer to the last request. -/
structure Answering (s : ClientExchanges) (call i : ℕ) : Prop where
  last : (s.requests i).getLast? = some call
  unread : ∀ p ∈ (s.sent i).drop (s.link.position i), p.2 = some call

def Got (s : ClientExchanges) : Prop :=
  match s.link.pc with
  | .status msg connection => s.got = [] ∧ s.Answering msg.replyTx connection.tcpStream
  | .success msg connection =>
    s.got = [(rpcSuccess, some msg.replyTx)] ∧ s.Answering msg.replyTx connection.tcpStream
  | .failure _ _ => True
  | _ => s.got = []

theorem Got.congr (h : s.Got) (hpc : t.link.pc = s.link.pc) (hgot : t.got = s.got)
    (hanswering : ∀ call i, s.Answering call i → t.Answering call i) : t.Got := by
  unfold Got at h ⊢
  rw [hpc, hgot]
  split at h
  · exact ⟨h.1, hanswering _ _ h.2⟩
  · exact ⟨h.1, hanswering _ _ h.2⟩
  · trivial
  · exact h

structure Invariant (s : ClientExchanges) : Prop where
  sent : ∀ i stream, s.link.streams[i]? = some stream →
    (s.sent i).map Prod.fst = stream.fromServer ∧ stream.read ≤ stream.fromServer.length
  unsent : ∀ i, s.link.streams.length ≤ i → s.sent i = [] ∧ s.broken i = false
  used : ∀ i, s.link.connection = some i → i < s.link.streams.length ∧ s.broken i = false
  kept : ∀ connection, s.link.connectionState = some connection →
    connection.tcpStream < s.link.streams.length
  got : s.Got
  origins : s.origins.length = s.link.replies.length
  answered : ∀ (n call : ℕ) frame, s.link.replies[n]? = some (call, .ok frame) →
    s.origins[n]? = some (answerTo call frame)

theorem Invariant.streams (h : s.Invariant) {l' : List TcpStream} (he : Evolves s.link.streams l')
    (i : ℕ) (stream : TcpStream) (hs : l'[i]? = some stream) :
    (s.sent i).map Prod.fst = stream.fromServer ∧ stream.read ≤ stream.fromServer.length := by
  rcases he.stream i stream hs with ⟨stream₀, h₀, hfrom, hread⟩ | ⟨hlen, hempty, hread⟩
  · obtain ⟨hsent, hle⟩ := h.sent i stream₀ h₀
    exact ⟨hsent.trans hfrom.symm, hread hle⟩
  · rw [(h.unsent i hlen).1, hempty]
    exact ⟨rfl, hempty ▸ hread⟩

theorem record_moved {label : ClientLink.Label} (hreplies : link'.replies = s.link.replies) :
    s.record label link' = { s with
      link := link'
      requests := s.requestsAfter label
      got := s.got ++ s.consumed link' } := by
  rw [record, hreplies, List.drop_length]

theorem record_replied {label : ClientLink.Label} {call : ℕ}
    {result : Except ClientLinkError Bytes}
    (hreplies : link'.replies = s.link.replies ++ [(call, result)]) :
    s.record label link' = { s with
      link := link'
      requests := s.requestsAfter label
      got := []
      origins := s.origins ++ [s.got ++ s.consumed link']
      broken := s.brokenBy result } := by
  rw [record, hreplies, List.drop_left]

theorem Invariant.moved (h : s.Invariant) {label : ClientLink.Label}
    (he : s.link.step decodeString label = some link')
    (hreplies : link'.replies = s.link.replies)
    (hkept : ∀ connection, link'.connectionState = some connection →
      s.link.connectionState = some connection)
    (hused : ∀ i, link'.connection = some i → i < link'.streams.length ∧ s.broken i = false)
    (hgot : Got { s with
      link := link'
      requests := s.requestsAfter label
      got := s.got ++ s.consumed link' }) : (s.record label link').Invariant := by
  have hev := ClientLink.step_evolves he
  rw [record_moved hreplies]
  refine ⟨h.streams hev, fun i hi => h.unsent i (hev.length.trans hi), hused, ?_, hgot, ?_, ?_⟩
  · exact fun connection hc => (h.kept connection (hkept connection hc)).trans_le hev.length
  · exact h.origins.trans (congrArg List.length hreplies).symm
  · rw [hreplies]
    exact h.answered

theorem Invariant.replied (h : s.Invariant) {label : ClientLink.Label} {call : ℕ}
    {result : Except ClientLinkError Bytes} (he : s.link.step decodeString label = some link')
    (hpc : link'.pc = .select)
    (hreplies : link'.replies = s.link.replies ++ [(call, result)])
    (hkept : ∀ connection, link'.connectionState = some connection →
      s.link.connectionState = some connection ∨ s.link.connection = some connection.tcpStream)
    (hresult : ∀ frame, result = .ok frame → s.got ++ s.consumed link' = answerTo call frame) :
    (s.record label link').Invariant := by
  have hev := ClientLink.step_evolves he
  rw [record_replied hreplies]
  refine ⟨h.streams hev, fun i hi => ⟨(h.unsent i (hev.length.trans hi)).1, ?_⟩, ?_, ?_, ?_, ?_, ?_⟩
  · show s.brokenBy result i = false
    have hold := (h.unsent i (hev.length.trans hi)).2
    cases hexchange : s.link.exchange with
    | none => simp only [brokenBy, hexchange, hold]
    | some x =>
      obtain ⟨call', j⟩ := x
      have hj := (h.used j (ClientLink.connection_of_exchange hexchange)).1
      have hne : i ≠ j := by
        rintro rfl
        exact absurd (hj.trans_le (hev.length.trans hi)) (lt_irrefl i)
      simp only [brokenBy, hexchange]
      split
      · rw [Function.update_of_ne hne, hold]
      · exact hold
  · intro i hi
    simp [ClientLink.connection, ClientLink.exchange, hpc] at hi
  · intro connection hc
    rcases hkept connection hc with hk | hk
    · exact (h.kept connection hk).trans_le hev.length
    · exact (h.used _ hk).1.trans_le hev.length
  · simp only [Got, hpc]
  · rw [List.length_append, h.origins, hreplies, List.length_append]
    rfl
  · intro n call' frame hn
    rw [hreplies] at hn
    rcases getElem?_concat_cases hn with hn | ⟨rfl, hlast⟩
    · rw [List.getElem?_append_left]
      · exact h.answered n call' frame hn
      · rw [h.origins]
        exact (List.getElem?_eq_some_iff.mp hn).1
    · cases hlast
      rw [← h.origins, List.getElem?_concat_length, hresult frame rfl]

theorem consumed_none (h : s.link.exchange = none) : s.consumed link' = [] := by
  simp only [consumed, h]

theorem consumed_same (h : ∀ i, link'.position i = s.link.position i) : s.consumed link' = [] := by
  unfold consumed
  split
  · rw [h, Nat.sub_self, List.take_zero]
  · rfl

theorem endRpc_pc {link : ClientLink} (msg : RpcMsg) (connection : ConnectionState)
    (result : Except ClientLinkError Bytes) : (link.endRpc msg connection result).pc = .select := by
  unfold ClientLink.endRpc
  split <;> rfl

theorem endRpc_replies {link : ClientLink} (msg : RpcMsg) (connection : ConnectionState)
    (result : Except ClientLinkError Bytes) :
    (link.endRpc msg connection result).replies = link.replies ++ [(msg.replyTx, result)] := by
  unfold ClientLink.endRpc
  split <;> rfl

theorem endRpc_kept {link : ClientLink} (msg : RpcMsg) (connection kept : ConnectionState)
    (result : Except ClientLinkError Bytes)
    (h : (link.endRpc msg connection result).connectionState = some kept) :
    link.connectionState = some kept ∨ connection = kept := by
  unfold ClientLink.endRpc at h
  split at h
  · exact .inr (Option.some.inj h)
  · exact .inl h

theorem Invariant.ended (h : s.Invariant) {label : ClientLink.Label} {link : ClientLink}
    {msg : RpcMsg} {connection : ConnectionState} {result : Except ClientLinkError Bytes}
    (he : s.link.step decodeString label = some (link.endRpc msg connection result))
    (hreplies : link.replies = s.link.replies)
    (hkept : link.connectionState = s.link.connectionState)
    (hconnection : s.link.connection = some connection.tcpStream)
    (hresult : ∀ frame, result = .ok frame →
      s.got ++ s.consumed (link.endRpc msg connection result) = answerTo msg.replyTx frame) :
    (s.record label (link.endRpc msg connection result)).Invariant := by
  have hreplies' : (link.endRpc msg connection result).replies =
      s.link.replies ++ [(msg.replyTx, result)] := by
    rw [endRpc_replies, hreplies]
  refine h.replied he (endRpc_pc _ _ _) hreplies' (fun kept hk => ?_) hresult
  rcases endRpc_kept _ _ _ _ hk with hk | rfl
  · exact .inl (hkept ▸ hk)
  · exact .inr hconnection

theorem Invariant.receivedFrame (h : s.Invariant) {label : ClientLink.Label} {i : ℕ}
    {f : TcpStream → TcpStream} {frame : Except IoError Bytes}
    (he : s.link.step decodeString label = some link')
    (hr : (s.link.modifyStream i f).receivedFrame decodeString frame = some link')
    (hframe : ∀ b msg connection, s.link.pc = .success msg connection → frame = .ok b →
      s.got ++ s.consumed link' = answerTo msg.replyTx b) : (s.record label link').Invariant := by
  have hgot := h.got
  unfold ClientLink.receivedFrame at hr
  split at hr
  · rename_i msg address j hpc
    rw [ClientLink.modifyStream_pc] at hpc
    simp only [Got, hpc] at hgot
    have hexchange : s.link.exchange = none := by simp only [ClientLink.exchange, hpc]
    split at hr <;> cases hr
    · refine h.moved he rfl (fun _ => id) ?_ ?_
      · simp [ClientLink.connection, ClientLink.exchange]
      · rw [Got, hgot, consumed_none hexchange, List.append_nil]
    · exact h.replied he rfl rfl (fun _ => .inl) (by simp)
  · rename_i msg address j hpc
    rw [ClientLink.modifyStream_pc] at hpc
    simp only [Got, hpc] at hgot
    have hexchange : s.link.exchange = none := by simp only [ClientLink.exchange, hpc]
    have hconnection : s.link.connection = some j := by simp only [ClientLink.connection, hpc]
    split at hr <;> cases hr
    · refine h.moved he rfl (fun _ => id) ?_ ?_
      · rintro k ⟨⟩
        obtain ⟨hj, hbroken⟩ := h.used j hconnection
        exact ⟨by rwa [ClientLink.modifyStream, List.length_modify], hbroken⟩
      · rw [Got, hgot, consumed_none hexchange, List.append_nil]
    · exact h.replied he rfl rfl (fun _ => .inl) (by simp)
  · rename_i msg connection hpc
    rw [ClientLink.modifyStream_pc] at hpc
    have hconnection : s.link.connection = some connection.tcpStream := by
      simp only [ClientLink.connection, ClientLink.exchange, hpc, Option.map_some]
    cases hr
    refine h.ended he rfl rfl hconnection fun b hb => hframe b msg connection hpc ?_
    cases frame with
    | ok b' =>
      cases hb
      rfl
    | error e => cases hb
  · rename_i msg connection hpc
    rw [ClientLink.modifyStream_pc] at hpc
    have hconnection : s.link.connection = some connection.tcpStream := by
      simp only [ClientLink.connection, ClientLink.exchange, hpc, Option.map_some]
    cases hr
    exact h.ended he rfl rfl hconnection (by simp)
  · cases hr

theorem owned_eq {l : List (UInt8 × Option ℕ)} {o : Option ℕ} (h : ∀ p ∈ l, p.2 = o) :
    l = (l.map Prod.fst).map fun b => (b, o) := by
  rw [List.map_map]
  conv_lhs => rw [← List.map_id l]
  apply List.map_congr_left
  intro p hp
  exact Prod.ext rfl (h p hp)

theorem position_eq {link : ClientLink} {i : ℕ} {stream : TcpStream}
    (h : link.streams[i]? = some stream) : link.position i = stream.read := by
  simp only [ClientLink.position, h]

/-- What is to be read from a connection has been sent in answer to the last request on it. -/
theorem Invariant.owned (h : s.Invariant) {call i : ℕ} {stream : TcpStream}
    (ha : s.Answering call i) (hs : s.link.streams[i]? = some stream) :
    (s.sent i).drop stream.read = stream.unread.map fun b => (b, some call) := by
  have hunread := ha.unread
  rw [position_eq hs] at hunread
  rw [owned_eq hunread, List.map_drop, (h.sent i stream hs).1, TcpStream.unread]

theorem consumed_eq {call i n : ℕ} {stream : TcpStream} (hexchange : s.link.exchange = some (call, i))
    (hs : s.link.streams[i]? = some stream) (hn : link'.position i = stream.read + n) :
    s.consumed link' = ((s.sent i).drop stream.read).take n := by
  simp only [consumed, hexchange, position_eq hs, hn, Nat.add_sub_cancel_left]

theorem modifyStream_position {link : ClientLink} {i : ℕ} {stream stream' : TcpStream}
    (hs : link.streams[i]? = some stream) :
    (link.modifyStream i fun _ => stream').position i = stream'.read := by
  refine position_eq ?_
  rw [ClientLink.modifyStream, List.getElem?_modify_eq, hs]
  rfl

theorem modify_position {link : ClientLink} {i : ℕ} {f : TcpStream → TcpStream}
    (hf : ∀ stream, (f stream).read = stream.read) (j : ℕ) :
    (link.modifyStream i f).position j = link.position j := by
  simp only [ClientLink.position, ClientLink.modifyStream, List.getElem?_modify]
  cases link.streams[j]? with
  | none => rfl
  | some stream =>
    by_cases hij : i = j
    · simp only [hij, if_true, Option.map_eq_map, Option.map_some, hf]
    · simp only [hij, if_false, Option.map_eq_map, Option.map_some]

theorem endRpc_position {link : ClientLink} (msg : RpcMsg) (connection : ConnectionState)
    (result : Except ClientLinkError Bytes) (i : ℕ) :
    (link.endRpc msg connection result).position i = link.position i := by
  unfold ClientLink.endRpc
  split
  · rfl
  · show (link.modifyStream _ _).position i = _
    rw [modify_position]
    exact fun _ => rfl

theorem Answering.advance {call i n : ℕ} {stream : TcpStream} (h : s.Answering call i)
    (hs : s.link.streams[i]? = some stream) (hn : link'.position i = stream.read + n) :
    Answering { s with link := link', got := s.got ++ s.consumed link' } call i := by
  refine ⟨h.last, fun p hp => h.unread p ?_⟩
  rw [position_eq hs]
  rw [hn, ← List.drop_drop] at hp
  exact List.mem_of_mem_drop hp

theorem read_status (h : s.Invariant) {msg : RpcMsg} {connection : ConnectionState}
    {stream stream' : TcpStream} {code : Except IoError UInt8}
    (hpc : s.link.pc = .status msg connection)
    (hs : s.link.streams[connection.tcpStream]? = some stream)
    (hread : stream.readU8 = some (code, stream'))
    (he : s.link.step decodeString .read = some
      ((s.link.modifyStream connection.tcpStream fun _ => stream').receivedStatus msg connection
        code)) :
    (s.record .read ((s.link.modifyStream connection.tcpStream fun _ => stream').receivedStatus msg
      connection code)).Invariant := by
  have hexchange : s.link.exchange = some (msg.replyTx, connection.tcpStream) := by
    simp only [ClientLink.exchange, hpc]
  have hconnection := ClientLink.connection_of_exchange hexchange
  obtain ⟨hlt, hbroken⟩ := h.used _ hconnection
  have hused : ∀ {link : ClientLink}, link.connection = some connection.tcpStream →
      s.link.streams.length ≤ link.streams.length → ∀ i, link.connection = some i →
      i < link.streams.length ∧ s.broken i = false := by
    intro link hlink hle i hi
    obtain rfl := Option.some.inj (hlink.symm.trans hi)
    exact ⟨hlt.trans_le hle, hbroken⟩
  have hgot := h.got
  simp only [Got, hpc] at hgot
  obtain ⟨hempty, hanswering⟩ := hgot
  rcases TcpStream.readU8_eq hread with ⟨b, rest, hunread, rfl, rfl⟩ | ⟨e, rfl, rfl⟩
  · simp only [ClientLink.receivedStatus] at he ⊢
    split
    · rename_i hb
      rw [if_pos hb] at he
      have hposition : ClientLink.position { s.link.modifyStream connection.tcpStream fun _ =>
          { stream with read := stream.read + 1 } with pc := .success msg connection }
          connection.tcpStream = stream.read + 1 := modifyStream_position hs
      refine h.moved he rfl (fun _ => id) (hused rfl (List.length_modify ..).ge) ?_
      refine ⟨?_, hanswering.advance hs hposition⟩
      rw [consumed_eq hexchange hs hposition, h.owned hanswering hs, hunread, hempty, hb]
      rfl
    · split
      · rename_i hb hb'
        rw [if_neg hb, if_pos hb'] at he
        exact h.moved he rfl (fun _ => id) (hused rfl (List.length_modify ..).ge) trivial
      · rename_i hb hb'
        rw [if_neg hb, if_neg hb'] at he
        exact h.ended he rfl rfl hconnection (by simp)
  · exact h.ended he rfl rfl hconnection (by simp)

theorem read_invariant (h : s.Invariant) (he : s.link.step decodeString .read = some link') :
    (s.record .read link').Invariant := by
  have hstep := he
  obtain ⟨i, hin, he⟩ := Option.bind_eq_some_iff.mp he
  obtain ⟨stream, hs, he⟩ := Option.bind_eq_some_iff.mp he
  split at he
  · rename_i msg connection hpc
    obtain ⟨⟨code, stream'⟩, hread, he⟩ := Option.bind_eq_some_iff.mp he
    obtain rfl : connection.tcpStream = i := by simpa [ClientLink.incoming, hpc] using hin
    cases he
    exact read_status h hpc hs hread hstep
  · obtain ⟨⟨frame, stream'⟩, hread, he⟩ := Option.bind_eq_some_iff.mp he
    refine h.receivedFrame hstep he fun b msg connection hpc hb => ?_
    obtain rfl : connection.tcpStream = i := by simpa [ClientLink.incoming, hpc] using hin
    have hexchange : s.link.exchange = some (msg.replyTx, connection.tcpStream) := by
      simp only [ClientLink.exchange, hpc]
    have hgot := h.got
    simp only [Got, hpc] at hgot
    obtain ⟨hsuccess, hanswering⟩ := hgot
    rcases TcpStream.readFrame_eq hread with ⟨b', rest, hunread, hframe, rfl⟩ | ⟨e, hframe, -⟩
    · rw [hframe] at hb
      cases hb
      have hposition : link'.position connection.tcpStream = stream.read + b.length := by
        simp only [ClientLink.receivedFrame, ClientLink.modifyStream_pc, hpc, hframe,
          Option.some.injEq] at he
        rw [← he, endRpc_position, modifyStream_position hs]
      rw [consumed_eq hexchange hs hposition, h.owned hanswering hs, hunread, hsuccess,
        List.map_append, List.take_left' (List.length_map _)]
      rfl
    · rw [hframe] at hb
      cases hb

theorem write_invariant (h : s.Invariant) (hok : s.Clean (.client .write))
    (he : s.link.step decodeString .write = some link') : (s.record .write link').Invariant := by
  have hstep := he
  obtain ⟨⟨i, bytes⟩, hout, he⟩ := Option.bind_eq_some_iff.mp he
  have hposition : ∀ j, (s.link.modifyStream i fun stream =>
      { stream with toServer := stream.toServer ++ bytes }).position j = s.link.position j := by
    intro j
    rw [modify_position]
    exact fun _ => rfl
  have hconsumed : ∀ pc : ClientPc, s.consumed { s.link.modifyStream i fun stream =>
      { stream with toServer := stream.toServer ++ bytes } with pc } = [] :=
    fun _ => consumed_same hposition
  have hlength : (s.link.modifyStream i fun stream =>
      { stream with toServer := stream.toServer ++ bytes }).streams.length =
      s.link.streams.length := List.length_modify ..
  have hgot := h.got
  cases hpc : s.link.pc with
  | probeWrite msg address j =>
    simp only [ClientLink.wrote, ClientLink.modifyStream_pc, hpc, Option.some.injEq] at he
    subst he
    simp only [Got, hpc] at hgot
    refine h.moved hstep rfl (fun _ => id) ?_ ?_
    · simp [ClientLink.connection, ClientLink.exchange]
    · show s.got ++ s.consumed _ = []
      rw [hgot, hconsumed, List.append_nil]
  | headerWrite msg address j =>
    simp only [ClientLink.wrote, ClientLink.modifyStream_pc, hpc, Option.some.injEq] at he
    subst he
    simp only [Got, hpc] at hgot
    refine h.moved hstep rfl (fun _ => id) ?_ ?_
    · rintro k ⟨⟩
      obtain ⟨hj, hbroken⟩ := h.used j (by simp only [ClientLink.connection, hpc])
      exact ⟨hj.trans_eq hlength.symm, hbroken⟩
    · show s.got ++ s.consumed _ = []
      rw [hgot, hconsumed, List.append_nil]
  | request msg connection =>
    simp only [ClientLink.wrote, ClientLink.modifyStream_pc, hpc, Option.some.injEq] at he
    subst he
    simp only [Got, hpc] at hgot
    have hexchange : s.link.exchange = some (msg.replyTx, connection.tcpStream) := by
      simp only [ClientLink.exchange, hpc]
    obtain ⟨hlt, hbroken⟩ := h.used _ (ClientLink.connection_of_exchange hexchange)
    have hrequests : s.requestsAfter .write = Function.update s.requests connection.tcpStream
        (s.requests connection.tcpStream ++ [msg.replyTx]) := by
      simp only [requestsAfter, ClientLink.requested, hpc]
    refine h.moved hstep rfl (fun _ => id) ?_ ⟨?_, ?_, ?_⟩
    · rintro k ⟨⟩
      exact ⟨hlt.trans_eq hlength.symm, hbroken⟩
    · rw [hgot, hconsumed, List.append_nil]
    · show (s.requestsAfter .write connection.tcpStream).getLast? = some msg.replyTx
      rw [hrequests, Function.update_self, List.getLast?_append, List.getLast?_singleton]
      rfl
    · -- nothing was left to be read when the request was written
      obtain ⟨stream, hs⟩ : ∃ stream, s.link.streams[connection.tcpStream]? = some stream :=
        ⟨_, List.getElem?_eq_getElem hlt⟩
      have hunread := hok msg connection hpc stream hs
      have hnothing : (s.sent connection.tcpStream).drop (s.link.position connection.tcpStream) =
          [] := by
        rw [position_eq hs, ← List.map_eq_nil_iff, List.map_drop, (h.sent _ stream hs).1]
        exact hunread
      intro p hp
      have hp' : p ∈ (s.sent connection.tcpStream).drop (s.link.position connection.tcpStream) := by
        rwa [← hposition]
      rw [hnothing] at hp'
      cases hp'
  | _ => simp [ClientLink.outgoing, hpc] at hout

theorem writeError_invariant (h : s.Invariant) {error : IoError} {torn : ℕ}
    (he : s.link.step decodeString (.writeError error torn) = some link') :
    (s.record (.writeError error torn) link').Invariant := by
  have hstep := he
  obtain ⟨⟨i, bytes⟩, hout, he⟩ := Option.bind_eq_some_iff.mp he
  cases hpc : s.link.pc with
  | probeWrite msg address j | headerWrite msg address j =>
    simp only [ClientLink.wrote, ClientLink.modifyStream_pc, hpc, Option.some.injEq] at he
    subst he
    exact h.replied hstep rfl rfl (fun _ => .inl) (by simp)
  | request msg connection =>
    simp only [ClientLink.wrote, ClientLink.modifyStream_pc, hpc, Option.some.injEq] at he
    subst he
    have hexchange : s.link.exchange = some (msg.replyTx, connection.tcpStream) := by
      simp only [ClientLink.exchange, hpc]
    exact h.ended hstep rfl rfl (ClientLink.connection_of_exchange hexchange) (by simp)
  | _ => simp [ClientLink.outgoing, hpc] at hout

theorem readError_invariant (h : s.Invariant) {error : IoError} {torn : ℕ}
    (he : s.link.step decodeString (.readError error torn) = some link') :
    (s.record (.readError error torn) link').Invariant := by
  have hstep := he
  obtain ⟨i, hin, he⟩ := Option.bind_eq_some_iff.mp he
  simp only at he
  split at he
  · rename_i msg connection hpc
    cases he
    have hexchange : s.link.exchange = some (msg.replyTx, connection.tcpStream) := by
      simp only [ClientLink.exchange, show s.link.pc = _ from hpc]
    exact h.ended hstep rfl rfl (ClientLink.connection_of_exchange hexchange) (by simp)
  · exact h.receivedFrame hstep he (by simp)

theorem call_invariant (h : s.Invariant) {data : Bytes}
    (he : s.link.step decodeString (.call data) = some link') :
    (s.record (.call data) link').Invariant := by
  have hstep := he
  simp only [ClientLink.step] at he
  split at he
  · cases he
  · cases he
    refine h.moved hstep rfl (fun _ => id) h.used ?_
    refine h.got.congr rfl ?_ fun call i ha => ⟨ha.last, ha.unread⟩
    show s.got ++ s.consumed _ = s.got
    rw [consumed_same, List.append_nil]
    exact fun _ => rfl

theorem recv_invariant (h : s.Invariant) (hok : s.Clean (.client .recv))
    (he : s.link.step decodeString .recv = some link') : (s.record .recv link').Invariant := by
  have hstep := he
  simp only [ClientLink.step] at he
  have hgot := h.got
  split at he
  · rename_i msg rpcRx connection hpc hrpcRx hconnection
    cases he
    simp only [Got, hpc] at hgot
    have hexchange : s.link.exchange = none := by simp only [ClientLink.exchange, hpc]
    refine h.moved hstep rfl (by simp) ?_ ?_
    · rintro i ⟨⟩
      exact ⟨h.kept _ hconnection, hok _ hconnection⟩
    · rw [Got, hgot, consumed_none hexchange, List.append_nil]
  · rename_i msg rpcRx hpc hrpcRx hconnection
    cases he
    simp only [Got, hpc] at hgot
    have hexchange : s.link.exchange = none := by simp only [ClientLink.exchange, hpc]
    refine h.moved hstep rfl (fun _ => id) (fun i hi => ?_) ?_
    · simp [ClientLink.connection, ClientLink.exchange] at hi
    · rw [Got, hgot, consumed_none hexchange, List.append_nil]
  · cases he

theorem resolve_invariant (h : s.Invariant) {serviceUrl : Except MasterClientError String}
    {parse : Except UrlParseError Unit} {addrs : Except IoError (List SocketAddr)}
    (he : s.link.step decodeString (.resolve serviceUrl parse addrs) = some link') :
    (s.record (.resolve serviceUrl parse addrs) link').Invariant := by
  have hstep := he
  simp only [ClientLink.step] at he
  have hgot := h.got
  split at he
  · rename_i msg hpc
    simp only [Got, hpc] at hgot
    have hexchange : s.link.exchange = none := by simp only [ClientLink.exchange, hpc]
    split at he <;> cases he
    · refine h.moved hstep rfl (fun _ => id) (fun i hi => ?_) ?_
      · simp [ClientLink.connection, ClientLink.exchange] at hi
      · rw [Got, hgot, consumed_none hexchange, List.append_nil]
    · exact h.replied hstep rfl rfl (fun _ => .inl) (by simp)
  · cases he

theorem connect_invariant (h : s.Invariant) {result : Except IoError Unit}
    (he : s.link.step decodeString (.connect result) = some link') :
    (s.record (.connect result) link').Invariant := by
  have hstep := he
  have hgot := h.got
  cases result with
  | error e =>
    simp only [ClientLink.step] at he
    split at he
    · cases he
      exact h.replied hstep rfl rfl (fun _ => .inl) (by simp)
    · cases he
      exact h.replied hstep rfl rfl (fun _ => .inl) (by simp)
    · cases he
  | ok u =>
    simp only [ClientLink.step] at he
    split at he
    · rename_i msg address hpc
      cases he
      simp only [Got, hpc] at hgot
      have hexchange : s.link.exchange = none := by simp only [ClientLink.exchange, hpc]
      refine h.moved hstep rfl (fun _ => id) (fun i hi => ?_) ?_
      · simp [ClientLink.connection, ClientLink.exchange] at hi
      · rw [Got, hgot, consumed_none hexchange, List.append_nil]
    · rename_i msg address hpc
      cases he
      simp only [Got, hpc] at hgot
      have hexchange : s.link.exchange = none := by simp only [ClientLink.exchange, hpc]
      refine h.moved hstep rfl (fun _ => id) ?_ ?_
      · rintro i ⟨⟩
        refine ⟨?_, (h.unsent _ le_rfl).2⟩
        rw [List.length_append]
        exact Nat.lt_succ_self _
      · rw [Got, hgot, consumed_none hexchange, List.append_nil]
    · cases he

theorem cancelled_invariant (h : s.Invariant)
    (he : s.link.step decodeString .cancelled = some link') :
    (s.record .cancelled link').Invariant := by
  have hstep := he
  simp only [ClientLink.step] at he
  have hgot := h.got
  split at he
  · rename_i hpc
    simp only [Got, hpc] at hgot
    have hexchange : s.link.exchange = none := by simp only [ClientLink.exchange, hpc]
    have hreplies : link'.replies = s.link.replies := by
      cases he
      cases s.link.connectionState <;> rfl
    have hexited : link'.pc = .exited := by
      cases he
      rfl
    have hkept : link'.connectionState = none := by
      cases he
      rfl
    refine h.moved hstep hreplies (fun connection hc => ?_) (fun i hi => ?_) ?_
    · rw [hkept] at hc
      cases hc
    · simp [ClientLink.connection, ClientLink.exchange, hexited] at hi
    · simp only [Got, hexited, hgot, consumed_none hexchange, List.append_nil]
  · cases he

theorem serverWrite_invariant (h : s.Invariant) {i : ℕ} {call : Option ℕ} {bytes : Bytes}
    (hok : s.Clean (.serverWrite i call bytes))
    (he : s.step decodeString (.serverWrite i call bytes) = some t) : t.Invariant := by
  obtain ⟨stream, hs, he⟩ := Option.bind_eq_some_iff.mp he
  split at he
  · cases he
    have hlt := (List.getElem?_eq_some_iff.mp hs).1
    have hlength : (s.link.modifyStream i fun stream =>
        { stream with fromServer := stream.fromServer ++ bytes }).streams.length =
        s.link.streams.length := List.length_modify ..
    have hposition : ∀ j, (s.link.modifyStream i fun stream =>
        { stream with fromServer := stream.fromServer ++ bytes }).position j = s.link.position j := by
      intro j
      rw [modify_position]
      exact fun _ => rfl
    refine ⟨fun j stream' hj => ?_, fun j hj => ?_, fun j hj => ?_, fun connection hc => ?_, ?_,
      h.origins, h.answered⟩
    · by_cases hji : j = i
      · subst hji
        simp only [ClientLink.modifyStream, List.getElem?_modify_eq, hs, Option.map_some,
          Option.map_eq_map, Option.some.injEq] at hj
        subst hj
        obtain ⟨hsent, hread⟩ := h.sent j stream hs
        simp only [Function.update_self, List.map_append, hsent, List.map_map, List.length_append]
        refine ⟨congrArg _ (List.map_id bytes), by omega⟩
      · simp only [ClientLink.modifyStream, List.getElem?_modify_ne _ _ (Ne.symm hji)] at hj
        simp only [Function.update_of_ne hji]
        exact h.sent j stream' hj
    · have hle : s.link.streams.length ≤ j := hlength ▸ hj
      have hji : j ≠ i := by omega
      simp only [Function.update_of_ne hji]
      exact h.unsent j hle
    · rw [hlength]
      exact h.used j hj
    · rw [hlength]
      exact h.kept connection hc
    · refine h.got.congr rfl rfl fun call' j ha => ⟨ha.last, ?_⟩
      rw [hposition]
      by_cases hji : j = i
      · subst hji
        obtain rfl : call = some call' := hok.symm.trans ha.last
        simp only [Function.update_self]
        intro p hp
        rw [List.drop_append] at hp
        rcases List.mem_append.mp hp with hp | hp
        · exact ha.unread p hp
        · obtain ⟨b, -, rfl⟩ := List.mem_map.mp (List.mem_of_mem_drop hp)
          rfl
      · simp only [Function.update_of_ne hji]
        exact ha.unread
  · cases he

theorem serverClose_invariant (h : s.Invariant) {i : ℕ}
    (he : s.step decodeString (.serverClose i) = some t) : t.Invariant := by
  cases he
  have hlength : (s.link.modifyStream i fun stream =>
      { stream with serverOpen := false }).streams.length = s.link.streams.length :=
    List.length_modify ..
  have hev : Evolves s.link.streams (s.link.modifyStream i fun stream =>
      { stream with serverOpen := false }).streams := by
    refine (Evolves.refl _).modify i ?_
    exact fun _ _ => ⟨rfl, id⟩
  refine ⟨h.streams hev, fun j hj => h.unsent j (hlength ▸ hj), fun j hj => ?_,
    fun connection hc => ?_, ?_, h.origins, h.answered⟩
  · rw [hlength]
    exact h.used j hj
  · rw [hlength]
    exact h.kept connection hc
  · refine h.got.congr rfl rfl fun call' j ha => ⟨ha.last, ?_⟩
    rw [modify_position]
    · exact ha.unread
    · exact fun _ => rfl

theorem step_invariant {label : Label} (h : s.Invariant) (hok : s.Clean label)
    (he : s.step decodeString label = some t) : t.Invariant := by
  cases label with
  | serverWrite i call bytes => exact serverWrite_invariant h hok he
  | serverClose i => exact serverClose_invariant h he
  | client l =>
    obtain ⟨link', hlink, he⟩ := Option.bind_eq_some_iff.mp he
    cases he
    cases l with
    | call data => exact call_invariant h hlink
    | recv => exact recv_invariant h hok hlink
    | resolve serviceUrl parse addrs => exact resolve_invariant h hlink
    | connect result => exact connect_invariant h hlink
    | write => exact write_invariant h hok hlink
    | writeError error torn => exact writeError_invariant h hlink
    | read => exact read_invariant h hlink
    | readError error torn => exact readError_invariant h hlink
    | cancelled => exact cancelled_invariant h hlink

end ClientExchanges

end RosrustAsync
