import RosrustAsync.ExchangeOrigins

namespace RosrustAsync

open Runs

namespace ClientLink

/-- The message that the task is at work on. -/
def inHand (self : ClientLink) : Option RpcMsg :=
  match self.pc with
  | .lookup msg | .probeConnect msg _ | .probeWrite msg _ _ | .probeRead msg _ _ | .connect msg _
  | .headerWrite msg _ _ | .headerRead msg _ _ | .request msg _ | .status msg _ | .success msg _
  | .failure msg _ => some msg
  | .select | .exited => none

def inUse (self : ClientLink) : Option ℕ :=
  match self.pc with
  | .probeWrite _ _ i | .probeRead _ _ i | .headerWrite _ _ i | .headerRead _ _ i => some i
  | .request _ connection | .status _ connection | .success _ connection
  | .failure _ connection => some connection.tcpStream
  | _ => none

def kept (self : ClientLink) : Option ℕ := self.connectionState.map ConnectionState.tcpStream

def Open (streams : List TcpStream) (i : ℕ) : Prop :=
  ∃ stream, streams[i]? = some stream ∧ stream.clientOpen = true

/-- The connections that were opened for the message in hand. -/
def opened (self : ClientLink) : ℕ :=
  match self.pc with
  | .probeWrite _ _ _ | .probeRead _ _ _ | .connect _ _ => 1
  | .headerWrite _ _ _ | .headerRead _ _ _ | .request _ _ | .status _ _ | .success _ _
  | .failure _ _ => 2
  | _ => 0

def pcLeft (self : ClientLink) : ℕ :=
  match self.pc with
  | .exited => 0
  | .select => 1
  | .success _ _ | .failure _ _ => 2
  | .status _ _ => 3
  | .request _ _ => 4
  | .headerRead _ _ _ => 5
  | .headerWrite _ _ _ => 6
  | .connect _ _ => 7
  | .probeRead _ _ _ => 8
  | .probeWrite _ _ _ => 9
  | .probeConnect _ _ => 10
  | .lookup _ => 11

def left (self : ClientLink) : ℕ := self.pcLeft + 11 * self.rpcRx.length

/-- Every call that has been made is answered, in hand or in the queue, in this order; the sockets
that are open are the one in use and the one kept, never both. -/
structure Accounted (link : ClientLink) : Prop where
  calls : link.pc ≠ .exited →
    link.replies.map Prod.fst ++ (link.inHand.toList ++ link.rpcRx).map RpcMsg.replyTx =
      List.range link.calls
  exited : link.pc = .exited → ∃ n ≤ link.calls, link.replies.map Prod.fst = List.range n
  sockets : ∀ i, Open link.streams i → link.inUse = some i ∨ link.kept = some i
  taken : link.pc ≠ .select → link.connectionState = none
  fleeting : link.args.persistent = false → link.connectionState = none
  connections : link.streams.length ≤ 2 * link.replies.length + link.opened

section Streams

variable {streams : List TcpStream} {i j : ℕ}

theorem open_modify {f : TcpStream → TcpStream}
    (hf : ∀ stream, streams[i]? = some stream → (f stream).clientOpen = stream.clientOpen)
    (h : Open (streams.modify i f) j) : Open streams j := by
  obtain ⟨stream', hj, hopen⟩ := h
  by_cases hij : i = j
  · subst hij
    rw [List.getElem?_modify_eq] at hj
    obtain ⟨stream, hs, rfl⟩ := Option.map_eq_some_iff.mp hj
    exact ⟨stream, hs, hf stream hs ▸ hopen⟩
  · rw [List.getElem?_modify_ne f streams hij] at hj
    exact ⟨stream', hj, hopen⟩

theorem open_close {link : ClientLink} (h : Open (link.close i).streams j) :
    j ≠ i ∧ Open link.streams j := by
  obtain ⟨stream', hj, hopen⟩ := h
  by_cases hij : i = j
  · subst hij
    rw [close, modifyStream, List.getElem?_modify_eq] at hj
    obtain ⟨stream, hs, rfl⟩ := Option.map_eq_some_iff.mp hj
    cases hopen
  · rw [close, modifyStream, List.getElem?_modify_ne _ _ hij] at hj
    exact ⟨Ne.symm hij, stream', hj, hopen⟩

theorem open_append (h : Open (streams ++ [.connected]) j) : Open streams j ∨ j = streams.length := by
  obtain ⟨stream, hj, hopen⟩ := h
  rcases getElem?_concat_cases hj with hj | ⟨rfl, -⟩
  · exact .inl ⟨stream, hj, hopen⟩
  · exact .inr rfl

end Streams

variable {decodeString : Bytes → Except IoError String} {link link' : ClientLink}

namespace Accounted

/-- What stays as it is when only bytes move. -/
theorem modifyStream (h : link.Accounted) (i : ℕ) {f : TcpStream → TcpStream}
    (hf : ∀ stream, link.streams[i]? = some stream → (f stream).clientOpen = stream.clientOpen) :
    (link.modifyStream i f).Accounted := by
  refine ⟨h.calls, h.exited, fun j hj => h.sockets j (open_modify hf hj), h.taken,
    h.fleeting, ?_⟩
  change (link.streams.modify i f).length ≤ _
  rw [List.length_modify]
  exact h.connections

/-- The task goes on with the message in hand. -/
theorem advance (h : link.Accounted) {pc : ClientPc} (hpc : link.pc ≠ .select)
    (hselect : pc ≠ .select) (hexited : pc ≠ .exited)
    (hhand : ({ link with pc } : ClientLink).inHand = link.inHand)
    (huse : ({ link with pc } : ClientLink).inUse = link.inUse)
    (hopened : link.opened ≤ ({ link with pc } : ClientLink).opened) :
    Accounted { link with pc } := by
  have hnot : link.pc ≠ .exited := by
    intro hlink
    have hnone : ({ link with pc } : ClientLink).inHand = none := by
      rw [hhand]
      simp [inHand, hlink]
    cases pc <;> simp [inHand] at hnone hselect hexited
  refine ⟨fun _ => ?_, fun hpc => absurd hpc hexited, fun i hi => ?_, fun _ => h.taken hpc,
    h.fleeting, ?_⟩
  · rw [hhand]
    exact h.calls hnot
  · rw [huse]
    exact h.sockets i hi
  · have hconnections := h.connections
    simp only at hconnections ⊢
    omega

theorem not_exited {msg : RpcMsg} (hmsg : link.inHand = some msg) : link.pc ≠ .exited := by
  intro hpc
  simp [inHand, hpc] at hmsg

theorem opened_le : link.opened ≤ 2 := by
  unfold opened
  split <;> omega

theorem reply (h : link.Accounted) {msg : RpcMsg} (hmsg : link.inHand = some msg)
    (connectionState : Option ConnectionState)
    (hfleeting : link.args.persistent = false → connectionState = none)
    (hopen : ∀ i, Open link.streams i → connectionState.map ConnectionState.tcpStream = some i)
    (result : Except ClientLinkError Bytes) :
    ({ link with connectionState }.reply msg result).Accounted := by
  have hcalls := h.calls (not_exited hmsg)
  rw [hmsg] at hcalls
  refine ⟨fun _ => ?_, (fun hpc => by cases hpc), fun i hi => .inr (hopen i hi),
    fun hpc => absurd rfl hpc, hfleeting, ?_⟩
  · simpa [ClientLink.reply, inHand] using hcalls
  · have hconnections := h.connections
    have hopened : link.opened ≤ 2 := opened_le
    simp only [ClientLink.reply, List.length_append, List.length_singleton, opened]
    omega

theorem close (h : link.Accounted) (i : ℕ) : (link.close i).Accounted := by
  refine ⟨h.calls, h.exited, fun j hj => h.sockets j (open_close hj).2, h.taken,
    h.fleeting, ?_⟩
  change (link.streams.modify i _).length ≤ _
  rw [List.length_modify]
  exact h.connections

/-- The connection in use ends with the message in hand. -/
theorem closeReply (h : link.Accounted) {msg : RpcMsg} (hmsg : link.inHand = some msg) {i : ℕ}
    (huse : link.inUse = some i) (result : Except ClientLinkError Bytes) :
    ((link.close i).reply msg result).Accounted := by
  refine (h.close i).reply hmsg link.connectionState h.fleeting (fun j hj => ?_) result
  obtain ⟨hne, hopen⟩ := open_close hj
  rcases h.sockets j hopen with hj | hj
  · rw [huse] at hj
    exact absurd (Option.some.inj hj).symm hne
  · exact hj

theorem not_select {msg : RpcMsg} (hmsg : link.inHand = some msg) : link.pc ≠ .select := by
  intro hpc
  simp [inHand, hpc] at hmsg

theorem sockets_inUse (h : link.Accounted) {msg : RpcMsg} (hmsg : link.inHand = some msg) {i : ℕ}
    (hi : Open link.streams i) : link.inUse = some i := by
  refine (h.sockets i hi).resolve_right fun hkept => ?_
  simp [kept, h.taken (not_select hmsg)] at hkept

theorem replyUnused (h : link.Accounted) {msg : RpcMsg} (hmsg : link.inHand = some msg)
    (huse : link.inUse = none) (hleft : 2 ≤ link.pcLeft) (result : Except ClientLinkError Bytes) :
    (link.reply msg result).Accounted ∧ (link.reply msg result).left + 1 ≤ link.left := by
  refine ⟨h.reply hmsg link.connectionState h.fleeting (fun i hi => ?_) result, ?_⟩
  · have hused := h.sockets_inUse hmsg hi
    rw [huse] at hused
    cases hused
  · change 1 + 11 * link.rpcRx.length + 1 ≤ link.pcLeft + 11 * link.rpcRx.length
    omega

theorem endRpc (h : link.Accounted) {msg : RpcMsg} {connection : ConnectionState}
    (hmsg : link.inHand = some msg) (huse : link.inUse = some connection.tcpStream)
    (result : Except ClientLinkError Bytes) : (link.endRpc msg connection result).Accounted := by
  unfold ClientLink.endRpc
  split
  · rename_i hpersistent
    exact h.reply hmsg (some connection)
      (fun hfleeting => absurd (hpersistent.symm.trans hfleeting) Bool.noConfusion)
      (fun i hi => huse.symm.trans (h.sockets_inUse hmsg hi)) result
  · exact h.closeReply hmsg huse result

end Accounted

theorem left_reply (msg : RpcMsg) (result : Except ClientLinkError Bytes) :
    (link.reply msg result).left = 1 + 11 * link.rpcRx.length := rfl

theorem left_endRpc (msg : RpcMsg) (connection : ConnectionState)
    (result : Except ClientLinkError Bytes) :
    (link.endRpc msg connection result).left = 1 + 11 * link.rpcRx.length := by
  unfold ClientLink.endRpc
  split <;> rfl

theorem wrote_accounted (h : link.Accounted) {result : Except IoError Unit}
    (hw : link.wrote result = some link') : link'.Accounted ∧ link'.left < link.left := by
  unfold wrote at hw
  split at hw <;> cases hw
  case h_1 msg address i u hpc | h_2 msg address i u hpc | h_3 msg connection u hpc =>
    refine ⟨h.advance (by simp [hpc]) (by simp) (by simp) (by simp [inHand, hpc])
      (by simp [inUse, hpc]) (by simp [opened, hpc]), ?_⟩
    simp [left, pcLeft, hpc]
  case h_4 msg address i e hpc | h_5 msg address i e hpc =>
    refine ⟨h.closeReply (by simp [inHand, hpc]) (by simp [inUse, hpc]) _, ?_⟩
    rw [left_reply]
    simp [left, pcLeft, hpc, ClientLink.close, modifyStream]
  case h_6 msg connection e hpc =>
    refine ⟨h.endRpc (by simp [inHand, hpc]) (by simp [inUse, hpc]) _, ?_⟩
    rw [left_endRpc]
    simp [left, pcLeft, hpc]

theorem receivedFrame_accounted (h : link.Accounted) {frame : Except IoError Bytes}
    (hr : link.receivedFrame decodeString frame = some link') :
    link'.Accounted ∧ link'.left < link.left := by
  unfold receivedFrame at hr
  split at hr
  · rename_i msg address i hpc
    have hmsg : link.inHand = some msg := by simp [inHand, hpc]
    split at hr <;> cases hr
    · have hclose := h.close i
      refine ⟨⟨fun _ => ?_, (fun hpc => by cases hpc), fun j hj => ?_, fun _ => ?_,
        h.fleeting, ?_⟩, ?_⟩
      · have hcalls := hclose.calls (by simp [ClientLink.close, ClientLink.modifyStream, hpc])
        simpa [ClientLink.close, ClientLink.modifyStream, inHand, hpc] using hcalls
      · obtain ⟨hne, hopen⟩ := open_close hj
        have huse := h.sockets_inUse hmsg hopen
        simp only [inUse, hpc, Option.some.injEq] at huse
        exact absurd huse.symm hne
      · exact h.taken (by simp [hpc])
      · have hconnections := hclose.connections
        simpa [ClientLink.close, ClientLink.modifyStream, opened, hpc] using hconnections
      · simp [left, pcLeft, hpc, ClientLink.close, ClientLink.modifyStream]
    · refine ⟨h.closeReply hmsg (by simp [inUse, hpc]) _, ?_⟩
      rw [left_reply]
      simp [left, pcLeft, hpc, ClientLink.close, modifyStream]
  · rename_i msg address i hpc
    have hmsg : link.inHand = some msg := by simp [inHand, hpc]
    split at hr <;> cases hr
    · refine ⟨h.advance (by simp [hpc]) (by simp) (by simp) (by simp [inHand, hpc])
        (by simp [inUse, hpc]) (by simp [opened, hpc]), ?_⟩
      simp [left, pcLeft, hpc]
    · refine ⟨h.closeReply hmsg (by simp [inUse, hpc]) _, ?_⟩
      rw [left_reply]
      simp [left, pcLeft, hpc, ClientLink.close, modifyStream]
  · rename_i msg connection hpc
    cases hr
    refine ⟨h.endRpc (by simp [inHand, hpc]) (by simp [inUse, hpc]) _, ?_⟩
    rw [left_endRpc]
    simp [left, pcLeft, hpc]
  · rename_i msg connection hpc
    cases hr
    refine ⟨h.endRpc (by simp [inHand, hpc]) (by simp [inUse, hpc]) _, ?_⟩
    rw [left_endRpc]
    simp [left, pcLeft, hpc]
  · cases hr

theorem receivedStatus_accounted (h : link.Accounted) {msg : RpcMsg} {connection : ConnectionState}
    (hpc : link.pc = .status msg connection) (code : Except IoError UInt8) :
    (link.receivedStatus msg connection code).Accounted ∧
      (link.receivedStatus msg connection code).left < link.left := by
  have hended (result : Except ClientLinkError Bytes) :
      (link.endRpc msg connection result).Accounted ∧
        (link.endRpc msg connection result).left < link.left := by
    refine ⟨h.endRpc (by simp [inHand, hpc]) (by simp [inUse, hpc]) _, ?_⟩
    rw [left_endRpc]
    simp [left, pcLeft, hpc]
  unfold receivedStatus
  split
  · split
    · refine ⟨h.advance (by simp [hpc]) (by simp) (by simp) (by simp [inHand, hpc])
        (by simp [inUse, hpc]) (by simp [opened, hpc]), ?_⟩
      simp [left, pcLeft, hpc]
    · split
      · refine ⟨h.advance (by simp [hpc]) (by simp) (by simp) (by simp [inHand, hpc])
          (by simp [inUse, hpc]) (by simp [opened, hpc]), ?_⟩
        simp [left, pcLeft, hpc]
      · exact hended _
  · exact hended _

def cost : Label → ℕ
  | .call _ => 0
  | _ => 1

def gain : Label → ℕ
  | .call _ => 11
  | _ => 0

theorem readU8_clientOpen {stream stream' : TcpStream} {code : Except IoError UInt8}
    (h : stream.readU8 = some (code, stream')) : stream'.clientOpen = stream.clientOpen := by
  rcases TcpStream.readU8_eq h with ⟨b, rest, -, -, rfl⟩ | ⟨e, -, rfl⟩ <;> rfl

theorem readFrame_clientOpen {stream stream' : TcpStream} {frame : Except IoError Bytes}
    (h : stream.readFrame = some (frame, stream')) : stream'.clientOpen = stream.clientOpen := by
  rcases TcpStream.readFrame_eq h with ⟨b, rest, -, -, rfl⟩ | ⟨e, -, rfl⟩ <;> rfl

theorem call_accounted (h : link.Accounted) (hpc : link.pc ≠ .exited) (data : Bytes) :
    Accounted { link with
      rpcRx := link.rpcRx ++ [⟨data, link.calls⟩]
      calls := link.calls + 1 } := by
  refine ⟨fun _ => ?_, fun hexited => absurd hexited hpc, h.sockets, h.taken,
    h.fleeting, h.connections⟩
  rw [List.range_succ, ← h.calls hpc]
  simp [inHand]

/-- The next message is taken, with the connection that was kept or without one. -/
theorem recv_accounted (h : link.Accounted) {msg : RpcMsg} {rpcRx : List RpcMsg} (pc : ClientPc)
    (hselect : link.pc = .select) (hrx : link.rpcRx = msg :: rpcRx)
    (hhand : ({ link with rpcRx, connectionState := none, pc } : ClientLink).inHand = some msg)
    (huse : ({ link with rpcRx, connectionState := none, pc } : ClientLink).inUse = link.kept) :
    Accounted { link with rpcRx, connectionState := none, pc } := by
  refine ⟨fun _ => ?_, fun hpc => absurd hpc (Accounted.not_exited hhand), fun i hi => ?_,
    fun _ => rfl, fun _ => rfl, ?_⟩
  · rw [hhand]
    have hcalls := h.calls (by simp [hselect])
    simpa [inHand, hselect, hrx] using hcalls
  · rw [huse]
    refine .inl ((h.sockets i hi).resolve_left fun hused => ?_)
    simp [inUse, hselect] at hused
  · have hconnections := h.connections
    simp only [opened, hselect] at hconnections
    exact hconnections.trans (Nat.le_add_right _ _)

/-- A connection more, for the message in hand. -/
theorem connect_accounted (h : link.Accounted) {msg : RpcMsg} {pc : ClientPc}
    (hmsg : link.inHand = some msg) (hunused : link.inUse = none)
    (hhand : ({ link with streams := link.streams ++ [.connected], pc } : ClientLink).inHand =
      some msg)
    (huse : ({ link with streams := link.streams ++ [.connected], pc } : ClientLink).inUse =
      some link.streams.length)
    (hopened : ({ link with streams := link.streams ++ [.connected], pc } : ClientLink).opened =
      link.opened + 1) :
    Accounted { link with streams := link.streams ++ [.connected], pc } := by
  refine ⟨fun _ => ?_, fun hpc => absurd hpc (Accounted.not_exited hhand), fun i hi => ?_,
    fun _ => h.taken (Accounted.not_select hmsg), h.fleeting, ?_⟩
  · rw [hhand, ← hmsg]
    exact h.calls (Accounted.not_exited hmsg)
  · rw [huse]
    rcases open_append hi with hold | rfl
    · have hused := h.sockets_inUse hmsg hold
      rw [hunused] at hused
      cases hused
    · exact .inl rfl
  · have hconnections := h.connections
    rw [hopened, List.length_append, List.length_singleton]
    change _ ≤ 2 * link.replies.length + _
    omega

theorem cancelled_accounted (h : link.Accounted) (hselect : link.pc = .select)
    {streams : List TcpStream} (hlength : streams.length = link.streams.length)
    (hclosed : ∀ i, ¬ Open streams i) :
    Accounted { link with streams, pc := .exited, connectionState := none, rpcRx := [] } := by
  refine ⟨fun hpc => absurd rfl hpc, fun _ => ?_, fun i hi => absurd hi (hclosed i),
    fun _ => rfl, fun _ => rfl, ?_⟩
  · have hcalls := h.calls (by simp [hselect])
    have hlen := congrArg List.length hcalls
    simp only [List.length_append, List.length_map, List.length_range] at hlen
    have hle : link.replies.length ≤ link.calls := by omega
    refine ⟨link.replies.length, hle, ?_⟩
    have htake := congrArg (List.take link.replies.length) hcalls
    rw [List.take_left' (List.length_map _), List.take_range, min_eq_left hle] at htake
    exact htake
  · have hconnections := h.connections
    simp only [opened, hselect] at hconnections
    rw [hlength]
    exact hconnections

theorem kept_open (h : link.Accounted) (hselect : link.pc = .select) {i : ℕ}
    (hi : Open link.streams i) : link.kept = some i := by
  refine (h.sockets i hi).resolve_left fun hused => ?_
  simp [inUse, hselect] at hused

theorem step_accounted {label : Label} (h : link.Accounted)
    (hstep : link.step decodeString label = some link') :
    link'.Accounted ∧ link'.left + cost label ≤ link.left + gain label := by
  cases label with
  | call data =>
    simp only [step] at hstep
    split at hstep <;> cases hstep
    refine ⟨call_accounted h (by assumption) data, ?_⟩
    simp only [left, pcLeft, cost, gain, List.length_append, List.length_singleton]
    omega
  | recv =>
    simp only [step] at hstep
    split at hstep <;> cases hstep
    · rename_i msg rpcRx connection hpc hrx hstate
      refine ⟨recv_accounted h _ hpc hrx rfl (by simp [inUse, kept, hstate]), ?_⟩
      simp only [left, pcLeft, hpc, hrx, cost, gain, List.length_cons]
      omega
    · rename_i msg rpcRx hpc hrx hstate
      refine ⟨?_, ?_⟩
      · have haccounted := recv_accounted h (.lookup msg) hpc hrx rfl
          (by simp [inUse, kept, hstate])
        rw [← hstate] at haccounted
        exact haccounted
      · simp only [left, pcLeft, hpc, hrx, cost, gain, List.length_cons]
        omega
  | resolve serviceUrl parse addrs =>
    simp only [step] at hstep
    split at hstep
    · rename_i msg hpc
      have hmsg : link.inHand = some msg := by simp [inHand, hpc]
      split at hstep <;> cases hstep
      · refine ⟨h.advance (by simp [hpc]) (by simp) (by simp) (by simp [inHand, hpc])
          (by simp [inUse, hpc]) (by simp [opened, hpc]), ?_⟩
        simp only [left, pcLeft, hpc, cost, gain]
        omega
      · exact h.replyUnused hmsg (by simp [inUse, hpc]) (by simp [pcLeft, hpc]) _
    · cases hstep
  | connect result =>
    cases result with
    | ok u =>
      simp only [step] at hstep
      split at hstep <;> cases hstep
      · rename_i msg address hpc
        have hmsg : link.inHand = some msg := by simp [inHand, hpc]
        refine ⟨connect_accounted h hmsg (by simp [inUse, hpc]) rfl rfl (by simp [opened, hpc]), ?_⟩
        simp only [left, pcLeft, hpc, cost, gain]
        omega
      · rename_i msg address hpc
        have hmsg : link.inHand = some msg := by simp [inHand, hpc]
        refine ⟨connect_accounted h hmsg (by simp [inUse, hpc]) rfl rfl (by simp [opened, hpc]), ?_⟩
        simp only [left, pcLeft, hpc, cost, gain]
        omega
    | error e =>
      simp only [step] at hstep
      split at hstep <;> cases hstep
      · rename_i msg address hpc
        exact h.replyUnused (by simp [inHand, hpc]) (by simp [inUse, hpc]) (by simp [pcLeft, hpc]) _
      · rename_i msg address hpc
        exact h.replyUnused (by simp [inHand, hpc]) (by simp [inUse, hpc]) (by simp [pcLeft, hpc]) _
  | write =>
    obtain ⟨⟨i, bytes⟩, -, hstep⟩ := Option.bind_eq_some_iff.mp hstep
    have hnext := wrote_accounted (h.modifyStream i fun _ _ => by rfl) hstep
    exact hnext
  | writeError error torn =>
    obtain ⟨⟨i, bytes⟩, -, hstep⟩ := Option.bind_eq_some_iff.mp hstep
    have hnext := wrote_accounted (h.modifyStream i fun _ _ => by rfl) hstep
    exact hnext
  | read =>
    obtain ⟨i, -, hstep⟩ := Option.bind_eq_some_iff.mp hstep
    obtain ⟨stream, hstream, hstep⟩ := Option.bind_eq_some_iff.mp hstep
    split at hstep
    · rename_i msg connection hpc
      obtain ⟨⟨code, stream'⟩, hread, hstep⟩ := Option.bind_eq_some_iff.mp hstep
      cases hstep
      refine receivedStatus_accounted (h.modifyStream i fun old hold => ?_) hpc code
      cases hstream.symm.trans hold
      exact readU8_clientOpen hread
    · obtain ⟨⟨frame, stream'⟩, hread, hstep⟩ := Option.bind_eq_some_iff.mp hstep
      have hopen (old : TcpStream) (hold : link.streams[i]? = some old) :
          stream'.clientOpen = old.clientOpen := by
        cases hstream.symm.trans hold
        exact readFrame_clientOpen hread
      have hnext := receivedFrame_accounted (h.modifyStream i hopen) hstep
      exact hnext
  | readError error torn =>
    obtain ⟨i, -, hstep⟩ := Option.bind_eq_some_iff.mp hstep
    simp only at hstep
    split at hstep
    · rename_i msg connection hpc
      cases hstep
      exact receivedStatus_accounted (h.modifyStream i fun _ _ => by rfl) hpc _
    · have hnext := receivedFrame_accounted (h.modifyStream i fun _ _ => by rfl) hstep
      exact hnext
  | cancelled =>
    simp only [step] at hstep
    split at hstep <;> cases hstep
    rename_i hselect
    refine ⟨?_, by simp [left, pcLeft, cost, gain, hselect]⟩
    cases hstate : link.connectionState with
    | none =>
      refine cancelled_accounted h hselect rfl fun i hi => ?_
      simpa [kept, hstate] using kept_open h hselect hi
    | some connection =>
      refine cancelled_accounted h hselect (List.length_modify ..) fun i hi => ?_
      obtain ⟨hne, hopen⟩ := open_close hi
      have hkept := kept_open h hselect hopen
      simp only [kept, hstate, Option.map_some, Option.some.injEq] at hkept
      exact hne hkept.symm

theorem new_accounted {service : Service} {callerId : String} {persistent : Bool}
    (hlink : ClientLink.new service callerId persistent = .ok link) :
    link.Accounted ∧ link.left = 1 := by
  simp only [ClientLink.new, toBytes_eq] at hlink
  cases hlink
  refine ⟨⟨fun _ => rfl, (fun hpc => by cases hpc), fun i hi => ?_, fun hpc => absurd rfl hpc,
    fun _ => rfl, le_rfl⟩, rfl⟩
  obtain ⟨stream, hstream, -⟩ := hi
  cases hstream

namespace Accounted

/-- The sockets that are open are one at most, and none while a link that is not persistent waits
for a call. -/
theorem open_unique (h : link.Accounted) {i j : ℕ} (hi : Open link.streams i)
    (hj : Open link.streams j) : i = j := by
  by_cases hpc : link.pc = .select
  · exact Option.some.inj ((kept_open h hpc hi).symm.trans (kept_open h hpc hj))
  · have hkept : link.kept = none := by rw [kept, h.taken hpc]; rfl
    rcases h.sockets i hi, h.sockets j hj with ⟨hi | hi, hj | hj⟩
    · exact Option.some.inj (hi.symm.trans hj)
    · cases hkept.symm.trans hj
    · cases hkept.symm.trans hi
    · cases hkept.symm.trans hi

theorem streams_le (h : link.Accounted) : link.streams.length ≤ 2 * link.calls := by
  have hconnections := h.connections
  by_cases hpc : link.pc = .exited
  · obtain ⟨n, hn, hreplies⟩ := h.exited hpc
    have hlength := congrArg List.length hreplies
    simp only [opened, hpc] at hconnections
    rw [List.length_map, List.length_range] at hlength
    omega
  · have hlength := congrArg List.length (h.calls hpc)
    have hhand : link.opened ≤ 2 * link.inHand.toList.length := by
      unfold opened inHand
      cases link.pc <;> simp
    simp only [List.length_append, List.length_map, List.length_range] at hlength
    omega

end Accounted

end ClientLink

namespace ClientExchanges

open ClientLink (Open)
open Runs (Run run_cons_iff run_nil_iff)

/-- The awaits of `rpc_task` that have come to an end. -/
def cost : Label → ℕ
  | .client label => ClientLink.cost label
  | _ => 0

def gain : Label → ℕ
  | .client label => ClientLink.gain label
  | _ => 0

variable {decodeString : Bytes → Except IoError String} {s t : ClientExchanges}

theorem record_link (label : ClientLink.Label) (link : ClientLink) :
    (s.record label link).link = link := by
  unfold record
  split <;> rfl

theorem step_accounted {label : Label} (h : s.link.Accounted)
    (hstep : s.step decodeString label = some t) :
    t.link.Accounted ∧ t.link.left + cost label ≤ s.link.left + gain label := by
  cases label with
  | client label =>
    obtain ⟨link, hlink, hstep⟩ := Option.bind_eq_some_iff.mp hstep
    cases hstep
    rw [record_link]
    exact ClientLink.step_accounted h hlink
  | serverWrite i call bytes =>
    obtain ⟨stream, -, hstep⟩ := Option.bind_eq_some_iff.mp hstep
    split at hstep <;> cases hstep
    exact ⟨h.modifyStream i fun _ _ => rfl, le_rfl⟩
  | serverClose i =>
    cases hstep
    exact ⟨h.modifyStream i fun _ _ => rfl, le_rfl⟩

/-- A client link answers its calls in the order they were made, each of them once. It holds one
socket at most, and none while it waits for a call if it is not persistent. A call is over
after two connections and eleven steps. -/
theorem calls_accounted {service : Service} {callerId : String} {persistent : Bool}
    {link : ClientLink} (hlink : ClientLink.new service callerId persistent = .ok link)
    {labels : List Label} (hrun : Run (step decodeString) (fun _ _ => True) (start link) labels s) :
    (s.link.pc ≠ .exited →
      s.link.replies.map Prod.fst ++ (s.link.inHand.toList ++ s.link.rpcRx).map RpcMsg.replyTx =
        List.range s.link.calls) ∧
    (s.link.pc = .exited →
      (∃ n ≤ s.link.calls, s.link.replies.map Prod.fst = List.range n) ∧
        ∀ i, ¬ Open s.link.streams i) ∧
    (∀ i j, Open s.link.streams i → Open s.link.streams j → i = j) ∧
    (s.link.args.persistent = false → s.link.pc = .select → ∀ i, ¬ Open s.link.streams i) ∧
    s.link.streams.length ≤ 2 * s.link.calls ∧
    (labels.map cost).sum ≤ 1 + (labels.map gain).sum := by
  obtain ⟨hstart, hleft⟩ := ClientLink.new_accounted hlink
  have h := hrun.invariant (I := fun s => s.link.Accounted)
    (fun _ _ _ h _ he => (step_accounted h he).1) hstart
  have hsteps := hrun.amortised (I := fun s => s.link.Accounted)
    (fun _ _ _ h _ he => (step_accounted h he).1) (fun _ _ _ h _ he => (step_accounted h he).2)
    hstart
  refine ⟨h.calls, fun hpc => ⟨h.exited hpc, fun i hi => ?_⟩, fun i j => h.open_unique,
    fun hfleeting hpc i hi => ?_, h.streams_le, ?_⟩
  · rcases h.sockets i hi with hused | hkept
    · simp [ClientLink.inUse, hpc] at hused
    · simp [ClientLink.kept, h.taken (by simp [hpc])] at hkept
  · have hkept := ClientLink.kept_open h hpc hi
    simp [ClientLink.kept, h.fleeting hfleeting] at hkept
  · change _ ≤ link.left + _ at hsteps
    omega

theorem calls_accounted_retried : ∃ (labels : List Label) (t : ClientExchanges),
    t.link.replies = [(0, .error (.rpcFailure "")), (1, .ok (frame [9]))] ∧
    t.link.replies.map Prod.fst ++ (t.link.inHand.toList ++ t.link.rpcRx).map RpcMsg.replyTx =
      List.range t.link.calls ∧
    t.link.streams.length = 2 ∧
    (∀ i j, Open t.link.streams i → Open t.link.streams j → i = j) ∧
    (labels.map cost).sum ≤ 1 + (labels.map gain).sum := by
  obtain ⟨link, labels, t, hlink, hrun, hpc, -, hstreams, hreplies⟩ := addService_retried
  obtain ⟨hcalls, -, hsocket, -, -, hsteps⟩ :=
    calls_accounted hlink (hrun.mono fun _ _ _ => trivial)
  exact ⟨labels, t, hreplies, hcalls (by simp [hpc]), hstreams, hsocket, hsteps⟩

end ClientExchanges

end RosrustAsync
