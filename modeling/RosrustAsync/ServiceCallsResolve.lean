import RosrustAsync.ServiceCallsClient

namespace RosrustAsync.ServiceCalls

variable {decodeString : Bytes → Except IoError String}
  {encodeString : String → Except IoError Bytes} {callback : Bytes → Except String Bytes}
  {s t : ServiceCalls} {called : Bool}

theorem Accounts.reply {link link' : ClientLink} {entered : List Bytes} {msg : RpcMsg}
    (h : Accounts callback link entered) (hmsg : link.pc.msg = some msg)
    (hcalls : link'.calls = link.calls) (hrpcRx : link'.rpcRx = link.rpcRx)
    (hmsg' : link'.pc.msg = none)
    (hreplies : link'.replies = link.replies ++ [(msg.replyTx, outcome (callback msg.data))]) :
    Accounts callback link' entered := by
  have hwaiting := h.waiting
  rw [hmsg, Option.toList_some, List.singleton_append] at hwaiting
  have hlength : link'.replies.length = link.replies.length + 1 := by
    rw [hreplies, List.length_append, List.length_singleton]
  have hnext : (tickets entered)[link.replies.length]? = some msg := by
    rw [← List.head?_drop, hwaiting, List.head?_cons]
  refine ⟨hcalls.trans h.calls, ?_, ?_, h.frames⟩
  · rw [hlength, ← List.tail_drop, hwaiting, hmsg', hrpcRx]
    rfl
  · rw [hlength, List.take_add_one, hnext, List.map_append, ← h.replies, hreplies]
    rfl

theorem AfterBody.eq_read {persistent : Bool} {pc : ServerPc} (h : AfterBody persistent pc)
    (hkeep : persistent = true) : pc = .read persistent := by
  cases h with
  | kept => rfl
  | closed hclosed => exact absurd hkeep (by simp [hclosed])

theorem AfterBody.eq_closed {persistent : Bool} {pc : ServerPc} (h : AfterBody persistent pc)
    (hkeep : persistent = false) : pc = .closed := by
  cases h with
  | kept hkept => exact absurd hkeep (by simp [hkept])
  | closed => rfl

theorem close_modifyStream {link : ClientLink} {i : ℕ} {stream stream' : TcpStream}
    (hstream : link.streams[i]? = some stream) :
    (link.modifyStream i fun _ => stream').close i =
      { link with streams := link.streams.set i { stream' with clientOpen := false } } := by
  have hset := modify_eq_set_of_some (f := fun stream : TcpStream =>
    { stream with clientOpen := false }) (getElem?_set_of_some (a := stream') hstream)
  simp only [ClientLink.close, ClientLink.modifyStream, modify_eq_set_of_some hstream, hset,
    List.set_set]

theorem answered_step (h : Invariant callback s true) {msg : RpcMsg} {connection : ConnectionState}
    {v : ClientView} {stream : TcpStream} {result : Except ClientLinkError Bytes} {n : ℕ}
    (hpc : s.link.pc = .success msg connection ∨ s.link.pc = .failure msg connection)
    (hview : s.link.view = some (connection.tcpStream, v))
    (hstream : s.link.streams[connection.tcpStream]? = some stream)
    (hup : stream.toServer = []) (hn : n = stream.fromServer.length)
    (hafter : AfterBody s.link.args.persistent (s.servers connection.tcpStream))
    (hresult : result = outcome (callback msg.data)) :
    let link := (s.link.modifyStream connection.tcpStream fun _ =>
      { stream with read := n }).endRpc msg connection result
    Invariant callback { s with link } false ∧ measure { s with link } < s.measure := by
  have hmsg : s.link.pc.msg = some msg := by
    rcases hpc with hpc | hpc <;> rw [hpc] <;> rfl
  have hrank : s.link.pc.rank = 8 := by
    rcases hpc with hpc | hpc <;> rw [hpc] <;> rfl
  obtain ⟨stream₀, hstream₀, hopen, hserver, -, -⟩ := h.current.joint hview
  obtain rfl : stream = stream₀ := Option.some.inj (hstream.symm.trans hstream₀)
  have hinvoked : s.invoked = s.entered.take (s.link.replies.length + 1) := h.invoked
  have hset : s.link.streams.modify connection.tcpStream (fun _ => { stream with read := n }) =
      s.link.streams.set connection.tcpStream { stream with read := n } :=
    modify_eq_set_of_some hstream
  have hothers : ∀ i < s.link.streams.length, i ≠ connection.tcpStream → s.servers i = .closed := by
    refine fun i hi hne => h.others i hi fun w hw => hne ?_
    rw [hview] at hw
    exact (congrArg Prod.fst (Option.some.inj hw)).symm
  subst hresult
  cases hkeep : s.link.args.persistent with
  | true =>
    have hend : (s.link.modifyStream connection.tcpStream fun _ => { stream with read := n }).endRpc
        msg connection (outcome (callback msg.data)) = { s.link with
          streams := s.link.streams.set connection.tcpStream { stream with read := n }
          connectionState := some connection
          pc := .select
          replies := s.link.replies ++ [(msg.replyTx, outcome (callback msg.data))] } := by
      simp only [ClientLink.endRpc, ClientLink.reply, ClientLink.modifyStream, hset, hkeep, if_true]
    have hserving := hafter.eq_read hkeep
    simp only [hend]
    have hview' : ClientLink.view { s.link with
        streams := s.link.streams.set connection.tcpStream { stream with read := n }
        connectionState := some connection
        pc := .select
        replies := s.link.replies ++ [(msg.replyTx, outcome (callback msg.data))] } =
        some (connection.tcpStream, .ready) := rfl
    refine ⟨h.client (h.accounts.reply hmsg rfl rfl rfl rfl) ?_ ?_ (by simp) (fun hne => absurd rfl hne)
      ?_ fun i hi hother => ?_, measure_lt_some hview' (getElem?_set_of_some hstream) ?_⟩
    · simp only [Current, hview']
      refine ⟨_, getElem?_set_of_some hstream, hopen, hserver, hn.le, ?_⟩
      rw [hserving]
      simp only [TcpStream.unread, hup, hn, List.drop_length]
      exact .ready
    · rw [List.length_append]
      exact hinvoked
    · rw [List.length_set]
    · rw [List.length_set] at hi
      refine hothers i hi ?_
      rintro rfl
      exact hother _ hview'
    · simp only [hrank, hserving, hup, ServerPc.rank, if_true]
      show 100 * s.link.rpcRx.length + 0 + 0 < _
      omega
  | false =>
    have hclosed := hafter.eq_closed hkeep
    have hkept : s.link.connectionState = none := by
      refine h.kept ?_
      rcases hpc with hpc | hpc <;> rw [hpc] <;> simp
    have hend : (s.link.modifyStream connection.tcpStream fun _ => { stream with read := n }).endRpc
        msg connection (outcome (callback msg.data)) = { s.link with
          streams := s.link.streams.set connection.tcpStream
            { stream with read := n, clientOpen := false }
          pc := .select
          replies := s.link.replies ++ [(msg.replyTx, outcome (callback msg.data))] } := by
      rw [ClientLink.endRpc, close_modifyStream hstream, ClientLink.modifyStream, hkeep]
      rfl
    simp only [hend]
    have hview' : ClientLink.view { s.link with
        streams := s.link.streams.set connection.tcpStream
          { stream with read := n, clientOpen := false }
        pc := .select
        replies := s.link.replies ++ [(msg.replyTx, outcome (callback msg.data))] } = none := by
      simp only [ClientLink.view, hkept, Option.map_none]
    refine ⟨h.client (h.accounts.reply hmsg rfl rfl rfl rfl) ?_ ?_ (by simp) (fun _ => hkept)
      (List.length_set ..).ge fun i hi hother => ?_, measure_lt_none hview' ?_⟩
    · simp only [Current, hview']
    · rw [List.length_append]
      exact hinvoked
    · rw [List.length_set] at hi
      by_cases hne : i = connection.tcpStream
      · rw [hne, hclosed]
      · exact hothers i hi hne
    · rw [hrank]
      show 100 * s.link.rpcRx.length + 0 < _
      omega

theorem unread_le {stream : TcpStream} (h : stream.read ≤ stream.fromServer.length) :
    stream.read + stream.unread.length = stream.fromServer.length := by
  rw [TcpStream.unread, List.length_drop]
  omega

theorem unread_all {stream : TcpStream} :
    { stream with read := stream.read + stream.unread.length }.unread = [] := by
  rw [TcpStream.unread_read, List.drop_length]

theorem probeRead_step (h : Invariant callback s called) (ha : Agreed s.link.args s.provider)
    {msg : RpcMsg} {address : SocketAddr} {i : ℕ} (hpc : s.link.pc = .probeRead msg address i)
    (he : s.step decodeString encodeString callback (.client .read) = some t) :
    Invariant callback t called ∧ t.measure < s.measure := by
  obtain ⟨link, hlink, he⟩ := Option.bind_eq_some_iff.mp he
  cases he
  have hview : s.link.view = some (i, .probeRead) := by simp only [ClientLink.view, hpc]
  obtain ⟨stream, hstream, -, hserver, hread, hjoint⟩ := h.current.joint hview
  have hwaiting := h.accounts.waiting
  rw [hpc] at hwaiting
  simp only [ClientLink.step, ClientLink.incoming, hpc, Option.bind_eq_bind, Option.bind_some,
    hstream] at hlink
  rcases hjoint.probeRead with ⟨hdown, hopen⟩ | ⟨hdown, hclosed, rfl⟩
  · rw [TcpStream.readFrame_nil hdown (hserver hopen)] at hlink
    cases hlink
  · rw [TcpStream.readFrame_unread (hdown ▸ ha.probeResponse), Option.bind_some] at hlink
    simp only [ClientLink.receivedFrame, ClientLink.modifyStream_pc, ClientLink.modifyStream_args,
      hpc, hdown, ha.probed, close_modifyStream hstream] at hlink
    cases hlink
    refine ⟨h.client ⟨h.accounts.calls, hwaiting, h.accounts.replies, h.accounts.frames⟩ rfl
      h.invoked (by simp) (fun _ => h.kept (by rw [hpc]; simp)) (List.length_set ..).ge
      fun j hj hother => ?_, measure_lt_none rfl ?_⟩
    · rw [List.length_set] at hj
      by_cases hne : j = i
      · rw [hne, hclosed]
      · refine h.others j hj fun w hw => hne ?_
        rw [hview] at hw
        exact (congrArg Prod.fst (Option.some.inj hw)).symm
    · simp only [hpc, ClientPc.rank]
      omega

theorem serverHeaderRead_step (h : Invariant callback s called) (ha : Agreed s.link.args s.provider)
    {msg : RpcMsg} {address : SocketAddr} {i : ℕ} (hpc : s.link.pc = .headerRead msg address i)
    (he : s.step decodeString encodeString callback (.client .read) = some t) :
    Invariant callback t called ∧ t.measure < s.measure := by
  obtain ⟨link, hlink, he⟩ := Option.bind_eq_some_iff.mp he
  cases he
  have hview : s.link.view = some (i, .headerRead) := by simp only [ClientLink.view, hpc]
  obtain ⟨stream, hstream, -, hserver, hread, hjoint⟩ := h.current.joint hview
  simp only [ClientLink.step, ClientLink.incoming, hpc, Option.bind_eq_bind, Option.bind_some,
    hstream] at hlink
  rcases hjoint.headerRead with ⟨hdown, hopen⟩ | ⟨hdown, hnext⟩
  · rw [TcpStream.readFrame_nil hdown (hserver hopen)] at hlink
    cases hlink
  · obtain ⟨serverHeader, hgreeted⟩ := ha.greeted
    rw [TcpStream.readFrame_unread (hdown ▸ ha.serverHeader), Option.bind_some] at hlink
    simp only [ClientLink.receivedFrame, ClientLink.modifyStream, modify_eq_set_of_some hstream,
      hpc, hdown, hgreeted] at hlink
    cases hlink
    refine used_step h hview hstream rfl rfl rfl rfl (by rw [hpc]; rfl) (by rw [hpc]; simp)
      rfl rfl rfl rfl rfl ?_ ?_ ?_
    · rw [← hdown]
      exact (unread_le hread).le
    · rw [← hdown, unread_all]
      exact hnext
    · simp only [hpc, ClientPc.rank]
      omega

theorem statusRead_step (h : Invariant callback s called) {msg : RpcMsg}
    {connection : ConnectionState} (hpc : s.link.pc = .status msg connection)
    (he : s.step decodeString encodeString callback (.client .read) = some t) :
    Invariant callback t called ∧ t.measure < s.measure := by
  obtain ⟨link, hlink, he⟩ := Option.bind_eq_some_iff.mp he
  cases he
  have hview : s.link.view = some (connection.tcpStream, .status msg.data) := by
    simp only [ClientLink.view, hpc]
  obtain ⟨stream, hstream, -, hserver, hread, hjoint⟩ := h.current.joint hview
  simp only [ClientLink.step, ClientLink.incoming, hpc, Option.bind_eq_bind, Option.bind_some,
    hstream] at hlink
  rcases hjoint.statusRead with ⟨hdown, hopen⟩ | ⟨rest, hdown, hsuccess, hfailure⟩
  · rw [TcpStream.readU8, hdown, hserver hopen] at hlink
    cases hlink
  · have hle : stream.read + 1 ≤ stream.fromServer.length := by
      rw [← unread_le hread, hdown, List.length_cons]
      omega
    have hrest : { stream with read := stream.read + 1 }.unread = rest := by
      rw [TcpStream.unread_read, hdown]
      rfl
    rw [TcpStream.readU8, hdown, Option.bind_some] at hlink
    simp only [ClientLink.receivedStatus, ClientLink.modifyStream,
      modify_eq_set_of_some hstream] at hlink
    cases hdata : callback msg.data with
    | ok response =>
      simp only [hdata, statusByte, if_true, Option.some.injEq] at hlink
      subst hlink
      refine used_step h hview hstream rfl rfl rfl rfl (by rw [hpc]; rfl)
        (by rw [hpc]; simp) rfl rfl rfl rfl rfl hle ?_ ?_
      · rw [hrest]
        exact hsuccess response hdata
      · simp only [hpc, ClientPc.rank]
        omega
    | error e =>
      have hcode : ¬ rpcFailure = rpcSuccess := by decide
      simp only [hdata, statusByte, hcode, if_false, if_true, Option.some.injEq] at hlink
      subst hlink
      refine used_step h hview hstream rfl rfl rfl rfl (by rw [hpc]; rfl)
        (by rw [hpc]; simp) rfl rfl rfl rfl rfl hle ?_ ?_
      · rw [hrest]
        exact hfailure e hdata
      · simp only [hpc, ClientPc.rank]
        omega

theorem successRead_step (h : Invariant callback s called) (hf : Framed callback) {msg : RpcMsg}
    {connection : ConnectionState} (hpc : s.link.pc = .success msg connection)
    (he : s.step decodeString encodeString callback (.client .read) = some t) :
    Invariant callback t false ∧ t.measure < s.measure := by
  obtain ⟨link, hlink, he⟩ := Option.bind_eq_some_iff.mp he
  cases he
  have hview : s.link.view = some (connection.tcpStream, .success msg.data) := by
    simp only [ClientLink.view, hpc]
  obtain ⟨stream, hstream, -, hserver, hread, hjoint⟩ := h.current.joint hview
  simp only [ClientLink.step, ClientLink.incoming, hpc, Option.bind_eq_bind, Option.bind_some,
    hstream] at hlink
  obtain ⟨rfl, ⟨hdown, hopen⟩ | ⟨hup, hdata, hafter⟩⟩ := hjoint.successRead
  · rw [TcpStream.readFrame_nil hdown (hserver hopen)] at hlink
    cases hlink
  · rw [TcpStream.readFrame_unread (hf.response _ _ hdata), Option.bind_some] at hlink
    simp only [ClientLink.receivedFrame, ClientLink.modifyStream_pc, hpc, Option.some.injEq] at hlink
    subst hlink
    refine answered_step h (.inl hpc) hview hstream hup (unread_le hread) hafter ?_
    rw [hdata]
    rfl

theorem failureRead_step (h : Invariant callback s called) (hf : Framed callback)
    (hc : Codec decodeString encodeString) {msg : RpcMsg}
    {connection : ConnectionState} (hpc : s.link.pc = .failure msg connection)
    (he : s.step decodeString encodeString callback (.client .read) = some t) :
    Invariant callback t false ∧ t.measure < s.measure := by
  obtain ⟨link, hlink, he⟩ := Option.bind_eq_some_iff.mp he
  cases he
  have hview : s.link.view = some (connection.tcpStream, .failure msg.data) := by
    simp only [ClientLink.view, hpc]
  obtain ⟨stream, hstream, -, hserver, hread, hjoint⟩ := h.current.joint hview
  simp only [ClientLink.step, ClientLink.incoming, hpc, Option.bind_eq_bind, Option.bind_some,
    hstream] at hlink
  obtain ⟨rfl, ⟨hdown, hopen⟩ | ⟨hup, ⟨e, hdata, hdown⟩, hafter⟩⟩ := hjoint.failureRead
  · rw [TcpStream.readFrame_nil hdown (hserver hopen)] at hlink
    cases hlink
  · have htext := hf.text _ _ hdata
    have hframe : IsFrame stream.unread := ⟨_, htext, hdown⟩
    rw [TcpStream.readFrame_unread hframe, Option.bind_some] at hlink
    simp only [ClientLink.receivedFrame, ClientLink.modifyStream_pc, hpc, Option.some.injEq] at hlink
    subst hlink
    refine answered_step h (.inr hpc) hview hstream hup (unread_le hread) hafter ?_
    simp only [ClientLink.failureResult, hdown, hc.decode e htext, hdata, outcome]

theorem read_step (h : Invariant callback s called) (ha : Agreed s.link.args s.provider)
    (hc : Codec decodeString encodeString) (hf : Framed callback)
    (he : s.step decodeString encodeString callback (.client .read) = some t) :
    ∃ called', Invariant callback t called' ∧ t.measure < s.measure := by
  cases hpc : s.link.pc with
  | probeRead msg address i => exact ⟨called, probeRead_step h ha hpc he⟩
  | headerRead msg address i => exact ⟨called, serverHeaderRead_step h ha hpc he⟩
  | status msg connection => exact ⟨called, statusRead_step h hpc he⟩
  | success msg connection => exact ⟨false, successRead_step h hf hpc he⟩
  | failure msg connection => exact ⟨false, failureRead_step h hf hc hpc he⟩
  | _ =>
    obtain ⟨link, hlink, -⟩ := Option.bind_eq_some_iff.mp he
    simp [ClientLink.step, ClientLink.incoming, hpc] at hlink

/-- What the two ends do by themselves; the rest is done by those who make calls. -/
def internal : Label → Bool
  | .client (.call _) => false
  | _ => true

theorem internal_step (h : Invariant callback s called) (ha : Agreed s.link.args s.provider)
    (hc : Codec decodeString encodeString) (hf : Framed callback) {label : Label}
    (hok : Reliable label) (hinternal : internal label = true)
    (he : s.step decodeString encodeString callback label = some t) :
    ∃ called', Invariant callback t called' ∧ t.measure < s.measure := by
  cases label with
  | client l =>
    cases l with
    | call data => cases hinternal
    | recv => exact ⟨called, recv_step h he⟩
    | resolve serviceUrl parse addrs => exact ⟨called, resolve_step h hok he⟩
    | connect result => exact ⟨called, connect_step h hok he⟩
    | write => exact ⟨called, write_step h he⟩
    | read => exact read_step h ha hc hf he
    | writeError error torn | readError error torn | cancelled => exact hok.elim
  | _ =>
    refine server_step h ha hc ?_ he
    rintro l ⟨⟩

end RosrustAsync.ServiceCalls
