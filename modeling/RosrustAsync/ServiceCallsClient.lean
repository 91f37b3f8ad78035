import RosrustAsync.ServiceCallsServer

namespace RosrustAsync.ServiceCalls

variable {decodeString : Bytes → Except IoError String}
  {encodeString : String → Except IoError Bytes} {callback : Bytes → Except String Bytes}
  {s t : ServiceCalls} {called : Bool}

/-- Calls are made with frames, and nothing fails outside the two ends. -/
def Reliable : Label → Prop
  | .client (.call data) => IsFrame data
  | .client (.resolve serviceUrl parse addrs) =>
    ∃ address, ClientLink.resolveAddress serviceUrl parse addrs = .ok address
  | .client (.connect (.error _)) | .client (.writeError _ _) | .client (.readError _ _)
  | .client .cancelled => False
  | _ => True

theorem Invariant.client (h : Invariant callback s called) {link : ClientLink}
    {entered : List Bytes} {called' : Bool} (haccounts : Accounts callback link entered)
    (hcurrent : Current callback { s with link, entered } called')
    (hinvoked : s.invoked = entered.take (link.replies.length + called'.toNat))
    (hrunning : link.pc ≠ .exited) (hkept : link.pc ≠ .select → link.connectionState = none)
    (hlength : s.link.streams.length ≤ link.streams.length)
    (hothers : ∀ i < link.streams.length, (∀ v, link.view ≠ some (i, v)) → s.servers i = .closed) :
    Invariant callback { s with link, entered } called' :=
  ⟨haccounts, hcurrent, hinvoked, hrunning, hkept, h.backlog, h.accepted_le.trans hlength,
    h.handling, hothers⟩

theorem Accounts.replies_le {link : ClientLink} {entered : List Bytes}
    (h : Accounts callback link entered) : link.replies.length ≤ entered.length := by
  have hlength := congrArg List.length h.replies
  simp only [List.length_map, List.length_take, tickets, List.length_mapIdx] at hlength
  omega

theorem Joint.msg {args : ClientArgs} {provider : Listener} {v : ClientView} {up down : Bytes}
    {pc : ServerPc} (h : Joint args provider callback v up down pc true) :
    ∃ data, v = .status data ∨ v = .success data ∨ v = .failure data := by
  cases h with
  | called data | statusSent data | bodySent data hpc => exact ⟨data, .inl rfl⟩
  | success hdata | successDone hdata hpc => exact ⟨_, .inr (.inl rfl)⟩
  | failure hdata | failureDone hdata hpc => exact ⟨_, .inr (.inr rfl)⟩

theorem Invariant.called_le (h : Invariant callback s called) :
    s.link.replies.length + called.toNat ≤ s.entered.length := by
  cases called with
  | false => exact h.accounts.replies_le
  | true =>
    cases hview : s.link.view with
    | none =>
      have hcurrent := h.current
      simp only [Current, hview] at hcurrent
      cases hcurrent
    | some x =>
      obtain ⟨i, v⟩ := x
      obtain ⟨stream, -, -, -, -, hjoint⟩ := h.current.joint hview
      obtain ⟨data, hv⟩ := hjoint.msg
      obtain ⟨msg, hmsg⟩ : ∃ msg, s.link.pc.msg = some msg := by
        cases hpc : s.link.pc with
        | select =>
          simp only [ClientLink.view, hpc] at hview
          obtain ⟨connection, -, heq⟩ := Option.map_eq_some_iff.mp hview
          cases heq
          simp at hv
        | exited => exact absurd hpc h.running
        | _ => exact ⟨_, rfl⟩
      exact (List.getElem?_eq_some_iff.mp (h.accounts.next hmsg).1).1

theorem tickets_concat (entered : List Bytes) (data : Bytes) :
    tickets (entered ++ [data]) = tickets entered ++ [⟨data, entered.length⟩] := by
  rw [tickets, List.mapIdx_concat]
  rfl

theorem length_tickets (entered : List Bytes) : (tickets entered).length = entered.length :=
  List.length_mapIdx

theorem call_step (h : Invariant callback s called) {data : Bytes} (hdata : IsFrame data)
    (he : s.step decodeString encodeString callback (.client (.call data)) = some t) :
    Invariant callback t called := by
  obtain ⟨link, hlink, he⟩ := Option.bind_eq_some_iff.mp he
  cases he
  simp only [ClientLink.step] at hlink
  split at hlink
  · cases hlink
  · cases hlink
    have hle := h.accounts.replies_le
    refine h.client ⟨?_, ?_, ?_, ?_⟩ h.current ?_ h.running h.kept le_rfl h.others
    · rw [List.length_append]
      exact congrArg (· + 1) h.accounts.calls
    · rw [tickets_concat, List.drop_append_of_le_length (by rwa [length_tickets]),
        h.accounts.waiting, h.accounts.calls, List.append_assoc]
    · rw [tickets_concat, List.take_append_of_le_length (by rwa [length_tickets])]
      exact h.accounts.replies
    · intro data' hmem
      rcases List.mem_append.mp hmem with hmem | hmem
      · exact h.accounts.frames _ hmem
      · rw [List.mem_singleton.mp hmem]
        exact hdata
    · rw [List.take_append_of_le_length h.called_le]
      exact h.invoked

theorem Invariant.not_called (h : Invariant callback s called) (hview : s.link.view = none) :
    called = false := by
  simpa only [Current, hview] using h.current

theorem recv_step (h : Invariant callback s called)
    (he : s.step decodeString encodeString callback (.client .recv) = some t) :
    Invariant callback t called ∧ t.measure < s.measure := by
  obtain ⟨link, hlink, he⟩ := Option.bind_eq_some_iff.mp he
  cases he
  simp only [ClientLink.step] at hlink
  have hwaiting := h.accounts.waiting
  split at hlink
  · rename_i msg rpcRx connection hpc hrpcRx hconnection
    cases hlink
    have hview : s.link.view = some (connection.tcpStream, .ready) := by
      simp only [ClientLink.view, hpc, hconnection, Option.map_some]
    rw [hpc, hrpcRx] at hwaiting
    refine ⟨h.client ⟨h.accounts.calls, hwaiting, h.accounts.replies, h.accounts.frames⟩ ?_
      h.invoked (by simp) (fun _ => rfl) le_rfl fun i hi hother => h.others i hi ?_, ?_⟩
    · have hcurrent := h.current
      simp only [Current, hview] at hcurrent
      exact hcurrent
    · rw [hview]
      exact hother
    · obtain ⟨stream, hstream, -⟩ := h.current.joint hview
      refine measure_lt_some rfl hstream ?_
      simp only [serverRank_eq hview hstream, hpc, hrpcRx, List.length_cons, ClientPc.rank]
      omega
  · rename_i msg rpcRx hpc hrpcRx hconnection
    cases hlink
    have hview : s.link.view = none := by
      simp only [ClientLink.view, hpc, hconnection, Option.map_none]
    rw [hpc, hrpcRx] at hwaiting
    refine ⟨h.client ⟨h.accounts.calls, hwaiting, h.accounts.replies, h.accounts.frames⟩
      (h.not_called hview) h.invoked (by simp) (fun _ => hconnection) le_rfl
      fun i hi hother => h.others i hi ?_, ?_⟩
    · rw [hview]
      exact hother
    · refine measure_lt_none rfl ?_
      simp only [hpc, hrpcRx, List.length_cons, ClientPc.rank]
      omega
  · cases hlink

theorem resolve_step (h : Invariant callback s called)
    {serviceUrl : Except MasterClientError String} {parse : Except UrlParseError Unit}
    {addrs : Except IoError (List SocketAddr)}
    (haddress : ∃ address, ClientLink.resolveAddress serviceUrl parse addrs = .ok address)
    (he : s.step decodeString encodeString callback (.client (.resolve serviceUrl parse addrs)) =
      some t) : Invariant callback t called ∧ t.measure < s.measure := by
  obtain ⟨address, haddress⟩ := haddress
  obtain ⟨link, hlink, he⟩ := Option.bind_eq_some_iff.mp he
  cases he
  simp only [ClientLink.step] at hlink
  have hwaiting := h.accounts.waiting
  split at hlink
  · rename_i msg hpc
    simp only [haddress] at hlink
    cases hlink
    have hview : s.link.view = none := by simp only [ClientLink.view, hpc]
    rw [hpc] at hwaiting
    refine ⟨h.client ⟨h.accounts.calls, hwaiting, h.accounts.replies, h.accounts.frames⟩
      (h.not_called hview) h.invoked (by simp) (fun _ => h.kept (by rw [hpc]; simp)) le_rfl
      fun i hi hother => h.others i hi ?_, measure_lt_none rfl ?_⟩
    · rw [hview]
      exact hother
    · simp only [hpc, ClientPc.rank]
      omega
  · cases hlink

theorem opened_step (h : Invariant callback s called) {link : ClientLink} {v : ClientView}
    {msg : RpcMsg} (hview : s.link.view = none) (hmsg : s.link.pc.msg = some msg)
    (hv : v = .probeWrite ∨ v = .headerWrite)
    (hcalls : link.calls = s.link.calls) (hreplies : link.replies = s.link.replies)
    (hrpcRx : link.rpcRx = s.link.rpcRx) (hmsg' : link.pc.msg = some msg)
    (hconnection : link.connectionState = s.link.connectionState)
    (hstreams : link.streams = s.link.streams ++ [.connected])
    (hview' : link.view = some (s.link.streams.length, v))
    (hrank : link.pc.rank + 5 < s.link.pc.rank) :
    Invariant callback { s with link } called ∧ measure { s with link } < s.measure := by
  have hwaiting := h.accounts.waiting
  have hbacklog : s.servers s.link.streams.length = .backlog := (h.backlog _).mpr h.accepted_le
  have hstream : link.streams[s.link.streams.length]? = some .connected := by
    rw [hstreams]
    exact List.getElem?_concat_length
  obtain rfl := h.not_called hview
  refine ⟨h.client ⟨?_, ?_, ?_, h.accounts.frames⟩ ?_ ?_ ?_ ?_ ?_ fun i hi hother => ?_,
    measure_lt_some hview' hstream ?_⟩
  · rw [hcalls]
    exact h.accounts.calls
  · rw [hreplies, hmsg', hrpcRx, ← hmsg]
    exact hwaiting
  · rw [hreplies]
    exact h.accounts.replies
  · simp only [Current, hview']
    refine ⟨.connected, hstream, rfl, fun _ => rfl, le_rfl, ?_⟩
    rw [hbacklog]
    rcases hv with rfl | rfl
    · exact .probeOpen .backlog
    · exact .headerOpen .backlog
  · rw [hreplies]
    exact h.invoked
  · intro hexited
    rw [hexited] at hmsg'
    cases hmsg'
  · intro _
    rw [hconnection]
    refine h.kept fun hselect => ?_
    rw [hselect] at hmsg
    cases hmsg
  · rw [hstreams, List.length_append]
    exact Nat.le_add_right _ _
  · rw [hstreams, List.length_append, List.length_singleton] at hi
    have hne : i ≠ s.link.streams.length := by
      rintro rfl
      exact hother v hview'
    refine h.others i (by omega) ?_
    rw [hview]
    exact by simp
  · simp only [hbacklog, hrpcRx, ServerPc.rank]
    omega

theorem connect_step (h : Invariant callback s called) {result : Except IoError Unit}
    (hok : Reliable (.client (.connect result)))
    (he : s.step decodeString encodeString callback (.client (.connect result)) = some t) :
    Invariant callback t called ∧ t.measure < s.measure := by
  obtain ⟨link, hlink, he⟩ := Option.bind_eq_some_iff.mp he
  cases he
  cases result with
  | error e => exact hok.elim
  | ok u =>
    simp only [ClientLink.step] at hlink
    split at hlink
    · rename_i msg address hpc
      cases hlink
      exact opened_step h (by simp only [ClientLink.view, hpc]) (by rw [hpc]; rfl) (.inl rfl)
        rfl rfl rfl rfl rfl rfl rfl (by rw [hpc]; exact Nat.lt_of_sub_eq_succ rfl)
    · rename_i msg address hpc
      cases hlink
      exact opened_step h (by simp only [ClientLink.view, hpc]) (by rw [hpc]; rfl) (.inr rfl)
        rfl rfl rfl rfl rfl rfl rfl (by rw [hpc]; exact Nat.lt_of_sub_eq_succ rfl)
    · cases hlink

theorem used_step (h : Invariant callback s called) {link : ClientLink} {i : ℕ} {v v' : ClientView}
    {stream stream' : TcpStream} (hview : s.link.view = some (i, v))
    (hstream : s.link.streams[i]? = some stream) (hargs : link.args = s.link.args)
    (hcalls : link.calls = s.link.calls) (hreplies : link.replies = s.link.replies)
    (hrpcRx : link.rpcRx = s.link.rpcRx) (hmsg : link.pc.msg = s.link.pc.msg)
    (hselect : s.link.pc ≠ .select) (hconnection : link.connectionState = s.link.connectionState)
    (hstreams : link.streams = s.link.streams.set i stream') (hview' : link.view = some (i, v'))
    (hopen : stream'.clientOpen = stream.clientOpen)
    (hserver : stream'.serverOpen = stream.serverOpen)
    (hread : stream'.read ≤ stream'.fromServer.length)
    (hjoint : Joint s.link.args s.provider callback v' stream'.toServer stream'.unread
      (s.servers i) called)
    (hrank : link.pc.rank + (s.servers i).rank stream'.toServer <
      s.link.pc.rank + (s.servers i).rank stream.toServer) :
    Invariant callback { s with link } called ∧ measure { s with link } < s.measure := by
  obtain ⟨stream₀, hstream₀, hopen₀, hserver₀, -, -⟩ := h.current.joint hview
  obtain rfl : stream = stream₀ := Option.some.inj (hstream.symm.trans hstream₀)
  have hstream' : link.streams[i]? = some stream' := by
    rw [hstreams]
    exact getElem?_set_of_some hstream
  refine ⟨h.client ⟨?_, ?_, ?_, h.accounts.frames⟩ ?_ ?_ ?_ ?_ ?_ fun j hj hother => ?_,
    measure_lt_some hview' hstream' ?_⟩
  · rw [hcalls]
    exact h.accounts.calls
  · rw [hreplies, hmsg, hrpcRx]
    exact h.accounts.waiting
  · rw [hreplies]
    exact h.accounts.replies
  · simp only [Current, hview', hargs]
    exact ⟨stream', hstream', hopen.trans hopen₀, fun hne => hserver.trans (hserver₀ hne), hread,
      hjoint⟩
  · rw [hreplies]
    exact h.invoked
  · intro hexited
    rw [ClientLink.view, hexited] at hview'
    cases hview'
  · rw [hconnection]
    exact fun _ => h.kept hselect
  · rw [hstreams, List.length_set]
  · rw [hstreams, List.length_set] at hj
    refine h.others j hj fun w hw => ?_
    rw [hview] at hw
    cases hw
    exact hother v' hview'
  · rw [serverRank_eq hview hstream, hrpcRx]
    show 100 * s.link.rpcRx.length + link.pc.rank + (s.servers i).rank stream'.toServer < _
    omega

theorem write_step (h : Invariant callback s called)
    (he : s.step decodeString encodeString callback (.client .write) = some t) :
    Invariant callback t called ∧ t.measure < s.measure := by
  obtain ⟨link, hlink, he⟩ := Option.bind_eq_some_iff.mp he
  cases he
  obtain ⟨⟨i, bytes⟩, hout, hlink⟩ := Option.bind_eq_some_iff.mp hlink
  cases hpc : s.link.pc with
  | probeWrite msg address j =>
    simp only [ClientLink.outgoing, hpc, Option.some.injEq, Prod.mk.injEq] at hout
    obtain ⟨rfl, rfl⟩ := hout
    have hview : s.link.view = some (j, .probeWrite) := by simp only [ClientLink.view, hpc]
    obtain ⟨stream, hstream, -, -, hread, hjoint⟩ := h.current.joint hview
    obtain ⟨hup, hnext⟩ := hjoint.probeWrite
    simp only [ClientLink.modifyStream, modify_eq_set_of_some hstream, ClientLink.wrote, hpc, hup,
      List.nil_append, Option.some.injEq] at hlink
    subst hlink
    refine used_step h hview hstream rfl rfl rfl rfl (by rw [hpc]; rfl) (by rw [hpc]; simp)
      rfl rfl rfl rfl rfl hread hnext ?_
    have hle := ServerPc.rank_le s.link.args.probeHeaderBytes (s.servers j)
    simp only [hpc, ClientPc.rank]
    omega
  | headerWrite msg address j =>
    simp only [ClientLink.outgoing, hpc, Option.some.injEq, Prod.mk.injEq] at hout
    obtain ⟨rfl, rfl⟩ := hout
    have hview : s.link.view = some (j, .headerWrite) := by simp only [ClientLink.view, hpc]
    obtain ⟨stream, hstream, -, -, hread, hjoint⟩ := h.current.joint hview
    obtain ⟨hup, hnext⟩ := hjoint.headerWrite
    simp only [ClientLink.modifyStream, modify_eq_set_of_some hstream, ClientLink.wrote, hpc, hup,
      List.nil_append, Option.some.injEq] at hlink
    subst hlink
    refine used_step h hview hstream rfl rfl rfl rfl (by rw [hpc]; rfl) (by rw [hpc]; simp)
      rfl rfl rfl rfl rfl hread hnext ?_
    have hle := ServerPc.rank_le s.link.args.clientHeaderBytes (s.servers j)
    simp only [hpc, ClientPc.rank]
    omega
  | request msg connection =>
    simp only [ClientLink.outgoing, hpc, Option.some.injEq, Prod.mk.injEq] at hout
    obtain ⟨rfl, rfl⟩ := hout
    have hview : s.link.view = some (connection.tcpStream, .ready) := by
      simp only [ClientLink.view, hpc]
    obtain ⟨stream, hstream, -, -, hread, hjoint⟩ := h.current.joint hview
    obtain ⟨hup, -, -, hnext⟩ := hjoint.request msg.data
    simp only [ClientLink.modifyStream, modify_eq_set_of_some hstream, ClientLink.wrote, hpc, hup,
      List.nil_append, Option.some.injEq] at hlink
    subst hlink
    refine used_step h hview hstream rfl rfl rfl rfl (by rw [hpc]; rfl) (by rw [hpc]; simp)
      rfl rfl rfl rfl rfl hread hnext ?_
    have hle := ServerPc.rank_le msg.data (s.servers connection.tcpStream)
    simp only [hpc, ClientPc.rank]
    omega
  | _ => simp [ClientLink.outgoing, hpc] at hout

end RosrustAsync.ServiceCalls
