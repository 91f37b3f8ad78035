import RosrustAsync.ServiceCallsProgress

namespace RosrustAsync.ServiceCalls

open Runs (Run exec exec_append run_of_exec)

variable {decodeString : Bytes → Except IoError String}
  {encodeString : String → Except IoError Bytes} {callback : Bytes → Except String Bytes}
  {s t : ServiceCalls} {called : Bool}

def start (link : ClientLink) (provider : Listener) : ServiceCalls :=
  ⟨link, provider, none, 0, fun _ => .backlog, [], []⟩

/-- What the calls resolve to, in the order they entered the queue. -/
def answers (callback : Bytes → Except String Bytes) (entered : List Bytes) :
    List (ℕ × Except ClientLinkError Bytes) :=
  entered.mapIdx fun i data => (i, outcome (callback data))

theorem Accounts.answers {link : ClientLink} {entered : List Bytes}
    (h : Accounts callback link entered) : link.replies <+: answers callback entered := by
  have hanswers : (tickets entered).map (fun msg => (msg.replyTx, outcome (callback msg.data))) =
      ServiceCalls.answers callback entered := by
    apply List.ext_getElem?
    intro i
    simp only [tickets, ServiceCalls.answers, List.getElem?_map, List.getElem?_mapIdx, Option.map_map]
    rfl
  rw [h.replies, List.map_take, hanswers]
  exact List.take_prefix _ _

def constants (s : ServiceCalls) : Listener × ClientArgs × List Bytes :=
  (s.provider, s.link.args, s.entered)

theorem serverWrite_constants (i : ℕ) (bytes : Bytes) (pc : ServerPc) :
    (s.serverWrite i bytes pc).constants = s.constants := rfl

theorem serverRead_constants {i : ℕ} {next : Bytes → ServerPc} (h : s.serverRead i next = some t) :
    t.constants = s.constants := by
  obtain ⟨stream, -, h⟩ := Option.bind_eq_some_iff.mp h
  split at h
  · cases h
    rfl
  · split at h
    · cases h
    · cases h
      rfl

theorem step_constants {label : Label}
    (he : s.step decodeString encodeString callback label = some t) :
    t.constants = match label with
      | .client (.call data) => (s.provider, s.link.args, s.entered ++ [data])
      | _ => s.constants := by
  cases label with
  | client l =>
    obtain ⟨link, hlink, he⟩ := Option.bind_eq_some_iff.mp he
    cases he
    have hargs := ClientLink.step_args hlink
    cases l <;> simp only [constants, hargs]
  | accept =>
    simp only [step] at he
    split at he <;> cases he
    rfl
  | headerRead =>
    obtain ⟨i, -, he⟩ := Option.bind_eq_some_iff.mp he
    split at he
    · obtain ⟨u, hu, he⟩ := Option.bind_eq_some_iff.mp he
      have hsame := serverRead_constants hu
      split at he <;> cases he <;> exact hsame
    · cases he
  | headerWrite =>
    obtain ⟨i, -, he⟩ := Option.bind_eq_some_iff.mp he
    split at he <;> cases he <;> rfl
  | taskRead i =>
    simp only [step] at he
    split at he
    · exact serverRead_constants he
    · cases he
  | taskCallback i =>
    simp only [step] at he
    split at he <;> cases he
    rfl
  | taskStatus i =>
    simp only [step] at he
    split at he <;> cases he
    exact serverWrite_constants i _ _
  | taskBody i =>
    simp only [step] at he
    split at he
    · split at he <;> cases he <;> exact serverWrite_constants i _ _
    · cases he

theorem start_invariant {link : ClientLink} {provider : Listener}
    (hpc : link.pc = .select) (hconnection : link.connectionState = none)
    (hstreams : link.streams = []) (hrpcRx : link.rpcRx = []) (hcalls : link.calls = 0)
    (hreplies : link.replies = []) :
    Invariant callback (start link provider) false ∧ (start link provider).measure = 0 := by
  have hview : (start link provider).link.view = none := by
    simp only [start, ClientLink.view, hpc, hconnection, Option.map_none]
  refine ⟨⟨⟨hcalls, ?_, ?_, ?_⟩, ?_, List.take_nil.symm, ?_, fun _ => hconnection, fun i => ?_, Nat.zero_le _,
    fun i => ?_, fun i hi => ?_⟩, ?_⟩
  · simp only [start, hreplies, hpc, hrpcRx]
    rfl
  · simp only [start, hreplies]
    rfl
  · exact fun _ hmem => absurd hmem List.not_mem_nil
  · simp only [Current, hview]
  · simp only [start, hpc]
    simp
  · exact iff_of_true rfl (Nat.zero_le i)
  · exact iff_of_false (by rintro ⟨⟩) id
  · simp only [start, hstreams, List.length_nil] at hi
    omega
  · rw [measure, serverRank_none hview]
    simp only [start, hpc, hrpcRx, ClientPc.rank, List.length_nil]

theorem call_measure {data : Bytes}
    (he : s.step decodeString encodeString callback (.client (.call data)) = some t) :
    t.measure = s.measure + 100 := by
  obtain ⟨link, hlink, he⟩ := Option.bind_eq_some_iff.mp he
  cases he
  simp only [ClientLink.step] at hlink
  split at hlink
  · cases hlink
  · cases hlink
    show 100 * (s.link.rpcRx ++ [_]).length + s.link.pc.rank + s.serverRank = _
    rw [List.length_append, List.length_singleton, measure]
    omega

theorem run_invariant {labels : List Label} (ha : Agreed s.link.args s.provider)
    (hc : Codec decodeString encodeString) (hf : Framed callback)
    (hrun : Run (step decodeString encodeString callback) (fun _ => Reliable) s labels t)
    (h : Invariant callback s called) : ∃ called', Invariant callback t called' ∧
      Agreed t.link.args t.provider ∧
      t.measure + labels.countP internal + 100 * s.entered.length ≤
        s.measure + 100 * t.entered.length := by
  induction hrun generalizing called with
  | nil s => exact ⟨called, h, ha, by rw [List.countP_nil]; omega⟩
  | @cons s m t label labels hok he hrun ih =>
    have hsame := step_constants he
    have hnext : ∃ called', Invariant callback m called' ∧ Agreed m.link.args m.provider ∧
        m.measure + (if internal label then 1 else 0) + 100 * s.entered.length ≤
          s.measure + 100 * m.entered.length := by
      cases hinternal : internal label with
      | true =>
        obtain ⟨called', hm, hlt⟩ := internal_step h ha hc hf hok hinternal he
        have hconstants : m.constants = s.constants := by
          rw [hsame]
          split
          · cases hinternal
          · rfl
        simp only [constants, Prod.mk.injEq] at hconstants
        obtain ⟨hprovider, hargs, hentered⟩ := hconstants
        refine ⟨called', hm, by rwa [hprovider, hargs], ?_⟩
        rw [hentered, if_pos rfl]
        omega
      | false =>
        cases label with
        | client l =>
          cases l with
          | call data =>
            simp only [constants, Prod.mk.injEq] at hsame
            obtain ⟨hprovider, hargs, hentered⟩ := hsame
            refine ⟨called, call_step h hok he, by rwa [hprovider, hargs], ?_⟩
            rw [hentered, call_measure he, List.length_append, List.length_singleton]
            simp only [Bool.false_eq_true, if_false]
            omega
          | _ => cases hinternal
        | _ => cases hinternal
    obtain ⟨called', hm, hagreed, hle⟩ := hnext
    obtain ⟨called'', ht, hagreed', hle'⟩ := ih hagreed hm
    refine ⟨called'', ht, hagreed', ?_⟩
    rw [List.countP_cons]
    omega

/-- Every call resolves to what the callback makes of its own request, in the order of the queue,
the callback is called once for each, and the two ends go on until all are answered. -/
theorem calls_resolve {service service' : Service} {callerId callerId' : String} {persistent : Bool}
    {link : ClientLink} {provider : Listener}
    (hlink : ClientLink.new service callerId persistent = .ok link)
    (hprovider : Listener.new service' callerId' = .ok provider)
    (hcompatible : service.spec.validateCompatibility service'.spec = .ok ())
    (hclient : link.args.clientHeaderBytes.length < 4 + 2 ^ 32)
    (hprobe : link.args.probeHeaderBytes.length < 4 + 2 ^ 32)
    (hserver : provider.serverHeaderBytes.length < 4 + 2 ^ 32)
    (hresponse : provider.probeHeaderBytes.length < 4 + 2 ^ 32)
    (hc : Codec decodeString encodeString) (hf : Framed callback) {labels : List Label}
    (hrun : Run (step decodeString encodeString callback) (fun _ => Reliable) (start link provider)
      labels s) :
    s.link.replies <+: answers callback s.entered ∧ s.invoked <+: s.entered ∧
      s.link.replies.length ≤ s.invoked.length ∧ s.invoked.length ≤ s.link.replies.length + 1 ∧
      labels.countP internal ≤ 100 * (s.link.replies.length + 1) ∧
      (s.link.replies.length < s.entered.length → Enabled decodeString encodeString callback s) := by
  have ha := agreed_of_new hlink hprovider hcompatible hclient hprobe hserver hresponse
  obtain ⟨hstart, hmeasure⟩ : Invariant callback (start link provider) false ∧
      (start link provider).measure = 0 := by
    simp only [ClientLink.new, toBytes_eq] at hlink
    cases hlink
    exact start_invariant rfl rfl rfl rfl rfl rfl
  obtain ⟨called, h, hagreed, hle⟩ := run_invariant ha hc hf hrun hstart
  have hlength : s.invoked.length = s.link.replies.length + called.toNat := by
    rw [h.invoked, List.length_take]
    exact min_eq_left h.called_le
  have hcalled : called.toNat ≤ 1 := Bool.toNat_le called
  have hentered : s.entered.length ≤ s.link.replies.length + 1 + s.link.rpcRx.length := by
    have hwaiting := congrArg List.length h.accounts.waiting
    rw [List.length_drop, length_tickets, List.length_append] at hwaiting
    have hmsg : s.link.pc.msg.toList.length ≤ 1 := by
      cases s.link.pc.msg <;> simp
    omega
  refine ⟨h.accounts.answers, ?_, by omega, by omega, ?_, h.enabled hagreed hc hf⟩
  · rw [h.invoked]
    exact List.take_prefix _ _
  · have hstarted : (start link provider).entered.length = 0 := rfl
    have hpending : 100 * s.link.rpcRx.length ≤ s.measure := by
      rw [measure]
      omega
    omega

/-! The connections of a first call, and what its failure comes to. -/

def probing (data : Bytes) (address : SocketAddr) : List Label :=
  [.client (.call data), .client .recv, .client (.resolve (.ok "") (.ok ()) (.ok [address])),
    .client (.connect (.ok ())), .client .write, .accept, .headerRead, .headerWrite, .client .read]

def greeting : List Label :=
  [.client (.connect (.ok ())), .client .write, .accept, .headerRead, .headerWrite, .client .read,
    .client .write, .taskRead 1]

theorem reliable_handshake {data : Bytes} (hdata : IsFrame data) (address : SocketAddr) :
    ∀ label ∈ probing data address ++ greeting, Reliable label := by
  have haddress : ClientLink.resolveAddress (.ok "") (.ok ()) (.ok [address]) = .ok address := rfl
  simp only [probing, greeting, List.cons_append, List.nil_append, List.forall_mem_cons, Reliable,
    hdata, haddress, true_and]
  exact ⟨⟨address, rfl⟩, fun _ hmem => absurd hmem List.not_mem_nil⟩

def probed (args : ClientArgs) (provider : Listener) (msg : RpcMsg) (address : SocketAddr)
    (probe : TcpStream) : ServiceCalls :=
  ⟨⟨args, none, .connect msg address, [], [probe], 1, []⟩, provider, none, 1,
    Function.update (fun _ => .backlog) 0 .closed, [msg.data], []⟩

def asked (args : ClientArgs) (provider : Listener) (msg : RpcMsg) (connection : ConnectionState)
    (probe : TcpStream) : ServiceCalls :=
  ⟨⟨args, none, .status msg connection, [],
      [probe, ⟨[], provider.serverHeaderBytes, provider.serverHeaderBytes.length, true, true⟩], 1, []⟩,
    provider, none, 2, Function.update (Function.update (fun _ => .backlog) 0 .closed) 1
      (.callback args.persistent msg.data), [msg.data], []⟩

variable (decodeString encodeString callback) in
theorem exec_probing {args : ClientArgs} {provider : Listener} (ha : Agreed args provider)
    (data : Bytes) (address : SocketAddr) :
    ∃ probe, exec (step decodeString encodeString callback)
      (start ⟨args, none, .select, [], [], 0, []⟩ provider) (probing data address) =
        some (probed args provider ⟨data, 0⟩ address probe) := by
  obtain ⟨rest, hread, hrest⟩ := ha.probeRequest.readTcprosFrame
  obtain ⟨rest', hread', -⟩ := ha.probeResponse.readTcprosFrame
  have haddress : ClientLink.resolveAddress (.ok "") (.ok ()) (.ok [address]) = .ok address := rfl
  refine ⟨⟨[], provider.probeHeaderBytes, provider.probeHeaderBytes.length, false, false⟩, ?_⟩
  simp only [start, probing, exec, step, ClientLink.step, List.nil_append, zero_add,
    Option.bind_eq_bind, Option.bind_some, haddress, TcpStream.connected, ClientLink.outgoing,
    ClientLink.wrote, ClientLink.modifyStream, ClientLink.close, setServer, serverRead,
    serverWrite, List.append_nil, ServerPc.isClosed, Bool.not_true, Bool.and_false, Bool.not_false,
    Bool.and_true, ClientLink.incoming, TcpStream.readFrame, TcpStream.unread,
    ClientLink.receivedFrame, Option.bind_fun_some, List.length_nil, List.modify_zero_cons,
    List.length_cons, Nat.lt_add_one, and_self, ↓reduceIte, Function.update_self, getElem?_pos,
    List.getElem_cons_zero, Bool.true_and, Function.update_idem, hread, hrest, ha.probe,
    Bool.false_eq_true, List.drop_zero, hread', ha.probed, probed]

variable (decodeString encodeString callback) in
theorem exec_greeting {args : ClientArgs} {provider : Listener} (ha : Agreed args provider)
    (msg : RpcMsg) (hdata : IsFrame msg.data) (address : SocketAddr) (probe : TcpStream) :
    ∃ serverHeader, exec (step decodeString encodeString callback)
      (probed args provider msg address probe) greeting =
        some (asked args provider msg ⟨address, 1, serverHeader⟩ probe) := by
  obtain ⟨client, hgreet, hpersistent⟩ := ha.greet
  obtain ⟨serverHeader, hgreeted⟩ := ha.greeted
  obtain ⟨rest, hread, hrest⟩ := ha.clientHeader.readTcprosFrame
  obtain ⟨rest', hread', -⟩ := ha.serverHeader.readTcprosFrame
  obtain ⟨rest'', hread'', hrest''⟩ := hdata.readTcprosFrame
  refine ⟨serverHeader, ?_⟩
  simp only [probed, greeting, exec, step, ClientLink.step, List.length_cons, List.length_nil,
    zero_add, TcpStream.connected, List.cons_append, List.nil_append, Option.bind_eq_bind,
    Option.bind_some, ClientLink.outgoing, ClientLink.wrote, ClientLink.modifyStream, setServer,
    serverRead, serverWrite, List.append_nil, ServerPc.isClosed, Bool.not_true, Bool.and_false,
    Bool.not_false, Bool.and_true, ClientLink.incoming, TcpStream.readFrame, TcpStream.unread,
    ClientLink.receivedFrame, Option.bind_fun_some, List.modify_succ_cons, List.modify_zero_cons,
    Nat.reduceAdd, Nat.lt_add_one, and_self, ↓reduceIte, Function.update_self, getElem?_pos,
    List.getElem_cons_succ, List.getElem_cons_zero, Bool.true_and, Function.update_idem, hread,
    hrest, hgreet, Bool.false_eq_true, hpersistent, List.drop_zero, hread', hgreeted, hread'',
    hrest'', asked]

def exchange : List Label :=
  [.taskCallback 1, .taskStatus 1, .taskBody 1, .client .read, .client .read]

variable (callback) in
theorem run_failure {args : ClientArgs} {provider : Listener} (ha : Agreed args provider)
    (data : Bytes) {body errorMsgBytes : Bytes} {e errorMsg : String} {rest : List Bytes}
    (hdata : IsFrame data) (hcallback : callback data = .error e) (hbody : encodeString e = .ok body)
    (hread : readTcprosFrame [body] = .ok (errorMsgBytes, rest))
    (hdecode : decodeString errorMsgBytes = .ok errorMsg) :
    ∃ t, Run (step decodeString encodeString callback) (fun _ => Reliable)
      (start ⟨args, none, .select, [], [], 0, []⟩ provider)
      (probing data ⟨.v4 0, 0⟩ ++ greeting ++ exchange) t ∧
      t.link.replies = [(0, .error (.rpcFailure errorMsg))] ∧ t.entered = [data] := by
  obtain ⟨probe, hprobing⟩ := exec_probing decodeString encodeString callback ha data ⟨.v4 0, 0⟩
  obtain ⟨serverHeader, hgreeting⟩ :=
    exec_greeting decodeString encodeString callback ha ⟨data, 0⟩ hdata ⟨.v4 0, 0⟩ probe
  have hrest : ∃ t, exec (step decodeString encodeString callback)
      (asked args provider ⟨data, 0⟩ ⟨⟨.v4 0, 0⟩, 1, serverHeader⟩ probe) exchange = some t ∧
      t.link.replies = [(0, .error (.rpcFailure errorMsg))] ∧ t.entered = [data] := by
    have hcode : ¬ rpcFailure = rpcSuccess := by decide
    cases hkeep : args.persistent <;>
      simp only [exchange, asked, exec, step, hkeep, setServer, hcallback, List.nil_append,
        serverWrite, ClientLink.modifyStream, statusByte, ServerPc.isClosed, Bool.not_false,
        Bool.and_true, bodyBytes, List.append_nil, Bool.not_true, Bool.and_false, ClientLink.step,
        ClientLink.incoming, TcpStream.readU8, TcpStream.unread, ClientLink.receivedStatus,
        ClientLink.endRpc, ClientLink.reply, ClientLink.close, Option.bind_eq_bind,
        TcpStream.readFrame, ClientLink.receivedFrame, ClientLink.failureResult,
        Option.bind_fun_some, Option.bind_some, Function.update_self, List.modify_succ_cons,
        List.modify_zero_cons, Function.update_idem, hbody, Bool.false_eq_true, ↓reduceIte,
        List.append_assoc, List.cons_append, List.length_cons, List.length_nil, zero_add,
        Nat.reduceAdd, Nat.lt_add_one, getElem?_pos, List.getElem_cons_succ,
        List.getElem_cons_zero, List.drop_left', hcode, List.drop_length_add_append,
        List.drop_succ_cons, List.drop_zero, hread, hdecode, Option.some.injEq, exists_eq_left',
        and_self]
  obtain ⟨t, ht, hreplies, hentered⟩ := hrest
  refine ⟨t, run_of_exec ?_ fun label hlabel _ => ?_, hreplies, hentered⟩
  · rw [exec_append, exec_append, hprobing, Option.bind_some, hgreeting, Option.bind_some, ht]
  · rcases List.mem_append.mp hlabel with hlabel | hlabel
    · exact reliable_handshake hdata _ label hlabel
    · simp only [exchange, List.mem_cons, List.not_mem_nil, or_false] at hlabel
      rcases hlabel with rfl | rfl | rfl | rfl | rfl <;> trivial

theorem codec_text : Codec decodeText encodeText := by
  refine ⟨fun _ => rfl, fun e he => ?_⟩
  refine bind_eq_ok.mpr ⟨_, readU32_le32 _ _, bind_eq_ok.mpr ⟨(asBytes e, []), ?_, ?_⟩⟩
  · have hread := readExact_append (asBytes e) []
    rwa [List.append_nil, ← UInt32.toNat_ofNat_of_lt' he] at hread
  · simp only [fromUtf8_asBytes]

theorem calls_resolve_failure : ∃ s : ServiceCalls, s.entered = [frame [1]] ∧
    s.link.replies = [(0, .error (.rpcFailure "no"))] ∧
    s.link.replies <+: answers (fun _ => .error "no") s.entered ∧ s.invoked <+: s.entered ∧
    s.link.replies.length ≤ s.invoked.length := by
  obtain ⟨link, hlink, hfresh, -, hclient, hprobe⟩ := addService_link
  obtain ⟨provider, hprovider, hserver, hresponse⟩ := addService_listener
  have hcompatible : addService.spec.validateCompatibility addService.spec = .ok () := rfl
  have hf : Framed fun _ => .error "no" := by
    refine ⟨(by simp), fun _ e he => ?_⟩
    cases he
    decide
  have hframe : IsFrame (frame (asBytes "no")) := ⟨_, by decide, rfl⟩
  obtain ⟨rest, hread, -⟩ := hframe.readTcprosFrame
  obtain ⟨s, hrun, hreplies, hentered⟩ := run_failure (fun _ => .error "no")
    (agreed_of_new hlink hprovider hcompatible hclient hprobe hserver hresponse)
    (frame [1]) ⟨[1], by decide, rfl⟩ rfl (codec_text.encode "no") hread
    (codec_text.decode "no" (by decide))
  rw [← hfresh] at hrun
  obtain ⟨hanswers, hinvoked, hle, -⟩ := calls_resolve hlink hprovider hcompatible hclient hprobe
    hserver hresponse codec_text hf hrun
  exact ⟨s, hentered, hreplies, hanswers, hinvoked, hle⟩

/-- The text of an error is too long for its own length prefix. -/
theorem long_text_lost : ∃ link provider text labels s,
    ClientLink.new addService "/client" true = .ok link ∧
    Listener.new addService "/server" = .ok provider ∧
    addService.spec.validateCompatibility addService.spec = .ok () ∧
    Run (step decodeText encodeText fun _ => .error text) (fun _ => Reliable)
      (start link provider) labels s ∧
    s.entered = [frame [1]] ∧ s.link.replies = [(0, .error (.rpcFailure ""))] ∧
    ¬ s.link.replies <+: answers (fun _ => .error text) s.entered := by
  obtain ⟨link, hlink, hfresh, -, hclient, hprobe⟩ := addService_link
  obtain ⟨provider, hprovider, hserver, hresponse⟩ := addService_listener
  have hcompatible : addService.spec.validateCompatibility addService.spec = .ok () := rfl
  obtain ⟨text, htext⟩ : ∃ text, (asBytes text).length = 2 ^ 32 := ⟨_, asBytes_replicate (2 ^ 32)⟩
  have hbody : [frame (asBytes text)].flatten = frame [] ++ asBytes text := by
    rw [List.flatten_singleton, frame, htext]
    rfl
  obtain ⟨rest, hread, -⟩ := readTcprosFrame_frame (by decide) hbody
  obtain ⟨s, hrun, hreplies, hentered⟩ := run_failure (fun _ => .error text)
    (agreed_of_new hlink hprovider hcompatible hclient hprobe hserver hresponse)
    (frame [1]) ⟨[1], by decide, rfl⟩ rfl (codec_text.encode text) hread
    (codec_text.decode "" (by decide))
  rw [← hfresh] at hrun
  refine ⟨link, provider, text, _, s, hlink, hprovider, hcompatible, hrun, hentered, hreplies, ?_⟩
  rw [hreplies, hentered]
  intro hprefix
  have hlength : (asBytes "").length = 2 ^ 32 := by
    have heq := hprefix.eq_of_length rfl
    simp only [answers, List.mapIdx_cons, List.mapIdx_nil, outcome, List.cons.injEq, Prod.mk.injEq,
      Except.error.injEq, ClientLinkError.rpcFailure.injEq, true_and, and_true] at heq
    rw [heq, htext]
  exact absurd hlength (by decide)

end RosrustAsync.ServiceCalls
