import RosrustAsync.ExchangeInvariant
import RosrustAsync.ServiceAgreement

namespace RosrustAsync.ClientExchanges

open Runs (Run run_cons_iff run_nil_iff)

variable {decodeString : Bytes → Except IoError String} {s : ClientExchanges}

/-- No call uses a connection on which an exchange has broken, and what is read for an `Ok` reply
has been sent in answer to its own call. -/
theorem exchanges_unbroken {service : Service} {callerId : String} {persistent : Bool}
    {link : ClientLink} (hlink : ClientLink.new service callerId persistent = .ok link)
    {labels : List Label} (hrun : Run (step decodeString) Clean (start link) labels s) :
    (∀ call i, s.link.exchange = some (call, i) → s.broken i = false) ∧
      s.origins.length = s.link.replies.length ∧
      ∀ (n call : ℕ) frame, s.link.replies[n]? = some (call, .ok frame) →
        s.origins[n]? = some (answerTo call frame) := by
  have hstart : (start link).Invariant := by
    simp only [ClientLink.new, toBytes_eq] at hlink
    cases hlink
    refine ⟨fun i stream hs => ?_, fun _ _ => ⟨rfl, rfl⟩, fun i hi => ?_,
      fun connection hc => ?_, rfl, rfl, fun n call frame hn => ?_⟩
    · cases hs
    · cases hi
    · cases hc
    · cases hn
  have h := hrun.invariant (fun _ _ _ h hok he => step_invariant h hok he) hstart
  exact ⟨fun call i hi => (h.used i (ClientLink.connection_of_exchange hi)).2, h.origins, h.answered⟩

/-! The connections of a first call. -/

def probing (provider : Listener) (data : Bytes) (address : SocketAddr) : List Label :=
  [.client (.call data), .client .recv, .client (.resolve (.ok "") (.ok ()) (.ok [address])),
    .client (.connect (.ok ())), .client .write, .serverWrite 0 none provider.probeHeaderBytes,
    .client .read]

def greeting (provider : Listener) : List Label :=
  [.client (.connect (.ok ())), .client .write, .serverWrite 1 none provider.serverHeaderBytes,
    .client .read, .client .write]

/-- The server has answered the probe. -/
def probed (args : ClientArgs) (msg : RpcMsg) (address : SocketAddr) (probe : TcpStream)
    (sent : List (UInt8 × Option ℕ)) : ClientExchanges :=
  ⟨⟨args, none, .connect msg address, [], [probe], 1, []⟩, fun _ => [],
    Function.update (fun _ => []) 0 sent, [], [], fun _ => false⟩

/-- The first request has been written. -/
def opened (args : ClientArgs) (provider : Listener) (msg : RpcMsg) (connection : ConnectionState)
    (probe : TcpStream) (sent : ℕ → List (UInt8 × Option ℕ)) : ClientExchanges :=
  ⟨⟨args, none, .status msg connection, [], [probe, ⟨args.clientHeaderBytes ++ msg.data,
      provider.serverHeaderBytes, provider.serverHeaderBytes.length, true, true⟩], 1, []⟩,
    Function.update (fun _ => []) 1 [msg.replyTx], sent, [], [], fun _ => false⟩

theorem run_probing {args : ClientArgs} {provider : Listener} (ha : Agreed args provider)
    (data : Bytes) (address : SocketAddr) : ∃ probe sent,
    Run (step decodeString) Clean (start ⟨args, none, .select, [], [], 0, []⟩)
      (probing provider data address) (probed args ⟨data, 0⟩ address probe sent) := by
  obtain ⟨rest, hread, -⟩ := ha.probeResponse.readTcprosFrame
  have haddress : ClientLink.resolveAddress (.ok "") (.ok ()) (.ok [address]) = .ok address := rfl
  refine ⟨⟨args.probeHeaderBytes, provider.probeHeaderBytes, provider.probeHeaderBytes.length,
    false, true⟩, provider.probeHeaderBytes.map fun b => (b, none), ?_⟩
  simp only [start, probing, probed, run_cons_iff, Clean, step, ClientLink.step, List.nil_append,
    zero_add, record, List.length_nil, List.drop_zero, requestsAfter, ClientLink.requested,
    consumed, ClientLink.exchange, List.append_nil, Option.bind_eq_bind, Option.bind_some,
    Option.some.injEq, haddress, TcpStream.connected, TcpStream.unread, List.drop_eq_nil_iff,
    ClientLink.outgoing, ClientLink.wrote, ClientLink.modifyStream, ClientLink.close,
    List.getLast?_eq_none_iff, Option.mem_def, reduceCtorEq, IsEmpty.forall_iff, implies_true,
    and_true, ClientLink.incoming, TcpStream.readFrame, ClientLink.receivedFrame, run_nil_iff,
    exists_eq_right, true_and, exists_eq_left', List.modify_zero_cons, List.length_cons,
    Nat.lt_add_one, getElem?_pos, List.getElem_cons_zero, ↓reduceIte, hread, ha.probed, and_self]

theorem run_greeting {args : ClientArgs} {provider : Listener} (ha : Agreed args provider)
    (msg : RpcMsg) (address : SocketAddr) (probe : TcpStream) (sent : List (UInt8 × Option ℕ)) :
    ∃ serverHeader sent', Run (step decodeString) Clean (probed args msg address probe sent)
      (greeting provider) (opened args provider msg ⟨address, 1, serverHeader⟩ probe sent') ∧
      sent' 1 = provider.serverHeaderBytes.map fun b => (b, none) := by
  obtain ⟨serverHeader, hgreeted⟩ := ha.greeted
  obtain ⟨rest, hread, -⟩ := ha.serverHeader.readTcprosFrame
  refine ⟨serverHeader, Function.update (Function.update (fun _ => []) 0 sent) 1
    (provider.serverHeaderBytes.map fun b => (b, none)), ?_, Function.update_self ..⟩
  simp only [probed, greeting, opened, run_cons_iff, Clean, step, ClientLink.step,
    List.length_cons, List.length_nil, zero_add, TcpStream.connected, List.cons_append,
    List.nil_append, record, List.drop_zero, requestsAfter, ClientLink.requested, consumed,
    ClientLink.exchange, List.append_nil, Option.bind_eq_bind, Option.bind_some, Option.some.injEq,
    TcpStream.unread, List.drop_eq_nil_iff, ClientLink.outgoing, ClientLink.wrote,
    ClientLink.modifyStream, ClientLink.position, List.getLast?_eq_none_iff, Option.mem_def,
    reduceCtorEq, IsEmpty.forall_iff, implies_true, and_true, ClientLink.incoming,
    TcpStream.readFrame, ClientLink.receivedFrame, run_nil_iff, exists_eq_right, true_and,
    exists_eq_left', List.modify_succ_cons, List.modify_zero_cons, Nat.reduceAdd, Nat.lt_add_one,
    getElem?_pos, List.getElem_cons_succ, List.getElem_cons_zero, ne_eq, Nat.succ_ne_self,
    not_false_eq_true, Function.update_of_ne, ↓reduceIte, hread, hgreeted, ClientPc.request.injEq,
    and_imp, forall_apply_eq_imp_iff, forall_eq', Std.le_refl, Function.update_self, Nat.sub_self,
    List.take_zero, and_self]

variable (decodeString) in
theorem run_opening {args : ClientArgs} {provider : Listener} (ha : Agreed args provider)
    (data : Bytes) (address : SocketAddr) : ∃ probe serverHeader sent,
    Run (step decodeString) Clean (start ⟨args, none, .select, [], [], 0, []⟩)
      (probing provider data address ++ greeting provider)
      (opened args provider ⟨data, 0⟩ ⟨address, 1, serverHeader⟩ probe sent) ∧
      sent 1 = provider.serverHeaderBytes.map fun b => (b, none) := by
  obtain ⟨probe, sent, hprobing⟩ := run_probing ha data address
  obtain ⟨serverHeader, sent', hgreeting, hsent⟩ := run_greeting ha ⟨data, 0⟩ address probe sent
  exact ⟨probe, serverHeader, sent', hprobing.trans hgreeting, hsent⟩

/-- The first call has failed at the handler, and the request of the second has been written. -/
def retried (args : ClientArgs) (provider : Listener) (connection : ConnectionState)
    (probe : TcpStream) : ClientLink :=
  ⟨args, none, .status ⟨frame [2], 1⟩ connection, [], [probe,
      ⟨args.clientHeaderBytes ++ (frame [1] ++ frame [2]),
        provider.serverHeaderBytes ++ rpcFailure :: frame [],
        provider.serverHeaderBytes.length + 5, true, true⟩], 2, [(0, .error (.rpcFailure ""))]⟩

theorem run_refused {args : ClientArgs} (provider : Listener) (address : SocketAddr)
    (serverHeader : ServiceServerHeader) (hpersistent : args.persistent = true) (probe : TcpStream)
    (sent : ℕ → List (UInt8 × Option ℕ)) : ∃ t, Run (step decodeText) Clean
      (opened args provider ⟨frame [1], 0⟩ ⟨address, 1, serverHeader⟩ probe sent)
      [.serverWrite 1 (some 0) (rpcFailure :: frame []), .client .read, .client .read,
        .client (.call (frame [2])), .client .recv, .client .write] t ∧
      t.link = retried args provider ⟨address, 1, serverHeader⟩ probe ∧ t.requests 1 = [0, 1] := by
  have hframe : IsFrame (frame []) := ⟨[], by decide, rfl⟩
  obtain ⟨rest, hread, -⟩ := hframe.readTcprosFrame
  have hfailed : ClientLink.failureResult decodeText (.ok (frame [])) = .rpcFailure "" := rfl
  have hfailure : ¬ rpcFailure = rpcSuccess := by decide
  have hlength : (frame []).length = 4 := rfl
  have hnone : (frame []).drop 4 = [] := rfl
  simp only [opened, retried, run_cons_iff, Clean, Function.update_self, List.getLast?_singleton,
    step, List.length_cons, List.length_nil, zero_add, Nat.reduceAdd, Nat.lt_add_one, getElem?_pos,
    List.getElem_cons_succ, List.getElem_cons_zero, Option.mem_def, Option.some.injEq,
    List.mem_cons, List.not_mem_nil, or_false, forall_eq', and_true, ClientLink.modifyStream,
    List.modify_succ_cons, List.modify_zero_cons, List.map_cons, Option.bind_eq_bind,
    Option.bind_some, ↓reduceIte, ClientLink.step, ClientLink.incoming, TcpStream.readU8,
    TcpStream.unread, ClientLink.receivedStatus, ClientLink.endRpc, ClientLink.reply,
    TcpStream.readFrame, ClientLink.receivedFrame, record, requestsAfter, ClientLink.requested,
    consumed, ClientLink.exchange, ClientLink.position, ClientLink.outgoing, ClientLink.wrote,
    brokenBy, breaks, ClientPc.request.injEq, and_imp, forall_apply_eq_imp_iff, run_nil_iff,
    exists_eq_right, true_and, exists_eq_left', Bool.false_eq_true, List.nil_append,
    List.cons_append, List.append_assoc, List.drop_left', List.drop_zero,
    List.drop_length_add_append, List.drop_succ_cons, Nat.add_assoc, hpersistent, hread, hfailed,
    hfailure, hlength, hnone]

theorem run_retried {args : ClientArgs} {provider : Listener} {address : SocketAddr}
    {serverHeader : ServiceServerHeader} {probe : TcpStream} (hpersistent : args.persistent = true)
    (hlink : s.link = retried args provider ⟨address, 1, serverHeader⟩ probe)
    (hrequests : s.requests 1 = [0, 1]) : ∃ t, Run (step decodeText) Clean s
      [.serverWrite 1 (some 1) (rpcSuccess :: frame [9]), .client .read, .client .read] t ∧
      t.link.pc = .select ∧ t.link.calls = 2 ∧ t.link.streams.length = 2 ∧
      t.link.replies = [(0, .error (.rpcFailure "")), (1, .ok (frame [9]))] := by
  have hframe : IsFrame (frame [9]) := ⟨[9], by decide, rfl⟩
  obtain ⟨rest, hread, -⟩ := hframe.readTcprosFrame
  have hfour : ∀ l, (frame [] ++ l).drop 4 = l := fun _ => rfl
  have hfive : ∀ b l, (frame [] ++ b :: l).drop 5 = l := fun _ _ => rfl
  have hlast : [0, 1].getLast? = some 1 := rfl
  simp only [retried] at hlink
  simp only [run_cons_iff, Clean, step, hlink, hrequests, hlast, List.length_cons, List.length_nil,
    zero_add, Nat.reduceAdd, Nat.lt_add_one, getElem?_pos, List.getElem_cons_succ,
    List.getElem_cons_zero, Option.mem_def, Option.some.injEq, List.mem_cons, List.not_mem_nil,
    or_false, or_true, forall_eq', and_true, ClientLink.modifyStream, List.modify_succ_cons,
    List.modify_zero_cons, List.map_cons, Option.bind_eq_bind, Option.bind_some, ↓reduceIte,
    ClientLink.step, ClientLink.incoming, TcpStream.readU8, TcpStream.unread,
    ClientLink.receivedStatus, ClientLink.endRpc, ClientLink.reply, TcpStream.readFrame,
    ClientLink.receivedFrame, Except.mapError, record, requestsAfter, ClientLink.requested,
    consumed, ClientLink.exchange, ClientLink.position, run_nil_iff, exists_eq_right, true_and,
    exists_eq_left', List.nil_append, List.cons_append, List.append_assoc, List.drop_zero,
    List.drop_length_add_append, List.drop_succ_cons, Nat.add_assoc, hpersistent, hread, hfour,
    hfive]

theorem addService_retried : ∃ link labels t, ClientLink.new addService "/client" true = .ok link ∧
    Run (step decodeText) Clean (start link) labels t ∧
    t.link.pc = .select ∧ t.link.calls = 2 ∧ t.link.streams.length = 2 ∧
    t.link.replies = [(0, .error (.rpcFailure "")), (1, .ok (frame [9]))] := by
  obtain ⟨link, hlink, hfresh, hpersistent, hclient, hprobe⟩ := addService_link
  obtain ⟨provider, hprovider, hserver, hresponse⟩ := addService_listener
  have ha := agreed_of_new hlink hprovider rfl hclient hprobe hserver hresponse
  obtain ⟨probe, serverHeader, sent, hrun, -⟩ :=
    run_opening decodeText ha (frame [1]) ⟨.v4 0, 0⟩
  obtain ⟨q, hrefused, hlink', hrequests⟩ :=
    run_refused provider ⟨.v4 0, 0⟩ serverHeader hpersistent probe sent
  obtain ⟨t, hretried, hresult⟩ := run_retried hpersistent hlink' hrequests
  have hrun' := (hrun.trans hrefused).trans hretried
  rw [← hfresh] at hrun'
  exact ⟨link, _, t, hlink, hrun', hresult⟩

theorem exchanges_unbroken_answered : ∃ t : ClientExchanges,
    t.link.replies = [(0, .error (.rpcFailure "")), (1, .ok (frame [9]))] ∧
    (∀ call i, t.link.exchange = some (call, i) → t.broken i = false) ∧
    t.origins[1]? = some (answerTo 1 (frame [9])) := by
  obtain ⟨link, labels, t, hlink, hrun, -, -, -, hreplies⟩ := addService_retried
  obtain ⟨hunbroken, -, horigins⟩ := exchanges_unbroken hlink hrun
  exact ⟨t, hreplies, hunbroken, horigins 1 1 (frame [9]) (by rw [hreplies]; rfl)⟩

/-- The second request has been written, behind an invalid status. -/
def leftover (args : ClientArgs) (provider : Listener) (connection : ConnectionState)
    (probe : TcpStream) (sent : ℕ → List (UInt8 × Option ℕ)) : ClientExchanges :=
  ⟨⟨args, none, .status ⟨frame [2], 1⟩ connection, [], [probe,
      ⟨args.clientHeaderBytes ++ (frame [1] ++ frame [2]),
        provider.serverHeaderBytes ++ 7 :: rpcSuccess :: frame [9],
        provider.serverHeaderBytes.length + 1, true, true⟩], 2,
      [(0, .error (.invalidStatusCode 7))]⟩,
    Function.update (Function.update (fun _ => []) 1 [0]) 1 [0, 1],
    Function.update sent 1 (sent 1 ++ (7 :: rpcSuccess :: frame [9]).map fun b => (b, some 0)),
    [], [[(7, some 0)]], Function.update (fun _ => false) 1 true⟩

/-- After an invalid status, the next call is given what follows it as its reply. -/
theorem leftover_taken_for_reply : ∃ link labels s labels' t,
    ClientLink.new addService "/client" true = .ok link ∧
    Run (step decodeText) (fun _ _ => True) (start link) labels s ∧
    (∃ i, s.link.replies = [(0, .error (.invalidStatusCode 7))] ∧ s.link.exchange = some (1, i) ∧
      s.broken i = true) ∧
    Run (step decodeText) (fun _ _ => True) s labels' t ∧
    t.link.replies[1]? = some (1, .ok (frame [9])) ∧
    t.origins[1]? = some (answerTo 0 (frame [9])) ∧
    answerTo 0 (frame [9]) ≠ answerTo 1 (frame [9]) := by
  obtain ⟨link, hlink, hfresh, hpersistent, hclient, hprobe⟩ := addService_link
  obtain ⟨provider, hprovider, hserver, hresponse⟩ := addService_listener
  have ha := agreed_of_new hlink hprovider rfl hclient hprobe hserver hresponse
  obtain ⟨probe, serverHeader, sent, hrun, hsent⟩ :=
    run_opening decodeText ha (frame [1]) ⟨.v4 0, 0⟩
  have hframe : IsFrame (frame [9]) := ⟨[9], by decide, rfl⟩
  obtain ⟨rest, hread, -⟩ := hframe.readTcprosFrame
  have hbroken : Run (step decodeText) (fun _ _ => True)
      (opened link.args provider ⟨frame [1], 0⟩ ⟨⟨.v4 0, 0⟩, 1, serverHeader⟩ probe sent)
      [.serverWrite 1 (some 0) (7 :: rpcSuccess :: frame [9]), .client .read,
        .client (.call (frame [2])), .client .recv, .client .write]
      (leftover link.args provider ⟨⟨.v4 0, 0⟩, 1, serverHeader⟩ probe sent) := by
    have hsuccess : ¬ (7 : UInt8) = rpcSuccess := by decide
    have hfailure : ¬ (7 : UInt8) = rpcFailure := by decide
    simp only [opened, leftover, Function.update_idem, hsent, List.map_cons, run_cons_iff, step,
      List.length_cons, List.length_nil, zero_add, Nat.reduceAdd, Nat.lt_add_one, getElem?_pos,
      List.getElem_cons_succ, List.getElem_cons_zero, Option.mem_def, Option.some.injEq,
      Function.update_self, List.mem_cons, List.not_mem_nil, or_false, forall_eq', and_true,
      ClientLink.modifyStream, List.modify_succ_cons, List.modify_zero_cons, Option.bind_eq_bind,
      Option.bind_some, ↓reduceIte, ClientLink.step, ClientLink.incoming, TcpStream.readU8,
      TcpStream.unread, ClientLink.receivedStatus, ClientLink.endRpc, ClientLink.reply, record,
      requestsAfter, ClientLink.requested, consumed, ClientLink.exchange, ClientLink.position,
      brokenBy, breaks, ClientLink.outgoing, ClientLink.wrote, run_nil_iff, exists_eq_right,
      true_and, exists_eq_left', hpersistent, List.nil_append, List.drop_left', hsuccess, hfailure,
      List.drop_zero, List.length_map, Nat.add_sub_cancel_left, List.take_succ_cons,
      List.take_zero, List.drop_one, List.append_nil, List.cons_append, List.tail_cons,
      List.append_assoc, ite_self, Nat.sub_self, and_self]
  have htaken : ∃ t, Run (step decodeText) (fun _ _ => True)
      (leftover link.args provider ⟨⟨.v4 0, 0⟩, 1, serverHeader⟩ probe sent)
      [.client .read, .client .read] t ∧ t.link.replies[1]? = some (1, .ok (frame [9])) ∧
      t.origins[1]? = some (answerTo 0 (frame [9])) := by
    have hone : ∀ {α : Type} {l l' : List α} {a : α} {n : ℕ}, l.length = n →
        (l ++ a :: l').drop (n + 1) = l' := by
      rintro α l l' a n rfl
      rw [List.drop_length_add_append]
      rfl
    have htwo : ∀ {α : Type} {l l' : List α} {a b : α} {n : ℕ}, l.length = n →
        (l ++ a :: b :: l').drop (n + 1 + 1) = l' := by
      rintro α l l' a b n rfl
      rw [Nat.add_assoc, List.drop_length_add_append]
      rfl
    simp only [leftover, Function.update_idem, hsent, List.map_cons, run_cons_iff, step,
      ClientLink.step, ClientLink.incoming, TcpStream.readU8, TcpStream.unread,
      ClientLink.receivedStatus, ClientLink.modifyStream, ClientLink.endRpc, hpersistent,
      ↓reduceIte, ClientLink.reply, List.cons_append, List.nil_append, Option.bind_eq_bind,
      Option.bind_some, List.length_cons, List.length_nil, zero_add, Nat.reduceAdd, Nat.lt_add_one,
      getElem?_pos, List.getElem_cons_succ, List.getElem_cons_zero, List.modify_succ_cons,
      List.modify_zero_cons, hone, record, List.drop_one, requestsAfter, ClientLink.requested,
      consumed, ClientLink.exchange, ClientLink.position, Function.update_self, List.length_map,
      List.tail_cons, Nat.add_sub_cancel_left, List.take_succ_cons, List.take_zero,
      Option.some.injEq, TcpStream.readFrame, ClientLink.receivedFrame, Except.mapError,
      run_nil_iff, exists_eq_right, true_and, exists_eq_left', htwo, hread, answerTo,
      List.cons.injEq]
    exact List.take_of_length_le (List.length_map _).le
  obtain ⟨t, hrest, hreply, horigin⟩ := htaken
  have hrun' := (hrun.mono fun _ _ _ => trivial).trans hbroken
  rw [← hfresh] at hrun'
  exact ⟨link, _, _, _, t, hlink, hrun', ⟨1, rfl, rfl, rfl⟩, hrest, hreply, horigin, by decide⟩

end RosrustAsync.ClientExchanges
