import RosrustAsync.ServiceCallsInvariant

namespace RosrustAsync

/-- The texts of errors as `String` encodes them, a length and UTF-8 bytes. -/
structure Codec (decodeString : Bytes → Except IoError String)
    (encodeString : String → Except IoError Bytes) : Prop where
  encode : ∀ e, encodeString e = .ok (frame (asBytes e))
  decode : ∀ e, (asBytes e).length < 2 ^ 32 → decodeString (frame (asBytes e)) = .ok e

structure Framed (callback : Bytes → Except String Bytes) : Prop where
  response : ∀ data response, callback data = .ok response → IsFrame response
  text : ∀ data e, callback data = .error e → (asBytes e).length < 2 ^ 32

namespace ServiceCalls

variable {decodeString : Bytes → Except IoError String}
  {encodeString : String → Except IoError Bytes} {callback : Bytes → Except String Bytes}
  {s t : ServiceCalls} {called : Bool}

theorem bodyBytes_eq (h : Codec decodeString encodeString) (result : Except String Bytes) :
    bodyBytes encodeString result = .ok (replyBody result) := by
  cases result with
  | ok response => rfl
  | error e => exact h.encode e

theorem Invariant.handling_task (h : Invariant callback s called) {i : ℕ} {pc : ServerPc}
    (hold : ¬ Handled (s.servers i)) (hnew : ¬ Handled pc) (j : ℕ) :
    s.handling = some j ↔ if j = i then Handled pc else s.handling = some j := by
  by_cases hj : j = i
  · subst hj
    rw [if_pos rfl]
    exact iff_of_false (mt (h.handling j).mp hold) hnew
  · rw [if_neg hj]

theorem handling_end {i : ℕ} {pc : ServerPc} (hold : s.handling = some i) (hnew : ¬ Handled pc)
    (j : ℕ) :
    none = some j ↔ if j = i then Handled pc else s.handling = some j := by
  refine iff_of_false (Option.some_ne_none j).symm ?_
  by_cases hj : j = i
  · rwa [if_pos hj]
  · rw [if_neg hj, hold]
    exact fun h => hj (Option.some.inj h).symm

theorem handling_on {i : ℕ} {pc : ServerPc} (hold : s.handling = some i) (hnew : Handled pc) (j : ℕ) :
    s.handling = some j ↔ if j = i then Handled pc else s.handling = some j := by
  by_cases hj : j = i
  · rw [if_pos hj, hj]
    exact iff_of_true hold hnew
  · rw [if_neg hj]

theorem accept_step (h : Invariant callback s called)
    (he : s.step decodeString encodeString callback .accept = some t) :
    Invariant callback t called ∧ t.measure < s.measure := by
  simp only [step] at he
  split at he
  · rename_i hc
    obtain ⟨hfree, hlt⟩ := hc
    cases he
    have hpc : s.servers s.accepted = .backlog := (h.backlog _).mpr le_rfl
    obtain ⟨v, hview⟩ : ∃ v, s.link.view = some (s.accepted, v) := by
      by_contra hno
      have hclosed := h.others s.accepted hlt (not_exists.mp hno)
      rw [hpc] at hclosed
      cases hclosed
    obtain ⟨stream, hstream, hopen, hserver, hread, hjoint⟩ := h.current.joint hview
    rw [hpc] at hjoint
    have hset : s.link.streams.set s.accepted stream = s.link.streams := by
      obtain ⟨hi, rfl⟩ := List.getElem?_eq_some_iff.mp hstream
      exact List.set_getElem_self hi
    refine ⟨⟨⟨h.accounts.calls, h.accounts.waiting, h.accounts.replies, h.accounts.frames⟩, ?_,
      h.invoked, h.running, h.kept, fun j => ?_, hlt, fun j => ?_, fun j hj hother => ?_⟩, ?_⟩
    · have hview' : (s.setServer s.accepted .header).link.view = some (s.accepted, v) := hview
      simp only [Current, hview']
      refine ⟨stream, hstream, hopen, fun _ => hserver (by rw [hpc]; simp), hread, ?_⟩
      simp only [setServer, Function.update_self]
      exact hjoint.accept
    · show Function.update s.servers s.accepted .header j = .backlog ↔ s.accepted + 1 ≤ j
      by_cases hj : j = s.accepted
      · rw [hj, Function.update_self]
        exact iff_of_false (by simp) (by omega)
      · rw [Function.update_of_ne hj, h.backlog j]
        omega
    · show some s.accepted = some j ↔ Handled (Function.update s.servers s.accepted .header j)
      by_cases hj : j = s.accepted
      · rw [hj, Function.update_self]
        exact iff_of_true rfl trivial
      · rw [Function.update_of_ne hj, ← h.handling j, hfree]
        exact iff_of_false (fun heq => hj (Option.some.inj heq).symm) (by simp)
    · have hne : j ≠ s.accepted := by
        rintro rfl
        exact hother v hview
      show Function.update s.servers s.accepted .header j = .closed
      rw [Function.update_of_ne hne]
      exact h.others j hj hother
    · have hrank : ServerPc.header.rank stream.toServer <
          (s.servers s.accepted).rank stream.toServer := by
        rw [hpc]
        exact Nat.lt_succ_self 4
      refine measure_serve hview hstream hrank ?_ rfl
      rw [hset]
      rfl
  · cases he

theorem serverOpen_write {serverOpen : Bool} {pc : ServerPc} (h : serverOpen = true)
    (hpc : pc ≠ .closed) : (serverOpen && !pc.isClosed) = true := by
  cases pc <;> simp_all [ServerPc.isClosed]

theorem headerRead_step (h : Invariant callback s called) (ha : Agreed s.link.args s.provider)
    (he : s.step decodeString encodeString callback .headerRead = some t) :
    Invariant callback t called ∧ t.measure < s.measure := by
  obtain ⟨i, hi, he⟩ := Option.bind_eq_some_iff.mp he
  split at he
  · rename_i hpc
    obtain ⟨v, stream, hview, hstream, hopen, hserver, hread, hjoint⟩ :=
      h.handled (i := i) (by rw [hpc]; simp) (by rw [hpc]; simp)
    rw [hpc] at hjoint
    obtain ⟨s', hs', he⟩ := Option.bind_eq_some_iff.mp he
    -- what the server makes of the frame that is there
    have hhandle : ∀ next, IsFrame stream.toServer →
        s.provider.handleHeader stream.toServer = next → next.isClosed = false → Handled next →
        next.rank [] = 3 →
        Joint s.link.args s.provider callback v [] [] next called →
        Invariant callback t called ∧ t.measure < s.measure := by
      intro next hframe hnext hclosed hhandled hrank hnew
      rw [serverRead_eq hstream hframe, hnext] at hs'
      cases hs'
      simp only [Function.update_self, hclosed, Bool.false_eq_true, if_false] at he
      cases he
      have hunread : stream.unread = [] := hjoint.header.1
      refine ⟨h.serve hview hstream (by rw [hpc]; simp) ?_ hopen ?_ ?_ ?_ h.invoked
        (handling_on hi hhandled), measure_serve hview hstream ?_ rfl rfl⟩
      · rintro rfl
        exact hhandled
      · exact fun _ => by simpa using hserver
      · simpa using hread
      · rw [TcpStream.unread_write hread, hunread]
        exact hnew
      · rw [hpc, hrank]
        exact Nat.lt_succ_self 3
    obtain ⟨-, rfl, hup⟩ := hjoint.header
    rcases hup with hup | ⟨rfl, hup⟩ | ⟨rfl, hup⟩
    · rw [serverRead_nil hstream hup hopen] at hs'
      cases hs'
    · exact hhandle .probe (hup ▸ ha.probeRequest) (by rw [hup, ha.probe]) rfl trivial rfl
        .probeSeen
    · obtain ⟨client, hgreet, hpersistent⟩ := ha.greet
      exact hhandle (.greet client) (hup ▸ ha.clientHeader) (by rw [hup, hgreet]) rfl trivial
        rfl (.headerSeen hpersistent)
  · cases he

theorem headerWrite_step (h : Invariant callback s called)
    (he : s.step decodeString encodeString callback .headerWrite = some t) :
    Invariant callback t called ∧ t.measure < s.measure := by
  obtain ⟨i, hi, he⟩ := Option.bind_eq_some_iff.mp he
  have hhandled := (h.handling i).mp hi
  obtain ⟨v, stream, hview, hstream, hopen, hserver, hread, hjoint⟩ := h.handled (i := i)
    (fun hpc => by rw [hpc] at hhandled; exact hhandled)
    (fun hpc => by rw [hpc] at hhandled; exact hhandled)
  split at he
  · rename_i hpc
    rw [serverWrite_eq hstream] at he
    cases he
    rw [hpc] at hjoint
    obtain ⟨rfl, hup, hdown, rfl⟩ := hjoint.probe
    refine ⟨h.serve hview hstream (by rw [hpc]; simp) (by simp) hopen (fun hne => absurd rfl hne)
      ?_ ?_ h.invoked (handling_end hi id), measure_serve hview hstream ?_ rfl rfl⟩
    · exact hread.trans (by simp)
    · rw [TcpStream.unread_write hread, hdown, hup]
      exact .probeDone
    · rw [hpc]
      exact Nat.succ_pos 2
  · rename_i client hpc
    rw [serverWrite_eq hstream] at he
    cases he
    rw [hpc] at hjoint
    obtain ⟨rfl, hup, hdown, rfl, hclient⟩ := hjoint.greet
    refine ⟨h.serve hview hstream (by rw [hpc]; simp) (by simp) hopen (serverOpen_write hserver)
      ?_ ?_ h.invoked (handling_end hi id), measure_serve hview hstream ?_ rfl rfl⟩
    · exact hread.trans (by simp)
    · rw [TcpStream.unread_write hread, hdown, hup, hclient]
      exact .headerDone
    · rw [hpc]
      simp [ServerPc.rank, hup]
  · cases he

theorem Accounts.next {link : ClientLink} {entered : List Bytes}
    (h : Accounts callback link entered) {msg : RpcMsg} (hmsg : link.pc.msg = some msg) :
    entered[link.replies.length]? = some msg.data ∧ msg.replyTx = link.replies.length := by
  have hwaiting := h.waiting
  rw [hmsg, Option.toList_some, List.singleton_append] at hwaiting
  have hhead : (tickets entered)[link.replies.length]? = some msg := by
    rw [← List.head?_drop, hwaiting, List.head?_cons]
  rw [tickets, List.getElem?_mapIdx] at hhead
  obtain ⟨data, hdata, rfl⟩ := Option.map_eq_some_iff.mp hhead
  exact ⟨hdata, rfl⟩

theorem Accounts.isFrame {link : ClientLink} {entered : List Bytes}
    (h : Accounts callback link entered) {msg : RpcMsg} (hmsg : link.pc.msg = some msg) :
    IsFrame msg.data :=
  h.frames _ (List.mem_of_getElem? (h.next hmsg).1)

theorem view_status {link : ClientLink} {i : ℕ} {data : Bytes}
    (h : link.view = some (i, .status data)) : ∃ msg, link.pc.msg = some msg ∧ msg.data = data := by
  cases hpc : link.pc with
  | status msg connection =>
    simp only [ClientLink.view, hpc] at h
    cases h
    exact ⟨msg, rfl, rfl⟩
  | select =>
    simp only [ClientLink.view, hpc] at h
    obtain ⟨connection, -, heq⟩ := Option.map_eq_some_iff.mp h
    cases heq
  | _ => simp [ClientLink.view, hpc] at h

theorem Invariant.status (h : Invariant callback s called) {i : ℕ} {data : Bytes}
    (hview : s.link.view = some (i, .status data)) :
    s.entered[s.link.replies.length]? = some data ∧ IsFrame data := by
  obtain ⟨msg, hmsg, rfl⟩ := view_status hview
  exact ⟨(h.accounts.next hmsg).1, h.accounts.isFrame hmsg⟩

theorem taskRead_step (h : Invariant callback s called) (i : ℕ)
    (he : s.step decodeString encodeString callback (.taskRead i) = some t) :
    Invariant callback t called ∧ t.measure < s.measure := by
  simp only [step] at he
  split at he
  · rename_i persistent hpc
    obtain ⟨v, stream, hview, hstream, hopen, hserver, hread, hjoint⟩ :=
      h.handled (i := i) (by rw [hpc]; simp) (by rw [hpc]; simp)
    rw [hpc] at hjoint
    rcases hjoint.read with hup | ⟨hv, hdown, rfl, rfl⟩
    · rw [serverRead_nil hstream hup hopen] at he
      cases he
    · rw [hv] at hview
      have hframe := (h.status hview).2
      rw [serverRead_eq hstream hframe] at he
      cases he
      refine ⟨h.serve hview hstream (by rw [hpc]; simp) (by simp) hopen
        (serverOpen_write hserver) ?_ ?_ h.invoked
        (h.handling_task (by rw [hpc]; exact id) id), measure_serve hview hstream ?_ rfl rfl⟩
      · simpa using hread
      · rw [TcpStream.unread_write hread, hdown]
        exact .calling _
      · rw [hpc]
        simp [ServerPc.rank, hframe.ne_nil]
  · cases he

theorem taskCallback_step (h : Invariant callback s called) (i : ℕ)
    (he : s.step decodeString encodeString callback (.taskCallback i) = some t) :
    Invariant callback t true ∧ t.measure < s.measure := by
  simp only [step] at he
  split at he
  · rename_i persistent data hpc
    cases he
    obtain ⟨v, stream, hview, hstream, hopen, hserver, hread, hjoint⟩ :=
      h.handled (i := i) (by rw [hpc]; simp) (by rw [hpc]; simp)
    rw [hpc] at hjoint
    obtain ⟨rfl, hup, hdown, rfl, rfl⟩ := hjoint.calls
    have hset : s.link.streams.set i stream = s.link.streams := by
      obtain ⟨hi, rfl⟩ := List.getElem?_eq_some_iff.mp hstream
      exact List.set_getElem_self hi
    have hlink : s.link = { s.link with streams := s.link.streams.set i stream } := by rw [hset]
    have hinvoked : s.invoked ++ [data] =
        s.entered.take (s.link.replies.length + true.toNat) := by
      rw [h.invoked, Bool.toNat_true, List.take_add_one, (h.status hview).1]
      rfl
    refine ⟨?_, measure_serve hview hstream ?_ hlink rfl⟩
    · have hnew := h.serve hview hstream (by rw [hpc]; simp)
        (show ServerPc.status s.link.args.persistent (callback data) ≠ .backlog from (by simp)) hopen
        (fun _ => hserver) hread (by rw [hdown, hup]; exact .called data) hinvoked
        (h.handling_task (by rw [hpc]; exact id) id)
      rwa [← hlink] at hnew
    · rw [hpc]
      exact Nat.lt_succ_self 2
  · cases he

theorem taskStatus_step (h : Invariant callback s called) (i : ℕ)
    (he : s.step decodeString encodeString callback (.taskStatus i) = some t) :
    Invariant callback t called ∧ t.measure < s.measure := by
  simp only [step] at he
  split at he
  · rename_i persistent result hpc
    obtain ⟨v, stream, hview, hstream, hopen, hserver, hread, hjoint⟩ :=
      h.handled (i := i) (by rw [hpc]; simp) (by rw [hpc]; simp)
    rw [hpc] at hjoint
    obtain ⟨data, rfl, hup, hdown, rfl, rfl, rfl⟩ := hjoint.status
    rw [serverWrite_eq hstream] at he
    cases he
    refine ⟨h.serve hview hstream (by rw [hpc]; simp) (by simp) hopen (serverOpen_write hserver)
      ?_ ?_ h.invoked (h.handling_task (by rw [hpc]; exact id) id),
      measure_serve hview hstream ?_ rfl rfl⟩
    · exact hread.trans (by simp)
    · rw [TcpStream.unread_write hread, hdown, hup]
      exact .statusSent data
    · rw [hpc]
      exact Nat.lt_succ_self 1
  · cases he

theorem taskBody_step (h : Invariant callback s called) (hc : Codec decodeString encodeString)
    (i : ℕ) (he : s.step decodeString encodeString callback (.taskBody i) = some t) :
    Invariant callback t called ∧ t.measure < s.measure := by
  simp only [step] at he
  split at he
  · rename_i persistent result hpc
    obtain ⟨v, stream, hview, hstream, hopen, hserver, hread, hjoint⟩ :=
      h.handled (i := i) (by rw [hpc]; simp) (by rw [hpc]; simp)
    rw [hpc] at hjoint
    obtain ⟨hup, rfl, rfl, -, hbody⟩ := hjoint.body
    simp only [bodyBytes_eq hc] at he
    cases he
    rw [serverWrite_eq hstream]
    have hafter := afterBody s.link.args.persistent
    generalize (if s.link.args.persistent then ServerPc.read s.link.args.persistent else .closed) = pc
      at hafter
    refine ⟨h.serve hview hstream (by rw [hpc]; simp) ?_ hopen (serverOpen_write hserver)
      ?_ ?_ h.invoked (h.handling_task (by rw [hpc]; exact id) ?_),
      measure_serve hview hstream ?_ rfl rfl⟩
    · rintro rfl
      cases hafter
    · exact hread.trans (by simp)
    · rw [TcpStream.unread_write hread]
      exact hbody pc hafter
    · cases hafter <;> exact id
    · rw [hpc]
      cases hafter <;> simp [ServerPc.rank, hup]
  · cases he

theorem server_step (h : Invariant callback s called) (ha : Agreed s.link.args s.provider)
    (hc : Codec decodeString encodeString) {label : Label} (hserver : ∀ l, label ≠ .client l)
    (he : s.step decodeString encodeString callback label = some t) :
    ∃ called', Invariant callback t called' ∧ t.measure < s.measure := by
  cases label with
  | client l => exact absurd rfl (hserver l)
  | accept => exact ⟨called, accept_step h he⟩
  | headerRead => exact ⟨called, headerRead_step h ha he⟩
  | headerWrite => exact ⟨called, headerWrite_step h he⟩
  | taskRead i => exact ⟨called, taskRead_step h i he⟩
  | taskCallback i => exact ⟨true, taskCallback_step h i he⟩
  | taskStatus i => exact ⟨called, taskStatus_step h i he⟩
  | taskBody i => exact ⟨called, taskBody_step h hc i he⟩

end ServiceCalls

end RosrustAsync
