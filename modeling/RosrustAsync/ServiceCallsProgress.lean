import RosrustAsync.ServiceCallsResolve

namespace RosrustAsync.ServiceCalls

/-! While a call is unanswered, one of the two ends has something to do. -/

variable {decodeString : Bytes → Except IoError String}
  {encodeString : String → Except IoError Bytes} {callback : Bytes → Except String Bytes}
  {s : ServiceCalls} {called : Bool}

/-- One of the two ends, or what they wait for, can take a step. -/
def Enabled (decodeString : Bytes → Except IoError String)
    (encodeString : String → Except IoError Bytes) (callback : Bytes → Except String Bytes)
    (s : ServiceCalls) : Prop :=
  ∃ label t, internal label = true ∧ Reliable label ∧
    s.step decodeString encodeString callback label = some t

theorem enabled_of_isSome (label : Label) (hinternal : internal label = true) (hok : Reliable label)
    (h : (s.step decodeString encodeString callback label).isSome) :
    Enabled decodeString encodeString callback s := by
  obtain ⟨t, ht⟩ := Option.isSome_iff_exists.mp h
  exact ⟨label, t, hinternal, hok, ht⟩

theorem enabled_of_client {l : ClientLink.Label} (hinternal : internal (.client l) = true)
    (hok : Reliable (.client l)) (he : (s.link.step decodeString l).isSome) :
    Enabled decodeString encodeString callback s := by
  obtain ⟨link, he⟩ := Option.isSome_iff_exists.mp he
  refine enabled_of_isSome (.client l) hinternal hok ?_
  simp only [step, he, Option.bind_eq_bind, Option.bind_some, Option.isSome_some]

section Joint

variable {args : ClientArgs} {provider : Listener} {v : ClientView} {up down : Bytes} {pc : ServerPc}

def Reads : ClientView → Prop
  | .probeWrite | .headerWrite | .ready => False
  | _ => True

theorem Joint.waits (h : Joint args provider callback v up down pc called) (hdown : down = [])
    (hv : Reads v) (hf : Framed callback) (ha : Agreed args provider) : pc ≠ .closed ∧
      (Awaiting pc → IsFrame up) ∧ ∀ persistent, pc = .read persistent → v = .status up := by
  cases h with
  | probeOpen | headerOpen | ready => exact hv.elim
  | probeSent hpc =>
    refine ⟨hpc.ne_closed, fun _ => ha.probeRequest, ?_⟩
    rintro persistent rfl
    cases hpc
  | headerSent hpc =>
    refine ⟨hpc.ne_closed, fun _ => ha.clientHeader, ?_⟩
    rintro persistent rfl
    cases hpc
  | asked data => exact ⟨by simp, by rintro ⟨⟩, fun _ _ => rfl⟩
  | probeDone => exact absurd hdown ha.probeResponse.ne_nil
  | headerDone => exact absurd hdown ha.serverHeader.ne_nil
  | statusSent data | bodySent data hpc => cases hdown
  | successDone hdata hpc => exact absurd hdown (hf.response _ _ hdata).ne_nil
  | failureDone hdata hpc =>
    have hbody : IsFrame (frame (asBytes _)) := ⟨_, hf.text _ _ hdata, rfl⟩
    exact absurd hdown hbody.ne_nil
  | probeSeen | headerSeen | calling | called | success | failure =>
    exact ⟨by simp, by rintro ⟨⟩, by simp⟩

end Joint

theorem server_enabled (h : Invariant callback s called) (ha : Agreed s.link.args s.provider)
    (hc : Codec decodeString encodeString) (hf : Framed callback) {i : ℕ} {v : ClientView}
    {stream : TcpStream} (hview : s.link.view = some (i, v)) (hv : Reads v)
    (hstream : s.link.streams[i]? = some stream) (hdown : stream.unread = []) :
    Enabled decodeString encodeString callback s := by
  obtain ⟨stream₀, hstream₀, -, -, -, hjoint⟩ := h.current.joint hview
  obtain rfl : stream = stream₀ := Option.some.inj (hstream.symm.trans hstream₀)
  obtain ⟨hopen, hawaiting, hreads⟩ := hjoint.waits hdown hv hf ha
  cases hpc : s.servers i with
  | closed => exact absurd hpc hopen
  | backlog =>
    have hfree : s.handling = none := by
      by_contra hbusy
      obtain ⟨j, hj⟩ := Option.ne_none_iff_exists'.mp hbusy
      have hhandled := (h.handling j).mp hj
      obtain ⟨w, -, hw, -⟩ := h.handled (i := j) (fun hp => by rw [hp] at hhandled; exact hhandled)
        (fun hp => by rw [hp] at hhandled; exact hhandled)
      rw [hview] at hw
      cases hw
      rw [hpc] at hhandled
      exact hhandled
    have hlt : s.accepted < s.link.streams.length :=
      ((h.backlog i).mp hpc).trans_lt (List.getElem?_eq_some_iff.mp hstream).1
    refine enabled_of_isSome .accept rfl trivial ?_
    simp only [step, hfree, hlt, and_self, if_true, Option.isSome_some]
  | header =>
    have hi := (h.handling i).mpr (by rw [hpc]; trivial)
    have hup : IsFrame stream.toServer := hawaiting (by rw [hpc]; exact .header)
    refine enabled_of_isSome .headerRead rfl trivial ?_
    simp only [step, hi, hpc, Option.bind_eq_bind, Option.bind_some, serverRead_eq hstream hup,
      Option.isSome_some]
  | probe | greet client =>
    have hi := (h.handling i).mpr (by rw [hpc]; trivial)
    refine enabled_of_isSome .headerWrite rfl trivial ?_
    simp only [step, hi, hpc, Option.bind_eq_bind, Option.bind_some, Option.isSome_some]
  | read persistent =>
    have hup := (h.status (hview.trans (by rw [hreads persistent hpc]))).2
    refine enabled_of_isSome (.taskRead i) rfl trivial ?_
    simp only [step, hpc, serverRead_eq hstream hup, Option.isSome_some]
  | callback persistent data =>
    refine enabled_of_isSome (.taskCallback i) rfl trivial ?_
    simp only [step, hpc, Option.isSome_some]
  | status persistent result =>
    refine enabled_of_isSome (.taskStatus i) rfl trivial ?_
    simp only [step, hpc, Option.isSome_some]
  | body persistent result =>
    refine enabled_of_isSome (.taskBody i) rfl trivial ?_
    simp only [step, hpc, bodyBytes_eq hc, Option.isSome_some]

theorem receivedFrame_isSome {link : ClientLink} (hin : link.incoming.isSome)
    (hstatus : ∀ msg connection, link.pc ≠ .status msg connection) (frame : Except IoError Bytes) :
    (link.receivedFrame decodeString frame).isSome := by
  unfold ClientLink.receivedFrame
  split
  · split <;> rfl
  · split <;> rfl
  · rfl
  · rfl
  · rename_i hprobe hheader hsuccess hfailure
    unfold ClientLink.incoming at hin
    split at hin
    · exact absurd ‹_› (hprobe _ _ _)
    · exact absurd ‹_› (hheader _ _ _)
    · exact absurd ‹_› (hstatus _ _)
    · exact absurd ‹_› (hsuccess _ _)
    · exact absurd ‹_› (hfailure _ _)
    · cases hin

theorem frame_enabled {i : ℕ} {stream : TcpStream} (hin : s.link.incoming = some i)
    (hstatus : ∀ msg connection, s.link.pc ≠ .status msg connection)
    (hstream : s.link.streams[i]? = some stream) (hframe : IsFrame stream.unread) :
    Enabled decodeString encodeString callback s := by
  refine enabled_of_client (l := .read) rfl trivial ?_
  simp only [ClientLink.step, hin, hstream, Option.bind_eq_bind, Option.bind_some,
    TcpStream.readFrame_unread hframe]
  have hin' : (s.link.modifyStream i fun _ =>
    { stream with read := stream.read + stream.unread.length }).incoming = some i := hin
  exact receivedFrame_isSome (Option.isSome_of_eq_some hin') hstatus _

/-- Until every call that has been made is answered, there is something to do. -/
theorem Invariant.enabled (h : Invariant callback s called) (ha : Agreed s.link.args s.provider)
    (hc : Codec decodeString encodeString) (hf : Framed callback)
    (hleft : s.link.replies.length < s.entered.length) :
    Enabled decodeString encodeString callback s := by
  have hwaiting := h.accounts.waiting
  cases hpc : s.link.pc with
  | exited => exact absurd hpc h.running
  | select =>
    rw [hpc] at hwaiting
    cases hrpcRx : s.link.rpcRx with
    | nil =>
      have hlength := congrArg List.length hwaiting
      rw [List.length_drop, length_tickets, hrpcRx] at hlength
      simp only [ClientPc.msg, Option.toList_none, List.append_nil, List.length_nil] at hlength
      omega
    | cons msg rpcRx =>
      cases hconnection : s.link.connectionState with
      | none | some connection =>
        refine enabled_of_client (l := .recv) rfl trivial ?_
        simp only [ClientLink.step, hpc, hrpcRx, hconnection, Option.isSome_some]
  | lookup msg =>
    refine enabled_of_client (l := .resolve (.ok "") (.ok ()) (.ok [⟨.v4 0, 0⟩])) rfl
      ⟨_, rfl⟩ ?_
    simp only [ClientLink.step, hpc]
    rfl
  | probeConnect msg address | connect msg address =>
    refine enabled_of_client (l := .connect (.ok ())) rfl trivial ?_
    simp only [ClientLink.step, hpc, Option.isSome_some]
  | probeWrite msg address i | headerWrite msg address i | request msg connection =>
    refine enabled_of_client (l := .write) rfl trivial ?_
    simp only [ClientLink.step, ClientLink.outgoing, hpc, Option.bind_eq_bind, Option.bind_some,
      ClientLink.wrote, ClientLink.modifyStream_pc, Option.isSome_some]
  | probeRead msg address i =>
    have hview : s.link.view = some (i, .probeRead) := by simp only [ClientLink.view, hpc]
    obtain ⟨stream, hstream, -, -, -, hjoint⟩ := h.current.joint hview
    rcases hjoint.probeRead with ⟨hdown, -⟩ | ⟨hdown, -⟩
    · exact server_enabled h ha hc hf hview trivial hstream hdown
    · refine frame_enabled (i := i) (by simp only [ClientLink.incoming, hpc]) ?_ hstream
        (hdown ▸ ha.probeResponse)
      rw [hpc]
      simp
  | headerRead msg address i =>
    have hview : s.link.view = some (i, .headerRead) := by simp only [ClientLink.view, hpc]
    obtain ⟨stream, hstream, -, -, -, hjoint⟩ := h.current.joint hview
    rcases hjoint.headerRead with ⟨hdown, -⟩ | ⟨hdown, -⟩
    · exact server_enabled h ha hc hf hview trivial hstream hdown
    · refine frame_enabled (i := i) (by simp only [ClientLink.incoming, hpc]) ?_ hstream
        (hdown ▸ ha.serverHeader)
      rw [hpc]
      simp
  | status msg connection =>
    have hview : s.link.view = some (connection.tcpStream, .status msg.data) := by
      simp only [ClientLink.view, hpc]
    obtain ⟨stream, hstream, -, -, -, hjoint⟩ := h.current.joint hview
    rcases hjoint.statusRead with ⟨hdown, -⟩ | ⟨rest, hdown, -⟩
    · exact server_enabled h ha hc hf hview trivial hstream hdown
    · refine enabled_of_client (l := .read) rfl trivial ?_
      simp only [ClientLink.step, ClientLink.incoming, hpc, Option.bind_eq_bind, Option.bind_some,
        hstream, TcpStream.readU8, hdown, Option.isSome_some]
  | success msg connection =>
    have hview : s.link.view = some (connection.tcpStream, .success msg.data) := by
      simp only [ClientLink.view, hpc]
    obtain ⟨stream, hstream, -, -, -, hjoint⟩ := h.current.joint hview
    obtain ⟨-, ⟨hdown, -⟩ | ⟨-, hdata, -⟩⟩ := hjoint.successRead
    · exact server_enabled h ha hc hf hview trivial hstream hdown
    · refine frame_enabled (by simp only [ClientLink.incoming, hpc]) ?_ hstream
        (hf.response _ _ hdata)
      rw [hpc]
      simp
  | failure msg connection =>
    have hview : s.link.view = some (connection.tcpStream, .failure msg.data) := by
      simp only [ClientLink.view, hpc]
    obtain ⟨stream, hstream, -, -, -, hjoint⟩ := h.current.joint hview
    obtain ⟨-, ⟨hdown, -⟩ | ⟨-, ⟨e, hdata, hdown⟩, -⟩⟩ := hjoint.failureRead
    · exact server_enabled h ha hc hf hview trivial hstream hdown
    · refine frame_enabled (by simp only [ClientLink.incoming, hpc]) ?_ hstream
        ⟨_, hf.text _ _ hdata, hdown⟩
      rw [hpc]
      simp

end RosrustAsync.ServiceCalls
