import RosrustAsync.HeaderAcceptance
import RosrustAsync.ServiceCalls

namespace RosrustAsync

open Header (toValues)

/-! What the two ends of a service make of each other's bytes. -/

theorem IsFrame.readTcprosFrame {b : Bytes} (h : IsFrame b) :
    ∃ rest, readTcprosFrame [b] = .ok (b, rest) ∧ rest.flatten = [] := by
  obtain ⟨payload, hsize, rfl⟩ := h
  exact readTcprosFrame_frame hsize (by simp)

theorem IsFrame.ne_nil {b : Bytes} (h : IsFrame b) : b ≠ [] := by
  obtain ⟨payload, -, rfl⟩ := h
  simp [frame, le32]

theorem readTcprosFrame_nil : readTcprosFrame [[]] = .error .unexpectedEof := by
  have hprefix : [([] : Bytes)].flatten <+: frame [] := List.nil_prefix
  exact readTcprosFrame_eof (by decide) hprefix (by simp [frame, le32])

namespace TcpStream

variable {self : TcpStream}

theorem readFrame_unread (h : IsFrame self.unread) :
    self.readFrame = some (.ok self.unread, { self with read := self.read + self.unread.length }) := by
  obtain ⟨rest, hread, -⟩ := h.readTcprosFrame
  simp only [readFrame, hread]

theorem readFrame_nil (h : self.unread = []) (hopen : self.serverOpen = true) :
    self.readFrame = none := by
  simp only [readFrame, h, readTcprosFrame_nil, hopen, if_true]

theorem unread_read {n : ℕ} : { self with read := self.read + n }.unread = self.unread.drop n := by
  simp only [unread, List.drop_drop]

theorem unread_write {toServer bytes : Bytes} {serverOpen : Bool}
    (h : self.read ≤ self.fromServer.length) :
    { self with toServer, fromServer := self.fromServer ++ bytes, serverOpen }.unread =
      self.unread ++ bytes := by
  simp only [unread, List.drop_append_of_le_length h]

end TcpStream

/-- The headers that a client link and a provider send are what the other end accepts. -/
structure Agreed (args : ClientArgs) (provider : Listener) : Prop where
  probeRequest : IsFrame args.probeHeaderBytes
  clientHeader : IsFrame args.clientHeaderBytes
  probeResponse : IsFrame provider.probeHeaderBytes
  serverHeader : IsFrame provider.serverHeaderBytes
  probe : provider.handleHeader args.probeHeaderBytes = .probe
  greet : ∃ client, provider.handleHeader args.clientHeaderBytes = .greet client ∧
    client.persistent = args.persistent
  probed : ClientLink.probeResult args.service (.ok provider.probeHeaderBytes) = .ok ()
  greeted : ∃ serverHeader, ClientLink.decodeHeader ServiceServerHeader
    (.ok provider.serverHeaderBytes) = .ok serverHeader

/-- A probe has no type, so that it is no client's header. -/
theorem fromBytes_probe (probe : ProbeRequestHeader) (hsize : (bodyOf probe).length < 2 ^ 32) :
    ∃ e, fromBytes ServiceClientHeader (frame (bodyOf probe)) = .error e := by
  cases hb : fromBytes ServiceClientHeader (frame (bodyOf probe)) with
  | error e => exact ⟨e, rfl⟩
  | ok client =>
    have hdecodes := (fromBytes_bodyOf_iff hsize).mp hb
    obtain ⟨text, htext⟩ := hdecodes.occurs ⟨"type", .str, none⟩
      (by simp [Header.fields]) rfl
    have hkey := (List.of_mem_zip htext).1
    simp [Header.fields] at hkey

theorem agreed_of_new {service service' : Service} {callerId callerId' : String} {persistent : Bool}
    {link : ClientLink} {provider : Listener}
    (hlink : ClientLink.new service callerId persistent = .ok link)
    (hprovider : Listener.new service' callerId' = .ok provider)
    (hcompatible : service.spec.validateCompatibility service'.spec = .ok ())
    (hclient : link.args.clientHeaderBytes.length < 4 + 2 ^ 32)
    (hprobe : link.args.probeHeaderBytes.length < 4 + 2 ^ 32)
    (hserver : provider.serverHeaderBytes.length < 4 + 2 ^ 32)
    (hresponse : provider.probeHeaderBytes.length < 4 + 2 ^ 32) : Agreed link.args provider := by
  simp only [ClientLink.new, toBytes_eq] at hlink
  cases hlink
  simp only [Listener.new, toBytes_eq] at hprovider
  cases hprovider
  simp only [List.length_append, le32_length, Nat.add_lt_add_iff_left] at hclient hprobe hserver hresponse
  refine ⟨⟨_, hprobe, rfl⟩, ⟨_, hclient, rfl⟩, ⟨_, hresponse, rfl⟩, ⟨_, hserver, rfl⟩, ?_, ?_, ?_, ?_⟩
  · obtain ⟨e, he⟩ := fromBytes_probe _ hprobe
    rw [frame] at he
    simp only [Listener.handleHeader, he, fromBytes_bodyOf _ hprobe]
  · refine ⟨⟨callerId, service.name, service.spec.md5sum, service.spec.msgType, persistent⟩, ?_, rfl⟩
    simp only [Listener.handleHeader, fromBytes_bodyOf _ hclient, validateClientCompatibility,
      validateFields_comm hcompatible]
  · simp only [ClientLink.probeResult, ClientLink.decodeHeader, fromBytes_bodyOf _ hresponse]
    refine bind_eq_ok.mpr ⟨_, rfl, ?_⟩
    have hvalid : validateFields service.spec.md5sum service'.spec.md5sum service.spec.msgType
        service'.spec.msgType = .ok () := hcompatible
    rw [validateServerCompatibility, hvalid]
    rfl
  · exact ⟨_, fromBytes_bodyOf _ hserver⟩

def addService : Service := ⟨"/add", ⟨"*", "rospy_tutorials/AddTwoInts"⟩⟩

theorem addService_link : ∃ link, ClientLink.new addService "/client" true = .ok link ∧
    link = ⟨link.args, none, .select, [], [], 0, []⟩ ∧ link.args.persistent = true ∧
    link.args.clientHeaderBytes.length < 4 + 2 ^ 32 ∧
    link.args.probeHeaderBytes.length < 4 + 2 ^ 32 := by
  obtain ⟨link, hlink⟩ : ∃ link, ClientLink.new addService "/client" true = .ok link := by
    simp only [ClientLink.new, toBytes_eq]
    exact ⟨_, rfl⟩
  refine ⟨link, hlink, ?_⟩
  simp only [ClientLink.new, toBytes_eq] at hlink
  cases hlink
  exact ⟨rfl, rfl, by decide, by decide⟩

theorem addService_listener : ∃ provider, Listener.new addService "/server" = .ok provider ∧
    provider.serverHeaderBytes.length < 4 + 2 ^ 32 ∧
    provider.probeHeaderBytes.length < 4 + 2 ^ 32 := by
  obtain ⟨provider, hprovider⟩ : ∃ provider, Listener.new addService "/server" = .ok provider := by
    simp only [Listener.new, toBytes_eq]
    exact ⟨_, rfl⟩
  refine ⟨provider, hprovider, ?_⟩
  simp only [Listener.new, toBytes_eq] at hprovider
  cases hprovider
  exact ⟨by decide, by decide⟩

/-! `String::encode` and `String::decode`, on a frame. -/

def encodeText (e : String) : Except IoError Bytes := .ok (frame (asBytes e))

def decodeText (bytes : Bytes) : Except IoError String := do
  let (n, rest) ← readU32 bytes
  let (text, _) ← readExact n.toNat rest
  match fromUtf8 text with
  | some e => .ok e
  | none => .error (.other "invalid utf-8 sequence")

end RosrustAsync
