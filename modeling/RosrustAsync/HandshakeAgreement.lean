import RosrustAsync.FrameStream
import RosrustAsync.Publication
import RosrustAsync.ServiceAgreement
import RosrustAsync.Subscription

namespace RosrustAsync

open Header (toValues)

/-! What the two ends of a connection make of each other's header, as the bytes carry it. -/

def nextFrame (cs : List Bytes) : Except IoError Bytes := (readTcprosFrame cs).map Prod.fst

def nextHeader (T : Type) [Header T] (cs : List Bytes) : Except HeaderError T :=
  (fromAsyncRead T cs).map Prod.fst

/-- `setup_connection` on a socket that does not fail. -/
def Publication.handshake (self : Publication) (cs : List Bytes) :
    Except PublicationError SubscriberHeader :=
  setupConnection self.header self.tcpNodelay ⟨nextHeader SubscriberHeader cs, .ok (), .ok ()⟩

/-- The handshake of `add_publisher` on a socket that does not fail. -/
def Subscription.handshake (self : Subscription) (cs : List Bytes) :
    Except SubscriptionError PublisherHeader :=
  connectPublisher self.header ⟨.ok (), .ok (), nextHeader PublisherHeader cs⟩

def Listener.accepts (self : Listener) (cs : List Bytes) : Prop :=
  ∃ frame client, nextFrame cs = .ok frame ∧ self.handleHeader frame = .greet client

theorem mapError_eq_ok {ε δ α : Type} {x : Except ε α} {f : ε → δ} {a : α} :
    x.mapError f = .ok a ↔ x = .ok a := by
  cases x <;> simp [Except.mapError]

theorem setupConnection_eq_ok {header : PublisherHeader} {tcpNodelay : Bool} {stream : SetupIo}
    {subscriber : SubscriberHeader} :
    setupConnection header tcpNodelay stream = .ok subscriber ↔
      stream.subscriberHeader = .ok subscriber ∧
        validatePubsubCompatibility header subscriber = .ok () ∧
        ((tcpNodelay || subscriber.tcpNodelay) → stream.setNodelay = .ok ()) ∧
        stream.writeAll = .ok () := by
  have hsocket : ∀ (nodelay : Bool) (h : SubscriberHeader), (do
      if nodelay then stream.setNodelay.mapError PublicationError.io
      stream.writeAll.mapError PublicationError.io
      .ok h) = .ok subscriber ↔
        h = subscriber ∧ (nodelay → stream.setNodelay = .ok ()) ∧ stream.writeAll = .ok () := by
    intro nodelay h
    cases stream.writeAll <;> cases stream.setNodelay <;> cases nodelay <;>
      simp [bind_eq_ok, mapError_eq_ok]
  constructor
  · intro h
    obtain ⟨header', hheader, h⟩ := bind_eq_ok.mp h
    obtain ⟨u, hvalid, h⟩ := bind_eq_ok.mp h
    obtain ⟨rfl, hrest⟩ := (hsocket _ header').mp h
    exact ⟨mapError_eq_ok.mp hheader, mapError_eq_ok.mp hvalid, hrest⟩
  · rintro ⟨hheader, hvalid, hrest⟩
    refine bind_eq_ok.mpr ⟨subscriber, mapError_eq_ok.mpr hheader, ?_⟩
    refine bind_eq_ok.mpr ⟨(), mapError_eq_ok.mpr hvalid, ?_⟩
    exact (hsocket _ subscriber).mpr ⟨rfl, hrest⟩

theorem connectPublisher_eq_ok {header : SubscriberHeader} {stream : ConnectIo}
    {publisher : PublisherHeader} :
    connectPublisher header stream = .ok publisher ↔
      stream.connect = .ok () ∧ stream.writeAll = .ok () ∧
        stream.publisherHeader = .ok publisher ∧
        validatePubsubCompatibility publisher header = .ok () := by
  simp only [connectPublisher, bind_eq_ok, mapError_eq_ok]
  constructor
  · rintro ⟨u, hconnect, u', hwrite, header', hheader, u'', hvalid, h⟩
    cases h
    exact ⟨hconnect, hwrite, hheader, hvalid⟩
  · rintro ⟨hconnect, hwrite, hheader, hvalid⟩
    exact ⟨(), hconnect, (), hwrite, publisher, hheader, (), hvalid, rfl⟩

theorem nextHeader_toBytes {T : Type} [Header T] {value : T} {b : Bytes}
    (hb : toBytes value = .ok b) (hsize : b.length < 4 + 2 ^ 32) {cs : List Bytes} {rest : Bytes}
    (h : cs.flatten = b ++ rest) :
    nextHeader T cs = .ok value := by
  obtain ⟨ds, hread, -⟩ := fromAsyncRead_toBytes value hb hsize h
  rw [nextHeader, hread]
  rfl

theorem nextFrame_frame {payload : Bytes} (hp : payload.length < 2 ^ 32) {cs : List Bytes}
    {rest : Bytes} (h : cs.flatten = frame payload ++ rest) :
    nextFrame cs = .ok (frame payload) := by
  obtain ⟨ds, hread, -⟩ := readTcprosFrame_frame hp h
  rw [nextFrame, hread]
  rfl

theorem pubsub_handshakes_agree {p : Publication} {s : Subscription} {bp bs : Bytes}
    (hp : toBytes p.header = .ok bp) (hs : toBytes s.header = .ok bs)
    (hpsize : bp.length < 4 + 2 ^ 32) (hssize : bs.length < 4 + 2 ^ 32) {cs ds : List Bytes}
    {rest rest' : Bytes} (hcs : cs.flatten = bs ++ rest) (hds : ds.flatten = bp ++ rest') :
    (∃ h, p.handshake cs = .ok h) ↔ ∃ h, s.handshake ds = .ok h := by
  have hpub : ∀ h, p.handshake cs = .ok h ↔
      h = s.header ∧ validatePubsubCompatibility p.header s.header = .ok () := by
    intro h
    rw [Publication.handshake, nextHeader_toBytes hs hssize hcs, setupConnection_eq_ok]
    simp only [Except.ok.injEq, implies_true, and_true]
    constructor
    · rintro ⟨rfl, hvalid⟩
      exact ⟨rfl, hvalid⟩
    · rintro ⟨rfl, hvalid⟩
      exact ⟨rfl, hvalid⟩
  have hsub : ∀ h, s.handshake ds = .ok h ↔
      h = p.header ∧ validatePubsubCompatibility p.header s.header = .ok () := by
    intro h
    rw [Subscription.handshake, nextHeader_toBytes hp hpsize hds, connectPublisher_eq_ok]
    simp only [Except.ok.injEq, true_and]
    constructor
    · rintro ⟨rfl, hvalid⟩
      exact ⟨rfl, hvalid⟩
    · rintro ⟨rfl, hvalid⟩
      exact ⟨rfl, hvalid⟩
  simp only [hpub, hsub, exists_eq_left]

theorem probeResult_frame {service : Service} {response : ProbeResponseHeader}
    (hsize : (bodyOf response).length < 2 ^ 32) :
    ClientLink.probeResult service (.ok (frame (bodyOf response))) = .ok () ↔
      validateServerCompatibility service response = .ok () := by
  rw [ClientLink.probeResult, ClientLink.decodeHeader, frame, fromBytes_bodyOf _ hsize]
  exact mapError_eq_ok

theorem handleHeader_greet {provider : Listener} {frame : Bytes} {client : ServiceClientHeader} :
    provider.handleHeader frame = .greet client ↔ fromBytes ServiceClientHeader frame = .ok client ∧
      validateClientCompatibility provider.service client = .ok () := by
  constructor
  · intro h
    simp only [Listener.handleHeader] at h
    split at h
    · rename_i c hc
      split at h
      · rename_i u hv
        cases h
        exact ⟨hc, hv⟩
      · cases h
    · split at h <;> cases h
  · rintro ⟨hc, hv⟩
    simp only [Listener.handleHeader, hc, hv]

theorem handleHeader_client {provider : Listener} {client : ServiceClientHeader}
    (hsize : (bodyOf client).length < 2 ^ 32) :
    (∃ c, provider.handleHeader (frame (bodyOf client)) = .greet c) ↔
      validateClientCompatibility provider.service client = .ok () := by
  simp only [handleHeader_greet, frame, fromBytes_bodyOf _ hsize, Except.ok.injEq, exists_eq_left']

theorem service_handshakes_agree {service service' : Service} {callerId callerId' : String}
    {persistent : Bool} {link : ClientLink} {provider : Listener}
    (hlink : ClientLink.new service callerId persistent = .ok link)
    (hprovider : Listener.new service' callerId' = .ok provider)
    (hclient : link.args.clientHeaderBytes.length < 4 + 2 ^ 32)
    (hresponse : provider.probeHeaderBytes.length < 4 + 2 ^ 32) {cs ds : List Bytes}
    {rest rest' : Bytes} (hcs : cs.flatten = provider.probeHeaderBytes ++ rest)
    (hds : ds.flatten = link.args.clientHeaderBytes ++ rest') :
    ClientLink.probeResult link.args.service (nextFrame cs) = .ok () ↔ provider.accepts ds := by
  simp only [ClientLink.new, toBytes_eq] at hlink
  cases hlink
  obtain ⟨rfl, hbytes⟩ : provider.service = service' ∧ provider.probeHeaderBytes = frame (bodyOf
      (⟨callerId', service'.spec.md5sum, service'.spec.msgType⟩ : ProbeResponseHeader)) := by
    simp only [Listener.new, toBytes_eq] at hprovider
    cases hprovider
    exact ⟨rfl, rfl⟩
  rw [hbytes] at hresponse hcs
  simp only [frame, List.length_append, le32_length, Nat.add_lt_add_iff_left] at hclient hresponse
  have hvalid : service.spec.validateCompatibility provider.service.spec = .ok () ↔
      provider.service.spec.validateCompatibility service.spec = .ok () := by
    rw [ServiceSpec.validateCompatibility_iff, ServiceSpec.validateCompatibility_iff]
    exact ⟨FieldsFit.symm, FieldsFit.symm⟩
  rw [nextFrame_frame hresponse hcs, Listener.accepts, nextFrame_frame hclient hds]
  constructor
  · intro h
    have hspec : service.spec.validateCompatibility provider.service.spec = .ok () :=
      (probeResult_frame hresponse).mp h
    obtain ⟨c, hc⟩ := (handleHeader_client hclient).mpr (hvalid.mp hspec)
    exact ⟨_, c, rfl, hc⟩
  · rintro ⟨_, c, ⟨⟩, hc⟩
    have hspec : provider.service.spec.validateCompatibility service.spec = .ok () :=
      (handleHeader_client hclient).mp ⟨c, hc⟩
    exact (probeResult_frame hresponse).mpr (hvalid.mpr hspec)

theorem handshakes_agree :
    (∀ (p : Publication) (s : Subscription) (bp bs : Bytes) (cs ds : List Bytes)
      (rest rest' : Bytes), toBytes p.header = .ok bp → toBytes s.header = .ok bs →
        bp.length < 4 + 2 ^ 32 → bs.length < 4 + 2 ^ 32 → cs.flatten = bs ++ rest →
          ds.flatten = bp ++ rest' →
            ((∃ h, p.handshake cs = .ok h) ↔ ∃ h, s.handshake ds = .ok h)) ∧
    ∀ (service service' : Service) (callerId callerId' : String) (persistent : Bool)
      (link : ClientLink) (provider : Listener) (cs ds : List Bytes) (rest rest' : Bytes),
        ClientLink.new service callerId persistent = .ok link →
          Listener.new service' callerId' = .ok provider →
            link.args.clientHeaderBytes.length < 4 + 2 ^ 32 →
              provider.probeHeaderBytes.length < 4 + 2 ^ 32 →
                cs.flatten = provider.probeHeaderBytes ++ rest →
                  ds.flatten = link.args.clientHeaderBytes ++ rest' →
                    (ClientLink.probeResult link.args.service (nextFrame cs) = .ok () ↔
                      provider.accepts ds) := by
  constructor
  · intro p s bp bs cs ds rest rest' hp hs hpsize hssize hcs hds
    exact pubsub_handshakes_agree hp hs hpsize hssize hcs hds
  · intro service service' callerId callerId' persistent link provider cs ds rest rest' hlink
      hprovider hclient hresponse hcs hds
    exact service_handshakes_agree hlink hprovider hclient hresponse hcs hds

def wild (name : String) : Topic := ⟨name, ⟨"*", "*", ""⟩⟩

theorem handshakes_agree_examples :
    (∃ (p : Publication) (s : Subscription) (bp bs : Bytes),
      toBytes p.header = .ok bp ∧ toBytes s.header = .ok bs ∧
        ((∃ h, p.handshake [bs] = .ok h) ↔ ∃ h, s.handshake [bp] = .ok h)) ∧
    ∃ (link : ClientLink) (provider : Listener),
      ClientLink.new addService "/client" true = .ok link ∧
        Listener.new addService "/server" = .ok provider ∧
        (ClientLink.probeResult link.args.service (nextFrame [provider.probeHeaderBytes]) = .ok () ↔
          provider.accepts [link.args.clientHeaderBytes]) := by
  obtain ⟨hpubsub, hservice⟩ := handshakes_agree
  have hcs : ∀ b : Bytes, [b].flatten = b ++ [] := by simp
  constructor
  · obtain ⟨p, hp⟩ : ∃ p, p = (Publication.new (wild "/scan") "/lidar" 1 false false).get rfl :=
      ⟨_, rfl⟩
    obtain ⟨s, hs⟩ : ∃ s, s = (Subscription.new (wild "/scan") "/mapper" 1 false).get rfl :=
      ⟨_, rfl⟩
    have hpsize : (le32 (.ofNat (bodyOf p.header).length) ++ bodyOf p.header).length <
        4 + 2 ^ 32 := by
      rw [hp]
      decide
    have hssize : (le32 (.ofNat (bodyOf s.header).length) ++ bodyOf s.header).length <
        4 + 2 ^ 32 := by
      rw [hs]
      decide
    refine ⟨p, s, _, _, toBytes_eq _, toBytes_eq _, ?_⟩
    exact hpubsub p s _ _ _ _ [] [] (toBytes_eq _) (toBytes_eq _) hpsize hssize (hcs _) (hcs _)
  · obtain ⟨link, hlink, -, -, hclient, -⟩ := addService_link
    obtain ⟨provider, hprovider, -, hresponse⟩ := addService_listener
    refine ⟨link, provider, hlink, hprovider, ?_⟩
    exact hservice _ _ _ _ _ link provider _ _ [] [] hlink hprovider hclient hresponse (hcs _)
      (hcs _)

def scanFields : Bytes := fieldBytes
  [("topic", "/scan"), ("md5sum", "*"), ("type", "*"), ("message_definition", ""),
    ("latching", "0")]

theorem bodyOf_publisher (callerId : String) :
    bodyOf (PublisherHeader.mk callerId "/scan" "*" "*" "" false) =
      frameField ("callerid", callerId) ++ scanFields := by
  simp [bodyOf, encodedFields, Header.fields, toValues, Value.text, scanFields]

theorem bodyOf_publisher_length (n : ℕ) :
    (bodyOf (PublisherHeader.mk (.ofList (.replicate n 'a')) "/scan" "*" "*" "" false)).length =
      87 + n := by
  have hkey : (asBytes ("callerid" ++ "=")).length = 9 := by decide
  have hfields : scanFields.length = 74 := by decide
  rw [bodyOf_publisher, List.length_append, hfields, frameField, List.length_append, le32_length,
    asBytes_append, List.length_append, hkey, asBytes_replicate]
  omega

theorem fromBytes_publisher_nil (h : PublisherHeader) :
    fromBytes PublisherHeader (frame []) ≠ .ok h := by
  intro hread
  have hdecodes : Decodes [] h := (fromBytes_fieldBytes (by simp) (by decide)).mp hread
  obtain ⟨text, htext⟩ := hdecodes.occurs ⟨"topic", .str, none⟩ (by simp [Header.fields]) rfl
  cases htext

/-- A body of 2 ^ 32 bytes is announced as an empty one. -/
theorem handshakes_disagree : ∃ (p : Publication) (s : Subscription) (bp bs : Bytes),
    Publication.new (wild "/scan") (.ofList (.replicate (2 ^ 32 - 87) 'a')) 1 false false = some p ∧
      Subscription.new (wild "/scan") "/mapper" 1 false = some s ∧
      toBytes p.header = .ok bp ∧ toBytes s.header = .ok bs ∧
      (∃ h, p.handshake [bs] = .ok h) ∧ ¬ ∃ h, s.handshake [bp] = .ok h := by
  obtain ⟨p, hp, hheader⟩ : ∃ p, Publication.new (wild "/scan")
      (.ofList (.replicate (2 ^ 32 - 87) 'a')) 1 false false = some p ∧
      p.header = ⟨.ofList (.replicate (2 ^ 32 - 87) 'a'), "/scan", "*", "*", "", false⟩ :=
    ⟨_, rfl, rfl⟩
  obtain ⟨s, hs, hsheader⟩ : ∃ s, Subscription.new (wild "/scan") "/mapper" 1 false = some s ∧
      s.header = ⟨"/mapper", "/scan", "*", "*", "", false⟩ := ⟨_, rfl, rfl⟩
  refine ⟨p, s, _, _, hp, hs, toBytes_eq _, toBytes_eq _, ?_, ?_⟩
  · have hsize : (le32 (.ofNat (bodyOf s.header).length) ++ bodyOf s.header).length <
        4 + 2 ^ 32 := by
      rw [hsheader]
      decide
    have hcs : ∀ b : Bytes, [b].flatten = b ++ [] := by simp
    refine ⟨s.header, ?_⟩
    rw [Publication.handshake, nextHeader_toBytes (toBytes_eq s.header) hsize (hcs _),
      setupConnection_eq_ok, hheader, hsheader]
    exact ⟨rfl, by decide, fun _ => rfl, rfl⟩
  · rintro ⟨h, hread⟩
    obtain ⟨-, -, hread, -⟩ := connectPublisher_eq_ok.mp hread
    have hlength : (bodyOf p.header).length = 2 ^ 32 := by
      rw [hheader]
      exact bodyOf_publisher_length (2 ^ 32 - 87)
    have hcs : [le32 (.ofNat (bodyOf p.header).length) ++ bodyOf p.header].flatten =
        frame [] ++ bodyOf p.header := by
      rw [hlength]
      simp [frame]
    obtain ⟨ds, hframe, -⟩ := readTcprosFrame_frame (by decide) hcs
    simp only [nextHeader, fromAsyncRead, hframe] at hread
    cases hbytes : fromBytes PublisherHeader (frame []) with
    | ok h' => exact fromBytes_publisher_nil h' hbytes
    | error e =>
      rw [hbytes] at hread
      cases hread

/-! The names in the headers play no part. -/

def PublisherHeader.named (self : PublisherHeader) (topic : String) : PublisherHeader :=
  { self with topic := topic }

def SubscriberHeader.named (self : SubscriberHeader) (topic : String) : SubscriberHeader :=
  { self with topic := topic }

theorem accepts_iff {provider : Listener} {cs : List Bytes} : provider.accepts cs ↔
    ∃ frame client, nextFrame cs = .ok frame ∧ fromBytes ServiceClientHeader frame = .ok client ∧
      areFieldsCompatible provider.service.spec.md5sum client.md5sum ∧
        areFieldsCompatible provider.service.spec.msgType client.msgType := by
  simp only [Listener.accepts, handleHeader_greet, validateClientCompatibility, validateFields_iff]

theorem setupConnection_named (header : PublisherHeader) (tcpNodelay : Bool) (stream : SetupIo)
    (topic topic' : String) (subscriber : SubscriberHeader) :
    setupConnection header tcpNodelay { stream with subscriberHeader := .ok subscriber } =
        .ok subscriber ↔
      setupConnection (header.named topic) tcpNodelay
        { stream with subscriberHeader := .ok (subscriber.named topic') } =
          .ok (subscriber.named topic') := by
  rw [setupConnection_eq_ok, setupConnection_eq_ok]
  simp only [true_and]
  rfl

theorem connectPublisher_named (header : SubscriberHeader) (stream : ConnectIo)
    (topic topic' : String) (publisher : PublisherHeader) :
    connectPublisher header { stream with publisherHeader := .ok publisher } = .ok publisher ↔
      connectPublisher (header.named topic)
        { stream with publisherHeader := .ok (publisher.named topic') } =
          .ok (publisher.named topic') := by
  rw [connectPublisher_eq_ok, connectPublisher_eq_ok]
  simp only [true_and]
  rfl

theorem connections_by_spec :
    (∀ (header : PublisherHeader) (tcpNodelay : Bool) (stream : SetupIo)
      (subscriber : SubscriberHeader), setupConnection header tcpNodelay stream = .ok subscriber →
        areFieldsCompatible header.md5sum subscriber.md5sum ∧
          areFieldsCompatible header.msgType subscriber.msgType) ∧
    (∀ (header : SubscriberHeader) (stream : ConnectIo) (publisher : PublisherHeader),
      connectPublisher header stream = .ok publisher →
        areFieldsCompatible publisher.md5sum header.md5sum ∧
          areFieldsCompatible publisher.msgType header.msgType) ∧
    (∀ (header : PublisherHeader) (tcpNodelay : Bool) (stream : SetupIo) (topic topic' : String)
      (subscriber : SubscriberHeader),
      setupConnection header tcpNodelay { stream with subscriberHeader := .ok subscriber } =
          .ok subscriber ↔
        setupConnection (header.named topic) tcpNodelay
          { stream with subscriberHeader := .ok (subscriber.named topic') } =
            .ok (subscriber.named topic')) ∧
    (∀ (header : SubscriberHeader) (stream : ConnectIo) (topic topic' : String)
      (publisher : PublisherHeader),
      connectPublisher header { stream with publisherHeader := .ok publisher } = .ok publisher ↔
        connectPublisher (header.named topic)
          { stream with publisherHeader := .ok (publisher.named topic') } =
            .ok (publisher.named topic')) ∧
    ∀ (provider : Listener) (cs : List Bytes), provider.accepts cs ↔
      ∃ frame client, nextFrame cs = .ok frame ∧ fromBytes ServiceClientHeader frame = .ok client ∧
        areFieldsCompatible provider.service.spec.md5sum client.md5sum ∧
          areFieldsCompatible provider.service.spec.msgType client.msgType := by
  refine ⟨?_, ?_, setupConnection_named, connectPublisher_named, fun _ _ => accepts_iff⟩
  · intro header tcpNodelay stream subscriber h
    obtain ⟨-, hvalid, -⟩ := setupConnection_eq_ok.mp h
    exact validateFields_iff.mp hvalid
  · intro header stream publisher h
    obtain ⟨-, -, -, hvalid⟩ := connectPublisher_eq_ok.mp h
    exact validateFields_iff.mp hvalid

def lidarHeader : PublisherHeader := ⟨"/lidar", "/scan", "*", "a/Scan", "", false⟩

def mapperHeader : SubscriberHeader := ⟨"/mapper", "/scan", "0f", "a/Scan", "", false⟩

theorem connections_by_spec_scan :
    setupConnection lidarHeader true ⟨.ok mapperHeader, .ok (), .ok ()⟩ = .ok mapperHeader ∧
      areFieldsCompatible lidarHeader.md5sum mapperHeader.md5sum := by
  obtain ⟨hsetup, -⟩ := connections_by_spec
  have hok : setupConnection lidarHeader true ⟨.ok mapperHeader, .ok (), .ok ()⟩ =
      .ok mapperHeader := rfl
  exact ⟨hok, (hsetup _ _ _ _ hok).1⟩

theorem connections_across_names :
    (∃ (p : Publication) (s : Subscription) (bp bs : Bytes), toBytes p.header = .ok bp ∧
      toBytes s.header = .ok bs ∧ p.handshake [bs] = .ok s.header ∧
        s.handshake [bp] = .ok p.header ∧ p.header.topic = "/scan" ∧ s.header.topic = "/odom") ∧
    ∃ (link : ClientLink) (provider : Listener),
      ClientLink.new addService "/client" true = .ok link ∧
        Listener.new ⟨"/other", addService.spec⟩ "/server" = .ok provider ∧
        provider.accepts [link.args.clientHeaderBytes] := by
  have hcs : ∀ b : Bytes, [b].flatten = b ++ [] := by simp
  constructor
  · obtain ⟨p, hp⟩ : ∃ p, p = (Publication.new (wild "/scan") "/lidar" 1 false false).get rfl :=
      ⟨_, rfl⟩
    obtain ⟨s, hs⟩ : ∃ s, s = (Subscription.new (wild "/odom") "/mapper" 1 false).get rfl :=
      ⟨_, rfl⟩
    have hpsize : (le32 (.ofNat (bodyOf p.header).length) ++ bodyOf p.header).length <
        4 + 2 ^ 32 := by
      rw [hp]
      decide
    have hssize : (le32 (.ofNat (bodyOf s.header).length) ++ bodyOf s.header).length <
        4 + 2 ^ 32 := by
      rw [hs]
      decide
    refine ⟨p, s, _, _, toBytes_eq _, toBytes_eq _, ?_, ?_, by rw [hp]; rfl, by rw [hs]; rfl⟩
    · rw [Publication.handshake, nextHeader_toBytes (toBytes_eq s.header) hssize (hcs _),
        setupConnection_eq_ok, hp, hs]
      exact ⟨rfl, by decide, fun _ => rfl, rfl⟩
    · rw [Subscription.handshake, nextHeader_toBytes (toBytes_eq p.header) hpsize (hcs _),
        connectPublisher_eq_ok, hp, hs]
      exact ⟨rfl, rfl, rfl, by decide⟩
  · obtain ⟨link, hlink, -, -, hclient, -⟩ := addService_link
    obtain ⟨provider, hprovider⟩ : ∃ provider,
        Listener.new ⟨"/other", addService.spec⟩ "/server" = .ok provider := by
      simp only [Listener.new, toBytes_eq]
      exact ⟨_, rfl⟩
    have hservice : provider.service = ⟨"/other", addService.spec⟩ := by
      simp only [Listener.new, toBytes_eq] at hprovider
      cases hprovider
      rfl
    refine ⟨link, provider, hlink, hprovider, ?_⟩
    simp only [ClientLink.new, toBytes_eq] at hlink
    cases hlink
    simp only [List.length_append, le32_length, Nat.add_lt_add_iff_left] at hclient
    have hvalid : validateClientCompatibility provider.service
        ⟨"/client", "/add", "*", "rospy_tutorials/AddTwoInts", true⟩ = .ok () := by
      rw [hservice]
      decide
    obtain ⟨c, hc⟩ := (handleHeader_client hclient).mpr hvalid
    exact ⟨_, c, nextFrame_frame hclient (hcs _), hc⟩

end RosrustAsync
