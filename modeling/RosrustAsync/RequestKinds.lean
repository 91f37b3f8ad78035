import RosrustAsync.HandshakeAgreement
import RosrustAsync.HeaderOrder
import RosrustAsync.ListenerPeers

namespace RosrustAsync

/-! What `handle_request` takes a header for, and what it does then. -/

inductive RequestKind
  | probe (header : ProbeRequestHeader)
  | clientHandshake (header : ServiceClientHeader)

inductive RequestError
  | io (error : IoError)
  | unknownRequest
  | incompatible (error : CompatibilityError)

structure RequestIo where
  headerData : Except IoError Bytes
  writeAll : Except IoError Unit

/-- What is written to the stream, and the `persistent` flags of the tasks that are spawned. -/
structure Handled where
  written : List Bytes
  rpcTasks : List Bool
  result : Except RequestError Unit

def requestKind (headerData : Bytes) : Except RequestError RequestKind :=
  match fromBytes ServiceClientHeader headerData with
  | .ok client => .ok (.clientHandshake client)
  | .error _ =>
    match fromBytes ProbeRequestHeader headerData with
    | .ok probe => .ok (.probe probe)
    | .error _ => .error .unknownRequest

namespace Listener

def handleRequest (self : Listener) (stream : RequestIo) : Handled :=
  match stream.headerData with
  | .error e => ⟨[], [], .error (.io e)⟩
  | .ok headerData =>
    match requestKind headerData with
    | .error e => ⟨[], [], .error e⟩
    | .ok (.probe _) => ⟨[self.probeHeaderBytes], [], stream.writeAll.mapError .io⟩
    | .ok (.clientHandshake client) =>
      match validateClientCompatibility self.service client with
      | .error e => ⟨[], [], .error (.incompatible e)⟩
      | .ok _ =>
        match stream.writeAll with
        | .error e => ⟨[self.serverHeaderBytes], [], .error (.io e)⟩
        | .ok _ => ⟨[self.serverHeaderBytes], [client.persistent], .ok ()⟩

/-- A request on a stream that takes what is written to it. -/
def serve (self : Listener) (cs : List Bytes) : Handled := self.handleRequest ⟨nextFrame cs, .ok ()⟩

def Compatible (self : Listener) (client : ServiceClientHeader) : Prop :=
  areFieldsCompatible self.service.spec.md5sum client.md5sum ∧
    areFieldsCompatible self.service.spec.msgType client.msgType

variable {self : Listener}

/-- The listener among its peers spawns the same tasks. -/
theorem handleRequest_peer {peer : Peer} {headerData : Except IoError Bytes}
    {writeAll : Except IoError Unit} (hheader : peer.headerFrame = some headerData)
    (hwrite : peer.writeAll = some writeAll) :
    ServiceListener.handleRequest self peer =
      some ((self.handleRequest ⟨headerData, writeAll⟩).rpcTasks.map (⟨peer, ·⟩)) := by
  cases headerData with
  | error e => simp [ServiceListener.handleRequest, hheader, handleRequest]
  | ok headerData =>
    simp only [ServiceListener.handleRequest, hheader, handleRequest, handleHeader, requestKind,
      hwrite, Option.bind_eq_bind, Option.bind_some]
    cases fromBytes ServiceClientHeader headerData with
    | ok client =>
      simp only
      cases validateClientCompatibility self.service client <;> cases writeAll <;> rfl
    | error e => cases fromBytes ProbeRequestHeader headerData <;> rfl

theorem validateClientCompatibility_iff {client : ServiceClientHeader} :
    validateClientCompatibility self.service client = .ok () ↔ self.Compatible client :=
  validateFields_iff

theorem serve_client (self : Listener) {cs : List Bytes} {headerData : Bytes}
    {client : ServiceClientHeader} (hframe : nextFrame cs = .ok headerData)
    (hclient : fromBytes ServiceClientHeader headerData = .ok client) :
    (self.Compatible client →
      self.serve cs = ⟨[self.serverHeaderBytes], [client.persistent], .ok ()⟩) ∧
    (¬ self.Compatible client → (self.serve cs).written = [] ∧ (self.serve cs).rpcTasks = []) := by
  simp only [← validateClientCompatibility_iff, serve, handleRequest, hframe, requestKind, hclient]
  cases validateClientCompatibility self.service client with
  | ok u => exact ⟨fun _ => rfl, fun h => absurd rfl h⟩
  | error e => exact ⟨fun h => (by cases h), fun _ => ⟨rfl, rfl⟩⟩

theorem serve_probe {cs : List Bytes} {headerData : Bytes} {probe : ProbeRequestHeader}
    (hframe : nextFrame cs = .ok headerData)
    (hclient : ∀ client, fromBytes ServiceClientHeader headerData ≠ .ok client)
    (hprobe : fromBytes ProbeRequestHeader headerData = .ok probe) :
    self.serve cs = ⟨[self.probeHeaderBytes], [], .ok ()⟩ := by
  cases hdecoded : fromBytes ServiceClientHeader headerData with
  | ok client => exact absurd hdecoded (hclient client)
  | error e => simp only [serve, handleRequest, hframe, requestKind, hdecoded, hprobe]; rfl

end Listener

theorem not_decodes_client {ps : List (String × String)} (h : ∀ text, ("type", text) ∉ ps) :
    ¬ ∃ client : ServiceClientHeader, Decodes ps client := by
  rintro ⟨client, hdecodes⟩
  obtain ⟨text, htext⟩ := hdecodes.occurs ⟨"type", .str, none⟩ (by simp [Header.fields]) rfl
  exact h text htext

/-- Every request is taken for what its fields decode as, a client's header before a probe; those
that a client link sends are taken for what they are. -/
theorem requests_classified (provider : Listener) :
    (∀ (raws : List String) (probe : ProbeRequestHeader) (cs : List Bytes) (rest : Bytes),
      Encodable raws → cs.flatten = frame (textBytes raws) ++ rest →
        Decodes (fieldsOf raws) probe →
          (provider.serve cs = ⟨[provider.probeHeaderBytes], [], .ok ()⟩ ↔
            ¬ ∃ client : ServiceClientHeader, Decodes (fieldsOf raws) client)) ∧
    (∀ (raws : List String) (client : ServiceClientHeader) (cs : List Bytes) (rest : Bytes),
      Encodable raws → cs.flatten = frame (textBytes raws) ++ rest →
        Decodes (fieldsOf raws) client →
          (provider.Compatible client →
            provider.serve cs = ⟨[provider.serverHeaderBytes], [client.persistent], .ok ()⟩) ∧
          (¬ provider.Compatible client →
            (provider.serve cs).written = [] ∧ (provider.serve cs).rpcTasks = [])) ∧
    (∀ raws : List String, (∀ text, ("type", text) ∉ fieldsOf raws) →
      ¬ ∃ client : ServiceClientHeader, Decodes (fieldsOf raws) client) ∧
    ∀ (service : Service) (callerId : String) (persistent : Bool) (link : ClientLink)
      (cs ds : List Bytes) (rest rest' : Bytes),
      ClientLink.new service callerId persistent = .ok link →
        link.args.probeHeaderBytes.length < 4 + 2 ^ 32 →
          link.args.clientHeaderBytes.length < 4 + 2 ^ 32 →
            cs.flatten = link.args.probeHeaderBytes ++ rest →
              ds.flatten = link.args.clientHeaderBytes ++ rest' →
                provider.serve cs = ⟨[provider.probeHeaderBytes], [], .ok ()⟩ ∧
                (areFieldsCompatible provider.service.spec.md5sum service.spec.md5sum ∧
                    areFieldsCompatible provider.service.spec.msgType service.spec.msgType →
                  provider.serve ds = ⟨[provider.serverHeaderBytes], [persistent], .ok ()⟩) ∧
                (¬ (areFieldsCompatible provider.service.spec.md5sum service.spec.md5sum ∧
                    areFieldsCompatible provider.service.spec.msgType service.spec.msgType) →
                  (provider.serve ds).written = [] ∧ (provider.serve ds).rpcTasks = []) := by
  have hclients (raws : List String) (client : ServiceClientHeader) (cs : List Bytes) (rest : Bytes)
      (henc : Encodable raws) (hcs : cs.flatten = frame (textBytes raws) ++ rest)
      (hclient : Decodes (fieldsOf raws) client) :=
    Listener.serve_client provider (nextFrame_frame henc.size hcs)
      ((fromBytes_textBytes henc).mpr hclient)
  refine ⟨?_, hclients, fun _ => not_decodes_client, ?_⟩
  · intro raws probe cs rest henc hcs hprobe
    constructor
    · rintro hserve ⟨client, hclient⟩
      obtain ⟨hfit, hunfit⟩ := hclients raws client cs rest henc hcs hclient
      by_cases hcompatible : provider.Compatible client
      · rw [hfit hcompatible] at hserve
        cases congrArg Handled.rpcTasks hserve
      · have hwritten := (hunfit hcompatible).1
        rw [hserve] at hwritten
        cases hwritten
    · intro hno
      refine Listener.serve_probe (nextFrame_frame henc.size hcs) (fun client hclient => ?_)
        ((fromBytes_textBytes henc).mpr hprobe)
      exact hno ⟨client, (fromBytes_textBytes henc).mp hclient⟩
  · intro service callerId persistent link cs ds rest rest' hlink hprobe hclient hcs hds
    simp only [ClientLink.new, toBytes_eq] at hlink
    cases hlink
    simp only [List.length_append, le32_length, Nat.add_lt_add_iff_left] at hprobe hclient
    constructor
    · refine Listener.serve_probe (nextFrame_frame hprobe hcs) (fun client hread => ?_)
        (fromBytes_bodyOf _ hprobe)
      obtain ⟨e, he⟩ := fromBytes_probe _ hprobe
      rw [he] at hread
      cases hread
    · exact Listener.serve_client provider (nextFrame_frame hclient hds)
        (fromBytes_bodyOf _ hclient)

def probeTexts : List String := ["probe=1", "callerid=/a", "service=/add", "md5sum=*"]

/-- Fields that decode as neither header are no request. -/
theorem Listener.serve_unknown (provider : Listener) {raws : List String} {cs : List Bytes}
    {rest : Bytes} (henc : Encodable raws) (hcs : cs.flatten = frame (textBytes raws) ++ rest)
    (hclient : ∀ client : ServiceClientHeader, ¬ Decodes (fieldsOf raws) client)
    (hprobe : ∀ probe : ProbeRequestHeader, ¬ Decodes (fieldsOf raws) probe) :
    provider.serve cs = ⟨[], [], .error .unknownRequest⟩ := by
  simp only [serve, handleRequest, nextFrame_frame henc.size hcs, requestKind]
  cases hc : fromBytes ServiceClientHeader (frame (textBytes raws)) with
  | ok client => exact absurd ((fromBytes_textBytes henc).mp hc) (hclient client)
  | error e =>
    cases hp : fromBytes ProbeRequestHeader (frame (textBytes raws)) with
    | ok probe => exact absurd ((fromBytes_textBytes henc).mp hp) (hprobe probe)
    | error e => rfl

theorem decodes_probeTexts :
    Decodes (fieldsOf probeTexts) (⟨"/a", "/add", "*", true⟩ : ProbeRequestHeader) := by
  have hfields : fieldsOf probeTexts =
      [("probe", "1"), ("callerid", "/a"), ("service", "/add"), ("md5sum", "*")] := by decide
  rw [hfields]
  refine ⟨⟨fun p hp => ?_, ?_, ?_, ?_⟩, ?_⟩
  · simp only [List.mem_cons, List.not_mem_nil, or_false] at hp
    rcases hp with rfl | rfl | rfl | rfl <;> exact ⟨by decide, by decide, by decide⟩
  all_goals simp [Header.fields, Header.toValues, textsOf, FieldHolds, textValue]

theorem requests_classified_add : ∃ (provider : Listener) (link : ClientLink),
    Listener.new addService "/server" = .ok provider ∧
      ClientLink.new addService "/client" true = .ok link ∧
      (provider.serve [frame (textBytes probeTexts)] = ⟨[provider.probeHeaderBytes], [], .ok ()⟩ ↔
        ¬ ∃ client : ServiceClientHeader, Decodes (fieldsOf probeTexts) client) ∧
      (∀ client : ServiceClientHeader, ¬ Decodes (fieldsOf probeTexts) client) ∧
      provider.serve [link.args.probeHeaderBytes] = ⟨[provider.probeHeaderBytes], [], .ok ()⟩ ∧
      provider.serve [link.args.clientHeaderBytes] =
        ⟨[provider.serverHeaderBytes], [true], .ok ()⟩ := by
  obtain ⟨link, hlink, -, -, hclient, hprobe⟩ := addService_link
  obtain ⟨provider, hprovider, -⟩ := addService_listener
  have hservice : provider.service = addService := by
    simp only [Listener.new, toBytes_eq] at hprovider
    cases hprovider
    rfl
  have hcs (b : Bytes) : [b].flatten = b ++ [] := by simp
  obtain ⟨hprobes, -, huntyped, hlinks⟩ := requests_classified provider
  obtain ⟨hsent, hfit, -⟩ := hlinks addService "/client" true link _ _ [] [] hlink hprobe hclient
    (hcs _) (hcs _)
  refine ⟨provider, link, hprovider, hlink,
    hprobes probeTexts _ _ [] ⟨by decide, by decide⟩ (hcs _) decodes_probeTexts, ?_, hsent,
    hfit (by rw [hservice]; decide)⟩
  have htype : ∀ text, ("type", text) ∉ fieldsOf probeTexts := by
    have hfields : fieldsOf probeTexts =
        [("probe", "1"), ("callerid", "/a"), ("service", "/add"), ("md5sum", "*")] := by decide
    simp [hfields]
  exact not_exists.mp (huntyped probeTexts htype)

theorem decodes_typed_probe : Decodes (fieldsOf (probeTexts ++ ["type=rospy_tutorials/AddTwoInts"]))
    (⟨"/a", "/add", "*", "rospy_tutorials/AddTwoInts", false⟩ : ServiceClientHeader) := by
  have hfields : fieldsOf (probeTexts ++ ["type=rospy_tutorials/AddTwoInts"]) =
      [("probe", "1"), ("callerid", "/a"), ("service", "/add"), ("md5sum", "*"),
        ("type", "rospy_tutorials/AddTwoInts")] := by decide
  rw [hfields]
  refine ⟨⟨?_, ?_, ?_, ?_⟩, ?_⟩
  · intro p hp
    simp only [List.mem_cons, List.not_mem_nil, or_false] at hp
    rcases hp with rfl | rfl | rfl | rfl | rfl <;> exact ⟨by decide, by decide, by decide⟩
  all_goals simp [Header.fields, Header.toValues, textsOf, FieldHolds, textValue]

theorem bodyOf_probe_length (n : ℕ) :
    (bodyOf (ProbeRequestHeader.mk (.ofList (.replicate n 'a')) "/add" "*" true)).length =
      52 + n := by
  have hbody : bodyOf (ProbeRequestHeader.mk (.ofList (.replicate n 'a')) "/add" "*" true) =
      frameField ("callerid", .ofList (.replicate n 'a')) ++
        fieldBytes [("service", "/add"), ("md5sum", "*"), ("probe", "1")] := by
    simp [bodyOf, encodedFields, Header.fields, Header.toValues, Value.text]
  have hkey : (asBytes ("callerid" ++ "=")).length = 9 := by decide
  have hfields : (fieldBytes [("service", "/add"), ("md5sum", "*"), ("probe", "1")]).length =
      39 := by decide
  rw [hbody, List.length_append, hfields, frameField, List.length_append, le32_length,
    asBytes_append, List.length_append, hkey, asBytes_replicate]
  omega

/-- A probe that has a type is taken for a client's header; one with an error or with a field twice
is not answered, nor is one whose caller id makes its body 2 ^ 32 bytes long. -/
theorem probes_misread : ∃ provider, Listener.new addService "/server" = .ok provider ∧
    provider.serve [frame (textBytes (probeTexts ++ ["type=rospy_tutorials/AddTwoInts"]))] =
      ⟨[provider.serverHeaderBytes], [false], .ok ()⟩ ∧
    (provider.serve [frame (textBytes (probeTexts ++ ["error=gone"]))]).written = [] ∧
    (provider.serve [frame (textBytes (probeTexts ++ ["service=/add"]))]).written = [] ∧
    ∃ callerId link, callerId = .ofList (.replicate (2 ^ 32 - 52) 'a') ∧
      ClientLink.new addService callerId false = .ok link ∧
      (provider.serve [link.args.probeHeaderBytes]).written = [] := by
  obtain ⟨provider, hprovider, -⟩ := addService_listener
  have hservice : provider.service = addService := by
    simp only [Listener.new, toBytes_eq] at hprovider
    cases hprovider
    rfl
  have hcs (b : Bytes) : [b].flatten = b ++ [] := by simp
  have herror : fieldsOf (probeTexts ++ ["error=gone"]) = [("probe", "1"), ("callerid", "/a"),
      ("service", "/add"), ("md5sum", "*"), ("error", "gone")] := by decide
  have htwice : fieldsOf (probeTexts ++ ["service=/add"]) = [("probe", "1"), ("callerid", "/a"),
      ("service", "/add"), ("md5sum", "*"), ("service", "/add")] := by decide
  refine ⟨provider, hprovider, ?_, ?_, ?_, ?_⟩
  · have henc : Encodable (probeTexts ++ ["type=rospy_tutorials/AddTwoInts"]) :=
      ⟨by decide, by decide⟩
    apply (Listener.serve_client provider (nextFrame_frame henc.size (hcs _))
      ((fromBytes_textBytes henc).mpr decodes_typed_probe)).1
    rw [Listener.Compatible, hservice]
    decide
  · have hno {T : Type} [Header T] (value : T) :
        ¬ Decodes (fieldsOf (probeTexts ++ ["error=gone"])) value := by
      intro hdecodes
      exact (hdecodes.plain ("error", "gone") (by simp [herror])).no_error rfl
    rw [Listener.serve_unknown provider ⟨by decide, by decide⟩ (hcs _) hno hno]
  · have hno {T : Type} [Header T] (hf : ⟨"service", .str, none⟩ ∈ Header.fields T) (value : T) :
        ¬ Decodes (fieldsOf (probeTexts ++ ["service=/add"])) value := by
      intro hdecodes
      have hunique := hdecodes.unique _ hf
      rw [htwice] at hunique
      simp [textsOf] at hunique
    rw [Listener.serve_unknown provider ⟨by decide, by decide⟩ (hcs _)
      (hno (by simp [Header.fields])) (hno (by simp [Header.fields]))]
  · obtain ⟨callerId, hcallerId⟩ : ∃ callerId : String,
        callerId = .ofList (.replicate (2 ^ 32 - 52) 'a') := ⟨_, rfl⟩
    have hlength : (bodyOf (ProbeRequestHeader.mk callerId "/add" "*" true)).length = 2 ^ 32 := by
      rw [hcallerId, bodyOf_probe_length]
      omega
    obtain ⟨link, hlink, hbytes⟩ : ∃ link, ClientLink.new addService callerId false = .ok link ∧
        link.args.probeHeaderBytes =
          frame (bodyOf (ProbeRequestHeader.mk callerId "/add" "*" true)) := by
      simp only [ClientLink.new, toBytes_eq]
      exact ⟨_, rfl, rfl⟩
    refine ⟨callerId, link, hcallerId, hlink, ?_⟩
    have hempty : [link.args.probeHeaderBytes].flatten = frame (textBytes []) ++
        bodyOf (ProbeRequestHeader.mk callerId "/add" "*" true) := by
      rw [hbytes, frame, hlength]
      simp [frame, textBytes]
    have hno {T : Type} [Header T] (hf : ⟨"service", .str, none⟩ ∈ Header.fields T) (value : T) :
        ¬ Decodes (fieldsOf []) value := by
      intro hdecodes
      obtain ⟨text, htext⟩ := hdecodes.occurs _ hf rfl
      cases htext
    rw [Listener.serve_unknown provider ⟨by simp, by decide⟩ hempty (hno (by simp [Header.fields]))
      (hno (by simp [Header.fields]))]

end RosrustAsync
