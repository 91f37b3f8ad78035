import RosrustAsync.Compatibility
import RosrustAsync.Lib.Text

namespace RosrustAsync

inductive HeaderError : Type
  | invalidLength (message : String)
  | invalidFormat (rawField : String)
  | invalidUtf8 (bytes : Bytes)
  | io (error : IoError)
  | serde (message : String)
  | tcpRosProtocol (message : String)
  deriving DecidableEq

/-! The six headers, and what `derive(Serialize, Deserialize)` knows of each. -/

inductive Kind : Type
  | str
  | bool
  deriving DecidableEq

inductive Value : Type
  | str (s : String)
  | bool (b : Bool)
  deriving DecidableEq

def Value.kind : Value → Kind
  | .str _ => .str
  | .bool _ => .bool

structure Field where
  key : String
  kind : Kind
  default : Option Value

/-- A header struct: its fields in declaration order under their renamed keys. -/
class Header (T : Type) where
  fields : List Field
  toValues : T → List Value
  ofValues : List Value → Option T
  kinds : ∀ h, (toValues h).map Value.kind = fields.map Field.kind
  ofValues_toValues : ∀ h, ofValues (toValues h) = some h
  exists_ofValues : ∀ vs, vs.map Value.kind = fields.map Field.kind →
    ∃ h, ofValues vs = some h ∧ toValues h = vs
  keys_nodup : (fields.map Field.key).Nodup
  key_plain : ∀ f ∈ fields, '=' ∉ f.key.toList ∧ f.key ≠ "error"
  default_kind : ∀ f ∈ fields, ∀ v, f.default = some v → v.kind = f.kind

def defaultCallerid : String := "unknown callerid"

structure PublisherHeader where
  callerId : String
  topic : String
  md5sum : String
  msgType : String
  msgDefinition : String
  latching : Bool
  deriving DecidableEq

structure SubscriberHeader where
  callerId : String
  topic : String
  md5sum : String
  msgType : String
  msgDefinition : String
  tcpNodelay : Bool
  deriving DecidableEq

structure ServiceClientHeader where
  callerId : String
  service : String
  md5sum : String
  msgType : String
  persistent : Bool
  deriving DecidableEq

structure ProbeRequestHeader where
  callerId : String
  service : String
  md5sum : String
  probe : Bool
  deriving DecidableEq

structure ProbeResponseHeader where
  callerId : String
  md5sum : String
  msgType : String
  deriving DecidableEq

structure ServiceServerHeader where
  callerId : String
  deriving DecidableEq

instance : Header PublisherHeader where
  fields :=
    [⟨"callerid", .str, some (.str defaultCallerid)⟩, ⟨"topic", .str, none⟩,
      ⟨"md5sum", .str, none⟩, ⟨"type", .str, none⟩,
      ⟨"message_definition", .str, some (.str "")⟩, ⟨"latching", .bool, some (.bool false)⟩]
  toValues h :=
    [.str h.callerId, .str h.topic, .str h.md5sum, .str h.msgType, .str h.msgDefinition,
      .bool h.latching]
  ofValues
    | [.str callerId, .str topic, .str md5sum, .str msgType, .str msgDefinition, .bool latching] =>
      some ⟨callerId, topic, md5sum, msgType, msgDefinition, latching⟩
    | _ => none
  kinds _ := rfl
  ofValues_toValues _ := rfl
  exists_ofValues vs h := by
    match vs, h with
    | [.str _, .str _, .str _, .str _, .str _, .bool _], _ => exact ⟨_, rfl, rfl⟩
  keys_nodup := by decide
  key_plain := by decide
  default_kind := by simp [Value.kind]

instance : Header SubscriberHeader where
  fields :=
    [⟨"callerid", .str, none⟩, ⟨"topic", .str, none⟩, ⟨"md5sum", .str, none⟩,
      ⟨"type", .str, none⟩, ⟨"message_definition", .str, some (.str "")⟩,
      ⟨"tcp_nodelay", .bool, some (.bool false)⟩]
  toValues h :=
    [.str h.callerId, .str h.topic, .str h.md5sum, .str h.msgType, .str h.msgDefinition,
      .bool h.tcpNodelay]
  ofValues
    | [.str callerId, .str topic, .str md5sum, .str msgType, .str msgDefinition, .bool tcpNodelay] =>
      some ⟨callerId, topic, md5sum, msgType, msgDefinition, tcpNodelay⟩
    | _ => none
  kinds _ := rfl
  ofValues_toValues _ := rfl
  exists_ofValues vs h := by
    match vs, h with
    | [.str _, .str _, .str _, .str _, .str _, .bool _], _ => exact ⟨_, rfl, rfl⟩
  keys_nodup := by decide
  key_plain := by decide
  default_kind := by simp [Value.kind]

instance : Header ServiceClientHeader where
  fields :=
    [⟨"callerid", .str, some (.str defaultCallerid)⟩, ⟨"service", .str, none⟩,
      ⟨"md5sum", .str, none⟩, ⟨"type", .str, none⟩, ⟨"persistent", .bool, some (.bool false)⟩]
  toValues h :=
    [.str h.callerId, .str h.service, .str h.md5sum, .str h.msgType, .bool h.persistent]
  ofValues
    | [.str callerId, .str service, .str md5sum, .str msgType, .bool persistent] =>
      some ⟨callerId, service, md5sum, msgType, persistent⟩
    | _ => none
  kinds _ := rfl
  ofValues_toValues _ := rfl
  exists_ofValues vs h := by
    match vs, h with
    | [.str _, .str _, .str _, .str _, .bool _], _ => exact ⟨_, rfl, rfl⟩
  keys_nodup := by decide
  key_plain := by decide
  default_kind := by simp [Value.kind]

instance : Header ProbeRequestHeader where
  fields :=
    [⟨"callerid", .str, none⟩, ⟨"service", .str, none⟩, ⟨"md5sum", .str, none⟩,
      ⟨"probe", .bool, none⟩]
  toValues h := [.str h.callerId, .str h.service, .str h.md5sum, .bool h.probe]
  ofValues
    | [.str callerId, .str service, .str md5sum, .bool probe] =>
      some ⟨callerId, service, md5sum, probe⟩
    | _ => none
  kinds _ := rfl
  ofValues_toValues _ := rfl
  exists_ofValues vs h := by
    match vs, h with
    | [.str _, .str _, .str _, .bool _], _ => exact ⟨_, rfl, rfl⟩
  keys_nodup := by decide
  key_plain := by decide
  default_kind := by simp

instance : Header ProbeResponseHeader where
  fields :=
    [⟨"callerid", .str, some (.str defaultCallerid)⟩, ⟨"md5sum", .str, none⟩,
      ⟨"type", .str, none⟩]
  toValues h := [.str h.callerId, .str h.md5sum, .str h.msgType]
  ofValues
    | [.str callerId, .str md5sum, .str msgType] => some ⟨callerId, md5sum, msgType⟩
    | _ => none
  kinds _ := rfl
  ofValues_toValues _ := rfl
  exists_ofValues vs h := by
    match vs, h with
    | [.str _, .str _, .str _], _ => exact ⟨_, rfl, rfl⟩
  keys_nodup := by decide
  key_plain := by decide
  default_kind := by simp [Value.kind]

instance : Header ServiceServerHeader where
  fields := [⟨"callerid", .str, some (.str defaultCallerid)⟩]
  toValues h := [.str h.callerId]
  ofValues
    | [.str callerId] => some ⟨callerId⟩
    | _ => none
  kinds _ := rfl
  ofValues_toValues _ := rfl
  exists_ofValues vs h := by
    match vs, h with
    | [.str _], _ => exact ⟨_, rfl, rfl⟩
  keys_nodup := by decide
  key_plain := by decide
  default_kind := by simp [Value.kind]

/-! Validation of a decoded header against the other side. -/

def validatePubsubCompatibility (publisher : PublisherHeader) (subscriber : SubscriberHeader) :
    Except CompatibilityError Unit :=
  validateFields publisher.md5sum subscriber.md5sum publisher.msgType subscriber.msgType

def validateServerCompatibility (service : Service) (probeResponse : ProbeResponseHeader) :
    Except CompatibilityError Unit :=
  validateFields service.spec.md5sum probeResponse.md5sum service.spec.msgType
    probeResponse.msgType

def validateClientCompatibility (service : Service) (client : ServiceClientHeader) :
    Except CompatibilityError Unit :=
  validateFields service.spec.md5sum client.md5sum service.spec.msgType client.msgType

end RosrustAsync
