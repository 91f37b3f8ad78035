import RosrustAsync.FrameStream
import RosrustAsync.Network

namespace RosrustAsync

inductive ClientLinkError : Type
  | io (error : IoError)
  | header (error : HeaderError)
  | masterClient (error : MasterClientError)
  | urlParse (error : UrlParseError)
  | serviceResolution (serviceUrl : String) (error : IoError)
  | noServiceAddresses (serviceUrl : String)
  | incompatible (error : CompatibilityError)
  | invalidStatusCode (code : UInt8)
  | rpcFailure (message : String)

def rpcSuccess : UInt8 := 1
def rpcFailure : UInt8 := 0

/-- A connection, seen from the client. -/
structure TcpStream where
  -- written by the client and not yet read
  toServer : Bytes
  -- all that the server has written, and how much of it the client has read
  fromServer : Bytes
  read : ℕ
  clientOpen : Bool
  serverOpen : Bool

namespace TcpStream

def connected : TcpStream := ⟨[], [], 0, true, true⟩

def unread (self : TcpStream) : Bytes := self.fromServer.drop self.read

/-- `read_u8`, which waits for a byte or the end of the stream. -/
def readU8 (self : TcpStream) : Option (Except IoError UInt8 × TcpStream) :=
  match self.unread with
  | b :: _ => some (.ok b, { self with read := self.read + 1 })
  | [] => if self.serverOpen then none else some (.error .unexpectedEof, self)

/-- `read_tcpros_frame`, which waits for a frame or the end of the stream. -/
def readFrame (self : TcpStream) : Option (Except IoError Bytes × TcpStream) :=
  match readTcprosFrame [self.unread] with
  | .ok (frame, _) => some (.ok frame, { self with read := self.read + frame.length })
  | .error e =>
    if self.serverOpen then none else some (.error e, { self with read := self.fromServer.length })

end TcpStream

structure RpcMsg where
  data : Bytes
  replyTx : ℕ

structure ConnectionState where
  address : SocketAddr
  tcpStream : ℕ
  serverHeader : ServiceServerHeader

/-- What `rpc_task` waits for. -/
inductive ClientPc : Type
  | select
  | lookup (msg : RpcMsg)
  | probeConnect (msg : RpcMsg) (address : SocketAddr)
  | probeWrite (msg : RpcMsg) (address : SocketAddr) (stream : ℕ)
  | probeRead (msg : RpcMsg) (address : SocketAddr) (stream : ℕ)
  | connect (msg : RpcMsg) (address : SocketAddr)
  | headerWrite (msg : RpcMsg) (address : SocketAddr) (stream : ℕ)
  | headerRead (msg : RpcMsg) (address : SocketAddr) (stream : ℕ)
  | request (msg : RpcMsg) (connection : ConnectionState)
  | status (msg : RpcMsg) (connection : ConnectionState)
  | success (msg : RpcMsg) (connection : ConnectionState)
  | failure (msg : RpcMsg) (connection : ConnectionState)
  | exited

structure ClientArgs where
  service : Service
  persistent : Bool
  clientHeaderBytes : Bytes
  probeHeaderBytes : Bytes

structure ClientLink where
  args : ClientArgs
  connectionState : Option ConnectionState
  pc : ClientPc
  rpcRx : List RpcMsg
  streams : List TcpStream
  -- the calls that have entered the queue, and the replies given
  calls : ℕ
  replies : List (ℕ × Except ClientLinkError Bytes)

namespace ClientLink

def new (service : Service) (callerId : String) (persistent : Bool) :
    Except HeaderError ClientLink := do
  let probeHeaderBytes ← toBytes
    (⟨callerId, service.name, service.spec.md5sum, true⟩ : ProbeRequestHeader)
  let clientHeaderBytes ← toBytes (⟨callerId, service.name, service.spec.md5sum,
    service.spec.msgType, persistent⟩ : ServiceClientHeader)
  .ok ⟨⟨service, persistent, clientHeaderBytes, probeHeaderBytes⟩, none, .select, [], [], 0, []⟩

def reply (self : ClientLink) (msg : RpcMsg) (result : Except ClientLinkError Bytes) : ClientLink :=
  { self with pc := .select, replies := self.replies ++ [(msg.replyTx, result)] }

def modifyStream (self : ClientLink) (i : ℕ) (f : TcpStream → TcpStream) : ClientLink :=
  { self with streams := self.streams.modify i f }

theorem modifyStream_pc (self : ClientLink) (i : ℕ) (f : TcpStream → TcpStream) :
    (self.modifyStream i f).pc = self.pc := rfl

theorem modifyStream_args (self : ClientLink) (i : ℕ) (f : TcpStream → TcpStream) :
    (self.modifyStream i f).args = self.args := rfl

/-- The end of a `TcpStream` value. -/
def close (self : ClientLink) (i : ℕ) : ClientLink :=
  self.modifyStream i fun stream => { stream with clientOpen := false }

/-- What follows `handle_rpc`. -/
def endRpc (self : ClientLink) (msg : RpcMsg) (connection : ConnectionState)
    (result : Except ClientLinkError Bytes) : ClientLink :=
  if self.args.persistent then { self with connectionState := some connection }.reply msg result
  else (self.close connection.tcpStream).reply msg result

def resolveAddress (serviceUrl : Except MasterClientError String)
    (parse : Except UrlParseError Unit) (addrs : Except IoError (List SocketAddr)) :
    Except ClientLinkError SocketAddr := do
  let serviceUrl ← serviceUrl.mapError .masterClient
  parse.mapError .urlParse
  match ← addrs.mapError (.serviceResolution serviceUrl) with
  | address :: _ => .ok address
  | [] => .error (.noServiceAddresses serviceUrl)

/-- `header::from_async_read`, of a frame that has been read. -/
def decodeHeader (T : Type) [Header T] : Except IoError Bytes → Except HeaderError T
  | .ok frame => fromBytes T frame
  | .error e => .error (.io e)

def probeResult (service : Service) (frame : Except IoError Bytes) : Except ClientLinkError Unit := do
  let probeResponse ← (decodeHeader ProbeResponseHeader frame).mapError .header
  (validateServerCompatibility service probeResponse).mapError .incompatible

section Steps

-- `String::decode`
variable (decodeString : Bytes → Except IoError String)

def failureResult : Except IoError Bytes → ClientLinkError
  | .ok errorMsgBytes =>
    match decodeString errorMsgBytes with
    | .ok errorMsg => .rpcFailure errorMsg
    | .error e => .io e
  | .error e => .io e

def wrote (self : ClientLink) (result : Except IoError Unit) : Option ClientLink :=
  match self.pc, result with
  | .probeWrite msg address i, .ok _ => some { self with pc := .probeRead msg address i }
  | .headerWrite msg address i, .ok _ => some { self with pc := .headerRead msg address i }
  | .request msg connection, .ok _ => some { self with pc := .status msg connection }
  | .probeWrite msg _ i, .error e | .headerWrite msg _ i, .error e =>
    some ((self.close i).reply msg (.error (.io e)))
  | .request msg connection, .error e => some (self.endRpc msg connection (.error (.io e)))
  | _, _ => none

def receivedFrame (self : ClientLink) (frame : Except IoError Bytes) : Option ClientLink :=
  match self.pc with
  | .probeRead msg address i =>
    match probeResult self.args.service frame with
    | .ok _ => some { self.close i with pc := .connect msg address }
    | .error e => some ((self.close i).reply msg (.error e))
  | .headerRead msg address i =>
    match decodeHeader ServiceServerHeader frame with
    | .ok serverHeader => some { self with pc := .request msg ⟨address, i, serverHeader⟩ }
    | .error e => some ((self.close i).reply msg (.error (.header e)))
  | .success msg connection => some (self.endRpc msg connection (frame.mapError .io))
  | .failure msg connection =>
    some (self.endRpc msg connection (.error (failureResult decodeString frame)))
  | _ => none

def receivedStatus (self : ClientLink) (msg : RpcMsg) (connection : ConnectionState) :
    Except IoError UInt8 → ClientLink
  | .ok code =>
    if code = rpcSuccess then { self with pc := .success msg connection }
    else if code = rpcFailure then { self with pc := .failure msg connection }
    else self.endRpc msg connection (.error (.invalidStatusCode code))
  | .error e => self.endRpc msg connection (.error (.io e))

/-- What the task writes next, and to which connection. -/
def outgoing (self : ClientLink) : Option (ℕ × Bytes) :=
  match self.pc with
  | .probeWrite _ _ i => some (i, self.args.probeHeaderBytes)
  | .headerWrite _ _ i => some (i, self.args.clientHeaderBytes)
  | .request msg connection => some (connection.tcpStream, msg.data)
  | _ => none

/-- The connection that the task reads from. -/
def incoming (self : ClientLink) : Option ℕ :=
  match self.pc with
  | .probeRead _ _ i | .headerRead _ _ i => some i
  | .status _ connection | .success _ connection | .failure _ connection =>
    some connection.tcpStream
  | _ => none

inductive Label : Type
  | call (data : Bytes)
  | recv
  | resolve (serviceUrl : Except MasterClientError String) (parse : Except UrlParseError Unit)
      (addrs : Except IoError (List SocketAddr))
  | connect (result : Except IoError Unit)
  | write
  | writeError (error : IoError) (torn : ℕ)
  | read
  | readError (error : IoError) (torn : ℕ)
  | cancelled

def step (self : ClientLink) : Label → Option ClientLink
  | .call data =>
    match self.pc with
    | .exited => none
    | _ => some { self with
        rpcRx := self.rpcRx ++ [⟨data, self.calls⟩]
        calls := self.calls + 1 }
  | .recv =>
    match self.pc, self.rpcRx, self.connectionState with
    | .select, msg :: rpcRx, some connection =>
      some { self with rpcRx, connectionState := none, pc := .request msg connection }
    | .select, msg :: rpcRx, none => some { self with rpcRx, pc := .lookup msg }
    | _, _, _ => none
  | .resolve serviceUrl parse addrs =>
    match self.pc with
    | .lookup msg =>
      match resolveAddress serviceUrl parse addrs with
      | .ok address => some { self with pc := .probeConnect msg address }
      | .error e => some (self.reply msg (.error e))
    | _ => none
  | .connect (.ok _) =>
    match self.pc with
    | .probeConnect msg address => some { self with
        streams := self.streams ++ [.connected]
        pc := .probeWrite msg address self.streams.length }
    | .connect msg address => some { self with
        streams := self.streams ++ [.connected]
        pc := .headerWrite msg address self.streams.length }
    | _ => none
  | .connect (.error e) =>
    match self.pc with
    | .probeConnect msg _ | .connect msg _ => some (self.reply msg (.error (.io e)))
    | _ => none
  | .write => do
    let (i, bytes) ← self.outgoing
    (self.modifyStream i fun stream =>
      { stream with toServer := stream.toServer ++ bytes }).wrote (.ok ())
  | .writeError error torn => do
    let (i, bytes) ← self.outgoing
    (self.modifyStream i fun stream =>
      { stream with toServer := stream.toServer ++ bytes.take torn }).wrote (.error error)
  | .read => do
    let i ← self.incoming
    let stream ← self.streams[i]?
    match self.pc with
    | .status msg connection => do
      let (code, stream) ← stream.readU8
      some ((self.modifyStream i fun _ => stream).receivedStatus msg connection code)
    | _ => do
      let (frame, stream) ← stream.readFrame
      (self.modifyStream i fun _ => stream).receivedFrame decodeString frame
  | .readError error torn => do
    let i ← self.incoming
    let self := self.modifyStream i fun stream =>
      { stream with read := min (stream.read + torn) stream.fromServer.length }
    match self.pc with
    | .status msg connection => some (self.receivedStatus msg connection (.error error))
    | _ => self.receivedFrame decodeString (.error error)
  | .cancelled =>
    match self.pc with
    | .select =>
      let self := match self.connectionState with
        | some connection => self.close connection.tcpStream
        | none => self
      some { self with pc := .exited, connectionState := none, rpcRx := [] }
    | _ => none

/-! The arguments stay as they are. -/

variable {decodeString} {link link' : ClientLink}

theorem endRpc_args (msg : RpcMsg) (connection : ConnectionState)
    (result : Except ClientLinkError Bytes) : (link.endRpc msg connection result).args = link.args := by
  unfold endRpc
  split <;> rfl

theorem wrote_args {result : Except IoError Unit} (h : link.wrote result = some link') :
    link'.args = link.args := by
  unfold wrote at h
  split at h <;> cases h <;> first | rfl | exact endRpc_args _ _ _

theorem receivedFrame_args {frame : Except IoError Bytes}
    (h : link.receivedFrame decodeString frame = some link') : link'.args = link.args := by
  unfold receivedFrame at h
  split at h
  · split at h <;> cases h <;> rfl
  · split at h <;> cases h <;> rfl
  · cases h
    exact endRpc_args _ _ _
  · cases h
    exact endRpc_args _ _ _
  · cases h

theorem receivedStatus_args (msg : RpcMsg) (connection : ConnectionState)
    (code : Except IoError UInt8) : (link.receivedStatus msg connection code).args = link.args := by
  unfold receivedStatus
  split
  · split
    · rfl
    · split
      · rfl
      · exact endRpc_args _ _ _
  · exact endRpc_args _ _ _

theorem step_args {label : Label} (h : link.step decodeString label = some link') :
    link'.args = link.args := by
  cases label with
  | call data | recv =>
    simp only [step] at h
    split at h <;> cases h <;> rfl
  | resolve serviceUrl parse addrs =>
    simp only [step] at h
    split at h
    · split at h <;> cases h <;> rfl
    · cases h
  | connect result =>
    cases result <;> simp only [step] at h <;> split at h <;> cases h <;> rfl
  | cancelled =>
    simp only [step] at h
    split at h
    · cases h
      cases link.connectionState <;> rfl
    · cases h
  | write =>
    obtain ⟨⟨i, bytes⟩, -, h⟩ := Option.bind_eq_some_iff.mp h
    have hargs := wrote_args h
    exact hargs
  | writeError error torn =>
    obtain ⟨⟨i, bytes⟩, -, h⟩ := Option.bind_eq_some_iff.mp h
    have hargs := wrote_args h
    exact hargs
  | read =>
    obtain ⟨i, -, h⟩ := Option.bind_eq_some_iff.mp h
    obtain ⟨stream, -, h⟩ := Option.bind_eq_some_iff.mp h
    split at h
    · obtain ⟨⟨code, stream⟩, -, h⟩ := Option.bind_eq_some_iff.mp h
      cases h
      exact receivedStatus_args _ _ _
    · obtain ⟨⟨frame, stream⟩, -, h⟩ := Option.bind_eq_some_iff.mp h
      have hargs := receivedFrame_args h
      exact hargs
  | readError error torn =>
    obtain ⟨i, -, h⟩ := Option.bind_eq_some_iff.mp h
    simp only at h
    split at h
    · cases h
      exact receivedStatus_args _ _ _
    · have hargs := receivedFrame_args h
      exact hargs

end Steps

end ClientLink

end RosrustAsync
