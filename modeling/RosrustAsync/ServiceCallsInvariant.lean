import RosrustAsync.Lib.Slots
import RosrustAsync.ServiceAgreement

namespace RosrustAsync

/-! A client and a server that are never out of step. -/

namespace ClientPc

def msg : ClientPc → Option RpcMsg
  | .lookup msg | .probeConnect msg _ | .probeWrite msg _ _ | .probeRead msg _ _ | .connect msg _
  | .headerWrite msg _ _ | .headerRead msg _ _ | .request msg _ | .status msg _ | .success msg _
  | .failure msg _ => some msg
  | .select | .exited => none

end ClientPc

/-! How much is left to do for a call. -/

def ServerPc.rank (toServer : Bytes) : ServerPc → ℕ
  | .backlog => 5
  | .header => 4
  | .probe | .greet _ => 3
  | .read _ => if toServer = [] then 0 else 4
  | .callback _ _ => 3
  | .status _ _ => 2
  | .body _ _ => 1
  | .closed => 0

def ClientPc.rank : ClientPc → ℕ
  | .lookup _ => 90
  | .probeConnect _ _ => 80
  | .probeWrite _ _ _ => 70
  | .probeRead _ _ _ => 60
  | .connect _ _ => 50
  | .headerWrite _ _ _ => 40
  | .headerRead _ _ _ => 30
  | .request _ _ => 20
  | .status _ _ => 14
  | .success _ _ | .failure _ _ => 8
  | .select | .exited => 0

theorem ServerPc.rank_le (toServer : Bytes) (pc : ServerPc) : pc.rank toServer ≤ 5 := by
  cases pc <;> simp only [ServerPc.rank] <;> first | omega | (split <;> omega)

/-- What the client is about to do with the connection it has. -/
inductive ClientView : Type
  | probeWrite
  | probeRead
  | headerWrite
  | headerRead
  | ready
  | status (data : Bytes)
  | success (data : Bytes)
  | failure (data : Bytes)

namespace ClientLink

def view (self : ClientLink) : Option (ℕ × ClientView) :=
  match self.pc with
  | .probeWrite _ _ i => some (i, .probeWrite)
  | .probeRead _ _ i => some (i, .probeRead)
  | .headerWrite _ _ i => some (i, .headerWrite)
  | .headerRead _ _ i => some (i, .headerRead)
  | .request _ connection => some (connection.tcpStream, .ready)
  | .status msg connection => some (connection.tcpStream, .status msg.data)
  | .success msg connection => some (connection.tcpStream, .success msg.data)
  | .failure msg connection => some (connection.tcpStream, .failure msg.data)
  | .select => self.connectionState.map fun connection => (connection.tcpStream, .ready)
  | .lookup _ | .probeConnect _ _ | .connect _ _ | .exited => none

end ClientLink

namespace ServiceCalls

def replyBody : Except String Bytes → Bytes
  | .ok response => response
  | .error e => frame (asBytes e)

def outcome : Except String Bytes → Except ClientLinkError Bytes
  | .ok response => .ok response
  | .error e => .error (.rpcFailure e)

inductive AfterBody (persistent : Bool) : ServerPc → Prop
  | kept (h : persistent = true) : AfterBody persistent (.read persistent)
  | closed (h : persistent = false) : AfterBody persistent .closed

inductive Awaiting : ServerPc → Prop
  | backlog : Awaiting .backlog
  | header : Awaiting .header

/-- The joint states of the client and the server of one connection: the bytes on their way to the
server and to the client, and whether the callback has been called for the request under way. -/
inductive Joint (args : ClientArgs) (provider : Listener) (callback : Bytes → Except String Bytes) :
    ClientView → Bytes → Bytes → ServerPc → Bool → Prop
  | probeOpen {pc : ServerPc} (hpc : Awaiting pc) :
    Joint args provider callback .probeWrite [] [] pc false
  | probeSent {pc : ServerPc} (hpc : Awaiting pc) :
    Joint args provider callback .probeRead args.probeHeaderBytes [] pc false
  | probeSeen : Joint args provider callback .probeRead [] [] .probe false
  | probeDone :
    Joint args provider callback .probeRead [] provider.probeHeaderBytes .closed false
  | headerOpen {pc : ServerPc} (hpc : Awaiting pc) :
    Joint args provider callback .headerWrite [] [] pc false
  | headerSent {pc : ServerPc} (hpc : Awaiting pc) :
    Joint args provider callback .headerRead args.clientHeaderBytes [] pc false
  | headerSeen {client : ServiceClientHeader} (hclient : client.persistent = args.persistent) :
    Joint args provider callback .headerRead [] [] (.greet client) false
  | headerDone : Joint args provider callback .headerRead [] provider.serverHeaderBytes
    (.read args.persistent) false
  | ready : Joint args provider callback .ready [] [] (.read args.persistent) false
  | asked (data : Bytes) :
    Joint args provider callback (.status data) data [] (.read args.persistent) false
  | calling (data : Bytes) :
    Joint args provider callback (.status data) [] [] (.callback args.persistent data) false
  | called (data : Bytes) : Joint args provider callback (.status data) [] []
    (.status args.persistent (callback data)) true
  | statusSent (data : Bytes) : Joint args provider callback (.status data) []
    [statusByte (callback data)] (.body args.persistent (callback data)) true
  | bodySent (data : Bytes) {pc : ServerPc} (hpc : AfterBody args.persistent pc) :
    Joint args provider callback (.status data) []
      (statusByte (callback data) :: replyBody (callback data)) pc true
  | success {data response : Bytes} (hdata : callback data = .ok response) :
    Joint args provider callback (.success data) [] [] (.body args.persistent (callback data)) true
  | successDone {data response : Bytes} (hdata : callback data = .ok response) {pc : ServerPc}
    (hpc : AfterBody args.persistent pc) :
    Joint args provider callback (.success data) [] response pc true
  | failure {data : Bytes} {e : String} (hdata : callback data = .error e) :
    Joint args provider callback (.failure data) [] [] (.body args.persistent (callback data)) true
  | failureDone {data : Bytes} {e : String} (hdata : callback data = .error e) {pc : ServerPc}
    (hpc : AfterBody args.persistent pc) :
    Joint args provider callback (.failure data) [] (frame (asBytes e)) pc true

/-- The listener is in `handle_request` with the connection. -/
def Handled : ServerPc → Prop
  | .header | .probe | .greet _ => True
  | _ => False

/-- The calls in the order they entered the queue, each with its number. -/
def tickets (entered : List Bytes) : List RpcMsg := entered.mapIdx fun i data => ⟨data, i⟩

variable {callback : Bytes → Except String Bytes} {s t : ServiceCalls} {called : Bool}

def Current (callback : Bytes → Except String Bytes) (s : ServiceCalls) (called : Bool) : Prop :=
  match s.link.view with
  | some (i, v) => ∃ stream, s.link.streams[i]? = some stream ∧ stream.clientOpen = true ∧
      (s.servers i ≠ .closed → stream.serverOpen = true) ∧
      stream.read ≤ stream.fromServer.length ∧
      Joint s.link.args s.provider callback v stream.toServer stream.unread (s.servers i) called
  | none => called = false

structure Accounts (callback : Bytes → Except String Bytes) (link : ClientLink)
    (entered : List Bytes) : Prop where
  calls : link.calls = entered.length
  waiting : (tickets entered).drop link.replies.length = link.pc.msg.toList ++ link.rpcRx
  replies : link.replies = ((tickets entered).take link.replies.length).map
    fun msg => (msg.replyTx, outcome (callback msg.data))
  frames : ∀ data ∈ entered, IsFrame data

structure Invariant (callback : Bytes → Except String Bytes) (s : ServiceCalls) (called : Bool) :
    Prop where
  accounts : Accounts callback s.link s.entered
  current : Current callback s called
  invoked : s.invoked = s.entered.take (s.link.replies.length + called.toNat)
  running : s.link.pc ≠ .exited
  kept : s.link.pc ≠ .select → s.link.connectionState = none
  backlog : ∀ i, s.servers i = .backlog ↔ s.accepted ≤ i
  accepted_le : s.accepted ≤ s.link.streams.length
  handling : ∀ i, s.handling = some i ↔ Handled (s.servers i)
  others : ∀ i < s.link.streams.length, (∀ v, s.link.view ≠ some (i, v)) → s.servers i = .closed

section Joint

variable {args : ClientArgs} {provider : Listener} {v : ClientView} {up down : Bytes}
  {client : ServiceClientHeader} {persistent : Bool} {data : Bytes} {result : Except String Bytes}

theorem afterBody (persistent : Bool) :
    AfterBody persistent (if persistent then .read persistent else .closed) := by
  cases persistent with
  | true => exact .kept rfl
  | false => exact .closed rfl

theorem Joint.accept (h : Joint args provider callback v up down .backlog called) :
    Joint args provider callback v up down .header called := by
  cases h with
  | probeOpen hpc => exact .probeOpen .header
  | probeSent hpc => exact .probeSent .header
  | headerOpen hpc => exact .headerOpen .header
  | headerSent hpc => exact .headerSent .header
  | bodySent data hpc | successDone hdata hpc | failureDone hdata hpc => cases hpc

theorem Joint.header (h : Joint args provider callback v up down .header called) :
    down = [] ∧ called = false ∧ (up = [] ∨ v = .probeRead ∧ up = args.probeHeaderBytes ∨
      v = .headerRead ∧ up = args.clientHeaderBytes) := by
  cases h with
  | probeOpen hpc | headerOpen hpc => exact ⟨rfl, rfl, .inl rfl⟩
  | probeSent hpc => exact ⟨rfl, rfl, .inr (.inl ⟨rfl, rfl⟩)⟩
  | headerSent hpc => exact ⟨rfl, rfl, .inr (.inr ⟨rfl, rfl⟩)⟩
  | bodySent data hpc | successDone hdata hpc | failureDone hdata hpc => cases hpc

theorem Joint.probe (h : Joint args provider callback v up down .probe called) :
    v = .probeRead ∧ up = [] ∧ down = [] ∧ called = false := by
  cases h with
  | probeSeen => exact ⟨rfl, rfl, rfl, rfl⟩
  | probeOpen hpc | headerOpen hpc | probeSent hpc | headerSent hpc | bodySent data hpc
  | successDone hdata hpc | failureDone hdata hpc => cases hpc

theorem Joint.greet (h : Joint args provider callback v up down (.greet client) called) :
    v = .headerRead ∧ up = [] ∧ down = [] ∧ called = false ∧
      client.persistent = args.persistent := by
  cases h with
  | headerSeen hclient => exact ⟨rfl, rfl, rfl, rfl, hclient⟩
  | probeOpen hpc | headerOpen hpc | probeSent hpc | headerSent hpc | bodySent data hpc
  | successDone hdata hpc | failureDone hdata hpc => cases hpc

theorem Joint.read (h : Joint args provider callback v up down (.read persistent) called) :
    up = [] ∨ v = .status up ∧ down = [] ∧ called = false ∧ persistent = args.persistent := by
  cases h with
  | asked data => exact .inr ⟨rfl, rfl, rfl, rfl⟩
  | probeOpen hpc | headerOpen hpc | probeSent hpc | headerSent hpc => cases hpc
  | _ => exact .inl rfl

theorem Joint.calls (h : Joint args provider callback v up down (.callback persistent data) called) :
    v = .status data ∧ up = [] ∧ down = [] ∧ called = false ∧ persistent = args.persistent := by
  cases h with
  | calling data => exact ⟨rfl, rfl, rfl, rfl, rfl⟩
  | probeOpen hpc | headerOpen hpc | probeSent hpc | headerSent hpc | bodySent data hpc
  | successDone hdata hpc | failureDone hdata hpc => cases hpc

theorem Joint.status (h : Joint args provider callback v up down (.status persistent result) called) :
    ∃ data, v = .status data ∧ up = [] ∧ down = [] ∧ called = true ∧
      persistent = args.persistent ∧ result = callback data := by
  cases h with
  | called data => exact ⟨data, rfl, rfl, rfl, rfl, rfl, rfl⟩
  | probeOpen hpc | headerOpen hpc | probeSent hpc | headerSent hpc | bodySent data hpc
  | successDone hdata hpc | failureDone hdata hpc => cases hpc

theorem Joint.body (h : Joint args provider callback v up down (.body persistent result) called) :
    up = [] ∧ called = true ∧ persistent = args.persistent ∧ (∃ data, result = callback data) ∧
      ∀ pc, AfterBody args.persistent pc →
        Joint args provider callback v up (down ++ replyBody result) pc called := by
  cases h with
  | statusSent data => exact ⟨rfl, rfl, rfl, ⟨data, rfl⟩, fun pc hpc => .bodySent data hpc⟩
  | @success data response hdata =>
    refine ⟨rfl, rfl, rfl, ⟨data, rfl⟩, fun pc hpc => ?_⟩
    rw [hdata]
    exact .successDone hdata hpc
  | @failure data e hdata =>
    refine ⟨rfl, rfl, rfl, ⟨data, rfl⟩, fun pc hpc => ?_⟩
    rw [hdata]
    exact .failureDone hdata hpc
  | probeOpen hpc | headerOpen hpc | probeSent hpc | headerSent hpc | bodySent data hpc
  | successDone hdata hpc | failureDone hdata hpc => cases hpc

theorem Awaiting.ne_closed {pc : ServerPc} (h : Awaiting pc) : pc ≠ .closed := by
  cases h <;> simp

theorem AfterBody.rank {pc : ServerPc} (h : AfterBody persistent pc) : pc.rank [] = 0 := by
  cases h <;> rfl

variable {pc : ServerPc}

theorem Joint.probeWrite (h : Joint args provider callback .probeWrite up down pc called) :
    up = [] ∧ Joint args provider callback .probeRead args.probeHeaderBytes down pc called := by
  cases h with
  | probeOpen hpc => exact ⟨rfl, .probeSent hpc⟩

theorem Joint.headerWrite (h : Joint args provider callback .headerWrite up down pc called) :
    up = [] ∧ Joint args provider callback .headerRead args.clientHeaderBytes down pc called := by
  cases h with
  | headerOpen hpc => exact ⟨rfl, .headerSent hpc⟩

theorem Joint.request (h : Joint args provider callback .ready up down pc called) (data : Bytes) :
    up = [] ∧ called = false ∧ pc = .read args.persistent ∧
      Joint args provider callback (.status data) data down pc called := by
  cases h with
  | ready => exact ⟨rfl, rfl, rfl, .asked data⟩

theorem Joint.probeRead (h : Joint args provider callback .probeRead up down pc called) :
    down = [] ∧ pc ≠ .closed ∨ down = provider.probeHeaderBytes ∧ pc = .closed ∧ called = false := by
  cases h with
  | probeSent hpc => exact .inl ⟨rfl, hpc.ne_closed⟩
  | probeSeen => exact .inl ⟨rfl, (by simp)⟩
  | probeDone => exact .inr ⟨rfl, rfl, rfl⟩

theorem Joint.headerRead (h : Joint args provider callback .headerRead up down pc called) :
    down = [] ∧ pc ≠ .closed ∨ down = provider.serverHeaderBytes ∧
      Joint args provider callback .ready up [] pc called := by
  cases h with
  | headerSent hpc => exact .inl ⟨rfl, hpc.ne_closed⟩
  | headerSeen hclient => exact .inl ⟨rfl, (by simp)⟩
  | headerDone => exact .inr ⟨rfl, .ready⟩

theorem Joint.statusRead (h : Joint args provider callback (.status data) up down pc called) :
    down = [] ∧ pc ≠ .closed ∨ ∃ rest, down = statusByte (callback data) :: rest ∧
      (∀ response, callback data = .ok response →
        Joint args provider callback (.success data) up rest pc called) ∧
      ∀ e, callback data = .error e →
        Joint args provider callback (.failure data) up rest pc called := by
  cases h with
  | asked data | calling data | called data => exact .inl ⟨rfl, (by simp)⟩
  | statusSent data =>
    exact .inr ⟨[], rfl, fun response hdata => .success hdata, fun e hdata => .failure hdata⟩
  | bodySent data hpc =>
    refine .inr ⟨replyBody (callback data), rfl, fun response hdata => ?_, fun e hdata => ?_⟩
    · rw [hdata]
      exact .successDone hdata hpc
    · rw [hdata]
      exact .failureDone hdata hpc

theorem Joint.successRead (h : Joint args provider callback (.success data) up down pc called) :
    called = true ∧ (down = [] ∧ pc ≠ .closed ∨
      up = [] ∧ callback data = .ok down ∧ AfterBody args.persistent pc) := by
  cases h with
  | success hdata => exact ⟨rfl, .inl ⟨rfl, (by simp)⟩⟩
  | successDone hdata hpc => exact ⟨rfl, .inr ⟨rfl, hdata, hpc⟩⟩

theorem Joint.failureRead (h : Joint args provider callback (.failure data) up down pc called) :
    called = true ∧ (down = [] ∧ pc ≠ .closed ∨
      up = [] ∧ (∃ e, callback data = .error e ∧ down = frame (asBytes e)) ∧
        AfterBody args.persistent pc) := by
  cases h with
  | failure hdata => exact ⟨rfl, .inl ⟨rfl, (by simp)⟩⟩
  | failureDone hdata hpc => exact ⟨rfl, .inr ⟨rfl, ⟨_, hdata, rfl⟩, hpc⟩⟩

end Joint

def serverRank (s : ServiceCalls) : ℕ :=
  match s.link.view with
  | some (i, _) =>
    match s.link.streams[i]? with
    | some stream => (s.servers i).rank stream.toServer
    | none => 0
  | none => 0

def measure (s : ServiceCalls) : ℕ := 100 * s.link.rpcRx.length + s.link.pc.rank + s.serverRank

theorem serverRank_eq {i : ℕ} {v : ClientView} {stream : TcpStream}
    (hview : s.link.view = some (i, v)) (hstream : s.link.streams[i]? = some stream) :
    s.serverRank = (s.servers i).rank stream.toServer := by
  simp only [serverRank, hview, hstream]

theorem serverRank_none (hview : s.link.view = none) : s.serverRank = 0 := by
  simp only [serverRank, hview]

theorem measure_lt_some {i : ℕ} {v : ClientView} {stream : TcpStream}
    (hview : t.link.view = some (i, v)) (hstream : t.link.streams[i]? = some stream)
    (hlt : 100 * t.link.rpcRx.length + t.link.pc.rank + (t.servers i).rank stream.toServer <
      100 * s.link.rpcRx.length + s.link.pc.rank + s.serverRank) : t.measure < s.measure := by
  rwa [measure, serverRank_eq hview hstream]

theorem measure_lt_none (hview : t.link.view = none)
    (hlt : 100 * t.link.rpcRx.length + t.link.pc.rank <
      100 * s.link.rpcRx.length + s.link.pc.rank + s.serverRank) : t.measure < s.measure := by
  rwa [measure, serverRank_none hview]

theorem measure_serve {i : ℕ} {v : ClientView} {stream stream' : TcpStream} {pc : ServerPc}
    (hview : s.link.view = some (i, v)) (hstream : s.link.streams[i]? = some stream)
    (hrank : pc.rank stream'.toServer < (s.servers i).rank stream.toServer)
    (hlink : t.link = { s.link with streams := s.link.streams.set i stream' })
    (hservers : t.servers = Function.update s.servers i pc) : t.measure < s.measure := by
  have hview' : t.link.view = some (i, v) := by
    rw [hlink]
    exact hview
  have hstream' : t.link.streams[i]? = some stream' := by
    rw [hlink]
    exact getElem?_set_of_some hstream
  simp only [measure, serverRank_eq hview hstream, serverRank_eq hview' hstream', hservers,
    Function.update_self, hlink]
  omega

theorem Current.joint (h : Current callback s called) {i : ℕ} {v : ClientView}
    (hview : s.link.view = some (i, v)) : ∃ stream, s.link.streams[i]? = some stream ∧
      stream.clientOpen = true ∧ (s.servers i ≠ .closed → stream.serverOpen = true) ∧
      stream.read ≤ stream.fromServer.length ∧
      Joint s.link.args s.provider callback v stream.toServer stream.unread (s.servers i) called := by
  simpa only [Current, hview] using h

theorem Invariant.handled (h : Invariant callback s called) {i : ℕ}
    (hbacklog : s.servers i ≠ .backlog) (hclosed : s.servers i ≠ .closed) : ∃ v stream,
      s.link.view = some (i, v) ∧ s.link.streams[i]? = some stream ∧ stream.clientOpen = true ∧
      stream.serverOpen = true ∧ stream.read ≤ stream.fromServer.length ∧
      Joint s.link.args s.provider callback v stream.toServer stream.unread (s.servers i) called := by
  have hlt : i < s.accepted := not_le.mp (mt (h.backlog i).mpr hbacklog)
  obtain ⟨v, hview⟩ : ∃ v, s.link.view = some (i, v) := by
    by_contra hno
    exact hclosed (h.others i (hlt.trans_le h.accepted_le) (not_exists.mp hno))
  obtain ⟨stream, hstream, hopen, hserver, hread, hjoint⟩ := h.current.joint hview
  exact ⟨v, stream, hview, hstream, hopen, hserver hclosed, hread, hjoint⟩

theorem serverWrite_eq {i : ℕ} {stream : TcpStream} (hstream : s.link.streams[i]? = some stream)
    (bytes : Bytes) (pc : ServerPc) : s.serverWrite i bytes pc = { s with
      servers := Function.update s.servers i pc
      link := { s.link with streams := s.link.streams.set i { stream with
        fromServer := stream.fromServer ++ bytes
        serverOpen := stream.serverOpen && !pc.isClosed } } } := by
  simp only [serverWrite, setServer, ClientLink.modifyStream, modify_eq_set_of_some hstream]

theorem serverRead_eq {i : ℕ} {stream : TcpStream} (hstream : s.link.streams[i]? = some stream)
    (hframe : IsFrame stream.toServer) (next : Bytes → ServerPc) :
    s.serverRead i next = some { s with
      servers := Function.update s.servers i (next stream.toServer)
      link := { s.link with streams := s.link.streams.set i { stream with
        toServer := []
        fromServer := stream.fromServer ++ []
        serverOpen := stream.serverOpen && !(next stream.toServer).isClosed } } } := by
  obtain ⟨rest, hread, hrest⟩ := hframe.readTcprosFrame
  have hset := modify_eq_set_of_some (f := fun stream : TcpStream => { stream with toServer := [] })
    hstream
  simp only [serverRead, hstream, Option.bind_eq_bind, Option.bind_some, hread, hrest,
    ClientLink.modifyStream, hset]
  rw [serverWrite_eq (getElem?_set_of_some hstream)]
  simp only [List.set_set]

theorem serverRead_nil {i : ℕ} {stream : TcpStream} (hstream : s.link.streams[i]? = some stream)
    (hempty : stream.toServer = []) (hopen : stream.clientOpen = true) (next : Bytes → ServerPc) :
    s.serverRead i next = none := by
  simp only [serverRead, hstream, Option.bind_eq_bind, Option.bind_some, hempty,
    readTcprosFrame_nil, hopen, if_true]

theorem Invariant.serve (h : Invariant callback s called) {i : ℕ} {v : ClientView}
    {stream stream' : TcpStream} {pc : ServerPc} {called' : Bool} {handling' : Option ℕ}
    {invoked' : List Bytes} (hview : s.link.view = some (i, v))
    (hstream : s.link.streams[i]? = some stream) (hold : s.servers i ≠ .backlog)
    (hnew : pc ≠ .backlog) (hopen : stream'.clientOpen = true)
    (hserver : pc ≠ .closed → stream'.serverOpen = true)
    (hread : stream'.read ≤ stream'.fromServer.length)
    (hjoint : Joint s.link.args s.provider callback v stream'.toServer stream'.unread pc called')
    (hinvoked : invoked' = s.entered.take (s.link.replies.length + called'.toNat))
    (hhandling : ∀ j, handling' = some j ↔ if j = i then Handled pc else s.handling = some j) :
    Invariant callback { s with
      link := { s.link with streams := s.link.streams.set i stream' }
      servers := Function.update s.servers i pc
      invoked := invoked'
      handling := handling' } called' where
  accounts := ⟨h.accounts.calls, h.accounts.waiting, h.accounts.replies, h.accounts.frames⟩
  current := by
    have hview' : ClientLink.view { s.link with streams := s.link.streams.set i stream' } =
      some (i, v) := hview
    simp only [Current, hview']
    refine ⟨stream', getElem?_set_of_some hstream, hopen, ?_, hread, ?_⟩
    · rwa [Function.update_self]
    · rwa [Function.update_self]
  invoked := hinvoked
  running := h.running
  kept := h.kept
  backlog j := by
    show Function.update s.servers i pc j = .backlog ↔ s.accepted ≤ j
    by_cases hj : j = i
    · subst hj
      rw [Function.update_self]
      exact iff_of_false hnew (mt (h.backlog j).mpr hold)
    · rw [Function.update_of_ne hj]
      exact h.backlog j
  accepted_le := by
    rw [List.length_set]
    exact h.accepted_le
  handling j := by
    show handling' = some j ↔ Handled (Function.update s.servers i pc j)
    rw [hhandling j]
    by_cases hj : j = i
    · rw [if_pos hj, hj, Function.update_self]
    · rw [if_neg hj, Function.update_of_ne hj]
      exact h.handling j
  others j hj hother := by
    rw [List.length_set] at hj
    have hne : j ≠ i := by
      rintro rfl
      exact hother v hview
    show Function.update s.servers i pc j = .closed
    rw [Function.update_of_ne hne]
    exact h.others j hj hother

end ServiceCalls

end RosrustAsync
