import RosrustAsync.FrameStream
import RosrustAsync.Lib.Runs
import RosrustAsync.ServiceCalls

namespace RosrustAsync

open Runs ServiceCalls

/-- A connection as `handle_request` and the `rpc_task` that it spawns have it, whoever the client
is. -/
structure ServedConnection where
  pc : ServerPc
  arrived : Bytes
  unread : Bytes
  -- whether the client has hung up, and whether the provider was dropped
  ended : Bool
  cancelled : Bool
  written : Bytes
  -- whether a write has failed
  broken : Bool
  invoked : List Bytes

namespace ServedConnection

def accept : ServedConnection := ⟨.header, [], [], false, false, [], false, []⟩

inductive Label : Type
  | arrive (bytes : Bytes)
  | hangUp
  | cancel
  | cancelled
  | read
  | callback
  | write
  | writeFails (taken : ℕ)

section Steps

variable (provider : Listener) (encodeString : String → Except IoError Bytes)
  (callback : Bytes → Except String Bytes)

def read (self : ServedConnection) (next : Bytes → ServerPc) : Option ServedConnection :=
  match readTcprosFrame [self.unread] with
  | .ok (frame, rest) => some { self with unread := rest.flatten, pc := next frame }
  | .error _ => if self.ended then some { self with pc := .closed } else none

/-- What the connection is about to write, and what it goes on to. -/
def toWrite (self : ServedConnection) : Option (Bytes × ServerPc) :=
  match self.pc with
  | .probe => some (provider.probeHeaderBytes, .closed)
  | .greet client => some (provider.serverHeaderBytes, .read client.persistent)
  | .status persistent result => some ([statusByte result], .body persistent result)
  | .body persistent result =>
    match bodyBytes encodeString result with
    | .ok bytes => some (bytes, if persistent then .read persistent else .closed)
    | .error _ => some ([], .closed)
  | _ => none

def step (self : ServedConnection) : Label → Option ServedConnection
  | .arrive bytes =>
    if self.ended then none
    else some { self with arrived := self.arrived ++ bytes, unread := self.unread ++ bytes }
  | .hangUp => some { self with ended := true }
  | .cancel => some { self with cancelled := true }
  | .cancelled =>
    match self.pc with
    | .read _ => if self.cancelled then some { self with pc := .closed } else none
    | _ => none
  | .read =>
    match self.pc with
    | .header => self.read provider.handleHeader
    | .read persistent => self.read (.callback persistent)
    | _ => none
  | .callback =>
    match self.pc with
    | .callback persistent data => some { self with
        pc := .status persistent (callback data)
        invoked := self.invoked ++ [data] }
    | _ => none
  | .write => do
    let (bytes, pc) ← self.toWrite provider encodeString
    some { self with written := self.written ++ bytes, pc }
  | .writeFails taken => do
    let (bytes, _) ← self.toWrite provider encodeString
    some { self with written := self.written ++ bytes.take taken, pc := .closed, broken := true }

end Steps

theorem isFrame_of_read {cs ds : List Bytes} {b : Bytes} (h : readTcprosFrame cs = .ok (b, ds)) :
    IsFrame b := by
  obtain ⟨⟨n, cs'⟩, -, h⟩ := bind_eq_ok.mp h
  obtain ⟨⟨body, ds'⟩, hbody, h⟩ := bind_eq_ok.mp h
  cases h
  have hlength := (readExactAsync_eq_ok hbody).2
  refine ⟨body, hlength ▸ n.toNat_lt, ?_⟩
  rw [frame, hlength, UInt32.ofNat_toNat]

theorem length_of_read {bytes b : Bytes} {ds : List Bytes}
    (h : readTcprosFrame [bytes] = .ok (b, ds)) : ds.flatten.length < bytes.length := by
  obtain ⟨payload, -, rfl⟩ := isFrame_of_read h
  have hlength := congrArg List.length (readTcprosFrame_eq_ok h)
  simp only [List.flatten_singleton, List.length_append, frame, le32_length] at hlength
  omega

/-- The complete frames that some bytes begin with. -/
def frames (bytes : Bytes) : List Bytes :=
  match _hread : readTcprosFrame [bytes] with
  | .ok (frame, rest) => frame :: frames rest.flatten
  | .error _ => []
termination_by bytes.length
decreasing_by exact length_of_read _hread

theorem frames_of_read {bytes frame : Bytes} {rest : List Bytes}
    (h : readTcprosFrame [bytes] = .ok (frame, rest)) :
    frames bytes = frame :: frames rest.flatten := by
  rw [frames]
  split
  · rename_i hread
    rw [h] at hread
    cases hread
    rfl
  · rename_i hread
    rw [h] at hread
    cases hread

theorem frames_of_error {bytes : Bytes} {e : IoError} (h : readTcprosFrame [bytes] = .error e) :
    frames bytes = [] := by
  rw [frames]
  split
  · rename_i hread
    rw [h] at hread
    cases hread
  · rfl

theorem frames_append {told : List Bytes} (h : ∀ frame ∈ told, IsFrame frame) (rest : Bytes) :
    frames (told.flatten ++ rest) = told ++ frames rest := by
  induction told with
  | nil => rfl
  | cons frame told ih =>
    obtain ⟨payload, hsize, rfl⟩ := h frame List.mem_cons_self
    have hflat : [(RosrustAsync.frame payload :: told).flatten ++ rest].flatten =
        RosrustAsync.frame payload ++ (told.flatten ++ rest) := by simp
    obtain ⟨ds, hread, hds⟩ := readTcprosFrame_frame hsize hflat
    rw [frames_of_read hread, hds, ih fun f hf => h f (List.mem_cons_of_mem _ hf)]
    rfl

/-! What a provider says to what it is told. -/

section Due

variable (provider : Listener) (encodeString : String → Except IoError Bytes)
  (callback : Bytes → Except String Bytes)

def response (data : Bytes) : Bytes :=
  statusByte (callback data) :: (bodyBytes encodeString (callback data)).toOption.getD []

def replies (requests : List Bytes) : Bytes :=
  requests.flatMap (response encodeString callback)

/-- The connection is kept for another request. -/
def goesOn (persistent : Bool) (data : Bytes) : Bool :=
  persistent && (bodyBytes encodeString (callback data)).isOk

/-- Of the requests of a client, those that are answered, and whether the last of them ends the
connection. -/
def answered (persistent : Bool) : List Bytes → List Bytes × Bool
  | [] => ([], false)
  | data :: requests =>
    if goesOn encodeString callback persistent data then
      (data :: (answered persistent requests).1, (answered persistent requests).2)
    else ([data], true)

structure Due where
  requests : List Bytes
  said : Bytes
  closes : Bool

/-- What is due to a client that has told these bytes: a header, and a request in each frame after
it. -/
def due (told : Bytes) : Due :=
  match frames told with
  | [] => ⟨[], [], false⟩
  | header :: requests =>
    match provider.handleHeader header with
    | .greet client => ⟨(answered encodeString callback client.persistent requests).1,
        provider.serverHeaderBytes ++ replies encodeString callback
          (answered encodeString callback client.persistent requests).1,
        (answered encodeString callback client.persistent requests).2⟩
    | .probe => ⟨[], provider.probeHeaderBytes, true⟩
    | _ => ⟨[], [], true⟩

/-- Of the bytes told, what was made of those before `rest`, and whether this ends the connection. -/
inductive Heard : Bytes → List Bytes → Bytes → Bytes → Bool → Prop
  | waiting (told : Bytes) : Heard told [] [] told false
  | refused {header : Bytes} (rest : Bytes) : IsFrame header →
      provider.handleHeader header = .closed → Heard (header ++ rest) [] [] rest true
  | probed {header : Bytes} (rest : Bytes) : IsFrame header →
      provider.handleHeader header = .probe →
        Heard (header ++ rest) [] provider.probeHeaderBytes rest true
  | served {header : Bytes} {client : ServiceClientHeader} {requests : List Bytes} (rest : Bytes) :
      IsFrame header → provider.handleHeader header = .greet client →
        (∀ request ∈ requests, IsFrame request) →
          (∀ request ∈ requests, goesOn encodeString callback client.persistent request = true) →
            Heard (header ++ requests.flatten ++ rest) requests
              (provider.serverHeaderBytes ++ replies encodeString callback requests) rest false
  | last {header data : Bytes} {client : ServiceClientHeader} {before : List Bytes} (rest : Bytes) :
      IsFrame header → provider.handleHeader header = .greet client →
        (∀ request ∈ before ++ [data], IsFrame request) →
          (∀ request ∈ before, goesOn encodeString callback client.persistent request = true) →
            goesOn encodeString callback client.persistent data = false →
              Heard (header ++ (before ++ [data]).flatten ++ rest) (before ++ [data])
                (provider.serverHeaderBytes ++ replies encodeString callback (before ++ [data]))
                rest true

end Due

section Invariant

variable {provider : Listener} {encodeString : String → Except IoError Bytes}
  {callback : Bytes → Except String Bytes} {s t : ServedConnection}

theorem answered_append {persistent : Bool} {before : List Bytes}
    (h : ∀ request ∈ before, goesOn encodeString callback persistent request = true)
    (requests : List Bytes) : answered encodeString callback persistent (before ++ requests) =
      (before ++ (answered encodeString callback persistent requests).1,
        (answered encodeString callback persistent requests).2) := by
  induction before with
  | nil => rfl
  | cons data before ih =>
    have hrest := ih fun request hr => h request (List.mem_cons_of_mem _ hr)
    rw [List.cons_append, answered, if_pos (h data List.mem_cons_self), hrest]
    rfl

theorem replies_append (requests requests' : List Bytes) :
    replies encodeString callback (requests ++ requests') =
      replies encodeString callback requests ++ replies encodeString callback requests' :=
  List.flatMap_append

theorem replies_concat (invoked : List Bytes) (data : Bytes) :
    replies encodeString callback (invoked ++ [data]) =
      replies encodeString callback invoked ++ response encodeString callback data := by
  simp [replies]

namespace Heard

variable {told promised rest : Bytes} {requests : List Bytes} {ends : Bool}

theorem hear (h : Heard provider encodeString callback told requests promised rest ends)
    (bytes : Bytes) : Heard provider encodeString callback (told ++ bytes) requests promised
      (rest ++ bytes) ends := by
  cases h with
  | waiting => exact .waiting _
  | refused rest hframe hheader =>
    rw [List.append_assoc]
    exact .refused _ hframe hheader
  | probed rest hframe hheader =>
    rw [List.append_assoc]
    exact .probed _ hframe hheader
  | served rest hframe hheader hrequests hgoes =>
    rw [List.append_assoc]
    exact .served _ hframe hheader hrequests hgoes
  | last rest hframe hheader hrequests hgoes hends =>
    rw [List.append_assoc]
    exact .last _ hframe hheader hrequests hgoes hends

/-- The first frame is the header, and those after it are the requests. -/
theorem frames_told {header : Bytes} (hframe : IsFrame header)
    (hrequests : ∀ request ∈ requests, IsFrame request) (rest : Bytes) :
    frames (header ++ requests.flatten ++ rest) = header :: (requests ++ frames rest) := by
  have hall : ∀ frame ∈ header :: requests, IsFrame frame := by
    intro frame hmem
    rcases List.mem_cons.mp hmem with rfl | hmem
    · exact hframe
    · exact hrequests frame hmem
  exact frames_append hall rest

theorem due_eq (h : Heard provider encodeString callback told requests promised rest ends) :
    requests <+: (due provider encodeString callback told).requests ∧
      promised <+: (due provider encodeString callback told).said ∧
      (ends = true ∨ frames rest = [] →
        due provider encodeString callback told = ⟨requests, promised, ends⟩) := by
  cases h with
  | waiting =>
    refine ⟨List.nil_prefix, List.nil_prefix, fun hend => ?_⟩
    have hnone : frames told = [] := by simpa using hend
    rw [due, hnone]
  | @refused header rest hframe hheader =>
    have hframes : frames (header ++ rest) = header :: frames rest := by
      simpa using frames_told hframe (List.forall_mem_nil IsFrame) rest
    have hdue : due provider encodeString callback (header ++ rest) = ⟨[], [], true⟩ := by
      simp only [due, hframes, hheader]
    exact ⟨List.nil_prefix, List.nil_prefix, fun _ => hdue⟩
  | @probed header rest hframe hheader =>
    have hframes : frames (header ++ rest) = header :: frames rest := by
      simpa using frames_told hframe (List.forall_mem_nil IsFrame) rest
    have hdue : due provider encodeString callback (header ++ rest) =
        ⟨[], provider.probeHeaderBytes, true⟩ := by
      simp only [due, hframes, hheader]
    exact ⟨List.nil_prefix, hdue ▸ List.prefix_refl _, fun _ => hdue⟩
  | served rest hframe hheader hrequests hgoes =>
    simp only [due, frames_told hframe hrequests rest, hheader, answered_append hgoes,
      replies_append, ← List.append_assoc]
    refine ⟨List.prefix_append _ _, List.prefix_append _ _, fun hend => ?_⟩
    simp only [hend.resolve_left Bool.false_ne_true, answered, replies, List.flatMap_nil,
      List.append_nil]
  | last rest hframe hheader hrequests hgoes hends =>
    have hanswered : ∀ more : List Bytes, answered encodeString callback _ (_ :: more) = ([_], true) :=
      fun more => if_neg (by rw [hends]; exact Bool.false_ne_true)
    have happend (before more : List Bytes) (data : Bytes) :
        before ++ [data] ++ more = before ++ data :: more := List.append_assoc ..
    simp only [due, frames_told hframe hrequests rest, hheader, happend, answered_append hgoes,
      hanswered]
    exact ⟨List.prefix_refl _, List.prefix_refl _, fun _ => trivial⟩

end Heard

variable (provider) in
/-- The client's header was accepted, and `rest` comes after what the callback was called with. -/
structure Serving (told : Bytes) (invoked : List Bytes) (client : ServiceClientHeader)
    (rest : Bytes) : Prop where
  told : ∃ header, IsFrame header ∧ provider.handleHeader header = .greet client ∧
    told = header ++ invoked.flatten ++ rest
  requests : ∀ request ∈ invoked, IsFrame request

namespace Serving

variable {told rest : Bytes} {invoked : List Bytes} {client : ServiceClientHeader}

theorem heard (h : Serving provider told invoked client rest)
    (hgoes : ∀ request ∈ invoked, goesOn encodeString callback client.persistent request = true) :
    Heard provider encodeString callback told invoked
      (provider.serverHeaderBytes ++ replies encodeString callback invoked) rest false := by
  obtain ⟨header, hframe, hheader, rfl⟩ := h.told
  exact .served rest hframe hheader h.requests hgoes

theorem heard_last {before : List Bytes} {data : Bytes}
    (h : Serving provider told (before ++ [data]) client rest)
    (hgoes : ∀ request ∈ before, goesOn encodeString callback client.persistent request = true)
    (hends : goesOn encodeString callback client.persistent data = false) :
    Heard provider encodeString callback told (before ++ [data])
      (provider.serverHeaderBytes ++ replies encodeString callback (before ++ [data])) rest true := by
  obtain ⟨header, hframe, hheader, rfl⟩ := h.told
  exact .last rest hframe hheader h.requests hgoes hends

theorem hear (h : Serving provider told invoked client rest) (bytes : Bytes) :
    Serving provider (told ++ bytes) invoked client (rest ++ bytes) := by
  obtain ⟨header, hframe, hheader, rfl⟩ := h.told
  exact ⟨⟨header, hframe, hheader, List.append_assoc ..⟩, h.requests⟩

theorem invoke {data : Bytes} (h : Serving provider told invoked client (data ++ rest))
    (hdata : IsFrame data) : Serving provider told (invoked ++ [data]) client rest := by
  obtain ⟨header, hframe, hheader, rfl⟩ := h.told
  refine ⟨⟨header, hframe, hheader, by simp⟩, fun request hrequest => ?_⟩
  rcases List.mem_append.mp hrequest with hrequest | hrequest
  · exact h.requests request hrequest
  · exact List.mem_singleton.mp hrequest ▸ hdata

end Serving

theorem goes_concat {persistent : Bool} {before : List Bytes} {data : Bytes}
    (hgoes : ∀ request ∈ before, goesOn encodeString callback persistent request = true)
    (hdata : goesOn encodeString callback persistent data = true) :
    ∀ request ∈ before ++ [data], goesOn encodeString callback persistent request = true := by
  intro request hrequest
  rcases List.mem_append.mp hrequest with hrequest | hrequest
  · exact hgoes request hrequest
  · exact List.mem_singleton.mp hrequest ▸ hdata

variable (provider encodeString callback) in
def PcInvariant (s : ServedConnection) : Prop :=
  match s.pc with
  | .backlog => False
  | .header => s.arrived = s.unread ∧ s.invoked = [] ∧ s.written = []
  | .probe => s.invoked = [] ∧ s.written = [] ∧
      Heard provider encodeString callback s.arrived [] provider.probeHeaderBytes s.unread true
  | .greet client => Serving provider s.arrived s.invoked client s.unread ∧ s.invoked = [] ∧
      s.written = []
  | .read persistent => ∃ client, Serving provider s.arrived s.invoked client s.unread ∧
      client.persistent = persistent ∧
        (∀ request ∈ s.invoked, goesOn encodeString callback persistent request = true) ∧
          s.written = provider.serverHeaderBytes ++ replies encodeString callback s.invoked
  | .callback persistent data => ∃ client,
      Serving provider s.arrived s.invoked client (data ++ s.unread) ∧ IsFrame data ∧
        client.persistent = persistent ∧
          (∀ request ∈ s.invoked, goesOn encodeString callback persistent request = true) ∧
            s.written = provider.serverHeaderBytes ++ replies encodeString callback s.invoked
  | .status persistent result => ∃ client before data,
      Serving provider s.arrived s.invoked client s.unread ∧ client.persistent = persistent ∧
        (∀ request ∈ before, goesOn encodeString callback persistent request = true) ∧
          s.invoked = before ++ [data] ∧ result = callback data ∧
            s.written = provider.serverHeaderBytes ++ replies encodeString callback before
  | .body persistent result => ∃ client before data,
      Serving provider s.arrived s.invoked client s.unread ∧ client.persistent = persistent ∧
        (∀ request ∈ before, goesOn encodeString callback persistent request = true) ∧
          s.invoked = before ++ [data] ∧ result = callback data ∧
            s.written = provider.serverHeaderBytes ++ replies encodeString callback before ++
              [statusByte result]
  | .closed => ∃ promised rest ends,
      Heard provider encodeString callback s.arrived s.invoked promised rest ends ∧
        s.written <+: promised ∧ (s.broken = false → s.written = promised ∧
          (ends = true ∨ s.cancelled = true ∨ s.ended = true ∧ frames rest = []))

variable (provider encodeString callback) in
structure Invariant (s : ServedConnection) : Prop where
  broken : s.broken = true → s.pc = .closed
  at_pc : s.PcInvariant provider encodeString callback

theorem accept_invariant : accept.Invariant provider encodeString callback :=
  ⟨(fun h => by cases h), rfl, rfl, rfl⟩

theorem Invariant.hear (h : s.Invariant provider encodeString callback) (hopen : s.ended = false)
    (bytes : Bytes) : Invariant provider encodeString callback
      { s with arrived := s.arrived ++ bytes, unread := s.unread ++ bytes } := by
  have hpc := h.at_pc
  refine ⟨h.broken, ?_⟩
  cases hs : s.pc <;> simp only [PcInvariant, hs] at hpc ⊢
  case header => exact ⟨by rw [hpc.1], hpc.2⟩
  case probe => exact ⟨hpc.1, hpc.2.1, hpc.2.2.hear bytes⟩
  case greet client => exact ⟨hpc.1.hear bytes, hpc.2⟩
  case read persistent =>
    obtain ⟨client, hserving, hrest⟩ := hpc
    exact ⟨client, hserving.hear bytes, hrest⟩
  case callback persistent data =>
    obtain ⟨client, hserving, hrest⟩ := hpc
    exact ⟨client, List.append_assoc .. ▸ hserving.hear bytes, hrest⟩
  case status persistent result =>
    obtain ⟨client, before, data, hserving, hrest⟩ := hpc
    exact ⟨client, before, data, hserving.hear bytes, hrest⟩
  case body persistent result =>
    obtain ⟨client, before, data, hserving, hrest⟩ := hpc
    exact ⟨client, before, data, hserving.hear bytes, hrest⟩
  case closed =>
    obtain ⟨promised, rest, ends, hheard, hprefix, hwritten⟩ := hpc
    refine ⟨promised, rest ++ bytes, ends, hheard.hear bytes, hprefix, fun hbroken => ?_⟩
    obtain ⟨heq, hwhy⟩ := hwritten hbroken
    refine ⟨heq, hwhy.imp_right fun hwhy => .inl (hwhy.resolve_right fun hended => ?_)⟩
    rw [hopen] at hended
    cases hended.1

/-- A connection that was closed for a reason stays so. -/
theorem Invariant.told (h : s.Invariant provider encodeString callback) (ended cancelled : Bool) :
    Invariant provider encodeString callback
      { s with ended := s.ended || ended, cancelled := s.cancelled || cancelled } := by
  have hat := h.at_pc
  refine ⟨h.broken, ?_⟩
  cases hpc : s.pc <;> simp only [PcInvariant, hpc] at hat ⊢ <;> try exact hat
  obtain ⟨promised, rest, ends, hheard, hprefix, hwritten⟩ := hat
  refine ⟨promised, rest, ends, hheard, hprefix, fun hbroken => (hwritten hbroken).imp_right ?_⟩
  rintro (hends | hcancelled | ⟨hended, hrest⟩)
  · exact .inl hends
  · exact .inr (.inl (by rw [hcancelled, Bool.true_or]))
  · exact .inr (.inr ⟨by rw [hended, Bool.true_or], hrest⟩)

theorem handleHeader_cases (headerData : Bytes) : provider.handleHeader headerData = .closed ∨
    provider.handleHeader headerData = .probe ∨
      ∃ client, provider.handleHeader headerData = .greet client := by
  unfold Listener.handleHeader
  split
  · split
    · exact .inr (.inr ⟨_, rfl⟩)
    · exact .inl rfl
  · split
    · exact .inr (.inl rfl)
    · exact .inl rfl

theorem prefix_of_eq {l l' : Bytes} (h : l = l') : l <+: l' := h ▸ List.prefix_refl l

theorem Invariant.of_pc (h : t.PcInvariant provider encodeString callback)
    (hbroken : t.broken = false) : t.Invariant provider encodeString callback :=
  ⟨fun hb => (by rw [hbroken] at hb; cases hb), h⟩

theorem Invariant.not_broken (h : s.Invariant provider encodeString callback)
    (hpc : s.pc ≠ .closed) : s.broken = false := by
  cases hb : s.broken
  · rfl
  · exact absurd (h.broken hb) hpc

/-- What has been promised where the connection may close, and how much of it was written. -/
theorem Invariant.closes (h : s.Invariant provider encodeString callback)
    (hpc : s.pc = .header ∨ ∃ persistent, s.pc = .read persistent)
    (hwhy : s.cancelled = true ∨ s.ended = true ∧ frames s.unread = []) :
    Invariant provider encodeString callback { s with pc := .closed } := by
  have hnot := h.not_broken (by rcases hpc with hpc | ⟨persistent, hpc⟩ <;> simp [hpc])
  have hat := h.at_pc
  refine .of_pc ?_ hnot
  rcases hpc with hpc | ⟨persistent, hpc⟩
  · simp only [PcInvariant, hpc] at hat
    obtain ⟨harrived, hinvoked, hwritten⟩ := hat
    refine ⟨[], s.unread, false, ?_, prefix_of_eq hwritten, fun _ => ⟨hwritten, .inr hwhy⟩⟩
    rw [hinvoked, harrived]
    exact .waiting _
  · simp only [PcInvariant, hpc] at hat
    obtain ⟨client, hserving, rfl, hgoes, hwritten⟩ := hat
    exact ⟨_, _, _, hserving.heard hgoes, prefix_of_eq hwritten, fun _ => ⟨hwritten, .inr hwhy⟩⟩

theorem Invariant.readHeader (h : s.Invariant provider encodeString callback)
    (hpc : s.pc = .header) {header : Bytes} {rest : List Bytes}
    (hread : readTcprosFrame [s.unread] = .ok (header, rest)) :
    Invariant provider encodeString callback
      { s with unread := rest.flatten, pc := provider.handleHeader header } := by
  have hnot := h.not_broken (by simp [hpc])
  have hat := h.at_pc
  simp only [PcInvariant, hpc] at hat
  obtain ⟨harrived, hinvoked, hwritten⟩ := hat
  have hframe := isFrame_of_read hread
  have htold : s.arrived = header ++ rest.flatten := by
    rw [harrived, ← readTcprosFrame_eq_ok hread, List.flatten_singleton]
  rcases handleHeader_cases header with hheader | hheader | ⟨client, hheader⟩
  · rw [hheader]
    refine .of_pc ⟨[], rest.flatten, true, ?_, prefix_of_eq hwritten, fun _ => ⟨hwritten, .inl rfl⟩⟩
      hnot
    rw [hinvoked, htold]
    exact .refused _ hframe hheader
  · rw [hheader]
    exact .of_pc ⟨hinvoked, hwritten, htold ▸ .probed _ hframe hheader⟩ hnot
  · rw [hheader]
    refine .of_pc ⟨⟨⟨header, hframe, hheader, ?_⟩, ?_⟩, hinvoked, hwritten⟩ hnot
    · rw [htold, hinvoked, List.flatten_nil, List.append_nil]
    · simp [hinvoked]

/-- A request that has been handed to the callback is due its whole reply. -/
theorem Serving.heard_reply {told rest : Bytes} {before : List Bytes} {data : Bytes}
    {client : ServiceClientHeader} (h : Serving provider told (before ++ [data]) client rest)
    (hgoes : ∀ request ∈ before, goesOn encodeString callback client.persistent request = true) :
    Heard provider encodeString callback told (before ++ [data])
      (provider.serverHeaderBytes ++ replies encodeString callback (before ++ [data])) rest
      (!goesOn encodeString callback client.persistent data) := by
  cases hdata : goesOn encodeString callback client.persistent data with
  | true => exact h.heard (goes_concat hgoes hdata)
  | false => exact h.heard_last hgoes hdata

/-- What a write brings about, and what is still promised should it fail. -/
theorem Invariant.writes (h : s.Invariant provider encodeString callback) {bytes : Bytes}
    {pc : ServerPc} (hw : s.toWrite provider encodeString = some (bytes, pc)) :
    PcInvariant provider encodeString callback { s with written := s.written ++ bytes, pc } ∧
      ∃ promised rest ends,
        Heard provider encodeString callback s.arrived s.invoked promised rest ends ∧
          s.written ++ bytes <+: promised := by
  have hat := h.at_pc
  unfold toWrite at hw
  cases hpc : s.pc <;> simp only [hpc, PcInvariant] at hw hat <;> try cases hw
  case probe =>
    obtain ⟨hinvoked, hwritten, hheard⟩ := hat
    have hsaid : s.written ++ provider.probeHeaderBytes = provider.probeHeaderBytes := by
      rw [hwritten, List.nil_append]
    rw [← hinvoked] at hheard
    exact ⟨⟨_, _, _, hheard, prefix_of_eq hsaid, fun _ => ⟨hsaid, .inl rfl⟩⟩,
      _, _, _, hheard, prefix_of_eq hsaid⟩
  case greet client =>
    obtain ⟨hserving, hinvoked, hwritten⟩ := hat
    have hsaid : s.written ++ provider.serverHeaderBytes =
        provider.serverHeaderBytes ++ replies encodeString callback s.invoked := by
      rw [hwritten, hinvoked, replies, List.flatMap_nil, List.append_nil, List.nil_append]
    have hgoes : ∀ request ∈ s.invoked,
        goesOn encodeString callback client.persistent request = true := by simp [hinvoked]
    exact ⟨⟨client, hserving, rfl, hgoes, hsaid⟩,
      _, _, _, hserving.heard hgoes, prefix_of_eq hsaid⟩
  case status persistent result =>
    obtain ⟨client, before, data, hserving, hpersistent, hgoes, hinvoked, rfl, hwritten⟩ := hat
    refine ⟨⟨client, before, data, hserving, hpersistent, hgoes, hinvoked, rfl, by rw [hwritten]⟩,
      _, _, _, hinvoked ▸ (hinvoked ▸ hserving).heard_reply (hpersistent ▸ hgoes), ?_⟩
    rw [hwritten, hinvoked, replies_concat, ← List.append_assoc]
    exact List.prefix_append_right_inj _ |>.mpr ⟨_, rfl⟩
  case body persistent result =>
    obtain ⟨client, before, data, hserving, rfl, hgoes, hinvoked, rfl, hwritten⟩ := hat
    have hheard := (hinvoked ▸ hserving).heard_reply hgoes
    have hsaid : s.written ++ (bodyBytes encodeString (callback data)).toOption.getD [] =
        provider.serverHeaderBytes ++ replies encodeString callback (before ++ [data]) := by
      rw [hwritten, replies_concat, response]
      simp
    rw [← hinvoked] at hheard hsaid
    split at hw <;> cases hw
    · rename_i hbody
      rw [hbody] at hsaid
      refine ⟨?_, _, _, _, hheard, prefix_of_eq hsaid⟩
      have hdata : goesOn encodeString callback client.persistent data = client.persistent := by
        rw [goesOn, hbody]
        exact Bool.and_true _
      cases hpersistent : client.persistent with
      | true =>
        rw [hpersistent] at hgoes hdata
        exact ⟨client, hserving, hpersistent, hinvoked ▸ goes_concat hgoes hdata, hsaid⟩
      | false =>
        rw [hdata, hpersistent] at hheard
        exact ⟨_, _, _, hheard, prefix_of_eq hsaid, fun _ => ⟨hsaid, .inl rfl⟩⟩
    · rename_i e hbody
      rw [hbody] at hsaid
      have hdata : goesOn encodeString callback client.persistent data = false := by
        rw [goesOn, hbody]
        exact Bool.and_false _
      rw [hdata] at hheard
      exact ⟨⟨_, _, _, hheard, prefix_of_eq hsaid, fun _ => ⟨hsaid, .inl rfl⟩⟩,
        _, _, _, hheard, prefix_of_eq hsaid⟩

theorem Invariant.said (h : s.Invariant provider encodeString callback) :
    ∃ promised rest ends,
      Heard provider encodeString callback s.arrived s.invoked promised rest ends ∧
        s.written <+: promised := by
  have hat := h.at_pc
  cases hw : s.toWrite provider encodeString with
  | some w =>
    obtain ⟨promised, rest, ends, hheard, hprefix⟩ := (h.writes hw).2
    exact ⟨promised, rest, ends, hheard, (List.prefix_append _ _).trans hprefix⟩
  | none =>
    unfold toWrite at hw
    cases hpc : s.pc <;> simp only [hpc, PcInvariant] at hw hat <;> try contradiction
    case header =>
      obtain ⟨harrived, hinvoked, hwritten⟩ := hat
      rw [hinvoked, hwritten]
      exact ⟨[], _, _, .waiting _, List.prefix_refl _⟩
    case read persistent =>
      obtain ⟨client, hserving, rfl, hgoes, hwritten⟩ := hat
      exact ⟨_, _, _, hserving.heard hgoes, prefix_of_eq hwritten⟩
    case callback persistent data =>
      obtain ⟨client, hserving, -, rfl, hgoes, hwritten⟩ := hat
      exact ⟨_, _, _, hserving.heard hgoes, prefix_of_eq hwritten⟩
    case body persistent result => split at hw <;> cases hw
    case closed =>
      obtain ⟨promised, rest, ends, hheard, hprefix, -⟩ := hat
      exact ⟨promised, rest, ends, hheard, hprefix⟩

theorem toWrite_not_closed {bytes : Bytes} {pc : ServerPc}
    (hw : s.toWrite provider encodeString = some (bytes, pc)) : s.pc ≠ .closed := by
  rintro hpc
  simp [toWrite, hpc] at hw

theorem step_invariant {label : Label} (h : s.Invariant provider encodeString callback)
    (hs : s.step provider encodeString callback label = some t) :
    t.Invariant provider encodeString callback := by
  have hat := h.at_pc
  cases label with
  | arrive bytes =>
    simp only [step] at hs
    split at hs <;> cases hs
    exact h.hear (Bool.not_eq_true _ ▸ ‹_›) bytes
  | hangUp =>
    cases hs
    simpa using h.told true false
  | cancel =>
    cases hs
    simpa using h.told false true
  | cancelled =>
    simp only [step] at hs
    split at hs
    · split at hs <;> cases hs
      exact h.closes (.inr ⟨_, ‹_›⟩) (.inl ‹_›)
    · cases hs
  | read =>
    simp only [step, read] at hs
    split at hs
    · rename_i hpc
      split at hs
      · rename_i header rest hread
        cases hs
        exact h.readHeader hpc hread
      · rename_i e hread
        split at hs <;> cases hs
        exact h.closes (.inl hpc) (.inr ⟨‹_›, frames_of_error hread⟩)
    · rename_i persistent hpc
      split at hs
      · rename_i data rest hread
        cases hs
        simp only [PcInvariant, hpc] at hat
        obtain ⟨client, hserving, hpersistent, hgoes, hwritten⟩ := hat
        refine .of_pc ⟨client, ?_, isFrame_of_read hread, hpersistent, hgoes, hwritten⟩
          (h.not_broken (by simp [hpc]))
        rw [← readTcprosFrame_eq_ok hread, List.flatten_singleton]
        exact hserving
      · rename_i e hread
        split at hs <;> cases hs
        exact h.closes (.inr ⟨_, hpc⟩) (.inr ⟨‹_›, frames_of_error hread⟩)
    · cases hs
  | callback =>
    simp only [step] at hs
    split at hs
    · rename_i persistent data hpc
      cases hs
      simp only [PcInvariant, hpc] at hat
      obtain ⟨client, hserving, hdata, hpersistent, hgoes, hwritten⟩ := hat
      exact .of_pc ⟨client, s.invoked, data, hserving.invoke hdata, hpersistent, hgoes, rfl, rfl,
        hwritten⟩ (h.not_broken (by simp [hpc]))
    · cases hs
  | write =>
    obtain ⟨⟨bytes, pc⟩, hw, hs⟩ := Option.bind_eq_some_iff.mp hs
    cases hs
    exact .of_pc (h.writes hw).1 (h.not_broken (toWrite_not_closed hw))
  | writeFails taken =>
    obtain ⟨⟨bytes, pc⟩, hw, hs⟩ := Option.bind_eq_some_iff.mp hs
    cases hs
    obtain ⟨-, promised, rest, ends, hheard, hprefix⟩ := h.writes hw
    refine ⟨fun _ => rfl, promised, rest, ends, hheard, ?_, fun hb => by cases hb⟩
    exact ((List.prefix_append_right_inj _).mpr (List.take_prefix taken bytes)).trans hprefix

variable (provider encodeString callback) in
/-- All that the provider can do for now has been done. -/
def AtRest (s : ServedConnection) : Prop :=
  ∀ label ∈ [Label.cancelled, .read, .callback, .write],
    s.step provider encodeString callback label = none

theorem AtRest.pc (h : s.AtRest provider encodeString callback) (hpc : s.pc ≠ .backlog) :
    s.pc = .header ∨ s.pc = .closed ∨ ∃ persistent, s.pc = .read persistent := by
  have hcallback := h .callback (by simp)
  have hwrite : s.toWrite provider encodeString = none := by
    have hwrite := h .write (by simp)
    cases hw : s.toWrite provider encodeString
    · rfl
    · simp [step, hw] at hwrite
  cases hs : s.pc <;> simp [toWrite, step, hs] at hwrite hcallback hpc ⊢
  split at hwrite <;> cases hwrite

theorem AtRest.waits (h : s.AtRest provider encodeString callback)
    (hpc : s.pc = .header ∨ ∃ persistent, s.pc = .read persistent) :
    frames s.unread = [] ∧ s.ended = false := by
  have hstep := h .read (by simp)
  have hread : ∀ next, s.read next = none → frames s.unread = [] ∧ s.ended = false := by
    intro next hnone
    unfold read at hnone
    split at hnone
    · cases hnone
    · rename_i e hread
      split at hnone
      · cases hnone
      · exact ⟨frames_of_error hread, Bool.not_eq_true _ ▸ ‹_›⟩
  rcases hpc with hpc | ⟨persistent, hpc⟩
  · exact hread provider.handleHeader (by simpa only [step, hpc] using hstep)
  · exact hread (.callback persistent) (by simpa only [step, hpc] using hstep)

/-- What the connection has come to when it is left alone. -/
theorem AtRest.heard (h : s.AtRest provider encodeString callback)
    (hinv : s.Invariant provider encodeString callback) (hbroken : s.broken = false) :
    ∃ rest ends, Heard provider encodeString callback s.arrived s.invoked s.written rest ends ∧
      (s.cancelled = false → (ends = true ∨ frames rest = []) ∧
        (s.pc.isClosed = true ↔ ends = true ∨ s.ended = true)) := by
  have hat := hinv.at_pc
  rcases h.pc (fun hpc => by simp [PcInvariant, hpc] at hat) with hpc | hpc | ⟨persistent, hpc⟩
  · obtain ⟨hunread, hended⟩ := h.waits (.inl hpc)
    simp only [PcInvariant, hpc] at hat
    obtain ⟨harrived, hinvoked, hwritten⟩ := hat
    rw [hinvoked, harrived, hwritten, hpc, hended]
    exact ⟨_, _, .waiting _, fun _ => ⟨.inr hunread, by simp [ServerPc.isClosed]⟩⟩
  · simp only [PcInvariant, hpc] at hat
    obtain ⟨promised, rest, ends, hheard, -, hwritten⟩ := hat
    obtain ⟨rfl, hwhy⟩ := hwritten hbroken
    refine ⟨rest, ends, hheard, fun hnot => ?_⟩
    have hwhy : ends = true ∨ s.ended = true ∧ frames rest = [] :=
      hwhy.imp_right fun hwhy => hwhy.resolve_left (by rw [hnot]; exact Bool.false_ne_true)
    exact ⟨hwhy.imp_right And.right, by rw [hpc]; exact iff_of_true rfl (hwhy.imp_right And.left)⟩
  · obtain ⟨hunread, hended⟩ := h.waits (.inr ⟨persistent, hpc⟩)
    simp only [PcInvariant, hpc] at hat
    obtain ⟨client, hserving, rfl, hgoes, hwritten⟩ := hat
    rw [hwritten, hpc, hended]
    exact ⟨_, _, hserving.heard hgoes, fun _ => ⟨.inr hunread, by simp [ServerPc.isClosed]⟩⟩

theorem Heard.said_invoked {told promised rest : Bytes} {requests : List Bytes} {ends : Bool}
    (h : Heard provider encodeString callback told requests promised rest ends)
    (hrequests : requests ≠ []) :
    promised = provider.serverHeaderBytes ++ replies encodeString callback requests := by
  cases h with
  | waiting | refused | probed => exact absurd rfl hrequests
  | served | last => rfl

/-- However its bytes come in and whenever it hangs up, a client is told what it is due and nothing
else, one response to each request in turn; the connection closes when no more can be due. -/
theorem requests_served {labels : List Label}
    (hrun : Run (step provider encodeString callback) (fun _ _ => True) accept labels s) :
    s.invoked <+: (due provider encodeString callback s.arrived).requests ∧
    s.written <+: (due provider encodeString callback s.arrived).said ∧
    (s.AtRest provider encodeString callback → s.broken = false →
      (s.invoked ≠ [] → s.written =
        provider.serverHeaderBytes ++ replies encodeString callback s.invoked) ∧
      (s.cancelled = false →
        s.invoked = (due provider encodeString callback s.arrived).requests ∧
        s.written = (due provider encodeString callback s.arrived).said ∧
        (s.pc.isClosed = true ↔
          (due provider encodeString callback s.arrived).closes = true ∨ s.ended = true))) := by
  have hinv : s.Invariant provider encodeString callback :=
    hrun.invariant (fun _ _ _ h _ hs => step_invariant h hs) accept_invariant
  obtain ⟨promised, rest, ends, hheard, hprefix⟩ := hinv.said
  obtain ⟨hrequests, hsaid, -⟩ := hheard.due_eq
  refine ⟨hrequests, hprefix.trans hsaid, fun hrest hbroken => ?_⟩
  obtain ⟨rest, ends, hheard, hclosed⟩ := hrest.heard hinv hbroken
  refine ⟨hheard.said_invoked, fun hnot => ?_⟩
  obtain ⟨hall, hiff⟩ := hclosed hnot
  rw [hheard.due_eq.2.2 hall]
  exact ⟨rfl, rfl, hiff⟩

end Invariant

theorem requests_served_one : ∃ (provider : Listener) (header : Bytes) (s : ServedConnection),
    s.arrived = header ++ frame [7] ++ [1] ∧ s.invoked = [frame [7]] ∧
      s.written = [0] ++ ([1] ++ frame [7]) ∧
        s.written = (due provider (fun _ => .ok []) .ok s.arrived).said ∧ s.pc.isClosed = false ∧
          (due provider (fun _ => .ok []) .ok s.arrived).closes = false := by
  obtain ⟨provider, hprovider⟩ : ∃ provider : Listener, provider = ⟨⟨"/s", ⟨"*", "*"⟩⟩, [], [0]⟩ :=
    ⟨_, rfl⟩
  let client : ServiceClientHeader := ⟨"/c", "/s", "*", "*", true⟩
  have hsize : (bodyOf client).length < 2 ^ 32 := by decide
  have hbytes : provider.serverHeaderBytes = [0] := by rw [hprovider]
  have hpersistent : client.persistent = true := rfl
  have hgreet : provider.handleHeader (frame (bodyOf client)) = .greet client := by
    rw [Listener.handleHeader, frame, fromBytes_bodyOf _ hsize, hprovider]
    rfl
  have hflat (payload : Bytes) : [frame payload].flatten = frame payload ++ [] := by simp
  have hpart : [frame [7] ++ [1]].flatten = frame [7] ++ [1] := by simp
  obtain ⟨rest, hread, hrest⟩ := readTcprosFrame_frame hsize (hflat (bodyOf client))
  obtain ⟨rest', hread', hrest'⟩ := readTcprosFrame_frame (by decide) hpart
  have hnone : readTcprosFrame [[1]] = .error .unexpectedEof := rfl
  obtain ⟨s, hrun, harrived, hwritten, hinvoked, hpc, hbroken, hcancelled, hended, hatRest⟩ :
      ∃ s, Run (step provider (fun _ => .ok []) .ok)
      (fun _ _ => True) accept [.arrive (frame (bodyOf client)), .read, .write,
        .arrive (frame [7] ++ [1]), .read, .callback, .write, .write] s ∧
      s.arrived = frame (bodyOf client) ++ frame [7] ++ [1] ∧ s.written = [0] ++ ([1] ++ frame [7]) ∧
      s.invoked = [frame [7]] ∧ s.pc.isClosed = false ∧ s.broken = false ∧ s.cancelled = false ∧
      s.ended = false ∧ s.AtRest provider (fun _ => .ok []) .ok := by
    refine ⟨⟨.read true, frame (bodyOf client) ++ frame [7] ++ [1], [1], false, false,
      [0] ++ ([1] ++ frame [7]), false, [frame [7]]⟩, run_of_exec ?_ (fun _ _ _ => trivial), rfl, rfl,
      rfl, rfl, rfl, rfl, rfl, fun label hlabel => ?_⟩
    · simp [exec, step, accept, read, toWrite, hread, hrest, hgreet, hbytes, hpersistent, hread',
        hrest', statusByte, bodyBytes, rpcSuccess]
    · simp only [List.mem_cons, List.not_mem_nil, or_false] at hlabel
      rcases hlabel with rfl | rfl | rfl | rfl <;> simp [step, read, toWrite, hnone]
  obtain ⟨-, -, hserved⟩ := requests_served hrun
  obtain ⟨-, hsaid, hclosed⟩ := (hserved hatRest hbroken).2 hcancelled
  refine ⟨provider, _, s, harrived, hinvoked, hwritten, hsaid, hpc, ?_⟩
  by_contra hcloses
  rw [hclosed.mpr (.inl (Bool.not_eq_false _ ▸ hcloses))] at hpc
  cases hpc

end ServedConnection

end RosrustAsync
