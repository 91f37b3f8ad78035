import RosrustAsync.PublicationIsolation
import RosrustAsync.ServiceAgreement

namespace RosrustAsync

open Relation Runs

/-- `handle_request` answers the header: it is a probe, or that of a client it takes. -/
def Listener.Answers (self : Listener) (headerData : Bytes) : Prop :=
  match self.handleHeader headerData with
  | .probe | .greet _ => True
  | _ => False

namespace ServiceListener

variable {s s' : ServiceListener}

/-- The peer keeps `handle_request` waiting: for the rest of its header, or to be written to. -/
def Stalls (provider : Listener) (peer : Peer) : Prop :=
  peer.Silent ∨ peer.writeAll = none ∧ ∃ headerData,
    peer.headerFrame = some (.ok headerData) ∧ provider.Answers headerData

theorem handleRequest_eq_none_iff {provider : Listener} {peer : Peer} :
    handleRequest provider peer = none ↔ Stalls provider peer := by
  rw [Stalls, ← Peer.headerFrame_eq_none_iff, handleRequest]
  cases hframe : peer.headerFrame with
  | none => simp
  | some frame =>
    cases frame with
    | error e => simp
    | ok headerData =>
      cases hheader : provider.handleHeader headerData <;>
        cases hwrite : peer.writeAll with
        | none => simp [hheader, Listener.Answers]
        | some result => cases result <;> simp [hheader]

def Own (s s' : ServiceListener) : Prop := ∃ branch, s.listen branch = some s'

abbrev Turn : ServiceListener → ServiceListener → Prop :=
  HeadOfLine.Turn (fun s => s.pc ≠ .stopped) (fun s => s.pc = .select)
    (fun s => s.pc = .handleRequest) peers fun s => Stalls s.provider

theorem own_turn (h : s.Own s') : Turn s s' ∧ s'.provider = s.provider := by
  obtain ⟨branch, h⟩ := h
  cases branch with
  | cancelled =>
    simp only [listen] at h
    split at h
    · rename_i hpc
      split at h
      · cases h
        exact ⟨.aside (by simp [hpc]) (by simp [hpc]) (by simp) (.inl (by simp)), rfl⟩
      · cases h
    · cases h
  | accept connection =>
    simp only [listen] at h
    split at h
    · rename_i hpc hline
      cases h
      exact ⟨.take hpc (hline ▸ List.cons_ne_nil _ _) rfl, rfl⟩
    · rename_i hpc
      cases h
      exact ⟨.aside (by simp [hpc]) (by simp [hpc]) (by simp [hpc]) (.inr rfl), rfl⟩
    · cases h
  | handleRequest =>
    simp only [listen] at h
    split at h
    · rename_i peer peers hpc hline
      obtain ⟨rpcTasks, hhandle, h⟩ := Option.bind_eq_some_iff.mp h
      cases h
      have hfree : ¬ Stalls s.provider peer := by
        rw [← handleRequest_eq_none_iff, hhandle]
        exact Option.some_ne_none rpcTasks
      exact ⟨.serve hpc (by simp) hline hfree, rfl⟩
    · cases h

theorem accept_own {peer : Peer} {peers : List Peer} (hpc : s.pc = .select)
    (hline : s.peers = peer :: peers) : s.Own { s with pc := .handleRequest } := by
  refine ⟨.accept (.ok ()), ?_⟩
  simp only [listen, hpc, hline]

theorem handleRequest_own {peer : Peer} {peers : List Peer} (hpc : s.pc = .handleRequest)
    (hline : s.peers = peer :: peers) (hfree : ¬ Stalls s.provider peer) :
    ∃ s', s.Own s' ∧ s'.pc = .select ∧ s'.peers = peers ∧ s'.cancelled = s.cancelled := by
  rw [← handleRequest_eq_none_iff] at hfree
  obtain ⟨rpcTasks, hhandle⟩ := Option.ne_none_iff_exists'.mp hfree
  let t : ServiceListener := { s with pc := .select, peers, rpcTasks := s.rpcTasks ++ rpcTasks }
  refine ⟨t, ⟨.handleRequest, ?_⟩, rfl, rfl, rfl⟩
  simp only [listen, hpc, hline, hhandle]
  rfl

def headOfLine : HeadOfLine ServiceListener Peer Bool where
  own := Own
  running s := s.pc ≠ .stopped
  idle s := s.pc = .select
  serving s := s.pc = .handleRequest
  line := peers
  stalled s := Stalls s.provider
  view := cancelled
  running_of_idle hpc := by simp [hpc]
  running_of_serving hpc := by simp [hpc]
  not_idle hpc := by simp [hpc]
  own_turn he := (own_turn he).1
  stalled_own he := by rw [(own_turn he).2]
  settle {s} hrun hpc := by
    cases h : s.pc with
    | select => exact ⟨s, .refl, h, rfl, rfl⟩
    | handleRequest => exact absurd h hpc
    | stopped => exact absurd h hrun
  take hpc hne := by
    obtain ⟨peer, peers, hline⟩ := List.exists_cons_of_ne_nil hne
    exact ⟨_, accept_own hpc hline, rfl, rfl, rfl⟩
  serve hpc hline hfree := by
    obtain ⟨t, hown, ht⟩ := handleRequest_own hpc hline hfree
    exact ⟨t, .single hown, ht⟩

/-- The listener gets by itself to where it can take a branch. -/
def Able (self : ServiceListener) (branch : Branch) : Prop :=
  ∃ s', ReflTransGen Own self s' ∧ (s'.listen branch).isSome

structure Isolated (listener : ServiceListener) : Prop where
  cancelled : listener.cancelled → listener.Able .cancelled
  peers : ∀ i peer, listener.peers[i]? = some peer → peer.HeaderArrived →
    headOfLine.Serves i listener

/-- Nobody stalls whose request is being handled when the listener is cancelled, or who is in line
before a peer whose header has arrived. -/
structure Unstalled (listener : ServiceListener) : Prop where
  current : listener.cancelled → ∀ peer peers, listener.pc = .handleRequest →
    listener.peers = peer :: peers → ¬ Stalls listener.provider peer
  ahead : ∀ i peer, listener.peers[i]? = some peer → peer.HeaderArrived →
    ∀ q ∈ listener.peers.take (i + 1), ¬ Stalls listener.provider q

theorem listen_cancelled_isSome_iff :
    (s.listen .cancelled).isSome ↔ s.pc = .select ∧ s.cancelled := by
  rw [listen]
  cases s.pc <;> cases s.cancelled <;> simp

theorem able_cancelled_iff_free (hv : headOfLine.Valid s) (hrun : s.pc ≠ .stopped)
    (hc : s.cancelled) : s.Able .cancelled ↔ headOfLine.Free s := by
  have hturns : s.Able .cancelled ↔ headOfLine.Turns (· = true) s := by
    simp only [Able, HeadOfLine.Turns, listen_cancelled_isSome_iff]
    rfl
  rw [hturns]
  exact HeadOfLine.turns_iff hv hrun hc

theorem serves_iff_ahead (hv : headOfLine.Valid s) (hrun : s.pc ≠ .stopped) {i : ℕ} {peer : Peer}
    (hi : s.peers[i]? = some peer) : headOfLine.Serves i s ↔
      ∀ q ∈ s.peers.take (i + 1), ¬ Stalls s.provider q :=
  HeadOfLine.serves_iff hv hrun (List.getElem?_eq_some_iff.mp hi).1

theorem isolated_iff_of_valid (hv : headOfLine.Valid s) (hrun : s.pc ≠ .stopped) :
    s.Isolated ↔ s.Unstalled := by
  constructor
  · intro h
    constructor
    · intro hc peer peers
      exact (able_cancelled_iff_free hv hrun hc).mp (h.cancelled hc) peer peers
    · intro i peer hi harrived
      exact (serves_iff_ahead hv hrun hi).mp (h.peers i peer hi harrived)
  · intro h
    constructor
    · intro hc
      exact (able_cancelled_iff_free hv hrun hc).mpr (h.current hc)
    · intro i peer hi harrived
      exact (serves_iff_ahead hv hrun hi).mpr (h.ahead i peer hi harrived)

theorem step_valid {label : Label} (hv : headOfLine.Valid s) (h : s.step label = some s') :
    headOfLine.Valid s' := by
  cases label with
  | peer event =>
    simp only [step] at h
    split at h
    · cases h
    · cases h
      exact fun hpc => event.apply_ne_nil (hv hpc)
  | cancel =>
    cases h
    exact hv
  | listener branch => exact HeadOfLine.valid_own ⟨branch, h⟩

def Reached (self : ServiceListener) : Prop :=
  ∃ service callerId listener labels, new service callerId = .ok listener ∧
    Run step (fun _ _ => True) listener labels self

theorem Reached.valid (h : s.Reached) : headOfLine.Valid s := by
  obtain ⟨service, callerId, listener, labels, hnew, hrun⟩ := h
  obtain ⟨provider, -, hnew⟩ := bind_eq_ok.mp hnew
  cases hnew
  refine hrun.invariant (fun _ _ _ hv _ he => step_valid hv he) ?_
  intro hpc
  cases hpc

end ServiceListener

theorem handshakes_isolated_iff (publication : PublicationListener) (service : ServiceListener) :
    (publication.Reached → publication.publication.pc ≠ .stopped →
      (publication.Isolated ↔ publication.Unstalled)) ∧
    (service.Reached → service.pc ≠ .stopped → (service.Isolated ↔ service.Unstalled)) := by
  constructor
  · intro hreached hrun
    exact PublicationListener.isolated_iff_of_valid hreached.valid hrun
  · intro hreached hrun
    exact ServiceListener.isolated_iff_of_valid hreached.valid hrun

def silentPeer : Peer := ⟨[], none, .ok (), none⟩

/-- A peer that has sent the whole of its header, and takes the answer. -/
def promptPeer {T : Type} [Header T] (header : T) : Peer :=
  ⟨frame (bodyOf header), none, .ok (), some (.ok ())⟩

def scanPeer : Peer := promptPeer (⟨"/mapper", "/scan", "*", "*", "", false⟩ : SubscriberHeader)

def addPeer : Peer :=
  promptPeer (⟨"/client", "/add", "*", "rospy_tutorials/AddTwoInts", true⟩ : ServiceClientHeader)

theorem silentPeer_silent : silentPeer.Silent := by
  rw [← Peer.headerFrame_eq_none_iff, Peer.headerFrame, silentPeer, readTcprosFrame_nil]
  rfl

theorem promptPeer_arrived {T : Type} [Header T] {header : T}
    (hsize : (bodyOf header).length < 2 ^ 32) : (promptPeer header).HeaderArrived := by
  have hflat : [(promptPeer header).arrived].flatten = frame (bodyOf header) ++ [] := by
    simp [promptPeer]
  obtain ⟨rest, hread, -⟩ := readTcprosFrame_frame hsize hflat
  exact ⟨_, rest, hread⟩

/-- A latching listener that is setting the first peer up, with a message sent and the publication
dropped. -/
def scanListener (peers : List Peer) : PublicationListener where
  publication :=
    { header := ⟨"/lidar", "/scan", "*", "*", "", true⟩
      tcpNodelay := false
      subscriberIds := ∅
      data := ⟨1, [frame [7]], false⟩
      cancelled := true
      pc := .setup
      latchedMessage := none
      dataRx := 0
      tasks := [] }
  peers

theorem scanListener_reached (first second : Peer) : (scanListener [first, second]).Reached := by
  refine ⟨⟨"/scan", ⟨"*", "*", ""⟩⟩, "/lidar", 1, false, true, _,
    [.peer (.connect first), .peer (.connect second), .listener (.accept (.ok ())),
      .send (frame [7]), .cancel], rfl, ?_⟩
  exact run_of_exec rfl fun _ _ _ => trivial

theorem addListener_reached (first second : Peer) : ∃ s : ServiceListener, s.Reached ∧
    s.pc = .handleRequest ∧ s.cancelled = true ∧ s.peers = [first, second] := by
  obtain ⟨listener, hnew, hpc⟩ : ∃ listener,
      ServiceListener.new addService "/server" = .ok listener ∧
        listener = { listener with cancelled := false, pc := .select, peers := [] } := by
    simp only [ServiceListener.new, Listener.new, toBytes_eq]
    exact ⟨_, rfl, rfl⟩
  let s : ServiceListener := { listener with
    cancelled := true, pc := .handleRequest, peers := [first, second] }
  refine ⟨s, ⟨addService, "/server", listener, [.peer (.connect first), .peer (.connect second),
    .listener (.accept (.ok ())), .cancel], hnew, ?_⟩, rfl, rfl, rfl⟩
  rw [hpc]
  exact run_of_exec rfl fun _ _ _ => trivial

theorem handshakes_isolated_iff_scan : (scanListener [scanPeer, scanPeer]).Isolated ∧
    ∃ s : ServiceListener, s.peers = [addPeer, addPeer] ∧ s.cancelled = true ∧ s.Isolated := by
  have hscan : ¬ Publication.Stalls (scanListener [scanPeer, scanPeer]).publication scanPeer := by
    rintro (hs | ⟨hw, -⟩)
    · exact hs.1 (promptPeer_arrived (by decide))
    · cases hw
  have hadd (provider : Listener) : ¬ ServiceListener.Stalls provider addPeer := by
    rintro (hs | ⟨hw, -⟩)
    · exact hs.1 (promptPeer_arrived (by decide))
    · cases hw
  obtain ⟨s, hs, hpc, hc, hpeers⟩ := addListener_reached addPeer addPeer
  obtain ⟨hpublication, hservice⟩ := handshakes_isolated_iff (scanListener [scanPeer, scanPeer]) s
  constructor
  · apply (hpublication (scanListener_reached _ _) (by simp [scanListener])).mpr
    constructor
    · intro _ peer peers _ hline
      cases hline
      exact hscan
    · intro i peer _ _ q hq
      obtain rfl : q = scanPeer := by simpa [scanListener] using List.mem_of_mem_take hq
      exact hscan
  · refine ⟨s, hpeers, hc, (hservice hs (by simp [hpc])).mpr ⟨?_, ?_⟩⟩
    · intro _ peer peers _ hline
      obtain ⟨rfl, -⟩ := List.cons.inj (hpeers.symm.trans hline)
      exact hadd _
    · intro i peer _ _ q hq
      obtain rfl : q = addPeer := by simpa [hpeers] using List.mem_of_mem_take hq
      exact hadd _

theorem handshakes_not_isolated :
    (∃ s : PublicationListener, s.Reached ∧ s.publication.pc ≠ .stopped ∧
      (s.publication.cancelled ∧ ¬ s.Able .cancelled) ∧ (s.Receives ∧ ¬ s.Able .recv) ∧
      ∃ peer, s.peers[1]? = some peer ∧ peer.HeaderArrived ∧
        ¬ PublicationListener.headOfLine.Serves 1 s) ∧
    ∃ s : ServiceListener, s.Reached ∧ s.pc ≠ .stopped ∧
      (s.cancelled ∧ ¬ s.Able .cancelled) ∧
      ∃ peer, s.peers[1]? = some peer ∧ peer.HeaderArrived ∧
        ¬ ServiceListener.headOfLine.Serves 1 s := by
  constructor
  · have hs := scanListener_reached silentPeer scanPeer
    have hrun : (scanListener [silentPeer, scanPeer]).publication.pc ≠ .stopped := by
      simp [scanListener]
    have hsilent : Publication.Stalls (scanListener [silentPeer, scanPeer]).publication silentPeer :=
      .inl silentPeer_silent
    have hreceives : (scanListener [silentPeer, scanPeer]).Receives := ⟨rfl, rfl⟩
    refine ⟨_, hs, hrun, ⟨rfl, ?_⟩, ⟨hreceives, ?_⟩, scanPeer, rfl, promptPeer_arrived (by decide), ?_⟩
    · rw [PublicationListener.able_cancelled_iff_free hs.valid hrun rfl]
      exact fun hfree => hfree _ _ rfl rfl hsilent
    · rw [PublicationListener.able_recv_iff_free hs.valid hrun hreceives]
      exact fun hfree => hfree _ _ rfl rfl hsilent
    · have hpeer : (scanListener [silentPeer, scanPeer]).peers[1]? = some scanPeer := rfl
      rw [PublicationListener.serves_iff_ahead hs.valid hrun hpeer]
      exact fun hall => hall _ List.mem_cons_self hsilent
  · obtain ⟨s, hs, hpc, hc, hpeers⟩ := addListener_reached silentPeer addPeer
    have hrun : s.pc ≠ .stopped := by simp [hpc]
    have hsilent : ServiceListener.Stalls s.provider silentPeer := .inl silentPeer_silent
    have hpeer : s.peers[1]? = some addPeer := by
      rw [hpeers]
      rfl
    refine ⟨s, hs, hrun, ⟨hc, ?_⟩, addPeer, hpeer, promptPeer_arrived (by decide), ?_⟩
    · rw [ServiceListener.able_cancelled_iff_free hs.valid hrun hc]
      exact fun hfree => hfree silentPeer [addPeer] hpc hpeers hsilent
    · rw [ServiceListener.serves_iff_ahead hs.valid hrun hpeer]
      exact fun hall => hall silentPeer (by simp [hpeers]) hsilent

end RosrustAsync
