import RosrustAsync.Lib.HeadOfLine
import RosrustAsync.ListenerPeers

namespace RosrustAsync

open Relation Runs

namespace Publication

/-- The peer keeps `setup_connection` waiting: for the rest of its header, or to be written to. -/
def Stalls (self : Publication) (peer : Peer) : Prop :=
  peer.Silent ∨ peer.writeAll = none ∧ ∃ subscriberHeader header,
    readHeader peer = some subscriberHeader ∧ self.beforeWrite peer subscriberHeader = .ok header

theorem readHeader_eq_none_iff {peer : Peer} : readHeader peer = none ↔ peer.Silent := by
  rw [← Peer.headerFrame_eq_none_iff, readHeader]
  cases peer.headerFrame with
  | none => simp
  | some frame => cases frame <;> simp

theorem setupIo_eq_none_iff {self : Publication} {peer : Peer} :
    self.setupIo peer = none ↔ self.Stalls peer := by
  rw [Stalls, ← readHeader_eq_none_iff, setupIo]
  cases hread : readHeader peer with
  | none => simp
  | some subscriberHeader =>
    cases hbefore : self.beforeWrite peer subscriberHeader with
    | ok header => cases hwrite : peer.writeAll <;> simp [hbefore]
    | error e => simp [hbefore]

theorem Move.header_eq {p q : Publication} {label : Label} (h : Move p label q) :
    q.header = p.header ∧ q.tcpNodelay = p.tcpNodelay := by
  cases h <;> exact ⟨rfl, rfl⟩

theorem stalls_congr {p q : Publication} (h : q.header = p.header ∧ q.tcpNodelay = p.tcpNodelay)
    (peer : Peer) : q.Stalls peer ↔ p.Stalls peer := by
  simp only [Stalls, beforeWrite, h.1, h.2]

/-- Where each step of the listener is taken, and that none but `accept` leads to `setup`; the
other steps leave the listener where it is. -/
theorem Move.listener_pc {p q : Publication} {label : Label} (h : Move p label q) :
    match label with
    | .listenerCancelled | .listenerRecv | .accept (.error _) => p.pc = .select ∧ q.pc ≠ .setup
    | .accept (.ok _) => p.pc = .select
    | .setup _ => p.pc = .setup ∧ q.pc ≠ .setup
    | .register => (∃ task, p.pc = .register task) ∧ q.pc ≠ .setup
    | _ => q.pc = p.pc := by
  cases h with
  | send _ | refused _ | close | cancel | taskWrite _ _ _ | taskRecv _ _ _ | taskCancelled _ _
  | removeId _ _ => rfl
  | listenerCancelled hpc | drained hpc => exact ⟨hpc, by simp⟩
  | latch hpc _ | lag hpc _ | acceptError _ hpc => exact ⟨hpc, by simp [hpc]⟩
  | accept hpc => exact hpc
  | setup hpc _ | setupError hpc _ => exact ⟨hpc, by simp⟩
  | register hpc => exact ⟨⟨_, hpc⟩, by simp⟩

end Publication

namespace PublicationListener

open Publication

variable {s s' : PublicationListener}

def Own (s s' : PublicationListener) : Prop := ∃ branch, s.listen branch = some s'

theorem lift_move {label : Publication.Label} (h : s.lift label = some s') :
    Move s.publication label s'.publication ∧ s'.peers = s.peers := by
  obtain ⟨publication, hstep, h⟩ := Option.bind_eq_some_iff.mp h
  cases h
  exact ⟨step_move hstep, rfl⟩

theorem closeSocket_publication : s.closeSocket.publication = s.publication := by
  unfold closeSocket
  split <;> rfl

theorem closeSocket_peers : s.closeSocket.publication.pc = .stopped ∨ s.closeSocket.peers = s.peers := by
  unfold closeSocket
  split
  · rename_i hpc
    exact .inl hpc
  · exact .inr rfl

/-- What the listener can do by itself. -/
abbrev Turn : PublicationListener → PublicationListener → Prop :=
  HeadOfLine.Turn (fun s => s.publication.pc ≠ .stopped) (fun s => s.publication.pc = .select)
    (fun s => s.publication.pc = .setup) peers fun s => s.publication.Stalls

theorem turn_aside {label : Publication.Label} {t : PublicationListener} (h : s.lift label = some t)
    (hpc : s.publication.pc = .select ∧ t.publication.pc ≠ .setup) : Turn s t.closeSocket ∧
      t.closeSocket.publication.header = s.publication.header ∧
        t.closeSocket.publication.tcpNodelay = s.publication.tcpNodelay := by
  obtain ⟨hmove, hpeers⟩ := lift_move h
  have hclose := closeSocket_peers (s := t)
  rw [hpeers] at hclose
  rw [closeSocket_publication]
  refine ⟨.aside (by simp [hpc.1]) (by simp [hpc.1]) ?_ (hclose.imp_left not_not.mpr), hmove.header_eq⟩
  rw [closeSocket_publication]
  exact hpc.2

theorem own_turn (h : s.Own s') : Turn s s' ∧
    s'.publication.header = s.publication.header ∧
      s'.publication.tcpNodelay = s.publication.tcpNodelay := by
  obtain ⟨branch, h⟩ := h
  cases branch with
  | cancelled =>
    obtain ⟨t, hlift, h⟩ := Option.bind_eq_some_iff.mp h
    cases h
    exact turn_aside hlift (lift_move hlift).1.listener_pc
  | recv =>
    obtain ⟨t, hlift, h⟩ := Option.bind_eq_some_iff.mp h
    cases h
    exact turn_aside hlift (lift_move hlift).1.listener_pc
  | accept connection =>
    cases connection with
    | ok u =>
      simp only [listen] at h
      split at h
      · cases h
      · rename_i hne
        obtain ⟨hmove, hpeers⟩ := lift_move h
        have hline : s.peers ≠ [] := fun hnil => hne u rfl hnil
        exact ⟨.take hmove.listener_pc hline hpeers, hmove.header_eq⟩
    | error e =>
      obtain ⟨hmove, hpeers⟩ := lift_move h
      obtain ⟨hpc, hpc'⟩ := hmove.listener_pc
      exact ⟨.aside (by simp [hpc]) (by simp [hpc]) hpc' (.inr hpeers), hmove.header_eq⟩
  | setup =>
    simp only [listen] at h
    split at h
    · cases h
    · rename_i peer peers hline
      obtain ⟨stream, hstream, h⟩ := Option.bind_eq_some_iff.mp h
      obtain ⟨publication, hstep, h⟩ := Option.bind_eq_some_iff.mp h
      cases h
      have hmove := step_move hstep
      obtain ⟨hpc, hpc'⟩ := hmove.listener_pc
      have hfree : ¬ s.publication.Stalls peer := by
        rw [← setupIo_eq_none_iff, hstream]
        exact Option.some_ne_none stream
      exact ⟨.serve hpc hpc' hline hfree, hmove.header_eq⟩
  | register =>
    obtain ⟨hmove, hpeers⟩ := lift_move h
    obtain ⟨⟨task, hpc⟩, hpc'⟩ := hmove.listener_pc
    exact ⟨.aside (by simp [hpc]) (by simp [hpc]) hpc' (.inr hpeers), hmove.header_eq⟩

/-- What the branches other than `accept` look at. -/
def watched (self : PublicationListener) : Bool × PublisherHeader × Broadcast Bytes × ℕ :=
  (self.publication.cancelled, self.publication.header, self.publication.data,
    self.publication.dataRx)

theorem accept_own {peer : Peer} {peers : List Peer} (hpc : s.publication.pc = .select)
    (hline : s.peers = peer :: peers) :
    s.Own { s with publication := { s.publication with pc := .setup } } := by
  refine ⟨.accept (.ok ()), ?_⟩
  simp only [listen, hline, lift, Publication.step, hpc]
  rfl

theorem register_own {task : PublisherTask} (hpc : s.publication.pc = .register task) :
    ∃ s', s.Own s' ∧ s'.publication.pc = .select ∧ s'.peers = s.peers ∧ s'.watched = s.watched := by
  let publication : Publication := { s.publication with
    pc := .select
    subscriberIds := insert task.subscriberId s.publication.subscriberIds
    tasks := s.publication.tasks ++ [task] }
  refine ⟨{ s with publication }, ⟨.register, ?_⟩, rfl, rfl, rfl⟩
  simp only [listen, lift, Publication.step, hpc]
  rfl

theorem settle_own (hrun : s.publication.pc ≠ .stopped) (hpc : s.publication.pc ≠ .setup) :
    ∃ s', ReflTransGen Own s s' ∧ s'.publication.pc = .select ∧ s'.peers = s.peers ∧
      s'.watched = s.watched := by
  cases h : s.publication.pc with
  | select => exact ⟨s, .refl, h, rfl, rfl⟩
  | setup => exact absurd h hpc
  | register task =>
    obtain ⟨s', hown, hs'⟩ := register_own h
    exact ⟨s', .single hown, hs'⟩
  | stopped => exact absurd h hrun

theorem setup_own {peer : Peer} {peers : List Peer} (hpc : s.publication.pc = .setup)
    (hline : s.peers = peer :: peers) (hfree : ¬ s.publication.Stalls peer) :
    ∃ s', s.Own s' ∧ s'.publication.pc ≠ .stopped ∧ s'.publication.pc ≠ .setup ∧
      s'.peers = peers ∧ s'.watched = s.watched := by
  rw [← setupIo_eq_none_iff] at hfree
  obtain ⟨stream, hstream⟩ := Option.ne_none_iff_exists'.mp hfree
  refine ⟨⟨s.publication.setup stream, peers⟩, ⟨.setup, ?_⟩, ?_⟩
  · simp only [listen, hline, hstream, Publication.step, hpc]
    rfl
  · unfold watched Publication.setup
    split <;> simp

def headOfLine : HeadOfLine PublicationListener Peer (Bool × PublisherHeader × Broadcast Bytes × ℕ) where
  own := Own
  running s := s.publication.pc ≠ .stopped
  idle s := s.publication.pc = .select
  serving s := s.publication.pc = .setup
  line := peers
  stalled s := s.publication.Stalls
  view := watched
  running_of_idle hpc := by simp [hpc]
  running_of_serving hpc := by simp [hpc]
  not_idle hpc := by simp [hpc]
  own_turn he := (own_turn he).1
  stalled_own he := stalls_congr (own_turn he).2 _
  settle hrun hpc := settle_own hrun hpc
  take hpc hne := by
    obtain ⟨peer, peers, hline⟩ := List.exists_cons_of_ne_nil hne
    exact ⟨_, accept_own hpc hline, rfl, rfl, rfl⟩
  serve hpc hline hfree := by
    obtain ⟨t, hown, hrun, hpc', hpeers, hwatched⟩ := setup_own hpc hline hfree
    obtain ⟨u, hsettle, hidle, hpeers', hwatched'⟩ := settle_own hrun hpc'
    exact ⟨u, .head hown hsettle, hidle, hpeers'.trans hpeers, hwatched'.trans hwatched⟩

/-- There is a message, or the end of the channel, for a latching publication to receive. -/
def Receives (self : PublicationListener) : Prop :=
  self.publication.header.latching ∧
    (self.publication.data.recv self.publication.dataRx).isSome

/-- The listener gets by itself to where it can take a branch. -/
def Able (self : PublicationListener) (branch : Branch) : Prop :=
  ∃ s', ReflTransGen Own self s' ∧ (s'.listen branch).isSome

structure Isolated (listener : PublicationListener) : Prop where
  cancelled : listener.publication.cancelled → listener.Able .cancelled
  recv : listener.Receives → listener.Able .recv
  peers : ∀ i peer, listener.peers[i]? = some peer → peer.HeaderArrived → headOfLine.Serves i listener

/-- Nobody stalls who is being set up while there is something else to do, or who is in line before
a peer whose header has arrived. -/
structure Unstalled (listener : PublicationListener) : Prop where
  current : listener.publication.cancelled ∨ listener.Receives → ∀ peer peers,
    listener.publication.pc = .setup → listener.peers = peer :: peers → ¬ listener.publication.Stalls peer
  ahead : ∀ i peer, listener.peers[i]? = some peer → peer.HeaderArrived →
    ∀ q ∈ listener.peers.take (i + 1), ¬ listener.publication.Stalls q

theorem closeSocket_isSome (o : Option PublicationListener) :
    (do some (← o).closeSocket : Option PublicationListener).isSome = o.isSome := by
  cases o <;> rfl

theorem lift_isSome (label : Publication.Label) :
    (s.lift label).isSome = (s.publication.step label).isSome := by
  unfold lift
  cases s.publication.step label <;> rfl

theorem listen_cancelled_isSome_iff :
    (s.listen .cancelled).isSome ↔ s.publication.pc = .select ∧ s.publication.cancelled := by
  rw [listen, closeSocket_isSome, lift_isSome, Publication.step]
  cases s.publication.pc <;> cases s.publication.cancelled <;> simp

theorem listenerRecv_isSome {p : Publication} :
    p.listenerRecv.isSome = (p.data.recv p.dataRx).isSome := by
  unfold listenerRecv
  cases p.data.recv p.dataRx with
  | none => rfl
  | some r =>
    obtain ⟨received, next⟩ := r
    cases received <;> rfl

theorem listen_recv_isSome_iff :
    (s.listen .recv).isSome ↔ s.publication.pc = .select ∧ s.Receives := by
  rw [listen, closeSocket_isSome, lift_isSome, Publication.step, Receives]
  cases s.publication.pc <;> cases s.publication.header.latching <;> simp [listenerRecv_isSome]

theorem able_cancelled_iff : s.Able .cancelled ↔ headOfLine.Turns (fun w => w.1 = true) s := by
  simp only [Able, HeadOfLine.Turns, listen_cancelled_isSome_iff]
  rfl

theorem able_recv_iff : s.Able .recv ↔ headOfLine.Turns
    (fun w => w.2.1.latching = true ∧ (w.2.2.1.recv w.2.2.2).isSome) s := by
  simp only [Able, HeadOfLine.Turns, listen_recv_isSome_iff]
  rfl

theorem lift_valid {label : Publication.Label} (hv : headOfLine.Valid s) (h : s.lift label = some s')
    (hpc : s'.publication.pc = s.publication.pc) : headOfLine.Valid s' := by
  intro hpc' hnil
  exact hv (hpc.symm.trans hpc') ((lift_move h).2.symm.trans hnil)

theorem step_valid {label : Label} (hv : headOfLine.Valid s) (h : s.step label = some s') :
    headOfLine.Valid s' := by
  cases label with
  | peer event =>
    simp only [step] at h
    split at h
    · cases h
    · cases h
      exact fun hpc => event.apply_ne_nil (hv hpc)
  | send _ | close | cancel | taskWrite _ _ | taskRecv _ _ | taskCancelled _ | taskRemoveId _ =>
    exact lift_valid hv h (lift_move h).1.listener_pc
  | listener branch => exact HeadOfLine.valid_own ⟨branch, h⟩

theorem new_valid {topic : Topic} {callerId : String} {queueSize : ℕ} {tcpNodelay latching : Bool}
    (h : new topic callerId queueSize tcpNodelay latching = some s) : headOfLine.Valid s := by
  obtain ⟨publication, hnew, h⟩ := Option.bind_eq_some_iff.mp h
  cases h
  obtain ⟨data, -, hnew⟩ := Option.bind_eq_some_iff.mp hnew
  cases hnew
  intro hpc
  cases hpc

theorem able_cancelled_iff_free (hv : headOfLine.Valid s) (hrun : s.publication.pc ≠ .stopped)
    (hc : s.publication.cancelled) : s.Able .cancelled ↔ headOfLine.Free s := by
  rw [able_cancelled_iff]
  exact HeadOfLine.turns_iff hv hrun hc

theorem able_recv_iff_free (hv : headOfLine.Valid s) (hrun : s.publication.pc ≠ .stopped)
    (hr : s.Receives) : s.Able .recv ↔ headOfLine.Free s := by
  rw [able_recv_iff]
  exact HeadOfLine.turns_iff hv hrun hr

theorem serves_iff_ahead (hv : headOfLine.Valid s) (hrun : s.publication.pc ≠ .stopped) {i : ℕ}
    {peer : Peer} (hi : s.peers[i]? = some peer) : headOfLine.Serves i s ↔
      ∀ q ∈ s.peers.take (i + 1), ¬ s.publication.Stalls q :=
  HeadOfLine.serves_iff hv hrun (List.getElem?_eq_some_iff.mp hi).1

theorem isolated_iff_of_valid (hv : headOfLine.Valid s) (hrun : s.publication.pc ≠ .stopped) :
    s.Isolated ↔ s.Unstalled := by
  constructor
  · intro h
    constructor
    · rintro (hc | hr) peer peers
      · exact (able_cancelled_iff_free hv hrun hc).mp (h.cancelled hc) peer peers
      · exact (able_recv_iff_free hv hrun hr).mp (h.recv hr) peer peers
    · intro i peer hi harrived
      exact (serves_iff_ahead hv hrun hi).mp (h.peers i peer hi harrived)
  · intro h
    constructor
    · intro hc
      exact (able_cancelled_iff_free hv hrun hc).mpr (h.current (.inl hc))
    · intro hr
      exact (able_recv_iff_free hv hrun hr).mpr (h.current (.inr hr))
    · intro i peer hi harrived
      exact (serves_iff_ahead hv hrun hi).mpr (h.ahead i peer hi harrived)

/-- The states that some run reaches. -/
def Reached (self : PublicationListener) : Prop :=
  ∃ topic callerId queueSize tcpNodelay latching listener labels,
    new topic callerId queueSize tcpNodelay latching = some listener ∧
      Run step (fun _ _ => True) listener labels self

theorem Reached.valid (h : s.Reached) : headOfLine.Valid s := by
  obtain ⟨_, _, _, _, _, listener, labels, hnew, hrun⟩ := h
  exact hrun.invariant (fun _ _ _ hv _ he => step_valid hv he) (new_valid hnew)

end PublicationListener

end RosrustAsync
