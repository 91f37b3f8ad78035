import RosrustAsync.ControlPlaneRuns

namespace RosrustAsync

open Actor Relation Runs

def Request.rank {V : Type} : Request V → ℕ
  | .paramUpdate _ _ _ | .publisherUpdate _ _ _ => 0
  | .getPublications _ | .requestTopic _ _ _ => 3
  | .getSubscriptions _ => 6

/-! Answers of calls that do not come through. -/

def PublisherCall.failed (error : String) : (c : PublisherCall) → c.Ans
  | .bind _ => .error (.other error)
  | .subscriberIds _ => ∅
  | .registerPublisher _ _ | .unregisterPublisher _ => .error (.client (.net error))

def SubscriberCall.failed (error : String) : (c : SubscriberCall) → c.Ans
  | .registerSubscriber _ _ | .unregisterSubscriber _ => .error (.client (.net error))
  | .parseUrl _ => .error ⟨error⟩
  | .requestTopic _ _ _ _ => .error (.client (.net error))
  | .addPublisher _ _ _ => .error (.io (.other error))
  | .publisherAddrs _ => ∅
  | .latchedMsgs _ => []

def ParameterCall.failed {V : Type} (error : String) : (c : ParameterCall V) → c.Ans
  | .getParam _ | .setParam _ _ | .deleteParam _ | .searchParam _ | .subscribeParam _
  | .unsubscribeParam _ | .hasParam _ | .getParamNames => .error (.client (.net error))

namespace ControlPlane

variable {N V : Type} [DecidableEq N] [DecidableEq V] {emptyStruct : V} {net : ControlPlane N V}

/-- The listener has turned to the connection to which the subscriber actor writes. -/
def Heard (net : ControlPlane N V) (n : N) : Prop :=
  ∃ l c backlog, net.stages ⟨n, .subscriber⟩ = .writing l c ∧
    net.listeners[l]? = some (.setup ⟨n, c⟩ backlog)

open Classical in
/-- A subscriber actor waits for nobody while it is heard, and may wait for a listener otherwise. -/
noncomputable def rank (net : ControlPlane N V) : Party N → ℕ
  | .master => 1
  | .actor ⟨n, .subscriber⟩ => if net.Heard n then 0 else 5
  | .actor ⟨_, _⟩ => 2
  | .handler h => (net.handlers[h]?.map fun handler => handler.request.rank).getD 0
  | .listener _ => 4

section

omit [DecidableEq N] [DecidableEq V]

theorem isWriting_iff {l : ℕ} {connection : Connection N} : net.isWriting l connection ↔
    net.stages ⟨connection.node, .subscriber⟩ = .writing l connection.id := by
  unfold isWriting
  split
  · rename_i l' c hstage
    rw [hstage]
    simp
  · rename_i hstage
    simp only [Bool.false_eq_true, false_iff]
    exact hstage l connection.id

theorem rank_handler {h : ℕ} {handler : HandlerTask N V} (hh : net.handlers[h]? = some handler) :
    net.rank (.handler h) = handler.request.rank := by
  simp [rank, hh]

theorem rank_heard {n : N} (h : net.Heard n) : net.rank (.actor ⟨n, .subscriber⟩) = 0 := if_pos h

theorem rank_unheard {n : N} (h : ¬ net.Heard n) : net.rank (.actor ⟨n, .subscriber⟩) = 5 :=
  if_neg h

theorem rank_subscriber_le {n : N} : net.rank (.actor ⟨n, .subscriber⟩) ≤ 5 := by
  by_cases h : net.Heard n
  · rw [rank_heard h]
    omega
  · rw [rank_unheard h]

theorem not_heard_of_stage {n : N} (h : ∀ l c, net.stages ⟨n, .subscriber⟩ ≠ .writing l c) :
    ¬ net.Heard n :=
  fun ⟨l, c, _, hwriting, _⟩ => h l c hwriting

end

theorem ranked (hnet : net.Invariant emptyStruct) : Ranked net.WaitsFor net.rank := by
  intro p q hpq
  cases hpq with
  | master hstage =>
    rename_i actor
    obtain ⟨n, kind⟩ := actor
    cases kind with
    | publisher =>
      show 1 < 2
      omega
    | subscriber =>
      rw [rank_unheard (not_heard_of_stage fun l c => by rw [hstage]; nofun)]
      show 1 < 5
      omega
    | parameter =>
      show 1 < 2
      omega
  | response hstage hh hpc =>
    rename_i n h handler
    obtain ⟨handler', hh', htarget⟩ := hnet.asked (congrArg Stage.awaited hstage)
    cases hh.symm.trans hh'
    rw [rank_handler hh, rank_unheard (not_heard_of_stage fun l c => by rw [hstage]; nofun)]
    cases hrequest : handler.request with
    | getPublications callerId | requestTopic callerId topicName protocols =>
      show 3 < 5
      omega
    | _ =>
      rw [hrequest] at htarget
      cases htarget
  | writing hstage hlistener hmem hturned =>
    rename_i n l c listener
    rw [rank_unheard]
    · show 4 < 5
      omega
    · rintro ⟨l', c', backlog, hwriting, hsetup⟩
      cases hstage.symm.trans hwriting
      cases hlistener.symm.trans hsetup
      simp [ListenerTask.turnedTo] at hturned
  | reading hstage hlistener hholds =>
    rw [rank_unheard (not_heard_of_stage fun l c => by rw [hstage]; nofun)]
    show 4 < 5
    omega
  | reply hh hwait hrun =>
    rename_i h handler
    rw [rank_handler hh]
    obtain ⟨hcall, -⟩ := hnet.calls hh hwait
    unfold HandlerTask.actor
    cases hrequest : handler.request with
    | getSubscriptions callerId => exact Nat.lt_succ_of_le rank_subscriber_le
    | getPublications callerId | requestTopic callerId topicName protocols =>
      show 2 < 3
      omega
    | _ =>
      rw [hrequest] at hcall
      cases hcall
  | header hlistener hwriting =>
    rename_i l connection backlog
    rw [rank_heard ⟨l, connection.id, backlog, isWriting_iff.mp hwriting, hlistener⟩]
    show 0 < 4
    omega
  | update hh hserving hpc =>
    rename_i h handler
    rw [rank_handler hh]
    have hupdate := hnet.updates hh hserving
    cases hrequest : handler.request with
    | paramUpdate callerId paramName newValue | publisherUpdate callerId topicName publishers =>
      show 0 < 1
      omega
    | _ =>
      rw [hrequest] at hupdate
      cases hupdate

variable (emptyStruct) in
def Enabled (net : ControlPlane N V) (party : Party N) : Prop :=
  ∃ label : Label N V, label.party = some party ∧ (net.step emptyStruct label).isSome

def Free (net : ControlPlane N V) (party : Party N) : Prop := ∀ p, ¬ net.WaitsFor party p

theorem master_enabled {actor : ActorId N} (hstage : net.stages actor = .master)
    (hfree : net.Free .master) : net.Enabled emptyStruct .master := by
  refine ⟨.answer actor, rfl, ?_⟩
  have hdone : ∀ handler ∈ net.handlers, handler.serving = some actor → handler.pc = .done := by
    intro handler hmem hserving
    obtain ⟨h, hh⟩ := List.getElem?_of_mem hmem
    by_contra hpc
    exact hfree _ (.update hh (by rw [hserving]; rfl) hpc)
  simp only [step, hstage, Stage.isMaster, true_and, if_pos hdone, Option.isSome_some]

theorem handler_enabled {h : ℕ} {handler : HandlerTask N V} (hh : net.handlers[h]? = some handler)
    (hpc : handler.pc ≠ .done) (hfree : net.Free (.handler h)) :
    net.Enabled emptyStruct (.handler h) := by
  refine ⟨.handler h, rfl, ?_⟩
  simp only [step, handle, hh, Option.bind_eq_bind, Option.bind_some]
  split
  · split <;> rfl
  · rename_i hwait
    cases hstop : net.stopped handler.actor with
    | true => rfl
    | false => exact absurd (.reply hh hwait hstop) (hfree _)
  · rfl
  · rename_i hdone
    exact absurd hdone hpc

theorem listener_enabled {l : ℕ} {listener : ListenerTask N} {connection : Connection N}
    (hlistener : net.listeners[l]? = some listener) (hholds : listener.holds connection)
    (hfree : net.Free (.listener l)) : net.Enabled emptyStruct (.listener l) := by
  cases listener with
  | select backlog =>
    refine ⟨.listener l .accept, rfl, ?_⟩
    cases backlog with
    | nil => cases hholds
    | cons next backlog => simp [step, listen, hlistener]
  | setup current backlog =>
    refine ⟨.listener l .setup, rfl, ?_⟩
    have hread : net.isWriting l current = false := by
      by_contra hwriting
      exact hfree _ (.header hlistener (Bool.eq_true_of_not_eq_false hwriting))
    simp [step, listen, hlistener, hread]
  | stopped => cases hholds

theorem proceed_enabled {n : N} (h : (net.proceed n).isSome) :
    net.Enabled emptyStruct (.actor ⟨n, .subscriber⟩) := ⟨.proceed n, rfl, h⟩

theorem calling_enabled {actor : ActorId N}
    (hasking : (net.asking actor).isSome) (hunanswered : (net.stages actor).isAnswered = false)
    (hfree : net.Free (.actor actor)) : net.Enabled emptyStruct (.actor actor) := by
  have hrefused (hready : net.stages actor = .ready) : net.Enabled emptyStruct (.actor actor) := by
    refine ⟨.refused actor, rfl, ?_⟩
    simp [step, hasking, hready, Stage.isReady]
  obtain ⟨n, kind⟩ := actor
  cases hstage : net.stages ⟨n, kind⟩ with
  | ready => exact hrefused hstage
  | master => exact absurd (.master hstage) (hfree _)
  | response h =>
    apply proceed_enabled
    simp only [proceed, hstage]
    split
    · rename_i hrunning
      obtain ⟨handler, hh, hpc⟩ := (Option.any_eq_true _ _).mp hrunning
      exact absurd (.response hstage hh (of_decide_eq_true hpc)) (hfree _)
    · rfl
  | writing l c =>
    apply proceed_enabled
    simp only [proceed, hstage, Option.isSome_some]
  | reading l c =>
    apply proceed_enabled
    simp only [proceed, hstage]
    split
    · rename_i hholds
      obtain ⟨listener, hlistener, hholds⟩ := (Option.any_eq_true _ _).mp hholds
      exact absurd (.reading hstage hlistener hholds) (hfree _)
    · rfl
  | answered =>
    rw [hstage] at hunanswered
    cases hunanswered

omit [DecidableEq N] [DecidableEq V] in
theorem permits_of_not_calling {L I : Type} {actor : ActorId N}
    (h : ¬ ((net.asking actor).isSome ∧ (net.stages actor).isAnswered = false))
    (l : Process.Label L I) : net.permits actor l = true := by
  cases l with
  | act input =>
    cases hasking : net.asking actor with
    | none => simp [permits, hasking]
    | some remote =>
      rw [hasking] at h
      simpa [permits, hasking] using h
  | _ => rfl

theorem owing_enabled {h : ℕ} {actor : ActorId N}
    (how : net.Owing emptyStruct h actor) (hrun : net.stopped actor = false)
    (hfree : net.Free (.actor actor)) : net.Enabled emptyStruct (.actor actor) := by
  by_cases hcalling : (net.asking actor).isSome ∧ (net.stages actor).isAnswered = false
  · exact calling_enabled hcalling.1 hcalling.2 hfree
  · obtain ⟨n, kind⟩ := actor
    cases kind with
    | publisher =>
      obtain ⟨l, hl, hsome⟩ := Owes.exists_step (PublisherCall.failed "") how hrun
      refine ⟨.publisher n l, ?_, ?_⟩
      · obtain rfl | rfl | rfl := hl <;> rfl
      · obtain ⟨config, hconfig⟩ := Option.isSome_iff_exists.mp hsome
        simp [step, permits_of_not_calling hcalling l, hconfig]
    | subscriber =>
      obtain ⟨l, hl, hsome⟩ := Owes.exists_step (SubscriberCall.failed "") how hrun
      refine ⟨.subscriber n l, ?_, ?_⟩
      · obtain rfl | rfl | rfl := hl <;> rfl
      · obtain ⟨config, hconfig⟩ := Option.isSome_iff_exists.mp hsome
        simp [step, permits_of_not_calling hcalling l, hconfig]
    | parameter =>
      obtain ⟨l, hl, hsome⟩ := Owes.exists_step (ParameterCall.failed "") how hrun
      refine ⟨.parameter n l, ?_, ?_⟩
      · obtain rfl | rfl | rfl := hl <;> rfl
      · obtain ⟨config, hconfig⟩ := Option.isSome_iff_exists.mp hsome
        simp [step, permits_of_not_calling hcalling l, hconfig]

/-- Who is waited for and waits for nobody can take a step. -/
theorem waitsFor_enabled (hnet : net.Invariant emptyStruct) {p q : Party N}
    (hpq : net.WaitsFor p q) (hfree : net.Free q) : net.Enabled emptyStruct q := by
  cases hpq with
  | master hstage => exact master_enabled hstage hfree
  | response hstage hh hpc => exact handler_enabled hh hpc hfree
  | writing hstage hlistener hmem hturned =>
    rename_i n l c listener
    have hholds : listener.holds ⟨n, c⟩ := by simp [ListenerTask.holds, hmem]
    exact listener_enabled hlistener hholds hfree
  | reading hstage hlistener hholds => exact listener_enabled hlistener hholds hfree
  | reply hh hwait hrun => exact owing_enabled (hnet.calls hh hwait).2 hrun hfree
  | header hlistener hwriting =>
    apply proceed_enabled
    simp only [proceed, isWriting_iff.mp hwriting, Option.isSome_some]
  | update hh hserving hpc => exact handler_enabled hh hpc hfree

theorem no_deadlock (nodeName : N → String) {labels : List (Label N V)}
    (hrun : Run (step emptyStruct) (fun _ _ => True) (init nodeName) labels net) :
    (∀ p, ¬ TransGen net.WaitsFor p p) ∧
    ∀ p q, net.WaitsFor p q → ∃ r s, ReflTransGen net.WaitsFor p r ∧ net.WaitsFor r s ∧
      (∀ t, ¬ net.WaitsFor s t) ∧
      ∃ label : Label N V, label.party = some s ∧ (net.step emptyStruct label).isSome := by
  have hnet : net.Invariant emptyStruct :=
    hrun.invariant (fun _ _ _ h _ hs => step_invariant h hs) (init_invariant nodeName)
  refine ⟨(ranked hnet).acyclic, fun p q hpq => ?_⟩
  obtain ⟨r, s, hpr, hrs, hfree⟩ := (ranked hnet).exists_last hpq
  exact ⟨r, s, hpr, hrs, hfree, waitsFor_enabled hnet hrs hfree⟩

def ownTopicAnswer : (c : SubscriberCall) → c.Ans
  | .registerSubscriber _ _ => .ok ["http://robot:50000"]
  | .parseUrl _ => .ok ()
  | c => c.failed ""

def bound : (c : PublisherCall) → c.Ans
  | .bind address => .ok address
  | c => c.failed ""

/-- A node subscribes to a topic that it is about to publish, which the master tells it. -/
def ownTopicLabels : List (Label Unit Bool) :=
  [.publisher () (.outside (.inl (.enqueue (.inl
      (.registerPublisher ⟨"/scan", ⟨"*", "*", ""⟩⟩ (.v4 0) "/robot" 2 false false 7))))),
    .publisher () .start] ++ .replicate 3 (.publisher () (.act bound)) ++
  [.askMaster ⟨(), .publisher⟩,
    .subscriber () (.outside (.inl (.enqueue (.inl
      (.registerSubscriber ⟨"/scan", ⟨"*", "*", ""⟩⟩ "/robot" 2 false 7))))),
    .subscriber () .start, .subscriber () (.act ownTopicAnswer), .subscriber () (.act ownTopicAnswer),
    .askMaster ⟨(), .subscriber⟩, .answer ⟨(), .subscriber⟩] ++
  .replicate 3 (.subscriber () (.act ownTopicAnswer)) ++
  [.requestTopic () (), .handler 0, .serve (some ⟨(), .publisher⟩) ()
    (.publisherUpdate "/master" "/scan" ["http://robot:50000"])]

theorem no_deadlock_own_topic : ∃ net : ControlPlane Unit Bool,
    net.WaitsFor (.actor ⟨(), .subscriber⟩) (.handler 0) ∧
    net.WaitsFor (.handler 0) (.actor ⟨(), .publisher⟩) ∧
    net.WaitsFor (.actor ⟨(), .publisher⟩) .master ∧ net.WaitsFor .master (.handler 1) ∧
    (∀ p, ¬ TransGen net.WaitsFor p p) ∧ ∃ s, (∀ t, ¬ net.WaitsFor s t) ∧
      ∃ label : Label Unit Bool, label.party = some s ∧ (net.step true label).isSome := by
  obtain ⟨net, hrun, hsubscriber, hpublisher, hrequest, hupdate, hstopped⟩ :
      ∃ net : ControlPlane Unit Bool,
      Run (step true) (fun _ _ => True) (init fun _ => "/robot") ownTopicLabels net ∧
      net.stages ⟨(), .subscriber⟩ = .response 0 ∧ net.stages ⟨(), .publisher⟩ = .master ∧
      net.handlers[0]? = some ⟨(), .requestTopic "/robot" "/scan" [["TCPROS"]], none, .waiting⟩ ∧
      net.handlers[1]? = some ⟨(), .publisherUpdate "/master" "/scan" ["http://robot:50000"],
        some ⟨(), .publisher⟩, .called⟩ ∧ net.stopped ⟨(), .publisher⟩ = false :=
    ⟨_, run_of_exec rfl fun _ _ _ => trivial, rfl, rfl, rfl, rfl, rfl⟩
  obtain ⟨hacyclic, hlast⟩ := no_deadlock _ hrun
  obtain ⟨r, s, -, -, hfree, henabled⟩ := hlast _ _ (.master hpublisher)
  exact ⟨net, .response hsubscriber hrequest nofun, .reply hrequest rfl hstopped,
    .master hpublisher, .update hupdate rfl nofun, hacyclic, s, hfree, henabled⟩

end ControlPlane

end RosrustAsync
