import RosrustAsync.Lib.PostStop
import RosrustAsync.MasterRegistrations
import RosrustAsync.ParameterMaster

namespace RosrustAsync

open Actor Runs

/-! What the actors leave behind at the master and among their clients when the node shuts down. -/

namespace PublisherActor

variable {m : PublisherActorMsg} {reg : AList fun _ : String => Unit} {w : World _ _ _}

theorem cleans_cleanupPublication (guard : ℕ) (publication : RegisteredPublication) :
    Cleans behaviour master m (cleanupPublication guard publication)
      [.unregisterPublisher publication.topic.name] [guard] fun _ => True := by
  unfold cleanupPublication
  exact cleans_entry (B := behaviour) (c := .unregisterPublisher publication.topic.name)
    fun answer : Except MasterClientError ℤ => answer.mapError PublisherActorError.masterClient

theorem cleans_postStop (publications : List (Σ _ : String, ℕ × RegisteredPublication)) :
    Cleans behaviour master m (postStop publications)
      (publications.map fun e => .unregisterPublisher e.2.2.topic.name)
      (publications.map fun e => e.2.1) (· = .ok ()) := by
  simp only [List.map_eq_flatMap]
  exact cleans_modifyState (cleans_forM fun _ => cleans_attempt (cleans_cleanupPublication _ _))

theorem cleansUp_postStop (h : Mirrored w.state reg)
    {publications : List (Σ _ : String, ℕ × RegisteredPublication)}
    (horder : publications.Perm w.state.publications.entries) :
    CleansUp behaviour master Succeeds (postStop publications) w reg
      (reg.entries.map fun e => .unregisterPublisher e.1) (publications.map fun e => e.2.1) := by
  refine cleansUp (fun _ => cleans_postStop publications)
    (h.map_perm horder fun name _ => PublisherCall.unregisterPublisher name) fun log hlog hok => ?_
  refine h.unregistered (f := fun name _ => PublisherCall.unregisterPublisher name)
    (fun name u a reg' hs _ => ?_) horder hlog hok
  simp only [master, show a.isOk from hs, if_true]

end PublisherActor

namespace SubscriberActor

variable {m : SubscriberActorMsg} {reg : AList fun _ : String => Unit} {w : World _ _ _}

theorem cleans_cleanupSubscription (guard : ℕ) (subscription : RegisteredSubscription) :
    Cleans behaviour master m (cleanupSubscription guard subscription)
      [.unregisterSubscriber subscription.topic.name] [guard] fun _ => True := by
  unfold cleanupSubscription
  exact cleans_entry (B := behaviour) (c := .unregisterSubscriber subscription.topic.name)
    fun answer : Except MasterClientError ℤ => answer.mapError SubscriberActorError.masterClient

theorem cleans_postStop (subscriptions : List (Σ _ : String, ℕ × RegisteredSubscription)) :
    Cleans behaviour master m (postStop subscriptions)
      (subscriptions.map fun e => .unregisterSubscriber e.2.2.topic.name)
      (subscriptions.map fun e => e.2.1) (· = .ok ()) := by
  simp only [List.map_eq_flatMap]
  exact cleans_modifyState (cleans_forM fun _ => cleans_attempt (cleans_cleanupSubscription _ _))

theorem cleansUp_postStop (h : Mirrored w.state reg)
    {subscriptions : List (Σ _ : String, ℕ × RegisteredSubscription)}
    (horder : subscriptions.Perm w.state.subscriptions.entries) :
    CleansUp behaviour master Succeeds (postStop subscriptions) w reg
      (reg.entries.map fun e => .unregisterSubscriber e.1) (subscriptions.map fun e => e.2.1) := by
  refine cleansUp (fun _ => cleans_postStop subscriptions)
    (h.map_perm horder fun name _ => SubscriberCall.unregisterSubscriber name) fun log hlog hok => ?_
  refine h.unregistered (f := fun name _ => SubscriberCall.unregisterSubscriber name)
    (fun name u a reg' hs _ => ?_) horder hlog hok
  simp only [master, show a.isOk from hs, if_true]

end SubscriberActor

namespace ServiceActor

variable {m : ServiceActorMsg} {reg : AList fun _ : String => String} {w : World _ _ _}

theorem cleans_cleanupServer (guard : ℕ) (server : ServiceProvider) :
    Cleans behaviour master m (cleanupServer guard server)
      [.unregisterService server.service.name server.url] [guard] fun _ => True := by
  unfold cleanupServer
  exact cleans_entry (B := behaviour) (c := .unregisterService server.service.name server.url)
    fun answer : Except MasterClientError ℤ => answer.mapError ServiceActorError.masterClient

theorem cleans_postStop (servers : List (Σ _ : String, ℕ × ServiceProvider))
    (clients : List (Σ _ : String, ℕ × ServiceClientLink)) :
    Cleans behaviour master m (postStop servers clients)
      (servers.map fun e => .unregisterService e.2.2.service.name e.2.2.url)
      (servers.map (fun e => e.2.1) ++ clients.map fun e => e.2.1) (· = .ok ()) := by
  have hservers : Cleans (ε := MessagingErr) behaviour master m
      (servers.forM fun e => do let _ ← Prog.attempt (cleanupServer e.2.1 e.2.2))
      (servers.map fun e => .unregisterService e.2.2.service.name e.2.2.url)
      (servers.map fun e => e.2.1) (· = .ok ()) := by
    simp only [List.map_eq_flatMap]
    exact cleans_forM fun _ => cleans_attempt (cleans_cleanupServer _ _)
  have hclients : Cleans (ε := MessagingErr) behaviour master m
      (do
        modifyState fun state => { state with clients := ∅ }
        clients.forM fun e => do
          if ← upgrade e.2.1 then
            disarm e.2.1
            release e.2.1) [] (clients.map fun e => e.2.1) (· = .ok ()) := by
    have hnone : clients.flatMap (fun _ => ([] : List ServiceCall)) = [] := by simp
    rw [← hnone, List.map_eq_flatMap]
    exact cleans_modifyState (cleans_forM fun e => cleans_guard (cleans_pure ()))
  have hall := cleans_bind hservers fun _ => hclients
  rw [List.append_nil] at hall
  exact cleans_modifyState hall

theorem cleansUp_postStop (h : Mirrored w.state reg)
    {servers : List (Σ _ : String, ℕ × ServiceProvider)}
    (horder : servers.Perm w.state.servers.entries)
    (clients : List (Σ _ : String, ℕ × ServiceClientLink)) :
    CleansUp behaviour master Succeeds (postStop servers clients) w reg
      (reg.entries.map fun e => .unregisterService e.1 e.2)
      (servers.map (fun e => e.2.1) ++ clients.map fun e => e.2.1) := by
  refine cleansUp (fun _ => cleans_postStop servers clients)
    (h.map_perm horder ServiceCall.unregisterService) fun log hlog hok => ?_
  refine h.unregistered (f := ServiceCall.unregisterService)
    (fun name u a reg' hs hl => ?_) horder hlog hok
  simp only [master, show a.isOk from hs, hl, and_self, if_true]

end ServiceActor

namespace ParameterActor

variable {V : Type} {m : ParameterActorMsg V} {reg : Finset String}

theorem cleans_postStop [DecidableEq V] {emptyStruct : V} (subscribedParams : List String) :
    Cleans (behaviour emptyStruct) master m (postStop subscribedParams)
      (subscribedParams.map .unsubscribeParam) [] (· = .ok ()) := by
  have hnone : subscribedParams.flatMap (fun _ => ([] : List ℕ)) = [] := by simp
  rw [← hnone, List.map_eq_flatMap]
  exact cleans_modifyState (cleans_forM fun _ => cleans_call fun _ => cleans_pure ())

theorem mem_foldl {subscribedParams : List String} {log : List (Σ c : ParameterCall V, c.Ans)}
    (hlog : log.map Sigma.fst = subscribedParams.map .unsubscribeParam)
    (hok : ∀ x ∈ log, Succeeds x.1 x.2) (paramName : String) :
    paramName ∈ log.foldl (fun reg x => master x.1 x.2 reg) reg ↔
      paramName ∈ reg ∧ paramName ∉ subscribedParams := by
  induction subscribedParams generalizing log reg with
  | nil =>
    obtain rfl : log = [] := List.map_eq_nil_iff.mp hlog
    simp
  | cons name names ih =>
    obtain ⟨⟨c, a⟩, log, rfl, hc, htail⟩ := List.map_eq_cons_iff.mp hlog
    obtain rfl : c = .unsubscribeParam name := hc
    have ha : a.isOk := hok ⟨.unsubscribeParam name, a⟩ (by simp)
    rw [List.foldl_cons, ih htail fun y hy => hok y (List.mem_cons_of_mem _ hy)]
    simp only [master, ha, if_true, Finset.mem_erase, List.mem_cons, not_or]
    tauto

theorem cleansUp_postStop [DecidableEq V] {emptyStruct : V}
    {w : World (ParameterActorState V) Empty (ParameterActorMsg V)} (h : Mirrored w.state reg)
    {subscribedParams : List String}
    (horder : subscribedParams.Perm w.state.subscribedParams.toList) :
    CleansUp (behaviour emptyStruct) master Succeeds (postStop subscribedParams) w reg
      (reg.toList.map .unsubscribeParam) [] := by
  have horder : subscribedParams.Perm reg.toList := h.symm ▸ horder
  refine cleansUp (fun _ => cleans_postStop subscribedParams) (horder.map _) fun log hlog hok => ?_
  refine Finset.eq_empty_of_forall_notMem fun paramName hmem => ?_
  obtain ⟨hreg, hnot⟩ := (mem_foldl hlog hok paramName).mp hmem
  exact hnot (horder.mem_iff.mpr (Finset.mem_toList.mpr hreg))

end ParameterActor

/-- From whatever messages have led to, as long as the calls of the handlers succeed, the last
programs of the actors give up each registration once, and leave no live guard armed. -/
theorem shutdown_cleans_up {V : Type} [DecidableEq V] (emptyStruct : V) (nodeName : String) :
    (∀ labels c, Run (watched PublisherActor.behaviour PublisherActor.master).step
      (Process.Ok Anyhow (Answers fun _ c answer _ => PublisherActor.Succeeds c answer))
      ⟨(.init ⟨∅⟩, ∅), .idle⟩ labels c → c.pc = .idle →
      ∀ publications, publications.Perm c.world.1.state.publications.entries →
        CleansUp PublisherActor.behaviour PublisherActor.master PublisherActor.Succeeds
          (PublisherActor.postStop publications) c.world.1 c.world.2
          (c.world.2.entries.map fun e => .unregisterPublisher e.1)
          (publications.map fun e => e.2.1)) ∧
    (∀ labels c, Run (watched SubscriberActor.behaviour SubscriberActor.master).step
      (Process.Ok Anyhow (Answers fun _ c answer _ => SubscriberActor.Succeeds c answer))
      ⟨(.init ⟨nodeName, ∅⟩, ∅), .idle⟩ labels c → c.pc = .idle →
      ∀ subscriptions, subscriptions.Perm c.world.1.state.subscriptions.entries →
        CleansUp SubscriberActor.behaviour SubscriberActor.master SubscriberActor.Succeeds
          (SubscriberActor.postStop subscriptions) c.world.1 c.world.2
          (c.world.2.entries.map fun e => .unregisterSubscriber e.1)
          (subscriptions.map fun e => e.2.1)) ∧
    (∀ labels c, Run (watched ServiceActor.behaviour ServiceActor.master).step
      (Process.Ok Anyhow (Answers fun _ c answer _ => ServiceActor.Succeeds c answer))
      ⟨(.init ⟨∅, ∅⟩, ∅), .idle⟩ labels c → c.pc = .idle →
      ∀ servers clients, servers.Perm c.world.1.state.servers.entries →
        clients.Perm c.world.1.state.clients.entries →
        CleansUp ServiceActor.behaviour ServiceActor.master ServiceActor.Succeeds
          (ServiceActor.postStop servers clients) c.world.1 c.world.2
          (c.world.2.entries.map fun e => .unregisterService e.1 e.2)
          (servers.map (fun e => e.2.1) ++ clients.map fun e => e.2.1)) ∧
    ∀ labels c, Run (watched (ParameterActor.behaviour emptyStruct) ParameterActor.master).step
      (Process.Ok Anyhow (Answers fun _ c answer _ => ParameterActor.Succeeds c answer))
      ⟨(.init ⟨∅, ∅⟩, ∅), .idle⟩ labels c → c.pc = .idle →
      ∀ subscribedParams : List String,
        subscribedParams.Perm c.world.1.state.subscribedParams.toList →
        CleansUp (ParameterActor.behaviour emptyStruct) ParameterActor.master ParameterActor.Succeeds
          (ParameterActor.postStop subscribedParams) c.world.1 c.world.2
          (c.world.2.toList.map .unsubscribeParam) [] := by
  refine ⟨fun labels c hrun hidle publications horder => ?_,
    fun labels c hrun hidle subscriptions horder => ?_,
    fun labels c hrun hidle servers clients horder _ => ?_,
    fun labels c hrun hidle subscribedParams horder => ?_⟩
  · exact PublisherActor.cleansUp_postStop (PublisherActor.mirrored_idle (PublisherActor.run_kept hrun)
      hidle) horder
  · exact SubscriberActor.cleansUp_postStop (SubscriberActor.mirrored_idle (SubscriberActor.run_kept hrun)
      hidle) horder
  · exact ServiceActor.cleansUp_postStop (ServiceActor.mirrored_idle (ServiceActor.run_kept hrun)
      hidle) horder clients
  · exact ParameterActor.cleansUp_postStop (ParameterActor.mirrored_idle (ParameterActor.run_kept hrun)
      hidle) horder

theorem ParameterActor.one_subscribed : ∃ c, Run (watched (behaviour (0 : ℕ)) master).step
    (Process.Ok Anyhow (Answers fun _ c answer _ => Succeeds c answer)) ⟨(.init ⟨∅, ∅⟩, ∅), .idle⟩
    ([.outside (.enqueue (.getCachedParam "/a" 0)), .start] ++
      .replicate 9 (.act (ParameterActor.answers 1)) ++ [.finish]) c ∧ c.pc = .idle ∧
    c.world.2 = {"/a"} := by
  refine ⟨_, .cons trivial rfl <| .cons trivial rfl <| .cons trivial rfl <| .cons rfl rfl <|
    .cons trivial rfl <| .cons trivial rfl <| .cons trivial rfl <| .cons trivial rfl <|
    .cons trivial rfl <| .cons trivial rfl <| .cons trivial rfl <| .cons trivial rfl <| .nil _, ?_⟩
  exact ⟨rfl, rfl⟩

/-! Two publications, and the last program of the actor, of whose calls the first fails. -/

theorem PublisherActor.two_registered : ∃ c, Run (watched behaviour master).step
    (Process.Ok Anyhow (Answers fun _ c answer _ => Succeeds c answer)) ⟨(.init ⟨∅⟩, ∅), .idle⟩
    ([.outside (.enqueue (.registerPublisher ⟨"/a", ⟨"*", "*", ""⟩⟩ (.v4 0) "" 4 false false 0)),
      .start] ++ .replicate 8 (.act PublisherActor.answers) ++ [.finish,
      .outside (.enqueue (.registerPublisher ⟨"/b", ⟨"*", "*", ""⟩⟩ (.v4 0) "" 4 false false 1)),
      .start] ++ .replicate 8 (.act PublisherActor.answers) ++ [.finish]) c ∧ c.pc = .idle ∧
    c.world.2.entries = [⟨"/b", ()⟩, ⟨"/a", ()⟩] ∧
    c.world.1.state.publications.entries.map (fun e => e.2.1) = [1, 0] ∧
    ∃ c', Run (watched behaviour (recorded master)).step Stopping
      ⟨(c.world.1, [], c.world.2),
        .busy (.getPublications 2) (postStop c.world.1.state.publications.entries).run⟩
      (.replicate 6 (.act unreachable) ++ .replicate 4 (.act PublisherActor.answers)) c' ∧
      c'.pc = .busy (.getPublications 2) (.ret (.ok ())) ∧
      ¬ ∀ x ∈ c'.world.2.1, Succeeds x.1 x.2 := by
  refine ⟨_, .cons trivial rfl <| .cons trivial rfl <| .cons trivial rfl <| .cons rfl rfl <|
    .cons trivial rfl <| .cons rfl rfl <| .cons trivial rfl <| .cons trivial rfl <|
    .cons trivial rfl <| .cons trivial rfl <| .cons trivial rfl <| .cons trivial rfl <|
    .cons trivial rfl <| .cons trivial rfl <| .cons rfl rfl <| .cons trivial rfl <| .cons rfl rfl <|
    .cons trivial rfl <| .cons trivial rfl <| .cons trivial rfl <| .cons trivial rfl <|
    .cons trivial rfl <| .nil _, ?_⟩
  refine ⟨rfl, rfl, rfl, _, run_of_exec rfl fun label hlabel _ => ?_, rfl, fun hok => ?_⟩
  · simp only [List.mem_append, List.mem_replicate] at hlabel
    rcases hlabel with ⟨-, rfl⟩ | ⟨-, rfl⟩ <;> trivial
  · have hfails := hok _ (List.mem_cons_self ..)
    exact Bool.false_ne_true hfails

theorem shutdown_cleans_up_registered :
    (∃ labels c publications labels' c', Run
        (watched PublisherActor.behaviour PublisherActor.master).step
        (Process.Ok Anyhow (Answers fun _ c answer _ => PublisherActor.Succeeds c answer))
        ⟨(.init ⟨∅⟩, ∅), .idle⟩ labels c ∧
      Run (watched PublisherActor.behaviour (recorded PublisherActor.master)).step Stopping
        ⟨(c.world.1, [], c.world.2),
          .busy (.getPublications 2) (PublisherActor.postStop publications).run⟩ labels' c' ∧
      (¬ ∀ x ∈ c'.world.2.1, PublisherActor.Succeeds x.1 x.2) ∧
      (c'.world.2.1.map Sigma.fst).Perm [.unregisterPublisher "/b", .unregisterPublisher "/a"] ∧
      CleansUp PublisherActor.behaviour PublisherActor.master PublisherActor.Succeeds
        (PublisherActor.postStop publications) c.world.1 c.world.2
        [.unregisterPublisher "/b", .unregisterPublisher "/a"] [1, 0]) ∧
    (∃ labels c subscriptions, Run (watched SubscriberActor.behaviour SubscriberActor.master).step
      (Process.Ok Anyhow (Answers fun _ c answer _ => SubscriberActor.Succeeds c answer))
      ⟨(.init ⟨"/node", ∅⟩, ∅), .idle⟩ labels c ∧ CleansUp SubscriberActor.behaviour
        SubscriberActor.master SubscriberActor.Succeeds (SubscriberActor.postStop subscriptions)
        c.world.1 c.world.2 [.unregisterSubscriber "/a"] [0]) ∧
    (∃ labels c servers, Run (watched ServiceActor.behaviour ServiceActor.master).step
      (Process.Ok Anyhow (Answers fun _ c answer _ => ServiceActor.Succeeds c answer))
      ⟨(.init ⟨∅, ∅⟩, ∅), .idle⟩ labels c ∧ CleansUp ServiceActor.behaviour ServiceActor.master
        ServiceActor.Succeeds (ServiceActor.postStop servers []) c.world.1 c.world.2
        [.unregisterService "/a" "rosrpc://0.0.0.0:0"] [0]) ∧
    ∃ labels c, Run (watched (ParameterActor.behaviour (0 : ℕ)) ParameterActor.master).step
      (Process.Ok Anyhow (Answers fun _ c answer _ => ParameterActor.Succeeds c answer))
      ⟨(.init ⟨∅, ∅⟩, ∅), .idle⟩ labels c ∧ CleansUp (ParameterActor.behaviour (0 : ℕ))
        ParameterActor.master ParameterActor.Succeeds (ParameterActor.postStop ["/a"]) c.world.1
        c.world.2 [.unsubscribeParam "/a"] [] := by
  obtain ⟨hpub, hsub, hsrv, hpar⟩ := shutdown_cleans_up (0 : ℕ) "/node"
  refine ⟨?_, ?_, ?_, ?_⟩
  · obtain ⟨c, hrun, hidle, hreg, hguards, c', hstop, hpc, hfails⟩ := PublisherActor.two_registered
    have hclean := hpub _ c hrun hidle _ (.refl _)
    rw [hreg, hguards] at hclean
    obtain ⟨-, hcalls, -⟩ := (hclean _ _ c' hstop).2 _ hpc
    exact ⟨_, c, _, _, c', hrun, hstop, hfails, hcalls, hclean⟩
  · obtain ⟨c, hrun, hidle, hreg, hguards⟩ := SubscriberActor.one_registered
    have hclean := hsub _ c hrun hidle _ (.refl _)
    rw [hreg, hguards] at hclean
    exact ⟨_, c, _, hrun, hclean⟩
  · obtain ⟨c, hrun, hidle, hreg, hguards, hclients⟩ := ServiceActor.one_registered
    have hclean := hsrv _ c hrun hidle _ [] (.refl _) (by rw [hclients])
    rw [hreg, hguards] at hclean
    exact ⟨_, c, _, hrun, hclean⟩
  · obtain ⟨c, hrun, hidle, hreg⟩ := ParameterActor.one_subscribed
    have hparams : c.world.1.state.subscribedParams = {"/a"} :=
      (ParameterActor.mirrored_idle (ParameterActor.run_kept hrun) hidle).symm.trans hreg
    have hclean := hpar _ c hrun hidle ["/a"] (by rw [hparams, Finset.toList_singleton])
    have hnames : c.world.2.toList = ["/a"] := by rw [hreg, Finset.toList_singleton]
    rw [hnames] at hclean
    exact ⟨_, c, hrun, hclean⟩

end RosrustAsync
