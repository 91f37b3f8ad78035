import RosrustAsync.SubscriberNetSteps

namespace RosrustAsync

open Actor Prog

namespace SubscriberNet

variable {w w' : SubscriberNet} {topicName url : String} {dataTx : ℕ}

/-- The invariant, with `view` for the subscriptions that it is about and `todo` for the publishers
of a topic that the handler under way has still to add. -/
structure Complete (view : String → Option ℕ) (topicName : String) (todo : List String)
    (w : SubscriberNet) : Prop where
  numbered : w.connections.length = w.actor.channels
  subscribed : ∀ t d, view t = some d → t ∈ w.subscribers
  has : ∀ t d, view t = some d → w.Has t d
  current : ∀ t d url, view t = some d → (t = topicName → url ∉ todo) → w.Current t d url

namespace Complete

variable {view view' : String → Option ℕ} {t₀ : String} {todo : List String} {d : ℕ}

theorem rearranged (h : Complete view t₀ todo w) (hr : Rearranged w w') :
    Complete view t₀ todo w' := by
  refine ⟨?_, ?_, fun t d hd => ?_, fun t d url hd htodo => ?_⟩
  · rw [hr.connections_eq, hr.channels_eq]
    exact h.numbered
  · rw [hr.subscribers_eq]
    exact h.subscribed
  · rw [Has, hr.connections_eq]
    exact h.has t d hd
  · refine (h.current t d url hd htodo).step (hr.listed t url (h.subscribed t d hd)) (hr.up t url)
      (hr.announced t url) fun opening host port c _ hc hrun => ?_
    rw [hr.connections_eq]
    exact ⟨c, hc, hrun⟩

theorem set (h : Complete view t₀ todo w) {d₀ : ℕ} {c c' : Connections}
    (hd : w.connections[d₀]? = some c) (hsound : ∀ t, c.Sound t → c'.Sound t)
    (hrunning : ∀ t url opening host port, c.Sound t →
      w.publications (t, url) = .up opening host port → c.Running url opening →
        c'.Running url opening) :
    Complete view t₀ todo { w with connections := w.connections.set d₀ c' } := by
  refine ⟨?_, h.subscribed, fun t d ht => (h.has t d ht).set hd (hsound t),
    fun t d url ht htodo => ?_⟩
  · rw [List.length_set]
    exact h.numbered
  · refine (h.current t d url ht htodo).step (fun hm ho => .inr ⟨hm, ho⟩) (fun _ _ _ hp _ => hp) id
      fun opening host port e hpub he hrun => ?_
    by_cases hdd : d = d₀
    · subst hdd
      obtain ⟨e', he', hs⟩ := h.has t d ht
      rw [hd] at he he'
      cases he
      cases he'
      exact ⟨c', getElem?_set_of_some hd, hrunning t url opening host port hs hpub hrun⟩
    · exact ⟨e, getElem?_set_of_ne hdd he, hrun⟩

theorem outside (h : Complete view t₀ todo w) {l : Outside} (hl : Connected w l)
    (he : w.outside l = some w') :
    Complete view t₀ todo w' ∧ w'.actor.state = w.actor.state := by
  rcases outside_cases he with hr | ⟨d, label, c, s, rfl, hown, hc, hs, rfl⟩
  · exact ⟨h.rearranged hr, hr.state_eq⟩
  · refine ⟨h.set hc (fun t ht => ht.move hown (Subscription.step_move hs)) ?_, rfl⟩
    intro t url opening host port ht hpub hrun
    refine hrun.step ht hown hs fun i e task hlabel hi hopening hurl => ?_
    subst hlabel
    have hdropped : c.subscription.isDropped = false := by rw [Subscription.isDropped, ht.owner_eq]
    refine hl c task opening hc hdropped hi hopening host port ?_
    rw [ht.topic_eq, hurl]
    exact hpub

theorem mono (h : Complete view t₀ todo w) (hview : ∀ t d, view' t = some d → view t = some d) :
    Complete view' t₀ todo w :=
  ⟨h.numbered, fun t d hd => h.subscribed t d (hview t d hd),
    fun t d hd => h.has t d (hview t d hd), fun t d url hd => h.current t d url (hview t d hd)⟩

theorem start (h : Complete view t₀ [] w) (t₁ : String) (todo : List String) :
    Complete view t₁ todo w :=
  ⟨h.numbered, h.subscribed, h.has,
    fun t d url hd _ => h.current t d url hd fun _ => List.not_mem_nil⟩

theorem skip {todo' : List String} (h : Complete view t₀ todo w)
    (hcurrent : ∀ d url, view t₀ = some d → url ∈ todo → url ∉ todo' → w.Current t₀ d url) :
    Complete view t₀ todo' w := by
  refine ⟨h.numbered, h.subscribed, h.has, fun t d url hd htodo => ?_⟩
  by_cases hmem : t = t₀ ∧ url ∈ todo
  · obtain ⟨rfl, hmem⟩ := hmem
    exact hcurrent d url hd hmem (htodo rfl)
  · exact h.current t d url hd fun ht hurl => hmem ⟨ht, hurl⟩

theorem done (h : Complete view t₀ (url :: todo) w)
    (hcurrent : ∀ d, view t₀ = some d → w.Current t₀ d url) : Complete view t₀ todo w := by
  refine h.skip fun d u hd hmem hrest => ?_
  rcases List.mem_cons.mp hmem with rfl | hmem
  · exact hcurrent d hd
  · exact absurd hmem hrest

/-- A message that is taken out of the mailbox leaves what it lists to be added. -/
theorem receive (h : Complete view t₀ [] w) {m : SubscriberActorMsg}
    {mailbox : List SubscriberActorMsg} (hm : w.actor.mailbox = m :: mailbox)
    (hmsg : ∀ t publishers, m = .updateConnectedPublishers t publishers →
      t = topicName ∧ publishers = todo) :
    Complete view topicName todo { w with actor := { w.actor with mailbox } } := by
  refine ⟨h.numbered, h.subscribed, h.has, fun t d url hd htodo => ?_⟩
  refine (h.current t d url hd fun _ => List.not_mem_nil).step (fun hmem ho => .inr ⟨hmem, ho⟩)
    (fun _ _ _ hp _ => hp) ?_ fun opening host port c _ hc hrun => ⟨c, hc, hrun⟩
  rintro (⟨publishers, hmail, hmem⟩ | hflight)
  · rw [hm] at hmail
    rcases List.mem_cons.mp hmail with hmail | hmail
    · obtain ⟨rfl, rfl⟩ := hmsg t publishers hmail.symm
      exact absurd hmem (htodo rfl)
    · exact .inl ⟨publishers, hmail, hmem⟩
  · exact .inr hflight

/-! What the actor's calls do to the invariant. -/

theorem subscribe (h : Complete view topicName [] w) (hd : w.Has topicName d)
    {existing : List String} (hexisting : existing.toFinset = w.publishers topicName) :
    Complete (Function.update view topicName (some d)) topicName existing
      { w with subscribers := insert topicName w.subscribers } := by
  have hview : ∀ t d', Function.update view topicName (some d) t = some d' →
      t = topicName ∧ d' = d ∨ t ≠ topicName ∧ view t = some d' := by
    intro t d' ht
    by_cases htopic : t = topicName
    · subst htopic
      rw [Function.update_self] at ht
      cases ht
      exact .inl ⟨rfl, rfl⟩
    · rw [Function.update_of_ne htopic] at ht
      exact .inr ⟨htopic, ht⟩
  refine ⟨h.numbered, fun t d' ht => ?_, fun t d' ht => ?_, fun t d' url ht htodo => ?_⟩
  all_goals rcases hview t d' ht with ⟨rfl, rfl⟩ | ⟨htopic, ht⟩
  · exact Finset.mem_insert_self _ _
  · exact Finset.mem_insert_of_mem (h.subscribed t d' ht)
  · exact hd
  · exact h.has t d' ht
  · intro hmem
    rw [← hexisting] at hmem
    exact absurd (List.mem_toFinset.mp hmem) (htodo rfl)
  · exact h.current t d' url ht fun _ => List.not_mem_nil

theorem unsubscribe (h : Complete view topicName todo w) {t : String} (ht : view t = none) :
    Complete view topicName todo { w with subscribers := w.subscribers.erase t } := by
  refine ⟨h.numbered, fun t' d hd => ?_, h.has, h.current⟩
  refine Finset.mem_erase.mpr ⟨?_, h.subscribed t' d hd⟩
  rintro rfl
  rw [ht] at hd
  cases hd

theorem dropUnregistered (h : Complete view topicName todo w)
    (hview : ∀ t d, view t = some d → w.isRegistered d) :
    Complete view topicName todo w.dropUnregistered := by
  have hkept : ∀ t d, view t = some d →
      w.dropUnregistered.connections[d]? = w.connections[d]? := by
    intro t d hd
    simp only [SubscriberNet.dropUnregistered, List.getElem?_mapIdx, hview t d hd, if_true]
    exact Option.map_id'
  refine ⟨?_, h.subscribed, fun t d hd => ?_, fun t d url hd htodo => ?_⟩
  · rw [SubscriberNet.dropUnregistered, List.length_mapIdx]
    exact h.numbered
  · rw [Has, hkept t d hd]
    exact h.has t d hd
  · refine (h.current t d url hd htodo).step (fun hm ho => .inr ⟨hm, ho⟩) (fun _ _ _ hp _ => hp) id
      fun opening host port c _ hc hrun => ⟨c, ?_, hrun⟩
    rw [hkept t d hd]
    exact hc

theorem addPublisher (h : Complete view topicName todo w) (far : FarEnd) :
    Complete view topicName todo (w.addPublisher d url far).2 := by
  unfold SubscriberNet.addPublisher
  split
  · rename_i c hc
    exact h.set hc (fun t ht => ht.addPublisher far) fun _ _ _ _ _ _ _ hrun => hrun.addPublisher far
  · exact h

theorem added (h : Complete view topicName (url :: todo) w) (hview : view topicName = some d)
    {far : FarEnd} {opening : ℕ} {host : String} {port : Int32}
    (hpub : w.publications (topicName, url) = .up opening host port)
    (hskip : ∀ c, url ∈ w.publisherAddrs d → w.connections[d]? = some c →
      w.Current c.subscription.topic.name d url)
    (hconnect : ∀ c, w.connections[d]? = some c → far.opening = opening ∧
      (connectPublisher c.subscription.header far.stream).isOk) :
    Complete view topicName todo (w.addPublisher d url far).2 := by
  obtain ⟨c, hc, hsound⟩ := h.has topicName d hview
  by_cases hmem : url ∈ c.subscription.publisherAddrs
  · have hcurrent : w.Current topicName d url := by
      rw [← hsound.topic_eq]
      exact hskip c (by simpa [publisherAddrs, hc] using hmem) hc
    refine (h.done fun d' hd' => ?_).addPublisher far
    rw [hview] at hd'
    cases hd'
    exact hcurrent
  · refine (h.addPublisher far).done fun d' hd' _ _ => ?_
    rw [hview] at hd'
    cases hd'
    obtain ⟨rfl, hok⟩ := hconnect c hc
    simp only [SubscriberNet.addPublisher, hc]
    exact .inr ⟨far.opening, host, port, _, hpub, getElem?_set_of_some hc,
      hsound.connects hmem hok⟩

theorem newSubscription (h : Complete view t₀ todo w) (c : Connections) :
    Complete view t₀ todo { w with
      actor := { w.actor with channels := w.actor.channels + 1 }
      connections := w.connections ++ [c] } := by
  have hkept : ∀ {d : ℕ} {c' : Connections}, w.connections[d]? = some c' →
      (w.connections ++ [c])[d]? = some c' := by
    intro d c' hc
    rw [List.getElem?_append_left (List.getElem?_eq_some_iff.mp hc).1]
    exact hc
  refine ⟨?_, h.subscribed, fun t d hd => ?_, fun t d url hd htodo => ?_⟩
  · rw [List.length_append, h.numbered]
    rfl
  · obtain ⟨c', hc, hsound⟩ := h.has t d hd
    exact ⟨c', hkept hc, hsound⟩
  · exact (h.current t d url hd htodo).step (fun hm ho => .inr ⟨hm, ho⟩) (fun _ _ _ hp _ => hp) id
      fun opening host port c' _ hc hrun => ⟨c', hkept hc, hrun⟩

end Complete

end SubscriberNet

end RosrustAsync
