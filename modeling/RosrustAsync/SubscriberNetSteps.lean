import RosrustAsync.Lib.Runs
import RosrustAsync.SubscriberNet

namespace RosrustAsync

open Actor Prog Runs

namespace Connections

/-- A task of the publisher at this URL is connected to this opening of its publication. -/
def Running (self : Connections) (url : String) (opening : ℕ) : Prop :=
  ∃ (i : ℕ) (task : SubscriberTask), self.subscription.tasks[i]? = some task ∧
    Subscription.connected task ∧ task.publisherAddr = url ∧ self.openings[i]? = some opening

structure Sound (c : Connections) (topicName : String) : Prop where
  topic_eq : c.subscription.topic.name = topicName
  owner_eq : c.subscription.owner = .idle
  one_each : c.subscription.OneEach
  length_eq : c.openings.length = c.subscription.tasks.length

variable {c : Connections} {s : Subscription} {topicName url : String} {opening : ℕ}

theorem Running.mem_publisherAddrs (h : c.Running url opening) (hc : c.Sound topicName) :
    url ∈ c.subscription.publisherAddrs := by
  obtain ⟨i, task, hi, hconnected, rfl, -⟩ := h
  refine (hc.one_each.mem_iff _).mpr ⟨i, task, hi, rfl, ?_⟩
  intro hpc
  simp [Subscription.connected, hpc] at hconnected

theorem Sound.move {l : Subscription.Label} (h : c.Sound topicName)
    (hl : Subscription.byOwner l = false) (hs : c.subscription.Move l s) :
    Sound { c with subscription := s } topicName := by
  have hfixed : s.topic = c.subscription.topic ∧ s.tasks.length = c.subscription.tasks.length := by
    cases hs with
    | connect ho hconnect => cases hl
    | read | readClosed | readError | store | cancelled | removeLatched | removeAddr =>
      exact ⟨rfl, List.length_set⟩
    | _ => exact ⟨rfl, rfl⟩
  refine ⟨?_, (hs.owner_eq hl).trans h.owner_eq, h.one_each.move hs, ?_⟩
  · rw [hfixed.1]
    exact h.topic_eq
  · rw [hfixed.2]
    exact h.length_eq

theorem Running.setPc {i : ℕ} {task : SubscriberTask} {pc : SubscriberTaskPc}
    (h : c.Running url opening) (hi : c.subscription.tasks[i]? = some task)
    (hs : s.tasks = c.subscription.setPc i task pc)
    (hkeep : task.publisherAddr = url → c.openings[i]? = some opening →
      Subscription.connected task → Subscription.connected { task with pc := pc }) :
    Running { c with subscription := s } url opening := by
  obtain ⟨j, t, hj, hconnected, hurl, hopening⟩ := h
  by_cases hij : j = i
  · subst hij
    rw [hi] at hj
    cases hj
    exact ⟨j, { task with pc := pc }, by rw [hs]; exact getElem?_set_of_some hi,
      hkeep hurl hopening hconnected, hurl, hopening⟩
  · exact ⟨j, t, by rw [hs]; exact getElem?_set_of_ne hij hj, hconnected, hurl, hopening⟩

/-- A task goes on until its connection fails, unless its subscription is dropped. -/
theorem Running.step {l : Subscription.Label} (h : c.Running url opening) (hc : c.Sound topicName)
    (hl : Subscription.byOwner l = false) (hs : c.subscription.step l = some s)
    (hexit : ∀ i e task, l = .taskRead i (.error e) → c.subscription.tasks[i]? = some task →
      c.openings[i]? = some opening → task.publisherAddr ≠ url) :
    Running { c with subscription := s } url opening := by
  have hdropped : c.subscription.isDropped = false := by rw [Subscription.isDropped, hc.owner_eq]
  cases Subscription.step_move hs with
  | connect ho hconnect | addPublisher ho | connectError ho | latchedMsgs ho | dataReceiver ho
  | drop ho | alreadyAdded ho | incompatible ho => cases hl
  | @read i task data hi hpc =>
    refine h.setPc hi rfl fun _ _ _ => ?_
    cases task.publisherHeader.latching <;> rfl
  | readClosed hi hpc hclosed => simp [Subscription.hasReceiver, hdropped] at hclosed
  | @readError i task e hi hpc =>
    exact h.setPc hi rfl fun hurl hopening _ => absurd hurl (hexit i e task rfl hi hopening)
  | store hi hpc => exact h.setPc hi rfl fun _ _ _ => rfl
  | @cancelled i task hi hpc =>
    -- only the drop of its subscription cancels a task
    simp [Subscription.step, Subscription.stepTask, hi, hpc, hdropped] at hs
  | removeLatched hi hpc | removeAddr hi hpc =>
    refine h.setPc hi rfl fun _ _ hconnected => ?_
    simp [Subscription.connected, hpc] at hconnected
  | recvRaw | cloneHandle | dropHandle =>
    obtain ⟨i, task, hi, hrest⟩ := h
    exact ⟨i, task, hi, hrest⟩

/-! `add_publisher` is the call and the connection of the subscription's own steps. -/

theorem addPublisher_run (howner : c.subscription.owner = .idle) (url : String) (far : FarEnd) :
    ∃ labels, Run Subscription.step (fun _ _ => True) c.subscription labels
      (c.addPublisher url far).2.subscription := by
  unfold addPublisher
  split
  · exact ⟨[], .nil _⟩
  · rename_i hmem
    have hcall : c.subscription.step (.addPublisher url) =
        some { c.subscription with owner := .addPublisher url } := by
      simp [Subscription.step, howner, hmem]
    refine ⟨[.addPublisher url, .connect far.stream],
      .cons trivial hcall (.cons trivial ?_ (.nil _))⟩
    cases hconnect : connectPublisher c.subscription.header far.stream with
    | ok publisherHeader => simp [Subscription.step, hconnect, howner]
    | error e => simp [Subscription.step, hconnect, ← howner]

theorem Sound.addPublisher (h : c.Sound topicName) (far : FarEnd) :
    (c.addPublisher url far).2.Sound topicName := by
  obtain ⟨labels, hrun⟩ := addPublisher_run h.owner_eq url far
  have hone := h.one_each.run hrun
  unfold Connections.addPublisher at hone ⊢
  split
  · exact h
  · cases hconnect : connectPublisher c.subscription.header far.stream with
    | ok publisherHeader =>
      rename_i hmem
      simp only [if_neg hmem, hconnect] at hone
      exact ⟨h.topic_eq, h.owner_eq, hone, by simp [h.length_eq]⟩
    | error e => exact h

theorem Running.addPublisher {publisherAddr : String} (h : c.Running url opening) (far : FarEnd) :
    (c.addPublisher publisherAddr far).2.Running url opening := by
  unfold Connections.addPublisher
  split
  · exact h
  · split
    · obtain ⟨i, task, hi, hconnected, hurl, hopening⟩ := h
      have hlt := (List.getElem?_eq_some_iff.mp hi).1
      have hlt' := (List.getElem?_eq_some_iff.mp hopening).1
      exact ⟨i, task, (List.getElem?_append_left hlt).trans hi, hconnected, hurl,
        (List.getElem?_append_left hlt').trans hopening⟩
    · exact h

theorem Sound.connects {far : FarEnd} (h : c.Sound topicName)
    (hmem : url ∉ c.subscription.publisherAddrs)
    (hconnect : (connectPublisher c.subscription.header far.stream).isOk) :
    (c.addPublisher url far).2.Running url far.opening := by
  unfold Connections.addPublisher
  rw [if_neg hmem]
  cases he : connectPublisher c.subscription.header far.stream with
  | ok publisherHeader =>
    refine ⟨c.subscription.tasks.length, _, List.getElem?_concat_length, rfl, rfl, ?_⟩
    rw [← h.length_eq]
    exact List.getElem?_concat_length
  | error e =>
    rw [he] at hconnect
    cases hconnect

end Connections

namespace SubscriberNet

variable {w w' : SubscriberNet} {topicName url : String} {dataTx : ℕ}

/-- An update that lists the publisher is still to be handled. -/
def Announced (w : SubscriberNet) (topicName url : String) : Prop :=
  (∃ publishers, .updateConnectedPublishers topicName publishers ∈ w.actor.mailbox ∧
    url ∈ publishers) ∨ ∃ urls, (topicName, urls) ∈ w.inFlight ∧ url ∈ urls

/-- A publisher that is listed and not closed is still to be announced, or is connected to as it was
last opened. -/
def Current (w : SubscriberNet) (topicName : String) (dataTx : ℕ) (url : String) : Prop :=
  url ∈ w.publishers topicName → w.publications (topicName, url) ≠ .closed →
    w.Announced topicName url ∨ ∃ opening host port connections,
      w.publications (topicName, url) = .up opening host port ∧
      w.connections[dataTx]? = some connections ∧ connections.Running url opening

/-- A connection fails only once its publication is closed. -/
def Connected (w : SubscriberNet) : Outside → Prop
  | .subscription dataTx (.taskRead i (.error _)) => ∀ connections task opening,
      w.connections[dataTx]? = some connections → connections.subscription.isDropped = false →
      connections.subscription.tasks[i]? = some task → connections.openings[i]? = some opening →
      ∀ host port, w.publications (connections.subscription.topic.name, task.publisherAddr) ≠
        .up opening host port
  | _ => True

theorem Current.step (h : w.Current topicName dataTx url)
    (hlisted : url ∈ w'.publishers topicName → w'.publications (topicName, url) ≠ .closed →
      w'.Announced topicName url ∨ url ∈ w.publishers topicName ∧
        w.publications (topicName, url) ≠ .closed)
    (hup : ∀ opening host port, w.publications (topicName, url) = .up opening host port →
      w'.publications (topicName, url) ≠ .closed →
      w'.publications (topicName, url) = .up opening host port)
    (hannounced : w.Announced topicName url → w'.Announced topicName url)
    (hrunning : ∀ opening host port connections,
      w.publications (topicName, url) = .up opening host port →
      w.connections[dataTx]? = some connections → connections.Running url opening →
      ∃ connections', w'.connections[dataTx]? = some connections' ∧
        connections'.Running url opening) : w'.Current topicName dataTx url := by
  intro hmem hopen
  rcases hlisted hmem hopen with hto | ⟨hmem', hopen'⟩
  · exact .inl hto
  · rcases h hmem' hopen' with hto | ⟨opening, host, port, connections, hpub, hconnections, hrun⟩
    · exact .inl (hannounced hto)
    · obtain ⟨connections', hconnections', hrun'⟩ :=
        hrunning opening host port connections hpub hconnections hrun
      exact .inr ⟨opening, host, port, connections', hup opening host port hpub hopen,
        hconnections', hrun'⟩

theorem announce_eq (w : SubscriberNet) (topicName : String) : w.announce topicName =
    { w with inFlight := w.inFlight ++
        if topicName ∈ w.subscribers then [(topicName, w.publishers topicName)] else [] } := by
  unfold announce
  split <;> simp

theorem setPublishers_eq (w : SubscriberNet) (topicName : String) (urls : Finset String) :
    w.setPublishers topicName urls =
      { w with
        publishers := Function.update w.publishers topicName urls
        inFlight := w.inFlight ++
          if topicName ∈ w.subscribers then [(topicName, urls)] else [] } := by
  rw [setPublishers, announce_eq]
  simp

theorem clientStep_keeps {S K V C M : Type} {Ans : C → Type} {B : Behaviour S K V C M Ans}
    {w w' : World S K M} {l : ClientLabel M} (h : clientStep B w l = some w') :
    w'.state = w.state ∧ w'.channels = w.channels ∧ w.mailbox ⊆ w'.mailbox := by
  cases l with
  | enqueue m =>
    cases h
    exact ⟨rfl, rfl, List.subset_append_left _ _⟩
  | clone i =>
    obtain ⟨x, -, h⟩ := Option.bind_eq_some_iff.mp h
    split at h
    · cases h
      exact ⟨rfl, rfl, List.Subset.refl _⟩
    · cases h
  | dropHandle i =>
    obtain ⟨x, -, h⟩ := Option.bind_eq_some_iff.mp h
    cases h
    rw [World.settle_eq]
    exact ⟨rfl, rfl, List.Subset.refl _⟩
  | guardDrop i =>
    obtain ⟨g, -, h⟩ := Option.bind_eq_some_iff.mp h
    obtain ⟨key, -, h⟩ := Option.bind_eq_some_iff.mp h
    cases h
    refine ⟨rfl, rfl, ?_⟩
    split
    · exact List.Subset.refl _
    · exact List.subset_append_left _ _
  | abandon port =>
    cases h
    exact ⟨rfl, rfl, List.Subset.refl _⟩

theorem Announced.mono (h : w.Announced topicName url) (hmail : w.actor.mailbox ⊆ w'.actor.mailbox)
    (hflight : w.inFlight ⊆ w'.inFlight) : w'.Announced topicName url := by
  rcases h with ⟨publishers, hm, hmem⟩ | ⟨urls, hf, hmem⟩
  · exact .inl ⟨publishers, hmail hm, hmem⟩
  · exact .inr ⟨urls, hflight hf, hmem⟩

theorem outside_client {l : ClientLabel SubscriberActorMsg}
    (he : w.outside (.client l) = some w') :
    ∃ actor, clientStep SubscriberActor.behaviour w.actor l = some actor ∧
      w' = { w with actor } := by
  cases l with
  | enqueue m =>
    cases m with
    | updateConnectedPublishers topicName publishers => cases he
    | _ =>
      cases he
      exact ⟨_, rfl, rfl⟩
  | abandon port =>
    cases he
    exact ⟨_, rfl, rfl⟩
  | _ =>
    obtain ⟨actor, hactor, he⟩ := Option.bind_eq_some_iff.mp he
    cases he
    exact ⟨actor, hactor, rfl⟩

/-- What the other parties do to the lists and the publications: a publisher that they list anew, or
open anew, is announced. -/
structure Rearranged (w w' : SubscriberNet) : Prop where
  connections_eq : w'.connections = w.connections
  state_eq : w'.actor.state = w.actor.state
  channels_eq : w'.actor.channels = w.actor.channels
  subscribers_eq : w'.subscribers = w.subscribers
  announced : ∀ t url, w.Announced t url → w'.Announced t url
  listed : ∀ t url, t ∈ w.subscribers → url ∈ w'.publishers t → w'.publications (t, url) ≠ .closed →
    w'.Announced t url ∨ url ∈ w.publishers t ∧ w.publications (t, url) ≠ .closed
  up : ∀ t url opening host port, w.publications (t, url) = .up opening host port →
    w'.publications (t, url) ≠ .closed → w'.publications (t, url) = .up opening host port

theorem registerPublisher_rearranged (hclosed : w.publications (topicName, url) = .closed) :
    Rearranged w ((w.setPublication topicName url .registering).setPublishers topicName
      (insert url (w.publishers topicName))) := by
  rw [setPublishers_eq]
  refine ⟨rfl, rfl, rfl, rfl, fun t u ha => ?_, fun t u hs hm ho => ?_,
    fun t u opening host port hp ho => ?_⟩
  · exact ha.mono (List.Subset.refl _) (List.subset_append_left _ _)
  · by_cases htu : (t, u) = (topicName, url)
    · cases htu
      refine .inl (.inr ⟨insert url (w.publishers topicName), ?_, Finset.mem_insert_self ..⟩)
      have hs' : topicName ∈ (w.setPublication topicName url .registering).subscribers := hs
      apply List.mem_append_right
      rw [if_pos hs']
      exact List.mem_singleton_self _
    · refine .inr ⟨?_, by simpa [setPublication, htu] using ho⟩
      by_cases ht : t = topicName
      · subst ht
        have hu : u ≠ url := fun hu => htu (hu ▸ rfl)
        simpa [setPublication, hu] using hm
      · simpa [setPublication, ht] using hm
  · have htu : (t, u) ≠ (topicName, url) := by
      intro htu
      rw [htu, hclosed] at hp
      cases hp
    simpa [setPublication, htu] using hp

theorem insertPublication_rearranged {host : String} {port : Int32}
    (hregistering : w.publications (topicName, url) = .registering) :
    Rearranged w { w.setPublication topicName url (.up w.openings host port) with
      openings := w.openings + 1 } := by
  refine ⟨rfl, rfl, rfl, rfl, fun t u ha => ha, fun t u hs hm ho => .inr ⟨hm, ?_⟩,
    fun t u opening host' port' hp ho => ?_⟩
  · by_cases htu : (t, u) = (topicName, url)
    · rw [htu, hregistering]
      simp
    · simpa [setPublication, htu] using ho
  · have htu : (t, u) ≠ (topicName, url) := by
      intro htu
      rw [htu, hregistering] at hp
      cases hp
    simpa [setPublication, htu] using hp

theorem removePublication_rearranged (w : SubscriberNet) (topicName url : String) :
    Rearranged w (w.setPublication topicName url .closed) := by
  refine ⟨rfl, rfl, rfl, rfl, fun t u ha => ha, fun t u hs hm ho => .inr ⟨hm, ?_⟩,
    fun t u opening host' port' hp ho => ?_⟩
  all_goals
    have htu : (t, u) ≠ (topicName, url) := by
      intro htu
      simp [setPublication, htu] at ho
  · simpa [setPublication, htu] using ho
  · simpa [setPublication, htu] using hp

theorem unregisterPublisher_rearranged (w : SubscriberNet) (topicName url : String) :
    Rearranged w (w.setPublishers topicName ((w.publishers topicName).erase url)) := by
  rw [setPublishers_eq]
  refine ⟨rfl, rfl, rfl, rfl, fun t u ha => ?_, fun t u hs hm ho => .inr ⟨?_, ho⟩,
    fun t u opening host port hp ho => hp⟩
  · exact ha.mono (List.Subset.refl _) (List.subset_append_left _ _)
  · by_cases ht : t = topicName
    · subst ht
      simp only [Function.update_self] at hm
      exact Finset.mem_of_mem_erase hm
    · simpa [ht] using hm

theorem deliver_rearranged {publishers : List String} {inFlight : List (String × Finset String)}
    (hflight : w.inFlight = (topicName, publishers.toFinset) :: inFlight) :
    Rearranged w { w with
      actor := { w.actor with
        mailbox := w.actor.mailbox ++ [.updateConnectedPublishers topicName publishers] }
      inFlight } := by
  refine ⟨rfl, rfl, rfl, rfl, fun t u ha => ?_, fun t u hs hm ho => .inr ⟨hm, ho⟩,
    fun t u opening host port hp ho => hp⟩
  rcases ha with ⟨others, hm, hmem⟩ | ⟨urls, hf, hmem⟩
  · exact .inl ⟨others, List.mem_append_left _ hm, hmem⟩
  · rw [hflight] at hf
    rcases List.mem_cons.mp hf with hf | hf
    · cases hf
      exact .inl ⟨publishers, List.mem_append_right _ (List.mem_singleton_self _),
        List.mem_toFinset.mp hmem⟩
    · exact .inr ⟨urls, hf, hmem⟩

theorem outside_cases {l : Outside} (he : w.outside l = some w') :
    Rearranged w w' ∨ ∃ dataTx label c s, l = .subscription dataTx label ∧
      Subscription.byOwner label = false ∧ w.connections[dataTx]? = some c ∧
      c.subscription.step label = some s ∧
      w' = { w with connections := w.connections.set dataTx { c with subscription := s } } := by
  cases l with
  | client l =>
    obtain ⟨actor, hactor, rfl⟩ := outside_client he
    obtain ⟨hstate, hchannels, hmail⟩ := clientStep_keeps hactor
    exact .inl ⟨rfl, hstate, hchannels, rfl, fun t url ha => ha.mono hmail (List.Subset.refl _),
      fun t url _ hm ho => .inr ⟨hm, ho⟩, fun t url opening host port hp _ => hp⟩
  | registerPublisher topicName url =>
    simp only [outside] at he
    split at he
    · rename_i hclosed
      cases he
      exact .inl (registerPublisher_rearranged hclosed)
    · cases he
  | insertPublication topicName url host port =>
    simp only [outside] at he
    split at he
    · rename_i hregistering
      cases he
      exact .inl (insertPublication_rearranged hregistering)
    · cases he
  | removePublication topicName url =>
    cases he
    exact .inl (removePublication_rearranged w topicName url)
  | unregisterPublisher topicName url =>
    cases he
    exact .inl (unregisterPublisher_rearranged w topicName url)
  | deliver publishers =>
    simp only [outside] at he
    split at he
    · rename_i topicName urls inFlight hflight
      split at he
      · rename_i hurls
        cases he
        subst hurls
        exact .inl (deliver_rearranged hflight)
      · cases he
    · cases he
  | subscription dataTx label =>
    simp only [outside] at he
    split at he
    · cases he
    · rename_i hown
      obtain ⟨c, hc, he⟩ := Option.bind_eq_some_iff.mp he
      obtain ⟨s, hs, he⟩ := Option.bind_eq_some_iff.mp he
      cases he
      exact .inr ⟨dataTx, label, c, s, rfl, by simpa using hown, hc, hs, rfl⟩

def Has (w : SubscriberNet) (topicName : String) (dataTx : ℕ) : Prop :=
  ∃ c, w.connections[dataTx]? = some c ∧ c.Sound topicName

theorem Has.set {t : String} {d d₀ : ℕ} {c c' : Connections} (h : w.Has t d)
    (hd : w.connections[d₀]? = some c) (hsound : c.Sound t → c'.Sound t) :
    Has { w with connections := w.connections.set d₀ c' } t d := by
  obtain ⟨e, he, hs⟩ := h
  by_cases hdd : d = d₀
  · subst hdd
    rw [hd] at he
    cases he
    exact ⟨c', getElem?_set_of_some hd, hsound hs⟩
  · exact ⟨e, getElem?_set_of_ne hdd he, hs⟩

theorem Has.outside {l : Outside} (h : w.Has topicName dataTx) (he : w.outside l = some w') :
    w'.Has topicName dataTx := by
  rcases outside_cases he with hr | ⟨d, label, c, s, rfl, hown, hc, hs, rfl⟩
  · rw [Has, hr.connections_eq]
    exact h
  · exact h.set hc fun hsound => hsound.move hown (Subscription.step_move hs)

end SubscriberNet

end RosrustAsync
