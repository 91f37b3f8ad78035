import RosrustAsync.PubSubNetSteps
import RosrustAsync.PublicationIsolation
import RosrustAsync.PublisherConnections

namespace RosrustAsync

open Runs

namespace Subscription

variable {s q : Subscription} {label : Label}

theorem Move.tasks_length (hs : s.Move label q) : q.tasks.length = s.tasks.length ∨
    q.tasks.length = s.tasks.length + 1 ∧
      ∃ stream header, label = .connect stream ∧ connectPublisher s.header stream = .ok header := by
  cases hs with
  | connect ho hconnect => exact .inr ⟨by simp, _, _, rfl, hconnect⟩
  | readClosed hi hpc hclosed | read hi hpc | readError e hi hpc | store hi hpc | cancelled hi hpc
  | removeLatched hi hpc | removeAddr hi hpc => exact .inl (by simp [setPc])
  | _ => exact .inl rfl

end Subscription

namespace PubSubNet

variable {net t : PubSubNet} {label : Label}

/-- The `i`-th task of a subscriber reads from a connection with a publication that fits. -/
def Connected (net : PubSubNet) (j : ℕ) (header : SubscriberHeader) (i : ℕ) : Prop :=
  ∃ c ∈ net.connections, ∃ p, c.subscriber = j ∧ c.link.subscriberTask = some i ∧
    net.publications[c.publication]? = some p ∧
    validatePubsubCompatibility p.header header = .ok ()

structure Invariant (net : PubSubNet) : Prop where
  sees : ∀ v, net.Sees v → v.Invariant
  apart : Apart ShareNone net.connections
  ends : ∀ c ∈ net.connections, c.publication < net.publications.length ∧
    c.subscriber < net.subscribers.length
  ordered : ∀ (j : ℕ) s, net.subscribers[j]? = some s → s.subscription.Ordered
  connected : ∀ (j : ℕ) s i, net.subscribers[j]? = some s → i < s.subscription.tasks.length →
    net.Connected j s.subscription.header i

theorem Invariant.joined {c : NetConnection} (h : net.Invariant) (hc : c ∈ net.connections)
    {p : Publication} (hp : net.publications[c.publication]? = some p) {s : NetSubscriber}
    (hs : net.subscribers[c.subscriber]? = some s) :
    PubSub.Invariant ⟨p, s.subscription, some c.link⟩ := by
  obtain ⟨k, hk⟩ := List.mem_iff_getElem?.mp hc
  exact h.sees _ (.joined hk hp hs)

theorem Invariant.publisherTask_lt {c : NetConnection} (h : net.Invariant)
    (hc : c ∈ net.connections) {p : Publication} (hp : net.publications[c.publication]? = some p) :
    c.link.publisherTask < p.slots.length := by
  have hs := List.getElem?_eq_getElem (h.ends c hc).2
  obtain ⟨read, ⟨⟨unread, torn, -, -, task, htask, -⟩, -, -⟩⟩ := (h.joined hc hp hs).link _ rfl
  exact (List.getElem?_eq_some_iff.mp htask).1

theorem Invariant.subscriberTask_lt {c : NetConnection} (h : net.Invariant)
    (hc : c ∈ net.connections) {s : NetSubscriber}
    (hs : net.subscribers[c.subscriber]? = some s) {i : ℕ} (hi : c.link.subscriberTask = some i) :
    i < s.subscription.tasks.length := by
  have hp := List.getElem?_eq_getElem (h.ends c hc).1
  obtain ⟨read, -, -, hreading⟩ := (h.joined hc hp hs).link _ rfl
  obtain ⟨⟨-, task, htask, -⟩, -⟩ := hreading i hi
  exact (List.getElem?_eq_some_iff.mp htask).1

theorem Move.apart (h : net.Invariant) (hs : net.Move label t) :
    Apart ShareNone t.connections := by
  cases hs with
  | pub hp hq hdrives => exact h.apart
  | sub hj hq hdrives hconnect => exact h.apart
  | @greet i j p q s setNodelay connecting hp hj hq hgreet =>
    have htasks : p.slots = p.tasks ∧ q.tasks = p.tasks := by
      cases Publication.step_move hq with
      | setup hpc hsetup | setupError hpc hsetup => simp [Publication.slots, hpc]
    refine h.apart.concat fun c hc => ?_
    have hshare : ShareNone c ⟨i, j, ⟨q.tasks.length, [], none, 0⟩⟩ := by
      refine ⟨fun hi => ?_, fun _ n hn hnone => by cases hnone⟩
      subst hi
      have hlt := h.publisherTask_lt hc hp
      rw [htasks.1, ← htasks.2] at hlt
      exact hlt.ne
    exact ⟨hshare.symm, hshare⟩
  | @connection _ k c p s l v link connecting hc hp hj hl hv hlink =>
    refine h.apart.set fun k' c' hc' hne => ?_
    have hshare := h.apart k k' c c' hc hc' hne.symm
    have hmem := List.mem_of_getElem? hc'
    have hnew : ShareNone { c with link := link } c' := by
      cases PubSub.step_onLink hl hv with
      | join hnone hq hlen =>
        cases hlink
        refine ⟨hshare.publisherTask, fun hi n hn hn' => ?_⟩
        cases hn
        change c.subscriber = c'.subscriber at hi
        exact (h.subscriberTask_lt hmem (hi ▸ hj) hn').ne rfl
      | write hq | read hn hq | readError hn hq =>
        cases hlink
        exact ⟨hshare.publisherTask, hshare.subscriberTask⟩
    exact ⟨hnew, hnew.symm⟩

theorem Move.ends (h : net.Invariant) (hs : net.Move label t) :
    ∀ c ∈ t.connections, c.publication < t.publications.length ∧
      c.subscriber < t.subscribers.length := by
  cases hs with
  | pub hp hq hdrives =>
    simpa only [List.length_set] using h.ends
  | sub hj hq hdrives hconnect =>
    simpa only [List.length_set] using h.ends
  | greet hp hj hq hgreet =>
    intro c hc
    simp only [List.length_set]
    rcases List.mem_append.mp hc with hc | hc
    · exact h.ends c hc
    · cases List.mem_singleton.mp hc
      exact ⟨(List.getElem?_eq_some_iff.mp hp).1, (List.getElem?_eq_some_iff.mp hj).1⟩
  | @connection _ k c p s l v link connecting hc hp hj hl hv hlink =>
    intro c' hc'
    simp only [List.length_set]
    rcases List.mem_or_eq_of_mem_set hc' with hc' | rfl
    · exact h.ends c' hc'
    · exact h.ends c (List.mem_of_getElem? hc)

theorem Move.subscription {j : ℕ} {S' : NetSubscriber} (hs : net.Move label t)
    (hS : t.subscribers[j]? = some S') : ∃ S, net.subscribers[j]? = some S ∧
      (S'.subscription = S.subscription ∨ ∃ l, S.subscription.Move l S'.subscription) := by
  cases hs with
  | pub hp hq hdrives => exact ⟨S', hS, .inl rfl⟩
  | @sub j' s q label connecting hj hq hdrives hconnect =>
    rcases getElem?_set_cases hS with ⟨rfl, rfl⟩ | ⟨-, hS'⟩
    · exact ⟨s, hj, .inr ⟨_, Subscription.step_move hq⟩⟩
    · exact ⟨S', hS', .inl rfl⟩
  | greet hp hj hq hgreet =>
    obtain ⟨S, hS, heq⟩ := subscription_of_set hj hS
    exact ⟨S, hS, .inl heq.symm⟩
  | @connection _ k c p s l v link connecting hc hp hj hl hv hlink =>
    rcases getElem?_set_cases hS with ⟨rfl, rfl⟩ | ⟨-, hS'⟩
    · refine ⟨s, hj, ?_⟩
      cases PubSub.step_onLink hl hv with
      | join hnone hq hlen | read hn hq | readError hn hq =>
        exact .inr ⟨_, Subscription.step_move hq⟩
      | write hq => exact .inl rfl
    · exact ⟨S', hS', .inl rfl⟩

/-- What stays as the publications and the connections move on. -/
structure Keeps (net t : PubSubNet) : Prop where
  publications : ∀ (i : ℕ) p, net.publications[i]? = some p →
    ∃ q, t.publications[i]? = some q ∧ q.header = p.header
  connections : ∀ c ∈ net.connections, ∃ c' ∈ t.connections, c'.publication = c.publication ∧
    c'.subscriber = c.subscriber ∧
    ∀ n, c.link.subscriberTask = some n → c'.link.subscriberTask = some n

theorem header_of_set {pubs : List Publication} {i k : ℕ} {p q P : Publication}
    (hp : pubs[i]? = some p) (hheader : q.header = p.header) (hP : pubs[k]? = some P) :
    ∃ P', (pubs.set i q)[k]? = some P' ∧ P'.header = P.header := by
  by_cases hki : k = i
  · subst hki
    cases hp.symm.trans hP
    exact ⟨q, getElem?_set_of_some hp, hheader⟩
  · exact ⟨P, getElem?_set_of_ne hki hP, rfl⟩

theorem Move.keeps (hs : net.Move label t) : net.Keeps t := by
  cases hs with
  | pub hp hq hdrives =>
    exact ⟨fun i P hP => header_of_set hp (Publication.step_move hq).header_eq.1 hP,
      fun c hc => ⟨c, hc, rfl, rfl, fun _ hn => hn⟩⟩
  | sub hj hq hdrives hconnect =>
    exact ⟨fun i P hP => ⟨P, hP, rfl⟩, fun c hc => ⟨c, hc, rfl, rfl, fun _ hn => hn⟩⟩
  | greet hp hj hq hgreet =>
    exact ⟨fun i P hP => header_of_set hp (Publication.step_move hq).header_eq.1 hP,
      fun c hc => ⟨c, List.mem_append_left _ hc, rfl, rfl, fun _ hn => hn⟩⟩
  | @connection _ k c p s l v link connecting hc hp hj hl hv hlink =>
    have hkept : v.publication.header = p.header ∧
        ∀ n, c.link.subscriberTask = some n → link.subscriberTask = some n := by
      cases PubSub.step_onLink hl hv with
      | join hnone hq hlen =>
        refine ⟨rfl, fun n hn => ?_⟩
        cases hnone.symm.trans hn
      | write hq =>
        cases hlink
        exact ⟨(Publication.step_move hq).header_eq.1, fun _ hn => hn⟩
      | read hi hq | readError hi hq =>
        cases hlink
        exact ⟨rfl, fun _ hn => hn⟩
    refine ⟨fun i P hP => header_of_set hp hkept.1 hP, fun c' hc' => ?_⟩
    obtain ⟨k', hk'⟩ := List.mem_iff_getElem?.mp hc'
    by_cases hkk : k' = k
    · subst hkk
      cases hc.symm.trans hk'
      exact ⟨_, List.mem_of_getElem? (getElem?_set_of_some hc), rfl, rfl, hkept.2⟩
    · exact ⟨c', List.mem_of_getElem? (getElem?_set_of_ne hkk hk'), rfl, rfl, fun _ hn => hn⟩

theorem Keeps.connected {j i : ℕ} {header header' : SubscriberHeader} (h : net.Keeps t)
    (hheader : header' = header) (hi : net.Connected j header i) : t.Connected j header' i := by
  obtain ⟨c, hc, p, hj, htask, hp, hfit⟩ := hi
  obtain ⟨c', hc', hpub, hsub, htask'⟩ := h.connections c hc
  obtain ⟨q, hq, heq⟩ := h.publications _ p hp
  exact ⟨c', hc', q, hsub.trans hj, htask' i htask, hpub ▸ hq, by rw [heq, hheader]; exact hfit⟩

theorem Move.connected {j i : ℕ} {S' : NetSubscriber} (h : net.Invariant) (hs : net.Move label t)
    (hS : t.subscribers[j]? = some S') (hi : i < S'.subscription.tasks.length) :
    t.Connected j S'.subscription.header i := by
  have hkeeps := hs.keeps
  have hold {S : NetSubscriber} (hS : net.subscribers[j]? = some S)
      (hheader : S'.subscription.header = S.subscription.header)
      (hi : i < S.subscription.tasks.length) : t.Connected j S'.subscription.header i :=
    hkeeps.connected hheader (h.connected j S i hS hi)
  cases hs with
  | pub hp hq hdrives => exact hold hS rfl hi
  | @sub j' s q label connecting hj hq hdrives hconnect =>
    rcases getElem?_set_cases hS with ⟨rfl, rfl⟩ | ⟨-, hS'⟩
    · have hmove := Subscription.step_move hq
      refine hold hj hmove.header_eq ?_
      rcases hmove.tasks_length with hlen | ⟨-, stream, header, hl, hok⟩
      · exact hlen ▸ hi
      · exact (hconnect stream header hl hok).elim
    · exact hold hS' rfl hi
  | greet hp hj hq hgreet =>
    obtain ⟨S, hS, heq⟩ := subscription_of_set hj hS
    exact hold hS (by rw [heq]) (by rw [heq]; exact hi)
  | @connection _ k c p s l v link connecting hc hp hj hl hv hlink =>
    rcases getElem?_set_cases hS with ⟨rfl, rfl⟩ | ⟨-, hS'⟩
    · cases PubSub.step_onLink hl hv with
      | @join q hnone hq hlen =>
        have hmove := Subscription.step_move hq
        by_cases hlt : i < s.subscription.tasks.length
        · exact hold hj hmove.header_eq hlt
        · have hfit : validatePubsubCompatibility p.header s.subscription.header = .ok () := by
            rcases hmove.tasks_length with hsame | ⟨-, stream, header, hl, hok⟩
            · omega
            · cases hl
              obtain ⟨-, -, hheader, hvalid⟩ := connectPublisher_eq_ok.mp hok
              cases hheader
              exact hvalid
          have heq : s.subscription.tasks.length = i := by
            change i < q.tasks.length at hi
            omega
          cases hlink
          exact ⟨_, List.mem_of_getElem? (getElem?_set_of_some hc), p, rfl, congrArg some heq,
            getElem?_set_of_some hp, hmove.header_eq ▸ hfit⟩
      | write hq => exact hold hj rfl hi
      | read hn hq | readError hn hq =>
        refine hold hj (Subscription.step_move hq).header_eq ?_
        rcases (Subscription.step_move hq).tasks_length with hlen | ⟨-, stream, header, hl, -⟩
        · exact hlen ▸ hi
        · cases hl
    · exact hold hS' rfl hi

theorem step_invariant (h : net.Invariant) (hframed : net.Framed label)
    (hs : net.step label = some t) : t.Invariant := by
  have hmove := step_move hs
  refine ⟨fun v' hv => ?_, hmove.apart h, hmove.ends h, fun j S' hS => ?_,
    fun j S' i hS hi => hmove.connected h hS hi⟩
  · obtain ⟨v, hv, hfollows⟩ := hmove.sees h.apart hframed hv
    exact hfollows.invariant (h.sees v hv)
  · obtain ⟨S, hS, heq | ⟨l, hl⟩⟩ := hmove.subscription hS
    · rw [heq]
      exact h.ordered j S hS
    · exact (h.ordered j S hS).move hl

theorem start_invariant {publications : List Publication} {subscriptions : List Subscription}
    (hp : ∀ p ∈ publications, ∃ topic callerId queueSize tcpNodelay latching,
      Publication.new topic callerId queueSize tcpNodelay latching = some p)
    (hu : ∀ u ∈ subscriptions, ∃ topic callerId queueSize tcpNodelay,
      Subscription.new topic callerId queueSize tcpNodelay = some u) :
    (start publications subscriptions).Invariant := by
  have hnew (j : ℕ) (s : NetSubscriber)
      (hs : (start publications subscriptions).subscribers[j]? = some s) :
      ∃ topic callerId queueSize tcpNodelay,
        Subscription.new topic callerId queueSize tcpNodelay = some s.subscription := by
    obtain ⟨u, hmem, rfl⟩ := List.mem_map.mp (List.mem_of_getElem? hs)
    exact hu u hmem
  refine ⟨fun v hv => ?_, fun k k' c c' hc => (by cases hc), fun c hc => (by cases hc),
    fun j s hs => ?_, fun j s i hs hi => ?_⟩
  · cases hv with
    | apart hP hS =>
      obtain ⟨_, _, _, _, _, hP⟩ := hp _ (List.mem_of_getElem? hP)
      obtain ⟨_, _, _, _, hS⟩ := hnew _ _ hS
      exact PubSub.ofPubSub_invariant hP hS
    | joined hc hP hS => cases hc
  · obtain ⟨_, _, _, _, hs⟩ := hnew j s hs
    exact Subscription.new_ordered hs
  · obtain ⟨_, _, _, _, hs⟩ := hnew j s hs
    obtain ⟨data, -, hs⟩ := Option.bind_eq_some_iff.mp hs
    rw [← Option.some.inj hs] at hi
    cases hi

/-- What a subscriber returns came over one of its connections, from a publication that fits; of
each connection it is, in their order, messages the publication was given, and all of those given
since its task joined once nothing is on its way. -/
theorem messages_carried {publications : List Publication} {subscriptions : List Subscription}
    {labels : List Label}
    (hp : ∀ p ∈ publications, ∃ topic callerId queueSize tcpNodelay latching,
      Publication.new topic callerId queueSize tcpNodelay latching = some p)
    (hu : ∀ u ∈ subscriptions, ∃ topic callerId queueSize tcpNodelay,
      Subscription.new topic callerId queueSize tcpNodelay = some u)
    (hrun : Run step Framed (start publications subscriptions) labels t) {j n : ℕ}
    {s : NetSubscriber} (hs : t.subscribers[j]? = some s) {handle : SubscriberHandle}
    (hn : s.subscription.handles[n]? = some handle) :
    (∀ frame ∈ handle.got, ∃ c ∈ t.connections, ∃ p, c.subscriber = j ∧
      c.link.subscriberTask = some frame.task ∧ t.publications[c.publication]? = some p ∧
      frame.data ∈ p.data.sent ∧
      areFieldsCompatible p.header.md5sum s.subscription.header.md5sum ∧
      areFieldsCompatible p.header.msgType s.subscription.header.msgType) ∧
    ∀ c ∈ t.connections, ∀ p i, c.subscriber = j → c.link.subscriberTask = some i →
      t.publications[c.publication]? = some p →
      ((framesOf i handle.got).map Frame.data).Sublist p.data.sent ∧
      ∀ task, n < c.link.handles →
        PubSub.Drained ⟨p, s.subscription, some c.link⟩ c.link task handle →
          p.data.sent.drop task.joined <:+ (framesOf i handle.got).map Frame.data := by
  have ht : t.Invariant :=
    hrun.invariant (fun _ _ _ h hok hs => step_invariant h hok hs) (start_invariant hp hu)
  have hmem := List.mem_of_getElem? hn
  have hsublist (c : NetConnection) (hc : c ∈ t.connections) (p : Publication) (i : ℕ)
      (hj : c.subscriber = j) (hi : c.link.subscriberTask = some i)
      (hP : t.publications[c.publication]? = some p) :
      ((framesOf i handle.got).map Frame.data).Sublist p.data.sent :=
    (ht.joined hc hP (hj ▸ hs)).sublist rfl hi hmem
  refine ⟨fun frame hf => ?_, fun c hc p i hj hi hP => ⟨hsublist c hc p i hj hi hP, ?_⟩⟩
  · have hordered := ht.ordered j s hs
    have hin : frame ∈ s.subscription.data.sent :=
      List.mem_of_mem_take (mem_of_framesOf_sublist (hordered.handles handle hmem).ordered
        (List.mem_append_left _ hf))
    obtain ⟨c, hc, p, hj, hi, hP, hfit⟩ :=
      ht.connected j s frame.task hs (hordered.task_lt frame hin)
    have hframe : frame ∈ framesOf frame.task handle.got := List.mem_filter.mpr ⟨hf, by simp⟩
    obtain ⟨hmd5sum, hmsgType⟩ := validateFields_iff.mp hfit
    exact ⟨c, hc, p, hj, hi, hP,
      (hsublist c hc p _ hj hi hP).subset (List.mem_map_of_mem hframe), hmd5sum, hmsgType⟩
  · intro task hlt hdrained
    exact (ht.joined hc hP (hj ▸ hs)).complete rfl hi hlt hn hdrained

theorem messages_carried_two : ∃ (t : PubSubNet) (p : Publication) (s : NetSubscriber)
    (handle : SubscriberHandle), t.subscribers[1]? = some s ∧
      s.subscription.handles[0]? = some handle ∧ handle.got = [⟨0, frame [1]⟩] ∧
      (∀ f ∈ handle.got, ∃ c ∈ t.connections, c.subscriber = 1 ∧
        c.link.subscriberTask = some f.task) ∧
      ((framesOf 0 handle.got).map Frame.data).Sublist p.data.sent ∧
      p.data.sent.drop 0 <:+ (framesOf 0 handle.got).map Frame.data := by
  obtain ⟨t, hrun, s, handle, c, p, task, hs, hn, hc, hj, hi, hP, hgot, hlt, hdrained, hjoined⟩ :
      ∃ t, Run step Framed (start [PubSub.scanPublication]
          [PubSub.scanSubscription, PubSub.scanSubscription])
        [.sub 0 (.addPublisher "http://laser"), .pub 0 (.accept (.ok ())), .greet 0 0 (.ok ()),
          .pub 0 .register, .join 0, .sub 1 (.addPublisher "http://laser"),
          .pub 0 (.accept (.ok ())), .greet 0 1 (.ok ()), .pub 0 .register, .join 1,
          .pub 0 (.send (frame [1])), .write 1 (.ok ()) 0, .write 0 (.ok ()) 0, .read 1, .read 0,
          .sub 1 (.recvRaw 0), .sub 0 (.recvRaw 0)] t ∧
      ∃ s handle c p task, t.subscribers[1]? = some s ∧
        s.subscription.handles[0]? = some handle ∧ c ∈ t.connections ∧ c.subscriber = 1 ∧
        c.link.subscriberTask = some 0 ∧ t.publications[c.publication]? = some p ∧
        handle.got = [⟨0, frame [1]⟩] ∧ 0 < c.link.handles ∧
        PubSub.Drained ⟨p, s.subscription, some c.link⟩ c.link task handle ∧ task.joined = 0 :=
    ⟨_, .cons trivial rfl <| .cons trivial rfl <| .cons trivial rfl <| .cons trivial rfl <|
      .cons trivial rfl <| .cons trivial rfl <| .cons trivial rfl <| .cons trivial rfl <|
      .cons trivial rfl <| .cons trivial rfl <| .cons ⟨[1], by decide, rfl⟩ rfl <|
      .cons trivial rfl <| .cons trivial rfl <| .cons trivial rfl <| .cons trivial rfl <|
      .cons trivial rfl <| .cons trivial rfl <| .nil _,
      _, _, _, _, _, rfl, rfl, List.mem_of_getElem? (i := 1) rfl, rfl, rfl, rfl, rfl, by decide,
      ⟨rfl, rfl, rfl, rfl, rfl, rfl, by rintro _ ⟨⟩; exact ⟨_, rfl, rfl⟩, rfl, rfl, rfl⟩, rfl⟩
  have hp : ∀ p ∈ [PubSub.scanPublication], ∃ topic callerId queueSize tcpNodelay latching,
      Publication.new topic callerId queueSize tcpNodelay latching = some p := by
    simp only [List.mem_singleton, forall_eq]
    exact ⟨PubSub.scanTopic, "/laser", 2, false, true, rfl⟩
  have hu : ∀ u ∈ [PubSub.scanSubscription, PubSub.scanSubscription],
      ∃ topic callerId queueSize tcpNodelay,
        Subscription.new topic callerId queueSize tcpNodelay = some u := by
    simp only [List.mem_cons, List.not_mem_nil, or_false, or_self, forall_eq]
    exact ⟨PubSub.scanTopic, "/mapper", 2, false, rfl⟩
  obtain ⟨hsource, hcarried⟩ := messages_carried hp hu hrun hs hn
  obtain ⟨hsublist, hcomplete⟩ := hcarried c hc p 0 hj hi hP
  refine ⟨t, p, s, handle, hs, hn, hgot, fun f hf => ?_, hsublist,
    hjoined ▸ hcomplete task hlt hdrained⟩
  obtain ⟨c, hc, -, hj, htask, -⟩ := hsource f hf
  exact ⟨c, hc, hj, htask⟩

end PubSubNet

end RosrustAsync
