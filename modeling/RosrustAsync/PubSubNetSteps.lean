import RosrustAsync.PubSubNet

namespace RosrustAsync

namespace PubSub

variable {v v' : PubSub} {label : Label}

/-- What each step of a connection does. -/
inductive OnLink (p : Publication) (s : Subscription) (link : Link) : Label → PubSub → Prop
  | join {q : Subscription} : link.subscriberTask = none →
      s.step (.connect ⟨.ok (), .ok (), .ok p.header⟩) = some q →
      q.tasks.length = s.tasks.length + 1 →
      OnLink p s link .join ⟨p, q, some { link with
        subscriberTask := some s.tasks.length
        handles := s.handles.length }⟩
  | write {q : Publication} {task : PublisherTask} {result : Except IoError Unit} {torn : ℕ} :
      p.step (writeLabel link.publisherTask task result) = some q →
      OnLink p s link (.write result torn) ⟨q, s, some { link with
        stream := link.stream ++ written (outgoing p.data task) torn result }⟩
  | read {q : Subscription} {i : ℕ} {frame : Bytes} {rest : List Bytes} :
      link.subscriberTask = some i → s.step (.taskRead i (.ok frame)) = some q →
      OnLink p s link .read ⟨p, q, some { link with stream := rest.flatten }⟩
  | readError {q : Subscription} {i : ℕ} {e : IoError} :
      link.subscriberTask = some i → s.step (.taskRead i (.error e)) = some q →
      OnLink p s link (.readError e) ⟨p, q, some link⟩

def Label.ofLink : Label → Bool
  | .join | .write .. | .read | .readError _ => true
  | _ => false

theorem step_onLink {p : Publication} {s : Subscription} {link : Link} (hl : label.ofLink = true)
    (hs : step ⟨p, s, some link⟩ label = some v) : OnLink p s link label v := by
  cases label with
  | pub label | sub label | greet setNodelay => cases hl
  | join =>
    obtain ⟨publisherTask, stream, subscriberTask, handles⟩ := link
    cases subscriberTask with
    | some i => cases hs
    | none =>
      obtain ⟨q, hq, hs⟩ := Option.bind_eq_some_iff.mp hs
      split at hs
      · rename_i hlen
        cases hs
        exact .join rfl hq hlen
      · cases hs
  | write result torn =>
    obtain ⟨task, -, hs⟩ := Option.bind_eq_some_iff.mp hs
    obtain ⟨q, hq, hs⟩ := Option.bind_eq_some_iff.mp hs
    cases hs
    exact .write hq
  | read =>
    obtain ⟨i, hi, hs⟩ := Option.bind_eq_some_iff.mp hs
    split at hs
    · obtain ⟨q, hq, hs⟩ := Option.bind_eq_some_iff.mp hs
      cases hs
      exact .read hi hq
    · cases hs
  | readError e =>
    obtain ⟨i, hi, hs⟩ := Option.bind_eq_some_iff.mp hs
    obtain ⟨q, hq, hs⟩ := Option.bind_eq_some_iff.mp hs
    cases hs
    exact .readError hi hq

/-- A step, or none. -/
def Follows (v v' : PubSub) : Prop := v' = v ∨ ∃ label, v.Framed label ∧ v.step label = some v'

theorem Follows.invariant (h : v.Follows v') (hv : v.Invariant) : v'.Invariant := by
  rcases h with rfl | ⟨label, hframed, hs⟩
  · exact hv
  · exact step_invariant hv hframed hs

theorem follows_pub {p q : Publication} {s : Subscription} {link : Option Link}
    {label : Publication.Label} (hs : p.step label = some q)
    (hframed : ∀ m, label = .send m → IsFrame m)
    (hlink : ∀ l ∈ link, l.drivesPublisher label = false) :
    Follows ⟨p, s, link⟩ ⟨q, s, link⟩ := by
  refine .inr ⟨.pub label, ?_, ?_⟩
  · cases label with
    | send m => exact hframed m rfl
    | _ => trivial
  · have hnot : link.any (·.drivesPublisher label) = false := by
      cases link with
      | none => rfl
      | some link => exact hlink link rfl
    simp [step, hnot, hs]

theorem follows_sub {p : Publication} {s q : Subscription} {link : Option Link}
    {label : Subscription.Label} (hs : s.step label = some q)
    (hlink : ∀ l ∈ link, l.drivesSubscriber label = false) :
    Follows ⟨p, s, link⟩ ⟨p, q, link⟩ := by
  refine .inr ⟨.sub label, trivial, ?_⟩
  have hnot : link.any (·.drivesSubscriber label) = false := by
    cases link with
    | none => rfl
    | some link => exact hlink link rfl
  simp [step, hnot, hs]

end PubSub

namespace PubSubNet

variable {net t : PubSubNet} {label : Label}

/-- What each step does, with what it found. -/
inductive Move (net : PubSubNet) : Label → PubSubNet → Prop
  | pub {i : ℕ} {p q : Publication} {label : Publication.Label} :
      net.publications[i]? = some p → p.step label = some q →
      (∀ c ∈ net.connections, c.publication = i → c.link.drivesPublisher label = false) →
      Move net (.pub i label) { net with publications := net.publications.set i q }
  | sub {j : ℕ} {s : NetSubscriber} {q : Subscription} {label : Subscription.Label}
      {connecting : Option ℕ} : net.subscribers[j]? = some s →
      s.subscription.step label = some q →
      (∀ c ∈ net.connections, c.subscriber = j → c.link.drivesSubscriber label = false) →
      (∀ stream header, label = .connect stream →
        connectPublisher s.subscription.header stream ≠ .ok header) →
      Move net (.sub j label) { net with subscribers := net.subscribers.set j ⟨q, connecting⟩ }
  | greet {i j : ℕ} {p q : Publication} {s : NetSubscriber} {setNodelay : Except IoError Unit}
      {connecting : Option ℕ} : net.publications[i]? = some p → net.subscribers[j]? = some s →
      p.step (.setup ⟨.ok s.subscription.header, setNodelay, .ok ()⟩) = some q →
      PubSub.step ⟨p, s.subscription, none⟩ (.greet setNodelay) =
        some ⟨q, s.subscription, some ⟨q.tasks.length, [], none, 0⟩⟩ →
      Move net (.greet i j setNodelay) ⟨net.publications.set i q,
        net.subscribers.set j ⟨s.subscription, connecting⟩,
        net.connections ++ [⟨i, j, ⟨q.tasks.length, [], none, 0⟩⟩]⟩
  | connection {label : Label} {k : ℕ} {c : NetConnection} {p : Publication} {s : NetSubscriber}
      {l : PubSub.Label} {v : PubSub} {link : Link} {connecting : Option ℕ} :
      net.connections[k]? = some c → net.publications[c.publication]? = some p →
      net.subscribers[c.subscriber]? = some s → l.ofLink = true →
      PubSub.step ⟨p, s.subscription, some c.link⟩ l = some v → v.link = some link →
      Move net label ⟨net.publications.set c.publication v.publication,
        net.subscribers.set c.subscriber ⟨v.subscription, connecting⟩,
        net.connections.set k { c with link := link }⟩

theorem stepConnection_move {k : ℕ} {l : PubSub.Label} (hl : l.ofLink = true)
    (hs : net.stepConnection k l = some t) : net.Move label t := by
  obtain ⟨c, hc, hs⟩ := Option.bind_eq_some_iff.mp hs
  obtain ⟨p, hp, hs⟩ := Option.bind_eq_some_iff.mp hs
  obtain ⟨s, hj, hs⟩ := Option.bind_eq_some_iff.mp hs
  obtain ⟨v, hv, hs⟩ := Option.bind_eq_some_iff.mp hs
  obtain ⟨link, hlink, hs⟩ := Option.bind_eq_some_iff.mp hs
  cases hs
  exact .connection hc hp hj hl hv hlink

theorem settle_some {s settled : NetSubscriber} {l : Subscription.Label}
    (hs : s.settle l = some settled) (stream : ConnectIo) (header : PublisherHeader)
    (hl : l = .connect stream) : connectPublisher s.subscription.header stream ≠ .ok header := by
  subst hl
  intro hok
  simp [NetSubscriber.settle, hok] at hs

theorem step_move (hs : net.step label = some t) : net.Move label t := by
  cases label with
  | pub i label =>
    simp only [step] at hs
    split at hs
    · cases hs
    · rename_i hdrives
      obtain ⟨p, hp, hs⟩ := Option.bind_eq_some_iff.mp hs
      obtain ⟨q, hq, hs⟩ := Option.bind_eq_some_iff.mp hs
      cases hs
      exact .pub hp hq (by simpa using hdrives)
  | sub j label =>
    simp only [step] at hs
    split at hs
    · cases hs
    · rename_i hdrives
      obtain ⟨s, hj, hs⟩ := Option.bind_eq_some_iff.mp hs
      obtain ⟨settled, hsettle, hs⟩ := Option.bind_eq_some_iff.mp hs
      obtain ⟨q, hq, hs⟩ := Option.bind_eq_some_iff.mp hs
      cases hs
      exact .sub hj hq (by simpa using hdrives) (settle_some hsettle)
  | greet i j setNodelay =>
    obtain ⟨p, hp, hs⟩ := Option.bind_eq_some_iff.mp hs
    obtain ⟨s, hj, hs⟩ := Option.bind_eq_some_iff.mp hs
    split at hs
    · obtain ⟨v, hv, hs⟩ := Option.bind_eq_some_iff.mp hs
      obtain ⟨link, hlink, hs⟩ := Option.bind_eq_some_iff.mp hs
      cases hs
      have hv' := hv
      simp only [PubSub.step] at hv
      split at hv
      · obtain ⟨q, hq, hv⟩ := Option.bind_eq_some_iff.mp hv
        split at hv <;> cases hv
        cases hlink
        exact .greet hp hj hq hv'
      · cases hv
    · cases hs
  | join j =>
    obtain ⟨s, hj, hs⟩ := Option.bind_eq_some_iff.mp hs
    obtain ⟨k, hk, hs⟩ := Option.bind_eq_some_iff.mp hs
    exact stepConnection_move rfl hs
  | write k result torn | read k | readError k e => exact stepConnection_move rfl hs

/-- What there is to see of the network from a publication and a subscription. -/
inductive Sees (net : PubSubNet) : PubSub → Prop
  | apart {i j : ℕ} {p : Publication} {s : NetSubscriber} : net.publications[i]? = some p →
      net.subscribers[j]? = some s → Sees net ⟨p, s.subscription, none⟩
  | joined {k : ℕ} {c : NetConnection} {p : Publication} {s : NetSubscriber} :
      net.connections[k]? = some c → net.publications[c.publication]? = some p →
      net.subscribers[c.subscriber]? = some s → Sees net ⟨p, s.subscription, some c.link⟩

/-- No two connections share a task. -/
structure ShareNone (c c' : NetConnection) : Prop where
  publisherTask : c.publication = c'.publication → c.link.publisherTask ≠ c'.link.publisherTask
  subscriberTask : c.subscriber = c'.subscriber →
    ∀ i, c.link.subscriberTask = some i → c'.link.subscriberTask ≠ some i

theorem ShareNone.symm {c c' : NetConnection} (h : ShareNone c c') : ShareNone c' c :=
  ⟨fun heq => (h.publisherTask heq.symm).symm,
    fun heq i hi hi' => h.subscriberTask heq.symm i hi' hi⟩

def Framed (_ : PubSubNet) : Label → Prop
  | .pub _ (.send m) => IsFrame m
  | _ => True

section Others

variable {pubs : List Publication} {subs : List NetSubscriber} {i i' j j' : ℕ}
  {p q P' : Publication} {s S' : NetSubscriber} {connecting : Option ℕ} (link : Option Link)

theorem getElem?_of_set_self (hp : pubs[i]? = some p) (hP : (pubs.set i p)[i']? = some P') :
    pubs[i']? = some P' := by
  rcases getElem?_set_cases hP with ⟨rfl, rfl⟩ | ⟨-, hP⟩
  · exact hp
  · exact hP

theorem subscription_of_set (hs : subs[j]? = some s)
    (hS : (subs.set j ⟨s.subscription, connecting⟩)[j']? = some S') :
    ∃ S, subs[j']? = some S ∧ S.subscription = S'.subscription := by
  rcases getElem?_set_cases hS with ⟨rfl, rfl⟩ | ⟨-, hS⟩
  · exact ⟨s, hs, rfl⟩
  · exact ⟨S', hS, rfl⟩

theorem follows_set_pub {label : Publication.Label} (S : Subscription) (hp : pubs[i]? = some p)
    (hq : p.step label = some q) (hframed : ∀ m, label = .send m → IsFrame m)
    (hlink : i' = i → ∀ l ∈ link, l.drivesPublisher label = false)
    (hP : (pubs.set i q)[i']? = some P') :
    ∃ P, pubs[i']? = some P ∧ PubSub.Follows ⟨P, S, link⟩ ⟨P', S, link⟩ := by
  rcases getElem?_set_cases hP with ⟨rfl, rfl⟩ | ⟨-, hP⟩
  · exact ⟨p, hp, PubSub.follows_pub hq hframed (hlink rfl)⟩
  · exact ⟨P', hP, .inl rfl⟩

theorem follows_set_sub {label : Subscription.Label} {q : Subscription} (P : Publication)
    (hs : subs[j]? = some s) (hq : s.subscription.step label = some q)
    (hlink : j' = j → ∀ l ∈ link, l.drivesSubscriber label = false)
    (hS : (subs.set j ⟨q, connecting⟩)[j']? = some S') : ∃ S, subs[j']? = some S ∧
      PubSub.Follows ⟨P, S.subscription, link⟩ ⟨P, S'.subscription, link⟩ := by
  rcases getElem?_set_cases hS with ⟨rfl, rfl⟩ | ⟨-, hS⟩
  · exact ⟨s, hs, PubSub.follows_sub hq (hlink rfl)⟩
  · exact ⟨S', hS, .inl rfl⟩

/-- To the others, a step of a connection is one of the publication or the subscription. -/
theorem follows_connection {c : NetConnection} {l : PubSub.Label} {v : PubSub}
    (hp : pubs[i]? = some p) (hs : subs[j]? = some s)
    (hv : PubSub.OnLink p s.subscription c.link l v)
    (hpub : i' = i → ∀ l ∈ link, l.publisherTask ≠ c.link.publisherTask)
    (hsub : j' = j → ∀ l ∈ link, ∀ n, c.link.subscriberTask = some n → l.subscriberTask ≠ some n)
    (hP : (pubs.set i v.publication)[i']? = some P')
    (hS : (subs.set j ⟨v.subscription, connecting⟩)[j']? = some S') :
    ∃ P S, pubs[i']? = some P ∧ subs[j']? = some S ∧
      PubSub.Follows ⟨P, S.subscription, link⟩ ⟨P', S'.subscription, link⟩ := by
  cases hv with
  | join hnone hq hlen =>
    have hP := getElem?_of_set_self hp hP
    obtain ⟨S, hS, hfollows⟩ := follows_set_sub link P' hs hq (fun _ _ _ => rfl) hS
    exact ⟨P', S, hP, hS, hfollows⟩
  | @write q task result torn hq =>
    have hsend (m : Bytes) (hm : PubSub.writeLabel c.link.publisherTask task result = .send m) :
        IsFrame m := by
      unfold PubSub.writeLabel at hm
      split at hm <;> cases hm
    have hdrives (hi : i' = i) (l : Link) (hl : l ∈ link) :
        l.drivesPublisher (PubSub.writeLabel c.link.publisherTask task result) = false := by
      have hne := hpub hi l hl
      unfold PubSub.writeLabel
      split <;> simpa [Link.drivesPublisher] using hne.symm
    obtain ⟨S, hS, heq⟩ := subscription_of_set hs hS
    obtain ⟨P, hP, hfollows⟩ := follows_set_pub link S.subscription hp hq hsend hdrives hP
    exact ⟨P, S, hP, hS, heq ▸ hfollows⟩
  | @read q n frame rest hn hq | @readError q n e hn hq =>
    have hdrives (hj : j' = j) (l : Link) (hl : l ∈ link) :
        (l.subscriberTask == some n) = false := by
      simpa using hsub hj l hl n hn
    have hP := getElem?_of_set_self hp hP
    obtain ⟨S, hS, hfollows⟩ := follows_set_sub link P' hs hq hdrives hS
    exact ⟨P', S, hP, hS, hfollows⟩

end Others

/-- What there is to see after a step follows from what there was to see. -/
theorem Move.sees {v' : PubSub} (h : Apart ShareNone net.connections)
    (hs : net.Move label t)
    (hframed : net.Framed label) (hv : t.Sees v') : ∃ v, net.Sees v ∧ v.Follows v' := by
  cases hs with
  | @pub i p q label hp hq hdrives =>
    have hsend (m : Bytes) (hm : label = .send m) : IsFrame m := by
      subst hm
      exact hframed
    cases hv with
    | apart hP hS =>
      obtain ⟨P, hP, hfollows⟩ := follows_set_pub none _ hp hq hsend (fun _ _ hl => by cases hl) hP
      exact ⟨_, .apart hP hS, hfollows⟩
    | @joined k c P' S hc hP hS =>
      have hlink (hi : c.publication = i) (l : Link) (hl : l ∈ some c.link) :
          l.drivesPublisher label = false := by
        cases hl
        exact hdrives c (List.mem_of_getElem? hc) hi
      obtain ⟨P, hP, hfollows⟩ := follows_set_pub (some c.link) _ hp hq hsend hlink hP
      exact ⟨_, .joined hc hP hS, hfollows⟩
  | @sub j s q label connecting hj hq hdrives hconnect =>
    cases hv with
    | apart hP hS =>
      obtain ⟨S, hS, hfollows⟩ := follows_set_sub none _ hj hq (fun _ _ hl => by cases hl) hS
      exact ⟨_, .apart hP hS, hfollows⟩
    | @joined k c P S' hc hP hS =>
      have hlink (hi : c.subscriber = j) (l : Link) (hl : l ∈ some c.link) :
          l.drivesSubscriber label = false := by
        cases hl
        exact hdrives c (List.mem_of_getElem? hc) hi
      obtain ⟨S, hS, hfollows⟩ := follows_set_sub (some c.link) _ hj hq hlink hS
      exact ⟨_, .joined hc hP hS, hfollows⟩
  | @greet i j p q s setNodelay connecting hp hj hq hgreet =>
    cases hv with
    | apart hP hS =>
      obtain ⟨S, hS, heq⟩ := subscription_of_set hj hS
      obtain ⟨P, hP, hfollows⟩ := follows_set_pub none S.subscription hp hq (by simp)
        (fun _ _ _ => rfl) hP
      exact ⟨_, .apart hP hS, heq ▸ hfollows⟩
    | @joined k c P' S' hc hP hS =>
      rcases getElem?_concat_cases hc with hc | ⟨rfl, rfl⟩
      · obtain ⟨S, hS, heq⟩ := subscription_of_set hj hS
        obtain ⟨P, hP, hfollows⟩ := follows_set_pub (some c.link) S.subscription hp hq (by simp)
          (fun _ _ _ => rfl) hP
        exact ⟨_, .joined hc hP hS, heq ▸ hfollows⟩
      · -- the new connection joins what was apart
        cases (getElem?_set_of_some hp).symm.trans hP
        cases (getElem?_set_of_some hj).symm.trans hS
        exact ⟨_, .apart hp hj, .inr ⟨.greet setNodelay, trivial, hgreet⟩⟩
  | @connection _ k c p s l v link connecting hc hp hj hl hv' hlink =>
    have hon := PubSub.step_onLink hl hv'
    cases hv with
    | apart hP hS =>
      obtain ⟨P, S, hP, hS, hfollows⟩ := follows_connection none hp hj hon
        (fun _ _ hl => by cases hl) (fun _ _ hl => by cases hl) hP hS
      exact ⟨_, .apart hP hS, hfollows⟩
    | @joined k' c' P' S' hc' hP hS =>
      rcases getElem?_set_cases hc' with ⟨rfl, rfl⟩ | ⟨hne, hc'⟩
      · cases (getElem?_set_of_some hp).symm.trans hP
        cases (getElem?_set_of_some hj).symm.trans hS
        refine ⟨_, .joined hc hp hj, .inr ⟨l, ?_, ?_⟩⟩
        · cases l with
          | pub label => cases hl
          | _ => trivial
        · rw [hv', ← hlink]
      · have hpub (hi : c'.publication = c.publication) (l : Link) (hl : l ∈ some c'.link) :
            l.publisherTask ≠ c.link.publisherTask := by
          cases hl
          exact (h _ _ _ _ hc' hc hne).publisherTask hi
        have hsub (hi : c'.subscriber = c.subscriber) (l : Link) (hl : l ∈ some c'.link) (n : ℕ)
            (hn : c.link.subscriberTask = some n) : l.subscriberTask ≠ some n := by
          cases hl
          exact (h _ _ _ _ hc hc' hne.symm).subscriberTask hi.symm n hn
        obtain ⟨P, S, hP, hS, hfollows⟩ :=
          follows_connection (some c'.link) hp hj hon hpub hsub hP hS
        exact ⟨_, .joined hc' hP hS, hfollows⟩

end PubSubNet

end RosrustAsync
