import RosrustAsync.PubSub
import RosrustAsync.PublicationOrder
import RosrustAsync.SubscriptionOrder

namespace RosrustAsync

open Runs

/-- What a write that failed leaves behind the whole frames. -/
def Torn (b : Bytes) : Prop :=
  ∃ payload, payload.length < 2 ^ 32 ∧ b <+: frame payload ∧ b ≠ frame payload

theorem torn_nil : Torn [] := ⟨[], by decide, by decide, by decide⟩

theorem IsFrame.torn {m : Bytes} (h : IsFrame m) (n : ℕ) : Torn (m.dropLast.take n) := by
  obtain ⟨payload, hp, rfl⟩ := h
  have hprefix := (List.take_prefix n (frame payload).dropLast).trans (List.dropLast_prefix _)
  refine ⟨payload, hp, hprefix, fun heq => ?_⟩
  have hlen := congrArg List.length heq
  have hpos : 0 < (frame payload).length := by
    rw [frame, List.length_append, le32_length]
    omega
  rw [List.length_take, List.length_dropLast] at hlen
  omega

namespace Publication

theorem taskWrite_written {task task' : PublisherTask} {result : Except IoError Unit} {torn : ℕ}
    {data : Broadcast Bytes} (hm : ∀ m ∈ task.latchedMessage, IsFrame m)
    (hs : taskWrite task result = some task') : ∃ new rest, task'.written = task.written ++ new ∧
      PubSub.written (PubSub.outgoing data task) torn result = new.flatten ++ rest ∧ Torn rest ∧
        (task'.running → rest = []) := by
  unfold taskWrite at hs
  split at hs
  · rename_i m hlatched
    have hout : PubSub.outgoing data task = m := by simp [PubSub.outgoing, hlatched]
    rw [hout]
    cases result with
    | ok _ =>
      cases hs
      exact ⟨[m], [], rfl, by simp [PubSub.written], torn_nil, fun _ => rfl⟩
    | error _ =>
      cases hs
      exact ⟨[], m.dropLast.take torn, by simp, rfl, (hm m hlatched).torn torn,
        (fun h => nomatch h)⟩
  · cases hs

theorem taskRecv_written {task task' : PublisherTask} {result : Except IoError Unit} {torn : ℕ}
    {data : Broadcast Bytes} (hm : ∀ m ∈ data.sent, IsFrame m)
    (hs : taskRecv data task result = some task') :
    ∃ new rest, task'.written = task.written ++ new ∧
      PubSub.written (PubSub.outgoing data task) torn result = new.flatten ++ rest ∧ Torn rest ∧
        (task'.running → rest = []) := by
  unfold taskRecv at hs
  split at hs
  · cases hs
  · rename_i hnone
    obtain ⟨⟨received, next⟩, hrecv, hs⟩ := Option.bind_eq_some_iff.mp hs
    cases received with
    | value m =>
      have hout : PubSub.outgoing data task = m := by simp [PubSub.outgoing, hnone, hrecv]
      rw [hout]
      cases result with
      | ok _ =>
        cases hs
        exact ⟨[m], [], rfl, by simp [PubSub.written], torn_nil, fun _ => rfl⟩
      | error _ =>
        cases hs
        have hmem := List.mem_of_getElem? (Broadcast.recv_value hrecv).1
        exact ⟨[], m.dropLast.take torn, by simp, rfl, (hm m hmem).torn torn, (fun h => nomatch h)⟩
    | lagged missed | closed =>
      cases hs
      have hout : PubSub.outgoing data task = [] := by simp [PubSub.outgoing, hnone, hrecv]
      rw [hout]
      exact ⟨[], [], by simp, by cases result <;> simp [PubSub.written], torn_nil, fun _ => rfl⟩

end Publication

namespace Subscription

/-- The handles there were before a task have none of its messages but those of the channel. -/
def Fresh (s : Subscription) (i handles : ℕ) : Prop := ∀ n < handles,
  ∃ handle, s.handles[n]? = some handle ∧ framesOf i handle.snapshot = [] ∧
    framesOf i (s.data.sent.take handle.joined) = []

/-- What a task has passed on, against what it has read. -/
structure Reading (s : Subscription) (i : ℕ) (read : List Bytes) : Prop where
  passed : (framesOf i s.data.sent).map Frame.data <+: read
  connected : ∃ task, s.tasks[i]? = some task ∧
    (connected task → (framesOf i s.data.sent).map Frame.data = read)

theorem fresh_connect {s : Subscription} (h : s.Ordered) :
    s.Fresh s.tasks.length s.handles.length := by
  intro n hn
  have hnone : ∀ frames : List Frame, (∀ frame ∈ frames, frame ∈ s.data.sent) →
      framesOf s.tasks.length frames = [] := by
    intro frames hsub
    rw [framesOf, List.filter_eq_nil_iff]
    intro frame hf heq
    exact Nat.ne_of_lt (h.task_lt frame (hsub frame hf)) (beq_iff_eq.mp heq)
  have hhandle := h.handles _ (List.getElem_mem hn)
  refine ⟨_, List.getElem?_eq_getElem hn, hnone _ ?_, hnone _ ?_⟩
  · exact fun frame hf => mem_of_framesOf_sublist hhandle.snapshot hf
  · exact fun frame hf => List.mem_of_mem_take hf

theorem Fresh.move {s s' : Subscription} {label : Label} {i handles : ℕ} (h : s.Fresh i handles)
    (ho : s.Ordered) (hs : s.Move label s') : s'.Fresh i handles := by
  intro n hn
  obtain ⟨handle, hh, hsnapshot, htake⟩ := h n hn
  obtain ⟨handle', hh', hjoined, hsnapshot'⟩ := hs.exists_handle hh
  refine ⟨handle', hh', by rw [hsnapshot']; exact hsnapshot, ?_⟩
  have hle := (ho.handles _ (List.mem_of_getElem? hh)).joined_le
  rw [hjoined]
  rcases hs.data_eq with hdata | ⟨j, data, -, hdata⟩
  · rw [hdata]
    exact htake
  · rw [hdata, Broadcast.send, List.take_append_of_le_length hle]
    exact htake

theorem Reading.move {s s' : Subscription} {label : Label} {i : ℕ} {read : List Bytes}
    (h : s.Reading i read) (hs : s.Move label s') (hl : ∀ data, label ≠ .taskRead i (.ok data)) :
    s'.Reading i read := by
  obtain ⟨hpassed, task, ht, hconnected⟩ := h
  obtain ⟨task', ht', hc⟩ := hs.exists_task ht
  have hsent : framesOf i s'.data.sent = framesOf i s.data.sent := by
    rcases hs.data_eq with hdata | ⟨j, data, rfl, hdata⟩
    · rw [hdata]
    · have hne : j ≠ i := by
        rintro rfl
        exact hl data rfl
      rw [hdata, Broadcast.send, framesOf_append, framesOf_of_ne data hne, List.append_nil]
  exact ⟨by rw [hsent]; exact hpassed, task', ht', fun h => by rw [hsent]; exact hconnected (hc h)⟩

theorem Reading.read {s s' : Subscription} {i : ℕ} {data : Bytes} {read : List Bytes}
    (h : s.Reading i read) (hs : s.Move (.taskRead i (.ok data)) s') :
    s'.Reading i (read ++ [data]) := by
  obtain ⟨-, task, ht, hconnected⟩ := h
  cases hs with
  | @read i task' data hi hpc =>
    rw [hi] at ht
    cases ht
    have hread := hconnected (by simp [Subscription.connected, hpc])
    have hsent : (framesOf i (s.data.send ⟨i, data⟩).sent).map Frame.data = read ++ [data] := by
      rw [Broadcast.send, framesOf_append, framesOf_self, List.map_append, hread]
      rfl
    exact ⟨by rw [hsent], _, getElem?_set_of_some hi, fun _ => hsent⟩
  | @readClosed i task' data hi hpc hclosed =>
    rw [hi] at ht
    cases ht
    have hread := hconnected (by simp [Subscription.connected, hpc])
    exact ⟨by rw [hread]; exact List.prefix_append _ _, _, getElem?_set_of_some hi,
      (by rintro ⟨⟩)⟩

end Subscription

namespace PubSub

def Framed (_ : PubSub) : Label → Prop
  | .pub (.send m) => IsFrame m
  | _ => True

/-- What the publisher task of a connection has written, what has been read and what has not. -/
structure Carried (p : Publication) (link : Link) (read unread : List Bytes) (torn : Bytes) :
    Prop where
  stream : link.stream = unread.flatten ++ torn
  rest : Torn torn
  task : ∃ task, p.slots[link.publisherTask]? = some task ∧ task.written = read ++ unread ∧
    (task.running → torn = [])

structure Joined (s : PubSub) (link : Link) (read : List Bytes) : Prop where
  carried : ∃ unread torn, Carried s.publication link read unread torn
  waiting : link.subscriberTask = none → read = []
  reading : ∀ i, link.subscriberTask = some i →
    s.subscription.Reading i read ∧ s.subscription.Fresh i link.handles

structure Invariant (s : PubSub) : Prop where
  frames : ∀ m ∈ s.publication.data.sent, IsFrame m
  publication : s.publication.Ordered
  subscription : s.subscription.Ordered
  link : ∀ link, s.link = some link → ∃ read, Joined s link read

theorem Carried.move {p q : Publication} {label : Publication.Label} {link : Link}
    {read unread : List Bytes} {torn : Bytes} (h : Carried p link read unread torn)
    (hs : p.Move label q) (hl : link.drivesPublisher label = false) :
    Carried q link read unread torn := by
  obtain ⟨hstream, hrest, task, ht, hwritten, hrunning⟩ := h
  have hwrite : ∀ result, label ≠ .taskWrite link.publisherTask result := by
    rintro result rfl
    simp [Link.drivesPublisher] at hl
  have hrecv : ∀ result, label ≠ .taskRecv link.publisherTask result := by
    rintro result rfl
    simp [Link.drivesPublisher] at hl
  obtain ⟨task', ht', hwritten', hr⟩ := hs.exists_slot ht hwrite hrecv
  exact ⟨hstream, hrest, task', ht', hwritten'.trans hwritten, fun h => hrunning (hr h)⟩

theorem frame_of_latched {p : Publication} (hframes : ∀ m ∈ p.data.sent, IsFrame m)
    {task : PublisherTask} (ht : task.Ordered p.data) :
    (∀ m ∈ task.written, IsFrame m) ∧ ∀ m ∈ task.latchedMessage, IsFrame m := by
  have hsub : ∀ m ∈ task.written ++ task.latchedMessage.toList, IsFrame m := by
    intro m hm
    exact hframes m (List.mem_of_mem_take (ht.sublist.subset hm))
  refine ⟨fun m hm => hsub m (List.mem_append_left _ hm), fun m hm => hsub m ?_⟩
  exact List.mem_append_right _ (Option.mem_toList.mpr hm)

theorem write_written {p q : Publication} (hframes : ∀ m ∈ p.data.sent, IsFrame m)
    {k : ℕ} {task : PublisherTask} (hk : p.tasks[k]? = some task) (ho : task.Ordered p.data)
    {result : Except IoError Unit} (hs : p.Move (writeLabel k task result) q) (torn : ℕ) :
    task.running ∧ ∃ task' new rest, q.tasks[k]? = some task' ∧
      task'.written = task.written ++ new ∧
      written (outgoing p.data task) torn result = new.flatten ++ rest ∧ Torn rest ∧
        (task'.running → rest = []) := by
  unfold writeLabel at hs
  split at hs
  · cases hs with
    | taskWrite hi hr hw =>
      rw [hk] at hi
      cases hi
      obtain ⟨new, rest, h⟩ := Publication.taskWrite_written (frame_of_latched hframes ho).2 hw
      exact ⟨hr, _, new, rest, getElem?_set_of_some hk, h⟩
  · cases hs with
    | taskRecv hi hr hw =>
      rw [hk] at hi
      cases hi
      obtain ⟨new, rest, h⟩ := Publication.taskRecv_written hframes hw
      exact ⟨hr, _, new, rest, getElem?_set_of_some hk, h⟩

theorem Carried.write {p q : Publication} {link : Link} {read unread : List Bytes} {torn : Bytes}
    (h : Carried p link read unread torn) (hframes : ∀ m ∈ p.data.sent, IsFrame m)
    (ho : p.Ordered) {task : PublisherTask} (hk : p.tasks[link.publisherTask]? = some task)
    {result : Except IoError Unit} (hs : p.Move (writeLabel link.publisherTask task result) q)
    (n : ℕ) : ∃ unread' torn', Carried q
      { link with stream := link.stream ++ written (outgoing p.data task) n result }
      read unread' torn' := by
  obtain ⟨hstream, hrest, task₀, ht, hwritten, hrunning⟩ := h
  rw [Publication.slots_of_tasks hk] at ht
  cases ht
  have htask := ho.tasks task (Publication.mem_allTasks (List.mem_of_getElem? hk))
  obtain ⟨hr, task', new, rest, ht', hw, hbytes, hnew, hr'⟩ := write_written hframes hk htask hs n
  -- a task that still runs has left nothing torn
  rw [hrunning hr, List.append_nil] at hstream
  refine ⟨unread ++ new, rest, ?_, hnew, task', Publication.slots_of_tasks ht', ?_, hr'⟩
  · simp only [hstream, hbytes, List.flatten_append, List.append_assoc]
  · rw [hw, hwritten, List.append_assoc]

theorem Carried.read {p : Publication} {link : Link} {read unread : List Bytes} {torn : Bytes}
    (h : Carried p link read unread torn) (hframes : ∀ m ∈ p.data.sent, IsFrame m)
    (ho : p.Ordered) {m : Bytes} {rest : List Bytes}
    (hread : readTcprosFrame [link.stream] = .ok (m, rest)) :
    ∃ unread', Carried p { link with stream := rest.flatten } (read ++ [m]) unread' torn := by
  obtain ⟨hstream, ⟨payload, hp, hprefix, hne⟩, task, ht, hwritten, hrunning⟩ := h
  cases unread with
  | nil =>
    have hcs : [link.stream].flatten = torn := by simp [hstream]
    rw [readTcprosFrame_eof hp (hcs ▸ hprefix) (hcs ▸ hne)] at hread
    cases hread
  | cons first unread =>
    have htask := ho.tasks task (Publication.mem_allTasks_of_slot ht)
    have hmem : first ∈ task.written := by simp [hwritten]
    obtain ⟨payload', hp', rfl⟩ := (frame_of_latched hframes htask).1 first hmem
    have hcs : [link.stream].flatten = frame payload' ++ (unread.flatten ++ torn) := by
      simp [hstream]
    obtain ⟨ds, hok, hds⟩ := readTcprosFrame_frame hp' hcs
    rw [hok] at hread
    cases hread
    refine ⟨unread, hds, ⟨payload, hp, hprefix, hne⟩, task, ht, ?_, hrunning⟩
    rw [hwritten, List.append_assoc]
    rfl

theorem Invariant.pub {s : PubSub} {p : Publication} {label : Publication.Label} (h : s.Invariant)
    (hs : s.publication.Move label p) (hframes : ∀ m, label = .send m → IsFrame m)
    (hl : ∀ link, s.link = some link → link.drivesPublisher label = false) :
    Invariant { s with publication := p } := by
  refine ⟨fun m hm => ?_, h.publication.move hs, h.subscription, fun link hlink => ?_⟩
  · rcases hs.mem_sent hm with hm | hm
    · exact h.frames m hm
    · exact hframes m hm
  · obtain ⟨read, ⟨unread, torn, hcarried⟩, hwaiting, hreading⟩ := h.link link hlink
    exact ⟨read, ⟨unread, torn, hcarried.move hs (hl link hlink)⟩, hwaiting, hreading⟩

theorem Invariant.sub {s : PubSub} {q : Subscription} {label : Subscription.Label} (h : s.Invariant)
    (hs : s.subscription.Move label q)
    (hl : ∀ link i data, s.link = some link → link.subscriberTask = some i →
      label ≠ .taskRead i (.ok data)) : Invariant { s with subscription := q } := by
  refine ⟨h.frames, h.publication, h.subscription.move hs, fun link hlink => ?_⟩
  obtain ⟨read, hcarried, hwaiting, hreading⟩ := h.link link hlink
  refine ⟨read, hcarried, hwaiting, fun i hi => ?_⟩
  obtain ⟨hread, hfresh⟩ := hreading i hi
  exact ⟨hread.move hs (hl link i · hlink hi), hfresh.move h.subscription hs⟩

theorem Invariant.greet {s : PubSub} {p : Publication} {label : Publication.Label}
    {task : PublisherTask} (h : s.Invariant) (hs : s.publication.Move label p)
    (hsend : ∀ m, label ≠ .send m) (hpc : p.pc = .register task) (hwritten : task.written = []) :
    Invariant { s with publication := p, link := some ⟨p.tasks.length, [], none, 0⟩ } := by
  have hframes : ∀ m, label = .send m → IsFrame m := fun m hm => absurd hm (hsend m)
  refine ⟨fun m hm => ?_, h.publication.move hs, h.subscription, fun link hlink => ?_⟩
  · rcases hs.mem_sent hm with hm | hm
    · exact h.frames m hm
    · exact hframes m hm
  · cases hlink
    have hslot : p.slots[p.tasks.length]? = some task := by simp [Publication.slots, hpc]
    refine ⟨[], ⟨[], [], rfl, torn_nil, task, hslot, hwritten, fun _ => rfl⟩, fun _ => rfl, ?_⟩
    rintro i ⟨⟩

theorem Invariant.join {s : PubSub} {q : Subscription} {stream : ConnectIo} {link : Link}
    (h : s.Invariant) (hlink : s.link = some link) (hwaiting : link.subscriberTask = none)
    (hs : s.subscription.Move (.connect stream) q)
    (hlen : q.tasks.length = s.subscription.tasks.length + 1) :
    Invariant { s with
      subscription := q
      link := some { link with
        subscriberTask := some s.subscription.tasks.length
        handles := s.subscription.handles.length } } := by
  refine ⟨h.frames, h.publication, h.subscription.move hs, fun link' hlink' => ?_⟩
  cases hlink'
  obtain ⟨read, ⟨unread, torn, hstream, hrest, htask⟩, hnil, -⟩ := h.link link hlink
  obtain rfl := hnil hwaiting
  refine ⟨[], ⟨unread, torn, hstream, hrest, htask⟩, (fun h => nomatch h), fun i hi => ?_⟩
  cases hi
  refine ⟨?_, (Subscription.fresh_connect h.subscription).move h.subscription hs⟩
  have hnone : framesOf s.subscription.tasks.length s.subscription.data.sent = [] := by
    rw [framesOf, List.filter_eq_nil_iff]
    intro frame hf heq
    exact Nat.ne_of_lt (h.subscription.task_lt frame hf) (beq_iff_eq.mp heq)
  have hdata : q.data = s.subscription.data := by
    rcases hs.data_eq with hdata | ⟨j, data, hl, -⟩
    · exact hdata
    · cases hl
  have htask : ∃ task, q.tasks[s.subscription.tasks.length]? = some task :=
    ⟨_, List.getElem?_eq_getElem (by omega)⟩
  obtain ⟨task, htask⟩ := htask
  rw [← hdata] at hnone
  exact ⟨by rw [hnone]; exact List.nil_prefix, task, htask, fun _ => by rw [hnone]; rfl⟩

theorem step_invariant {s t : PubSub} {label : Label} (h : s.Invariant) (hok : s.Framed label)
    (hs : s.step label = some t) : t.Invariant := by
  cases label with
  | pub label =>
    simp only [step] at hs
    split at hs
    · cases hs
    · rename_i hdrives
      obtain ⟨p, hp, hs⟩ := Option.bind_eq_some_iff.mp hs
      cases hs
      refine h.pub (Publication.step_move hp) (fun m hm => ?_) fun link hlink => ?_
      · subst hm
        exact hok
      · simpa [hlink] using hdrives
  | sub label =>
    simp only [step] at hs
    split at hs
    · cases hs
    · rename_i hdrives
      obtain ⟨q, hq, hs⟩ := Option.bind_eq_some_iff.mp hs
      cases hs
      refine h.sub (Subscription.step_move hq) fun link i data hlink hi => ?_
      rintro rfl
      simp [hlink, hi, Link.drivesSubscriber] at hdrives
  | greet setNodelay =>
    simp only [step] at hs
    split at hs
    · obtain ⟨p, hp, hs⟩ := Option.bind_eq_some_iff.mp hs
      split at hs
      · rename_i task hpc
        cases hs
        have hmove := Publication.step_move hp
        have hwritten : task.written = [] := by
          cases hmove with
          | setup hpc' hsetup => cases hpc; rfl
          | setupError hpc' hsetup => cases hpc
        exact h.greet hmove (by simp) hpc hwritten
      · cases hs
    · cases hs
  | join =>
    simp only [step] at hs
    split at hs
    · rename_i k stream handles hlink
      obtain ⟨q, hq, hs⟩ := Option.bind_eq_some_iff.mp hs
      split at hs
      · rename_i hlen
        cases hs
        exact h.join hlink rfl (Subscription.step_move hq) hlen
      · cases hs
    · cases hs
  | write result torn =>
    obtain ⟨link, hlink, hs⟩ := Option.bind_eq_some_iff.mp hs
    obtain ⟨task, hk, hs⟩ := Option.bind_eq_some_iff.mp hs
    obtain ⟨p, hp, hs⟩ := Option.bind_eq_some_iff.mp hs
    cases hs
    have hmove := Publication.step_move hp
    refine ⟨fun m hm => ?_, h.publication.move hmove, h.subscription, fun link' hlink' => ?_⟩
    · rcases hmove.mem_sent hm with hm | hm
      · exact h.frames m hm
      · unfold writeLabel at hm
        split at hm <;> cases hm
    · cases hlink'
      obtain ⟨read, ⟨unread, torn', hcarried⟩, hwaiting, hreading⟩ := h.link link hlink
      exact ⟨read, hcarried.write h.frames h.publication hk hmove torn, hwaiting, hreading⟩
  | read =>
    obtain ⟨link, hlink, hs⟩ := Option.bind_eq_some_iff.mp hs
    obtain ⟨i, hi, hs⟩ := Option.bind_eq_some_iff.mp hs
    split at hs
    · rename_i m rest hread
      obtain ⟨q, hq, hs⟩ := Option.bind_eq_some_iff.mp hs
      cases hs
      have hmove := Subscription.step_move hq
      refine ⟨h.frames, h.publication, h.subscription.move hmove, fun link' hlink' => ?_⟩
      cases hlink'
      obtain ⟨read, ⟨unread, torn, hcarried⟩, hwaiting, hreading⟩ := h.link link hlink
      obtain ⟨unread', hcarried'⟩ := hcarried.read h.frames h.publication hread
      refine ⟨read ++ [m], ⟨unread', torn, hcarried'⟩, ?_, fun j hj => ?_⟩
      · intro hnone
        rw [hi] at hnone
        cases hnone
      · obtain ⟨hreading, hfresh⟩ := hreading j hj
        rw [hi] at hj
        cases hj
        exact ⟨hreading.read hmove, hfresh.move h.subscription hmove⟩
    · cases hs
  | readError e =>
    obtain ⟨link, hlink, hs⟩ := Option.bind_eq_some_iff.mp hs
    obtain ⟨i, hi, hs⟩ := Option.bind_eq_some_iff.mp hs
    obtain ⟨q, hq, hs⟩ := Option.bind_eq_some_iff.mp hs
    cases hs
    exact h.sub (Subscription.step_move hq) (by simp)

theorem ofPubSub_invariant {topic topic' : Topic} {callerId callerId' : String}
    {queueSize queueSize' : ℕ} {tcpNodelay tcpNodelay' latching : Bool} {p : Publication}
    {s : Subscription} (hp : Publication.new topic callerId queueSize tcpNodelay latching = some p)
    (hs : Subscription.new topic' callerId' queueSize' tcpNodelay' = some s) :
    (ofPubSub p s).Invariant := by
  refine ⟨fun m hm => ?_, Publication.new_ordered hp, Subscription.new_ordered hs,
    fun link hlink => nomatch hlink⟩
  obtain ⟨data, hdata, h⟩ := Option.bind_eq_some_iff.mp hp
  obtain ⟨-, hsent, -⟩ := Broadcast.channel_eq_some hdata
  cases h
  simp [ofPubSub, hsent] at hm

/-- The connection is open, its publisher task has not lagged, and nothing is on its way. -/
structure Drained (s : PubSub) (link : Link) (task : PublisherTask) (handle : SubscriberHandle) :
    Prop where
  publisherTask : s.publication.tasks[link.publisherTask]? = some task
  running : task.running
  laggedAt : task.laggedAt = none
  latchedMessage : task.latchedMessage = none
  dataRx : task.dataRx = s.publication.data.tail
  stream : link.stream = []
  subscriberTask : ∀ i ∈ link.subscriberTask, ∃ t, s.subscription.tasks[i]? = some t ∧
    Subscription.connected t
  lagged : handle.lagged = false
  latchedMsgs : handle.latchedMsgs = []
  handleRx : handle.dataRx = s.subscription.data.tail

theorem Carried.drained {p : Publication} {link : Link} {read unread : List Bytes} {torn : Bytes}
    (h : Carried p link read unread torn) (hframes : ∀ m ∈ p.data.sent, IsFrame m)
    (ho : p.Ordered) (hstream : link.stream = []) {task : PublisherTask}
    (ht : p.slots[link.publisherTask]? = some task) : task.written = read := by
  obtain ⟨hbytes, -, task₀, ht₀, hwritten, -⟩ := h
  rw [ht] at ht₀
  cases ht₀
  have htask := ho.tasks task (Publication.mem_allTasks_of_slot ht)
  cases unread with
  | nil => rw [hwritten, List.append_nil]
  | cons m unread =>
    obtain ⟨payload, -, rfl⟩ := (frame_of_latched hframes htask).1 m (by simp [hwritten])
    rw [hstream, frame] at hbytes
    simp [le32] at hbytes

theorem Invariant.sublist {s : PubSub} (h : s.Invariant) {link : Link} (hlink : s.link = some link)
    {i : ℕ} (hi : link.subscriberTask = some i) {handle : SubscriberHandle}
    (hh : handle ∈ s.subscription.handles) :
    ((framesOf i handle.got).map Frame.data).Sublist s.publication.data.sent := by
  obtain ⟨read, ⟨unread, torn, -, -, task, ht, hwritten, -⟩, -, hreading⟩ := h.link link hlink
  have htask := h.publication.tasks task (Publication.mem_allTasks_of_slot ht)
  have hgot : (framesOf i handle.got).Sublist (framesOf i s.subscription.data.sent) :=
    (framesOf_sublist i (List.sublist_append_left _ _)).trans
      (((h.subscription.handles handle hh).ordered i).trans
        (framesOf_sublist i (List.take_sublist _ _)))
  have hread : read.Sublist (task.written ++ task.latchedMessage.toList) := by
    rw [hwritten, List.append_assoc]
    exact List.sublist_append_left _ _
  exact (hgot.map Frame.data).trans ((hreading i hi).1.passed.sublist.trans
    (hread.trans (htask.sublist.trans (List.take_sublist _ _))))

theorem Invariant.complete {s : PubSub} (h : s.Invariant) {link : Link} (hlink : s.link = some link)
    {i : ℕ} (hi : link.subscriberTask = some i) {n : ℕ} {handle : SubscriberHandle}
    (hn : n < link.handles) (hh : s.subscription.handles[n]? = some handle) {task : PublisherTask}
    (hd : s.Drained link task handle) :
    s.publication.data.sent.drop task.joined <:+ (framesOf i handle.got).map Frame.data := by
  obtain ⟨read, ⟨unread, torn, hcarried⟩, -, hreading⟩ := h.link link hlink
  obtain ⟨⟨-, t, ht, hconnected⟩, hfresh⟩ := hreading i hi
  obtain ⟨t', ht', hc⟩ := hd.subscriberTask i hi
  rw [ht] at ht'
  cases ht'
  have hwritten := hcarried.drained h.frames h.publication hd.stream
    (Publication.slots_of_tasks hd.publisherTask)
  -- the handle has all that its task has passed on
  obtain ⟨handle', hh', hsnapshot, htake⟩ := hfresh n hn
  rw [hh] at hh'
  cases hh'
  have hstream := (h.subscription.handles handle (List.mem_of_getElem? hh)).stream hd.lagged
  rw [hd.latchedMsgs, hd.handleRx, Broadcast.tail, List.drop_length, List.append_nil,
    List.append_nil] at hstream
  have hgot : framesOf i handle.got = framesOf i s.subscription.data.sent := by
    rw [hstream, framesOf_append, hsnapshot, List.nil_append,
      ← List.take_append_drop handle.joined s.subscription.data.sent, framesOf_append, htake]
    simp
  rw [hgot, hconnected hc, ← hwritten]
  have htask := h.publication.tasks task
    (Publication.mem_allTasks (List.mem_of_getElem? hd.publisherTask))
  obtain ⟨-, hwindow⟩ := htask.complete hd.running hd.laggedAt
  rwa [hd.latchedMessage, hd.dataRx, Option.toList_none, List.append_nil, Broadcast.window,
    Broadcast.tail, List.take_length] at hwindow

theorem message_order {topic topic' : Topic} {callerId callerId' : String}
    {queueSize queueSize' : ℕ} {tcpNodelay tcpNodelay' latching : Bool} {p : Publication}
    {s : Subscription} {t : PubSub} {labels : List Label}
    (hp : Publication.new topic callerId queueSize tcpNodelay latching = some p)
    (hs : Subscription.new topic' callerId' queueSize' tcpNodelay' = some s)
    (hrun : Run step Framed (ofPubSub p s) labels t) {link : Link} (hlink : t.link = some link)
    {i : ℕ} (hi : link.subscriberTask = some i) {n : ℕ} {handle : SubscriberHandle}
    (hh : t.subscription.handles[n]? = some handle) :
    ((framesOf i handle.got).map Frame.data).Sublist t.publication.data.sent ∧
      ∀ task, n < link.handles → t.Drained link task handle →
        t.publication.data.sent.drop task.joined <:+ (framesOf i handle.got).map Frame.data := by
  have ht := hrun.invariant (fun _ _ _ h hok hs => step_invariant h hok hs) (ofPubSub_invariant hp hs)
  exact ⟨ht.sublist hlink hi (List.mem_of_getElem? hh),
    fun task hn hd => ht.complete hlink hi hn hh hd⟩

def scanTopic : Topic := ⟨"/scan", ⟨"*", "*", ""⟩⟩

def scanPublication : Publication := (Publication.new scanTopic "/laser" 2 false true).get rfl

def scanSubscription : Subscription := (Subscription.new scanTopic "/mapper" 2 false).get rfl

theorem message_order_latched : ∃ (t : PubSub) (link : Link) (task : PublisherTask)
    (handle : SubscriberHandle), t.publication.data.sent = [frame [1], frame [2]] ∧
      t.Drained link task handle ∧ task.joined = 1 ∧
      ((framesOf 0 handle.got).map Frame.data).Sublist t.publication.data.sent ∧
      t.publication.data.sent.drop task.joined <:+ (framesOf 0 handle.got).map Frame.data := by
  obtain ⟨t, hrun, link, task, handle, hlink, hi, hn, hh, hsent, hd, hjoined⟩ : ∃ t,
      Run step Framed (ofPubSub scanPublication scanSubscription) [.pub (.send (frame [1])),
        .pub .listenerRecv, .sub (.addPublisher "http://laser"), .pub (.accept (.ok ())),
        .greet (.ok ()), .pub .register, .join, .write (.ok ()) 0, .read, .sub (.taskStore 0),
        .pub (.send (frame [2])), .write (.ok ()) 0, .read, .sub (.taskStore 0), .sub (.recvRaw 0),
        .sub (.recvRaw 0)] t ∧
      ∃ link task handle, t.link = some link ∧ link.subscriberTask = some 0 ∧ 0 < link.handles ∧
        t.subscription.handles[0]? = some handle ∧
        t.publication.data.sent = [frame [1], frame [2]] ∧ t.Drained link task handle ∧
        task.joined = 1 :=
    ⟨_, .cons ⟨[1], by decide, rfl⟩ rfl <| .cons trivial rfl <| .cons trivial rfl <|
      .cons trivial rfl <| .cons trivial rfl <| .cons trivial rfl <| .cons trivial rfl <|
      .cons trivial rfl <| .cons trivial rfl <| .cons trivial rfl <|
      .cons ⟨[2], by decide, rfl⟩ rfl <| .cons trivial rfl <| .cons trivial rfl <|
      .cons trivial rfl <| .cons trivial rfl <| .cons trivial rfl <| .nil _,
      _, _, _, rfl, rfl, by decide, rfl, rfl,
      ⟨rfl, rfl, rfl, rfl, rfl, rfl, by rintro _ ⟨⟩; exact ⟨_, rfl, rfl⟩, rfl, rfl, rfl⟩, rfl⟩
  have hp : Publication.new scanTopic "/laser" 2 false true = some scanPublication := rfl
  have hs : Subscription.new scanTopic "/mapper" 2 false = some scanSubscription := rfl
  obtain ⟨hsublist, hcomplete⟩ := message_order hp hs hrun hlink hi hh
  exact ⟨t, link, task, handle, hsent, hd, hjoined, hsublist, hcomplete task hn hd⟩

end PubSub

end RosrustAsync
