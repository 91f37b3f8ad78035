import RosrustAsync.ParameterNet

namespace RosrustAsync

open Actor Prog

/-- What a name's cached value has to do with its value on the master, given the updates that are
still to come. -/
structure Tracks {V : Type} (emptyStruct : V) (subscribed : Prop) (pending : List V)
    (current cached : Option V) : Prop where
  silent : ¬ subscribed → cached = none
  last : subscribed → ∀ value, pending.getLast? = some value → value = current.getD emptyStruct
  fresh : ∀ value, cached = some value → pending = [] → current = some value

namespace Tracks

variable {V : Type} {emptyStruct value : V} {subscribed : Prop} {pending : List V}
  {current current' cached : Option V}

theorem told (hs : subscribed) (hvalue : value = current'.getD emptyStruct) :
    Tracks emptyStruct subscribed (pending ++ [value]) current' cached := by
  refine ⟨fun hn => absurd hs hn, fun _ v hv => ?_, fun v _ hnil => ?_⟩
  · rw [List.getLast?_append] at hv
    cases hv
    exact hvalue
  · simp at hnil

theorem untold (hs : ¬ subscribed) : Tracks emptyStruct subscribed pending current none :=
  ⟨fun _ => rfl, fun hs' => absurd hs' hs, nofun⟩

theorem forget (h : Tracks emptyStruct subscribed pending current cached) :
    Tracks emptyStruct subscribed pending current none :=
  ⟨fun _ => rfl, h.last, nofun⟩

theorem store (h : Tracks emptyStruct subscribed pending current cached) (hs : subscribed)
    (hvalue : pending = [] → current = some value) :
    Tracks emptyStruct subscribed pending current (some value) := by
  refine ⟨fun hn => absurd hs hn, h.last, fun v hv hnil => ?_⟩
  cases hv
  exact hvalue hnil

theorem own (hs : subscribed) : Tracks emptyStruct subscribed [] current' current' :=
  ⟨fun hn => absurd hs hn, nofun, fun _ hv _ => hv⟩

theorem subscribe (h : Tracks emptyStruct subscribed [] current cached) :
    Tracks emptyStruct True [] current cached :=
  ⟨fun hn => absurd trivial hn, nofun, h.fresh⟩

theorem take (h : Tracks emptyStruct subscribed (value :: pending) current cached) :
    Tracks emptyStruct subscribed pending current none ∧
      (subscribed → pending = [] → value = current.getD emptyStruct) := by
  refine ⟨⟨fun _ => rfl, fun hs v hv => h.last hs v ?_, nofun⟩, fun hs hnil => h.last hs value ?_⟩
  · rw [List.getLast?_cons, hv]
    rfl
  · rw [hnil]
    rfl

end Tracks

namespace ParameterNet

variable {V : Type} {emptyStruct : V} {w w' : ParameterNet V} {subs subs' : Finset String}
  {cache cache' : AList fun _ : String => V}

/-- The invariant, with `subs` for the names that the master has the node subscribed to and `cache`
for what the handler under way is about to leave in the cache. -/
structure Coherent (emptyStruct : V) (subs : Finset String) (cache : AList fun _ : String => V)
    (w : ParameterNet V) : Prop where
  subscribers_eq : w.subscribers = subs
  tracks : ∀ name, Tracks emptyStruct (name ∈ subs) (w.pending name) (w.params.lookup name)
    (cache.lookup name)

theorem Coherent.step_at (h : Coherent emptyStruct subs cache w) (name : String)
    (hsubs : w'.subscribers = subs')
    (hother : ∀ n, n ≠ name → (n ∈ subs' ↔ n ∈ subs) ∧ w'.pending n = w.pending n ∧
      w'.params.lookup n = w.params.lookup n ∧ cache'.lookup n = cache.lookup n)
    (hname : Tracks emptyStruct (name ∈ subs') (w'.pending name) (w'.params.lookup name)
      (cache'.lookup name)) : Coherent emptyStruct subs' cache' w' := by
  refine ⟨hsubs, fun n => ?_⟩
  by_cases hn : n = name
  · exact hn ▸ hname
  · obtain ⟨hmem, hpending, hparams, hcache⟩ := hother n hn
    rw [hmem, hpending, hparams, hcache]
    exact h.tracks n

theorem pending_announce (name n : String) (value : V) : (w.announce name value).pending n =
    w.pending n ++ if name ∈ w.subscribers ∧ name = n then [value] else [] := by
  unfold announce
  split
  · rename_i hname
    by_cases hn : name = n
    · subst hn
      simp [pending, updates, hname]
    · simp [pending, updates, hn]
  · rename_i hname
    simp [hname]

theorem announce_fields (name : String) (value : V) : (w.announce name value).actor = w.actor ∧
    (w.announce name value).params = w.params ∧
    (w.announce name value).subscribers = w.subscribers := by
  unfold announce
  split <;> exact ⟨rfl, rfl, rfl⟩

theorem outside_cases {l : Outside V} (he : w.outside emptyStruct l = some w') :
    (∃ name value params, w' = { w with params }.announce name value ∧
      (∀ n, n ≠ name → params.lookup n = w.params.lookup n) ∧
      value = (params.lookup name).getD emptyStruct) ∨
    ((∀ n, w'.pending n = w.pending n) ∧ w'.params = w.params ∧ w'.subscribers = w.subscribers ∧
      w'.actor.state = w.actor.state) := by
  cases l with
  | request m =>
    refine .inr ?_
    cases m <;> cases he <;> refine ⟨fun n => ?_, rfl, rfl, rfl⟩ <;>
      simp [pending, updates, updateOf]
  | set name value =>
    cases he
    exact .inl ⟨name, value, _, rfl, fun n hn => AList.lookup_insert_ne hn,
      by rw [AList.lookup_insert]; rfl⟩
  | delete name =>
    cases he
    exact .inl ⟨name, emptyStruct, _, rfl, fun n hn => AList.lookup_erase_ne hn,
      by rw [AList.lookup_erase]; rfl⟩
  | deliver =>
    refine .inr ?_
    simp only [outside] at he
    split at he
    · rename_i name value inFlight hflight
      cases he
      refine ⟨fun n => ?_, rfl, rfl, rfl⟩
      simp [pending, updates, updateOf, hflight]
    · cases he

namespace Coherent

theorem foreign (h : Coherent emptyStruct subs cache w) {name : String} {value : V}
    {params : AList fun _ : String => V}
    (hother : ∀ n, n ≠ name → params.lookup n = w.params.lookup n)
    (hvalue : value = (params.lookup name).getD emptyStruct) :
    Coherent emptyStruct subs cache ({ w with params }.announce name value) := by
  obtain ⟨hactor, hparams, hsubs⟩ := announce_fields (w := { w with params }) name value
  have hpending := fun n => pending_announce (w := { w with params }) name n value
  refine h.step_at name (hsubs.trans h.subscribers_eq) (fun n hn => ?_) ?_
  · refine ⟨.rfl, ?_, by rw [hparams]; exact hother n hn, rfl⟩
    rw [hpending n, if_neg (fun hc => hn hc.2.symm), List.append_nil]
    rfl
  · rw [hpending name, hparams]
    by_cases hs : name ∈ subs
    · rw [if_pos ⟨h.subscribers_eq ▸ hs, rfl⟩]
      exact .told hs hvalue
    · rw [if_neg (fun hc => hs (h.subscribers_eq ▸ hc.1)), List.append_nil, (h.tracks name).silent hs]
      exact .untold hs

theorem outside_step (h : Coherent emptyStruct subs cache w) {l : Outside V}
    (he : w.outside emptyStruct l = some w') :
    Coherent emptyStruct subs cache w' ∧ w'.actor.state = w.actor.state := by
  rcases outside_cases he with ⟨name, value, params, rfl, hother, hvalue⟩ |
    ⟨hpending, hparams, hsubs, hstate⟩
  · exact ⟨h.foreign hother hvalue, by rw [(announce_fields ..).1]⟩
  · refine ⟨⟨hsubs.trans h.subscribers_eq, fun n => ?_⟩, hstate⟩
    rw [hpending, hparams]
    exact h.tracks n

theorem outside_unchanged (h : Coherent emptyStruct subs cache w) {l : Outside V}
    (he : w.outside emptyStruct l = some w') {name : String} (hs : name ∈ subs)
    (hnil : w'.pending name = []) :
    w.pending name = [] ∧ w'.params.lookup name = w.params.lookup name := by
  rcases outside_cases he with ⟨n, value, params, rfl, hother, -⟩ | ⟨hpending, hparams, -⟩
  · rw [pending_announce, List.append_eq_nil_iff] at hnil
    have hn : name ≠ n := by
      rintro rfl
      have hmem : name ∈ w.subscribers := h.subscribers_eq ▸ hs
      simp [hmem] at hnil
    refine ⟨hnil.1, ?_⟩
    rw [(announce_fields ..).2.1]
    exact hother name hn
  · rw [hpending] at hnil
    exact ⟨hnil, by rw [hparams]⟩

/-- A change of the node's own. It is not announced to the node. -/
theorem own (h : Coherent emptyStruct subs cache w) {name : String}
    {params : AList fun _ : String => V}
    (hother : ∀ n, n ≠ name → params.lookup n = w.params.lookup n ∧ cache'.lookup n = cache.lookup n)
    (hc : (name ∉ subs ∧ cache'.lookup name = none) ∨
      (name ∈ subs ∧ w.pending name = [] ∧ cache'.lookup name = params.lookup name)) :
    Coherent emptyStruct subs cache' { w with params } := by
  have hpending : ∀ n, { w with params }.pending n = w.pending n := fun n => rfl
  refine h.step_at name h.subscribers_eq (fun n hn => ⟨.rfl, rfl, hother n hn⟩) ?_
  rw [hpending]
  rcases hc with ⟨hs, hnone⟩ | ⟨hs, hnil, hsame⟩
  · rw [hnone]
    exact .untold hs
  · rw [hnil, hsame]
    exact .own hs

theorem subscribe (h : Coherent emptyStruct subs cache w) {name : String}
    (hnil : w.pending name = []) : Coherent emptyStruct (insert name subs) cache
      { w with subscribers := insert name w.subscribers } := by
  have hpending : ∀ n, { w with subscribers := insert name w.subscribers }.pending n = w.pending n :=
    fun n => rfl
  have htracks := h.tracks name
  rw [hnil] at htracks
  refine h.step_at name (by rw [← h.subscribers_eq])
    (fun n hn => ⟨by simp [hn], rfl, rfl, rfl⟩) ?_
  simp only [Finset.mem_insert_self]
  rw [hpending, hnil]
  exact htracks.subscribe

theorem unsubscribe (h : Coherent emptyStruct subs cache w) (name : String) :
    Coherent emptyStruct (subs.erase name) (cache.erase name)
      { w with subscribers := w.subscribers.erase name } := by
  refine h.step_at name (by rw [← h.subscribers_eq])
    (fun n hn => ⟨by simp [hn], rfl, rfl, AList.lookup_erase_ne hn⟩) ?_
  rw [AList.lookup_erase]
  exact .untold (Finset.notMem_erase name subs)

theorem recache (h : Coherent emptyStruct subs cache w) {name : String}
    (hother : ∀ n, n ≠ name → cache'.lookup n = cache.lookup n)
    (hname : cache'.lookup name = none ∨ name ∈ subs ∧ ∃ value, cache'.lookup name = some value ∧
      (w.pending name = [] → w.params.lookup name = some value)) :
    Coherent emptyStruct subs cache' w := by
  apply h.step_at name h.subscribers_eq (fun n hn => ⟨.rfl, rfl, rfl, hother n hn⟩)
  rcases hname with hnone | ⟨hs, value, hsome, hvalue⟩
  · rw [hnone]
    exact (h.tracks name).forget
  · rw [hsome]
    exact (h.tracks name).store hs hvalue

theorem take (h : Coherent emptyStruct subs cache w) {name : String} {value : V}
    {mailbox : List (ParameterActorMsg V)}
    (hm : w.actor.mailbox = .updateCachedParam name value :: mailbox) :
    Coherent emptyStruct subs (cache.erase name) { w with actor := { w.actor with mailbox } } ∧
      (name ∈ subs → { w with actor := { w.actor with mailbox } }.pending name = [] →
        value = (w.params.lookup name).getD emptyStruct) := by
  have hpending : ∀ n, w.pending n = (if name = n then [value] else []) ++
      { w with actor := { w.actor with mailbox } }.pending n := by
    intro n
    by_cases hn : name = n <;> simp [pending, updates, hm, updateOf, hn]
  have htracks := h.tracks name
  rw [hpending name, if_pos rfl, List.singleton_append] at htracks
  obtain ⟨hrest, hvalue⟩ := htracks.take
  refine ⟨h.step_at name h.subscribers_eq (fun n hn => ⟨.rfl, ?_, rfl,
    AList.lookup_erase_ne hn⟩) ?_, hvalue⟩
  · rw [hpending n, if_neg hn.symm, List.nil_append]
  · rw [AList.lookup_erase]
    exact hrest

end Coherent

end ParameterNet

end RosrustAsync
