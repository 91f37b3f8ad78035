import RosrustAsync.ParameterInvariant

namespace RosrustAsync

open Actor Prog

namespace ParameterNet

variable {V : Type} (emptyStruct : V)

/-- The node sets a name that it is subscribed to, or subscribes to one, only when no update of it
is on its way. -/
def Settled (_m : ParameterActorMsg V) (_input : Unit)
    (a : Act (ParameterActorState V) Empty (ParameterReply V) (ParameterCall V))
    (w : ParameterNet V) : Prop :=
  match a with
  | .call (.setParam name _) => name ∈ w.subscribers → w.pending name = []
  | .call (.subscribeParam name) => w.pending name = []
  | _ => True

def Anything (_w : ParameterNet V) (_l : Outside V) : Prop := True

structure At (state : ParameterActorState V) (subs : Finset String)
    (cache : AList fun _ : String => V) (w : ParameterNet V) : Prop where
  state_eq : w.actor.state = state
  coherent : Coherent emptyStruct subs cache w

def Idle (w : ParameterNet V) : Prop :=
  Coherent emptyStruct w.actor.state.subscribedParams w.actor.state.paramCache w

theorem At.idle {emptyStruct : V} {subs : Finset String} {cache : AList fun _ : String => V}
    {w : ParameterNet V} (h : At emptyStruct ⟨cache, subs⟩ subs cache w) :
    Idle emptyStruct w := by
  rw [Idle, h.state_eq]
  exact h.coherent

variable [DecidableEq V] {emptyStruct} {ε α : Type} {m : ParameterActorMsg V}
  {state : ParameterActorState V} {subs : Finset String} {cache : AList fun _ : String => V} {P : ParameterNet V → Prop}
  {T : Except ε α → ParameterNet V → Prop}

theorem stable_at : Stable ((process emptyStruct).others Anything)
    (At emptyStruct state subs cache) := by
  rintro w w' hw ⟨l, -, he⟩
  obtain ⟨hcoherent, hstate⟩ := hw.coherent.outside_step he
  exact ⟨hstate.trans hw.state_eq, hcoherent⟩

theorem stable_idle : Stable ((process emptyStruct).others Anything) (Idle emptyStruct) := by
  rintro w w' hw ⟨l, -, he⟩
  obtain ⟨hcoherent, hstate⟩ := Coherent.outside_step hw he
  rw [Idle, hstate]
  exact hcoherent

abbrev Does (emptyStruct : V) (m : ParameterActorMsg V) (P : ParameterNet V → Prop)
    (p : ParameterProgram V ε α) (T : Except ε α → ParameterNet V → Prop) : Prop :=
  Triple ((process emptyStruct).effect Settled m) ((process emptyStruct).others Anything) P p.run T

theorem effect_iff {a : Act (ParameterActorState V) Empty (ParameterReply V) (ParameterCall V)}
    {w w' : ParameterNet V} {r : Act.Res ParameterCall.Ans a} :
    (process emptyStruct).effect Settled m a w r w' ↔
      ∃ input, Settled m input a w ∧ w.exec emptyStruct m a = some (r, w') := .rfl

theorem exec_call (w : ParameterNet V) (c : ParameterCall V) :
    w.exec emptyStruct m (.call c) = some (w.answers emptyStruct c, w.serve c) := by
  cases c <;> rfl

theorem does_get {f : ParameterActorState V → ParameterProgram V ε α}
    (hp : Stable ((process emptyStruct).others Anything) P)
    (hstate : ∀ w, P w → w.actor.state = state) (h : Does emptyStruct m P (f state) T) : Does emptyStruct m P (getState >>= f) T := by
  refine .bind_perform hp fun w r w' hw he => ?_
  obtain ⟨input, -, hx⟩ := effect_iff.mp he
  cases hx
  rw [hstate w hw]
  exact h w hw

theorem does_getState {f : ParameterActorState V → ParameterProgram V ε α}
    (h : Does emptyStruct m (At emptyStruct state subs cache) (f state) T) :
    Does emptyStruct m (At emptyStruct state subs cache) (getState >>= f) T :=
  does_get stable_at (fun _ hw => hw.state_eq) h

theorem does_modifyState {g : ParameterActorState V → ParameterActorState V}
    {f : Unit → ParameterProgram V ε α}
    (h : Does emptyStruct m (At emptyStruct (g state) subs cache) (f ()) T) :
    Does emptyStruct m (At emptyStruct state subs cache) (modifyState g >>= f) T := by
  refine does_getState (.bind_perform stable_at fun w r w' hw he => ?_)
  obtain ⟨input, -, hx⟩ := effect_iff.mp he
  cases hx
  have hc := hw.coherent
  exact h _ ⟨rfl, hc.subscribers_eq, hc.tracks⟩

theorem does_leave {g : ParameterActorState V → ParameterActorState V}
    (hg : g state = ⟨cache, subs⟩) : Does emptyStruct m (At emptyStruct state subs cache)
      (modifyState g : ParameterProgram V ε Unit) fun _ => Idle emptyStruct := by
  refine does_modifyState (f := pure) (.ret stable_at fun w hw => ?_)
  rw [hg] at hw
  exact hw.idle

theorem does_call {c : ParameterCall V} {f : ParameterCall.Ans c → ParameterProgram V ε α}
    (hp : Stable ((process emptyStruct).others Anything) P)
    (h : ∀ w, P w → Settled m () (.call c) w → ∃ Q : ParameterNet V → Prop, Q (w.serve c) ∧
      Does emptyStruct m Q (f (w.answers emptyStruct c)) T) :
    Does emptyStruct m P (call c >>= f) T := by
  refine .bind_perform hp fun w r w' hw he => ?_
  obtain ⟨input, hsettled, hx⟩ := effect_iff.mp he
  rw [exec_call] at hx
  cases hx
  obtain ⟨Q, hq, hf⟩ := h w hw hsettled
  exact hf _ hq

theorem does_send {port : ℕ} {value : ParameterReply V} :
    Does emptyStruct m (Idle emptyStruct) (send port value)
      (Outcome (fun _ => Idle emptyStruct) fun _ _ => True) := by
  refine .perform stable_idle (fun r w w' h hc => ?_) fun w r w' hw he => ?_
  · cases r with
    | ok u => exact stable_idle w w' h hc
    | error e => trivial
  · obtain ⟨input, -, hx⟩ := effect_iff.mp he
    simp only [exec, Actor.exec, reply] at hx
    split at hx
    · cases hx
      trivial
    · cases hx
      exact hw

theorem does_reply {δ β : Type} {p : ParameterProgram V δ β} {port : ℕ}
    {value : Except δ β → ParameterReply V}
    (h : Does emptyStruct m P p fun _ => Idle emptyStruct) :
    Does emptyStruct m P (do send port (value (← attempt p)))
      (Outcome (fun _ => Idle emptyStruct) fun _ _ => True) :=
  .bind_except (.attempt h) (fun _ => does_send) fun _ _ he => he

theorem does_setParam (name : String) (value : V) :
    Does emptyStruct m (At emptyStruct ⟨cache, subs⟩ subs cache)
      (ParameterActor.setParam name value) fun _ => Idle emptyStruct := by
  apply does_call stable_at
  intro w hw hsettled
  by_cases hs : name ∈ subs
  · have hnil : w.pending name = [] := hsettled (hw.coherent.subscribers_eq ▸ hs)
    refine ⟨At emptyStruct ⟨cache, subs⟩ subs (cache.insert name value), ⟨hw.state_eq, ?_⟩, ?_⟩
    · refine hw.coherent.own (fun n hn => ⟨AList.lookup_insert_ne hn, AList.lookup_insert_ne hn⟩)
        (.inr ⟨hs, hnil, ?_⟩)
      rw [AList.lookup_insert, AList.lookup_insert]
    · apply does_getState
      simp only [hs, if_true]
      exact does_leave rfl
  · refine ⟨At emptyStruct ⟨cache, subs⟩ subs cache, ⟨hw.state_eq, ?_⟩, ?_⟩
    · exact hw.coherent.own (fun n hn => ⟨AList.lookup_insert_ne hn, rfl⟩)
        (.inl ⟨hs, (hw.coherent.tracks name).silent hs⟩)
    · apply does_getState
      simp only [hs, if_false]
      exact .ret stable_at fun w hw => hw.idle

theorem does_forget {name : String} (hs : name ∉ subs) :
    Does emptyStruct m (At emptyStruct ⟨cache, subs⟩ subs (cache.erase name)) (do
        let _ ← ofExcept ((← call (ParameterCall.deleteParam name)).mapError .masterClient)
        modifyState fun state => { state with paramCache := state.paramCache.erase name } :
        ParameterProgram V ParameterActorError Unit) fun _ => Idle emptyStruct := by
  apply does_call stable_at
  intro w hw _
  refine ⟨At emptyStruct ⟨cache, subs⟩ subs (cache.erase name), ⟨hw.state_eq, ?_⟩, ?_⟩
  · exact hw.coherent.own (fun n hn => ⟨AList.lookup_erase_ne hn, rfl⟩)
      (.inl ⟨hs, AList.lookup_erase ..⟩)
  · exact does_leave rfl

theorem does_deleteParam (name : String) :
    Does emptyStruct m (At emptyStruct ⟨cache, subs⟩ subs cache)
      (ParameterActor.deleteParam (V := V) name) fun _ => Idle emptyStruct := by
  apply does_getState
  by_cases hs : name ∈ subs
  · simp only [hs, if_true]
    refine does_modifyState (does_call stable_at fun w hw _ => ?_)
    refine ⟨At emptyStruct ⟨cache, subs.erase name⟩ (subs.erase name) (cache.erase name),
      ⟨hw.state_eq, hw.coherent.unsubscribe name⟩, ?_⟩
    exact does_forget (Finset.notMem_erase name subs)
  · simp only [hs, if_false]
    intro w hw
    refine does_forget hs w ⟨hw.state_eq, ?_⟩
    exact hw.coherent.recache (fun n hn => AList.lookup_erase_ne hn) (.inl (AList.lookup_erase ..))

theorem does_cachedOrFetched {name : String} (hs : name ∈ subs) :
    Does emptyStruct m (At emptyStruct ⟨cache, subs⟩ subs cache)
      (ParameterActor.cachedOrFetched (V := V) name) fun _ => Idle emptyStruct := by
  apply does_getState
  cases hcache : cache.lookup name with
  | some value =>
    simp only
    exact .ret stable_at fun w hw => hw.idle
  | none =>
    simp only
    apply does_call stable_at
    intro w hw _
    cases hvalue : w.params.lookup name with
    | some value =>
      -- the fetched value counts from the call on: a later change is announced to the node
      refine ⟨At emptyStruct ⟨cache, subs⟩ subs (cache.insert name value), ⟨hw.state_eq, ?_⟩, ?_⟩
      · exact hw.coherent.recache (fun n hn => AList.lookup_insert_ne hn)
          (.inr ⟨hs, value, AList.lookup_insert .., fun _ => hvalue⟩)
      · simp only [answers, hvalue]
        exact does_modifyState (.ret stable_at fun w hw => hw.idle)
    | none =>
      refine ⟨At emptyStruct ⟨cache, subs⟩ subs cache, ⟨hw.state_eq, hw.coherent⟩, ?_⟩
      simp only [answers, hvalue]
      exact .ret stable_at fun w hw => hw.idle

theorem does_getCachedParam (name : String) :
    Does emptyStruct m (At emptyStruct ⟨cache, subs⟩ subs cache)
      (ParameterActor.getCachedParam (V := V) name) fun _ => Idle emptyStruct := by
  apply does_getState
  by_cases hs : name ∈ subs
  · simp only [hs, not_true_eq_false, if_false]
    exact does_cachedOrFetched hs
  · simp only [hs, not_false_eq_true, if_true]
    apply does_call stable_at
    intro w hw hsettled
    refine ⟨At emptyStruct ⟨cache, subs⟩ (insert name subs) cache,
      ⟨hw.state_eq, hw.coherent.subscribe hsettled⟩, ?_⟩
    exact does_modifyState (does_cachedOrFetched (Finset.mem_insert_self name subs))

/-- What an update says of its name, as long as no later one is on its way. -/
def Told (emptyStruct : V) (name : String) (value : V) (w : ParameterNet V) : Prop :=
  w.pending name = [] → value = (w.params.lookup name).getD emptyStruct

theorem stable_told {name : String} {value : V} (hs : name ∈ subs) :
    Stable ((process emptyStruct).others Anything)
    fun w => At emptyStruct state subs cache w ∧ Told emptyStruct name value w := by
  rintro w w' ⟨hw, htold⟩ ⟨l, -, he⟩
  refine ⟨stable_at w w' hw ⟨l, trivial, he⟩, fun hnil => ?_⟩
  obtain ⟨hold, hparams⟩ := hw.coherent.outside_unchanged he hs hnil
  rw [hparams]
  exact htold hold

theorem does_updateCachedParam {name : String} {value : V} (hs : name ∈ subs) :
    Does emptyStruct m
      (fun w => At emptyStruct ⟨cache, subs⟩ subs (cache.erase name) w ∧
        Told emptyStruct name value w)
      (ParameterActor.updateCachedParam emptyStruct name value) fun _ => Idle emptyStruct := by
  have hstore : ∀ w, At emptyStruct ⟨cache, subs⟩ subs (cache.erase name) w →
      (w.pending name = [] → w.params.lookup name = some value) →
      At emptyStruct ⟨cache, subs⟩ subs (cache.insert name value) w := by
    intro w hw hvalue
    refine ⟨hw.state_eq, hw.coherent.recache (fun n hn => ?_)
      (.inr ⟨hs, value, AList.lookup_insert .., hvalue⟩)⟩
    rw [AList.lookup_insert_ne hn, AList.lookup_erase_ne hn]
  apply does_get (stable_told hs) (fun w hw => hw.1.state_eq)
  simp only [hs, if_true]
  by_cases hempty : value = emptyStruct
  · rw [if_neg fun hne => hne hempty]
    apply does_call (stable_told hs)
    intro w hw _
    cases hlookup : w.params.lookup name with
    | some v =>
      refine ⟨At emptyStruct ⟨cache, subs⟩ subs (cache.insert name value),
        hstore w hw.1 fun hnil => ?_, ?_⟩
      · rw [hw.2 hnil, hlookup]
        rfl
      · simp only [answers, hlookup]
        exact does_leave rfl
    | none =>
      refine ⟨At emptyStruct ⟨cache, subs⟩ subs (cache.erase name),
        ⟨hw.1.state_eq, hw.1.coherent⟩, ?_⟩
      simp only [answers, hlookup]
      exact does_leave rfl
  · rw [if_pos hempty]
    -- only an empty struct can be told of a name that is not set
    intro w hw
    refine does_leave (ε := ParameterActorError) rfl w (hstore w hw.1 fun hnil => ?_)
    have hvalue := hw.2 hnil
    cases hlookup : w.params.lookup name with
    | some v => rw [hvalue, hlookup, Option.getD_some]
    | none => exact absurd (by rw [hvalue, hlookup, Option.getD_none]) hempty

theorem does_ask {c : ParameterCall V} {g : ParameterCall.Ans c → Except ε α}
    (hread : ∀ w : ParameterNet V, w.serve c = w) :
    Does emptyStruct m (At emptyStruct ⟨cache, subs⟩ subs cache)
      (call c >>= fun answer => (ofExcept (g answer) : ParameterProgram V ε α))
      fun _ => Idle emptyStruct := by
  refine does_call stable_at fun w hw _ => ⟨_, (hread w).symm ▸ hw, ?_⟩
  cases g (w.answers emptyStruct c) <;> exact .ret stable_at fun w hw => hw.idle

theorem does_handle (hm : updateOf m = none) :
    Does emptyStruct m (At emptyStruct ⟨cache, subs⟩ subs cache)
      (ParameterActor.handle emptyStruct m)
      (Outcome (fun _ => Idle emptyStruct) fun _ _ => True) := by
  cases m with
  | getParam name reply => exact does_reply (does_ask fun w => rfl)
  | getCachedParam name reply => exact does_reply (does_getCachedParam name)
  | setParam name value reply => exact does_reply (does_setParam name value)
  | deleteParam name reply => exact does_reply (does_deleteParam name)
  | searchParam name reply => exact does_reply (does_ask fun w => rfl)
  | paramExists name reply => exact does_reply (does_ask fun w => rfl)
  | getParamNames reply => exact does_reply (does_ask fun w => rfl)
  | updateCachedParam name value => cases hm

/-- An update that is still on its way after the subscription has been given up. -/
theorem does_updateCachedParam_unsubscribed {name : String} {value : V} (hs : name ∉ subs) :
    Does emptyStruct m (At emptyStruct ⟨cache, subs⟩ subs cache)
      (ParameterActor.updateCachedParam emptyStruct name value) fun _ => Idle emptyStruct := by
  apply does_getState
  simp only [hs, if_false]
  exact .ret stable_at fun w hw => hw.idle

theorem does_handle_update {name : String} {value : V}
    (h : Does emptyStruct m P (ParameterActor.updateCachedParam emptyStruct name value)
      fun _ => Idle emptyStruct) :
    Does emptyStruct m P (ParameterActor.handle emptyStruct (.updateCachedParam name value))
      (Outcome (fun _ => Idle emptyStruct) fun _ _ => True) :=
  .bind_except (.attempt h) (fun _ => .ret stable_idle fun _ hw => hw) fun _ _ he => he

theorem Idle.start {w w' : ParameterNet V} (hw : Idle emptyStruct w)
    (hm : w.receive = some (m, w')) :
    ((process emptyStruct).handle m).Safe ((process emptyStruct).effect Settled m)
      ((process emptyStruct).others Anything) (Outcome (fun _ => Idle emptyStruct) fun _ _ => True)
      w' := by
  obtain ⟨⟨m', actor⟩, hreceive, hm⟩ := Option.bind_eq_some_iff.mp hm
  obtain ⟨mailbox, hmail, rfl⟩ := receive_eq_some hreceive
  cases hm
  by_cases hupdate : updateOf m = none
  · refine does_handle hupdate _ ⟨rfl, hw.subscribers_eq, fun name => ?_⟩
    have hpending : { w with actor := { w.actor with mailbox } }.pending name = w.pending name := by
      simp [pending, updates, hmail, hupdate]
    rw [hpending]
    exact hw.tracks name
  · cases m with
    | updateCachedParam name value =>
      obtain ⟨hcoherent, htold⟩ := Coherent.take hw hmail
      by_cases hs : name ∈ w.actor.state.subscribedParams
      · exact does_handle_update (does_updateCachedParam hs) _ ⟨⟨rfl, hcoherent⟩, htold hs⟩
      · refine does_handle_update (does_updateCachedParam_unsubscribed hs) _ ⟨rfl, ?_⟩
        exact hcoherent.recache (fun n hn => (AList.lookup_erase_ne hn).symm)
          (.inl ((hw.tracks name).silent hs))
    | _ => exact absurd rfl hupdate

end ParameterNet

end RosrustAsync
