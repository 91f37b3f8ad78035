import RosrustAsync.Lib.GuardRules

namespace RosrustAsync.Actor

variable {S K V C M : Type} {Ans : C → Type} [DecidableEq K] {R : Registry S K V C M Ans} {m : M}
  {w : World S K M}

theorem At.start {ms : List M} (h : Idle R w) (hm : w.mailbox = m :: ms) :
    At R w.state w.guards [] (R.drops m) none { w with mailbox := ms } := by
  obtain ⟨hheld, ht⟩ := h
  refine ⟨rfl, rfl, hheld, ht.open_ports, ht.armed, fun m' hm' => ht.mail m' ?_, ht.keyed, ht.alive,
    ht.handled, ht.known, fun key => ?_, by simp⟩
  · rw [hm]
    exact List.mem_cons_of_mem _ hm'
  · refine Eq.trans ?_ (ht.paid key)
    simp only [Registry.pending, hm, List.filterMap_cons]
    cases R.drops m with
    | none => rfl
    | some key' => simp

theorem tracked_init {s : S} (hs : ∀ key, R.entry s key = none) :
    Tracked R none none (World.init s) := by
  refine ⟨rfl, rfl, by simp [World.init], fun key g he => ?_, fun g hg => ?_, by simp [World.init],
    by simp [World.init], fun key => ?_, by simp⟩
  · rw [World.init, hs] at he
    cases he
  · simp [World.init, World.strong] at hg
  · simp [World.init, Registry.pending, Registry.owed, hs]

theorem registry_live {s : S} (hs : ∀ key, R.entry s key = none)
    (hhandle : ∀ m state guards, R.client m ∨ (R.drops m).isSome →
      Does R m (At R state guards [] (R.drops m) none) (R.handle m)
        (Prog.Outcome (fun _ => Idle R) fun _ _ => False))
    {labels : List (Label C M Ans)} {c : Config S K V C M Ans}
    (h : Runs.Run (process R.toBehaviour).step (Process.Ok R.Allowed R.Meets) ⟨.init s, .idle⟩
      labels c) :
    (process R.toBehaviour).Live R.Allowed R.Meets (Idle R) (fun _ => False) c := by
  refine h.invariant (fun c l c' hc hl he => Process.live_step stable_idle (fun _ _ hf _ => hf) ?_
    (fun w m w' hw hm => ?_) hc hl he) ⟨rfl, tracked_init hs⟩
  · intro m answer a w hmeets
    refine exec_ne_none fun capacity ha => ?_
    subst ha
    exact hmeets
  · obtain ⟨mailbox, hmail, rfl⟩ := receive_eq_some hm
    refine hhandle m w.state w.guards ?_ _ (At.start hw hmail)
    exact hw.2.mail m (by rw [hmail]; exact List.mem_cons_self ..)

theorem Idle.agrees (h : Idle R w) (hmail : w.mailbox = []) (hdropping : w.dropping = []) (key : K) :
    ((R.entry w.state key).isSome ↔ ∃ g, (key, g) ∈ w.handles) ∧
      ∀ g, (key, g) ∈ w.handles → R.entry w.state key = some g := by
  obtain ⟨hheld, ht⟩ := h
  have hhandle : ∀ g, (key, g) ∈ w.handles → R.entry w.state key = some g := by
    intro g hg
    have hpos : 0 < w.strong g :=
      Nat.add_pos_right _ (List.count_pos_iff.mpr (List.mem_map_of_mem (f := Prod.snd) hg))
    obtain ⟨key', hkey', he⟩ := ht.alive g hpos (by simp)
    rw [ht.handled _ hg] at hkey'
    cases hkey'
    exact he
  refine ⟨⟨fun he => ?_, fun ⟨g, hg⟩ => by rw [hhandle g hg]; rfl⟩, hhandle⟩
  obtain ⟨g, he⟩ := Option.isSome_iff_exists.mp he
  have hpaid := ht.paid key
  simp only [Registry.pending, hmail, hdropping, Registry.owed, he, Option.toList_none,
    List.filterMap_nil, List.append_nil, List.count_nil] at hpaid
  have hpos : w.strong g ≠ 0 := fun hz => by simp [hz] at hpaid
  rw [World.strong, hheld, List.count_nil, Nat.zero_add] at hpos
  obtain ⟨x, hx, hxg⟩ := List.mem_map.mp (List.count_pos_iff.mp (Nat.pos_of_ne_zero hpos))
  have hkey := ht.handled x hx
  rw [hxg, ht.keyed key g he] at hkey
  cases hkey
  exact ⟨x.2, hx⟩

end RosrustAsync.Actor
