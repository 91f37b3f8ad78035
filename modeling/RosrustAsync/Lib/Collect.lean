import Mathlib.Data.List.AList
import Mathlib.Data.List.Induction

namespace RosrustAsync

/-! A map collected from pairs: of two entries with one key the later one stays. -/

variable {K β γ : Type} [DecidableEq K]

def collect (f : β → γ) (pairs : List (K × β)) : AList fun _ : K => γ :=
  pairs.foldl (fun entries pair => entries.insert pair.1 (f pair.2)) ∅

def lastEntry (pairs : List (K × β)) (key : K) : Option β :=
  (pairs.reverse.find? fun pair => pair.1 = key).map Prod.snd

theorem lookup_collect (f : β → γ) (pairs : List (K × β)) (key : K) :
    (collect f pairs).lookup key = (lastEntry pairs key).map f := by
  induction pairs using List.reverseRecOn with
  | nil => rfl
  | append_singleton pairs pair ih =>
    rw [collect, List.foldl_append, lastEntry, List.reverse_append]
    change ((collect f pairs).insert pair.1 (f pair.2)).lookup key =
      (((pair :: pairs.reverse).find? _).map _).map f
    rcases eq_or_ne pair.1 key with rfl | hne
    · simp
    · rw [AList.lookup_insert_ne hne.symm, ih, List.find?_cons_of_neg (by simpa using hne)]
      rfl

theorem lastEntry_eq_some {pairs : List (K × β)} {key : K} {b : β} :
    lastEntry pairs key = some b ↔
      ∃ earlier later, pairs = earlier ++ (key, b) :: later ∧ ∀ pair ∈ later, pair.1 ≠ key := by
  rw [lastEntry, Option.map_eq_some_iff]
  constructor
  · rintro ⟨⟨k, b⟩, hfind, rfl⟩
    obtain ⟨hk, later, earlier, heq, hlater⟩ := List.find?_eq_some_iff_append.mp hfind
    obtain rfl : k = key := of_decide_eq_true hk
    refine ⟨earlier.reverse, later.reverse, ?_, fun pair hpair => ?_⟩
    · rw [← pairs.reverse_reverse, heq]
      simp
    · simpa using hlater pair (List.mem_reverse.mp hpair)
  · rintro ⟨earlier, later, rfl, hlater⟩
    refine ⟨(key, b), List.find?_eq_some_iff_append.mpr ⟨decide_eq_true rfl, later.reverse,
      earlier.reverse, by simp, fun pair hpair => ?_⟩, rfl⟩
    simpa using hlater pair (List.mem_reverse.mp hpair)

end RosrustAsync
