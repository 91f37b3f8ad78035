import Mathlib.Algebra.Order.Group.Multiset

namespace RosrustAsync

/-! A heap that hands out one of its greatest elements, and the order turned round. -/

class MaxHeap (H : Type) (α : outParam Type) [Ord α] where
  entries : H → Multiset α
  Valid : H → Prop
  peek : H → Option α
  pop : H → H
  entries_of_peek {h : H} : peek h = none → entries h = 0
  entries_pop {h : H} {a : α} : peek h = some a → entries h = a ::ₘ entries (pop h)
  le_peek {h : H} {a : α} : Valid h → peek h = some a → ∀ b ∈ entries h, (compare b a).isLE
  valid_pop {h : H} : Valid h → Valid (pop h)

structure Reverse (α : Type) where
  val : α
  deriving DecidableEq

instance {α : Type} [Ord α] : Ord (Reverse α) := ⟨fun self other => compare other.val self.val⟩

namespace MaxHeap

variable {H α : Type} [Ord α] [MaxHeap H α]

theorem card_pop_lt {h : H} {a : α} (hpeek : peek h = some a) :
    (entries (pop h)).card < (entries h).card := by
  rw [entries_pop hpeek, Multiset.card_cons]
  exact Nat.lt_succ_self _

end MaxHeap

end RosrustAsync
