import Mathlib.Data.List.Sort
import Mathlib.Order.Basic

namespace RosrustAsync

/-! A priority queue that yields the entry of least key first. -/

structure MinQueue {α K : Type} [LinearOrder K] (key : α → K) where
  entries : List α
  sorted : entries.Pairwise fun a b => key a ≤ key b

namespace MinQueue

variable {α K : Type} [LinearOrder K] {key : α → K}

instance : Std.Total fun a b : α => key a ≤ key b := ⟨fun a b => le_total (key a) (key b)⟩

instance : IsTrans α fun a b : α => key a ≤ key b := ⟨fun _ _ _ => le_trans⟩

def empty : MinQueue key := ⟨[], .nil⟩

def push (self : MinQueue key) (a : α) : MinQueue key :=
  ⟨self.entries.orderedInsert (fun a b => key a ≤ key b) a, self.sorted.orderedInsert a _⟩

def eraseIdx (self : MinQueue key) (k : ℕ) : MinQueue key :=
  ⟨self.entries.eraseIdx k, self.sorted.sublist (List.eraseIdx_sublist _ _)⟩

/-- Pop while the least key is at most `t`: what was popped, in order, and what is left. -/
def splitDue (key : α → K) (t : K) : List α → List α × List α
  | [] => ([], [])
  | a :: as =>
    if key a ≤ t then ((a :: (splitDue key t as).1), (splitDue key t as).2) else ([], a :: as)

theorem splitDue_append (key : α → K) (t : K) (as : List α) :
    (splitDue key t as).1 ++ (splitDue key t as).2 = as := by
  induction as with
  | nil => rfl
  | cons a as ih =>
    simp only [splitDue]
    split
    · exact congrArg (a :: ·) ih
    · rfl

def popDue (self : MinQueue key) (t : K) : List α × MinQueue key :=
  ((splitDue key t self.entries).1, ⟨(splitDue key t self.entries).2,
    self.sorted.sublist (List.IsSuffix.sublist ⟨_, splitDue_append key t self.entries⟩)⟩)

variable {self : MinQueue key} {a b : α} {t : K}

theorem mem_push : b ∈ (self.push a).entries ↔ b = a ∨ b ∈ self.entries :=
  List.mem_orderedInsert _

theorem splitDue_mem {as : List α} (hs : as.Pairwise fun a b => key a ≤ key b) :
    (∀ a ∈ (splitDue key t as).1, key a ≤ t) ∧ ∀ a ∈ (splitDue key t as).2, t < key a := by
  induction as with
  | nil => simp [splitDue]
  | cons a as ih =>
    obtain ⟨ha, hs⟩ := List.pairwise_cons.mp hs
    obtain ⟨hdue, hlate⟩ := ih hs
    simp only [splitDue]
    split
    · rename_i hle
      refine ⟨fun b hb => ?_, hlate⟩
      rcases List.mem_cons.mp hb with rfl | hb
      · exact hle
      · exact hdue b hb
    · rename_i hlt
      refine ⟨by simp, fun b hb => ?_⟩
      rcases List.mem_cons.mp hb with rfl | hb
      · exact not_le.mp hlt
      · exact (not_le.mp hlt).trans_le (ha b hb)

theorem mem_popDue_fst : a ∈ (self.popDue t).1 ↔ a ∈ self.entries ∧ key a ≤ t := by
  obtain ⟨hdue, hlate⟩ := splitDue_mem (t := t) self.sorted
  have hsplit := splitDue_append key t self.entries
  constructor
  · intro ha
    exact ⟨hsplit ▸ List.mem_append_left _ ha, hdue a ha⟩
  · rintro ⟨ha, hle⟩
    rw [← hsplit, List.mem_append] at ha
    exact ha.resolve_right fun hr => (hlate a hr).not_ge hle

theorem mem_popDue_snd : a ∈ (self.popDue t).2.entries ↔ a ∈ self.entries ∧ t < key a := by
  obtain ⟨hdue, hlate⟩ := splitDue_mem (t := t) self.sorted
  have hsplit := splitDue_append key t self.entries
  constructor
  · intro ha
    exact ⟨hsplit ▸ List.mem_append_right _ ha, hlate a ha⟩
  · rintro ⟨ha, hlt⟩
    rw [← hsplit, List.mem_append] at ha
    exact ha.resolve_left fun hl => (hdue a hl).not_gt hlt

end MinQueue

end RosrustAsync
