/-! Finite sets, kept as strictly increasing lists, so that equal sets are equal values. -/

namespace ScenarioScript

structure SortedSet (α : Type) [LT α] where
  toList : List α
  sorted : toList.Pairwise (· < ·)
  deriving DecidableEq

namespace SortedSet

variable {α : Type} [LT α] [DecidableLT α]

def insertList (x : α) : List α → List α
  | [] => [x]
  | a :: l => if x < a then x :: a :: l else if a < x then a :: insertList x l else a :: l

theorem eq_or_mem_of_mem_insertList {x y : α} {l : List α} (h : y ∈ insertList x l) :
    y = x ∨ y ∈ l := by
  induction l with
  | nil => simpa [insertList] using h
  | cons a l ih =>
    unfold insertList at h
    split at h
    · simpa using h
    · split at h
      · rcases List.mem_cons.1 h with h | h
        · simp [h]
        · rcases ih h with h | h <;> simp [h]
      · exact .inr h

theorem pairwise_insertList [LE α] [Std.IsLinearOrder α] [Std.LawfulOrderLT α] (x : α) {l : List α}
    (h : l.Pairwise (· < ·)) : (insertList x l).Pairwise (· < ·) := by
  induction l with
  | nil => simp [insertList]
  | cons a l ih =>
    obtain ⟨ha, hl⟩ := List.pairwise_cons.1 h
    unfold insertList
    split
    · next hx =>
      refine List.pairwise_cons.2 ⟨fun y hy => ?_, h⟩
      rcases List.mem_cons.1 hy with rfl | hy
      · exact hx
      · exact Std.lt_trans hx (ha y hy)
    · split
      · next hx =>
        refine List.pairwise_cons.2 ⟨fun y hy => ?_, ih hl⟩
        rcases eq_or_mem_of_mem_insertList hy with rfl | hy
        · exact hx
        · exact ha y hy
      · exact h

def empty : SortedSet α :=
  ⟨[], .nil⟩

variable [LE α] [Std.IsLinearOrder α] [Std.LawfulOrderLT α]

def insert (x : α) (s : SortedSet α) : SortedSet α :=
  ⟨insertList x s.toList, pairwise_insertList x s.sorted⟩

def ofList (l : List α) : SortedSet α :=
  l.foldr insert empty

end SortedSet

end ScenarioScript
