import Mathlib.Data.List.Basic
import Mathlib.Data.List.Pairwise

/-! Stable sorting. A sort puts a list in order and leaves the members of each class of equals as
they stood. These two facts decide the sorted list: of a list in order the first member is in the
least class, and what the list holds of that class says which member it is. -/

namespace VirtualRecords

variable {α : Type} {le : α → α → Bool} {R : α → α → Prop} {xs : List α}

/-- Sorting leaves the members of a class of equals as they stood. -/
theorem filter_mergeSort (trans : ∀ a b c, le a b = true → le b c = true → le a c = true)
    (total : ∀ a b, (le a b || le b a) = true) {p : α → Bool}
    (equal : ∀ a b, p a = true → p b = true → le a b = true) (xs : List α) :
    (xs.mergeSort le).filter p = xs.filter p := by
  have sorted : (xs.filter p).Pairwise fun a b => le a b = true :=
    List.pairwise_of_forall_mem_list fun a inA b inB =>
      equal a b (List.of_mem_filter inA) (List.of_mem_filter inB)
  have kept : (xs.filter p).Sublist ((xs.mergeSort le).filter p) := by
    have sublist := (List.sublist_mergeSort trans total sorted List.filter_sublist).filter p
    simpa only [List.filter_filter, Bool.and_self] using sublist
  have counted : (xs.filter p).length = ((xs.mergeSort le).filter p).length :=
    ((List.mergeSort_perm xs le).filter p).length_eq.symm
  exact (kept.eq_of_length counted).symm

theorem pairwise_mergeSort_of_ties
    (trans : ∀ a b c, le a b = true → le b c = true → le a c = true)
    (total : ∀ a b, (le a b || le b a) = true) (ordered : xs.Pairwise R) :
    (xs.mergeSort le).Pairwise fun a b => le b a = true → R a b := by
  have sorted := List.pairwise_mergeSort trans total xs
  rw [List.pairwise_iff_forall_sublist] at sorted ordered ⊢
  intro a b pair back
  have forth : le a b = true := sorted pair
  have itself : le a a = true := trans a b a forth back
  let p (c : α) : Bool := le a c && le c a
  have equal : ∀ c d, p c = true → p d = true → le c d = true := by
    intro c d inC inD
    simp only [p, Bool.and_eq_true] at inC inD
    exact trans c a d inC.2 inD.1
  apply ordered
  have kept := pair.filter p
  rw [filter_mergeSort trans total equal] at kept
  have whole : [a, b].filter p = [a, b] := by simp [p, itself, forth, back]
  rw [whole] at kept
  exact kept.trans List.filter_sublist

variable {β : Type} [DecidableEq β] {key : α → β} {ys : List α}

theorem mem_of_filter_eq (same : ∀ k, (xs.filter fun a => key a = k) = ys.filter fun a => key a = k)
    {a : α} (member : a ∈ xs) : a ∈ ys := by
  have held : a ∈ xs.filter fun b => key b = key a := by simpa using member
  rw [same] at held
  exact List.mem_of_mem_filter held

/-- Lists in order are equal if they hold the same of each class of equals, in the same order. -/
theorem eq_of_filter_eq (antisymm : ∀ a b, R a b → R b a → key a = key b)
    (ordered : xs.Pairwise R) (orderedToo : ys.Pairwise R)
    (same : ∀ k, (xs.filter fun a => key a = k) = ys.filter fun a => key a = k) : xs = ys := by
  induction xs generalizing ys with
  | nil =>
    cases ys with
    | nil => rfl
    | cons y ys => simpa using same (key y)
  | cons x xs ih =>
    cases ys with
    | nil => simpa using same (key x)
    | cons y ys =>
      have heads : key x = key y := by
        rcases List.mem_cons.1 (mem_of_filter_eq same List.mem_cons_self) with rfl | xLater
        · rfl
        have back := mem_of_filter_eq (fun k => (same k).symm) List.mem_cons_self
        rcases List.mem_cons.1 back with rfl | yLater
        · rfl
        exact antisymm x y (List.rel_of_pairwise_cons ordered yLater)
          (List.rel_of_pairwise_cons orderedToo xLater)
      have first := same (key x)
      rw [List.filter_cons_of_pos (by simp), List.filter_cons_of_pos (by simp [heads])] at first
      obtain ⟨rfl, -⟩ := List.cons.inj first
      refine congrArg (x :: ·) (ih ordered.of_cons orderedToo.of_cons fun k => ?_)
      have whole := same k
      rw [List.filter_cons, List.filter_cons] at whole
      split at whole
      · exact (List.cons.inj whole).2
      · exact whole

end VirtualRecords
