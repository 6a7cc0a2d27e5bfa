import Mathlib.Data.List.DropRight
import Mathlib.Data.List.Sort

/-!
# The end of a list

Selecting from the last elements of a list, against taking the last of the selected elements. The two
differ as soon as the window spends a place on an element that is not selected while an older one is;
`filter_rtake_iff` says that nothing else keeps them apart.
-/

namespace List

variable {α : Type} {l x y : List α} {n : Nat} {p q : α → Bool}

lemma rtake_of_length_le (h : l.length ≤ n) : l.rtake n = l := by
  rw [rtake.eq_def, Nat.sub_eq_zero_of_le h, drop_zero]

lemma rtake_append_right (h : y.length = n) : (x ++ y).rtake n = y := by
  rw [rtake.eq_def, length_append, h, Nat.add_sub_cancel, drop_left]

/-- The last elements of two lists in a row, when the second has no more of them than are wanted. -/
lemma rtake_append_of_le (h : y.length ≤ n) : (x ++ y).rtake n = x.rtake (n - y.length) ++ y := by
  rw [rtake.eq_def, rtake.eq_def, length_append]
  have split : x.length + y.length - n = x.length - (n - y.length) := by omega
  rw [split, drop_append_of_le_length (Nat.sub_le _ _)]

lemma length_rtake : (l.rtake n).length = min n l.length := by
  rw [rtake.eq_def, length_drop]
  omega

lemma rdrop_append_rtake : l.rdrop n ++ l.rtake n = l := take_append_drop ..

lemma rtake_sublist : (l.rtake n).Sublist l := drop_sublist ..

/-- What is selected from the last `n` is the last `n` selected by `p` iff the window selects by `p` and
is full of its choice, or no older element would be selected. -/
theorem filter_rtake_iff (sub : ∀ a, p a → q a) :
    (l.rtake n).filter q = (l.filter p).rtake n ↔
      (∀ a ∈ l.rtake n, q a → p a) ∧
        ((∀ a ∈ l.rtake n, p a) ∨ ∀ a ∈ l.rdrop n, ¬ p a) := by
  have short : (l.rtake n).length ≤ n := by
    rw [length_rtake]
    exact Nat.min_le_left ..
  have split : l.filter p = (l.rdrop n).filter p ++ (l.rtake n).filter p := by
    rw [← filter_append, rdrop_append_rtake]
  have same : (∀ a ∈ l.rtake n, q a → p a) → (l.rtake n).filter q = (l.rtake n).filter p := by
    intro h
    apply filter_congr
    intro a ha
    exact Bool.eq_iff_iff.mpr ⟨h a ha, sub a⟩
  constructor
  · intro e
    have own : ∀ a ∈ l.rtake n, q a → p a := by
      intro a ha hq
      have taken : a ∈ (l.filter p).rtake n := e ▸ mem_filter.mpr ⟨ha, hq⟩
      exact (mem_filter.mp (rtake_sublist.subset taken)).2
    refine ⟨own, ?_⟩
    rw [same own] at e
    by_cases older : ∀ a ∈ l.rdrop n, ¬ p a
    · exact .inr older
    · left
      -- The window has to be full, for an older element was left out.
      have left_out : 0 < ((l.rdrop n).filter p).length := by
        push Not at older
        obtain ⟨a, ha, hp⟩ := older
        exact length_pos_of_mem (mem_filter.mpr ⟨ha, hp⟩)
      have len := congrArg length e
      rw [length_rtake, split, length_append] at len
      have full : ((l.rtake n).filter p).length = (l.rtake n).length := by
        have fewer := length_filter_le p (l.rtake n)
        omega
      exact length_filter_eq_length_iff.mp full
  · rintro ⟨own, full | older⟩
    · have all : (l.rtake n).filter p = l.rtake n := filter_eq_self.mpr full
      rw [same own, split, all]
      by_cases long : n ≤ l.length
      · exact (rtake_append_right (by rw [length_rtake]; omega)).symm
      · have none : l.rdrop n = [] := by
          rw [rdrop.eq_def, Nat.sub_eq_zero_of_le (by omega), take_zero]
        rw [none, filter_nil, nil_append, rtake_of_length_le short]
    · have none : (l.rdrop n).filter p = [] := filter_eq_nil_iff.mpr older
      have fits : ((l.rtake n).filter p).length ≤ n := (length_filter_le ..).trans short
      rw [same own, split, none, nil_append, rtake_of_length_le fits]

end List
