import Mathlib.Data.List.Basic
import Mathlib.Data.Nat.Basic
import Mathlib.Order.Basic
import Mathlib.Tactic.Common

/-!
# Scans

A scan reads positions from left to right. At each position it may find a hit, which ends further right,
and goes on where the hit ends; else it goes on at the next position. What it finds may depend on whether
a hit ends where it stands. Two scans find the same hits if and only if they agree wherever one of them
stands.
-/

namespace RecompNet.Scan

/-- What a scan finds: the end of the hit at a position, given whether a hit ends there. An end that is not
after the position is no hit. -/
abbrev Finder := Bool → Nat → Nat

/-- The hits of a scan from a position on, each with its end. -/
def spans (find : Finder) (n : Nat) : Nat → Bool → Nat → List (Nat × Nat)
  | 0, _, _ => []
  | fuel + 1, after, i =>
    if n ≤ i then []
    else if i < find after i then (i, find after i) :: spans find n fuel true (find after i)
    else spans find n fuel false (i + 1)

/-- Where a scan stands, from a position on. -/
def stands (find : Finder) (n : Nat) : Nat → Bool → Nat → List (Bool × Nat)
  | 0, _, _ => []
  | fuel + 1, after, i =>
    if n ≤ i then []
    else (after, i) ::
      if i < find after i then stands find n fuel true (find after i)
      else stands find n fuel false (i + 1)

/-- A position is in one of the hits. -/
def Covers (ss : List (Nat × Nat)) (k : Nat) : Prop := ∃ s ∈ ss, s.1 ≤ k ∧ k < s.2

instance (ss : List (Nat × Nat)) (k : Nat) : Decidable (Covers ss k) := by
  unfold Covers
  infer_instance

/-- Two scans find the same at a place. -/
def Agree (find find' : Finder) (s : Bool × Nat) : Prop :=
  s.2 < find s.1 s.2 ∨ s.2 < find' s.1 s.2 → find s.1 s.2 = find' s.1 s.2

instance (find find' : Finder) (s : Bool × Nat) : Decidable (Agree find find' s) := by
  unfold Agree
  infer_instance

section
variable {find find' : Finder} {n fuel : Nat} {after : Bool} {i k : Nat}

@[simp] lemma covers_nil : ¬ Covers [] k := by
  rintro ⟨s, hs, -⟩
  cases hs

lemma covers_cons {s : Nat × Nat} {ss : List (Nat × Nat)} :
    Covers (s :: ss) k ↔ s.1 ≤ k ∧ k < s.2 ∨ Covers ss k := by
  simp only [Covers, List.mem_cons, exists_eq_or_imp]

/-- A hit starts where the scan started, or further right, and is not empty. -/
lemma spans_bounds {s : Nat × Nat} (h : s ∈ spans find n fuel after i) :
    i ≤ s.1 ∧ s.1 < s.2 ∧ s.1 < n := by
  induction fuel generalizing after i with
  | zero => cases h
  | succ fuel ih =>
    rw [spans] at h
    split_ifs at h with done hit
    · cases h
    · rcases List.mem_cons.mp h with rfl | h
      · exact ⟨le_rfl, hit, not_le.mp done⟩
      · exact ⟨hit.le.trans (ih h).1, (ih h).2⟩
    · exact ⟨(Nat.le_succ i).trans (ih h).1, (ih h).2⟩

/-- A hit was found where it starts. -/
lemma spans_found {s : Nat × Nat} (h : s ∈ spans find n fuel after i) : ∃ b, s.2 = find b s.1 := by
  induction fuel generalizing after i with
  | zero => cases h
  | succ fuel ih =>
    rw [spans] at h
    split_ifs at h with done hit
    · cases h
    · rcases List.mem_cons.mp h with rfl | h
      · exact ⟨after, rfl⟩
      · exact ih h
    · exact ih h

lemma not_covers_before (h : k < i) : ¬ Covers (spans find n fuel after i) k := by
  rintro ⟨s, hs, le, -⟩
  exact absurd ((spans_bounds hs).1.trans le) (not_le.mpr h)

/-- A scan stands at or after its start. -/
lemma stands_bounds {s : Bool × Nat} (h : s ∈ stands find n fuel after i) : i ≤ s.2 ∧ s.2 < n := by
  induction fuel generalizing after i with
  | zero => cases h
  | succ fuel ih =>
    rw [stands] at h
    split_ifs at h with done hit
    · cases h
    · rcases List.mem_cons.mp h with rfl | h
      · exact ⟨le_rfl, not_le.mp done⟩
      · exact ⟨hit.le.trans (ih h).1, (ih h).2⟩
    · rcases List.mem_cons.mp h with rfl | h
      · exact ⟨le_rfl, not_le.mp done⟩
      · exact ⟨(Nat.le_succ i).trans (ih h).1, (ih h).2⟩

/-- Two scans find the same hits if and only if they agree wherever the second one stands. -/
theorem spans_eq_iff : spans find n fuel after i = spans find' n fuel after i ↔
    ∀ s ∈ stands find' n fuel after i, Agree find find' s := by
  induction fuel generalizing after i with
  | zero => simp [spans, stands]
  | succ fuel ih =>
    rw [spans, spans, stands]
    by_cases done : n ≤ i
    · simp [done]
    · simp only [done, if_false, List.forall_mem_cons]
      by_cases here : Agree find find' (after, i)
      · simp only [here, true_and]
        by_cases hit : i < find' after i
        · have same : find after i = find' after i := here (.inr hit)
          simp only [same, hit, if_true, List.cons.injEq, true_and]
          exact ih
        · have miss : ¬ i < find after i := fun h => hit (here (.inl h) ▸ h)
          simp only [hit, miss, if_false]
          exact ih
      · -- A hit that only one of the two finds here is not found further right by the other.
        simp only [here, false_and, iff_false]
        intro same
        refine here fun _ => ?_
        split_ifs at same with hit hit' hit'
        · exact (Prod.mk.inj (List.cons.inj same).1).2
        · have mem : (i, find after i) ∈ spans find' n fuel false (i + 1) :=
            same ▸ List.mem_cons_self
          exact absurd (spans_bounds mem).1 (Nat.not_succ_le_self i)
        · have mem : (i, find' after i) ∈ spans find n fuel false (i + 1) :=
            same ▸ List.mem_cons_self
          exact absurd (spans_bounds mem).1 (Nat.not_succ_le_self i)
        · rename_i either
          exact absurd either (not_or.mpr ⟨hit, hit'⟩)

/-- Where two scans first find something else, both of them stand. -/
theorem spans_differ (differ : spans find n fuel after i ≠ spans find' n fuel after i) :
    ∃ s ∈ stands find n fuel after i, s ∈ stands find' n fuel after i ∧ ¬ Agree find find' s := by
  induction fuel generalizing after i with
  | zero => exact absurd rfl differ
  | succ fuel ih =>
    rw [spans, spans] at differ
    rw [stands, stands]
    by_cases done : n ≤ i
    · simp [done] at differ
    simp only [done, if_false] at differ ⊢
    by_cases here : Agree find find' (after, i)
    · by_cases hit : i < find' after i
      · have same : find after i = find' after i := here (.inr hit)
        simp only [same, hit, if_true] at differ ⊢
        obtain ⟨s, mem, mem', apart⟩ := ih fun e => differ (congrArg _ e)
        exact ⟨s, List.mem_cons_of_mem _ mem, List.mem_cons_of_mem _ mem', apart⟩
      · have miss : ¬ i < find after i := fun h => hit (here (.inl h) ▸ h)
        simp only [hit, miss, if_false] at differ ⊢
        obtain ⟨s, mem, mem', apart⟩ := ih differ
        exact ⟨s, List.mem_cons_of_mem _ mem, List.mem_cons_of_mem _ mem', apart⟩
    · exact ⟨(after, i), List.mem_cons_self, List.mem_cons_self, here⟩

/-- A position that no hit covers is a place where the scan stands and finds nothing, and the scan knows
there whether the position before is in a hit. -/
lemma uncovered (enough : n ≤ fuel + i) (from_start : i ≤ k) (small : k < n)
    (free : ¬ Covers (spans find n fuel after i) k) :
    ∃ b, (b, k) ∈ stands find n fuel after i ∧ ¬ k < find b k ∧ (k = i → b = after) ∧
      (k ≠ i → (b = true ↔ Covers (spans find n fuel after i) (k - 1))) := by
  induction fuel generalizing after i with
  | zero => omega
  | succ fuel ih =>
    rw [spans] at free ⊢
    rw [stands]
    have going : ¬ n ≤ i := not_le.mpr (from_start.trans_lt small)
    simp only [going, if_false] at free ⊢
    by_cases hit : i < find after i
    · simp only [hit, if_true, covers_cons, not_or] at free ⊢
      have past : find after i ≤ k := by
        by_contra h
        exact free.1 ⟨from_start, not_le.mp h⟩
      obtain ⟨b, stand, miss, edge, flag⟩ := ih (by omega) past free.2
      refine ⟨b, List.mem_cons_of_mem _ stand, miss, by omega, fun _ => ?_⟩
      by_cases close : k = find after i
      · simp only [edge close, true_iff]
        exact .inl ⟨by omega, by omega⟩
      · rw [flag close]
        exact ⟨.inr, fun h => h.resolve_left (by omega)⟩
    · simp only [hit, if_false] at free ⊢
      by_cases here : k = i
      · subst here
        exact ⟨after, List.mem_cons_self, hit, fun _ => rfl, fun ne => absurd rfl ne⟩
      · obtain ⟨b, stand, miss, edge, flag⟩ := ih (by omega) (by omega) free
        refine ⟨b, List.mem_cons_of_mem _ stand, miss, fun e => absurd e here, fun _ => ?_⟩
        by_cases close : k = i + 1
        · have before : ¬ Covers (spans find n fuel false (i + 1)) (k - 1) :=
            not_covers_before (by omega)
          simp [edge close, before]
        · exact flag close

/-- A place where a scan stands is covered if and only if a hit is found there. -/
lemma stand_covered {s : Bool × Nat} (h : s ∈ stands find n fuel after i) :
    Covers (spans find n fuel after i) s.2 ↔ s.2 < find s.1 s.2 := by
  induction fuel generalizing after i with
  | zero => cases h
  | succ fuel ih =>
    rw [stands] at h
    rw [spans]
    split_ifs at h ⊢ with done hit
    · cases h
    · rw [covers_cons]
      rcases List.mem_cons.mp h with rfl | h
      · exact ⟨fun _ => hit, fun _ => .inl ⟨le_rfl, hit⟩⟩
      · have later := (stands_bounds h).1
        rw [← ih h]
        exact ⟨fun c => c.resolve_left fun inside => absurd inside.2 (not_lt.mpr later), .inr⟩
    · rcases List.mem_cons.mp h with rfl | h
      · exact ⟨fun c => absurd c (not_covers_before (Nat.lt_succ_self i)), fun c => absurd c hit⟩
      · exact ih h

end

end RecompNet.Scan
