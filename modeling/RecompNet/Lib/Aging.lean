import Mathlib.Data.List.Basic
import Mathlib.Order.Basic

/-!
# Rows that age

A table whose rows carry the time at which they were written. `since` is the part of it that is no older
than a window, which is both what a query over a sliding window reads and what a sweep with that cutoff
leaves. The main rule is `since_since`: a sweep is invisible to every later query over a window that is
no longer than the cutoff.
-/

namespace Aging

variable {α : Type} (stamp : α → Nat)

/-- The rows that are no older than a window when the clock reads `now`. -/
def since (window now : Nat) (rows : List α) : List α :=
  rows.filter fun r => now ≤ stamp r + window

variable {stamp} {window cut now now' : Nat} {rows : List α} {r : α}

lemma mem_since : r ∈ since stamp window now rows ↔ r ∈ rows ∧ now ≤ stamp r + window := by
  simp only [since, List.mem_filter, decide_eq_true_eq]

lemma since_sublist : (since stamp window now rows).Sublist rows := List.filter_sublist

@[simp] lemma since_append {rows' : List α} : since stamp window now (rows ++ rows') =
    since stamp window now rows ++ since stamp window now rows' := List.filter_append ..

/-- Rows leave a window as time passes, and none enters it. -/
lemma since_later (h : now ≤ now') :
    (since stamp window now' rows).Sublist (since stamp window now rows) := by
  apply List.monotone_filter_right
  intro r hr
  rw [decide_eq_true_eq] at hr ⊢
  exact Nat.le_trans h hr

/-- A sweep leaves what a later query reads, when it keeps at least the window of the query. -/
lemma since_since (hw : window ≤ cut) (h : now ≤ now') :
    since stamp window now' (since stamp cut now rows) = since stamp window now' rows := by
  unfold since
  rw [List.filter_filter]
  apply List.filter_congr
  intro r _
  rw [Bool.and_eq_left_iff_imp]
  intro hr
  rw [decide_eq_true_eq] at hr ⊢
  omega

/-- Selecting rows by what they say commutes with their age. -/
lemma since_filter {p : α → Bool} :
    since stamp window now (rows.filter p) = (since stamp window now rows).filter p :=
  List.filter_comm ..

/-- No more than `n` rows fall into any stretch of time as long as the window, both ends included. -/
def Limited (stamp : α → Nat) (window n : Nat) (rows : List α) : Prop :=
  ∀ start, (rows.filter fun r => start ≤ stamp r ∧ stamp r ≤ start + window).length ≤ n

lemma Limited.sublist {rows' : List α} {n : Nat} (h : Limited stamp window n rows')
    (sub : rows.Sublist rows') : Limited stamp window n rows :=
  fun start => Nat.le_trans (sub.filter _).length_le (h start)

/-- **A row written now** keeps to the limit exactly when the window that ends now has room for it. -/
lemma limited_append_iff {n : Nat} (dated : ∀ r ∈ rows, stamp r ≤ now) (written : stamp r = now) :
    Limited stamp window n (rows ++ [r]) ↔
      Limited stamp window n rows ∧ (since stamp window now rows).length < n := by
  constructor
  · intro h
    refine ⟨h.sublist (List.sublist_append_left _ _), ?_⟩
    have last := h (now - window)
    have young : (rows.filter fun r => now - window ≤ stamp r ∧ stamp r ≤ now - window + window) =
        since stamp window now rows := by
      refine List.filter_congr fun x hx => ?_
      have := dated x hx
      rw [decide_eq_decide]
      omega
    have mine : ([r].filter fun r => now - window ≤ stamp r ∧ stamp r ≤ now - window + window) = [r] :=
      List.filter_cons_of_pos (decide_eq_true (by omega))
    rw [List.filter_append, young, mine, List.length_append, List.length_singleton] at last
    exact last
  · rintro ⟨h, room⟩ start
    rw [List.filter_append, List.length_append]
    by_cases inside : start ≤ stamp r ∧ stamp r ≤ start + window
    · -- whatever else is in the stretch is in the window that ends now
      have others : (rows.filter fun r => start ≤ stamp r ∧ stamp r ≤ start + window).Sublist
          (since stamp window now rows) := by
        refine List.monotone_filter_right _ fun x hx => ?_
        rw [decide_eq_true_eq] at hx ⊢
        omega
      have one := List.length_filter_le (fun r => decide (start ≤ stamp r ∧ stamp r ≤ start + window)) [r]
      have := others.length_le
      rw [List.length_singleton] at one
      omega
    · rw [List.filter_cons_of_neg (by simpa using inside), List.filter_nil]
      exact h start

/-- A table swept to a cutoff: nothing older is left, everything else is, and nothing is added. -/
structure Swept (stamp : α → Nat) (cut now : Nat) (before after : List α) : Prop where
  fresh : ∀ r ∈ after, now ≤ stamp r + cut
  kept : ∀ r ∈ before, now ≤ stamp r + cut → r ∈ after
  only : after.Sublist before

lemma since_swept : Swept stamp cut now rows (since stamp cut now rows) where
  fresh _ hr := (mem_since.mp hr).2
  kept _ hr young := mem_since.mpr ⟨hr, young⟩
  only := since_sublist

/-- A table that no sweep touched is swept iff no row of it is too old. -/
lemma swept_self_iff : Swept stamp cut now rows rows ↔ ∀ r ∈ rows, now ≤ stamp r + cut := by
  constructor
  · exact fun h => h.fresh
  · exact fun h => ⟨h, fun _ hr _ => hr, .refl _⟩

end Aging
