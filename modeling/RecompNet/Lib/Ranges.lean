import Mathlib.Data.Prod.Lex
import Mathlib.Data.List.Find
import Mathlib.Data.List.Induction
import Mathlib.Data.List.Sort
import Mathlib.Order.Lattice
import Mathlib.Order.MinMax
import Mathlib.Tactic.Common

/-!
# Tagged ranges

Half-open ranges of a linear order, each with a tag. A table is made of a list of them by sorting
and joining touching ranges of one tag, and a position is looked up in the last range that starts at
or before it. Ranges of different tags may overlap: then a position gets the tag of a range around
it that no range of another tag follows in the order before the position, or no tag at all.
-/

namespace RecompNet.Ranges

/-- The positions from `start` to before `stop`, with a tag. -/
structure Range (α β : Type*) where
  start : α
  stop : α
  tag : β
  deriving DecidableEq

section Search

/-- A binary search between two positions: where `p` stops to hold. -/
def bisect (p : Nat → Bool) (lo hi : Nat) : Nat :=
  if lo < hi then
    let mid := (lo + hi) / 2
    if p mid then bisect p (mid + 1) hi else bisect p lo mid
  else lo
termination_by hi - lo

variable {p : Nat → Bool} {lo hi : Nat}

/-- If `p` holds up to some position, the search finds it. -/
theorem bisect_spec (down : ∀ i j, i ≤ j → j < hi → p j → p i) (le : lo ≤ hi) :
    lo ≤ bisect p lo hi ∧ bisect p lo hi ≤ hi ∧
      (∀ i, lo ≤ i → i < bisect p lo hi → p i) ∧ ∀ i, bisect p lo hi ≤ i → i < hi → ¬ p i := by
  induction lo, hi using bisect.induct p with
  | case1 lo hi lt mid here ih =>
    rw [bisect, if_pos lt]
    simp only [mid] at here ih
    simp only [here, if_true]
    obtain ⟨lower, upper, yes, no⟩ := ih down (by omega)
    refine ⟨by omega, upper, fun i le_i lt_i => ?_, no⟩
    by_cases early : i ≤ (lo + hi) / 2
    · exact down i _ early (by omega) here
    · exact yes i (by omega) lt_i
  | case2 lo hi lt mid here ih =>
    rw [bisect, if_pos lt]
    simp only [mid] at here ih
    simp only [here, Bool.false_eq_true, if_false]
    obtain ⟨lower, upper, yes, no⟩ :=
      ih (fun i j le_ij lt_j => down i j le_ij (by omega)) (by omega)
    refine ⟨lower, by omega, yes, fun i le_i lt_i => ?_⟩
    by_cases early : i < (lo + hi) / 2
    · exact no i le_i early
    · exact fun yes_i => here (down _ i (by omega) lt_i yes_i)
  | case3 lo hi done =>
    rw [bisect, if_neg done]
    exact ⟨le_rfl, le, fun i _ _ => by omega, fun i _ _ => by omega⟩

/-- The search stays between its positions, whatever is asked. -/
lemma bisect_le (le : lo ≤ hi) : bisect p lo hi ≤ hi := by
  induction lo, hi using bisect.induct p with
  | case1 lo hi lt mid here ih =>
    rw [bisect, if_pos lt]
    simp only [mid] at here ih
    simp only [here, if_true]
    exact ih (by omega)
  | case2 lo hi lt mid here ih =>
    rw [bisect, if_pos lt]
    simp only [mid] at here ih
    simp only [here, Bool.false_eq_true, if_false]
    have below := ih (by omega)
    omega
  | case3 lo hi done =>
    rw [bisect, if_neg done]
    exact le

end Search

variable {α β : Type*} [LinearOrder α] [LinearOrder β]

namespace Range

/-- A position is in a range. -/
def Covers (r : Range α β) (k : α) : Prop := r.start ≤ k ∧ k < r.stop

instance (r : Range α β) (k : α) : Decidable (r.Covers k) := inferInstanceAs (Decidable (_ ∧ _))

/-- Ranges are ordered by their start, then their stop, then their tag. -/
def rank (r : Range α β) : α ×ₗ α ×ₗ β := toLex (r.start, toLex (r.stop, r.tag))

/-- The order that ranges are sorted in. -/
def Le (r s : Range α β) : Prop := r.rank ≤ s.rank

instance : DecidableRel (Le : Range α β → Range α β → Prop) := fun r s =>
  inferInstanceAs (Decidable (r.rank ≤ s.rank))

instance : Std.Total (Le : Range α β → Range α β → Prop) := ⟨fun r s => le_total r.rank s.rank⟩

instance : IsTrans (Range α β) Le := ⟨fun _ _ _ => le_trans⟩

lemma Le.start {r s : Range α β} (h : r.Le s) : r.start ≤ s.start := by
  rcases Prod.Lex.le_iff.mp h with lt | eq
  · exact lt.le
  · exact eq.1.le

omit [LinearOrder α] [LinearOrder β] in
/-- Ranges of the same rank have the same tag. -/
lemma tag_eq {r s : Range α β} (h : r.rank = s.rank) : r.tag = s.tag := by
  have stops := congrArg Prod.snd (toLex.injective h)
  exact congrArg Prod.snd (toLex.injective stops)

end Range

open Range

/-- Take one more range into a table, newest first: join it to the newest if it has its tag and
touches it. -/
def push (out : List (Range α β)) (r : Range α β) : List (Range α β) :=
  match out with
  | [] => [r]
  | last :: rest =>
    if last.tag = r.tag ∧ r.start ≤ last.stop then
      ⟨last.start, max last.stop r.stop, last.tag⟩ :: rest
    else r :: last :: rest

/-- Sort ranges and join touching ranges of one tag. -/
def merge (rs : List (Range α β)) : List (Range α β) :=
  ((rs.insertionSort Le).foldl push []).reverse

/-- The tag of a position: that of the last range that starts at or before it, if it is in it. -/
def find (rs : List (Range α β)) (k : α) : Option β :=
  match rs.reverse.find? (·.start ≤ k) with
  | none => none
  | some r => if k < r.stop then some r.tag else none

section Merge

variable {rs : List (Range α β)} {k : α} {c : β}

/-- A position is looked up in a table, newest first. -/
def Found (out : List (Range α β)) (k : α) (c : β) : Prop :=
  ∃ r, out.find? (·.start ≤ k) = some r ∧ k < r.stop ∧ r.tag = c

/-- A range around a position has a tag, and so has every range after it that starts at or before
the position. -/
def Last (rs : List (Range α β)) (k : α) (c : β) : Prop :=
  ∃ before r after, rs = before ++ r :: after ∧ r.Covers k ∧ r.tag = c ∧
    ∀ s ∈ after, s.start ≤ k → s.tag = c

omit [LinearOrder β] in
lemma find_eq_some {out : List (Range α β)} : find out.reverse k = some c ↔ Found out k c := by
  unfold find Found
  rw [List.reverse_reverse]
  cases out.find? (·.start ≤ k) with
  | none => simp
  | some r => simp

omit [LinearOrder β] in
/-- One more range behind the others. -/
lemma last_concat {r : Range α β} : Last (rs ++ [r]) k c ↔
    r.Covers k ∧ r.tag = c ∨ Last rs k c ∧ (r.start ≤ k → r.tag = c) := by
  constructor
  · rintro ⟨before, s, after, e, covers, tag, later⟩
    rcases List.eq_nil_or_concat' after with rfl | ⟨after, t, rfl⟩
    · obtain ⟨rfl, last⟩ := List.append_inj' e rfl
      obtain rfl := (List.cons.inj last).1
      exact .inl ⟨covers, tag⟩
    · have e' : rs ++ [r] = (before ++ s :: after) ++ [t] := by simpa using e
      obtain ⟨rfl, last⟩ := List.append_inj' e' rfl
      obtain rfl := (List.cons.inj last).1
      refine .inr ⟨⟨before, s, after, rfl, covers, tag, fun u hu => ?_⟩, later r (by simp)⟩
      exact later u (by simp [hu])
  · rintro (⟨covers, tag⟩ | ⟨⟨before, s, after, rfl, covers, tag, later⟩, last⟩)
    · exact ⟨rs, r, [], rfl, covers, tag, by simp⟩
    · refine ⟨before, s, after ++ [r], by simp, covers, tag, fun u hu => ?_⟩
      rcases List.mem_append.mp hu with hu | hu
      · exact later u hu
      · obtain rfl := List.mem_singleton.mp hu
        exact last

omit [LinearOrder β] in
lemma found_cons {a : Range α β} {out : List (Range α β)} : Found (a :: out) k c ↔
    if a.start ≤ k then k < a.stop ∧ a.tag = c else Found out k c := by
  unfold Found
  rw [List.find?_cons]
  split_ifs with le <;> simp [le]

/-- Taking one more range, which starts at or after the others. -/
lemma found_push {out : List (Range α β)} {r : Range α β} (sorted : ∀ s ∈ out, s.start ≤ r.start) :
    Found (push out r) k c ↔
      r.Covers k ∧ r.tag = c ∨ Found out k c ∧ (r.start ≤ k → r.tag = c) := by
  cases out with
  | nil =>
    have nothing : ¬ Found ([] : List (Range α β)) k c := by
      rintro ⟨s, h, -⟩
      cases h
    rw [push, found_cons]
    simp only [nothing, false_and, or_false]
    split_ifs with le
    · simp [Covers, le]
    · simp [Covers, le]
  | cons last rest =>
    have first := sorted last List.mem_cons_self
    rw [push]
    by_cases join : last.tag = r.tag ∧ r.start ≤ last.stop
    · obtain ⟨tag, touch⟩ := join
      rw [if_pos ⟨tag, touch⟩, found_cons, found_cons]
      simp only
      split_ifs with le
      · constructor
        · rintro ⟨small, rfl⟩
          rcases lt_or_ge k last.stop with inside | past
          · exact .inr ⟨⟨inside, rfl⟩, fun _ => tag.symm⟩
          · have in_r := (lt_max_iff.mp small).resolve_left (not_lt.mpr past)
            exact .inl ⟨⟨touch.trans past, in_r⟩, tag.symm⟩
        · rintro (⟨covers, e⟩ | ⟨⟨inside, e⟩, -⟩)
          · exact ⟨lt_max_of_lt_right covers.2, tag.trans e⟩
          · exact ⟨lt_max_of_lt_left inside, e⟩
      · have before : ¬ r.start ≤ k := fun h => le (first.trans h)
        simp [Covers, before]
    · rw [if_neg join, found_cons]
      split_ifs with le
      · rw [found_cons, if_pos (first.trans le)]
        constructor
        · rintro ⟨small, e⟩
          exact .inl ⟨⟨le, small⟩, e⟩
        · rintro (⟨covers, e⟩ | ⟨⟨inside, e⟩, e'⟩)
          · exact ⟨covers.2, e⟩
          · exact absurd ⟨e.trans (e' le).symm, le.trans inside.le⟩ join
      · simp [Covers, le]

/-- The ranges of a table start where one of its ranges started. -/
lemma push_start {out : List (Range α β)} {r : Range α β} {b : α}
    (bound : ∀ s ∈ out, s.start ≤ b) (hr : r.start ≤ b) : ∀ s ∈ push out r, s.start ≤ b := by
  intro s hs
  unfold push at hs
  split at hs
  · exact List.mem_singleton.mp hs ▸ hr
  · split_ifs at hs
    · rcases List.mem_cons.mp hs with rfl | hs
      · rename_i last _ _
        exact bound last List.mem_cons_self
      · exact bound s (List.mem_cons_of_mem _ hs)
    · rcases List.mem_cons.mp hs with rfl | hs
      · exact hr
      · exact bound s hs

/-- Taking one more range behind the others keeps a table sorted, newest first. -/
lemma push_sorted {out : List (Range α β)} {r : Range α β}
    (sorted : out.Pairwise fun r s => s.start ≤ r.start) (bound : ∀ s ∈ out, s.start ≤ r.start) :
    (push out r).Pairwise fun r s => s.start ≤ r.start := by
  unfold push
  split
  · exact List.pairwise_singleton _ _
  · split_ifs
    · exact List.pairwise_cons.mpr (List.pairwise_cons.mp sorted)
    · exact List.pairwise_cons.mpr ⟨bound, sorted⟩

lemma starts_bound {b : α} (bound : ∀ s ∈ rs, s.start ≤ b) :
    ∀ s ∈ rs.foldl push [], s.start ≤ b := by
  induction rs using List.reverseRecOn with
  | nil => exact fun s hs => absurd hs List.not_mem_nil
  | append_singleton rs r ih =>
    rw [List.foldl_append]
    refine push_start (ih fun s hs => bound s (List.mem_append_left _ hs)) (bound r (by simp))

/-- A table of sorted ranges gives a position the tag of the last range around it, unless a range of
another tag follows that. -/
lemma found_foldl (sorted : rs.Pairwise Le) : Found (rs.foldl push []) k c ↔ Last rs k c := by
  induction rs using List.reverseRecOn with
  | nil =>
    constructor
    · rintro ⟨r, h, -⟩
      cases h
    · rintro ⟨before, r, after, e, -⟩
      simp at e
  | append_singleton rs r ih =>
    obtain ⟨front, -, cross⟩ := List.pairwise_append.mp sorted
    have below : ∀ s ∈ rs, s.start ≤ r.start := fun s hs => (cross s hs r (by simp)).start
    rw [List.foldl_append, last_concat]
    refine (found_push (starts_bound below)).trans ?_
    exact or_congr_right (and_congr_left fun _ => ih front)

/-- In the table that is made of a list of ranges a position has a tag if and only if some range
with that tag is around it and every range behind that in the order that starts at or before the
position has the tag.
-/
theorem find_merge : find (merge rs) k = some c ↔ ∃ r ∈ rs, r.Covers k ∧ r.tag = c ∧
    ∀ s ∈ rs, r.rank < s.rank → s.start ≤ k → s.tag = c := by
  have sorted : (rs.insertionSort Le).Pairwise Le := List.pairwise_insertionSort Le rs
  have mem : ∀ s, s ∈ rs.insertionSort Le ↔ s ∈ rs := fun s => List.mem_insertionSort Le
  rw [merge, find_eq_some, found_foldl sorted]
  constructor
  · rintro ⟨before, r, after, e, covers, tag, later⟩
    refine ⟨r, (mem r).mp (e ▸ by simp), covers, tag, fun s hs lt => ?_⟩
    rw [← mem, e] at hs
    rw [e] at sorted
    rcases List.mem_append.mp hs with early | hs
    · have le : s.rank ≤ r.rank := (List.pairwise_append.mp sorted).2.2 s early r (by simp)
      exact absurd lt (not_lt.mpr le)
    · rcases List.mem_cons.mp hs with rfl | hs
      · exact absurd lt (lt_irrefl _)
      · exact later s hs
  · rintro ⟨r, hr, covers, tag, later⟩
    obtain ⟨before, after, e⟩ := List.append_of_mem ((mem r).mpr hr)
    refine ⟨before, r, after, e, covers, tag, fun s hs le => ?_⟩
    have mem_s : s ∈ rs := (mem s).mp (e ▸ by simp [hs])
    rw [e] at sorted
    have behind : r.rank ≤ s.rank :=
      (List.pairwise_cons.mp (List.pairwise_append.mp sorted).2.1).1 s hs
    rcases behind.lt_or_eq with lt | same
    · exact later s mem_s lt le
    · exact (tag_eq same).symm.trans tag

end Merge

section Table

variable {rs : List (Range α β)} {k : α}

/-- A table is sorted by the starts of its ranges. -/
lemma merge_sorted (rs : List (Range α β)) : (merge rs).Pairwise fun r s => r.start ≤ s.start := by
  have sorted : (rs.insertionSort Le).Pairwise Le := List.pairwise_insertionSort Le rs
  rw [merge, List.pairwise_reverse]
  generalize rs.insertionSort Le = rs at sorted
  induction rs using List.reverseRecOn with
  | nil => exact .nil
  | append_singleton rs r ih =>
    obtain ⟨front, -, cross⟩ := List.pairwise_append.mp sorted
    have below := starts_bound fun s hs => (cross s hs r (by simp)).start
    rw [List.foldl_append]
    exact push_sorted (ih front) below

/-- A range of a table starts where one of its tag started and ends where one ended. -/
lemma merge_ends {r : Range α β} (hr : r ∈ merge rs) :
    (∃ a ∈ rs, r.start = a.start ∧ r.tag = a.tag) ∧ ∃ b ∈ rs, r.stop = b.stop := by
  have joined : ∀ rs : List (Range α β), ∀ r ∈ rs.foldl push [],
      (∃ a ∈ rs, r.start = a.start ∧ r.tag = a.tag) ∧ ∃ b ∈ rs, r.stop = b.stop := by
    intro rs
    induction rs using List.reverseRecOn with
    | nil => exact fun r hr => absurd hr List.not_mem_nil
    | append_singleton rs s ih =>
      have keep : ∀ r, r ∈ rs.foldl push [] →
          (∃ a ∈ rs ++ [s], r.start = a.start ∧ r.tag = a.tag) ∧
            ∃ b ∈ rs ++ [s], r.stop = b.stop := by
        intro r hr
        obtain ⟨⟨a, ha, start⟩, b, hb, stop⟩ := ih r hr
        exact ⟨⟨a, List.mem_append_left _ ha, start⟩, b, List.mem_append_left _ hb, stop⟩
      have fresh : (∃ a ∈ rs ++ [s], s.start = a.start ∧ s.tag = a.tag) ∧
          ∃ b ∈ rs ++ [s], s.stop = b.stop := ⟨⟨s, by simp, rfl, rfl⟩, s, by simp, rfl⟩
      intro r hr
      rw [List.foldl_append] at hr
      simp only [List.foldl_cons, List.foldl_nil] at hr
      generalize rs.foldl push [] = out at hr keep
      unfold push at hr
      split at hr
      · obtain rfl := List.mem_singleton.mp hr
        exact fresh
      · rename_i last rest
        split_ifs at hr with join
        · rcases List.mem_cons.mp hr with rfl | hr
          · obtain ⟨start, stop⟩ := keep last List.mem_cons_self
            refine ⟨start, ?_⟩
            rcases max_choice last.stop s.stop with e | e
            · simp only [e]
              exact stop
            · simp only [e]
              exact fresh.2
          · exact keep r (List.mem_cons_of_mem _ hr)
        · rcases List.mem_cons.mp hr with rfl | hr
          · exact fresh
          · exact keep r hr
  have mem : ∀ s, s ∈ rs.insertionSort Le ↔ s ∈ rs := fun s => List.mem_insertionSort Le
  obtain ⟨⟨a, ha, start⟩, b, hb, stop⟩ := joined _ r (List.mem_reverse.mp hr)
  exact ⟨⟨a, (mem a).mp ha, start⟩, b, (mem b).mp hb, stop⟩

omit [LinearOrder β] in
/-- Looking up in a table whose ranges are mapped to others that a position is in or out of alike.
-/
lemma find_map {γ : Type*} [LinearOrder γ] {f : Range α β → Range γ β} {l : γ}
    (same : ∀ r ∈ rs, ((f r).start ≤ l ↔ r.start ≤ k) ∧ (l < (f r).stop ↔ k < r.stop) ∧
      (f r).tag = r.tag) : find (rs.map f) l = find rs k := by
  unfold find
  rw [← List.map_reverse, List.find?_map]
  have pred : rs.reverse.find? ((fun r => decide (r.start ≤ l)) ∘ f) =
      rs.reverse.find? fun r => decide (r.start ≤ k) := by
    refine List.find?_congr fun r hr => ?_
    exact decide_eq_decide.mpr (same r (List.mem_reverse.mp hr)).1
  rw [pred]
  cases found : rs.reverse.find? fun r => decide (r.start ≤ k) with
  | none => rfl
  | some r =>
    obtain ⟨-, stop, tag⟩ := same r (List.mem_reverse.mp (List.mem_of_find?_eq_some found))
    simp only [Option.map_some, tag, stop]

omit [LinearOrder β] in
/-- A binary search over the starts of a sorted table that is read by index finds the range to look
in. -/
theorem find_bisect {p : Nat → Bool} {inside : Nat → Prop} [DecidablePred inside]
    {code : Nat → Option β} (sorted : rs.Pairwise fun r s => r.start ≤ s.start)
    (reads : ∀ i r, rs[i]? = some r →
      (p i ↔ r.start ≤ k) ∧ (inside i ↔ r.Covers k) ∧ code i = some r.tag) :
    (if bisect p 0 rs.length = 0 then none
      else if inside (bisect p 0 rs.length - 1) then code (bisect p 0 rs.length - 1) else none) =
      find rs k := by
  have at_index : ∀ i, (small : i < rs.length) → (p i ↔ rs[i].start ≤ k) := fun i small =>
    (reads i _ (List.getElem?_eq_getElem small)).1
  obtain ⟨-, within, yes, no⟩ := @bisect_spec p 0 rs.length (fun i j le small hj => by
    have mono : rs[i].start ≤ rs[j].start := by
      rcases le.lt_or_eq with lt | rfl
      · exact List.pairwise_iff_getElem.mp sorted i j (by omega) small lt
      · exact le_rfl
    exact (at_index i (by omega)).mpr (mono.trans ((at_index j small).mp hj))) (Nat.zero_le _)
  generalize bisect p 0 rs.length = lo at within yes no
  have late : (rs.drop lo).reverse.find? (·.start ≤ k) = none := by
    rw [List.find?_eq_none]
    intro r hr
    obtain ⟨i, small, rfl⟩ := List.mem_iff_getElem.mp (List.mem_reverse.mp hr)
    rw [List.length_drop] at small
    rw [List.getElem_drop, decide_eq_true_iff, ← at_index (lo + i) (by omega)]
    exact no (lo + i) (by omega) (by omega)
  unfold find
  rw [← List.take_append_drop lo rs, List.reverse_append, List.find?_append, late, Option.none_or]
  cases lo with
  | zero => simp
  | succ m =>
    have small : m < rs.length := by omega
    have here : rs[m].start ≤ k := (at_index m small).mp (yes m (Nat.zero_le _) (by omega))
    obtain ⟨-, covers, tag⟩ := reads m _ (List.getElem?_eq_getElem small)
    rw [if_neg (Nat.succ_ne_zero m), Nat.add_sub_cancel, List.take_add_one,
      List.getElem?_eq_getElem small, Option.toList_some, List.reverse_append,
      List.reverse_singleton, List.singleton_append, List.find?_cons_of_pos (by simpa using here),
      tag]
    simp only [covers, Covers, here, true_and]

end Table

section Scan

/-- The tag of the first range around a position, from a scan of them all. -/
def scan (rs : List (Range α β)) (k : α) : Option β := (rs.find? (·.Covers k)).map (·.tag)

/-- Ranges in the order of their starts that have no position in common, and of which no empty one
starts inside one before it. -/
structure Tidy (rs : List (Range α β)) : Prop where
  sorted : rs.Pairwise fun r s => r.start ≤ s.start
  disjoint : rs.Pairwise fun r s => ∀ k, ¬ (r.Covers k ∧ s.Covers k)
  outside : rs.Pairwise fun r s => s.stop ≤ s.start → ¬ r.Covers s.start

variable {rs : List (Range α β)} {k : α}

omit [LinearOrder β] in
/-- Ranges are tidy if and only if each starts at or after the start and the stop of those before.
-/
lemma tidy_iff : Tidy rs ↔ rs.Pairwise fun r s => r.start ≤ s.start ∧ r.stop ≤ s.start := by
  constructor
  · rintro ⟨sorted, disjoint, outside⟩
    have apart := List.pairwise_and_iff.mpr ⟨disjoint, outside⟩
    refine (List.pairwise_and_iff.mpr ⟨sorted, apart⟩).imp ?_
    rintro r s ⟨le, apart, hole⟩
    refine ⟨le, not_lt.mp fun inside => ?_⟩
    rcases lt_or_ge s.start s.stop with some_in | empty
    · exact apart s.start ⟨⟨le, inside⟩, le_rfl, some_in⟩
    · exact hole empty ⟨le, inside⟩
  · intro after
    refine ⟨after.imp fun h => h.1, after.imp fun h k => ?_, after.imp fun h _ => ?_⟩
    · rintro ⟨⟨-, early⟩, late, -⟩
      exact absurd (early.trans_le (h.2.trans late)) (lt_irrefl _)
    · rintro ⟨-, early⟩
      exact absurd (early.trans_le h.2) (lt_irrefl _)

omit [LinearOrder β] in
/-- A position is in one range of tidy ones at most. -/
lemma Tidy.unique (tidy : Tidy rs) {i j : Nat} {r s : Range α β} (hr : rs[i]? = some r)
    (hs : rs[j]? = some s) (in_r : r.Covers k) (in_s : s.Covers k) : j = i := by
  obtain ⟨small_i, rfl⟩ := List.getElem?_eq_some_iff.mp hr
  obtain ⟨small_j, rfl⟩ := List.getElem?_eq_some_iff.mp hs
  have apart := List.pairwise_iff_getElem.mp tidy.disjoint
  rcases lt_trichotomy i j with lt | rfl | lt
  · exact absurd ⟨in_r, in_s⟩ (apart i j small_i small_j lt k)
  · rfl
  · exact absurd ⟨in_s, in_r⟩ (apart j i small_j small_i lt k)

omit [LinearOrder β] in
/-- In tidy ranges the last one that starts at or before a position is the one around it. -/
lemma Tidy.find_covers (tidy : Tidy rs) {r : Range α β} (hr : r ∈ rs) (covers : r.Covers k) :
    find rs k = some r.tag := by
  obtain ⟨before, after, rfl⟩ := List.append_of_mem hr
  have behind := (List.pairwise_cons.mp (List.pairwise_append.mp (tidy_iff.mp tidy)).2.1).1
  have late : after.reverse.find? (·.start ≤ k) = none := by
    rw [List.find?_eq_none]
    intro s hs early
    have stop := (behind s (List.mem_reverse.mp hs)).2
    exact absurd (covers.2.trans_le (stop.trans (of_decide_eq_true early))) (lt_irrefl _)
  have here : (before ++ r :: after).reverse.find? (·.start ≤ k) = some r := by
    rw [List.reverse_append, List.reverse_cons, List.append_assoc, List.find?_append, late,
      Option.none_or, List.singleton_append, List.find?_cons_of_pos (by simpa using covers.1)]
  simp only [find, here, if_pos covers.2]

omit [LinearOrder β] in
/-- A position outside all ranges is not found. -/
lemma find_none (out : ∀ r ∈ rs, ¬ r.Covers k) : find rs k = none := by
  unfold find
  cases found : rs.reverse.find? (·.start ≤ k) with
  | none => rfl
  | some r =>
    have start : r.start ≤ k := by simpa using List.find?_some found
    have hr := out r (List.mem_reverse.mp (List.mem_of_find?_eq_some found))
    exact if_neg fun stop => hr ⟨start, stop⟩

omit [LinearOrder β] in
/-- In tidy ranges the search finds what a scan finds. -/
theorem Tidy.find_eq_scan (tidy : Tidy rs) : find rs k = scan rs k := by
  unfold scan
  cases found : rs.find? (·.Covers k) with
  | none =>
    rw [List.find?_eq_none] at found
    exact find_none fun r hr covers => found r hr (decide_eq_true covers)
  | some r =>
    have covers : r.Covers k := by simpa using List.find?_some found
    exact tidy.find_covers (List.mem_of_find?_eq_some found) covers

end Scan

end RecompNet.Ranges
