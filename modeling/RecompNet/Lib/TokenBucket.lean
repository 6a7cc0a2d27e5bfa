import Mathlib.Algebra.Order.Field.Basic
import Mathlib.Data.List.Induction
import Mathlib.Data.List.Sort
import Mathlib.Tactic.Common
import Mathlib.Tactic.Linarith
import Mathlib.Tactic.Ring

/-!
# Token buckets

A bucket holds up to `burst` tokens and is refilled at `rate` when a token is asked for. The number of
tokens that are left plus those that the time still to come refills bounds what a window can take
(`takes_window`), and the bucket is short of a token only where some window asked for more than the bound
(`takes_all`).
-/

namespace TokenBucket

variable {K : Type} [Field K] [LinearOrder K]

/-- The tokens of a bucket and the time of the last call; a new bucket has had none. -/
structure Bucket (K : Type) where
  tokens : K
  last : Option K

/-- The tokens at a time, after the refill. -/
def level (burst rate : K) (b : Bucket K) (t : K) : K :=
  match b.last with
  | none => b.tokens
  | some last => min (b.tokens + (t - last) * rate) burst

/-- Ask for one token. -/
def take (burst rate : K) (b : Bucket K) (t : K) : Bucket K × Bool :=
  if 1 ≤ level burst rate b t then (⟨level burst rate b t - 1, some t⟩, true)
  else (⟨level burst rate b t, some t⟩, false)

/-- The calls at some times, each with its outcome. -/
def takes (burst rate : K) : Bucket K → List K → List (K × Bool)
  | _, [] => []
  | b, t :: ts => (t, (take burst rate b t).2) :: takes burst rate (take burst rate b t).1 ts

/-- The bucket after some calls. -/
def after (burst rate : K) (b : Bucket K) (ts : List K) : Bucket K :=
  ts.foldl (fun b t => (take burst rate b t).1) b

/-- A new bucket is full. -/
def full (burst : K) : Bucket K := ⟨burst, none⟩

/-- Is a call within the window of a length from a time on? -/
def within (s len t : K) : Bool := s ≤ t ∧ t ≤ s + len

/-- How many of these calls got a token within a window. -/
def taken (s len : K) (calls : List (K × Bool)) : Nat :=
  calls.countP fun c => c.2 && within s len c.1

/-- No window has more calls than a full bucket and its refills allow. -/
def Sparing (burst rate : K) (ts : List K) : Prop :=
  ∀ s len, 0 ≤ len → (ts.countP (within s len) : K) ≤ burst + rate * len

variable {burst rate : K} {b : Bucket K} {ts : List K} {s t len : K}

lemma takes_append {us : List K} : takes burst rate b (ts ++ us) =
    takes burst rate b ts ++ takes burst rate (after burst rate b ts) us := by
  induction ts generalizing b with
  | nil => rfl
  | cons t ts ih =>
    simp only [List.cons_append, takes, after, List.foldl_cons, List.cons.injEq, true_and]
    exact ih

lemma after_snoc : after burst rate b (ts ++ [t]) = (take burst rate (after burst rate b ts) t).1 := by
  rw [after, List.foldl_append]
  rfl

lemma takes_times : (takes burst rate b ts).map Prod.fst = ts := by
  induction ts generalizing b with
  | nil => rfl
  | cons t ts ih => simp only [takes, List.map_cons, ih]

/-- Calls that are too late for a count are not counted. -/
lemma takes_none {p : K × Bool → Bool} (h : ∀ u ∈ ts, ∀ ok, ¬ p (u, ok)) :
    (takes burst rate b ts).countP p = 0 := by
  refine List.countP_eq_zero.mpr fun c hc => ?_
  have hts : c.1 ∈ ts := by
    rw [← @takes_times K _ _ burst rate b ts]
    exact List.mem_map_of_mem hc
  exact h c.1 hts c.2

lemma take_last : (take burst rate b t).1.last = some t := by
  unfold take
  split <;> rfl

lemma level_le (h : b.tokens ≤ burst) : level burst rate b t ≤ burst := by
  unfold level
  split
  · exact h
  · exact min_le_right _ _

/-- A call leaves in the bucket what was in it, less the token it took. -/
lemma take_level : (take burst rate b t).1.tokens + (if (take burst rate b t).2 then 1 else 0) =
    level burst rate b t := by
  unfold take
  split
  · exact sub_add_cancel _ _
  · exact add_zero _

variable [IsStrictOrderedRing K]

lemma level_nonneg (hb : 0 ≤ burst) (hr : 0 ≤ rate) (h : 0 ≤ b.tokens)
    (later : ∀ last ∈ b.last, last ≤ t) : 0 ≤ level burst rate b t := by
  unfold level
  split
  · exact h
  · rename_i last e
    exact le_min (add_nonneg h (mul_nonneg (sub_nonneg.mpr (later last e)) hr)) hb

lemma take_tokens_nonneg (h : 0 ≤ level burst rate b t) : 0 ≤ (take burst rate b t).1.tokens := by
  unfold take
  split
  · rename_i one
    exact sub_nonneg.mpr one
  · exact h

lemma take_tokens_le (h : b.tokens ≤ burst) : (take burst rate b t).1.tokens ≤ burst := by
  have filled := @level_le K _ _ burst rate b t h
  rw [← take_level] at filled
  split at filled
  · exact (le_add_of_nonneg_right zero_le_one).trans filled
  · rwa [add_zero] at filled

/-! ## What a window can take -/

/-- Up to a time, no more tokens are taken than the bucket holds and is refilled with. -/
lemma takes_until (hb : 0 ≤ burst) (hr : 0 ≤ rate) {u last : K} (sorted : ts.Pairwise (· ≤ ·))
    (hlast : b.last = some last) (later : ∀ t ∈ ts, last ≤ t) (hu : last ≤ u)
    (stock : 0 ≤ b.tokens) :
    ((takes burst rate b ts).countP (fun c => c.2 && c.1 ≤ u) : K) ≤
      b.tokens + (u - last) * rate := by
  have refill : ∀ {last}, last ≤ u → 0 ≤ (u - last) * rate := fun h =>
    mul_nonneg (sub_nonneg.mpr h) hr
  induction ts generalizing b last with
  | nil =>
    rw [takes, List.countP_nil, Nat.cast_zero]
    exact add_nonneg stock (refill hu)
  | cons t ts ih =>
    have here : last ≤ t := later t List.mem_cons_self
    obtain ⟨ordered, sorted⟩ := List.pairwise_cons.mp sorted
    rw [takes, List.countP_cons]
    rcases le_or_gt t u with early | late
    · have grown : level burst rate b t ≤ b.tokens + (t - last) * rate := by
        rw [level, hlast]
        exact min_le_left _ _
      have filled : 0 ≤ level burst rate b t := by
        refine level_nonneg hb hr stock fun l hl => ?_
        rw [hlast] at hl
        exact Option.some.inj hl ▸ here
      have rest := ih sorted take_last ordered early (take_tokens_nonneg filled)
      have left := @take_level K _ _ burst rate b t
      have parts : (u - last) * rate = (t - last) * rate + (u - t) * rate := by ring
      simp only [early, decide_true, Bool.and_true]
      push_cast
      linarith
    · rw [takes_none fun v hv ok both => ?_]
      · simpa [not_le.mpr late] using add_nonneg stock (refill hu)
      · rw [Bool.and_eq_true, decide_eq_true_eq] at both
        exact absurd both.2 (not_le.mpr (late.trans_le (ordered v hv)))

/-- **No window takes more than a full bucket and its refills.** -/
theorem takes_window (hb : 0 ≤ burst) (hr : 0 ≤ rate) (sorted : ts.Pairwise (· ≤ ·))
    (later : ∀ last ∈ b.last, ∀ t ∈ ts, last ≤ t) (stock : 0 ≤ b.tokens) (fits : b.tokens ≤ burst)
    (hlen : 0 ≤ len) :
    (taken s len (takes burst rate b ts) : K) ≤ burst + rate * len := by
  have bound : 0 ≤ burst + rate * len := add_nonneg hb (mul_nonneg hr hlen)
  induction ts generalizing b with
  | nil =>
    rw [takes, taken, List.countP_nil, Nat.cast_zero]
    exact bound
  | cons t ts ih =>
    obtain ⟨ordered, sorted⟩ := List.pairwise_cons.mp sorted
    have filled : 0 ≤ level burst rate b t := by
      exact level_nonneg hb hr stock fun l hl => later l hl t List.mem_cons_self
    have next := @ih (take burst rate b t).1 sorted (fun l hl => by
      rw [take_last] at hl
      exact Option.some.inj hl ▸ ordered) (take_tokens_nonneg filled) (take_tokens_le fits)
    rw [takes, taken, List.countP_cons]
    rcases lt_or_ge t s with early | begun
    · -- before the window
      have out : within s len t = false := by simp [within, not_le.mpr early]
      rw [out, Bool.and_false, if_neg Bool.false_ne_true, add_zero]
      exact next
    · rcases le_or_gt t (s + len) with inside | late
      · -- the first call of the window finds at most a full bucket
        have rest := @takes_until K _ _ burst rate (take burst rate b t).1 ts _ hb hr (s + len) t
          sorted take_last ordered inside (take_tokens_nonneg filled)
        have fewer : (takes burst rate (take burst rate b t).1 ts).countP
            (fun c => c.2 && within s len c.1) ≤
            (takes burst rate (take burst rate b t).1 ts).countP
              (fun c => c.2 && c.1 ≤ s + len) := by
          refine List.countP_mono_left fun c _ hc => ?_
          simp only [within, Bool.and_eq_true, decide_eq_true_eq] at hc ⊢
          exact ⟨hc.1, hc.2.2⟩
        have fewer := (Nat.cast_le (α := K)).mpr fewer
        have left := @take_level K _ _ burst rate b t
        have most := @level_le K _ _ burst rate b t fits
        have parts : (s + len - t) * rate ≤ rate * len := by
          rw [mul_comm rate len]
          exact mul_le_mul_of_nonneg_right (by linarith) hr
        have here : within s len t = true := by simp [within, begun, inside]
        rw [here, Bool.and_true]
        push_cast
        linarith
      · -- after the window
        have out : within s len t = false := by simp [within, not_le.mpr late]
        rw [out, Bool.and_false, takes_none fun v hv ok both => ?_]
        · simpa using bound
        · simp only [within, Bool.and_eq_true, decide_eq_true_eq] at both
          exact absurd both.2.2 (not_le.mpr (late.trans_le (ordered v hv)))

/-! ## Who is never refused -/

/-- The tokens that are left are at least those of a full bucket, with all refills since a time and
without the calls since then. -/
def Saved (burst rate : K) (ts : List K) (now stock : K) : Prop :=
  ∃ c ≤ now, burst + rate * (now - c) - (ts.countP (c ≤ ·) : K) ≤ stock

lemma Saved.level {last : K} (h : Saved burst rate ts last b.tokens) (hlast : b.last = some last)
    (later : last ≤ t) : Saved burst rate ts t (level burst rate b t) := by
  obtain ⟨c, hc, stock⟩ := h
  have refilled : TokenBucket.level burst rate b t =
      min (b.tokens + (t - last) * rate) burst := by rw [TokenBucket.level, hlast]
  rw [refilled]
  rcases le_total (b.tokens + (t - last) * rate) burst with below | full
  · refine ⟨c, hc.trans later, ?_⟩
    rw [min_eq_left below]
    linarith
  · refine ⟨t, le_rfl, ?_⟩
    rw [min_eq_right full, sub_self, mul_zero, add_zero]
    exact sub_le_self _ (Nat.cast_nonneg _)

/-- A call finds a token unless the calls of some window up to it are too many. -/
lemma Saved.finds {stock : K} (h : Saved burst rate ts t stock) (sparing : Sparing burst rate (ts ++ [t]))
    (sorted : ∀ u ∈ ts, u ≤ t) :
    1 ≤ stock ∧ Saved burst rate (ts ++ [t]) t (stock - 1) := by
  obtain ⟨c, hc, left⟩ := h
  have all : (ts ++ [t]).countP (within c (t - c)) = ts.countP (c ≤ ·) + 1 := by
    rw [List.countP_append, List.countP_singleton]
    congr 1
    · refine List.countP_congr fun u hu => ?_
      simp [within, sorted u hu]
    · simp [within, hc]
  have few := sparing c (t - c) (sub_nonneg.mpr hc)
  rw [all] at few
  push_cast at few
  refine ⟨by linarith, c, hc, ?_⟩
  rw [List.countP_append, List.countP_singleton, decide_eq_true hc, if_pos rfl]
  push_cast
  linarith

lemma Sparing.prefix_ {us : List K} (h : Sparing burst rate (ts ++ us)) : Sparing burst rate ts := by
  intro s len hlen
  have fewer : ts.countP (within s len) ≤ (ts ++ us).countP (within s len) :=
    (List.sublist_append_left ts us).countP_le
  exact (Nat.cast_le.mpr fewer).trans (h s len hlen)

/-- **A sender whose calls never exceed the rate gets every token.** -/
theorem takes_all (sorted : ts.Pairwise (· ≤ ·)) (sparing : Sparing burst rate ts) :
    ∀ c ∈ takes burst rate (full burst) ts, c.2 = true := by
  -- by induction on the calls so far, with what they leave in the bucket
  have kept : (∀ c ∈ takes burst rate (full burst) ts, c.2 = true) ∧
      (after burst rate (full burst) ts = full burst ∧ ts = [] ∨
        ∃ last ∈ ts, (after burst rate (full burst) ts).last = some last ∧
          Saved burst rate ts last (after burst rate (full burst) ts).tokens) := by
    induction ts using List.reverseRecOn with
    | nil => exact ⟨nofun, .inl ⟨rfl, rfl⟩⟩
    | append_singleton ts t ih =>
      obtain ⟨sorted, -, later⟩ := List.pairwise_append.mp sorted
      have later : ∀ u ∈ ts, u ≤ t := fun u hu => later u hu t List.mem_cons_self
      obtain ⟨got, left⟩ := ih sorted sparing.prefix_
      have saved : Saved burst rate ts t (level burst rate (after burst rate (full burst) ts) t) := by
        rcases left with ⟨new, rfl⟩ | ⟨last, mem, hlast, saved⟩
        · refine ⟨t, le_rfl, ?_⟩
          rw [new, List.countP_nil, Nat.cast_zero, sub_self, mul_zero, add_zero, sub_zero]
          exact le_rfl
        · exact saved.level hlast (later last mem)
      obtain ⟨one, saved⟩ := saved.finds sparing later
      have taken : take burst rate (after burst rate (full burst) ts) t =
          (⟨level burst rate (after burst rate (full burst) ts) t - 1, some t⟩, true) := if_pos one
      constructor
      · intro c hc
        rw [takes_append, List.mem_append] at hc
        rcases hc with hc | hc
        · exact got c hc
        · obtain rfl := List.mem_singleton.mp hc
          rw [taken]
      · refine .inr ⟨t, List.mem_append_right _ List.mem_cons_self, ?_, ?_⟩
        · rw [after_snoc, taken]
        · rw [after_snoc, taken]
          exact saved
  exact kept.1

end TokenBucket
