import Mathlib.Data.List.Perm.Basic
import Mathlib.Data.List.Range
import Mathlib.Tactic.Common

/-!
# Mailboxes that are read by topic

A mailbox takes items up to a capacity; when it is full the oldest item gives way to the new one.
Every item has a topic, and a read takes the items of one topic. A `Ledger` keeps the items that
were posted, each with its number, and says of each where it is: it waits, it was delivered, it was
dropped for want of room, or it was cleared away. `Ledger.Sound` is kept by every operation.
-/

open scoped List

namespace Mailbox

variable {α κ : Type}

/-- Put an item at the end; of a full mailbox the oldest item is dropped. -/
def push (capacity : Nat) (q : List α) (x : α) : List α :=
  (if capacity ≤ q.length then q.drop 1 else q) ++ [x]

/-- Items for which there is room are all put at the end. -/
lemma foldl_push {capacity : Nat} {q xs : List α} (room : q.length + xs.length ≤ capacity) :
    xs.foldl (push capacity) q = q ++ xs := by
  induction xs generalizing q with
  | nil => exact (List.append_nil q).symm
  | cons x xs ih =>
    rw [List.length_cons] at room
    have fits : push capacity q x = q ++ [x] := by
      unfold push
      rw [if_neg (by omega)]
    rw [List.foldl_cons, fits, ih]
    · simp
    · rw [List.length_append, List.length_singleton]
      omega

lemma map_push {β : Type} {f : α → β} {capacity : Nat} {q : List α} {x : α} :
    (push capacity q x).map f = push capacity (q.map f) (f x) := by
  unfold push
  rw [List.map_append, List.length_map]
  split
  · rw [List.map_drop]
    rfl
  · rfl

/-- The items that were posted, oldest first, and where they are, each with its number. -/
structure Ledger (α : Type) where
  posted : List α := []
  waiting : List (α × Nat) := []
  delivered : List (α × Nat) := []
  dropped : List (α × Nat) := []
  cleared : List (α × Nat) := []

namespace Ledger

/-- An item arrives. -/
def post (capacity : Nat) (b : Ledger α) (x : α) : Ledger α :=
  { b with
    posted := b.posted ++ [x]
    waiting := push capacity b.waiting (x, b.posted.length)
    dropped := b.dropped ++ if capacity ≤ b.waiting.length then b.waiting.take 1 else [] }

/-- The items of a topic are read. -/
def take [DecidableEq κ] (topic : α → κ) (b : Ledger α) (k : κ) : Ledger α :=
  { b with
    waiting := b.waiting.filter (topic ·.1 ≠ k)
    delivered := b.delivered ++ b.waiting.filter (topic ·.1 = k) }

/-- The mailbox is cleared. -/
def clear (b : Ledger α) : Ledger α := { b with waiting := [], cleared := b.cleared ++ b.waiting }

/-- Every posted item is in one place; the items of a topic are delivered in the order in which they
were posted, before those of the topic that wait; and no more wait than the capacity. -/
structure Sound [DecidableEq κ] (topic : α → κ) (capacity : Nat) (b : Ledger α) : Prop where
  once : b.waiting ++ b.delivered ++ b.dropped ++ b.cleared ~ b.posted.zipIdx
  order : b.waiting.Pairwise (·.2 < ·.2)
  topics : ∀ k, ((b.delivered ++ b.waiting).filter (topic ·.1 = k)).Pairwise (·.2 < ·.2)
  few : b.waiting.length ≤ capacity

variable [DecidableEq κ] {topic : α → κ} {capacity : Nat} {b : Ledger α}

lemma sound_nil : Sound topic capacity {} where
  once := .refl _
  order := .nil
  topics := fun _ => .nil
  few := Nat.zero_le _

/-- What was delivered or waits was posted before the next item. -/
lemma Sound.numbered (h : Sound topic capacity b) : ∀ x ∈ b.delivered ++ b.waiting,
    x.2 < b.posted.length := by
  intro x hx
  have mem : x ∈ b.posted.zipIdx := by
    apply h.once.subset
    simp only [List.mem_append] at hx ⊢
    exact hx.elim (fun h => .inl (.inl (.inr h))) fun h => .inl (.inl (.inl h))
  exact List.snd_lt_of_mem_zipIdx mem

/-- An item arrives. -/
theorem Sound.post (h : Sound topic capacity b) (some : 0 < capacity) (x : α) :
    Sound topic capacity (b.post capacity x) := by
  have numbered := h.numbered
  obtain ⟨kept, sub, pushed⟩ : ∃ kept, kept.Sublist b.waiting ∧
      push capacity b.waiting (x, b.posted.length) = kept ++ [(x, b.posted.length)] := by
    unfold push
    split
    · exact ⟨_, List.drop_sublist 1 _, rfl⟩
    · exact ⟨_, List.Sublist.refl _, rfl⟩
  have newest : ∀ y ∈ b.delivered ++ kept, y.2 < b.posted.length := fun y hy =>
    numbered y (((List.Sublist.refl _).append sub).subset hy)
  constructor
  · -- The item that is pushed out of a full box joins the dropped ones.
    have parts : b.waiting ~
        (if capacity ≤ b.waiting.length then b.waiting.drop 1 else b.waiting) ++
          if capacity ≤ b.waiting.length then b.waiting.take 1 else [] := by
      split
      · exact (List.take_append_drop 1 b.waiting ▸ List.perm_append_comm :)
      · exact (List.append_nil _ ▸ .refl _)
    have whole : b.posted.zipIdx ++ [(x, b.posted.length)] = (b.posted ++ [x]).zipIdx := by
      rw [List.zipIdx_append]
      simp
    show push capacity b.waiting (x, b.posted.length) ++ b.delivered ++ (b.dropped ++ _) ++
      b.cleared ~ (b.posted ++ [x]).zipIdx
    rw [← whole]
    unfold push
    classical
    refine List.perm_iff_count.mpr fun y => ?_
    have before := h.once.count_eq y
    have split := parts.count_eq y
    simp only [List.count_append] at before split ⊢
    omega
  · -- The new item has the highest number.
    show (push capacity b.waiting (x, b.posted.length)).Pairwise _
    rw [pushed]
    refine List.pairwise_append.mpr ⟨h.order.sublist sub, List.pairwise_singleton _ _, ?_⟩
    intro y hy z hz
    rw [List.mem_singleton.mp hz]
    exact newest y (List.mem_append_right _ hy)
  · intro k
    show ((b.delivered ++ push capacity b.waiting (x, b.posted.length)).filter _).Pairwise _
    rw [pushed, ← List.append_assoc, List.filter_append]
    refine List.pairwise_append.mpr ⟨?_, ?_, ?_⟩
    · exact (h.topics k).sublist (((List.Sublist.refl _).append sub).filter _)
    · exact (List.pairwise_singleton _ _).sublist List.filter_sublist
    · intro y hy z hz
      rw [List.mem_singleton.mp (List.mem_of_mem_filter hz)]
      exact newest y (List.mem_of_mem_filter hy)
  · show (push capacity b.waiting (x, b.posted.length)).length ≤ capacity
    have few := h.few
    unfold push
    split
    · rw [List.length_append, List.length_drop, List.length_singleton]
      omega
    · rw [List.length_append, List.length_singleton]
      omega

/-- Putting the items of a topic first changes the order of no topic. -/
lemma filter_topics (topic : α → κ) (k k' : κ) (q : List (α × Nat)) :
    (q.filter (topic ·.1 = k) ++ q.filter (topic ·.1 ≠ k)).filter (topic ·.1 = k') =
      q.filter (topic ·.1 = k') := by
  rw [List.filter_append, List.filter_filter, List.filter_filter]
  by_cases e : k' = k
  · subst e
    have none : q.filter (fun x => decide (topic x.1 = k') && decide (topic x.1 ≠ k')) = [] := by
      simp
    rw [none, List.append_nil]
    exact List.filter_congr fun x _ => Bool.and_self _
  · have none : q.filter (fun x => decide (topic x.1 = k') && decide (topic x.1 = k)) = [] := by
      refine List.filter_eq_nil_iff.mpr fun x _ both => ?_
      simp only [Bool.and_eq_true, decide_eq_true_eq] at both
      exact e (both.1.symm.trans both.2)
    rw [none, List.nil_append]
    refine List.filter_congr fun x _ => ?_
    by_cases here : topic x.1 = k'
    · simp [here, e]
    · simp [here]

/-- A topic is read. -/
theorem Sound.take (h : Sound topic capacity b) (k : κ) :
    Sound topic capacity (b.take topic k) where
  once := by
    have parts : b.waiting.filter (topic ·.1 = k) ++ b.waiting.filter (topic ·.1 ≠ k) ~
        b.waiting := by
      simpa using List.filter_append_perm (fun y => decide (topic y.1 = k)) b.waiting
    show b.waiting.filter _ ++ (b.delivered ++ b.waiting.filter _) ++ b.dropped ++ b.cleared ~
      b.posted.zipIdx
    classical
    refine List.perm_iff_count.mpr fun y => ?_
    have before := h.once.count_eq y
    have split := parts.count_eq y
    simp only [List.count_append] at before split ⊢
    omega
  order := h.order.sublist List.filter_sublist
  topics := fun k' => by
    have same := filter_topics topic k k' b.waiting
    have whole : ((b.delivered ++ b.waiting.filter (topic ·.1 = k)) ++
        b.waiting.filter (topic ·.1 ≠ k)).filter (topic ·.1 = k') =
        (b.delivered ++ b.waiting).filter (topic ·.1 = k') := by
      rw [List.append_assoc, List.filter_append, same, ← List.filter_append]
    exact whole ▸ h.topics k'
  few := (List.length_filter_le _ _).trans h.few

/-- The mailbox is cleared. -/
theorem Sound.clear (h : Sound topic capacity b) : Sound topic capacity b.clear where
  once := by
    show [] ++ b.delivered ++ b.dropped ++ (b.cleared ++ b.waiting) ~ b.posted.zipIdx
    classical
    refine List.perm_iff_count.mpr fun y => ?_
    have before := h.once.count_eq y
    simp only [List.count_append, List.nil_append] at before ⊢
    omega
  order := .nil
  topics := fun k => (h.topics k).sublist
    (((List.Sublist.refl b.delivered).append (List.nil_sublist _)).filter _)
  few := Nat.zero_le _

end Ledger

end Mailbox
