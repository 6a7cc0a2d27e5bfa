import RecompNet.Lib.Ranges
import Mathlib.Algebra.Group.Nat.Defs

/-!
# Computation with faults

Arithmetic on words of a width, access to slices and a loop with a bound on its rounds. Each stops
with a fault where a program would panic, or where the rounds are spent.
-/

namespace RecompNet.Faults

/-- What stops a computation. -/
inductive Fault where
  | overflow
  | index
  | spent
  deriving DecidableEq

/-- Without a fault a computation goes on. -/
lemma go_on {α β : Type} (a : α) (f : α → Except Fault β) : (Except.ok a >>= f) = f a := rfl

section Words
variable (w : Nat)

def add (a b : Nat) : Except Fault Nat :=
  if a + b < 2 ^ w then .ok (a + b) else .error .overflow

def mul (a b : Nat) : Except Fault Nat :=
  if a * b < 2 ^ w then .ok (a * b) else .error .overflow

def sub (a b : Nat) : Except Fault Nat := if b ≤ a then .ok (a - b) else .error .overflow

variable {w} {a b : Nat}

@[simp] lemma add_ok (small : a + b < 2 ^ w) : add w a b = .ok (a + b) := if_pos small

@[simp] lemma mul_ok (small : a * b < 2 ^ w) : mul w a b = .ok (a * b) := if_pos small

@[simp] lemma sub_ok (le : b ≤ a) : sub a b = .ok (a - b) := if_pos le

end Words

section Slices
variable {α : Type*} {xs : List α} {i j : Nat}

/-- A place in a slice. -/
def index (xs : List α) (i : Nat) : Except Fault α :=
  match xs[i]? with
  | some x => .ok x
  | none => .error .index

/-- The part of a slice between two places. -/
def slice (xs : List α) (i j : Nat) : Except Fault (List α) :=
  if i ≤ j ∧ j ≤ xs.length then .ok ((xs.take j).drop i) else .error .index

@[simp] lemma index_ok (small : i < xs.length) : index xs i = .ok xs[i] := by
  rw [index, List.getElem?_eq_getElem small]

@[simp] lemma slice_ok (le : i ≤ j) (inside : j ≤ xs.length) :
    slice xs i j = .ok ((xs.take j).drop i) := if_pos ⟨le, inside⟩

end Slices

section Search
variable (w : Nat)

/-- A binary search as a loop that has some rounds to go. -/
def search (p : Nat → Except Fault Bool) : Nat → Nat → Nat → Except Fault Nat
  | 0, _, _ => .error .spent
  | rounds + 1, lo, hi =>
    if lo < hi then do
      let sum ← add w lo hi
      let mid := sum / 2
      if ← p mid then do
        let next ← add w mid 1
        search p rounds next hi
      else search p rounds lo mid
    else .ok lo

variable {w} {p : Nat → Except Fault Bool} {q : Nat → Bool} {n rounds lo hi : Nat}

/-- A search whose questions have answers ends without a fault, and it needs one round for each bit
of the length it starts with, and one more. -/
theorem search_ok (answers : ∀ mid < hi, p mid = .ok (q mid)) (small : hi + hi < 2 ^ w)
    (short : hi - lo < 2 ^ n) (enough : n < rounds) :
    search w p rounds lo hi = .ok (Ranges.bisect q lo hi) := by
  induction rounds generalizing n lo hi with
  | zero => omega
  | succ rounds ih =>
    rw [search, Ranges.bisect]
    by_cases lt : lo < hi
    · obtain ⟨n, rfl⟩ : ∃ m, n = m + 1 := by
        cases n with
        | zero => omega
        | succ n => exact ⟨n, rfl⟩
      have half : (hi - lo) / 2 < 2 ^ n := by
        rw [Nat.pow_succ] at short
        omega
      have below : (lo + hi) / 2 < hi := by omega
      have answer := answers _ below
      have sum : add w lo hi = .ok (lo + hi) := add_ok (by omega)
      have next : add w ((lo + hi) / 2) 1 = .ok ((lo + hi) / 2 + 1) := add_ok (by omega)
      rw [if_pos lt, if_pos lt]
      simp only [sum, next, answer, go_on]
      by_cases up : q ((lo + hi) / 2) = true
      · rw [if_pos up, if_pos up]
        have part : hi - ((lo + hi) / 2 + 1) < 2 ^ n := by omega
        exact ih answers small part (by omega)
      · rw [if_neg up, if_neg up]
        have part : (lo + hi) / 2 - lo < 2 ^ n := by omega
        exact ih (fun mid lt_mid => answers mid (by omega)) (by omega) part (by omega)
    · rw [if_neg lt, if_neg lt]

end Search

end RecompNet.Faults
