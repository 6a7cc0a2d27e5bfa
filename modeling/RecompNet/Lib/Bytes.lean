import Mathlib.Data.List.Basic
import Mathlib.Data.Nat.Basic
import Mathlib.Tactic.Common
import Mathlib.Tactic.Ring

/-!
# Numbers in bytes

Little-endian numbers of a fixed width, and lists of records of one width. Bytes are numbers.
-/

namespace RecompNet.Bytes

/-- The bytes of a number, the lowest first, at a width. -/
def to_le : Nat → Nat → List Nat
  | 0, _ => []
  | w + 1, n => n % 256 :: to_le w (n / 256)

/-- The number that bytes are, the lowest first. -/
def from_le : List Nat → Nat
  | [] => 0
  | b :: bs => b + 256 * from_le bs

/-- The number at an offset. -/
def read (w : Nat) (bs : List Nat) (o : Nat) : Nat := from_le ((bs.drop o).take w)

@[simp] lemma to_le_length (w n : Nat) : (to_le w n).length = w := by
  induction w generalizing n with
  | zero => rfl
  | succ w ih => rw [to_le, List.length_cons, ih]

/-- A number that fits its width is read back. -/
lemma from_le_to_le {w n : Nat} (fits : n < 256 ^ w) : from_le (to_le w n) = n := by
  induction w generalizing n with
  | zero =>
    rw [pow_zero, Nat.lt_one_iff] at fits
    rw [fits]
    rfl
  | succ w ih =>
    have small : n / 256 < 256 ^ w := by
      apply Nat.div_lt_of_lt_mul
      rwa [pow_succ, Nat.mul_comm] at fits
    rw [to_le, from_le, ih small]
    exact Nat.mod_add_div n 256

/-- Bytes are a number that fits their width. -/
lemma from_le_lt {bs : List Nat} (small : ∀ b ∈ bs, b < 256) : from_le bs < 256 ^ bs.length := by
  induction bs with
  | nil => exact Nat.one_pos
  | cons b bs ih =>
    rw [List.forall_mem_cons] at small
    have rest := ih small.2
    rw [from_le, List.length_cons, pow_succ]
    omega

section
variable {w n o : Nat} {bs cs : List Nat}

lemma read_lt (small : ∀ b ∈ bs, b < 256) : read w bs o < 256 ^ w := by
  have part := from_le_lt fun b (hb : b ∈ (bs.drop o).take w) =>
    small b (List.mem_of_mem_drop (List.mem_of_mem_take hb))
  exact part.trans_le (Nat.pow_le_pow_right (by decide) (List.length_take_le _ _))

/-- A number behind other bytes. -/
lemma read_behind : read w (bs ++ cs) (bs.length + o) = read w cs o := by
  unfold read
  rw [← List.drop_drop, List.drop_left]

/-- A number at the front. -/
lemma read_front (fits : n < 256 ^ w) : read w (to_le w n ++ cs) 0 = n := by
  have front : ((to_le w n ++ cs).drop 0).take w = to_le w n := by
    rw [List.drop_zero]
    exact List.take_left' (to_le_length w n)
  rw [read, front, from_le_to_le fits]

/-- Two numbers of a width and one of two bytes, in a row. -/
lemma read_fields {a b c : Nat} (fits_a : a < 256 ^ w) (fits_b : b < 256 ^ w)
    (fits_c : c < 256 ^ 2) :
    read w ((to_le w a ++ (to_le w b ++ to_le 2 c)) ++ cs) 0 = a ∧
    read w ((to_le w a ++ (to_le w b ++ to_le 2 c)) ++ cs) w = b ∧
    read 2 ((to_le w a ++ (to_le w b ++ to_le 2 c)) ++ cs) (w + w) = c := by
  have past (v m o : Nat) (ds : List Nat) : read v (to_le w m ++ ds) (w + o) = read v ds o := by
    have skip := @read_behind v o (to_le w m) ds
    rwa [to_le_length] at skip
  simp only [List.append_assoc]
  refine ⟨read_front fits_a, ?_, ?_⟩
  · exact (past w a 0 _).trans (read_front fits_b)
  · rw [past]
    exact (past 2 b 0 _).trans (read_front fits_c)

/-- The part between two offsets. -/
lemma slice {as bs cs : List Nat} {m n : Nat} (start : as.length = m) (stop : m + bs.length = n) :
    ((as ++ (bs ++ cs)).take n).drop m = bs := by
  rw [← stop, ← start, ← List.append_assoc, ← List.length_append, List.take_left, List.drop_left]

end

section Records
variable {ι : Type*} {f : ι → List Nat} {w : Nat} {xs : List ι}

/-- Behind the first records. -/
lemma drop_records (width : ∀ x ∈ xs, (f x).length = w) (i : Nat) :
    (xs.flatMap f).drop (i * w) = (xs.drop i).flatMap f := by
  induction i generalizing xs with
  | zero => simp
  | succ i ih =>
    cases xs with
    | nil => simp
    | cons x xs =>
      rw [List.forall_mem_cons] at width
      have split : (i + 1) * w = (f x).length + i * w := by rw [width.1]; ring
      rw [split, List.flatMap_cons, ← List.drop_drop, List.drop_left, ih width.2,
        List.drop_succ_cons]

lemma records_length (width : ∀ x ∈ xs, (f x).length = w) :
    (xs.flatMap f).length = xs.length * w := by
  induction xs with
  | nil => simp
  | cons x xs ih =>
    rw [List.forall_mem_cons] at width
    rw [List.flatMap_cons, List.length_append, ih width.2, width.1, List.length_cons]
    ring

/-- A record, with the ones behind it. -/
lemma drop_record (width : ∀ x ∈ xs, (f x).length = w) {i : Nat} {x : ι} (here : xs[i]? = some x) :
    (xs.flatMap f).drop (i * w) = f x ++ (xs.drop (i + 1)).flatMap f := by
  obtain ⟨small, rfl⟩ := List.getElem?_eq_some_iff.mp here
  rw [drop_records width, List.drop_eq_getElem_cons small, List.flatMap_cons]

/-- A number in a record. -/
lemma read_record (width : ∀ x ∈ xs, (f x).length = w) {i o v : Nat} {x : ι}
    (here : xs[i]? = some x) : read v (xs.flatMap f) (i * w + o) =
      read v (f x ++ (xs.drop (i + 1)).flatMap f) o := by
  unfold read
  rw [← List.drop_drop, drop_record width here]

end Records

end RecompNet.Bytes
