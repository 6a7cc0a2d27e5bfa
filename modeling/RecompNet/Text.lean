import Mathlib.Data.List.DropRight
import Mathlib.Tactic.Common

/-!
# Text

The string operations of Rust's standard library that the server uses, on Lean strings through their
lists of characters. Positions and cuts are by character; `byte_len` is the length in bytes that `len`
gives in the source.
-/

namespace RecompNet.Text

/-- `char::is_whitespace`: the Unicode property `White_Space`. -/
def is_whitespace (c : Char) : Bool :=
  let n := c.toNat
  (9 ≤ n && n ≤ 13) || n == 32 || n == 0x85 || n == 0xA0 || n == 0x1680 ||
    (0x2000 ≤ n && n ≤ 0x200A) || n == 0x2028 || n == 0x2029 || n == 0x202F || n == 0x205F ||
    n == 0x3000

/-- `char::is_control`: the Unicode category `Cc`. -/
def is_control (c : Char) : Bool :=
  let n := c.toNat
  n < 32 || (127 ≤ n && n < 160)

/-- `u8::to_ascii_lowercase`, on characters. -/
def ascii_lower (c : Char) : Char :=
  if 65 ≤ c.toNat && c.toNat ≤ 90 then Char.ofNat (c.toNat + 32) else c

/-- `char::is_ascii_hexdigit`. -/
def is_ascii_hexdigit (c : Char) : Bool :=
  let n := c.toNat
  (48 ≤ n && n ≤ 57) || (65 ≤ n && n ≤ 70) || (97 ≤ n && n ≤ 102)

/-- `str::len`. -/
def byte_len (s : String) : Nat := s.utf8ByteSize

/-- Cut white space off both ends of a list of characters. -/
def trimChars (cs : List Char) : List Char :=
  ((cs.dropWhile is_whitespace).reverse.dropWhile is_whitespace).reverse

/-- `str::trim`. -/
def trim (s : String) : String := String.ofList (trimChars s.toList)

/-- `str::to_ascii_lowercase`. -/
def to_ascii_lowercase (s : String) : String := String.ofList (s.toList.map ascii_lower)

/-- `str::eq_ignore_ascii_case`. -/
def eq_ignore_ascii_case (s t : String) : Bool :=
  s.toList.map ascii_lower == t.toList.map ascii_lower

/-- `str::split_once` at the first occurrence of a character. -/
def split_once (s : String) (sep : Char) : Option (String × String) :=
  if sep ∈ s.toList then
    some (String.ofList (s.toList.takeWhile (· ≠ sep)),
      String.ofList ((s.toList.dropWhile (· ≠ sep)).drop 1))
  else none

/-- `str::rsplit_once` at the last occurrence of a character. -/
def rsplit_once (s : String) (sep : Char) : Option (String × String) :=
  if sep ∈ s.toList then
    some (String.ofList ((s.toList.reverse.dropWhile (· ≠ sep)).drop 1).reverse,
      String.ofList (s.toList.reverse.takeWhile (· ≠ sep)).reverse)
  else none

/-- The pieces of a list of characters between the separators. -/
def splitChars (sep : Char) : List Char → List (List Char)
  | [] => [[]]
  | c :: cs =>
    if c = sep then [] :: splitChars sep cs
    else match splitChars sep cs with
      | [] => [[c]]
      | p :: ps => (c :: p) :: ps

/-- `str::split` at a character. -/
def split (s : String) (sep : Char) : List String :=
  (splitChars sep s.toList).map String.ofList

/-- `str::starts_with`. -/
def starts_with (s p : String) : Bool := p.toList.isPrefixOf s.toList

/-- Cut the characters `p` off the left end, as often as they occur. -/
def trim_start_matches (s : String) (c : Char) : String := String.ofList (s.toList.dropWhile (· = c))

/-- Cut the character off the right end, as often as it occurs. -/
def trim_end_matches (s : String) (c : Char) : String :=
  String.ofList (s.toList.reverse.dropWhile (· = c)).reverse

/-- `filter(|s| !s.is_empty())` on an optional string. -/
def nonempty (s : Option String) : Option String := s.filter (· ≠ "")

@[simp] lemma nonempty_none : nonempty none = none := rfl

/-- Neither end of a list of characters is white space. -/
def Trimmed (cs : List Char) : Prop :=
  (∀ c ∈ cs.head?, is_whitespace c = false) ∧ ∀ c ∈ cs.getLast?, is_whitespace c = false

instance (cs : List Char) : Decidable (Trimmed cs) :=
  decidable_of_iff (cs.head?.all (!is_whitespace ·) ∧ cs.getLast?.all (!is_whitespace ·)) (by
    simp [Trimmed, Option.all_eq_true])

/-- A dropped prefix ends where its condition does. -/
lemma head?_dropWhile {cs : List Char} {c : Char} (h : c ∈ (cs.dropWhile is_whitespace).head?) :
    is_whitespace c = false := by
  have stop := List.head?_dropWhile_not is_whitespace cs
  rw [Option.mem_def.mp h] at stop
  exact stop

lemma dropWhile_of_head? {cs : List Char} (h : ∀ c ∈ cs.head?, is_whitespace c = false) :
    cs.dropWhile is_whitespace = cs := by
  cases cs with
  | nil => rfl
  | cons c cs => rw [List.dropWhile_cons_of_neg (by simp [h c rfl])]

/-- Trimming cuts both ends. -/
lemma trimChars_trimmed (cs : List Char) : Trimmed (trimChars cs) := by
  constructor
  · intro c hc
    have cut : trimChars cs <+: cs.dropWhile is_whitespace :=
      List.rdropWhile_prefix is_whitespace (cs.dropWhile is_whitespace)
    refine @head?_dropWhile cs c ?_
    obtain ⟨rest, hrest⟩ := List.head?_eq_some_iff.mp hc
    obtain ⟨more, e⟩ := cut
    rw [← e, hrest]
    rfl
  · intro c hc
    unfold trimChars at hc
    rw [List.getLast?_reverse] at hc
    exact head?_dropWhile hc

/-- What is trimmed is left alone. -/
lemma trimChars_of_trimmed {cs : List Char} (h : Trimmed cs) : trimChars cs = cs := by
  unfold trimChars
  rw [dropWhile_of_head? h.1, dropWhile_of_head?, List.reverse_reverse]
  rw [List.head?_reverse]
  exact h.2

lemma trim_eq_iff {s : String} : trim s = s ↔ Trimmed s.toList := by
  unfold trim
  constructor
  · intro e
    have chars := congrArg String.toList e
    rw [String.toList_ofList] at chars
    exact chars ▸ trimChars_trimmed _
  · intro h
    rw [trimChars_of_trimmed h, String.ofList_toList]

lemma trim_trim (s : String) : trim (trim s) = trim s := by
  rw [trim_eq_iff, trim, String.toList_ofList]
  exact trimChars_trimmed _

lemma trimChars_length (cs : List Char) : (trimChars cs).length ≤ cs.length := by
  unfold trimChars
  rw [List.length_reverse]
  calc ((cs.dropWhile is_whitespace).reverse.dropWhile is_whitespace).length
      ≤ (cs.dropWhile is_whitespace).reverse.length := (List.dropWhile_sublist _).length_le
    _ = (cs.dropWhile is_whitespace).length := List.length_reverse
    _ ≤ cs.length := (List.dropWhile_sublist _).length_le

/-- A string that survives `nonempty` is not empty. -/
lemma nonempty_eq_some {s : Option String} {t : String} :
    nonempty s = some t ↔ s = some t ∧ t ≠ "" := by
  cases s with
  | none => simp
  | some u => simp [nonempty, Option.filter]; aesop

end RecompNet.Text
