import Mathlib.Data.List.Forall2
import Mathlib.Order.Lattice
import RecompNet.Text

/-!
# The chat filter

The profanity filter (`chat_filter.rs`): folding, the matcher of one word and the scan that masks a line.
A hit becomes one `*` for each character, so a masked line has the length of the line, and every character
of it is the line's own or a `*`.
-/

namespace RecompNet

/-- An entry of the word list. Only entries with a letter are kept. -/
structure Word where
  cp : List Char
  anywhere : Bool
  cp_ne : cp ≠ []

structure ChatFilter where
  words : List Word
  enabled : Bool

namespace ChatFilter

/-- Fold a character of Latin-1; two signs are no letters. -/
def fold_latin1 (c : Char) : Char :=
  let MAP := "aaaaaaaceeeeiiiidnooooo/ouuuuytsaaaaaaaceeeeiiiidnooooo/ouuuuyty".toList
  let m := MAP.getD (c.toNat - 0xC0) c
  if m = '/' then c
  else if c.toNat = 0xDE ∨ c.toNat = 0xFE then 't'
  else m

/-- Lower case and leetspeak, on ASCII. -/
def fold_ascii (c : Char) : Char :=
  if 'A' ≤ c ∧ c ≤ 'Z' then Char.ofNat (c.toNat + 32)
  else
    match c with
    | '0' => 'o'
    | '1' => 'i'
    | '3' => 'e'
    | '4' => 'a'
    | '5' => 's'
    | '7' => 't'
    | '@' => 'a'
    | '$' => 's'
    | '!' => 'i'
    | '|' => 'l'
    | '+' => 't'
    | c => c

/-- Fold a character of Latin Extended-A. -/
def fold_extended (c : Char) : Char :=
  let BASE := ("aaaaaaccccccccddddeeeeeeeeeegggggggghhhhiiiiiiiiiijjjjkkklllllllllllnnnnnnnnn" ++
    "oooooooorrrrrrssssssssttttttuuuuuuuuuuuuwwyyyzzzzzzs").toList
  BASE.getD (c.toNat - 0x100) c

/-- Fold a character beyond Latin: Cyrillic and Greek letters are lower-cased. -/
def fold_scripts (c : Char) : Char :=
  let u := c.toNat
  if 0x410 ≤ u ∧ u ≤ 0x42F then Char.ofNat (u + 0x20)
  else if u = 0x401 ∨ u = 0x451 then Char.ofNat 0x435
  else if u = 0x404 then Char.ofNat 0x454
  else if u = 0x406 then Char.ofNat 0x456
  else if u = 0x407 then Char.ofNat 0x457
  else if u = 0x490 then Char.ofNat 0x491
  else if 0x391 ≤ u ∧ u ≤ 0x3A9 then Char.ofNat (u + 0x20)
  else if u = 0x3C2 then Char.ofNat 0x3C3
  else if u = 0x3AC ∨ u = 0x386 then Char.ofNat 0x3B1
  else if u = 0x3AD ∨ u = 0x388 then Char.ofNat 0x3B5
  else if u = 0x3AE ∨ u = 0x389 then Char.ofNat 0x3B7
  else if u = 0x3AF ∨ u = 0x38A then Char.ofNat 0x3B9
  else if u = 0x3CC ∨ u = 0x38C then Char.ofNat 0x3BF
  else if u = 0x3CD ∨ u = 0x38E then Char.ofNat 0x3C5
  else if u = 0x3CE ∨ u = 0x38F then Char.ofNat 0x3C9
  else if 0xFF01 ≤ u ∧ u ≤ 0xFF5E then fold_ascii (Char.ofNat (u - 0xFF01 + 0x21))
  else if u = 0x20AC then 'e'
  else c

def fold (c : Char) : Char :=
  let u := c.toNat
  if u < 0x80 then fold_ascii c
  else if 0xC0 ≤ u ∧ u ≤ 0xFF then fold_latin1 c
  else if 0x100 ≤ u ∧ u ≤ 0x17F then fold_extended c
  else fold_scripts c

def is_letter (c : Char) : Bool :=
  let u := c.toNat
  if u < 0x80 then 97 ≤ u && u ≤ 122
  else if (0x2000 ≤ u && u ≤ 0x206F) || (0x3000 ≤ u && u ≤ 0x303F) ||
    (0xFF00 ≤ u && u ≤ 0xFF0F) then false
  else !(u = 0xA0 || u = 0xB7 || u = 0xBF || u = 0xA1)

def is_separator (c : Char) : Bool :=
  c ∈ [' ', '.', '-', '_', '*', '\'', ',', Char.ofNat 0x2019, Char.ofNat 0xA0]

/-- Move past the characters of a kind. -/
def skipWhile (kind : Char → Bool) (t : List Char) (p : Nat) : Nat :=
  p + ((t.drop p).takeWhile kind).length

/-- Match the letters of a word from a position on, and the position after them. A letter that is not
doubled in the word may be repeated in the text; separators are skipped before every letter but the
first. -/
def match_letters (t : List Char) (allow_sep : Bool) (first : Bool) : List Char → Nat → Option Nat
  | [], p => some p
  | want :: rest, p =>
    let p := if !first && allow_sep then skipWhile is_separator t p else p
    if t[p]? ≠ some want then none
    else
      let p := p + 1
      let p := if rest.head? ≠ some want then skipWhile (· = want) t p else p
      match_letters t allow_sep false rest p

/-- The end (exclusive) of a match of `w` at a position, or 0. -/
def match_at (t orig : List Char) (i : Nat) (w : Word) : Nat :=
  if !w.anywhere ∧ 0 < i ∧ (orig[i - 1]?).any is_letter then 0
  else
    match match_letters t (4 ≤ w.cp.length) true w.cp i with
    | none => 0
    | some p => if !w.anywhere ∧ (orig[p]?).any is_letter then 0 else p

/-- The end of the longest match at a position, or 0. -/
def best_end (words : List Word) (folded orig : List Char) (i : Nat) : Nat :=
  words.foldl (fun best w =>
    if w.cp.head? ≠ folded[i]? then best else max best (match_at folded orig i w)) 0

/-- Star the characters from `i` to `e`. -/
def star (orig : List Char) (i e : Nat) : List Char :=
  orig.take i ++ ((orig.take e).drop i).map (fun _ => '*') ++ orig.drop e

/-- Scan a line from a position on. Every round moves the position, so the length of the line is fuel
enough. -/
def scan (words : List Word) (folded : List Char) : Nat → List Char → Nat → List Char
  | 0, orig, _ => orig
  | fuel + 1, orig, i =>
    if folded.length ≤ i then orig
    else if !(folded[i]?).any is_letter then scan words folded fuel orig (i + 1)
    else
      let e := best_end words folded orig i
      if 0 < e then scan words folded fuel (star orig i e) e
      else scan words folded fuel orig (i + 1)

/-- Mask the hits in a text. -/
def mask (f : ChatFilter) (text : String) : String :=
  if !f.enabled ∨ f.words = [] then text
  else
    let orig := text.toList
    let folded := orig.map fold
    String.ofList (scan f.words folded orig.length orig 0)

/-! ## A masked line is the line with stars -/

/-- Every character is kept or starred. -/
def Masked (cs ds : List Char) : Prop := List.Forall₂ (fun c d => d = c ∨ d = '*') cs ds

lemma Masked.refl (cs : List Char) : Masked cs cs := by
  induction cs with
  | nil => exact .nil
  | cons c cs ih => exact .cons (.inl rfl) ih

lemma Masked.trans {cs ds es : List Char} (h : Masked cs ds) (h' : Masked ds es) : Masked cs es := by
  induction h generalizing es with
  | nil => exact h'
  | cons hc _ ih =>
    cases h' with
    | cons hd hs =>
      refine .cons ?_ (ih hs)
      rcases hd with rfl | rfl
      · exact hc
      · exact .inr rfl

lemma Masked.append {cs ds cs' ds' : List Char} (h : Masked cs ds) (h' : Masked cs' ds') :
    Masked (cs ++ cs') (ds ++ ds') := List.rel_append h h'

lemma masked_stars (cs : List Char) : Masked cs (cs.map fun _ => '*') := by
  induction cs with
  | nil => exact .nil
  | cons c cs ih => exact .cons (.inr rfl) ih

lemma star_masked {orig : List Char} {i e : Nat} (h : i ≤ e) : Masked orig (star orig i e) := by
  have parts : orig = orig.take i ++ (orig.take e).drop i ++ orig.drop e := by
    have first : (orig.take e).take i = orig.take i := by
      rw [List.take_take, min_eq_left h]
    rw [← first, List.take_append_drop, List.take_append_drop]
  have starred := ((Masked.refl (orig.take i)).append (masked_stars ((orig.take e).drop i))).append
    (Masked.refl (orig.drop e))
  rw [← parts] at starred
  exact starred

lemma le_skipWhile (kind : Char → Bool) (t : List Char) (p : Nat) : p ≤ skipWhile kind t p :=
  Nat.le_add_right _ _

/-- The letters of a word are matched left to right. -/
lemma le_match_letters {t allow_sep first} {ws : List Char} {i p : Nat}
    (h : match_letters t allow_sep first ws i = some p) : i ≤ p := by
  induction ws generalizing first i with
  | nil =>
    cases h
    exact le_rfl
  | cons want rest ih =>
    have seps : i ≤ if !first && allow_sep then skipWhile is_separator t i else i := by
      split
      · exact le_skipWhile _ _ _
      · exact le_rfl
    have repeats : ∀ n, n ≤ if rest.head? ≠ some want then skipWhile (· = want) t n else n := by
      intro n
      split
      · exact le_skipWhile _ _ _
      · exact le_rfl
    unfold match_letters at h
    obtain ⟨-, h⟩ := Option.ite_none_left_eq_some.mp h
    exact (seps.trans (Nat.le_succ _)).trans ((repeats _).trans (ih h))

/-- A match ends after it starts. -/
lemma le_match_at {t orig i w} (h : 0 < match_at t orig i w) : i ≤ match_at t orig i w := by
  unfold match_at at h ⊢
  split_ifs at h ⊢
  · exact absurd h (lt_irrefl 0)
  · split at h
    · exact absurd h (lt_irrefl 0)
    · rename_i p e
      split_ifs at h ⊢
      · exact absurd h (lt_irrefl 0)
      · exact le_match_letters e

lemma le_best_end {words folded orig i} (h : 0 < best_end words folded orig i) :
    i ≤ best_end words folded orig i := by
  have fold : ∀ ws : List Word, ∀ best, (0 < best → i ≤ best) →
      let e := ws.foldl (fun best w =>
        if w.cp.head? ≠ folded[i]? then best else max best (match_at folded orig i w)) best
      0 < e → i ≤ e := by
    intro ws
    induction ws with
    | nil => exact fun best hb => hb
    | cons w ws ih =>
      intro best hb
      apply ih
      dsimp only
      split_ifs
      · exact hb
      · intro pos
        rcases le_total best (match_at folded orig i w) with le | le
        · rw [max_eq_right le] at pos ⊢
          exact le_match_at pos
        · rw [max_eq_left le] at pos ⊢
          exact hb pos
  exact fold words 0 (fun pos => absurd pos (lt_irrefl 0)) h

lemma scan_masked {words folded} {fuel : Nat} {orig : List Char} {i : Nat} :
    Masked orig (scan words folded fuel orig i) := by
  induction fuel generalizing orig i with
  | zero => exact .refl _
  | succ fuel ih =>
    simp only [scan]
    split_ifs with _ _ hit
    · exact .refl _
    · exact ih
    · exact (star_masked (le_best_end hit)).trans ih
    · exact ih

/-- The filter keeps or stars every character. -/
theorem mask_masked (f : ChatFilter) (text : String) : Masked text.toList (f.mask text).toList := by
  unfold mask
  split_ifs
  · exact .refl _
  · rw [String.toList_ofList]
    exact scan_masked

lemma Masked.length {cs ds : List Char} (h : Masked cs ds) : ds.length = cs.length :=
  (List.Forall₂.length_eq h).symm

lemma Masked.reverse {cs ds : List Char} (h : Masked cs ds) : Masked cs.reverse ds.reverse :=
  List.rel_reverse h

lemma Masked.head {cs ds : List Char} (h : Masked cs ds)
    (hc : ∀ c ∈ cs.head?, Text.is_whitespace c = false) :
    ∀ d ∈ ds.head?, Text.is_whitespace d = false := by
  cases h with
  | nil => exact fun d hd => hc d hd
  | @cons c d _ _ same =>
    intro x hx
    cases hx
    rcases same with rfl | rfl
    · exact hc d rfl
    · decide

/-- The filter leaves no white space at the ends. -/
lemma Masked.trimmed {cs ds : List Char} (h : Masked cs ds) (hc : Text.Trimmed cs) :
    Text.Trimmed ds := by
  refine ⟨h.head hc.1, ?_⟩
  have back := h.reverse.head (List.head?_reverse ▸ hc.2)
  rw [List.head?_reverse] at back
  exact back

end ChatFilter

end RecompNet
