import RecompNet.ChatFilter.WordList

/-!
# Word boundaries

An entry that is a whole word needs a character on each side that is no letter, judged on the
original character. The scan does not keep to this in two ways. Right after a hit it judges on the
`*` that it has just written; and a capital letter of ASCII is no letter to `is_letter`, which is
made for folded text.
-/

namespace RecompNet.ChatFilter

/-- The characters of the position are a letter, once folded. -/
def letter_at (text : List Char) (i : Nat) : Bool := ((text.map fold)[i]?).any is_letter

section
variable {words : List Word} {text : List Char} {ss : List (Nat × Nat)} {i k : Nat} {c : Char}

lemma letter_not_star (h : letter_at text i) : ∃ c, text[i]? = some c ∧ c ≠ '*' := by
  unfold letter_at at h
  rw [List.getElem?_map, Option.any_map] at h
  obtain ⟨c, hc, letter⟩ := (Option.any_eq_true _ _).mp h
  refine ⟨c, hc, ?_⟩
  rintro rfl
  revert letter
  decide

lemma hits_ordered {find : Scan.Finder} {n fuel : Nat} {after : Bool} :
    ∀ s ∈ Scan.spans find n fuel after i, s.1 ≤ s.2 :=
  fun _ hs => (Scan.spans_bounds hs).2.1.le

/-- A character that is no `*` is starred if and only if a hit covers it. -/
lemma starred_iff (ordered : ∀ s ∈ ss, s.1 ≤ s.2) (hc : text[k]? = some c) (plain : c ≠ '*') :
    (stars ss text)[k]? = some '*' ↔ Scan.Covers ss k := by
  rw [getElem?_stars ordered, hc]
  by_cases covered : Scan.Covers ss k
  · simp [covered]
  · simp [covered, plain]

/-- Two scans that star the same characters both find a hit where they both stand, or both none. -/
lemma same_found {find find' : Scan.Finder} {n fuel : Nat} {after : Bool} {text' : List Char} {c' : Char}
    {s : Bool × Nat} (stand : s ∈ Scan.stands find n fuel after i)
    (stand' : s ∈ Scan.stands find' n fuel after i) (hc : text[s.2]? = some c) (plain : c ≠ '*')
    (hc' : text'[s.2]? = some c') (plain' : c' ≠ '*')
    (same : (stars (Scan.spans find n fuel after i) text)[s.2]? = some '*' ↔
      (stars (Scan.spans find' n fuel after i) text')[s.2]? = some '*') :
    s.2 < find s.1 s.2 ↔ s.2 < find' s.1 s.2 := by
  rw [← Scan.stand_covered stand, ← Scan.stand_covered stand', ← starred_iff hits_ordered hc plain,
    ← starred_iff hits_ordered hc' plain']
  exact same

/-- A word needs its first letter. -/
lemma match_at_head {t orig : List Char} {w : Word} (other : w.cp.head? ≠ t[i]?) :
    match_at t orig i w = 0 := by
  have none : match_letters t (4 ≤ w.cp.length) true w.cp i = none := by
    have long := w.cp_ne
    cases hw : w.cp with
    | nil => exact absurd hw long
    | cons want rest =>
      rw [hw] at other
      unfold match_letters
      exact if_pos fun e => other e.symm
  unfold match_at
  rw [none]
  split <;> rfl

/-- A match stays one when the character in front of it is starred, or is a letter no more. -/
lemma match_at_mono {t orig orig' : List Char} {w : Word}
    (left : 0 < i → (orig[i - 1]?).any is_letter = false → (orig'[i - 1]?).any is_letter = false)
    (right : ∀ p, i < p → (orig[p]?).any is_letter = false → (orig'[p]?).any is_letter = false) :
    match_at t orig i w ≤ match_at t orig' i w := by
  rcases Nat.eq_zero_or_pos (match_at t orig i w) with none | some
  · rw [none]
    exact Nat.zero_le _
  · obtain ⟨letters, bounds⟩ := (match_at_eq some).mp rfl
    have found : match_at t orig' i w = match_at t orig i w := by
      refine (match_at_eq some).mpr ⟨letters, bounds.imp_right fun ⟨free, free'⟩ => ⟨?_, ?_⟩⟩
      · exact fun h0 => left h0 (free h0)
      · exact right _ (lt_match_letters w.cp_ne letters) free'
    exact found.ge

lemma best_end_mono {t orig orig' : List Char}
    (left : 0 < i → (orig[i - 1]?).any is_letter = false → (orig'[i - 1]?).any is_letter = false)
    (right : ∀ p, i < p → (orig[p]?).any is_letter = false → (orig'[p]?).any is_letter = false) :
    best_end words t orig i ≤ best_end words t orig' i := by
  rcases Nat.eq_zero_or_pos (best_end words t orig i) with none | some
  · rw [none]
    exact Nat.zero_le _
  · obtain ⟨w, hw, head, found⟩ := (best_end_spec words t orig i).1 some
    rw [← found]
    exact (match_at_mono left right).trans ((best_end_spec words t orig' i).2 w hw head)

/-- The longest match is at most `n` if and only if every match is. -/
lemma best_end_le {t orig : List Char} {n : Nat} :
    best_end words t orig i ≤ n ↔ ∀ w ∈ words, match_at t orig i w ≤ n := by
  obtain ⟨one, all⟩ := best_end_spec words t orig i
  constructor
  · intro h w hw
    by_cases head : w.cp.head? = t[i]?
    · exact (all w hw head).trans h
    · rw [match_at_head head]
      exact Nat.zero_le _
  · intro h
    rcases Nat.eq_zero_or_pos (best_end words t orig i) with none | some
    · rw [none]
      exact Nat.zero_le _
    · obtain ⟨w, hw, -, found⟩ := one some
      exact found ▸ h w hw

end

/-! ## Boundaries judged on the original character -/

/-- The end of the longest match at a position, with its boundaries judged on the text itself, or 0.
-/
def longest (words : List Word) (text : List Char) (i : Nat) : Nat :=
  (words.map (match_at (text.map fold) text i)).foldl max 0

/-- The hits of the documented rule: the longest match at each position is a hit, and the scan goes
on after it. -/
def rule_hits (words : List Word) (text : List Char) : List (Nat × Nat) :=
  Scan.spans (fun _ => longest words text) text.length text.length false 0

/-- The line with the hits of the rule starred. -/
def rule_mask (words : List Word) (text : List Char) : List Char := stars (rule_hits words text) text

/-- Where the rule stands, and whether a hit ends there. -/
def rule_stands (words : List Word) (text : List Char) : List (Bool × Nat) :=
  Scan.stands (fun _ => longest words text) text.length text.length false 0

/-- Nothing hangs on what the scan wrote: where the rule stands no entry matches unless a letter is
there, and right after a hit no entry has a longer match if the last character of the hit is a `*`.
-/
def EdgesKept (words : List Word) (text : List Char) : Prop :=
  ∀ s ∈ rule_stands words text,
    (letter_at text s.2 = false → longest words text s.2 = 0) ∧
    (letter_at text s.2 → s.1 → ∀ w ∈ words,
      match_at (text.map fold) (text.set (s.2 - 1) '*') s.2 w ≤ longest words text s.2)

/-- An entry has a longer match right after a hit, where a shorter match is in the text anyway. -/
def Outdone (words : List Word) (text : List Char) : Prop :=
  ∃ s ∈ rule_stands words text, s.1 ∧ 0 < longest words text s.2 ∧ ∃ w ∈ words,
    longest words text s.2 < match_at (text.map fold) (text.set (s.2 - 1) '*') s.2 w

section
variable {words : List Word} {text : List Char} {i : Nat}

lemma longest_eq : longest words text i = best_end words (text.map fold) text i := by
  unfold longest best_end
  rw [List.foldl_map]
  congr 1
  funext best w
  split_ifs with other
  · rw [match_at_head other, max_eq_left (Nat.zero_le _)]
  · rfl

/-- A hit right after another one is at least as long as the rule has it. -/
lemma longest_le_starred : longest words text i ≤
    best_end words (text.map fold) (text.set (i - 1) '*') i := by
  rw [longest_eq]
  apply best_end_mono
  · intro _ _
    rw [List.getElem?_set_self']
    cases text[i - 1]? with
    | none => rfl
    | some c => exact (by decide : is_letter '*' = false)
  · intro p hp free
    rwa [List.getElem?_set_ne (by omega)]

/-- The scan and the rule agree where nothing hangs on what the scan wrote. -/
lemma agree_iff {s : Bool × Nat} :
    Scan.Agree (find_hit words text) (fun _ => longest words text) s ↔
      (letter_at text s.2 = false → longest words text s.2 = 0) ∧
      (letter_at text s.2 → s.1 → ∀ w ∈ words,
        match_at (text.map fold) (text.set (s.2 - 1) '*') s.2 w ≤ longest words text s.2) := by
  obtain ⟨after, i⟩ := s
  have lt : 0 < longest words text i → i < longest words text i := by
    rw [longest_eq]
    exact lt_best_end
  unfold Scan.Agree find_hit
  by_cases letter : letter_at text i = true
  · have here : ((text.map fold)[i]?).any is_letter = true := letter
    simp only [here, if_true, letter, Bool.true_eq_false, false_implies, true_and, true_implies]
    cases after with
    | false => simp [longest_eq]
    | true =>
      simp only [if_true, true_implies]
      rw [← best_end_le]
      have le := @longest_le_starred words text i
      constructor
      · intro h
        rcases Nat.eq_zero_or_pos (best_end words (text.map fold) (text.set (i - 1) '*') i)
          with none | some
        · rw [none]
          exact Nat.zero_le _
        · exact (h (.inl (lt_best_end some))).le
      · exact fun h _ => le_antisymm h le
  · have here : ((text.map fold)[i]?).any is_letter = false := Bool.eq_false_iff.mpr letter
    rw [Bool.not_eq_true] at letter
    simp only [here, Bool.false_eq_true, if_false, Nat.not_lt_zero, false_or, letter, false_implies,
      and_true, true_implies]
    constructor
    · intro h
      by_contra some
      exact some (h (lt (Nat.pos_of_ne_zero some))).symm
    · intro none h
      rw [none] at h
      cases h

/-- The hits are those of the rule if and only if nothing hangs on what the scan wrote. -/
lemma hits_eq_iff : hits words text = rule_hits words text ↔ EdgesKept words text := by
  unfold hits rule_hits EdgesKept rule_stands
  rw [Scan.spans_eq_iff]
  exact forall₂_congr fun s _ => agree_iff

/-- `mask` follows the documented rule where nothing hangs on what it wrote: its hits are those of
the rule exactly then; and the lines differ otherwise, unless the longer hit stands where a shorter
one is found anyway, or an entry starts with no letter. -/
theorem mask_rule (words : List Word) (text : List Char) :
    (hits words text = rule_hits words text ↔ EdgesKept words text) ∧
    (EdgesKept words text → (ChatFilter.mk words true).mask (String.ofList text) =
      String.ofList (rule_mask words text)) ∧
    ((∀ w ∈ words, w.cp.head?.any is_letter) →
      (ChatFilter.mk words true).mask (String.ofList text) =
        String.ofList (rule_mask words text) →
      EdgesKept words text ∨ Outdone words text) := by
  have masked : (ChatFilter.mk words true).mask (String.ofList text) =
      String.ofList (stars (hits words text) text) := by
    rw [mask_eq, if_pos rfl, String.toList_ofList]
  refine ⟨hits_eq_iff, fun kept => ?_, fun heads same => ?_⟩
  · rw [masked, hits_eq_iff.mpr kept]
    rfl
  · rw [masked, String.ofList_inj] at same
    by_contra neither
    rw [not_or] at neither
    -- The scans part at some character, with the same stars before it.
    obtain ⟨⟨after, i⟩, stand, stand', apart⟩ := Scan.spans_differ fun e =>
      neither.1 (hits_eq_iff.mp e)
    rw [agree_iff, not_and_or] at apart
    dsimp only at apart
    have letter : letter_at text i = true := by
      rcases apart with quiet | loud
      · -- No entry starts at a character that is no letter.
        exfalso
        obtain ⟨silent, some⟩ := Classical.not_imp.mp quiet
        rw [longest_eq] at some
        obtain ⟨w, hw, head, -⟩ := (best_end_spec _ _ _ _).1 (Nat.pos_of_ne_zero some)
        have starts := heads w hw
        rw [head] at starts
        exact Bool.false_ne_true (silent.symm.trans starts)
      · exact (Classical.not_imp.mp loud).1
    have loud : ¬ (after = true → ∀ w ∈ words,
        match_at (text.map fold) (text.set (i - 1) '*') i w ≤ longest words text i) := by
      rcases apart with quiet | loud
      · exact absurd (fun silent => absurd letter (by rw [silent]; exact Bool.false_ne_true)) quiet
      · exact (Classical.not_imp.mp loud).2
    obtain ⟨rfl, longer⟩ := Classical.not_imp.mp loud
    push Not at longer
    obtain ⟨w, hw, longer⟩ := longer
    obtain ⟨c, hc, plain⟩ := letter_not_star letter
    have hit : i < find_hit words text true i := by
      have here : ((text.map fold)[i]?).any is_letter = true := letter
      rw [find_hit, if_pos here, if_pos rfl]
      exact lt_best_end ((Nat.zero_le _).trans_lt
        (longer.trans_le (best_end_le.mp le_rfl w hw)))
    have found := same_found stand stand' hc plain hc plain (by
      change (stars (hits words text) text)[i]? = _ ↔ (rule_mask words text)[i]? = _
      rw [same])
    exact neither.2 ⟨(true, i), stand', rfl, (Nat.zero_le _).trans_lt (found.mp hit), w, hw, longer⟩

/-- An entry that matches anywhere is directly followed by a whole word. -/
theorem mask_rule_kysass : (ChatFilter.mk
    [⟨"kys".toList, true, by decide⟩, ⟨"ass".toList, false, by decide⟩] true).mask "kysass" ≠
    String.ofList (rule_mask
      [⟨"kys".toList, true, by decide⟩, ⟨"ass".toList, false, by decide⟩] "kysass".toList) := by
  decide

end

/-! ## Capital letters -/

/-- The line with its ASCII letters lower-cased. -/
def lower (text : List Char) : List Char := text.map Text.ascii_lower

/-- The text that the boundaries at a position are judged on. -/
def judged (text : List Char) (s : Bool × Nat) : List Char :=
  if s.1 then text.set (s.2 - 1) '*' else text

/-- Where the scan of the lower-cased line stands. -/
def lower_stands (words : List Word) (text : List Char) : List (Bool × Nat) :=
  Scan.stands (find_hit words (lower text)) text.length text.length false 0

/-- No capital letter is taken for a boundary: where the scan of the lower-cased line stands, no
entry has a longer match in the line as it is written. -/
def CaseKept (words : List Word) (text : List Char) : Prop :=
  ∀ s ∈ lower_stands words text, letter_at text s.2 → ∀ w ∈ words,
    match_at (text.map fold) (judged text s) s.2 w ≤ find_hit words (lower text) s.1 s.2

/-- An entry has a longer match next to a capital letter, where the lower-cased line has a shorter
one. -/
def CaseOutdone (words : List Word) (text : List Char) : Prop :=
  ∃ s ∈ lower_stands words text, 0 < find_hit words (lower text) s.1 s.2 ∧ ∃ w ∈ words,
    find_hit words (lower text) s.1 s.2 < match_at (text.map fold) (judged text s) s.2 w

/-- The filter stars the same characters of both lines. -/
def SameStars (f : ChatFilter) (a b : String) : Prop :=
  ∀ k : Nat, (f.mask a).toList[k]? = some '*' ↔ (f.mask b).toList[k]? = some '*'

section
variable {words : List Word} {text : List Char} {i : Nat} {s : Bool × Nat}

/-- A capital letter of ASCII, or a character that lower-casing leaves alone. -/
lemma ascii_lower_cases (c : Char) : (∃ n < 26, c = Char.ofNat (65 + n)) ∨ Text.ascii_lower c = c := by
  by_cases capital : 65 ≤ c.toNat ∧ c.toNat ≤ 90
  · refine .inl ⟨c.toNat - 65, by omega, ?_⟩
    rw [Nat.add_sub_cancel' capital.1, Char.ofNat_toNat]
  · refine .inr (if_neg ?_)
    simpa using capital

/-- Folding lower-cases. -/
lemma fold_ascii_lower (c : Char) : fold (Text.ascii_lower c) = fold c := by
  have letters : ∀ n < 26, fold (Text.ascii_lower (Char.ofNat (65 + n))) = fold (Char.ofNat (65 + n)) := by
    decide
  rcases ascii_lower_cases c with ⟨n, hn, rfl⟩ | same
  · exact letters n hn
  · rw [same]

/-- A capital letter of ASCII is no letter, and everything else stays what it is. -/
lemma is_letter_ascii_lower {c : Char} (h : is_letter (Text.ascii_lower c) = false) :
    is_letter c = false := by
  have capitals : ∀ n < 26, is_letter (Char.ofNat (65 + n)) = false := by decide
  rcases ascii_lower_cases c with ⟨n, hn, rfl⟩ | same
  · exact capitals n hn
  · rwa [same] at h

lemma ascii_lower_star {c : Char} : Text.ascii_lower c = '*' ↔ c = '*' := by
  have letters : ∀ n < 26,
      Text.ascii_lower (Char.ofNat (65 + n)) ≠ '*' ∧ Char.ofNat (65 + n) ≠ '*' := by
    decide
  rcases ascii_lower_cases c with ⟨n, hn, rfl⟩ | same
  · simp [letters n hn]
  · rw [same]

@[simp] lemma lower_length : (lower text).length = text.length := List.length_map _

@[simp] lemma lower_fold : (lower text).map fold = text.map fold := by
  rw [lower, List.map_map]
  exact List.map_congr_left fun c _ => fold_ascii_lower c

lemma lower_letter_at : letter_at (lower text) i = letter_at text i := by
  rw [letter_at, lower_fold]
  rfl

/-- What is no letter in the lower-cased line is none in the line. -/
lemma lower_free {p : Nat} (h : ((judged (lower text) s)[p]?).any is_letter = false) :
    ((judged text s)[p]?).any is_letter = false := by
  have starred : judged (lower text) s = lower (judged text s) := by
    unfold judged
    split
    · rw [lower, lower, List.map_set]
      rfl
    · rfl
  rw [starred, lower, List.getElem?_map, Option.any_map] at h
  cases hc : (judged text s)[p]? with
  | none => rfl
  | some c =>
    rw [hc] at h
    exact is_letter_ascii_lower h

/-- What the scan finds at a letter. -/
lemma find_hit_letter (letter : letter_at text i) {after : Bool} :
    find_hit words text after i = best_end words (text.map fold) (judged text (after, i)) i :=
  if_pos letter

lemma find_hit_quiet (quiet : letter_at text i = false) {after : Bool} :
    find_hit words text after i = 0 := by
  have here : ((text.map fold)[i]?).any is_letter = false := quiet
  rw [find_hit, here]
  rfl

/-- A hit in the line is at least as long as in the lower-cased line. -/
lemma find_hit_lower_le {after : Bool} :
    find_hit words (lower text) after i ≤ find_hit words text after i := by
  cases letter : letter_at text i with
  | false =>
    rw [find_hit_quiet (lower_letter_at.trans letter)]
    exact Nat.zero_le _
  | true =>
    rw [find_hit_letter letter, find_hit_letter (lower_letter_at.trans letter), lower_fold]
    exact best_end_mono (fun _ => lower_free) fun _ _ => lower_free

lemma case_agree_iff : Scan.Agree (find_hit words text) (find_hit words (lower text)) s ↔
    (letter_at text s.2 → ∀ w ∈ words,
      match_at (text.map fold) (judged text s) s.2 w ≤ find_hit words (lower text) s.1 s.2) := by
  have le : find_hit words (lower text) s.1 s.2 ≤ find_hit words text s.1 s.2 := find_hit_lower_le
  unfold Scan.Agree
  cases letter : letter_at text s.2 with
  | false =>
    rw [find_hit_quiet letter, find_hit_quiet (lower_letter_at.trans letter)]
    simp
  | true =>
    simp only [true_imp_iff]
    rw [← best_end_le, ← find_hit_letter letter]
    constructor
    · intro h
      rcases Nat.eq_zero_or_pos (find_hit words text s.1 s.2) with none | some
      · rw [none]
        exact Nat.zero_le _
      · exact (h (.inl (find_hit_le some))).le
    · exact fun h _ => le_antisymm h le

/-- Lower-casing changes no hit if and only if no capital letter is taken for a boundary. -/
lemma case_hits_iff : hits words text = hits words (lower text) ↔ CaseKept words text := by
  unfold hits CaseKept lower_stands
  rw [lower_length, Scan.spans_eq_iff]
  exact forall₂_congr fun s _ => case_agree_iff

/-- The filter folds case where no capital letter is taken for a boundary: the hits of a line and of
the lower-cased line are the same exactly then; and other characters are starred otherwise, unless
the longer hit of the line stands where the lower-cased line has a shorter one. -/
theorem mask_case (words : List Word) (text : String) :
    (hits words text.toList = hits words (lower text.toList) ↔ CaseKept words text.toList) ∧
    (CaseKept words text.toList →
      SameStars (ChatFilter.mk words true) text (Text.to_ascii_lowercase text)) ∧
    (SameStars (ChatFilter.mk words true) text (Text.to_ascii_lowercase text) →
      CaseKept words text.toList ∨ CaseOutdone words text.toList) := by
  have masked : ((ChatFilter.mk words true).mask text).toList =
      stars (hits words text.toList) text.toList := by
    rw [mask_eq, if_pos rfl, String.toList_ofList]
  have masked' : ((ChatFilter.mk words true).mask (Text.to_ascii_lowercase text)).toList =
      stars (hits words (lower text.toList)) (lower text.toList) := by
    rw [mask_eq, if_pos rfl, String.toList_ofList, Text.to_ascii_lowercase, String.toList_ofList]
    rfl
  unfold SameStars
  rw [masked, masked']
  generalize text.toList = cs
  refine ⟨case_hits_iff, fun kept k => ?_, fun same => ?_⟩
  · have ordered : ∀ s ∈ hits words cs, s.1 ≤ s.2 := hits_ordered
    rw [← case_hits_iff.mpr kept, getElem?_stars ordered, getElem?_stars ordered, lower,
      List.getElem?_map]
    cases cs[k]? with
    | none => simp
    | some c =>
      split
      · simp
      · simp [ascii_lower_star]
  · by_contra neither
    rw [not_or] at neither
    -- The scans part somewhere; up to there the stars are the same, so the next hits must be.
    have differ : Scan.spans (find_hit words cs) cs.length cs.length false 0 ≠
        Scan.spans (find_hit words (lower cs)) cs.length cs.length false 0 := fun e =>
      neither.1 (case_hits_iff.mp (by rw [hits, hits, lower_length, e]))
    obtain ⟨⟨after, i⟩, stand, stand', apart⟩ := Scan.spans_differ differ
    rw [case_agree_iff] at apart
    obtain ⟨letter, longer⟩ := Classical.not_imp.mp apart
    push Not at longer
    obtain ⟨w, hw, longer⟩ := longer
    obtain ⟨c, hc, plain⟩ := letter_not_star letter
    have hc' : (lower cs)[i]? = some (Text.ascii_lower c) := by
      rw [lower, List.getElem?_map]
      exact congrArg _ hc
    have plain' : Text.ascii_lower c ≠ '*' := fun e => plain (ascii_lower_star.mp e)
    have hit : i < find_hit words cs after i := by
      refine find_hit_le ?_
      rw [find_hit_letter letter]
      exact (Nat.zero_le _).trans_lt (longer.trans_le (best_end_le.mp le_rfl w hw))
    have found := same_found stand stand' hc plain hc' plain' (by
      have visible := same i
      rw [hits, hits, lower_length] at visible
      exact visible)
    exact neither.2 ⟨(after, i), stand', (Nat.zero_le _).trans_lt (found.mp hit), w, hw, longer⟩

/-- A capital letter behind an entry makes it a hit. -/
theorem mask_case_merde : ¬ SameStars builtin "merdeX" (Text.to_ascii_lowercase "merdeX") := by
  intro same
  have first := same 0
  rw [builtin_mask_merde (by decide), builtin_mask_merde (by decide)] at first
  revert first
  decide

end

end RecompNet.ChatFilter
