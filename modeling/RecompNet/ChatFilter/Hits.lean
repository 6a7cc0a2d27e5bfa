import RecompNet.ChatFilter
import RecompNet.Lib.Scan

/-!
# The hits of the filter

The scan of `mask` writes into the text that it judges word boundaries on. What it writes matters at
one place only: where it stands right after a hit, the character before is a `*`. So the hits of a
line are those of a scan that finds, at each position, the longest match in the line itself, with
that one character replaced; and the masked line is the line with its hits starred.
-/

namespace RecompNet.ChatFilter

/-- The end of the hit at a position of a text, given whether another hit ends there, or 0. -/
def find_hit (words : List Word) (text : List Char) (after : Bool) (i : Nat) : Nat :=
  if ((text.map fold)[i]?).any is_letter then
    best_end words (text.map fold) (if after then text.set (i - 1) '*' else text) i
  else 0

/-- The hits of a text, from left to right. -/
def hits (words : List Word) (text : List Char) : List (Nat × Nat) :=
  Scan.spans (find_hit words text) text.length text.length false 0

/-- Star the characters in the hits. -/
def stars (ss : List (Nat × Nat)) (cs : List Char) : List Char :=
  ss.foldl (fun cs s => star cs s.1 s.2) cs

/-! ## What a match looks at -/

/-- One letter of a word: the separators in front of it, the letter, and its repeats. -/
lemma match_letters_cons {t : List Char} {allow_sep first : Bool} {want : Char} {rest : List Char}
    {i p : Nat} : match_letters t allow_sep first (want :: rest) i = some p ↔ ∃ a b,
      a = (if !first && allow_sep then skipWhile is_separator t i else i) ∧ t[a]? = some want ∧
      b = (if rest.head? ≠ some want then skipWhile (· = want) t (a + 1) else a + 1) ∧
      match_letters t allow_sep false rest b = some p := by
  constructor
  · intro h
    unfold match_letters at h
    obtain ⟨here, h⟩ := Option.ite_none_left_eq_some.mp h
    exact ⟨_, _, rfl, not_not.mp here, rfl, h⟩
  · rintro ⟨a, b, rfl, here, rfl, h⟩
    unfold match_letters
    exact (if_neg (not_not.mpr here)).trans h

/-- The letters of a word take at least one character. -/
lemma lt_match_letters {t allow_sep first} {ws : List Char} {i p : Nat} (long : ws ≠ [])
    (h : match_letters t allow_sep first ws i = some p) : i < p := by
  cases ws with
  | nil => exact absurd rfl long
  | cons want rest =>
    obtain ⟨a, b, ha, -, hb, h⟩ := match_letters_cons.mp h
    have seps : i ≤ a := by
      rw [ha]
      split
      · exact le_skipWhile _ _ _
      · exact le_rfl
    have repeats : a + 1 ≤ b := by
      rw [hb]
      split
      · exact le_skipWhile _ _ _
      · exact le_rfl
    exact (Nat.lt_succ_of_le seps).trans_le (repeats.trans (le_match_letters h))

/-- A match is where the letters of the word are, and nothing but a letter in front of it or behind
it keeps it from being a hit. -/
lemma match_at_eq {t orig : List Char} {i p : Nat} {w : Word} (pos : 0 < p) :
    match_at t orig i w = p ↔ match_letters t (4 ≤ w.cp.length) true w.cp i = some p ∧
      (w.anywhere ∨ (0 < i → (orig[i - 1]?).any is_letter = false) ∧
        (orig[p]?).any is_letter = false) := by
  unfold match_at
  cases hm : match_letters t (4 ≤ w.cp.length) true w.cp i with
  | none =>
    simp only [reduceCtorEq, false_and, iff_false]
    split_ifs <;> exact pos.ne
  | some q =>
    simp only [Option.some.injEq]
    cases w.anywhere with
    | true => simp
    | false =>
      simp only [Bool.not_false, true_and, Bool.false_eq_true, false_or]
      split_ifs with left right
      · simp only [pos.ne, false_iff, not_and]
        rintro rfl free
        rw [free left.1] at left
        cases left.2
      · simp only [pos.ne, false_iff, not_and]
        rintro rfl -
        simpa using right
      · constructor
        · rintro rfl
          refine ⟨rfl, fun h0 => ?_, by simpa using right⟩
          simpa [h0] using left
        · exact fun h => h.1

lemma lt_match_at {t orig i} {w : Word} (h : 0 < match_at t orig i w) : i < match_at t orig i w :=
  lt_match_letters w.cp_ne ((match_at_eq h).mp rfl).1

/-- A match looks at the character in front of it and at those behind it. -/
lemma match_at_congr {t orig orig' : List Char} {i : Nat} {w : Word}
    (left : 0 < i → orig[i - 1]? = orig'[i - 1]?) (right : ∀ p, i < p → orig[p]? = orig'[p]?) :
    match_at t orig i w = match_at t orig' i w := by
  have same : ∀ p, 0 < p → (match_at t orig i w = p ↔ match_at t orig' i w = p) := by
    intro p pos
    rw [match_at_eq pos, match_at_eq pos]
    refine and_congr_right fun h => ?_
    rw [right p (lt_match_letters w.cp_ne h)]
    refine or_congr_right (and_congr_left fun _ => ?_)
    exact forall_congr' fun h0 => by rw [left h0]
  rcases Nat.eq_zero_or_pos (match_at t orig i w) with none | some
  · rcases Nat.eq_zero_or_pos (match_at t orig' i w) with none' | some'
    · rw [none, none']
    · exact (same _ some').mpr rfl
  · exact ((same _ some).mp rfl).symm

/-- The longest match is a match of one of the entries, and none is longer. -/
lemma best_end_spec (words : List Word) (folded orig : List Char) (i : Nat) :
    (0 < best_end words folded orig i → ∃ w ∈ words, w.cp.head? = folded[i]? ∧
      match_at folded orig i w = best_end words folded orig i) ∧
    ∀ w ∈ words, w.cp.head? = folded[i]? →
      match_at folded orig i w ≤ best_end words folded orig i := by
  have fold : ∀ (ws : List Word) best, let e := ws.foldl (fun best w =>
        if w.cp.head? ≠ folded[i]? then best else max best (match_at folded orig i w)) best
      best ≤ e ∧ (best < e → ∃ w ∈ ws, w.cp.head? = folded[i]? ∧ match_at folded orig i w = e) ∧
        ∀ w ∈ ws, w.cp.head? = folded[i]? → match_at folded orig i w ≤ e := by
    intro ws
    induction ws with
    | nil => exact fun best => ⟨le_rfl, fun h => absurd h (lt_irrefl _), fun w hw => by cases hw⟩
    | cons w ws ih =>
      intro best
      dsimp only [List.foldl_cons]
      split_ifs with other
      · obtain ⟨le, one, all⟩ := ih best
        refine ⟨le, fun h => ?_, fun w' hw' head => ?_⟩
        · obtain ⟨w', hw', found⟩ := one h
          exact ⟨w', List.mem_cons_of_mem _ hw', found⟩
        · rcases List.mem_cons.mp hw' with rfl | hw'
          · exact absurd head other
          · exact all w' hw' head
      · obtain ⟨le, one, all⟩ := ih (max best (match_at folded orig i w))
        refine ⟨(le_max_left _ _).trans le, fun h => ?_, fun w' hw' head => ?_⟩
        · rcases le.lt_or_eq with lt | eq
          · obtain ⟨w', hw', found⟩ := one lt
            exact ⟨w', List.mem_cons_of_mem _ hw', found⟩
          · refine ⟨w, List.mem_cons_self, not_not.mp other, ?_⟩
            rcases le_total best (match_at folded orig i w) with b | b
            · rw [← eq, max_eq_right b]
            · rw [max_eq_left b] at eq h
              exact absurd eq h.ne
        · rcases List.mem_cons.mp hw' with rfl | hw'
          · exact (le_max_right _ _).trans le
          · exact all w' hw' head
  obtain ⟨-, one, all⟩ := fold words 0
  exact ⟨one, all⟩

lemma lt_best_end {words folded orig i} (h : 0 < best_end words folded orig i) :
    i < best_end words folded orig i := by
  obtain ⟨w, -, -, e⟩ := (best_end_spec words folded orig i).1 h
  rw [← e] at h ⊢
  exact lt_match_at h

lemma best_end_congr {words : List Word} {folded orig orig' : List Char} {i : Nat}
    (left : 0 < i → orig[i - 1]? = orig'[i - 1]?) (right : ∀ p, i < p → orig[p]? = orig'[p]?) :
    best_end words folded orig i = best_end words folded orig' i := by
  unfold best_end
  congr 1
  funext best w
  rw [match_at_congr left right]

/-! ## The scan -/

@[simp] lemma star_length {orig : List Char} {i e : Nat} (h : i ≤ e) :
    (star orig i e).length = orig.length := (star_masked h).length

/-- What `star` writes. -/
lemma getElem?_star {orig : List Char} {i e : Nat} (h : i ≤ e) (k : Nat) :
    (star orig i e)[k]? = if i ≤ k ∧ k < e then orig[k]?.map fun _ => '*' else orig[k]? := by
  rcases lt_or_ge k orig.length with small | large
  · unfold star
    rcases lt_or_ge k i with before | inside
    · rw [List.append_assoc, List.getElem?_append_left (by simp; omega), if_neg (by omega),
        List.getElem?_take_of_lt before]
    · rcases lt_or_ge k e with inside' | behind
      · rw [List.getElem?_append_left (by simp; omega), List.getElem?_append_right (by simp; omega),
          if_pos ⟨inside, inside'⟩]
        simp only [List.getElem?_map, List.getElem?_drop, List.length_take]
        rw [min_eq_left (by omega), Nat.add_sub_cancel' inside, List.getElem?_take_of_lt inside']
      · rw [List.getElem?_append_right (by simp; omega), if_neg (by omega)]
        simp only [List.getElem?_drop, List.length_append, List.length_take, List.length_map,
          List.length_drop]
        congr 1
        omega
  · have long : (star orig i e).length = orig.length := star_length h
    rw [List.getElem?_eq_none (by omega), List.getElem?_eq_none large]
    simp

/-- The scan of the source stars the hits. -/
lemma scan_eq {words : List Word} {text : List Char} {fuel : Nat} {orig : List Char} {after : Bool}
    {i : Nat} (length : orig.length = text.length)
    (left : 0 < i → orig[i - 1]? = (if after then text.set (i - 1) '*' else text)[i - 1]?)
    (right : ∀ p, i ≤ p → orig[p]? = text[p]?) :
    scan words (text.map fold) fuel orig i =
      stars (Scan.spans (find_hit words text) text.length fuel after i) orig := by
  induction fuel generalizing orig after i with
  | zero => rfl
  | succ fuel ih =>
    have look : best_end words (text.map fold) orig i =
        best_end words (text.map fold) (if after then text.set (i - 1) '*' else text) i := by
      refine best_end_congr left fun p hp => ?_
      rw [right p hp.le]
      split
      · rw [List.getElem?_set_ne (by omega)]
      · rfl
    have next : scan words (text.map fold) fuel orig (i + 1) =
        stars (Scan.spans (find_hit words text) text.length fuel false (i + 1)) orig :=
      ih length (fun _ => right i le_rfl) fun p hp => right p (by omega)
    rw [scan, Scan.spans, List.length_map, find_hit, ← look]
    by_cases done : text.length ≤ i
    · simp [done, stars]
    by_cases quiet : ((text.map fold)[i]?).any is_letter = true
    · simp only [done, quiet, Bool.not_true, Bool.false_eq_true, if_true, if_false]
      by_cases hit : 0 < best_end words (text.map fold) orig i
      · have later := lt_best_end hit
        rw [if_pos hit, if_pos later]
        refine ih ((star_length later.le).trans length) (fun _ => ?_) fun p hp => ?_
        · have starred := (@getElem?_star orig _ _ later.le
            (best_end words (text.map fold) orig i - 1)).trans (if_pos ⟨by omega, by omega⟩)
          rw [starred, if_pos rfl, right _ (by omega), List.getElem?_set_self']
          rfl
        · rw [getElem?_star later.le, if_neg (by omega), right p (by omega)]
      · have none : ¬ i < best_end words (text.map fold) orig i := by omega
        rw [if_neg hit, if_neg none]
        exact next
    · simp only [done, quiet, Bool.not_false, if_true, if_false]
      exact next

/-- The masked line is the line with its hits starred. -/
theorem mask_eq (f : ChatFilter) (text : String) : f.mask text =
    if f.enabled then String.ofList (stars (hits f.words text.toList) text.toList) else text := by
  unfold mask
  cases f.enabled with
  | false => simp
  | true =>
    by_cases none : f.words = []
    · have silent : ∀ fuel after i, Scan.spans (find_hit f.words text.toList) text.toList.length
          fuel after i = [] := by
        intro fuel
        induction fuel with
        | zero => exact fun _ _ => rfl
        | succ fuel ih =>
          intro after i
          have miss : find_hit f.words text.toList after i = 0 := by
            simp [find_hit, best_end, none]
          simp [Scan.spans, miss, ih]
      have nothing : hits f.words text.toList = [] := silent _ _ _
      rw [if_pos (.inr none), if_pos rfl, nothing]
      exact String.ofList_toList.symm
    · simp only [Bool.not_true, Bool.false_eq_true, none, or_self, if_false, if_true]
      refine congrArg _ (scan_eq rfl (fun h => absurd h (lt_irrefl 0)) fun _ _ => rfl)

/-! ## Starred lines -/

lemma find_hit_le {words : List Word} {text : List Char} {after : Bool} {i : Nat}
    (pos : 0 < find_hit words text after i) : i < find_hit words text after i := by
  by_cases letter : ((text.map fold)[i]?).any is_letter = true
  · rw [find_hit, if_pos letter] at pos ⊢
    exact lt_best_end pos
  · rw [find_hit, if_neg letter] at pos
    cases pos

/-- What is starred is what the hits cover. -/
lemma getElem?_stars {ss : List (Nat × Nat)} {cs : List Char} (ordered : ∀ s ∈ ss, s.1 ≤ s.2) (k : Nat) :
    (stars ss cs)[k]? = if Scan.Covers ss k then cs[k]?.map fun _ => '*' else cs[k]? := by
  induction ss generalizing cs with
  | nil => simp [stars]
  | cons s ss ih =>
    rw [List.forall_mem_cons] at ordered
    change (stars ss (star cs s.1 s.2))[k]? = _
    rw [ih ordered.2, getElem?_star ordered.1]
    by_cases later : Scan.Covers ss k
    · rw [if_pos later, if_pos (Scan.covers_cons.mpr (.inr later))]
      split
      · rw [Option.map_map]
        rfl
      · rfl
    · rw [if_neg later]
      simp only [Scan.covers_cons, later, or_false]

end RecompNet.ChatFilter
