import RecompNet.ChatFilter.Twice

/-!
# Spellings

A word is spelled with its letters repeated and with separators between them. The filter takes
repeats of a letter only where they stand together, and separators only in front of the next letter
of the word; so a letter that is repeated with a separator in between is not taken, and neither is a
repeated first half of a doubled letter.
-/

namespace RecompNet.ChatFilter

/-- A word spelled in folded characters: each letter once or more, with any separators between any
two characters. -/
inductive Spelling : List Char → List Char → Prop where
  | last {l} : Spelling [l] [l]
  | again {l w ss t} : (∀ s ∈ ss, is_separator s) → Spelling (l :: w) t →
    Spelling (l :: w) (l :: (ss ++ t))
  | next {l l' w ss t} : (∀ s ∈ ss, is_separator s) → Spelling (l' :: w) t →
    Spelling (l :: l' :: w) (l :: (ss ++ t))

/-- What the filter takes for a word: repeats of a letter directly behind it, unless the next letter
is the same, and separators, where they are allowed, in front of the next letter. -/
inductive Taken (allow_sep : Bool) : List Char → List Char → Prop where
  | last {l} (n : Nat) : Taken allow_sep [l] (List.replicate (n + 1) l)
  | next {l l' w ss t} (n : Nat) : l' ≠ l → (∀ s ∈ ss, is_separator s) →
    (allow_sep = false → ss = []) → Taken allow_sep (l' :: w) t →
    Taken allow_sep (l :: l' :: w) (List.replicate (n + 1) l ++ (ss ++ t))
  | double {l w ss t} : (∀ s ∈ ss, is_separator s) → (allow_sep = false → ss = []) →
    Taken allow_sep (l :: w) t → Taken allow_sep (l :: l :: w) (l :: (ss ++ t))

/-! ## The matcher -/

section
variable {t : List Char} {i p : Nat}

/-- What `skipWhile` skips. -/
lemma skipWhile_iff_split {kind : Char → Bool} : skipWhile kind t i = p ↔
    ∃ cs z, t.drop i = cs ++ z ∧ p = i + cs.length ∧ (∀ c ∈ cs, kind c) ∧
      z.head?.any kind = false := by
  constructor
  · rintro rfl
    refine ⟨(t.drop i).takeWhile kind, (t.drop i).dropWhile kind, ?_, rfl, ?_, ?_⟩
    · exact (List.takeWhile_append_dropWhile).symm
    · exact fun c hc => List.mem_takeWhile_imp hc
    · generalize t.drop i = cs
      induction cs with
      | nil => rfl
      | cons c cs ih =>
        by_cases hc : kind c = true
        · rw [List.dropWhile_cons_of_pos hc]
          exact ih
        · rw [List.dropWhile_cons_of_neg hc]
          simpa using hc
  · rintro ⟨cs, z, split, rfl, all, stop⟩
    have none : z.takeWhile kind = [] := by
      cases z with
      | nil => rfl
      | cons c z => exact List.takeWhile_cons_of_neg (by simpa using stop)
    unfold skipWhile
    rw [split, List.takeWhile_append_of_pos all, none, List.append_nil]

/-- A character stands at the head of what is left of a text. -/
lemma getElem?_iff_split {c : Char} : t[i]? = some c ↔ ∃ z, t.drop i = c :: z := by
  rw [← List.head?_drop, List.head?_eq_some_iff]

lemma drop_split {cs z : List Char} (split : t.drop i = cs ++ z) : t.drop (i + cs.length) = z := by
  rw [← List.drop_drop, split, List.drop_left]

/-- A letter of a word is no separator. -/
lemma letter_not_separator {c : Char} (letter : is_letter c) : is_separator c = false := by
  by_contra sep
  have sep : is_separator c = true := by simpa using sep
  unfold is_separator at sep
  have all : [' ', '.', '-', '_', '*', '\'', ',', Char.ofNat 0x2019, Char.ofNat 0xA0].all
      (!is_letter ·) := by decide
  have none := List.all_eq_true.mp all c (of_decide_eq_true sep)
  rw [letter] at none
  cases none

/-- What is taken starts with the first letter of the word. -/
lemma Taken.head {allow_sep : Bool} {l : Char} {w y : List Char} (h : Taken allow_sep (l :: w) y) :
    ∃ y', y = l :: y' := by
  cases h with
  | last n => exact ⟨_, List.replicate_succ⟩
  | next n _ _ _ _ => exact ⟨_, by rw [List.replicate_succ, List.cons_append]⟩
  | double _ _ _ => exact ⟨_, rfl⟩

/-- The separators in front of a letter. -/
lemma start_iff {l : Char} {first allow_sep : Bool} {Q : Nat → Prop} (letter : is_letter l) :
    (∃ a, a = (if !first && allow_sep then skipWhile is_separator t i else i) ∧
      t[a]? = some l ∧ Q a) ↔
      ∃ ss r, t.drop i = ss ++ l :: r ∧ (∀ s ∈ ss, is_separator s) ∧
        ((first || !allow_sep) → ss = []) ∧ Q (i + ss.length) := by
  by_cases skips : (!first && allow_sep) = true
  · have free : ¬ (first || !allow_sep) = true := by
      cases first <;> cases allow_sep <;> simp_all
    simp only [skips, if_true, free]
    constructor
    · rintro ⟨a, ha, here, q⟩
      obtain ⟨ss, z, split, rfl, seps, -⟩ := skipWhile_iff_split.mp ha.symm
      obtain ⟨r, hr⟩ := getElem?_iff_split.mp here
      rw [drop_split split] at hr
      exact ⟨ss, r, hr ▸ split, seps, nofun, q⟩
    · rintro ⟨ss, r, split, seps, -, q⟩
      refine ⟨i + ss.length, ?_, getElem?_iff_split.mpr ⟨r, drop_split split⟩, q⟩
      refine (skipWhile_iff_split.mpr ⟨ss, _, split, rfl, seps, ?_⟩).symm
      simpa using letter_not_separator letter
  · have bare : (first || !allow_sep) = true := by
      cases first <;> cases allow_sep <;> simp_all
    simp only [skips, bare, true_imp_iff, exists_eq_left]
    constructor
    · rintro ⟨here, q⟩
      obtain ⟨r, hr⟩ := getElem?_iff_split.mp here
      exact ⟨[], r, hr, by simp, rfl, q⟩
    · rintro ⟨ss, r, split, -, rfl, q⟩
      exact ⟨getElem?_iff_split.mpr ⟨r, split⟩, q⟩

/-- The repeats of the last letter of a word. -/
lemma last_iff {l : Char} {allow_sep : Bool} {r : List Char} (here : t.drop i = l :: r) :
    skipWhile (· = l) t (i + 1) = p ↔ ∃ y z, l :: r = y ++ z ∧ p = i + y.length ∧
      Taken allow_sep [l] y ∧ z.head? ≠ some l := by
  have behind : t.drop (i + 1) = r := @drop_split _ _ [l] _ here
  rw [skipWhile_iff_split, behind]
  constructor
  · rintro ⟨cs, z, rfl, rfl, all, stop⟩
    have same : cs = List.replicate cs.length l :=
      List.eq_replicate_of_mem fun c hc => of_decide_eq_true (all c hc)
    refine ⟨l :: cs, z, rfl, by simp only [List.length_cons]; omega, ?_, ?_⟩
    · rw [same]
      exact .last _
    · intro head
      simp [head] at stop
  · rintro ⟨y, z, split, rfl, taken, stop⟩
    cases taken with
    | last n =>
      rw [List.replicate_succ, List.cons_append] at split
      refine ⟨List.replicate n l, z, (List.cons.inj split).2, ?_, ?_, ?_⟩
      · simp only [List.length_replicate]
        omega
      · exact fun c hc => decide_eq_true (List.eq_of_mem_replicate hc)
      · cases z with
        | nil => rfl
        | cons c z => simpa using stop

/-- A letter that the word has twice in a row: both are taken, with the separators between. -/
lemma double_iff {l : Char} {allow_sep : Bool} {w r : List Char} {last : Option Char} :
    (∃ ss y z, r = ss ++ (y ++ z) ∧ p = a + 1 + ss.length + y.length ∧
      (∀ s ∈ ss, is_separator s) ∧ (!allow_sep → ss = []) ∧ Taken allow_sep (l :: w) y ∧
      z.head? ≠ last) ↔
      ∃ y z, l :: r = y ++ z ∧ p = a + y.length ∧ Taken allow_sep (l :: l :: w) y ∧
        z.head? ≠ last := by
  constructor
  · rintro ⟨ss, y, z, rfl, rfl, seps, bare, taken, stop⟩
    refine ⟨l :: (ss ++ y), z, by simp, ?_, .double seps ?_ taken, stop⟩
    · simp only [List.length_cons, List.length_append]
      omega
    · exact fun off => bare (by simp [off])
  · rintro ⟨y, z, split, rfl, taken, stop⟩
    cases taken with
    | next _ other => exact absurd rfl other
    | @double _ _ ss y seps bare taken =>
      rw [List.cons_append, List.append_assoc] at split
      refine ⟨ss, y, z, (List.cons.inj split).2, ?_, seps, ?_, taken, stop⟩
      · simp only [List.length_cons, List.length_append]
        omega
      · exact fun off => bare (by simpa using off)

/-- The repeats of a letter end where another letter of the word follows, or the separators in
front of it. -/
lemma repeats_end {l l' : Char} {ss z : List Char} (letter : is_letter l) (other : l' ≠ l)
    (seps : ∀ s ∈ ss, is_separator s) : ¬ ((ss ++ l' :: z).head?.any (· = l)) := by
  cases ss with
  | nil => simpa using other
  | cons c ss =>
    have apart : c ≠ l := by
      rintro rfl
      have sep := seps c List.mem_cons_self
      rw [letter_not_separator letter] at sep
      cases sep
    simpa using apart

/-- A letter that another one follows in the word: it is taken with its repeats, and then the
separators in front of the next. -/
lemma next_iff {l l' : Char} {allow_sep : Bool} {w r : List Char} {last : Option Char}
    (letter : is_letter l) (other : l' ≠ l) (behind : t.drop (a + 1) = r) :
    (∃ b, b = skipWhile (· = l) t (a + 1) ∧
      ∃ ss y z, t.drop b = ss ++ (y ++ z) ∧ p = b + ss.length + y.length ∧
        (∀ s ∈ ss, is_separator s) ∧ (!allow_sep → ss = []) ∧ Taken allow_sep (l' :: w) y ∧
        z.head? ≠ last) ↔
      ∃ y z, l :: r = y ++ z ∧ p = a + y.length ∧ Taken allow_sep (l :: l' :: w) y ∧
        z.head? ≠ last := by
  constructor
  · rintro ⟨b, hb, ss, y, z, split, rfl, seps, bare, taken, stop⟩
    obtain ⟨cs, z', split', rfl, all, -⟩ := skipWhile_iff_split.mp hb.symm
    have repeats : cs = List.replicate cs.length l :=
      List.eq_replicate_of_mem fun c hc => of_decide_eq_true (all c hc)
    have rest := drop_split split'
    rw [split] at rest
    rw [behind, repeats, ← rest] at split'
    refine ⟨List.replicate (cs.length + 1) l ++ (ss ++ y), z, ?_, ?_, ?_, stop⟩
    · rw [split', List.replicate_succ]
      simp
    · simp only [List.length_append, List.length_replicate]
      omega
    · exact .next _ other seps (fun off => bare (by simp [off])) taken
  · rintro ⟨y, z, split, rfl, taken, stop⟩
    cases taken with
    | double _ _ => exact absurd rfl other
    | @next _ _ _ ss y n _ seps bare taken =>
      obtain ⟨y', rfl⟩ := taken.head
      rw [List.replicate_succ] at split
      simp only [List.cons_append, List.append_assoc, List.cons.injEq, true_and] at split
      have skipped : skipWhile (· = l) t (a + 1) = a + 1 + n := by
        refine skipWhile_iff_split.mpr ⟨_, _, behind.trans split, by simp, ?_, ?_⟩
        · exact fun c hc => decide_eq_true (List.eq_of_mem_replicate hc)
        · simpa using repeats_end (z := y' ++ z) letter other seps
      refine ⟨a + 1 + n, skipped.symm, ss, l' :: y', z, ?_, ?_, seps, ?_, taken, stop⟩
      · have rest := drop_split (behind.trans split)
        simpa using rest
      · simp only [List.length_append, List.length_replicate]
        omega
      · exact fun off => bare (by simpa using off)

/-- A match of the letters of a word takes a part of the text, behind the separators it skips, and
goes on to the last repeat of the last letter. -/
theorem match_letters_iff {allow_sep first : Bool} {w : List Char} (long : w ≠ [])
    (letters : ∀ c ∈ w, is_letter c) : match_letters t allow_sep first w i = some p ↔
      ∃ ss y z, t.drop i = ss ++ (y ++ z) ∧ p = i + ss.length + y.length ∧
        (∀ s ∈ ss, is_separator s) ∧ ((first || !allow_sep) → ss = []) ∧ Taken allow_sep w y ∧
        z.head? ≠ w.getLast? := by
  induction w generalizing first i p with
  | nil => exact absurd rfl long
  | cons l rest ih =>
    have letter := letters l List.mem_cons_self
    -- what is left to match behind the letter is the rest of the word, or nothing
    have step : ∀ {a r}, t.drop a = l :: r →
        ((∃ b, b = (if rest.head? ≠ some l then skipWhile (· = l) t (a + 1) else a + 1) ∧
          match_letters t allow_sep false rest b = some p) ↔
        ∃ y z, l :: r = y ++ z ∧ p = a + y.length ∧ Taken allow_sep (l :: rest) y ∧
          z.head? ≠ (l :: rest).getLast?) := by
      intro a r here
      have behind : t.drop (a + 1) = r := @drop_split _ _ [l] _ here
      cases rest with
      | nil =>
        simp only [List.head?_nil, ne_eq, reduceCtorEq, not_false_eq_true, if_true, match_letters,
          Option.some.injEq, exists_eq_left, List.getLast?_singleton]
        exact last_iff here
      | cons l' w =>
        have ih := fun b => @ih b p false (List.cons_ne_nil _ _) fun c hc =>
          letters c (List.mem_cons_of_mem _ hc)
        have last : (l :: l' :: w).getLast? = (l' :: w).getLast? := rfl
        simp only [ih, last, List.head?_cons, ne_eq, Option.some.injEq, Bool.false_or]
        by_cases same : l' = l
        · subst same
          simp only [not_true_eq_false, if_false, exists_eq_left, behind]
          exact double_iff
        · simp only [same, not_false_eq_true, if_true]
          exact next_iff letter same behind
    rw [match_letters_cons]
    have regroup : (∃ a b, a = (if !first && allow_sep then skipWhile is_separator t i else i) ∧
        t[a]? = some l ∧ b = (if rest.head? ≠ some l then skipWhile (· = l) t (a + 1) else a + 1) ∧
        match_letters t allow_sep false rest b = some p) ↔
        ∃ a, a = (if !first && allow_sep then skipWhile is_separator t i else i) ∧ t[a]? = some l ∧
          ∃ b, b = (if rest.head? ≠ some l then skipWhile (· = l) t (a + 1) else a + 1) ∧
            match_letters t allow_sep false rest b = some p := by
      simp only [exists_and_left]
    rw [regroup, start_iff letter]
    constructor
    · rintro ⟨ss, r, split, seps, bare, more⟩
      obtain ⟨y, z, e, rfl, taken, stop⟩ := (step (drop_split split)).mp more
      exact ⟨ss, y, z, e ▸ split, rfl, seps, bare, taken, stop⟩
    · rintro ⟨ss, y, z, split, rfl, seps, bare, taken, stop⟩
      obtain ⟨y', rfl⟩ := taken.head
      refine ⟨ss, y' ++ z, split, seps, bare, ?_⟩
      exact (step (drop_split split)).mpr ⟨_, z, rfl, rfl, taken, stop⟩

/-- A match ends within the text. -/
lemma match_letters_le {allow_sep first : Bool} {w : List Char} (long : w ≠ [])
    (letters : ∀ c ∈ w, is_letter c) (h : match_letters t allow_sep first w i = some p) :
    p ≤ t.length := by
  obtain ⟨ss, y, z, split, rfl, -, -, taken, -⟩ := (match_letters_iff long letters).mp h
  have some_left : y ≠ [] := by
    cases w with
    | nil => exact absurd rfl long
    | cons l w =>
      obtain ⟨y', rfl⟩ := taken.head
      exact List.cons_ne_nil _ _
  have count := congrArg List.length split
  have pos := List.length_pos_iff.mpr some_left
  simp only [List.length_drop, List.length_append] at count
  omega

end

/-! ## Whole texts -/

section
variable {words : List Word} {text : List Char}

/-- The filter takes a whole text for one of its entries. -/
def TakenWhole (words : List Word) (text : List Char) : Prop :=
  ∃ v ∈ words, Taken (4 ≤ v.cp.length) v.cp (text.map fold)

/-- A text that an entry matches from end to end is one hit, and only such a text is. -/
lemma hits_whole_iff (letters : ∀ w ∈ words, ∀ c ∈ w.cp, is_letter c) :
    hits words text = [(0, text.length)] ↔ TakenWhole words text := by
  constructor
  · intro whole
    have mem : (0, text.length) ∈ hits words text := whole ▸ List.mem_singleton_self _
    obtain ⟨b, found⟩ := Scan.spans_found mem
    have pos := (Scan.spans_bounds mem).2.1
    simp only at found pos
    have letter : ((text.map fold)[0]?).any is_letter = true := by
      by_contra quiet
      rw [find_hit, if_neg quiet] at found
      omega
    rw [find_hit, if_pos letter] at found
    rw [found] at pos
    -- The longest entry that matches at the start matches the whole text.
    obtain ⟨v, hv, -, e⟩ := (best_end_spec _ _ _ _).1 pos
    obtain ⟨matched, -⟩ := (match_at_eq pos).mp e
    obtain ⟨ss, y, z, split, count, -, bare, taken, -⟩ :=
      (match_letters_iff v.cp_ne (letters v hv)).mp matched
    obtain rfl := bare rfl
    rw [← found] at count
    have all := congrArg List.length split
    simp only [List.drop_zero, List.length_map, List.nil_append, List.length_append,
      List.length_nil] at all count
    have empty : z = [] := List.length_eq_zero_iff.mp (by omega)
    simp only [empty, List.drop_zero, List.nil_append, List.append_nil] at split
    exact ⟨v, hv, split ▸ taken⟩
  · rintro ⟨v, hv, taken⟩
    have long : 0 < text.length := by
      cases hw : v.cp with
      | nil => exact absurd hw v.cp_ne
      | cons l w =>
        rw [hw] at taken
        obtain ⟨y, hy⟩ := taken.head
        have count := congrArg List.length hy
        simp only [List.length_map, List.length_cons] at count
        omega
    have matched : match_letters (text.map fold) (4 ≤ v.cp.length) true v.cp 0 =
        some text.length := by
      refine (match_letters_iff v.cp_ne (letters v hv)).mpr ⟨[], _, [], by simp, by simp, by simp,
        fun _ => rfl, taken, ?_⟩
      rw [List.head?_nil]
      exact fun none => v.cp_ne (List.getLast?_eq_none_iff.mp none.symm)
    have found : match_at (text.map fold) text 0 v = text.length :=
      (match_at_eq long).mpr ⟨matched, .inr ⟨fun h => absurd h (lt_irrefl 0), by simp⟩⟩
    have head : v.cp.head? = (text.map fold)[0]? := by
      by_contra other
      rw [match_at_head other] at found
      omega
    have letter : ((text.map fold)[0]?).any is_letter = true := by
      cases hw : v.cp with
      | nil => exact absurd hw v.cp_ne
      | cons l w =>
        rw [← head, hw]
        exact letters v hv l (hw ▸ List.mem_cons_self)
    -- No other entry reaches further than the end.
    have longest : best_end words (text.map fold) text 0 = text.length := by
      apply le_antisymm
      · refine best_end_le.mpr fun w hw => ?_
        rcases Nat.eq_zero_or_pos (match_at (text.map fold) text 0 w) with none | some
        · omega
        · have le := match_letters_le w.cp_ne (letters w hw) ((match_at_eq some).mp rfl).1
          rwa [List.length_map] at le
      · exact found ▸ (best_end_spec _ _ _ _).2 v hv head
    have hit : find_hit words text false 0 = text.length := by
      rw [find_hit, if_pos letter]
      exact longest
    obtain ⟨fuel, hfuel⟩ : ∃ fuel, text.length = fuel + 1 := ⟨text.length - 1, by omega⟩
    unfold hits
    rw [hfuel, Scan.spans, ← hfuel, if_neg (by omega), hit, if_pos long]
    cases fuel with
    | zero => rfl
    | succ fuel => rw [Scan.spans, if_pos le_rfl]

/-- A text that is one hit is starred from end to end. -/
lemma stars_whole (whole : hits words text = [(0, text.length)]) :
    stars (hits words text) text = text.map fun _ => '*' := by
  rw [whole]
  simp [stars, star]

end

/-! ## Texts cut into entries -/

/-- A word without the repeats of its letters. -/
def squeeze : List Char → List Char
  | [] => []
  | c :: cs => if cs.head? = some c then squeeze cs else c :: squeeze cs

/-- The key of a word, by which it is compared: its letters without repeats, as numbers. -/
def key (w : List Char) : List Nat := (squeeze w).map Char.toNat

/-- What is left of a key behind another. -/
def behind : List Nat → List Nat → Option (List Nat)
  | [], w => some w
  | _ :: _, [] => none
  | c :: cs, d :: ds => if c = d then behind cs ds else none

/-- The keys on one of 32 shelves, by their first letter. -/
def shelf (ks : List (List Nat)) (m : Nat) : List (List Nat) :=
  ks.filter fun v => v.headD 0 % 32 = m

/-- No key is made of two or more, but for that of `pidoras`, which is `pidor` and `ass`. -/
def uncut (ks : List (List Nat)) : Bool :=
  (List.range 32).all fun m => (shelf ks m).all fun w => (shelf ks m).all fun v =>
    match behind v w with
    | none => true
    | some [] => true
    | some (d :: ds) => (shelf ks (d % 32)).all fun u => match behind u (d :: ds) with
      | none => true
      | some [] => v == key "pidor".toList && u == key "ass".toList
      | some (d' :: ds') => (shelf ks (d' % 32)).all fun u' => (behind u' (d' :: ds')).isNone

/-- What evaluation shows about the keys of the list. -/
def cuts_checked (es : List (Bool × List Char)) : Bool :=
  uncut (es.map fun e => key e.2) &&
  es.all (fun e => e.2 == "pidor".toList || e.2 == "ass".toList ||
    (key e.2 != key "pidor".toList && key e.2 != key "ass".toList)) &&
  es.contains (false, "pidoras".toList)

lemma builtin_cuts : cuts_checked (entries (BUILTIN_LIST.map String.toList)) := by
  apply of_read (P := fun lines => cuts_checked (entries lines))
  · unfold BUILTIN_LIST
    repeat first | exact List.map_nil | apply map_toList_cons rfl
  · decide +kernel

/-- What is behind a key. -/
lemma behind_eq_some {v w r : List Nat} : behind v w = some r ↔ w = v ++ r := by
  induction v generalizing w with
  | nil => simp [behind, eq_comm]
  | cons c cs ih =>
    cases w with
    | nil => simp [behind]
    | cons d ds =>
      rw [behind, List.cons_append, List.cons.injEq]
      split_ifs with same
      · rw [ih]
        exact ⟨fun h => ⟨same.symm, h⟩, fun h => h.2⟩
      · exact ⟨nofun, fun h => absurd h.1.symm same⟩

/-- A key stands on the shelf of its first letter. -/
lemma mem_shelf {ks : List (List Nat)} {v : List Nat} {d : Nat} (hv : v ∈ ks)
    (head : v.headD 0 = d) : v ∈ shelf ks (d % 32) := 
  List.mem_filter.mpr ⟨hv, decide_eq_true (by rw [head])⟩

/-- A key made of two or more. -/
lemma uncut_sound {ks us : List (List Nat)} {w v : List Nat} (ok : uncut ks)
    (full : ∀ k ∈ ks, k ≠ []) (hw : w ∈ ks) (hv : v ∈ ks) (hus : ∀ u ∈ us, u ∈ ks)
    (split : w = v ++ us.flatten) (more : us ≠ []) :
    v = key "pidor".toList ∧ us = [key "ass".toList] := by
  obtain ⟨c, cs, rfl⟩ := List.exists_cons_of_ne_nil (full v hv)
  obtain ⟨u, us, rfl⟩ := List.exists_cons_of_ne_nil more
  rw [List.forall_mem_cons] at hus
  obtain ⟨d, ds, rfl⟩ := List.exists_cons_of_ne_nil (full u hus.1)
  rw [List.flatten_cons] at split
  have shelf_w : w ∈ shelf ks (c % 32) := mem_shelf hw (by rw [split]; rfl)
  have shelf_v : c :: cs ∈ shelf ks (c % 32) := mem_shelf hv rfl
  have shelf_u : d :: ds ∈ shelf ks (d % 32) := mem_shelf hus.1 rfl
  have check := List.all_eq_true.mp ok (c % 32) (List.mem_range.mpr (Nat.mod_lt _ (by decide)))
  have check := List.all_eq_true.mp (List.all_eq_true.mp check w shelf_w) _ shelf_v
  rw [behind_eq_some.mpr split] at check
  have check := List.all_eq_true.mp check _ shelf_u
  have second : behind (d :: ds) (d :: ds.append us.flatten) = some us.flatten :=
    behind_eq_some.mpr rfl
  rw [second] at check
  cases us with
  | nil =>
    simp only [List.flatten_nil, Bool.and_eq_true, beq_iff_eq] at check
    rw [check.1, check.2]
    exact ⟨rfl, rfl⟩
  | cons u' us =>
    rw [List.forall_mem_cons] at hus
    obtain ⟨d', ds', rfl⟩ := List.exists_cons_of_ne_nil (full u' hus.2.1)
    have third := List.all_eq_true.mp check _ (mem_shelf hus.2.1 rfl)
    have more : behind (d' :: ds') (d' :: ds'.append us.flatten) = some us.flatten :=
      behind_eq_some.mpr rfl
    rw [more] at third
    cases third

section
variable {words : List Word} {text w t y z : List Char} {vs : List Word}

/-- The characters of a text that are no separators. -/
def unseparated (t : List Char) : List Char := t.filter fun c => !is_separator c

/-- What is taken for a word spells it. -/
lemma Taken.spelling {allow_sep : Bool} (h : Taken allow_sep w y) : Spelling w y := by
  have repeats : ∀ n {l w t}, Spelling (l :: w) (l :: t) →
      Spelling (l :: w) (List.replicate (n + 1) l ++ t) := by
    intro n l w t h
    induction n with
    | zero => exact h
    | succ n ih => exact @Spelling.again _ _ [] _ nofun ih
  induction h with
  | last n => simpa using repeats n .last
  | next n _ seps _ _ ih => exact repeats n (.next seps ih)
  | double seps _ _ ih => exact .next seps ih

/-- A spelling starts with the first letter. -/
lemma Spelling.head {l : Char} (h : Spelling (l :: w) t) : ∃ t', t = l :: t' := by
  cases h <;> exact ⟨_, rfl⟩

/-- A spelling ends with the last letter. -/
lemma Spelling.last_eq (h : Spelling w t) : t.getLast? = w.getLast? := by
  induction h with
  | last => rfl
  | again _ more ih =>
    obtain ⟨t', rfl⟩ := more.head
    rw [← ih, List.getLast?_cons, List.getLast?_append_of_ne_nil _ (List.cons_ne_nil _ _)]
    simp [List.getLast?_cons]
  | next _ more ih =>
    obtain ⟨t', rfl⟩ := more.head
    rw [List.getLast?_cons_cons, ← ih, List.getLast?_cons,
      List.getLast?_append_of_ne_nil _ (List.cons_ne_nil _ _)]
    simp [List.getLast?_cons]

/-- A spelling has the key of its word. -/
lemma Spelling.squeeze_eq (h : Spelling w t) (letters : ∀ c ∈ w, is_letter c) :
    squeeze (unseparated t) = squeeze w := by
  have behind_first : ∀ {l ss t}, is_letter l → (∀ s ∈ ss, is_separator s) →
      unseparated (l :: (ss ++ t)) = l :: unseparated t := by
    intro l ss t letter seps
    have gone : ss.filter (fun c => !is_separator c) = [] :=
      List.filter_eq_nil_iff.mpr fun s hs => by simp [seps s hs]
    rw [unseparated, List.filter_cons_of_pos (by simp [letter_not_separator letter]),
      List.filter_append, gone]
    rfl
  induction h with
  | @last l =>
    have keep := @behind_first l [] [] (letters l List.mem_cons_self) nofun
    exact congrArg _ keep
  | @again l w ss t seps more ih =>
    have letter := letters l List.mem_cons_self
    obtain ⟨t', rfl⟩ := more.head
    have keep := @behind_first l [] t' letter nofun
    rw [behind_first letter seps, ← ih letters]
    rw [List.nil_append] at keep
    rw [keep, squeeze, List.head?_cons, if_pos rfl]
  | @next l l' w ss t seps more ih =>
    have letter' := letters l' (by simp)
    obtain ⟨t', rfl⟩ := more.head
    have keep := @behind_first l' [] t' letter' nofun
    rw [List.nil_append] at keep
    rw [behind_first (letters l List.mem_cons_self) seps, squeeze,
      ih fun c hc => letters c (List.mem_cons_of_mem _ hc), keep, squeeze]
    rfl

/-- Two parts that do not meet in one letter are squeezed on their own. -/
lemma squeeze_append (apart : ∀ c, y.getLast? = some c → z.head? ≠ some c) :
    squeeze (y ++ z) = squeeze y ++ squeeze z := by
  induction y with
  | nil => rfl
  | cons c cs ih =>
    cases cs with
    | nil =>
      rw [List.singleton_append, squeeze, if_neg (apart c rfl)]
      rfl
    | cons d ds =>
      have ih := ih apart
      have head : (d :: ds ++ z).head? = (d :: ds).head? := rfl
      rw [List.cons_append, squeeze, squeeze, ih, head]
      split_ifs <;> rfl

/-- A text that is cut into parts, each taken for an entry up to the last repeat of its last letter.
-/
inductive Pieced (words : List Word) : List Char → List Word → Prop where
  | nil : Pieced words [] []
  | cons {v y z vs} : v ∈ words → Taken (4 ≤ v.cp.length) v.cp y → z.head? ≠ v.cp.getLast? →
    Pieced words z vs → Pieced words (y ++ z) (v :: vs)

lemma Pieced.mem (h : Pieced words t vs) : ∀ v ∈ vs, v ∈ words := by
  induction h with
  | nil => exact nofun
  | cons hv _ _ _ ih => exact List.forall_mem_cons.mpr ⟨hv, ih⟩

/-- The key of such a text is made of those of the entries. -/
lemma Pieced.squeeze_eq (h : Pieced words t vs) (letters : ∀ w ∈ words, ∀ c ∈ w.cp, is_letter c) :
    squeeze (unseparated t) = (vs.map fun v => squeeze v.cp).flatten := by
  induction h with
  | nil => rfl
  | @cons v y z vs hv taken stop more ih =>
    have spelled := taken.spelling
    have first : ∀ c, (unseparated z).head? = some c → z.head? = some c := by
      intro c hc
      cases more with
      | nil => exact hc
      | @cons v' y' z' vs' hv' taken' _ _ =>
        cases hw : v'.cp with
        | nil => exact absurd hw v'.cp_ne
        | cons l w =>
          rw [hw] at taken'
          obtain ⟨y'', rfl⟩ := taken'.head
          have letter := letters v' hv' l (hw ▸ List.mem_cons_self)
          rw [List.cons_append, unseparated,
            List.filter_cons_of_pos (by simp [letter_not_separator letter])] at hc
          exact hc
    have final : (unseparated y).getLast? = v.cp.getLast? := by
      obtain ⟨ls, l, e⟩ := List.eq_nil_or_concat' v.cp |>.resolve_left v.cp_ne
      have last : v.cp.getLast? = some l := e ▸ List.getLast?_concat
      have letter := letters v hv l (e ▸ List.mem_append_right _ (List.mem_singleton_self _))
      obtain ⟨y', rfl⟩ := List.getLast?_eq_some_iff.mp (spelled.last_eq.trans last)
      have kept : [l].filter (fun c => !is_separator c) = [l] :=
        List.filter_cons_of_pos (by simp [letter_not_separator letter])
      rw [last, unseparated, List.filter_append, kept, List.getLast?_concat]
    rw [unseparated, List.filter_append]
    change squeeze (unseparated y ++ unseparated z) = _
    rw [squeeze_append fun c hy hz => stop ((first c hz).trans (hy.symm.trans final)), ih,
      spelled.squeeze_eq (letters v hv)]
    rfl

/-- A text that its hits cover from a position on is cut into entries. -/
lemma pieced_of_covered {fuel i : Nat} {after : Bool}
    (letters : ∀ w ∈ words, ∀ c ∈ w.cp, is_letter c) (enough : text.length ≤ fuel + i)
    (within : i ≤ text.length) (all : ∀ k, i ≤ k → k < text.length →
      Scan.Covers (Scan.spans (find_hit words text) text.length fuel after i) k) :
    ∃ vs, Pieced words ((text.map fold).drop i) vs := by
  induction fuel generalizing after i with
  | zero =>
    refine ⟨[], ?_⟩
    rw [List.drop_eq_nil_of_le (by rw [List.length_map]; omega)]
    exact .nil
  | succ fuel ih =>
    rcases within.eq_or_lt with done | more
    · refine ⟨[], ?_⟩
      rw [List.drop_eq_nil_of_le (by rw [List.length_map]; omega)]
      exact .nil
    rw [Scan.spans, if_neg (not_le.mpr more)] at all
    have hit : i < find_hit words text after i := by
      by_contra miss
      rw [if_neg miss] at all
      exact Scan.not_covers_before (Nat.lt_succ_self i) (all i le_rfl more)
    rw [if_pos hit] at all
    have pos : 0 < find_hit words text after i := by omega
    obtain ⟨v, hv, matched⟩ : ∃ v ∈ words, match_letters (text.map fold) (4 ≤ v.cp.length) true
        v.cp i = some (find_hit words text after i) := by
      by_cases letter : ((text.map fold)[i]?).any is_letter = true
      · rw [find_hit, if_pos letter] at pos ⊢
        obtain ⟨v, hv, -, e⟩ := (best_end_spec _ _ _ _).1 pos
        exact ⟨v, hv, ((match_at_eq pos).mp e).1⟩
      · rw [find_hit, if_neg letter] at pos
        exact absurd pos (lt_irrefl 0)
    have inside := match_letters_le v.cp_ne (letters v hv) matched
    rw [List.length_map] at inside
    obtain ⟨vs, rest⟩ := ih (by omega) inside fun k le small =>
      (Scan.covers_cons.mp (all k (by omega) small)).resolve_left fun h =>
        absurd h.2 (not_lt.mpr le)
    obtain ⟨ss, y, z, split, count, -, bare, taken, stop⟩ :=
      (match_letters_iff v.cp_ne (letters v hv)).mp matched
    obtain rfl := bare rfl
    rw [List.nil_append] at split
    rw [List.length_nil, Nat.add_zero] at count
    rw [count, drop_split split] at rest
    rw [split]
    exact ⟨v :: vs, .cons hv taken stop rest⟩

/-- Two parts taken for two words are taken for the words in a row. -/
lemma Taken.append {allow_sep : Bool} {l : Char} {u y : List Char} (h : Taken allow_sep u y)
    (more : Taken allow_sep (l :: w) z) (apart : u.getLast? ≠ some l) :
    Taken allow_sep (u ++ l :: w) (y ++ z) := by
  induction h with
  | @last k n =>
    have other : l ≠ k := fun e => apart (by rw [e]; rfl)
    exact @Taken.next _ _ _ _ [] _ n other nofun (fun _ => rfl) more
  | next n other seps bare _ ih =>
    rw [List.append_assoc, List.append_assoc]
    exact .next n other seps bare (ih apart)
  | double seps bare _ ih =>
    rw [List.cons_append, List.cons_append, List.cons_append, List.append_assoc]
    exact .double seps bare (ih apart)

end

/-- The list read as its entries. -/
lemma builtin_entry {w : Word} : w ∈ builtin.words ↔
    (w.anywhere, w.cp) ∈ entries (BUILTIN_LIST.map String.toList) := by
  rw [← parse_entries BUILTIN_LIST true, List.mem_map]
  constructor
  · exact fun h => ⟨w, h, rfl⟩
  · rintro ⟨⟨cp, anywhere, ne⟩, h, e⟩
    cases e
    exact h

/-- An entry has a key. -/
lemma key_ne_nil (w : Word) : key w.cp ≠ [] := by
  have long : ∀ l : List Char, l ≠ [] → squeeze l ≠ [] := by
    intro l ne
    induction l with
    | nil => exact absurd rfl ne
    | cons c cs ih =>
      rw [squeeze]
      split_ifs with same
      · exact ih fun h => by simp [h] at same
      · exact List.cons_ne_nil _ _
  exact fun h => long _ w.cp_ne (List.map_eq_nil_iff.mp h)

/-- No entry is spelled by two or more entries in a row, but for `pidoras`, by `pidor` and `ass`. -/
lemma builtin_uncut {w v : Word} {vs : List Word} (hw : w ∈ builtin.words) (hv : v ∈ builtin.words)
    (hvs : ∀ u ∈ vs, u ∈ builtin.words) (more : vs ≠ [])
    (split : squeeze w.cp = squeeze v.cp ++ (vs.map fun u => squeeze u.cp).flatten) :
    v.cp = "pidor".toList ∧ vs.map (·.cp) = ["ass".toList] := by
  have all := builtin_cuts
  simp only [cuts_checked, Bool.and_eq_true] at all
  obtain ⟨⟨ok, named⟩, -⟩ := all
  have mem : ∀ u ∈ builtin.words, key u.cp ∈
      (entries (BUILTIN_LIST.map String.toList)).map fun e => key e.2 :=
    fun u hu => List.mem_map_of_mem (f := fun e : Bool × List Char => key e.2) (builtin_entry.mp hu)
  have full : ∀ k ∈ (entries (BUILTIN_LIST.map String.toList)).map fun e => key e.2, k ≠ [] := by
    intro k hk
    obtain ⟨⟨anywhere, cp⟩, he, rfl⟩ := List.mem_map.mp hk
    rw [← parse_entries BUILTIN_LIST true] at he
    obtain ⟨u, -, e⟩ := List.mem_map.mp he
    cases e
    exact key_ne_nil u
  have keys : key w.cp = key v.cp ++ (vs.map fun u => key u.cp).flatten := by
    have e := congrArg (List.map Char.toNat) split
    rw [List.map_append, List.map_flatten, List.map_map] at e
    exact e
  have found := uncut_sound ok full (mem w hw) (mem v hv) (fun k hk => by
    obtain ⟨u, hu, rfl⟩ := List.mem_map.mp hk
    exact mem u (hvs u hu)) keys (by simpa using more)
  have name : ∀ u ∈ builtin.words, (key u.cp = key "pidor".toList → u.cp = "pidor".toList) ∧
      (key u.cp = key "ass".toList → u.cp = "ass".toList) := by
    intro u hu
    have other : key "ass".toList ≠ key "pidor".toList := by decide
    have h := List.all_eq_true.mp named _ (builtin_entry.mp hu)
    simp only [Bool.or_eq_true, beq_iff_eq, Bool.and_eq_true, bne_iff_ne] at h
    rcases h with (e | e) | e
    · exact ⟨fun _ => e, fun k => absurd (k.symm.trans (congrArg key e)) other⟩
    · exact ⟨fun k => absurd ((congrArg key e).symm.trans k) other, fun _ => e⟩
    · exact ⟨fun k => absurd k e.1, fun k => absurd k e.2⟩
  refine ⟨(name v hv).1 found.1, ?_⟩
  obtain ⟨u, rfl⟩ : ∃ u, vs = [u] := by
    have one := congrArg List.length found.2
    rw [List.length_map] at one
    exact List.length_eq_one_iff.mp one
  have last : key u.cp = key "ass".toList := by simpa using found.2
  rw [List.map_singleton, (name u (hvs u (List.mem_singleton_self u))).2 last]

lemma builtin_pidoras : (⟨"pidoras".toList, false, by decide⟩ : Word) ∈ builtin.words := by
  have all := builtin_cuts
  simp only [cuts_checked, Bool.and_eq_true] at all
  exact builtin_entry.mpr (List.contains_iff_mem.mp all.2)

/-- What is taken for `pidor` and `ass` in a row is taken for `pidoras`. -/
lemma pidoras_taken {y z : List Char} (first : Taken true "pidor".toList y)
    (second : Taken false "ass".toList z) : Taken true "pidoras".toList (y ++ z) := by
  have tail : Taken true "as".toList z := by
    rcases second with _ | ⟨n, other, -, bare, more⟩ | _
    obtain rfl := bare rfl
    rcases more with _ | ⟨-, other', -, -, -⟩ | ⟨-, bare', last⟩
    · exact absurd rfl other'
    · obtain rfl := bare' rfl
      rcases last with ⟨m⟩ | _ | _
      exact @Taken.next true _ _ _ [] _ n other nofun (fun _ => rfl) (.last (m + 1))
  exact first.append tail (by decide)

/-- A spelling of an entry is starred from end to end if some entry is taken for the whole of it;
and if it is starred from end to end, and none of the stars was there before, then some entry is.
-/
theorem spelling_masked {w : Word} {x : String} (hw : w ∈ builtin.words)
    (spelled : Spelling w.cp (x.toList.map fold)) :
    (TakenWhole builtin.words x.toList → (builtin.mask x).toList = x.toList.map fun _ => '*') ∧
    ('*' ∉ x.toList → (builtin.mask x).toList = (x.toList.map fun _ => '*') →
      TakenWhole builtin.words x.toList) := by
  have on : builtin.enabled = true := rfl
  have letters : ∀ v ∈ builtin.words, ∀ c ∈ v.cp, is_letter c := fun v hv c => builtin_letters hv
  have masked : (builtin.mask x).toList = stars (hits builtin.words x.toList) x.toList := by
    rw [mask_eq, if_pos on, String.toList_ofList]
  rw [masked]
  constructor
  · intro whole
    exact stars_whole ((hits_whole_iff letters).mpr whole)
  · intro plain starred
    have covered : ∀ k, 0 ≤ k → k < x.toList.length →
        Scan.Covers (hits builtin.words x.toList) k := by
      intro k _ small
      have here : x.toList[k]? = some x.toList[k] := List.getElem?_eq_getElem small
      refine (starred_iff hits_ordered here ?_).mp ?_
      · exact fun e => plain (e ▸ List.getElem_mem small)
      · change (stars (hits builtin.words x.toList) x.toList)[k]? = some '*'
        rw [starred, List.getElem?_map, here]
        rfl
    obtain ⟨vs, pieced⟩ := pieced_of_covered letters (Nat.le_add_right _ _) (Nat.zero_le _) covered
    rw [List.drop_zero] at pieced
    have squeezed := pieced.squeeze_eq letters
    rw [spelled.squeeze_eq (letters w hw)] at squeezed
    unfold TakenWhole
    generalize x.toList.map fold = t at pieced spelled ⊢
    cases pieced with
    | nil => exact absurd (List.getLast?_eq_none_iff.mp spelled.last_eq.symm) w.cp_ne
    | @cons v y z vs hv taken stop rest =>
      have known := rest.mem
      cases rest with
      | nil => exact ⟨v, hv, by rwa [List.append_nil]⟩
      | @cons u z z' vs hu taken' stop' rest =>
        obtain ⟨pidor, ass⟩ := builtin_uncut hw hv known (List.cons_ne_nil _ _) squeezed
        rw [List.map_cons, List.cons.injEq, List.map_eq_nil_iff] at ass
        obtain ⟨ass, rfl⟩ := ass
        cases rest with
        | nil =>
          rw [pidor] at taken
          rw [ass] at taken'
          refine ⟨⟨"pidoras".toList, false, by decide⟩, builtin_pidoras, ?_⟩
          rw [List.append_nil]
          exact pidoras_taken taken taken'

/-- The letters of `merde` with dots between them are starred. -/
theorem spelling_masked_dotted :
    (builtin.mask "m.e.r.d.e").toList = "m.e.r.d.e".toList.map fun _ => '*' := by
  have dot : ∀ s ∈ ['.'], is_separator s := List.forall_mem_singleton.mpr (by decide)
  have taken : Taken true "merde".toList "m.e.r.d.e".toList :=
    .next 0 (by decide) dot nofun (.next 0 (by decide) dot nofun
      (.next 0 (by decide) dot nofun (.next 0 (by decide) dot nofun (.last 0))))
  have folded : "m.e.r.d.e".toList.map fold = "m.e.r.d.e".toList := by decide
  exact (spelling_masked merde_entry (folded ▸ taken.spelling)).1 ⟨_, merde_entry, folded ▸ taken⟩

/-- With a letter repeated behind a dot they are not. -/
theorem spelling_masked_repeated : ¬ ∀ (w : Word) (x : String), w ∈ builtin.words →
    4 ≤ w.cp.length → Spelling w.cp (x.toList.map fold) →
    (builtin.mask x).toList = x.toList.map fun _ => '*' := by
  intro masked
  have dot : ∀ s ∈ ['.'], is_separator s := List.forall_mem_singleton.mpr (by decide)
  have spelled : Spelling "merde".toList "m.e.r.d.d.e".toList :=
    .next dot (.next dot (.next dot (.again dot (.next dot .last))))
  have all := masked _ "m.e.r.d.d.e" merde_entry (by decide) spelled
  rw [builtin_mask_merde (by decide)] at all
  revert all
  decide

end RecompNet.ChatFilter
