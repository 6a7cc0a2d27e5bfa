import RecompNet.ChatFilter.Boundaries

/-!
# Filtering twice

The server filters a line and the client filters it again. The second pass reads the hits of the
first as `*`, which is a separator and no letter: an entry that was followed by the letters of a hit
now ends at a word boundary, and one that had a hit between its letters is now spelled with
separators. A line that no entry runs into a hit of is shown as the server sent it.
-/

namespace RecompNet.ChatFilter

/-- The line with its hits starred. -/
def starred (words : List Word) (text : List Char) : List Char := stars (hits words text) text

/-- An entry matches in the line with its hits starred, over one of the hits or right up to it. -/
def RunsInto (words : List Word) (text : List Char) : Prop :=
  ∃ i, ∃ w ∈ words, 0 < match_at ((starred words text).map fold) (starred words text) i w ∧
    ∃ s ∈ hits words text,
      i < s.1 ∧ s.1 ≤ match_at ((starred words text).map fold) (starred words text) i w

/-! ## A match in one part of a text -/

/-- Where `skipWhile` stops. -/
lemma skipWhile_eq_iff {kind : Char → Bool} {t : List Char} {p q : Nat} : skipWhile kind t p = q ↔
    p ≤ q ∧ (∀ k, p ≤ k → k < q → (t[k]?).any kind) ∧ (t[q]?).any kind = false := by
  have stop : ((t[skipWhile kind t p]?).any kind = false) ∧
      ∀ k, p ≤ k → k < skipWhile kind t p → (t[k]?).any kind := by
    unfold skipWhile
    constructor
    · rw [← List.getElem?_drop]
      generalize t.drop p = cs
      induction cs with
      | nil => rfl
      | cons c cs ih =>
        by_cases hc : kind c = true
        · rw [List.takeWhile_cons_of_pos hc]
          exact ih
        · rw [List.takeWhile_cons_of_neg hc]
          simpa using hc
    · intro k le lt
      obtain ⟨d, rfl⟩ := Nat.exists_eq_add_of_le le
      rw [← List.getElem?_drop]
      have small : d < ((t.drop p).takeWhile kind).length := by omega
      have kept := List.mem_takeWhile_imp (List.getElem_mem small)
      rw [List.getElem?_eq_getElem (small.trans_le (List.takeWhile_prefix kind).length_le)]
      rwa [List.IsPrefix.getElem (List.takeWhile_prefix kind)] at kept
  constructor
  · rintro rfl
    exact ⟨le_skipWhile kind t p, stop.2, stop.1⟩
  · rintro ⟨le, all, none⟩
    apply le_antisymm
    · by_contra h
      have more := stop.2 q le (not_le.mp h)
      rw [none] at more
      cases more
    · by_contra h
      have more := all _ (le_skipWhile kind t p) (not_le.mp h)
      rw [stop.1] at more
      cases more

/-- The letters of a word are matched the same in two texts that are the same up to the end of the
match. -/
lemma match_letters_local {t t' : List Char} {allow_sep first : Bool} {ws : List Char} {i p : Nat}
    (same : ∀ k, i ≤ k → k ≤ p → t[k]? = t'[k]?)
    (h : match_letters t allow_sep first ws i = some p) :
    match_letters t' allow_sep first ws i = some p := by
  have skip : ∀ kind a b, i ≤ a → b ≤ p → skipWhile kind t a = b → skipWhile kind t' a = b := by
    intro kind a b ha hb e
    obtain ⟨le, all, stop⟩ := skipWhile_eq_iff.mp e
    refine skipWhile_eq_iff.mpr ⟨le, fun k hk hk' => ?_, ?_⟩
    · rw [← same k (ha.trans hk) (hk'.le.trans hb)]
      exact all k hk hk'
    · rw [← same b (ha.trans le) hb]
      exact stop
  induction ws generalizing first i with
  | nil => exact h
  | cons want rest ih =>
    obtain ⟨a, b, ha, here, hb, h⟩ := match_letters_cons.mp h
    have le_a : i ≤ a := by
      rw [ha]
      split
      · exact le_skipWhile _ _ _
      · exact le_rfl
    have lt_b : a + 1 ≤ b := by
      rw [hb]
      split
      · exact le_skipWhile _ _ _
      · exact le_rfl
    have le_p : b ≤ p := le_match_letters h
    refine match_letters_cons.mpr ⟨a, b, ?_, ?_, ?_, ?_⟩
    · split_ifs at ha ⊢
      · exact (skip _ i a le_rfl (by omega) ha.symm).symm
      · exact ha
    · rw [← same a le_a (by omega)]
      exact here
    · split_ifs at hb ⊢
      · exact (skip _ (a + 1) b (by omega) le_p hb.symm).symm
      · exact hb
    · exact ih (fun k hk hk' => same k (by omega) hk') h
        fun kind a' b' ha' => skip kind a' b' (by omega)

/-! ## The second pass -/

section
variable {words : List Word} {text : List Char} {i k : Nat}

lemma hits_sorted : ∀ s ∈ hits words text, s.1 ≤ s.2 := hits_ordered

lemma starred_length : (starred words text).length = text.length := by
  have keep : ∀ ss : List (Nat × Nat), (∀ s ∈ ss, s.1 ≤ s.2) → ∀ cs : List Char,
      (stars ss cs).length = cs.length := by
    intro ss
    induction ss with
    | nil => exact fun _ _ => rfl
    | cons s ss ih =>
      intro ordered cs
      rw [List.forall_mem_cons] at ordered
      exact (ih ordered.2 _).trans (star_length ordered.1)
  exact keep _ hits_sorted _

lemma getElem?_starred (free : ¬ Scan.Covers (hits words text) k) :
    (starred words text)[k]? = text[k]? := by
  rw [starred, getElem?_stars hits_sorted, if_neg free]

/-- A letter of the starred line is in no hit. -/
lemma starred_letter (letter : letter_at (starred words text) i) :
    ¬ Scan.Covers (hits words text) i := by
  intro covered
  obtain ⟨c, hc, plain⟩ := letter_not_star letter
  rw [starred, getElem?_stars hits_sorted, if_pos covered] at hc
  obtain ⟨d, -, e⟩ := Option.map_eq_some_iff.mp hc
  exact plain e.symm

/-- A hit starts at a letter. -/
lemma hit_letter {s : Nat × Nat} (h : s ∈ hits words text) : letter_at text s.1 := by
  obtain ⟨b, found⟩ := Scan.spans_found h
  have bounds := Scan.spans_bounds h
  by_contra quiet
  rw [find_hit_quiet (Bool.eq_false_iff.mpr quiet)] at found
  omega

/-- A text is left alone if and only if it has no hit. -/
lemma stars_same_iff : stars (hits words text) text = text ↔ hits words text = [] := by
  constructor
  · intro same
    rw [List.eq_nil_iff_forall_not_mem]
    intro s hs
    obtain ⟨c, hc, plain⟩ := letter_not_star (hit_letter hs)
    have covered : Scan.Covers (hits words text) s.1 := ⟨s, hs, le_rfl, (Scan.spans_bounds hs).2.1⟩
    have here := (starred_iff hits_sorted hc plain).mpr covered
    rw [same, hc] at here
    exact plain (Option.some.inj here)
  · intro none
    rw [none]
    rfl

/-- A text has no hit if and only if nothing is found at any place of it. -/
lemma no_hits_iff : hits words text = [] ↔ ∀ i, find_hit words text false i = 0 := by
  constructor
  · intro none i
    by_contra some
    have hit := find_hit_le (Nat.pos_of_ne_zero some)
    have letter : letter_at text i = true := by
      by_contra quiet
      exact some (find_hit_quiet (Bool.eq_false_iff.mpr quiet))
    obtain ⟨c, hc, -⟩ := letter_not_star letter
    have free : ∀ k, ¬ Scan.Covers (hits words text) k := by
      rw [none]
      exact fun _ => Scan.covers_nil
    obtain ⟨after, -, miss, first, before⟩ := Scan.uncovered (Nat.le_add_right _ _)
      (Nat.zero_le i) (List.getElem?_eq_some_iff.mp hc).1 (free i)
    have start : after = false := by
      by_cases zero : i = 0
      · exact first zero
      · exact Bool.eq_false_iff.mpr fun h => free _ ((before zero).mp h)
    rw [start] at miss
    exact miss hit
  · intro silent
    have none : ∀ fuel i, Scan.spans (find_hit words text) text.length fuel false i = [] := by
      intro fuel
      induction fuel with
      | zero => exact fun _ => rfl
      | succ fuel ih =>
        intro i
        rw [Scan.spans, silent i, ih]
        simp
    exact none _ _

/-- What the second pass finds in the starred line runs into a hit of the first pass. -/
lemma runs_into {w : Word} (hw : w ∈ words)
    (found : 0 < match_at ((starred words text).map fold) (starred words text) i w)
    (letter : letter_at (starred words text) i) : RunsInto words text := by
  refine ⟨i, w, hw, found, ?_⟩
  generalize hp : match_at ((starred words text).map fold) (starred words text) i w = p at found
  by_contra apart
  push Not at apart
  have free := starred_letter letter
  obtain ⟨c, hc, -⟩ := letter_not_star letter
  have small : i < text.length :=
    @starred_length words text ▸ (List.getElem?_eq_some_iff.mp hc).1
  obtain ⟨letters, bounds⟩ := (match_at_eq found).mp hp
  have lt := lt_match_letters w.cp_ne letters
  -- No hit starts up to the end of the match, so the first pass read the same characters.
  have clear : ∀ k, i ≤ k → k ≤ p → ¬ Scan.Covers (hits words text) k := by
    rintro k hk hk' ⟨s, hs, le, lt'⟩
    by_cases early : s.1 ≤ i
    · exact free ⟨s, hs, early, by omega⟩
    · exact absurd (apart s hs (by omega)) (by omega)
  obtain ⟨after, stand, miss, first, before⟩ := Scan.uncovered (Nat.le_add_right _ _)
      (Nat.zero_le i) small free
  apply miss
  have letter' : letter_at text i = true := by
    unfold letter_at at letter ⊢
    rw [List.getElem?_map, ← getElem?_starred free, ← List.getElem?_map]
    exact letter
  have again : match_at (text.map fold) (judged text (after, i)) i w = p := by
    refine (match_at_eq found).mpr ⟨match_letters_local (fun k hk hk' => ?_) letters,
      bounds.imp_right fun ⟨left, right⟩ => ⟨fun h0 => ?_, ?_⟩⟩
    · rw [List.getElem?_map, List.getElem?_map, getElem?_starred (clear k hk hk')]
    · cases after with
      | true =>
        rw [judged, if_pos rfl, List.getElem?_set_self']
        cases text[i - 1]? with
        | none => rfl
        | some c => exact (by decide : is_letter '*' = false)
      | false =>
        have open_left : ¬ Scan.Covers (hits words text) (i - 1) :=
          fun covered => Bool.false_ne_true ((before h0.ne').mpr covered)
        rw [judged, if_neg (by simp), ← getElem?_starred open_left]
        exact left h0
    · have apart_left : (judged text (after, i))[p]? = text[p]? := by
        unfold judged
        split
        · exact List.getElem?_set_ne (by dsimp only; omega)
        · rfl
      rw [apart_left, ← getElem?_starred (clear p lt.le le_rfl)]
      exact right
  rw [find_hit_letter letter']
  exact lt.trans_le (again ▸ best_end_le.mp le_rfl w hw)

end

/-- A client that filters what the server has filtered shows it unchanged exactly when no entry runs
into a hit of the line. -/
theorem mask_twice (text : String) : builtin.mask (builtin.mask text) = builtin.mask text ↔
    ¬ RunsInto builtin.words text.toList := by
  have first : builtin.mask text = String.ofList (starred builtin.words text.toList) :=
    (mask_eq builtin text).trans (if_pos rfl)
  have second : builtin.mask (builtin.mask text) = String.ofList
      (stars (hits builtin.words (starred builtin.words text.toList))
        (starred builtin.words text.toList)) := by
    have on : builtin.enabled = true := rfl
    rw [first, mask_eq, if_pos on, String.toList_ofList]
  rw [second, first, String.ofList_inj, stars_same_iff, no_hits_iff]
  constructor
  · rintro silent ⟨i, w, hw, found, -⟩
    have head : w.cp.head? = ((starred builtin.words text.toList).map fold)[i]? := by
      by_contra other
      rw [match_at_head other] at found
      cases found
    have letter : letter_at (starred builtin.words text.toList) i = true := by
      rw [letter_at, ← head]
      cases hcp : w.cp with
      | nil => exact absurd hcp w.cp_ne
      | cons c cs => exact builtin_letters hw (hcp ▸ List.mem_cons_self)
    have none := silent i
    rw [find_hit_letter letter] at none
    exact absurd (none ▸ best_end_le.mp le_rfl w hw) (not_le.mpr found)
  · intro apart i
    by_contra some
    have letter : letter_at (starred builtin.words text.toList) i = true := by
      by_contra quiet
      exact some (find_hit_quiet (Bool.eq_false_iff.mpr quiet))
    rw [find_hit_letter letter] at some
    obtain ⟨w, hw, -, e⟩ := (best_end_spec _ _ _ _).1 (Nat.pos_of_ne_zero some)
    exact apart (runs_into hw (e ▸ Nat.pos_of_ne_zero some) letter)

/-- A word that is followed by the letters of a hit is a hit of the second pass. -/
theorem mask_twice_merdekys :
    builtin.mask (builtin.mask "merdekys") ≠ builtin.mask "merdekys" := by
  have first : builtin.mask "merdekys" = "merde***" :=
    (builtin_mask_merde (by decide)).trans (by decide)
  rw [first, builtin_mask_merde (by decide)]
  decide

end RecompNet.ChatFilter
