import Mathlib.Tactic.IntervalCases
import RecompNet.ChatFilter.Twice
import RecompNet.Auth.NameSize

/-!
# The fallback handle

A Discord profile whose names the gate refuses gets a handle built from its snowflake. That one does not
pass through the gate: its digits are folded like any others, and `455` spells an entry of the word list.
-/

namespace RecompNet

namespace Names

lemma fit_all {budget : Nat} {cs : List Char} (h : Text.bytes cs ≤ budget) : fit budget cs = cs := by
  induction cs generalizing budget with
  | nil => rfl
  | cons c cs ih =>
    simp only [Text.bytes, List.map_cons, List.sum_cons] at h
    rw [fit, if_pos (by omega), ih]
    simp only [Text.bytes]
    omega

/-- The hygiene leaves a name alone that is tidy and has its size. -/
lemma sanitize_sound {n : String} (fits : Storable n) (tidy : Identity.Tidy n) :
    sanitize (some n) = some n := by
  have shown : n.toList.filter (!Text.is_control ·) = n.toList :=
    List.filter_eq_self.mpr fun c hc => by simp [fits.plain c hc]
  have long : n.toList ≠ [] := fun e => tidy.1 (String.toList_injective e)
  rw [sanitize, Option.bind_some]
  dsimp only
  rw [shown, List.take_of_length_le fits.chars, fit_all (Text.byte_len_eq n ▸ fits.bytes),
    Text.trimChars_of_trimmed tidy.2, if_neg long, String.ofList_toList]

/-- Such a name passes the gate if the word list has nothing in it. -/
lemma acceptable_iff {apply : String → String} {n : String} (fits : Storable n)
    (tidy : Identity.Tidy n) : acceptable apply (some n) = some n ↔ apply n = n := by
  rw [acceptable, sanitize_sound fits tidy, Option.bind_some, is_refused]
  by_cases same : apply n = n <;> simp [same]

/-- What passed the gate is nothing to the word list. -/
lemma acceptable_clean {apply : String → String} {s : Option String} {n : String}
    (h : acceptable apply s = some n) : apply n = n := by
  obtain ⟨m, -, hn⟩ := Option.bind_eq_some_iff.mp h
  split_ifs at hn with refused
  cases hn
  simpa [is_refused] using refused

end Names

namespace ChatFilter

section
variable {i : Nat}

/-- The ten entries that the letters of a fallback handle make. -/
def player_words : List Word :=
  [⟨"ass".toList, false, by decide⟩, ⟨"arse".toList, false, by decide⟩,
    ⟨"piss".toList, false, by decide⟩, ⟨"polla".toList, false, by decide⟩,
    ⟨"porra".toList, false, by decide⟩, ⟨"salope".toList, false, by decide⟩,
    ⟨"salopes".toList, false, by decide⟩, ⟨"troia".toList, false, by decide⟩,
    ⟨"ayre".toList, false, by decide⟩, ⟨"ryssa".toList, false, by decide⟩]

lemma builtin_player : words_among builtin.words "player-oiseat2689".toList = player_words := by
  have all := builtin_checked
  simp only [checked, Bool.and_eq_true, beq_iff_eq] at all
  exact builtin_among all.2

/-- The digits of a text, folded. -/
lemma fold_digit {c : Char} (h : c.isDigit) : fold c ∈ "oi2eas6t89".toList ∧ is_letter c = false ∧
    (fold c = 'a' → c = '4') ∧ (fold c = 's' → c = '5') := by
  have digits : ∀ n < 10, fold (Char.ofNat (48 + n)) ∈ "oi2eas6t89".toList ∧
      is_letter (Char.ofNat (48 + n)) = false ∧
      (fold (Char.ofNat (48 + n)) = 'a' → Char.ofNat (48 + n) = '4') ∧
      (fold (Char.ofNat (48 + n)) = 's' → Char.ofNat (48 + n) = '5') := by decide
  simp only [Char.isDigit, Bool.and_eq_true, decide_eq_true_eq] at h
  have low : 48 ≤ c.toNat := h.1
  have high : c.toNat ≤ 57 := h.2
  have one := digits (c.toNat - 48) (by omega)
  rwa [Nat.add_sub_cancel' low, Char.ofNat_toNat] at one

/-- The characters of a fallback handle. -/
def player (ds : List Char) : List Char := 'P' :: 'l' :: 'a' :: 'y' :: 'e' :: 'r' :: '-' :: ds

lemma player_known {ds : List Char} (digits : ∀ c ∈ ds, c.isDigit) :
    ∀ c ∈ (player ds).map fold, c ∈ "player-oiseat2689".toList := by
  have few : "oi2eas6t89".toList ⊆ "player-oiseat2689".toList := by decide
  intro c hc
  simp only [player, List.map_cons, List.mem_cons, List.mem_map] at hc
  rcases hc with rfl | rfl | rfl | rfl | rfl | rfl | rfl | ⟨d, hd, rfl⟩
  · decide
  · decide
  · decide
  · decide
  · decide
  · decide
  · decide
  · exact few (fold_digit (digits d hd)).1

/-- No entry matches where the digits have not begun. -/
lemma player_quiet {ds : List Char} {w : Word} (hw : w ∈ player_words) (early : i < 7) :
    match_at ((player ds).map fold) (player ds) i w = 0 := by
  simp only [player_words, List.mem_cons, List.not_mem_nil, or_false] at hw
  rcases hw with rfl | rfl | rfl | rfl | rfl | rfl | rfl | rfl | rfl | rfl <;> interval_cases i <;>
    rfl

lemma player_digit {ds : List Char} {k : Nat} (late : 7 ≤ k) : (player ds)[k]? = ds[k - 7]? := by
  obtain ⟨d, rfl⟩ := Nat.exists_eq_add_of_le late
  rw [Nat.add_sub_cancel_left, Nat.add_comm]
  rfl

lemma infix_iff {ds : List Char} : ['4', '5', '5'] <:+: ds ↔
    ∃ k : Nat, ds[k]? = some '4' ∧ ds[k + 1]? = some '5' ∧ ds[k + 2]? = some '5' := by
  constructor
  · rintro ⟨as, bs, rfl⟩
    refine ⟨as.length, ?_, ?_, ?_⟩ <;> simp
  · rintro ⟨k, four, five, five'⟩
    refine ⟨ds.take k, ds.drop (k + 3), ?_⟩
    have rest : ds.drop k = '4' :: '5' :: '5' :: ds.drop (k + 3) := by
      obtain ⟨h0, e0⟩ := List.getElem?_eq_some_iff.mp four
      obtain ⟨h1, e1⟩ := List.getElem?_eq_some_iff.mp five
      obtain ⟨h2, e2⟩ := List.getElem?_eq_some_iff.mp five'
      rw [List.drop_eq_getElem_cons h0, List.drop_eq_getElem_cons h1, List.drop_eq_getElem_cons h2,
        e0, e1, e2]
    conv_rhs => rw [← List.take_append_drop k ds, rest]
    simp

/-- Among the digits only `455` is matched. -/
lemma player_found {ds : List Char} (digits : ∀ c ∈ ds, c.isDigit) {w : Word} (hw : w ∈ player_words)
    (late : 7 ≤ i) (found : 0 < match_at ((player ds).map fold) (player ds) i w) :
    ['4', '5', '5'] <:+: ds := by
  obtain ⟨letters, -⟩ := (match_at_eq found).mp rfl
  have few : ∀ c ∈ w.cp, c ∈ "oi2eas6t89".toList := by
    intro c hc
    have mem := match_letters_mem letters c hc
    rw [← List.map_drop] at mem
    obtain ⟨d, hd, rfl⟩ := List.mem_map.mp mem
    have digit : d ∈ ds := by
      obtain ⟨e, rfl⟩ := Nat.exists_eq_add_of_le late
      rw [← List.drop_drop] at hd
      exact List.mem_of_mem_drop hd
    exact (fold_digit (digits d digit)).1
  have ass : w.cp = "ass".toList := by
    have only : ∀ w ∈ player_words, w.cp.all ("oi2eas6t89".toList.contains ·) →
        w.cp = "ass".toList := by decide
    exact only w hw (List.all_eq_true.mpr fun c hc => List.contains_iff_mem.mpr (few c hc))
  -- The letters of the entry: some `a`, then two `s`.
  rw [ass] at letters
  obtain ⟨a, b, ha, first, hb, letters⟩ := match_letters_cons.mp letters
  obtain rfl : a = i := ha
  obtain ⟨a', b', ha', second, hb', letters⟩ := match_letters_cons.mp letters
  obtain ⟨a'', -, ha'', third, -, -⟩ := match_letters_cons.mp letters
  have eb : skipWhile (· = 'a') ((player ds).map fold) (a + 1) = b := hb.symm
  have ea' : a' = b := ha'
  have ea'' : a'' = b + 1 := ha''.trans (hb'.trans (congrArg (· + 1) ea'))
  obtain ⟨lt, all, -⟩ := skipWhile_eq_iff.mp eb
  have before : ((player ds).map fold)[b - 1]? = some 'a' := by
    by_cases next : b = a + 1
    · rw [next]
      exact first
    · obtain ⟨c, hc, e⟩ := (Option.any_eq_true _ _).mp (all (b - 1) (by omega) (by omega))
      rw [hc, of_decide_eq_true e]
  have digit : ∀ {k c}, 7 ≤ k → ((player ds).map fold)[k]? = some c →
      ∃ d, ds[k - 7]? = some d ∧ d.isDigit ∧ fold d = c := by
    intro k c hk hc
    rw [List.getElem?_map, player_digit hk] at hc
    obtain ⟨d, hd, e⟩ := Option.map_eq_some_iff.mp hc
    exact ⟨d, hd, digits d (List.mem_of_getElem? hd), e⟩
  obtain ⟨d, hd, isd, e⟩ := digit (by omega) before
  obtain ⟨d', hd', isd', e'⟩ := digit (by omega) (ea' ▸ second)
  obtain ⟨d'', hd'', isd'', e''⟩ := digit (by omega) (ea'' ▸ third)
  have place : b - 8 = b - 1 - 7 ∧ b - 8 + 1 = b - 7 ∧ b - 8 + 2 = b + 1 - 7 := by omega
  refine infix_iff.mpr ⟨b - 8, ?_, ?_, ?_⟩
  · rw [place.1, hd, (fold_digit isd).2.2.1 e]
  · rw [place.2.1, hd', (fold_digit isd').2.2.2 e']
  · rw [place.2.2, hd'', (fold_digit isd'').2.2.2 e'']

/-- Where the digits have `455`, the entry is found: no digit is a letter before it is folded. -/
lemma player_hit {ds : List Char} (digits : ∀ c ∈ ds, c.isDigit) (h : ['4', '5', '5'] <:+: ds) :
    ∃ i, find_hit player_words (player ds) false i ≠ 0 := by
  obtain ⟨k, four, five, five'⟩ := infix_iff.mp h
  have folded : ∀ {j c}, ds[j]? = some c → ((player ds).map fold)[j + 7]? = some (fold c) := by
    intro j c hj
    rw [List.getElem?_map, player_digit (by omega), Nat.add_sub_cancel, hj]
    rfl
  have quiet : ∀ j, 6 ≤ j → ((player ds)[j]?).any is_letter = false := by
    intro j hj
    rcases hj.eq_or_lt with rfl | late
    · rfl
    · rw [player_digit late]
      cases hc : ds[j - 7]? with
      | none => rfl
      | some c => exact (fold_digit (digits c (List.mem_of_getElem? hc))).2.1
  have letters : ∃ p, match_letters ((player ds).map fold) false true "ass".toList (k + 7) = some p := by
    refine ⟨_, match_letters_cons.mpr ⟨k + 7, k + 8, rfl, folded four, ?_,
      match_letters_cons.mpr ⟨k + 8, k + 9, rfl, ?_, rfl,
      match_letters_cons.mpr ⟨k + 9, _, rfl, ?_, rfl, rfl⟩⟩⟩⟩
    · symm
      refine skipWhile_eq_iff.mpr ⟨le_rfl, fun j hj hj' => by omega, ?_⟩
      have here := folded five
      rw [show k + 1 + 7 = k + 7 + 1 from by omega] at here
      rw [here]
      decide
    · have here := folded five
      rwa [show k + 1 + 7 = k + 8 from by omega] at here
    · have here := folded five'
      rwa [show k + 2 + 7 = k + 9 from by omega] at here
  obtain ⟨p, hp⟩ := letters
  have lt := lt_match_letters (by decide) hp
  refine ⟨k + 7, ?_⟩
  have letter : letter_at (player ds) (k + 7) = true := by
    rw [letter_at, folded four]
    decide
  rw [find_hit_letter letter]
  have found : match_at ((player ds).map fold) (player ds) (k + 7)
      ⟨"ass".toList, false, by decide⟩ = p :=
    (match_at_eq (by omega)).mpr ⟨hp, .inr ⟨fun _ => quiet _ (by omega), quiet _ (by omega)⟩⟩
  have le : p ≤ best_end player_words ((player ds).map fold) (player ds) (k + 7) :=
    found ▸ best_end_le.mp le_rfl _ List.mem_cons_self
  intro none
  rw [show judged (player ds) (false, k + 7) = player ds from rfl] at none
  omega

/-- A fallback handle passes the word list if and only if its digits do not contain `455`. -/
lemma mask_player {ds : List Char} (digits : ∀ c ∈ ds, c.isDigit) :
    builtin.mask (String.ofList (player ds)) = String.ofList (player ds) ↔
      ¬ ['4', '5', '5'] <:+: ds := by
  have few : builtin.mask (String.ofList (player ds)) =
      (ChatFilter.mk player_words true).mask (String.ofList (player ds)) := by
    rw [← builtin_player]
    apply mask_among
    rw [String.toList_ofList]
    exact player_known digits
  have on : (ChatFilter.mk player_words true).enabled = true := rfl
  rw [few, mask_eq, if_pos on, String.toList_ofList, String.ofList_inj, stars_same_iff, no_hits_iff]
  constructor
  · intro silent h
    obtain ⟨i, some⟩ := player_hit digits h
    exact some (silent i)
  · intro free i
    by_contra some
    have letter : letter_at (player ds) i = true := by
      by_contra quiet
      exact some (find_hit_quiet (Bool.eq_false_iff.mpr quiet))
    rw [find_hit_letter letter] at some
    obtain ⟨w, hw, -, e⟩ := (best_end_spec _ _ _ _).1 (Nat.pos_of_ne_zero some)
    have found : 0 < match_at ((player ds).map fold) (player ds) i w := e ▸ Nat.pos_of_ne_zero some
    by_cases early : i < 7
    · rw [player_quiet hw early] at found
      cases found
    · exact free (player_found digits hw (not_lt.mp early) found)

end

end ChatFilter

namespace Identity

open Names

/-- The handle of a new account has nothing of the word list, unless both names are refused and the last
four digits of the snowflake contain `455`. -/
lemma default_handle_clean {p : DiscordProfile} (snowflake : Snowflake p.id) :
    ChatFilter.builtin.mask (default_handle_for ChatFilter.builtin.mask p) =
        default_handle_for ChatFilter.builtin.mask p ↔
      (acceptable ChatFilter.builtin.mask p.global_name).isSome ∨
        (acceptable ChatFilter.builtin.mask (some p.username)).isSome ∨
        ¬ ['4', '5', '5'] <:+: (p.id.toList.reverse.take 4).reverse := by
  rw [default_handle_for]
  cases hg : acceptable ChatFilter.builtin.mask p.global_name with
  | some n => simpa using acceptable_clean hg
  | none =>
    cases hu : acceptable ChatFilter.builtin.mask (some p.username) with
    | some n => simpa using acceptable_clean hu
    | none =>
      have digits : ∀ c ∈ (p.id.toList.reverse.take 4).reverse, c.isDigit := by
        intro c hc
        exact snowflake c (List.mem_reverse.mp (List.mem_of_mem_take (List.mem_reverse.mp hc)))
      have handle : "Player-" ++ String.ofList (p.id.toList.reverse.take 4).reverse =
          String.ofList (ChatFilter.player (p.id.toList.reverse.take 4).reverse) := by
        apply String.toList_injective
        rw [String.toList_append, String.toList_ofList, String.toList_ofList, String.toList_ofList]
        rfl
      dsimp only
      rw [handle, ChatFilter.mask_player digits]
      simp

/-- A snowflake has no white space. -/
lemma snowflake_blank {id : String} (h : Snowflake id) :
    ∀ c ∈ id.toList, Text.is_whitespace c = false := by
  intro c hc
  have digit := h c hc
  simp only [Char.isDigit, Bool.and_eq_true, decide_eq_true_eq] at digit
  have low : 48 ≤ c.toNat := digit.1
  have high : c.toNat ≤ 57 := digit.2
  simp only [Text.is_whitespace, Bool.or_eq_false_iff, Bool.and_eq_false_iff, decide_eq_false_iff_not,
    beq_eq_false_iff_ne]
  omega

/-- The handle of a new account passes the name gate exactly when one of the Discord names does, or the last
four digits of the snowflake do not contain `455`. -/
theorem default_handle_passes (p : DiscordProfile) (snowflake : Snowflake p.id) :
    acceptable ChatFilter.builtin.mask (some (default_handle_for ChatFilter.builtin.mask p)) =
        some (default_handle_for ChatFilter.builtin.mask p) ↔
      (acceptable ChatFilter.builtin.mask p.global_name).isSome ∨
        (acceptable ChatFilter.builtin.mask (some p.username)).isSome ∨
        ¬ ['4', '5', '5'] <:+: (p.id.toList.reverse.take 4).reverse := by
  rw [acceptable_iff (default_handle_storable snowflake)
    (default_handle_tidy (snowflake_blank snowflake))]
  exact default_handle_clean snowflake

/-- A profile without a usable name, and a snowflake that spells nothing. -/
theorem default_handle_passes_neutral : acceptable ChatFilter.builtin.mask
    (some (default_handle_for ChatFilter.builtin.mask ⟨"81384788765712384", "", none⟩)) =
      some (default_handle_for ChatFilter.builtin.mask ⟨"81384788765712384", "", none⟩) :=
  (default_handle_passes ⟨"81384788765712384", "", none⟩ (List.all_eq_true.mp (by decide))).mpr
    (.inr (.inr (by decide +kernel)))

/-- A snowflake that ends in `1455`, with a username that is refused. -/
theorem default_handle_refused : ¬ ∀ p : DiscordProfile, Snowflake p.id →
    acceptable ChatFilter.builtin.mask (some (default_handle_for ChatFilter.builtin.mask p)) =
      some (default_handle_for ChatFilter.builtin.mask p) := by
  intro all
  let p : DiscordProfile := ⟨"81384788765711455", "merde", none⟩
  have snowflake : Snowflake p.id := List.all_eq_true.mp (by decide)
  have name : acceptable ChatFilter.builtin.mask (some p.username) = none := by
    have clean : sanitize (some "merde") = some "merde" := by decide
    have starred : ChatFilter.builtin.mask "merde" = "*****" :=
      (ChatFilter.builtin_mask_merde (by decide)).trans (by decide)
    have refused : is_refused ChatFilter.builtin.mask "merde" = true := by
      rw [is_refused, starred]
      decide
    rw [acceptable, clean, Option.bind_some, if_pos refused]
  have passes := all p snowflake
  rw [acceptable_iff (default_handle_storable snowflake)
    (default_handle_tidy (snowflake_blank snowflake)), default_handle_clean snowflake, name] at passes
  have spelled : ['4', '5', '5'] <:+: (p.id.toList.reverse.take 4).reverse := by decide +kernel
  rcases passes with some | some | free
  · cases some
  · cases some
  · exact free spelled

end Identity

end RecompNet
