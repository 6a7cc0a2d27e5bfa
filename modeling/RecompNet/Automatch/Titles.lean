import RecompNet.Automatch.Keys
import RecompNet.Auth.NameSize

/-!
# Titles and match keys

What `build_keys` makes of a list of titles, for every set of rulesets: the keys of the titles that can be
pooled, each once and in the order of first appearance, or the refusal of the first title when there are
none. Nothing bounds their number.
-/

namespace RecompNet

/-- A disc fingerprint: 64 hexadecimal digits, once the blanks around them are gone. -/
structure HexFingerprint (fp : String) : Prop where
  digits : ∀ c ∈ (Text.trim fp).toList, Text.is_ascii_hexdigit c
  length : (Text.trim fp).toList.length = 64

/-- A title that can be pooled, under which key: it names a ruleset, carries a fingerprint, is the version
the ruleset pins, and asks for two seats. -/
structure Pooled (rulesets : Rulesets) (t : InTitle) (key : MatchKey) : Prop where
  named : Text.trim t.game_name ≠ ""
  ruleset : ∃ rs, rulesets.resolve (Text.trim t.game_name) (Text.trim t.ruleset_id) = some rs ∧
    key.ruleset_id = rs.id ∧ key.max_slots = rs.max_slots ∧
    (rs.game_version = "" ∨ rs.game_version = key.game_version)
  fingerprint : HexFingerprint t.disc_fp
  slots : t.max_slots.getD 2 = 2
  game_name : key.game_name = Text.trim t.game_name
  game_version : key.game_version = normalize_game_version (some t.game_version)
  disc_fp : key.disc_fp = Text.to_ascii_lowercase (Text.trim t.disc_fp)

/-! ## One title -/

lemma hexdigit_printable {c : Char} (h : Text.is_ascii_hexdigit c) : Text.printable c := by
  simp only [Text.is_ascii_hexdigit, Text.printable, Bool.and_eq_true, Bool.or_eq_true,
    decide_eq_true_eq] at h ⊢
  omega

/-- Lower case keeps the hexadecimal digits, and makes none. -/
lemma hexdigit_lower {c : Char} :
    Text.is_ascii_hexdigit (Text.ascii_lower c) = Text.is_ascii_hexdigit c := by
  unfold Text.ascii_lower
  split
  · rename_i upper
    simp only [Bool.and_eq_true, decide_eq_true_eq] at upper
    have small : (Char.ofNat (c.toNat + 32)).toNat = c.toNat + 32 := by
      have all : ∀ n, 65 ≤ n → n ≤ 90 → (Char.ofNat (n + 32)).toNat = n + 32 := by decide
      exact all _ upper.1 upper.2
    unfold Text.is_ascii_hexdigit
    rw [small, Bool.eq_iff_iff]
    simp only [Bool.or_eq_true, Bool.and_eq_true, decide_eq_true_eq]
    omega
  · rfl

/-- The test on the lower-case text is the one on the text. -/
lemma hexFingerprint_iff {fp : String} :
    HexFingerprint fp ↔ Text.byte_len (Text.to_ascii_lowercase (Text.trim fp)) = 64 ∧
      ∀ c ∈ (Text.to_ascii_lowercase (Text.trim fp)).toList, Text.is_ascii_hexdigit c := by
  have lower : (Text.to_ascii_lowercase (Text.trim fp)).toList =
      (Text.trim fp).toList.map Text.ascii_lower := String.toList_ofList
  have digits : (∀ c ∈ (Text.to_ascii_lowercase (Text.trim fp)).toList, Text.is_ascii_hexdigit c) ↔
      ∀ c ∈ (Text.trim fp).toList, Text.is_ascii_hexdigit c := by
    simp only [lower, List.forall_mem_map, hexdigit_lower]
  have size (h : ∀ c ∈ (Text.trim fp).toList, Text.is_ascii_hexdigit c) :
      Text.byte_len (Text.to_ascii_lowercase (Text.trim fp)) = (Text.trim fp).toList.length := by
    rw [Text.byte_len_eq, Text.bytes_printable fun c hc => hexdigit_printable (digits.mpr h c hc),
      lower, List.length_map]
  constructor
  · rintro ⟨hex, length⟩
    exact ⟨(size hex).trans length, digits.mpr hex⟩
  · rintro ⟨bytes, hex⟩
    have hex := digits.mp hex
    exact ⟨hex, (size hex).symm.trans bytes⟩

/-- A fingerprint is kept, in lower case. -/
lemma normalize_disc_fp_hex {fp : String} (h : HexFingerprint fp) :
    normalize_disc_fp (some fp) = Text.to_ascii_lowercase (Text.trim fp) ∧
      normalize_disc_fp (some fp) ≠ "" := by
  obtain ⟨bytes, hex⟩ := hexFingerprint_iff.mp h
  have full : Text.to_ascii_lowercase (Text.trim fp) ≠ "" := by
    intro e
    rw [e] at bytes
    exact absurd bytes (by decide)
  have kept : normalize_disc_fp (some fp) = Text.to_ascii_lowercase (Text.trim fp) := by
    unfold normalize_disc_fp
    dsimp only
    rw [if_neg full, if_neg]
    rintro (short | other)
    · exact short bytes
    · obtain ⟨c, hc, no⟩ := List.any_eq_true.mp other
      rw [hex c hc] at no
      cases no
  exact ⟨kept, kept ▸ full⟩

/-- Anything else is dropped. -/
lemma normalize_disc_fp_other {fp : String} (h : ¬ HexFingerprint fp) :
    normalize_disc_fp (some fp) = "" := by
  unfold normalize_disc_fp
  dsimp only
  split_ifs with blank bad
  · rfl
  · rfl
  · rw [not_or, not_not] at bad
    refine absurd (hexFingerprint_iff.mpr ⟨bad.1, fun c hc => ?_⟩) h
    by_contra no
    exact bad.2 (List.any_eq_true.mpr ⟨c, hc, by simpa using no⟩)

/-- A title gets a key iff it can be pooled under it. -/
theorem titleKey_ok_iff {rulesets : Rulesets} {t : InTitle} {key : MatchKey} :
    titleKey rulesets t = .ok key ↔ Pooled rulesets t key := by
  unfold titleKey
  dsimp only
  constructor
  · intro h
    split at h
    · cases h
    rename_i named
    split at h
    · cases h
    rename_i rs found
    split at h
    · cases h
    rename_i full
    have hex : HexFingerprint t.disc_fp := by
      by_contra no
      exact full (normalize_disc_fp_other no)
    split at h
    · cases h
    rename_i pin
    split at h
    · cases h
    rename_i two
    obtain rfl := Except.ok.inj h
    obtain ⟨kept, -⟩ := normalize_disc_fp_hex hex
    refine ⟨named, ⟨rs, found, rfl, rfl, ?_⟩, hex, not_not.mp two, rfl, rfl, ?_⟩
    · by_cases free : rs.game_version = ""
      · exact .inl free
      · exact .inr (not_not.mp fun ne => pin ⟨free, ne⟩)
    · dsimp only
      exact kept
  · rintro ⟨named, ⟨rs, found, id, seats, pin⟩, hex, two, game, version, fp⟩
    obtain ⟨kept, full⟩ := normalize_disc_fp_hex hex
    have free : ¬ (rs.game_version ≠ "" ∧
        rs.game_version ≠ normalize_game_version (some t.game_version)) := by
      rintro ⟨pinned, other⟩
      rcases pin with free | same
      · exact pinned free
      · exact other (same.trans version)
    simp only [found]
    rw [if_neg named, if_neg full, if_neg free, if_neg (not_not.mpr two)]
    refine congrArg Except.ok ?_
    obtain ⟨_, _, _, _, _⟩ := key
    dsimp only at game version fp id seats
    rw [game, version, fp, id, seats, kept]

/-! ## All titles -/

/-- The keys of the titles that can be pooled, in their order. -/
def pooledKeys (rulesets : Rulesets) (titles : List InTitle) : List MatchKey :=
  titles.filterMap fun t => (titleKey rulesets t).toOption

/-- The keys of a list of titles, each once, where it first appears. -/
def distinctKeys (rulesets : Rulesets) (titles : List InTitle) : List MatchKey :=
  (pooledKeys rulesets titles).eraseDups

lemma mem_pooledKeys {rulesets : Rulesets} {titles : List InTitle} {key : MatchKey} :
    key ∈ pooledKeys rulesets titles ↔ ∃ t ∈ titles, Pooled rulesets t key := by
  unfold pooledKeys
  rw [List.mem_filterMap]
  refine exists_congr fun t => and_congr_right fun _ => ?_
  rw [← titleKey_ok_iff]
  cases titleKey rulesets t <;> simp [Except.toOption]

/-- The loop appends the keys that are new. -/
lemma collectKeys_keys {rulesets : Rulesets} {titles : List InTitle} {keys : List MatchKey}
    {err : Option Code} : (collectKeys rulesets titles keys err).1 =
      keys ++ ((pooledKeys rulesets titles).filter (· ∉ keys)).eraseDups := by
  induction titles generalizing keys err with
  | nil => simp [collectKeys, pooledKeys]
  | cons t ts ih =>
    unfold collectKeys
    cases h : titleKey rulesets t with
    | error code =>
      have same : pooledKeys rulesets (t :: ts) = pooledKeys rulesets ts := by
        simp [pooledKeys, h, Except.toOption]
      rw [same]
      exact ih
    | ok key =>
      have grown : pooledKeys rulesets (t :: ts) = key :: pooledKeys rulesets ts := by
        simp [pooledKeys, h, Except.toOption]
      dsimp only
      rw [ih, grown]
      by_cases old : key ∈ keys
      · rw [if_pos old, List.filter_cons_of_neg (by simpa using old)]
      · rw [if_neg old, List.filter_cons_of_pos (by simpa using old), List.eraseDups_cons,
          List.append_assoc, List.filter_filter]
        have later : (pooledKeys rulesets ts).filter (· ∉ keys ++ [key]) =
            (pooledKeys rulesets ts).filter fun k => !k == key && decide (k ∉ keys) := by
          apply List.filter_congr
          intro k _
          rw [Bool.eq_iff_iff]
          simp only [List.mem_append, List.mem_singleton, not_or, decide_eq_true_eq,
            Bool.and_eq_true, Bool.not_eq_true', beq_eq_false_iff_ne]
          exact and_comm
        rw [later]
        rfl

/-- The first refusal among some titles. -/
def firstRefusal (rulesets : Rulesets) (titles : List InTitle) : Option Code :=
  titles.findSome? fun t =>
    match titleKey rulesets t with
    | .error code => some code
    | .ok _ => none

/-- The loop keeps the first refusal. -/
lemma collectKeys_err {rulesets : Rulesets} {titles : List InTitle} {keys : List MatchKey}
    {err : Option Code} :
    (collectKeys rulesets titles keys err).2 = err.or (firstRefusal rulesets titles) := by
  induction titles generalizing keys err with
  | nil => simp [collectKeys, firstRefusal]
  | cons t ts ih =>
    unfold collectKeys firstRefusal
    cases h : titleKey rulesets t with
    | error code =>
      rw [List.findSome?_cons, h, ih]
      cases err <;> rfl
    | ok key =>
      rw [List.findSome?_cons, h]
      exact ih

/-- The keys of a request are the distinct keys of its titles; without any, it is refused for the first
reason there is. -/
theorem build_keys_eq (rulesets : Rulesets) (titles : List InTitle) :
    build_keys rulesets titles =
      if distinctKeys rulesets titles = [] then
        .error ((firstRefusal rulesets titles).getD .unknown_ruleset)
      else .ok (distinctKeys rulesets titles) := by
  have keys : (collectKeys rulesets titles [] none).1 = distinctKeys rulesets titles := by
    rw [collectKeys_keys]
    simp [distinctKeys]
  have err : (collectKeys rulesets titles [] none).2 = firstRefusal rulesets titles :=
    collectKeys_err
  unfold build_keys
  rw [← keys, ← err]
  generalize collectKeys rulesets titles [] none = r
  obtain ⟨ks, e⟩ := r
  cases ks <;> rfl

lemma mem_distinctKeys {rulesets : Rulesets} {titles : List InTitle} {key : MatchKey} :
    key ∈ distinctKeys rulesets titles ↔ ∃ t ∈ titles, Pooled rulesets t key :=
  List.mem_eraseDups.trans mem_pooledKeys

/-- A request is refused iff none of its titles can be pooled. -/
lemma build_keys_error_iff {rulesets : Rulesets} {titles : List InTitle} :
    (∃ code, build_keys rulesets titles = .error code) ↔
      ∀ t ∈ titles, ∀ key, ¬ Pooled rulesets t key := by
  have empty : distinctKeys rulesets titles = [] ↔
      ∀ t ∈ titles, ∀ key, ¬ Pooled rulesets t key := by
    rw [List.eq_nil_iff_forall_not_mem]
    simp only [mem_distinctKeys, not_exists, not_and]
    exact ⟨fun h t ht key => h key t ht, fun h key t ht => h t ht key⟩
  rw [← empty, build_keys_eq]
  split
  · rename_i none
    exact iff_of_true ⟨_, rfl⟩ none
  · rename_i found
    refine iff_of_false ?_ found
    rintro ⟨code, h⟩
    cases h

end RecompNet
