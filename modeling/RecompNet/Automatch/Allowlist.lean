import RecompNet.Automatch.Rulesets

/-!
# The allowlist

What `unapproved_exemption` decides, said of a claim and an entry at a time: an entry approves a claim when
it names the same package and pins no other digest. The scan is then a search for the first claim that no
entry approves, so neither the order of the entries nor that of the claims decides whether there is one.
-/

open scoped List

namespace RecompNet

/-- The package that an entry or a claim names. -/
def packageName (s : String) : String :=
  Text.trim (String.ofList (s.toList.takeWhile (· ≠ '#')))

/-- The digest behind the first `#`, blank when there is none. -/
def packageDigest (s : String) : String :=
  Text.trim (String.ofList ((s.toList.dropWhile (· ≠ '#')).drop 1))

/-- An entry approves a claim: it is the same package, and any digest of it or this one. -/
structure Approves (entry claim : String) : Prop where
  name : Text.eq_ignore_ascii_case (packageName entry) (packageName claim)
  digest : packageDigest entry = "" ∨
    packageDigest claim ≠ "" ∧
      Text.eq_ignore_ascii_case (packageDigest entry) (packageDigest claim)

instance (entry claim : String) : Decidable (Approves entry claim) :=
  decidable_of_iff
    (Text.eq_ignore_ascii_case (packageName entry) (packageName claim) ∧
      (packageDigest entry = "" ∨ packageDigest claim ≠ "" ∧
        Text.eq_ignore_ascii_case (packageDigest entry) (packageDigest claim)))
    ⟨fun h => ⟨h.1, h.2⟩, fun h => ⟨h.name, h.digest⟩⟩

/-- The entries of an allowlist, trimmed, without the blank ones. -/
def allowEntries (allow : String) : List String :=
  ((Text.split allow ';').map Text.trim).filter (· ≠ "")

/-- The claims that are not blank, trimmed. -/
def namedClaims (claims : List String) : List String := (claims.map Text.trim).filter (· ≠ "")

/-- Some entry of the allowlist of these caps approves the claim. -/
def Approved (caps : Value) (claim : String) : Prop :=
  ∃ entry ∈ allowEntries (cosmeticAllow caps), Approves entry claim

instance (caps : Value) (claim : String) : Decidable (Approved caps claim) := by
  unfold Approved
  infer_instance

/-- A trimmed text cut at the `#` is its package and its digest. -/
lemma nameAndDigest_trim (s : String) :
    nameAndDigest (Text.trim s) = (packageName (Text.trim s), packageDigest (Text.trim s)) := by
  generalize ht : Text.trim s = t
  have trimmed : Text.trim t = t := ht ▸ Text.trim_trim s
  unfold nameAndDigest Text.split_once packageName packageDigest
  by_cases cut : '#' ∈ t.toList
  · rw [if_pos cut]
  · rw [if_neg cut]
    have all : ∀ c ∈ t.toList, (decide (c ≠ '#')) = true := by
      intro c hc
      exact decide_eq_true fun e => cut (e ▸ hc)
    rw [List.takeWhile_eq_self_iff.mpr all, List.dropWhile_eq_nil_iff.mpr all, String.ofList_toList,
      trimmed]
    rfl

/-- The test of one entry. -/
lemma entryApproves_iff {entry claim : String} :
    entryApproves (packageName claim) (packageDigest claim) entry ↔
      Text.trim entry ≠ "" ∧ Approves (Text.trim entry) claim := by
  unfold entryApproves
  dsimp only
  rw [nameAndDigest_trim]
  by_cases blank : Text.trim entry = ""
  · simp [blank]
  · by_cases name : Text.eq_ignore_ascii_case (packageName (Text.trim entry)) (packageName claim)
    · by_cases free : packageDigest (Text.trim entry) = ""
      · simp only [blank, name, free, if_true, if_false, Bool.not_true, Bool.false_eq_true, ne_eq,
          not_false_eq_true, true_and, true_iff]
        exact ⟨name, .inl free⟩
      · simp only [blank, name, free, if_false, Bool.not_true, Bool.false_eq_true, ne_eq,
          not_false_eq_true, true_and, Bool.and_eq_true, decide_eq_true_eq]
        constructor
        · exact fun pinned => ⟨name, .inr pinned⟩
        · exact fun h => h.digest.resolve_left free
    · simp only [blank, name, if_false, Bool.not_false, if_true, Bool.false_eq_true, ne_eq,
        not_false_eq_true, true_and, false_iff]
      exact fun h => name h.name

/-- The inner loop looks for an entry that approves the claim. -/
lemma allows_iff {caps : Value} {claim : String} :
    allows (cosmeticAllow caps) (Text.trim claim) ↔ Approved caps (Text.trim claim) := by
  unfold allows
  dsimp only
  rw [nameAndDigest_trim, List.any_eq_true]
  constructor
  · rintro ⟨entry, here, test⟩
    obtain ⟨named, approves⟩ := entryApproves_iff.mp test
    refine ⟨Text.trim entry, ?_, approves⟩
    exact List.mem_filter.mpr ⟨List.mem_map_of_mem here, decide_eq_true named⟩
  · rintro ⟨entry, here, approves⟩
    obtain ⟨here, named⟩ := List.mem_filter.mp here
    obtain ⟨piece, inside, rfl⟩ := List.mem_map.mp here
    exact ⟨piece, inside, entryApproves_iff.mpr ⟨of_decide_eq_true named, approves⟩⟩

/-- The scan returns the first claim that no entry approves. -/
lemma unapproved_exemption_eq_find (caps : Value) (claims : List String) :
    unapproved_exemption caps claims =
      (namedClaims claims).find? fun claim => ¬ Approved caps claim := by
  have scan : ∀ claims, firstUnapproved (cosmeticAllow caps) claims =
      (namedClaims claims).find? fun claim => ¬ Approved caps claim := by
    intro claims
    induction claims with
    | nil => rfl
    | cons claim claims ih =>
      unfold firstUnapproved
      dsimp only
      by_cases blank : Text.trim claim = ""
      · rw [if_pos blank, ih]
        simp only [namedClaims, List.map_cons, blank]
        rfl
      · have named : namedClaims (claim :: claims) = Text.trim claim :: namedClaims claims := by
          unfold namedClaims
          rw [List.map_cons, List.filter_cons_of_pos (by simpa using blank)]
        rw [if_neg blank, named, List.find?_cons]
        by_cases ok : Approved caps (Text.trim claim)
        · rw [if_pos (allows_iff.mpr ok), ih]
          simp [ok]
        · rw [if_neg (fun h => ok (allows_iff.mp h))]
          simp [ok]
  unfold unapproved_exemption
  cases claims with
  | nil => rfl
  | cons claim claims => exact scan (claim :: claims)

/-- The scan finds nothing iff every claim is approved. -/
lemma unapproved_none_iff {caps : Value} {claims : List String} :
    unapproved_exemption caps claims = none ↔ ∀ claim ∈ namedClaims claims, Approved caps claim := by
  rw [unapproved_exemption_eq_find, List.find?_eq_none]
  simp

/-- **The verdict on a ticket's exemptions.** It is the first claim that no entry approves; whether there
is one depends on which entries and claims there are and not on their order, more claims never undo a
refusal, and without an allowlist every claim is refused. -/
theorem exemption_verdict (caps : Value) (claims : List String) :
    unapproved_exemption caps claims =
      ((namedClaims claims).find? fun claim => ¬ Approved caps claim) ∧
    (unapproved_exemption caps claims = none ↔
      ∀ claim ∈ namedClaims claims,
        ∃ entry ∈ allowEntries (cosmeticAllow caps), Approves entry claim) ∧
    (∀ caps' claims', allowEntries (cosmeticAllow caps) ~ allowEntries (cosmeticAllow caps') →
      claims ~ claims' →
      (unapproved_exemption caps claims = none ↔ unapproved_exemption caps' claims' = none)) ∧
    (∀ more, claims ⊆ more → unapproved_exemption caps claims ≠ none →
      unapproved_exemption caps more ≠ none) ∧
    ((caps.get "mod_cosmetic_allow").bind Value.as_str = none → namedClaims claims ≠ [] →
      unapproved_exemption caps claims ≠ none) := by
  refine ⟨unapproved_exemption_eq_find caps claims, unapproved_none_iff, ?_, ?_, ?_⟩
  · intro caps' claims' entries shuffled
    rw [unapproved_none_iff, unapproved_none_iff]
    have same_claims : ∀ claim, claim ∈ namedClaims claims ↔ claim ∈ namedClaims claims' :=
      fun claim => ((shuffled.map _).filter _).mem_iff
    have same_verdict : ∀ claim, Approved caps claim ↔ Approved caps' claim := by
      intro claim
      unfold Approved
      simp only [entries.mem_iff]
    simp only [same_claims, same_verdict]
  · intro more sub refused all
    apply refused
    rw [unapproved_none_iff] at all ⊢
    intro claim hc
    obtain ⟨hc, named⟩ := List.mem_filter.mp hc
    exact all claim (List.mem_filter.mpr ⟨List.map_subset _ sub hc, named⟩)
  · intro absent named all
    obtain ⟨claim, hc⟩ := List.exists_mem_of_ne_nil _ named
    obtain ⟨entry, he, -⟩ := unapproved_none_iff.mp all claim hc
    have none : allowEntries (cosmeticAllow caps) = [] := by
      unfold cosmeticAllow
      rw [absent]
      decide
    rw [none] at he
    cases he

end RecompNet
