import RecompNet.Lib.Assoc
import RecompNet.Json
import Mathlib.Data.Rat.Defs

/-!
# Automatch rulesets

The queue types of a deployment (`automatch.rs`): `Rulesets.load` builds the table from the entries of
the ruleset file and refuses those that `validate` refuses, `Rulesets.resolve` finds the ruleset a queue
request names, and `unapproved_exemption` decides whether a ruleset approves the cosmetic mods a ticket
relies on. The frame time, a float in the source, is an exact rational.
-/

namespace RecompNet

/-- The serialized ceiling on a caps blob. -/
def MAX_CAPS_BYTES : Nat := 4096

/-- One frame in milliseconds at 60 Hz. -/
def DEFAULT_FRAME_MS : ℚ := 1000 / 60

/-- One entry of the ruleset file. -/
structure RulesetEntry where
  id : String
  label : String := ""
  game_name : String
  game_version : String := ""
  max_slots : Nat := 2
  match_caps : Value := .null
  frame_ms : Option ℚ := none

/-- One queue type. The table holds none whose seat count is not two (`validate`). -/
structure Ruleset where
  id : String
  label : String
  game_name : String
  game_version : String
  max_slots : Nat
  match_caps : Value
  caps_summary : String
  frame_ms : ℚ
  max_slots_two : max_slots = 2

/-- The load-time refusals, with the reason that is logged. -/
def validate (e : RulesetEntry) (seen : List (String × String)) : Except String Unit :=
  if Text.trim e.id = "" then .error "empty id"
  else if Text.trim e.game_name = "" then .error "empty game_name"
  else if seen.any fun (g, i) => g = e.game_name && i = e.id then
    .error "duplicate (game_name, id)"
  else if e.max_slots ≠ 2 then .error "max_slots must be 2 in v1"
  else if !e.match_caps.is_null && !e.match_caps.is_object then
    .error "match_caps must be a table"
  else if (e.match_caps.get "mods").isSome then
    .error "match_caps.mods is not supported in v1 (vanilla only)"
  else if Text.byte_len e.match_caps.to_string > MAX_CAPS_BYTES then
    .error "match_caps too large"
  else .ok ()

/-- An entry that is not refused asks for two seats. -/
lemma validate_two {e seen} (h : validate e seen = .ok ()) : e.max_slots = 2 := by
  by_contra other
  simp only [validate, if_pos other] at h
  split_ifs at h

/-- An entry that is not refused has an id and a title of its own, and is the first of that name. -/
lemma validate_named {e seen} (h : validate e seen = .ok ()) :
    Text.trim e.id ≠ "" ∧ Text.trim e.game_name ≠ "" ∧ (e.game_name, e.id) ∉ seen := by
  unfold validate at h
  split at h
  · cases h
  rename_i id
  split at h
  · cases h
  rename_i game
  split at h
  · cases h
  rename_i fresh
  refine ⟨id, game, fun old => fresh (List.any_eq_true.mpr ⟨_, old, ?_⟩)⟩
  simp

/-- The one-line summary shown in the launcher's picker. -/
def summarize (caps : Value) : String :=
  let delay := match (caps.get "input_delay").bind Value.as_i64 with
    | some d => "Delay " ++ toString d ++ "+"
    | none => "Delay auto"
  let rollback := match (caps.get "rollback").bind Value.as_bool with
    | some true => ["Rollback on"]
    | some false => ["Rollback off"]
    | none => []
  let turbo := if (caps.get "turbo_loads").bind Value.as_bool = some true then ["Turbo loads"] else []
  " - ".intercalate (delay :: rollback ++ turbo)

/-- Every ruleset of a deployment, by title. -/
structure Rulesets where
  by_game : Assoc.Map String (List Ruleset)

namespace Rulesets

/-- No title has a queue type. -/
def is_empty (rs : Rulesets) : Bool := rs.by_game.entries.isEmpty

/-- The queue types of one title, in file order. -/
def for_game (rs : Rulesets) (game_name : String) : List Ruleset :=
  (rs.by_game.lookup game_name).getD []

/-- Resolve a queue request; an empty id means the first one. -/
def resolve (rs : Rulesets) (game_name id : String) : Option Ruleset :=
  let list := rs.for_game game_name
  if id = "" then list.head?
  else list.find? (·.id = id)

/-- The ruleset an accepted entry becomes. -/
def ofEntry (e : RulesetEntry) (h : e.max_slots = 2) : Ruleset where
  id := e.id
  label := if e.label = "" then e.id else e.label
  game_name := e.game_name
  game_version := e.game_version
  max_slots := e.max_slots
  match_caps := e.match_caps
  caps_summary := summarize e.match_caps
  frame_ms := (e.frame_ms.filter (0 < ·)).getD DEFAULT_FRAME_MS
  max_slots_two := h

/-- One entry of the file: skipped when refused, else put behind the others of its title. -/
def addEntry (acc : Rulesets × List (String × String)) (e : RulesetEntry) :
    Rulesets × List (String × String) :=
  match h : validate e acc.2 with
  | .error _ => acc
  | .ok () =>
    let r := ofEntry e (validate_two h)
    (⟨acc.1.by_game.insert e.game_name (acc.1.for_game e.game_name ++ [r])⟩,
      acc.2 ++ [(e.game_name, e.id)])

/-- The table of a parsed ruleset file. -/
def load (entries : List RulesetEntry) : Rulesets := (entries.foldl addEntry (⟨∅⟩, [])).1

/-- What the loader has made of the entries so far: it filed each ruleset under its own title, none of them
without a name, and noted their names, of which no two are the same. -/
structure Filed (acc : Rulesets × List (String × String)) : Prop where
  own : ∀ g, ∀ r ∈ acc.1.for_game g, r.game_name = g ∧ Text.trim r.id ≠ "" ∧ Text.trim g ≠ ""
  noted : ∀ g, ∀ r ∈ acc.1.for_game g, (g, r.id) ∈ acc.2
  apart : ∀ g, ((acc.1.for_game g).map (·.id)).Nodup

lemma Filed.addEntry {acc : Rulesets × List (String × String)} (h : Filed acc) (e : RulesetEntry) :
    Filed (addEntry acc e) := by
  unfold Rulesets.addEntry
  split
  · exact h
  rename_i ok
  obtain ⟨id, game, fresh⟩ := validate_named ok
  set r := ofEntry e (validate_two ok) with hr
  have other : ∀ g, g ≠ e.game_name → for_game ⟨acc.1.by_game.insert e.game_name
      (acc.1.for_game e.game_name ++ [r])⟩ g = acc.1.for_game g := by
    intro g ne
    unfold for_game
    rw [AList.lookup_insert_ne ne]
  have own : for_game ⟨acc.1.by_game.insert e.game_name (acc.1.for_game e.game_name ++ [r])⟩
      e.game_name = acc.1.for_game e.game_name ++ [r] := by
    rw [for_game, AList.lookup_insert]
    rfl
  constructor
  · intro g x hx
    by_cases same : g = e.game_name
    · subst same
      rcases List.mem_append.mp (own ▸ hx) with old | new
      · exact h.own _ x old
      · rw [List.mem_singleton.mp new]
        exact ⟨rfl, id, game⟩
    · exact h.own g x (other g same ▸ hx)
  · intro g x hx
    by_cases same : g = e.game_name
    · subst same
      rcases List.mem_append.mp (own ▸ hx) with old | new
      · exact List.mem_append_left _ (h.noted _ x old)
      · rw [List.mem_singleton.mp new]
        exact List.mem_append_right _ (List.mem_singleton_self _)
    · exact List.mem_append_left _ (h.noted g x (other g same ▸ hx))
  · intro g
    by_cases same : g = e.game_name
    · subst same
      rw [own, List.map_append]
      refine List.Nodup.append (h.apart _) (List.nodup_singleton _) ?_
      intro i old new
      obtain ⟨x, hx, rfl⟩ := List.mem_map.mp old
      have twice : x.id = e.id := List.mem_singleton.mp new
      exact fresh (twice ▸ h.noted _ x hx)
    · rw [other g same]
      exact h.apart g

/-- The table of a file is filed. -/
theorem load_filed (entries : List RulesetEntry) : Filed (entries.foldl addEntry (⟨∅⟩, [])) := by
  have fold : ∀ (entries : List RulesetEntry) acc, Filed acc → Filed (entries.foldl addEntry acc) := by
    intro entries
    induction entries with
    | nil => exact fun acc h => h
    | cons e es ih => exact fun acc h => ih _ (h.addEntry e)
  apply fold
  constructor
  · intro g r hr
    cases hr
  · intro g r hr
    cases hr
  · exact fun g => List.nodup_nil

/-- A ruleset is found under its own title and id. -/
lemma resolve_own {entries : List RulesetEntry} {g : String} {r : Ruleset}
    (h : r ∈ (load entries).for_game g) : (load entries).resolve r.game_name r.id = some r := by
  have filed := load_filed entries
  obtain ⟨rfl, id, -⟩ := filed.own g r h
  have named : r.id ≠ "" := by
    intro e
    rw [e] at id
    exact id (by decide)
  unfold resolve
  rw [if_neg named]
  cases found : ((load entries).for_game r.game_name).find? (·.id = r.id) with
  | none => simpa using List.find?_eq_none.mp found r h
  | some x =>
    have id : x.id = r.id := by simpa using List.find?_some found
    exact congrArg some (List.inj_on_of_nodup_map (filed.apart _) (List.mem_of_find?_eq_some found) h id)

/-- What a request resolves to is also what its own id names. -/
lemma resolve_id {rs : Rulesets} {g i : String} {r : Ruleset} (h : rs.resolve g i = some r) :
    rs.resolve g r.id = some r := by
  unfold resolve at h ⊢
  by_cases hi : i = ""
  · simp only [hi, if_true] at h
    by_cases hr : r.id = ""
    · simpa [hr] using h
    · cases hl : rs.for_game g with
      | nil => simp [hl] at h
      | cons r' l =>
        simp only [hl, List.head?_cons, Option.some.injEq] at h
        subst h
        simp [hr]
  · simp only [hi, if_false] at h
    have hid : r.id = i := by simpa using List.find?_some h
    simp only [hid, hi, if_false]
    exact h

end Rulesets

/-! ## Cosmetic exemptions -/

/-- `id@version#digest` cut at the `#`; without one the digest is blank. -/
def nameAndDigest (s : String) : String × String :=
  match Text.split_once s '#' with
  | some (n, d) => (Text.trim n, Text.trim d)
  | none => (s, "")

/-- Does one entry of an allowlist approve a claim? -/
def entryApproves (claim_name claim_digest entry : String) : Bool :=
  let entry := Text.trim entry
  if entry = "" then false
  else
    let (entry_name, entry_digest) := nameAndDigest entry
    if !Text.eq_ignore_ascii_case entry_name claim_name then false
    -- Named, not pinned.
    else if entry_digest = "" then true
    else claim_digest ≠ "" && Text.eq_ignore_ascii_case entry_digest claim_digest

/-- Does an allowlist hold an entry that approves the trimmed claim? -/
def allows (allow claim : String) : Bool :=
  let (claim_name, claim_digest) := nameAndDigest claim
  (Text.split allow ';').any (entryApproves claim_name claim_digest)

/-- The scan over the claims. -/
def firstUnapproved (allow : String) : List String → Option String
  | [] => none
  | claim :: claims =>
    let claim := Text.trim claim
    if claim = "" then firstUnapproved allow claims
    else if allows allow claim then firstUnapproved allow claims
    else some claim

/-- The allowlist of a caps blob. -/
def cosmeticAllow (caps : Value) : String :=
  ((caps.get "mod_cosmetic_allow").bind Value.as_str).getD ""

/-- The first claim that the ruleset with these caps does not approve. -/
def unapproved_exemption (caps : Value) (claims : List String) : Option String :=
  if claims.isEmpty then none
  else firstUnapproved (cosmeticAllow caps) claims

/-- All claims are approved iff each one is blank or allowed. -/
lemma firstUnapproved_eq_none {allow : String} {claims : List String} :
    firstUnapproved allow claims = none ↔
      ∀ c ∈ claims, Text.trim c ≠ "" → allows allow (Text.trim c) := by
  induction claims with
  | nil => simp [firstUnapproved]
  | cons c cs ih =>
    unfold firstUnapproved
    by_cases hb : Text.trim c = ""
    · simp [hb, ih]
    · by_cases ha : allows allow (Text.trim c)
      · simp [hb, ha, ih]
      · simp [hb, ha]

/-- A list of claims is approved iff each of its claims is, on its own. -/
lemma unapproved_exemption_eq_none {caps : Value} {claims : List String} :
    unapproved_exemption caps claims = none ↔
      ∀ c ∈ claims, Text.trim c ≠ "" → unapproved_exemption caps [c] = none := by
  cases claims with
  | nil => simp [unapproved_exemption]
  | cons c cs =>
    simp only [unapproved_exemption, List.isEmpty_cons, Bool.false_eq_true, if_false,
      firstUnapproved_eq_none, List.mem_singleton, forall_eq]
    exact ⟨fun h d hd hb _ => h d hd hb, fun h d hd hb => h d hd hb hb⟩

end RecompNet
