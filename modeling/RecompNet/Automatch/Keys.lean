import RecompNet.Automatch.Rulesets
import RecompNet.Hub.Endpoint

/-!
# Queue keys and the exemption gate

What a queue request asks for (`ws_lobby.rs`, `build_keys` and the exemption gate of
`handle_automatch_queue`): the match keys of its titles, and whether every ruleset it would enter approves
the cosmetic mods it declares.
-/

namespace RecompNet

/-- The key of one title, or the gate that refuses it. -/
def titleKey (rulesets : Rulesets) (t : InTitle) : Except Code MatchKey :=
  let game_name := Text.trim t.game_name
  if game_name = "" then .error .unknown_ruleset
  else
    match rulesets.resolve game_name (Text.trim t.ruleset_id) with
    | none => .error .unknown_ruleset
    | some rs =>
      let disc_fp := normalize_disc_fp (some t.disc_fp)
      if disc_fp = "" then .error .need_disc_fp
      else
        let game_version := normalize_game_version (some t.game_version)
        if rs.game_version ≠ "" ∧ rs.game_version ≠ game_version then .error .version_not_pooled
        else if t.max_slots.getD 2 ≠ 2 then .error .slots_not_pooled
        else .ok
          { game_name, game_version, disc_fp, ruleset_id := rs.id, max_slots := rs.max_slots }

/-- The loop over the titles: the keys found so far, without repetition, and the first refusal. -/
def collectKeys (rulesets : Rulesets) :
    List InTitle → List MatchKey → Option Code → List MatchKey × Option Code
  | [], keys, err => (keys, err)
  | t :: ts, keys, err =>
    match titleKey rulesets t with
    | .error code => collectKeys rulesets ts keys (some (err.getD code))
    | .ok key => collectKeys rulesets ts (if key ∈ keys then keys else keys ++ [key]) err

/-- Turn a request's titles into match keys, or say which gate refused. -/
def build_keys (rulesets : Rulesets) (titles : List InTitle) : Except Code (List MatchKey) :=
  match collectKeys rulesets titles [] none with
  | ([], err) => .error (err.getD .unknown_ruleset)
  | (keys, _) => .ok keys

/-- The exemption gate: the first title whose ruleset does not approve a declared exemption, with that
ruleset's id and the claim. A title that does not resolve here is passed over. -/
def exemptionRefusal (rulesets : Rulesets) (exempt : List String) :
    List InTitle → Option (String × String)
  | [] => none
  | t :: ts =>
    match rulesets.resolve t.game_name t.ruleset_id with
    | none => exemptionRefusal rulesets exempt ts
    | some rs =>
      match unapproved_exemption rs.match_caps exempt with
      | some bad => some (rs.id, bad)
      | none => exemptionRefusal rulesets exempt ts

/-- Why the two gates turn a request away. -/
inductive GateRefusal where
  | keys (code : Code)
  | exemption (ruleset_id mod : String)
  deriving DecidableEq

/-- The two gates of a queue request, in order. -/
def queueGates (rulesets : Rulesets) (titles : List InTitle) (exempt : List String) :
    Except GateRefusal (List MatchKey) :=
  match build_keys rulesets titles with
  | .error code => .error (.keys code)
  | .ok keys =>
    match exemptionRefusal rulesets exempt titles with
    | some (id, bad) => .error (.exemption id bad)
    | none => .ok keys

end RecompNet
