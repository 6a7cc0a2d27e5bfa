import RecompNet.Automatch.Titles
import RecompNet.Hub.Exemption
import RecompNet.Hub.Tickets

/-!
# Titles over the wire

How the strings of a client reach the rulesets: `automatch_queue` hands its titles to `build_keys`, which
decides how many keys a ticket has, and `automatch_rulesets` is answered for a name that the message gate
has cleaned. Each path cleans a name in its own way and the loader cleans none, so a ruleset is reached by
its own name only where cleaning leaves that name alone.
-/

namespace RecompNet

open Section Interleave

/-! ## How many keys a ticket has -/

/-- The most titles a queue request may name, as the protocol has it. -/
def MAX_TITLES : Nat := 8

/-- A ticket is asked for with titles that have no more distinct keys than a request may name titles. -/
def RequestFits (srv : Server) : HubLabel → Prop
  | .ran _ (queue_ticket req _ _) _ _ =>
    (distinctKeys srv.automatch_rulesets req.titles).length ≤ MAX_TITLES
  | _ => True

/-- A ticket is asked for with the keys of its titles. -/
lemma asked_keys {srv c tr} (r : HubRun srv c tr) {t req keys blocks o pre}
    (h : .ran t (queue_ticket req keys blocks) o pre ∈ tr) :
    build_keys srv.automatch_rulesets req.titles = .ok keys := by
  obtain ⟨rest, earlier, r', -, e⟩ := r.ran_pending h
  have gated := r'.passed_on (A := Section.gated srv)
    (fun h s' hs => (exec_emits s' hs).gated h) body_gated
  exact (queueGates_ok (gated t (queue_ticket req keys blocks) (e ▸ List.mem_cons_self))).1

lemma build_keys_ok_iff {rulesets : Rulesets} {titles : List InTitle} {keys : List MatchKey} :
    build_keys rulesets titles = .ok keys ↔ keys = distinctKeys rulesets titles ∧ keys ≠ [] := by
  rw [build_keys_eq]
  split
  · rename_i none
    refine iff_of_false nofun ?_
    rintro ⟨rfl, found⟩
    exact found none
  · rename_i found
    constructor
    · intro h
      obtain rfl := Except.ok.inj h
      exact ⟨rfl, found⟩
    · rintro ⟨rfl, -⟩
      rfl

lemma ticketOf_keys {srv : Server} {w : World} {req : QueueRequest} {keys : List MatchKey}
    {blocks : List String} {x : Ticket} (h : ticketOf srv w req keys blocks = some x) :
    x.keys = keys := by
  obtain ⟨_, -, rfl⟩ := Option.map_eq_some_iff.mp h
  rfl

/-- **The keys of a ticket.** A request has the distinct keys of the titles that can be pooled, in the order
of first appearance, and is refused iff there are none. A pushed ticket has more keys than a request may
name titles iff its request has more distinct ones, and in a run whose requests all fit no ticket does. -/
theorem queued_keys (srv : Server) :
    (∀ rulesets titles,
      (∀ t key, titleKey rulesets t = .ok key ↔ Pooled rulesets t key) ∧
      (∀ keys, build_keys rulesets titles = .ok keys ↔
        keys = (titles.filterMap fun t => (titleKey rulesets t).toOption).eraseDups ∧ keys ≠ []) ∧
      ((∃ code, build_keys rulesets titles = .error code) ↔
        ∀ t ∈ titles, ∀ key, ¬ Pooled rulesets t key)) ∧
    ∀ c tr, HubRun srv c tr →
      (∀ t req ticket o pre, .ran t (queue_push req ticket) o pre ∈ tr →
        (ticket.keys.length ≤ MAX_TITLES ↔
          (distinctKeys srv.automatch_rulesets req.titles).length ≤ MAX_TITLES)) ∧
      ((∀ l ∈ tr, RequestFits srv l) → TicketsKeep (·.keys.length ≤ MAX_TITLES) c) := by
  refine ⟨fun rulesets titles => ⟨fun t key => titleKey_ok_iff, fun keys => build_keys_ok_iff,
    build_keys_error_iff⟩, fun c tr r => ⟨?_, ?_⟩⟩
  · intro t req ticket o pre h
    have keys := (queueGates_ok (pushed_gates r h)).1
    rw [(build_keys_ok_iff.mp keys).1]
  · intro fits
    apply r.asked_tickets_keep
    · intro t req keys blocks o pre x h made
      have fit : (distinctKeys srv.automatch_rulesets req.titles).length ≤ MAX_TITLES := fits _ h
      rw [ticketOf_keys made, (build_keys_ok_iff.mp (asked_keys r h)).1]
      exact fit
    · exact fun x now hx => hx
    · exact fun x rtt hx => hx

/-- Queue for nine releases of a title. -/
def nineTitles : List Move :=
  let p := "6b0f1e52-3c1d-4a86-9a53-0d5f6f1c2a11"
  let o := draw "1f8a9f0e-7d2b-4b57-8f6f-2f6f2b0c9d01"
  let titles := queueUp.titles.map fun ts =>
    ["0", "1", "2", "3", "4", "5", "6", "7", "8"].flatMap fun n =>
      ts.map fun t => { t with game_version := n }
  signIn p alice o ++ [say p { queueUp with titles }] ++ steps (.conn p) 8 o

/-- The title of that request, in one of its releases. -/
def releaseOf (n : String) : InTitle where
  game_name := "Example Game"
  game_version := n
  disc_fp := "0123456789abcdef0123456789abcdef0123456789abcdef0123456789abcdef"

/-- The key of a release. -/
def releaseKey (n : String) : MatchKey where
  game_name := "Example Game"
  game_version := normalize_game_version (some n)
  disc_fp := (releaseOf n).disc_fp
  ruleset_id := "ranked"
  max_slots := 2

lemma releaseOf_game : Text.trim "Example Game" = "Example Game" := by decide +kernel

lemma releaseOf_disc :
    normalize_disc_fp (some "0123456789abcdef0123456789abcdef0123456789abcdef0123456789abcdef") =
      "0123456789abcdef0123456789abcdef0123456789abcdef0123456789abcdef" := by decide +kernel

lemma releaseOf_ruleset : ∃ rs,
    sampleServer.automatch_rulesets.resolve "Example Game" (Text.trim "") = some rs ∧
      rs.id = "ranked" ∧ rs.game_version = "" ∧ rs.max_slots = 2 := by
  have found : (sampleServer.automatch_rulesets.resolve "Example Game" (Text.trim "")).any
      fun rs => rs.id = "ranked" && rs.game_version = "" && rs.max_slots = 2 := by decide +kernel
  obtain ⟨rs, h, fields⟩ := (Option.any_eq_true _ _).mp found
  exact ⟨rs, h, by simpa [and_assoc] using fields⟩

lemma releaseOf_key (n : String) :
    titleKey sampleServer.automatch_rulesets (releaseOf n) = .ok (releaseKey n) := by
  obtain ⟨rs, found, id, version, slots⟩ := releaseOf_ruleset
  simp [titleKey, releaseOf, releaseOf_game, found, releaseOf_disc, version, id, slots, releaseKey]

/-- A request for some releases has the distinct keys among theirs. -/
lemma releases_gates {ns : List String} (named : ns ≠ []) :
    queueGates sampleServer.automatch_rulesets (ns.map releaseOf) [] =
      .ok (ns.map releaseKey).eraseDups := by
  have keys : distinctKeys sampleServer.automatch_rulesets (ns.map releaseOf) =
      (ns.map releaseKey).eraseDups := by
    simp [distinctKeys, pooledKeys, List.filterMap_map, releaseOf_key, Except.toOption]
  have exempt :
      exemptionRefusal sampleServer.automatch_rulesets [] (ns.map releaseOf) = none := by
    rw [exemptionRefusal_eq_none]
    exact fun _ _ _ _ => rfl
  have found : (ns.map releaseKey).eraseDups ≠ [] := by
    obtain ⟨n, ns, rfl⟩ := List.exists_cons_of_ne_nil named
    simp [List.eraseDups_cons]
  have built := build_keys_ok_iff.mpr ⟨keys.symm, found⟩
  simp only [queueGates, built, exempt]

/-- A request that waits for its account and passes every gate goes into the queue with its keys. -/
lemma HubRun.pushes {srv : Server} {c : HubSnapshot} {tr : List HubLabel} {t : Tid}
    {req : QueueRequest} {keys : List MatchKey} {rest : List Section} {o : Answer}
    (r : HubRun srv c tr) (e : c.pending t = queue_account req :: rest) (ho : o.possible c.world)
    (free : c.world.automatch.is_queued_account req.account_id = false)
    (plain : req.msg.mods_enabled.getD false = false) (named : req.msg.titles.getD [] ≠ [])
    (gates : queueGates srv.automatch_rulesets (req.msg.titles.getD [])
      (req.msg.mod_exempt.getD []) = .ok keys)
    (cool : cooldownNow srv o c.world req.account_id = 0)
    (space : c.world.automatch.waiting < srv.automatch_queue_max)
    (unhosted : Text.nonempty (req.msg.host_endpoint.map Text.trim) = none) :
    ∃ c' tr' req' ticket pre, HubRun srv c' tr' ∧ .ran t (queue_push req' ticket) o pre ∈ tr' ∧
      ticket.keys = keys := by
  let asked : QueueRequest := { req with titles := req.msg.titles.getD [] }
  have account : exec srv (queue_account req) o c.world =
      (c.world, [queue_cooldown asked keys]) := by
    obtain ⟨first, others, titles⟩ := List.exists_cons_of_ne_nil named
    simp only [exec, queue_account_step, free, plain, Bool.false_eq_true, if_false, titles]
    rw [← titles, queueTitles, gates]
  obtain ⟨c₁, r₁, w₁, e₁⟩ := Run.run_to (M := hubMachine srv) r rfl e ho account
  have waited : exec srv (queue_cooldown asked keys) o c.world =
      (c.world, [queue_waiting asked keys]) := by
    simp [exec, queue_cooldown_step, asked, cool]
  obtain ⟨c₂, r₂, w₂, e₂⟩ := Run.run_to (M := hubMachine srv) r₁ w₁ e₁ ho waited
  have admitted : exec srv (queue_waiting asked keys) o c.world =
      (c.world, [queue_blocks asked keys]) := by
    simp [exec, queue_waiting_step, Nat.not_le.mpr space]
  obtain ⟨c₃, r₃, w₃, e₃⟩ := Run.run_to (M := hubMachine srv) r₂ w₂ e₂ ho admitted
  obtain ⟨c₄, r₄, w₄, e₄⟩ := Run.run_to (M := hubMachine srv) r₃ w₃ e₃ ho rfl
  have made : ∃ x, ticketOf srv c.world asked keys
      (((c.world.hub.clients.lookup asked.player_id).map (·.blocks)).getD []) = some x := by
    simp [ticketOf, asked, unhosted]
  obtain ⟨x, made⟩ := made
  have ticketed : exec srv (queue_ticket asked keys
      (((c.world.hub.clients.lookup asked.player_id).map (·.blocks)).getD [])) o c.world =
      (c.world, [queue_push asked x]) := by
    simp [exec, queue_ticket_step, made]
  obtain ⟨c₅, r₅, w₅, e₅⟩ := Run.run_to (M := hubMachine srv) r₄ w₄ e₄ ho ticketed
  obtain ⟨c₆, r₆, -, -⟩ := Run.run_to (M := hubMachine srv) r₅ w₅ e₅ ho rfl
  exact ⟨c₆, _, asked, x, c₅, r₆, List.mem_cons_self, ticketOf_keys made⟩

/-- Does the client wait with that request, with nothing but its titles to be turned away for? -/
def asksMany (c : HubSnapshot) : Bool :=
  let o := draw "1f8a9f0e-7d2b-4b57-8f6f-2f6f2b0c9d01"
  match c.pending (.conn "6b0f1e52-3c1d-4a86-9a53-0d5f6f1c2a11") with
  | [queue_account req] =>
    o.possible c.world && !c.world.automatch.is_queued_account req.account_id &&
      !req.msg.mods_enabled.getD false && req.msg.mod_exempt.isNone &&
      req.msg.titles = some (["0", "1", "2", "3", "4", "5", "6", "7", "8"].map releaseOf) &&
      cooldownNow sampleServer o c.world req.account_id = 0 &&
      c.world.automatch.waiting < sampleServer.automatch_queue_max && req.msg.host_endpoint.isNone
  | _ => false

/-- A ticket goes into the queue with nine keys. -/
theorem queued_keys_nine : ¬ ∀ c tr t req ticket o pre, HubRun sampleServer c tr →
    .ran t (queue_push req ticket) o pre ∈ tr → ticket.keys.length ≤ MAX_TITLES := by
  intro all
  have h : ((hubMachine sampleServer).follow (nineTitles.take 11)).any fun x => asksMany x.1 := by
    decide +kernel
  obtain ⟨c, tr, r, waits, -⟩ := Machine.follow_reaches h
  unfold asksMany at waits
  dsimp only at waits
  split at waits
  · rename_i req e
    simp only [Bool.and_eq_true, Bool.not_eq_true', decide_eq_true_eq, Option.isNone_iff_eq_none]
      at waits
    obtain ⟨⟨⟨⟨⟨⟨⟨ho, free⟩, plain⟩, exempt⟩, titles⟩, cool⟩, space⟩, unhosted⟩ := waits
    have gates := @releases_gates ["0", "1", "2", "3", "4", "5", "6", "7", "8"] (by decide)
    obtain ⟨c', tr', req', ticket, pre, r', pushed, keys⟩ :=
      HubRun.pushes r e ho free plain (by simp [titles])
        (by rw [titles, exempt]; exact gates) cool space (by rw [unhosted]; rfl)
    have few := all c' tr' _ req' ticket _ pre r' pushed
    rw [keys] at few
    exact absurd few (by decide +kernel)
  · cases waits

/-! ## Which rulesets a client can reach -/

/-- The title that a request for rulesets is answered for: the one it names, or the client's own. -/
def askedGame (g : HubInner) (p : String) (msg : InMsg) : String :=
  (Text.nonempty msg.game_name).getD (((g.clients.lookup p).map (·.game_name)).getD "")

/-- A request for the rulesets of a title. -/
def asksRulesets (game_name : String) : InMsg where
  op := .automatch_rulesets
  game_name := some game_name

/-- Every client that names the ruleset's title in a request for rulesets is offered it. -/
def OfferedByName (srv : Server) (r : Ruleset) : Prop :=
  ∀ g p, ∃ msg, sanitize_in_place srv (asksRulesets r.game_name) = .ok msg ∧
    r ∈ srv.automatch_rulesets.for_game (askedGame g p msg)

/-- A queued title with the ruleset's own name and id resolves to it. -/
def ResolvedByName (srv : Server) (r : Ruleset) : Prop :=
  srv.automatch_rulesets.resolve (Text.trim r.game_name) (Text.trim r.id) = some r

lemma sanitize_asksRulesets (srv : Server) (game_name : String) :
    sanitize_in_place srv (asksRulesets game_name) =
      .ok { asksRulesets game_name with game_name := Names.sanitize (some game_name) } := rfl

section Reach

variable {srv : Server} {entries : List RulesetEntry} {game : String} {r : Ruleset}
  (loaded : srv.automatch_rulesets = Rulesets.load entries)
  (accepted : r ∈ srv.automatch_rulesets.for_game game)

include loaded

/-- A ruleset is filed under its own title alone. -/
lemma ruleset_own {g : String} (h : r ∈ srv.automatch_rulesets.for_game g) : r.game_name = g := by
  rw [loaded] at h
  exact ((Rulesets.load_filed entries).own g r h).1

include accepted

lemma ruleset_named : Text.trim r.id ≠ "" ∧ Text.trim r.game_name ≠ "" := by
  rw [loaded] at accepted
  obtain ⟨own, id, game⟩ := (Rulesets.load_filed entries).own game r accepted
  exact ⟨id, own ▸ game⟩

/-- A ruleset is offered by name iff the message gate leaves its title alone. -/
lemma offered_iff : OfferedByName srv r ↔
    Names.Storable r.game_name ∧ Text.Trimmed r.game_name.toList := by
  have named : r.game_name ≠ "" := by
    intro e
    refine (ruleset_named loaded accepted).2 ?_
    rw [e]
    decide
  have own : r ∈ srv.automatch_rulesets.for_game r.game_name :=
    ruleset_own loaded accepted ▸ accepted
  constructor
  · intro offered
    obtain ⟨msg, clean, here⟩ := offered {} ""
    rw [sanitize_asksRulesets] at clean
    obtain rfl := Except.ok.inj clean
    have asked := ruleset_own loaded here
    cases cut : Names.sanitize (some r.game_name) with
    | none =>
      simp only [askedGame, cut] at asked
      exact absurd asked named
    | some n =>
      have full : Text.nonempty (some n) = some n ∨ Text.nonempty (some n) = none := by
        by_cases e : n = "" <;> simp [Text.nonempty, Option.filter, e]
      simp only [askedGame, cut] at asked
      rcases full with kept | gone
      · rw [kept, Option.getD_some] at asked
        subst n
        obtain ⟨fits, trimmed, -⟩ := Names.sanitize_self_iff.mp cut
        exact ⟨fits, trimmed⟩
      · rw [gone] at asked
        exact absurd asked named
  · rintro ⟨fits, trimmed⟩ g p
    refine ⟨_, sanitize_asksRulesets srv r.game_name, ?_⟩
    have kept := Names.sanitize_self_iff.mpr ⟨fits, trimmed, named⟩
    have asked : askedGame g p { asksRulesets r.game_name with
        game_name := Names.sanitize (some r.game_name) } = r.game_name := by
      simp [askedGame, kept, Text.nonempty, Option.filter, named]
    rw [asked]
    exact own

/-- A ruleset is resolved by name iff trimming leaves its title and its id alone. -/
lemma resolved_iff : ResolvedByName srv r ↔
    Text.Trimmed r.game_name.toList ∧ Text.Trimmed r.id.toList := by
  rw [← Text.trim_eq_iff, ← Text.trim_eq_iff]
  constructor
  · intro h
    unfold ResolvedByName Rulesets.resolve at h
    dsimp only at h
    rw [if_neg (ruleset_named loaded accepted).1] at h
    have here := List.mem_of_find?_eq_some h
    have id : r.id = Text.trim r.id := by simpa using List.find?_some h
    exact ⟨(ruleset_own loaded here).symm, id.symm⟩
  · rintro ⟨game, id⟩
    unfold ResolvedByName
    rw [game, id]
    rw [loaded] at accepted ⊢
    exact Rulesets.resolve_own accepted

end Reach

/-- **Rulesets within reach.** A ruleset that the loader accepts is offered to every client that names its
title, and resolved for every title that carries its title and id, iff the message gate leaves its title
alone and its id is trimmed. -/
theorem ruleset_reached_iff {srv : Server} {entries : List RulesetEntry} {game : String} {r : Ruleset}
    (loaded : srv.automatch_rulesets = Rulesets.load entries)
    (accepted : r ∈ srv.automatch_rulesets.for_game game) :
    (OfferedByName srv r ↔ Names.Storable r.game_name ∧ Text.Trimmed r.game_name.toList) ∧
    (ResolvedByName srv r ↔ Text.Trimmed r.game_name.toList ∧ Text.Trimmed r.id.toList) ∧
    (OfferedByName srv r ∧ ResolvedByName srv r ↔
      Names.Storable r.game_name ∧ Text.Trimmed r.game_name.toList ∧ Text.Trimmed r.id.toList) := by
  have offered := offered_iff loaded accepted
  have resolved := resolved_iff loaded accepted
  refine ⟨offered, resolved, ?_⟩
  rw [offered, resolved]
  constructor
  · rintro ⟨⟨fits, game⟩, -, id⟩
    exact ⟨fits, game, id⟩
  · rintro ⟨fits, game, id⟩
    exact ⟨⟨fits, game⟩, game, id⟩

/-- The ruleset of the sample server is within reach. -/
theorem ruleset_reached_ranked : ∃ r ∈ sampleServer.automatch_rulesets.for_game "Example Game",
    OfferedByName sampleServer r ∧ ResolvedByName sampleServer r := by
  have first : (sampleServer.automatch_rulesets.for_game "Example Game").head?.any
      fun r => r.game_name = "Example Game" && r.id = "ranked" := by decide
  obtain ⟨r, hr, named⟩ := (Option.any_eq_true _ _).mp first
  obtain ⟨game, id⟩ := (Bool.and_eq_true _ _).mp named
  have here := List.mem_of_mem_head? hr
  obtain ⟨-, -, both⟩ :=
    @ruleset_reached_iff sampleServer _ "Example Game" r rfl here
  refine ⟨r, here, both.mpr ?_⟩
  rw [of_decide_eq_true game, of_decide_eq_true id]
  decide

/-- A ruleset whose title is longer than a name may be. -/
def longTitle : RulesetEntry where
  id := "ranked"
  game_name := "Example Game: The Second Anniversary Edition"

/-- The loader accepts the ruleset, and no client is offered it. -/
theorem long_title_out_of_reach : ¬ ∀ srv entries game r,
    srv.automatch_rulesets = Rulesets.load entries → r ∈ srv.automatch_rulesets.for_game game →
    OfferedByName srv r ∧ ResolvedByName srv r := by
  intro all
  let srv := { sampleServer with automatch_rulesets := Rulesets.load [longTitle] }
  have first : (srv.automatch_rulesets.for_game longTitle.game_name).head?.any
      fun r => r.game_name = longTitle.game_name := by decide
  obtain ⟨r, hr, named⟩ := (Option.any_eq_true _ _).mp first
  have here := List.mem_of_mem_head? hr
  obtain ⟨offered, -⟩ := all srv [longTitle] _ r rfl here
  have fits := ((offered_iff rfl here).mp offered).1.chars
  rw [of_decide_eq_true named] at fits
  exact absurd fits (by decide)

end RecompNet
