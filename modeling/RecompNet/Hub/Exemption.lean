import RecompNet.Hub.Emits

/-!
# Approved exemptions

What the exemption gate of `handle_automatch_queue` guarantees about the tickets that are pushed.
`build_keys` trims the strings of a title before it resolves them, the gate resolves them as they came,
so the gate speaks for the rulesets that the untrimmed strings name, and for those only.
-/

namespace RecompNet

open Section Interleave

/-- Does the ruleset that a key names approve an exemption? -/
def approves (rs : Rulesets) (key : MatchKey) (claim : String) : Bool :=
  (rs.resolve key.game_name key.ruleset_id).any fun r =>
    (unapproved_exemption r.match_caps [claim]).isNone

/-- Every ruleset that the keys name approves every exemption that is not blank. -/
def KeysApproved (rs : Rulesets) (keys : List MatchKey) (exempt : List String) : Prop :=
  ∀ key ∈ keys, ∀ claim ∈ exempt, Text.trim claim ≠ "" → approves rs key claim

instance (rs : Rulesets) (keys : List MatchKey) (exempt : List String) :
    Decidable (KeysApproved rs keys exempt) := by
  unfold KeysApproved
  infer_instance

/-- Every ruleset that the trimmed strings of an accepted title name is one that the untrimmed strings of
some title name, or approves the exemptions all the same. -/
def LookedUp (rs : Rulesets) (titles : List InTitle) (exempt : List String) : Prop :=
  ∀ t ∈ titles, (∃ key, titleKey rs t = .ok key) →
    ∀ r, rs.resolve (Text.trim t.game_name) (Text.trim t.ruleset_id) = some r →
      (∃ t' ∈ titles, rs.resolve t'.game_name t'.ruleset_id = some r) ∨
        unapproved_exemption r.match_caps exempt = none

/-! ## The two gates -/

/-- An accepted title resolves to the ruleset whose id is in its key. -/
lemma titleKey_ok {rs t key} (h : titleKey rs t = .ok key) :
    ∃ r, rs.resolve (Text.trim t.game_name) (Text.trim t.ruleset_id) = some r ∧
      rs.resolve key.game_name key.ruleset_id = some r := by
  unfold titleKey at h
  dsimp only at h
  split at h
  · cases h
  · split at h
    · cases h
    · rename_i r hr
      refine ⟨r, hr, ?_⟩
      split_ifs at h
      cases h
      exact Rulesets.resolve_id hr

/-- The keys of the loop are those it started with and those of the accepted titles. -/
lemma mem_collectKeys {rs ts keys err key} :
    key ∈ (collectKeys rs ts keys err).1 ↔ key ∈ keys ∨ ∃ t ∈ ts, titleKey rs t = .ok key := by
  induction ts generalizing keys err with
  | nil => simp [collectKeys]
  | cons t ts ih =>
    unfold collectKeys
    cases h : titleKey rs t with
    | error code => simp [ih, h]
    | ok k =>
      have added : key ∈ (if k ∈ keys then keys else keys ++ [k]) ↔ key ∈ keys ∨ k = key := by
        split_ifs with hk
        · exact (or_iff_left_of_imp fun e => e ▸ hk).symm
        · simp [eq_comm]
      dsimp only
      rw [ih, added, or_assoc]
      simp [h]

/-- The keys of a request are those of its accepted titles. -/
lemma mem_build_keys {rs titles keys key} (h : build_keys rs titles = .ok keys) :
    key ∈ keys ↔ ∃ t ∈ titles, titleKey rs t = .ok key := by
  have hm : key ∈ (collectKeys rs titles [] none).1 ↔ key ∈ [] ∨ ∃ t ∈ titles, titleKey rs t = .ok key :=
    mem_collectKeys
  unfold build_keys at h
  split at h
  · cases h
  · rename_i keys' err' he
    cases h
    rw [he] at hm
    simpa using hm

/-- The exemption gate lets a request pass iff every ruleset it looks up approves the exemptions. -/
lemma exemptionRefusal_eq_none {rs exempt titles} :
    exemptionRefusal rs exempt titles = none ↔
      ∀ t ∈ titles, ∀ r, rs.resolve t.game_name t.ruleset_id = some r →
        unapproved_exemption r.match_caps exempt = none := by
  induction titles with
  | nil => simp [exemptionRefusal]
  | cons t ts ih =>
    unfold exemptionRefusal
    cases hr : rs.resolve t.game_name t.ruleset_id with
    | none => simp [ih, hr]
    | some r =>
      dsimp only
      cases hu : unapproved_exemption r.match_caps exempt with
      | some bad => simp [hr, hu]
      | none => simp [ih, hr, hu]

/-- Both gates passed. -/
lemma queueGates_ok {rs titles exempt keys} (h : queueGates rs titles exempt = .ok keys) :
    build_keys rs titles = .ok keys ∧ exemptionRefusal rs exempt titles = none := by
  unfold queueGates at h
  split at h
  · cases h
  · split at h
    · cases h
    · rename_i hk _ he
      cases h
      exact ⟨hk, he⟩

/-- A key approves all exemptions iff the check of its ruleset on the whole list finds none. -/
lemma approves_all {rs key r exempt} (hr : rs.resolve key.game_name key.ruleset_id = some r) :
    (∀ claim ∈ exempt, Text.trim claim ≠ "" → approves rs key claim) ↔
      unapproved_exemption r.match_caps exempt = none := by
  rw [unapproved_exemption_eq_none]
  simp [approves, hr]

/-- A request that passes the gates is approved by the rulesets of its keys exactly when these are the
rulesets that the gate looked up, or approve it anyway. -/
lemma queueGates_approved {rs titles exempt keys} (h : queueGates rs titles exempt = .ok keys) :
    KeysApproved rs keys exempt ↔ LookedUp rs titles exempt := by
  obtain ⟨hkeys, hgate⟩ := queueGates_ok h
  rw [exemptionRefusal_eq_none] at hgate
  constructor
  · rintro ha t ht ⟨key, hk⟩ r hr
    obtain ⟨r', hr', hkr⟩ := titleKey_ok hk
    obtain rfl : r = r' := Option.some.inj (hr.symm.trans hr')
    right
    exact (approves_all hkr).mp (ha key ((mem_build_keys hkeys).mpr ⟨t, ht, hk⟩))
  · intro hl key hkey
    obtain ⟨t, ht, hk⟩ := (mem_build_keys hkeys).mp hkey
    obtain ⟨r, hr, hkr⟩ := titleKey_ok hk
    rw [approves_all hkr]
    rcases hl t ht ⟨key, hk⟩ r hr with ⟨t', ht', hr'⟩ | ha
    · exact hgate t' ht' r hr'
    · exact ha

/-! ## The pushed tickets -/

/-- A section of a queue request past the gates carries the keys that passed. -/
def Section.gated (srv : Server) : Section → Prop
  | queue_cooldown req keys | queue_waiting req keys | queue_blocks req keys
  | queue_ticket req keys _ =>
    queueGates srv.automatch_rulesets req.titles (req.msg.mod_exempt.getD []) = .ok keys
  | queue_push req t =>
    queueGates srv.automatch_rulesets req.titles (req.msg.mod_exempt.getD []) = .ok t.keys
  | _ => True

/-- Sections pass the keys on. -/
lemma Emits.gated {srv s s'} (em : Emits srv s s') (h : s.gated srv) : s'.gated srv := by
  cases em with
  | plain => cases s' <;> trivial
  | gates hk => exact hk
  | waiting | blocks | ticket => exact h
  | push hk _ =>
    rw [← hk] at h
    exact h
  | _ => trivial

/-- No event starts in the middle of a queue request. -/
lemma body_gated {srv : Server} {e : Event} {w : World} : ∀ s ∈ e.body w, s.gated srv := by
  intro s hs
  cases e <;> simp only [Event.body, List.mem_cons, List.mem_map, List.not_mem_nil, or_false] at hs
  case connect | text | list_tick => exact hs ▸ trivial
  case disconnect | automatch_tick => rcases hs with rfl | rfl | rfl <;> trivial
  case wake =>
    obtain ⟨task, -, rfl⟩ := hs
    trivial

/-- A ticket is pushed in a run only with keys that passed the gates. -/
lemma pushed_gates {srv c tr} (r : HubRun srv c tr) {t req ticket o pre}
    (h : .ran t (queue_push req ticket) o pre ∈ tr) :
    queueGates srv.automatch_rulesets req.titles (req.msg.mod_exempt.getD []) =
      .ok ticket.keys := by
  obtain ⟨rest, earlier, r', -, e⟩ := r.ran_pending h
  have hg := r'.passed_on (A := Section.gated srv)
    (fun h s' hs => (exec_emits s' hs).gated h) body_gated
  exact hg t (queue_push req ticket) (e ▸ List.mem_cons_self)

/-- The rulesets of a pushed ticket approve its exemptions if and only if each of them is one that the
gate looked up, or approves them anyway. -/
theorem pushed_approved_iff {srv c tr} (r : HubRun srv c tr) {t req ticket o pre}
    (h : .ran t (queue_push req ticket) o pre ∈ tr) :
    KeysApproved srv.automatch_rulesets ticket.keys (req.msg.mod_exempt.getD []) ↔
      LookedUp srv.automatch_rulesets req.titles (req.msg.mod_exempt.getD []) :=
  queueGates_approved (pushed_gates r h)

/-- Queue for the one queue type there is, with a space in front of its title, and claim a mod that the
queue type does not approve. -/
def spacedTitle : List Move :=
  let p := "6b0f1e52-3c1d-4a86-9a53-0d5f6f1c2a11"
  let o := draw "1f8a9f0e-7d2b-4b57-8f6f-2f6f2b0c9d01"
  let titles := queueUp.titles.map (·.map fun t => { t with game_name := " Example Game" })
  signIn p alice o ++ [say p { queueUp with titles, mod_exempt := some ["wallhack"] }] ++
    steps (.conn p) 8 o

/-- Is the step a push of a ticket whose rulesets do not all approve its exemptions? -/
def pushesUnapproved (rs : Rulesets) : HubLabel → Bool
  | .ran _ (queue_push req ticket) _ _ =>
    !decide (KeysApproved rs ticket.keys (req.msg.mod_exempt.getD []))
  | _ => false

/-- The run of that schedule pushes the ticket. -/
lemma spaced_title_run : ∃ c tr t req ticket o pre, HubRun sampleServer c tr ∧
    .ran t (queue_push req ticket) o pre ∈ tr ∧
    ¬ KeysApproved sampleServer.automatch_rulesets ticket.keys (req.msg.mod_exempt.getD []) := by
  let test : HubSnapshot × List HubLabel → Bool := fun x =>
    x.2.any (pushesUnapproved sampleServer.automatch_rulesets)
  have h : ((hubMachine sampleServer).follow spacedTitle).any test := by decide +kernel
  obtain ⟨c, tr, r, ht, -⟩ := Machine.follow_reaches h
  obtain ⟨l, hl, hp⟩ := List.any_eq_true.mp ht
  unfold pushesUnapproved at hp
  split at hp
  · rename_i t req ticket o pre
    refine ⟨c, tr, t, req, ticket, o, pre, r, hl, ?_⟩
    simpa using hp
  · cases hp

theorem pushed_approved_iff_spaced_title : ∃ c tr t req ticket o pre, HubRun sampleServer c tr ∧
    .ran t (queue_push req ticket) o pre ∈ tr ∧
    (KeysApproved sampleServer.automatch_rulesets ticket.keys (req.msg.mod_exempt.getD []) ↔
      LookedUp sampleServer.automatch_rulesets req.titles (req.msg.mod_exempt.getD [])) := by
  obtain ⟨c, tr, t, req, ticket, o, pre, r, h, -⟩ := spaced_title_run
  exact ⟨c, tr, t, req, ticket, o, pre, r, h, pushed_approved_iff r h⟩

/-- A ticket goes into a queue that does not approve its exemption. -/
theorem spaced_title_not_approved :
    ¬ ∀ c tr t req ticket o pre, HubRun sampleServer c tr →
      .ran t (queue_push req ticket) o pre ∈ tr →
      KeysApproved sampleServer.automatch_rulesets ticket.keys (req.msg.mod_exempt.getD []) := by
  intro all
  obtain ⟨c, tr, t, req, ticket, o, pre, r, h, hn⟩ := spaced_title_run
  exact hn (all c tr t req ticket o pre r h)

end RecompNet
