import RecompNet.Auth.Handout
import RecompNet.Lib.Simulation

/-!
# What the accounts run over

The challenge machine takes the player row as an arbitrary answer and a new key as an event from outside,
and the login store knows nothing of Discord. A server with accounts is a run of both: the row is read
from the table and a key comes from a login, and the calls of the store are those of the login requests.
So whatever holds of every run of the two holds of the server.
-/

namespace RecompNet.Auth

open Interleave AccountSection

/-- The section of the challenge machine that a device section is. -/
def AccountSection.challenge : AccountSection → Option AuthSection
  | device s _ => some s
  | _ => none

/-- What the challenge machine sees. -/
def challenges (c : AccountSnapshot) : Snapshot AuthWorld AuthSection AuthTid :=
  ⟨c.world.auth, fun t => (c.pending (.device t)).filterMap AccountSection.challenge⟩

/-- The row that a section adds to the keys. -/
def addsKey (srv : AccountServer) (o : AccountAnswer) (w : AccountWorld) :
    AccountSection → Option SecretRow
  | issue_key _ _ player =>
    let key := srv.hash o.secret
    if o.session.isSome && (o.db_ok && !w.auth.secrets.any (·.secret_hash = key)) then
      some { player_id := player.id, secret_hash := key }
    else none
  | _ => none

/-- The step of the challenge machine that a step is, if any. -/
def challengeLabel (srv : AccountServer) : AccountLabel → Option AuthLabel
  | .ran (.device t) (device s u) o pre => some (.ran t s (o.device pre.world u) (challenges pre))
  | .ran _ s o pre =>
    (addsKey srv o pre.world s).map fun row => .came (.new_key row) (challenges pre)
  | .came (.device e) pre => some (.came e (challenges pre))
  | .came _ _ => none

/-- The events that fill the keys of a database, from an empty one. -/
def seeded : List SecretRow → List AuthLabel
  | [] => []
  | row :: rows => .came (.new_key row) ⟨{ secrets := rows.reverse }, fun _ => []⟩ :: seeded rows

lemma seeded_run (srv : AuthServer) (rows : List SecretRow) :
    Run (authMachine srv) ⟨{ secrets := rows.reverse }, fun _ => []⟩ (seeded rows) := by
  induction rows with
  | nil => exact .start
  | cons row rows ih =>
    have filled : (⟨{ secrets := (row :: rows).reverse }, fun _ => []⟩ :
        Snapshot AuthWorld AuthSection AuthTid) =
        (authMachine srv).afterEvent ⟨{ secrets := rows.reverse }, fun _ => []⟩ (.new_key row) := by
      unfold Machine.afterEvent
      rw [List.reverse_cons]
      congr 1
      funext t
      change [] = Function.update (fun _ => []) AuthTid.elsewhere [] t
      rw [Function.update_apply]
      split <;> rfl
    rw [filled]
    exact ih.step (.event rfl trivial)

/-! ## Whose sections are where -/

/-- A device task has device sections ahead and a login request has none. -/
def Sorted : AccountTid → List AccountSection → Prop
  | .device .elsewhere, ss => ss = []
  | .device (.request _), ss => ∀ s ∈ ss, ∃ s0 u, s = device s0 u
  | .browser _, ss => ∀ s ∈ ss, ∀ s0 u, s ≠ device s0 u

lemma run_sorted {srv db} {c : AccountSnapshot} {tr} (r : Run (accountMachine srv db) c tr) :
    ∀ t, Sorted t (c.pending t) := by
  apply r.tasks (A := Sorted)
  · rintro ((id | _) | id)
    · rintro s ⟨⟩
    · rfl
    · rintro s ⟨⟩
  · intro t s rest o w h
    cases t with
    | device t =>
      cases t with
      | elsewhere => cases h
      | request id =>
        obtain ⟨⟨s0, u, rfl⟩, others⟩ := List.forall_mem_cons.mp h
        intro s' hs'
        rcases List.mem_append.mp hs' with new | old
        · obtain ⟨s1, -, rfl⟩ := List.mem_map.mp new
          exact ⟨s1, u, rfl⟩
        · exact others s' old
    | browser id =>
      obtain ⟨here, others⟩ := List.forall_mem_cons.mp h
      intro s' hs' s0 u own
      rcases List.mem_append.mp hs' with new | old
      · subst own
        obtain ⟨s1, rfl, -⟩ := accountExec_device new
        exact here s1 u rfl
      · exact others s' old s0 u own
  · intro e w
    cases e with
    | device e =>
      cases e with
      | auth_challenge id =>
        intro s hs
        exact ⟨_, _, List.mem_singleton.mp hs⟩
      | request id req =>
        intro s hs
        obtain ⟨s0, -, rfl⟩ := List.mem_map.mp hs
        exact ⟨s0, _, rfl⟩
      | new_key row => exact rfl
      | pass elapsed => exact rfl
    | discord_callback id q =>
      rintro s hs s0 u rfl
      exact callback_device hs
    | _ =>
      rintro s hs s0 u rfl
      cases List.mem_singleton.mp hs

/-- A section that is none of a device touches nothing that the challenge machine sees but the keys. -/
lemma accountExec_auth {srv o w s} (other : ∀ s0 u, s ≠ device s0 u) :
    (accountExec srv s o w).1.auth =
      { w.auth with secrets := w.auth.secrets ++ (addsKey srv o w s).toList } := by
  have same : ({ w.auth with secrets := w.auth.secrets ++ [] } : AuthWorld) = w.auth := by
    rw [List.append_nil]
  cases s with
  | device s0 u => exact absurd rfl (other s0 u)
  | finish id pairing outcome page => exact same.symm
  | discord_poll id code => exact same.symm
  | issue_key id pairing player =>
    simp only [accountExec, issue_key_step, addsKey]
    split
    · rename_i unsigned
      rw [unsigned]
      exact same.symm
    · rename_i session signed
      rw [signed, Option.isSome_some, Bool.true_and]
      split
      · rfl
      · exact same.symm
  | _ =>
    simp only [accountExec]
    repeat' split
    all_goals exact same.symm

/-- A device section is one of the challenge machine. -/
lemma challenges_run {srv db} {c : AccountSnapshot} {t s u rest o} :
    challenges ((accountMachine srv db).afterRun c (.device t) (device s u) rest o) =
      (authMachine srv.toAuthServer).afterRun (challenges c) t s
        (rest.filterMap AccountSection.challenge) (o.device c.world u) := by
  unfold challenges Machine.afterRun
  congr 1
  funext t'
  dsimp only
  by_cases same : t' = t
  · subst same
    rw [Function.update_self, Function.update_self, List.filterMap_append]
    congr 1
    change ((exec srv.toAuthServer s (o.device c.world u) c.world.auth).2.map _).filterMap _ = _
    rw [List.filterMap_map]
    exact List.filterMap_some
  · rw [Function.update_of_ne same, Function.update_of_ne]
    rintro ⟨⟩
    exact same rfl

lemma challenges_event {srv db} {c : AccountSnapshot} {e} :
    challenges ((accountMachine srv db).afterEvent c (.device e)) =
      (authMachine srv.toAuthServer).afterEvent (challenges c) e := by
  unfold challenges Machine.afterEvent
  congr 1
  funext t'
  dsimp only
  change (Function.update c.pending (AccountTid.device e.task) _ _).filterMap _ =
    Function.update (challenges c).pending e.task (e.body srv.toAuthServer) t'
  by_cases same : t' = e.task
  · subst same
    rw [Function.update_self, Function.update_self]
    change ((e.body srv.toAuthServer).map _).filterMap _ = _
    rw [List.filterMap_map]
    exact List.filterMap_some
  · have other : AccountTid.device t' ≠ .device e.task := by
      rintro ⟨⟩
      exact same rfl
    rw [Function.update_of_ne other, Function.update_of_ne same]
    rfl

/-- A section of a login request is nothing to the challenge machine, or the event of a new key. -/
lemma challenges_login {srv db} {c : AccountSnapshot} {tr id s rest o}
    (r : Run (accountMachine srv db) c tr) (e : c.pending (.browser id) = s :: rest) :
    challenges ((accountMachine srv db).afterRun c (.browser id) s rest o) =
      ⟨{ c.world.auth with
        secrets := c.world.auth.secrets ++ (addsKey srv o c.world s).toList },
        (challenges c).pending⟩ := by
  have other : ∀ s0 u, s ≠ device s0 u := run_sorted r (.browser id) s (e ▸ List.mem_cons_self)
  rw [← accountExec_auth other]
  rfl

lemma elsewhere_idle {srv db} {c : AccountSnapshot} {tr} (r : Run (accountMachine srv db) c tr) :
    (challenges c).pending .elsewhere = [] := by
  have none_ahead : c.pending (.device .elsewhere) = [] := run_sorted r (.device .elsewhere)
  change (c.pending (.device .elsewhere)).filterMap _ = []
  rw [none_ahead]
  rfl

/-- A key that a login issues is the challenge machine's event of a new key. -/
lemma new_key_step {srv db} {c : AccountSnapshot} {tr id s rest o row}
    (r : Run (accountMachine srv db) c tr) (e : c.pending (.browser id) = s :: rest)
    (adds : addsKey srv o c.world s = some row) :
    Step (authMachine srv.toAuthServer) (challenges c) (.came (.new_key row) (challenges c))
      (challenges ((accountMachine srv db).afterRun c (.browser id) s rest o)) := by
  have idle := elsewhere_idle r
  have same : Function.update (challenges c).pending .elsewhere [] = (challenges c).pending := by
    rw [← idle]
    exact Function.update_eq_self ..
  have after : challenges ((accountMachine srv db).afterRun c (.browser id) s rest o) =
      (authMachine srv.toAuthServer).afterEvent (challenges c) (.new_key row) := by
    rw [challenges_login r e, adds, ← same]
    rfl
  rw [after]
  exact .event idle trivial

/-- The challenge machine runs under the accounts. -/
def challengeSimulation (srv : AccountServer) (db : Database) :
    Simulation (accountMachine srv db) (authMachine srv.toAuthServer) where
  abs := challenges
  label := challengeLabel srv
  before := seeded db.secrets.reverse
  start := by
    have run := seeded_run srv.toAuthServer db.secrets.reverse
    rwa [List.reverse_reverse] at run
  stays := by
    intro c tr l c' r st quiet
    cases st with
    | @run t s rest o e _ =>
      cases t with
      | device t =>
        have sorted := run_sorted r (.device t)
        rw [e] at sorted
        cases t with
        | elsewhere => cases sorted
        | request i =>
          obtain ⟨s0, u, rfl⟩ := sorted s List.mem_cons_self
          cases quiet
      | browser id =>
        rw [challenges_login r e, Option.map_eq_none_iff.mp quiet, Option.toList_none,
          List.append_nil]
        rfl
    | @event e _ _ =>
      cases e with
      | device e => cases quiet
      | _ => rfl
  steps := by
    intro c tr l c' l' r st e'
    cases st with
    | @run t s rest o e fresh =>
      cases t with
      | device t =>
        have sorted := run_sorted r (.device t)
        rw [e] at sorted
        cases t with
        | elsewhere => cases sorted
        | request i =>
          obtain ⟨s0, u, rfl⟩ := sorted s List.mem_cons_self
          cases e'
          rw [challenges_run]
          refine .run ?_ fresh.1
          change (c.pending (.device (.request i))).filterMap _ = _
          rw [e]
          rfl
      | browser id =>
        obtain ⟨row, adds, rfl⟩ := Option.map_eq_some_iff.mp e'
        exact new_key_step r e adds
    | @event e idle en =>
      cases e with
      | device e =>
        cases e'
        rw [challenges_event]
        refine .event ?_ ?_
        · change (c.pending (.device e.task)).filterMap _ = []
          rw [show c.pending (.device e.task) = [] from idle]
          rfl
        · cases e with
          | new_key row => exact en.elim
          | _ => exact en
      | _ => cases e'

/-- **The accounts run over the challenges and the logins.** Every run of the server, seen through its
nonces, keys and device requests, is a run of the challenge machine, in which the keys are those of the
database and of the logins and the players are those of the table; and seen through its pairing codes it
is a run of the login store. So a nonce is taken by one request, and a pairing code has one result. -/
theorem accounts_refine {srv : AccountServer} {db : Database} {c : AccountSnapshot}
    {tr : List AccountLabel} (r : Run (accountMachine srv db) c tr) :
    Run (authMachine srv.toAuthServer) (challenges c)
      (tr.filterMap (challengeLabel srv) ++ seeded db.secrets.reverse) ∧
    LoginRun c.world.login (tr.filterMap loginEvent) ∧
    (∀ l ∈ tr, ∀ l' ∈ tr, ∀ x x' id id' nonce, challengeLabel srv l = some x →
      challengeLabel srv l' = some x' → GetsPast id nonce x → GetsPast id' nonce x' → id = id') ∧
    OneResult (tr.filterMap loginEvent) := by
  have under := (challengeSimulation srv db).run r
  obtain ⟨logins, -⟩ := login_run r
  refine ⟨under, logins, ?_, logins.sound.once⟩
  intro l hl l' hl' x x' id id' nonce hx hx' past past'
  exact gets_past_once under ((challengeSimulation srv db).mem hl hx)
    ((challengeSimulation srv db).mem hl' hx') past past'

/-- A login with a browser and one with its key, as the challenge machine sees them. -/
theorem accounts_refine_reimu : ∃ c tr session player, Run (accountMachine sampleAccounts {}) c tr ∧
    Run (authMachine sampleAccounts.toAuthServer) (challenges c)
      (tr.filterMap (challengeLabel sampleAccounts) ++ seeded []) ∧
    (1, .session_issued session "player1" player) ∈ (challenges c).world.replies := by
  let reply : Reply := .session_issued "jwt" "player1" ⟨"Reimu", "reimu_h"⟩
  let ms := polledLogin ++ deviceAsks (.session_from_secret (reimuProof false)) 5
  have h : ((accountMachine sampleAccounts {}).follow ms).any fun x =>
      (1, reply) ∈ x.1.world.auth.replies := by decide
  obtain ⟨c, tr, r, ht, -⟩ := Machine.follow_reaches h
  obtain ⟨under, -⟩ := accounts_refine r
  exact ⟨c, tr, _, _, r, under, of_decide_eq_true ht⟩

end RecompNet.Auth
