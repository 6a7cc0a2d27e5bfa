import RecompNet.Auth.Logins

/-!
# A key is handed out once

The result of a login is in flight to its pairing code, or lies under it, until a poll takes it. A key is
at one such place at the most, and at none once it was taken: what the store does with the codes and that
keys never repeat add up to that.
-/

namespace RecompNet.Auth

open Interleave AccountSection

/-- The result that a poll hands out, with its pairing code. -/
def handsOut : AccountLabel → Option (String × Completed)
  | .ran _ (discord_poll _ code) _ pre =>
    match (LoginStore.take pre.world.login.logins pre.world.auth.now code).2 with
    | some (.ok done) => some (code, done)
    | _ => none
  | _ => none

/-- The keys that were handed out. -/
def handedOut (tr : List AccountLabel) : List String :=
  tr.filterMap fun l => (handsOut l).map (·.2.netplay_secret)

lemma handedOut_cons (l : AccountLabel) (tr : List AccountLabel) : handedOut (l :: tr) =
    ((handsOut l).map (·.2.netplay_secret)).toList ++ handedOut tr := by
  unfold handedOut
  rw [List.filterMap_cons]
  cases handsOut l <;> rfl

/-- What is handed out lay under the code. -/
lemma handsOut_stored {l code done} (h : handsOut l = some (code, done)) :
    ∃ t id o pre p, l = .ran t (discord_poll id code) o pre ∧
      pre.world.login.logins.lookup code = some p ∧ p.outcome = some (.ok done) := by
  cases l with
  | came _ _ => cases h
  | ran t s o pre =>
    cases s with
    | discord_poll id code' =>
      simp only [handsOut] at h
      split at h
      · rename_i done' taken
        cases h
        obtain ⟨-, p, hp, ok⟩ := take_yields taken
        exact ⟨t, id, o, pre, p, rfl, hp, ok _ rfl⟩
      · cases h
    | _ => cases h

/-- A code is gone after it was handed out from. -/
lemma handsOut_gone {srv : AccountServer} {t id o pre code done}
    (h : handsOut (.ran t (discord_poll id code) o pre) = some (code, done)) :
    (accountExec srv (discord_poll id code) o pre.world).1.login.logins.lookup code = none := by
  simp only [handsOut] at h
  split at h
  · rename_i done' taken
    change (LoginStore.take pre.world.login.logins pre.world.auth.now code).1.lookup code = none
    rw [(take_yields taken).1]
    exact AList.lookup_erase _ _
  · cases h

/-! ## One section at a time -/

lemma exec_one (srv : AuthServer) (s : AuthSection) (a : AuthAnswer) (w : AuthWorld) :
    (exec srv s a w).2.length ≤ 1 := by
  cases s with
  | spend_nonce id req u =>
    simp only [exec, spend_nonce_step]
    repeat' split
    all_goals exact le_rfl
  | respond id reply => exact Nat.zero_le 1
  | _ =>
    simp only [exec, verify_proof_step, proven_step, revoke_by_proof_step]
    repeat' split
    all_goals exact le_rfl

lemma accountExec_one (srv : AccountServer) (s : AccountSection) (o : AccountAnswer)
    (w : AccountWorld) : (accountExec srv s o w).2.length ≤ 1 := by
  cases s with
  | device s u =>
    simp only [accountExec, device_step, List.length_map]
    exact exec_one ..
  | finish id pairing outcome page => exact Nat.zero_le 1
  | discord_poll id code => exact Nat.zero_le 1
  | issue_key id pairing player =>
    simp only [accountExec, issue_key_step]
    repeat' split
    all_goals exact le_rfl
  | _ =>
    simp only [accountExec]
    repeat' split
    all_goals
      first
      | exact le_rfl
      | exact Nat.zero_le 1

/-- A request has one section ahead at the most. -/
lemma one_ahead {srv db} {c : AccountSnapshot} {tr} (r : Run (accountMachine srv db) c tr) :
    ∀ t, (c.pending t).length ≤ 1 := by
  apply r.tasks (A := fun _ ss => ss.length ≤ 1)
  · exact fun _ => Nat.zero_le 1
  · intro t s rest o w h
    have none_left : rest = [] := by simpa using h
    rw [none_left, List.append_nil]
    exact accountExec_one srv s o w
  · intro e w
    cases e with
    | device e =>
      change ((e.body srv.toAuthServer).map _).length ≤ 1
      rw [List.length_map]
      cases e with
      | request id req =>
        simp only [AuthEvent.body]
        split <;> exact le_rfl
      | auth_challenge => exact le_rfl
      | _ => exact Nat.zero_le 1
    | discord_callback id q =>
      change (q.body srv id).length ≤ 1
      unfold DiscordCallback.body
      dsimp only
      repeat' split
      all_goals exact le_rfl
    | _ => exact le_rfl

/-! ## Where a key is -/

inductive Place where
  | flying (t : AccountTid)
  | stored (code : String)

/-- The key is at the place. -/
def At (c : AccountSnapshot) (secret : String) : Place → Prop
  | .flying t => ∃ id pairing page done, finish id pairing (.ok done) page ∈ c.pending t ∧
      done.netplay_secret = secret
  | .stored code => ∃ p done, c.world.login.logins.lookup code = some p ∧
      p.outcome = some (.ok done) ∧ done.netplay_secret = secret

/-- A section that starts a result with a key is the one that made the key, which is new. -/
lemma accountExec_made {srv o w s id pairing page} {done : Completed}
    (h : finish id pairing (.ok done) page ∈ (accountExec srv s o w).2) :
    srv.hash done.netplay_secret ∉ w.auth.secrets.map (·.secret_hash) ∧
      (∃ id pairing player, s = issue_key id pairing player) := by
  cases s with
  | device s u =>
    obtain ⟨s0, -, e⟩ := List.mem_map.mp h
    cases e
  | finish id pairing outcome page => cases h
  | discord_poll id code => cases h
  | issue_key id pairing player =>
    simp only [accountExec, issue_key_step] at h
    split at h
    · cases List.mem_singleton.mp h
    · split at h
      · rename_i free
        cases List.mem_singleton.mp h
        have new := ((Bool.and_eq_true _ _).mp free).2
        exact ⟨by simpa using new, id, pairing, player, rfl⟩
      · cases List.mem_singleton.mp h
  | _ =>
    simp only [accountExec] at h
    repeat' split at h
    all_goals
      first
      | cases List.mem_singleton.mp h
      | cases h

/-- The result of a login whose key was issued. -/
lemma at_known {srv : AccountServer} {c tr} (sound : AccountsSound srv c tr) {secret x}
    (h : At c secret x) : srv.hash secret ∈ c.world.auth.secrets.map (·.secret_hash) := by
  have earned {pairing} {done : Completed} (h : Earned srv tr c.world pairing done) :
      srv.hash done.netplay_secret ∈ c.world.auth.secrets.map (·.secret_hash) := by
    obtain ⟨-, r, hr, -, key⟩ := h
    exact List.mem_map.mpr ⟨r, hr, key⟩
  cases x with
  | flying t =>
    obtain ⟨id, pairing, page, done, hs, rfl⟩ := h
    exact earned (sound.pending t _ hs done rfl)
  | stored code =>
    obtain ⟨p, done, hp, ok, rfl⟩ := h
    exact earned (sound.stored code p done hp ok)

/-- Where a key at a place after a section was before: there, or on its way there, or nowhere. -/
lemma at_origin {srv db} {c : AccountSnapshot} {tr t s rest o}
    (r : Run (accountMachine srv db) c tr) (e : c.pending t = s :: rest) {secret x}
    (h : At ((accountMachine srv db).afterRun c t s rest o) secret x) :
    (x ≠ .flying t ∧ At c secret x) ∨
    (∃ id code outcome page, s = finish id code outcome page ∧ x = .stored code ∧
      At c secret (.flying t)) ∨
    srv.hash secret ∉ c.world.auth.secrets.map (·.secret_hash) ∧ x = .flying t ∧
      (∃ id pairing player, s = issue_key id pairing player) := by
  have none_left : rest = [] := by
    have one := one_ahead r t
    rw [e] at one
    simpa using one
  subst none_left
  cases x with
  | flying t' =>
    obtain ⟨id, pairing, page, done, hs, rfl⟩ := h
    by_cases same : t' = t
    · subst same
      simp only [Machine.afterRun, Function.update_self, List.append_nil] at hs
      obtain ⟨new, issued⟩ := accountExec_made hs
      exact .inr (.inr ⟨new, rfl, issued⟩)
    · simp only [Machine.afterRun, Function.update_of_ne same] at hs
      refine .inl ⟨?_, id, pairing, page, done, hs, rfl⟩
      rintro ⟨⟩
      exact same rfl
  | stored code =>
    obtain ⟨p, done, hp, ok, rfl⟩ := h
    rcases accountExec_stored hp ok with ⟨id, page, rfl, -⟩ | ⟨q, hq, kept, -⟩
    · refine .inr (.inl ⟨id, code, _, page, rfl, rfl, id, code, page, done, ?_, rfl⟩)
      rw [e]
      exact List.mem_cons_self
    · exact .inl ⟨by rintro ⟨⟩, q, done, hq, kept, rfl⟩

/-- A key is at one place, and at none once it was handed out. -/
structure OnePlace (c : AccountSnapshot) (tr : List AccountLabel) : Prop where
  one : ∀ secret x y, At c secret x → At c secret y → x = y
  gone : ∀ secret x, At c secret x → secret ∉ handedOut tr
  once : (handedOut tr).Nodup

lemma handedOut_known {srv db} (sound : Database.Sound db) {c : AccountSnapshot} {tr}
    (r : Run (accountMachine srv db) c tr) :
    ∀ secret ∈ handedOut tr, srv.hash secret ∈ c.world.auth.secrets.map (·.secret_hash) := by
  intro secret h
  obtain ⟨l, hl, e⟩ := List.mem_filterMap.mp h
  obtain ⟨⟨code, done⟩, out, rfl⟩ := Option.map_eq_some_iff.mp e
  obtain ⟨t, id, o, pre, p, rfl, hp, ok⟩ := handsOut_stored out
  obtain ⟨rest, earlier, r', -, -⟩ := r.ran_pending hl
  have here : pre ∈ visited c tr := pre_visited hl
  obtain ⟨-, key⟩ := (accounts_sound sound r').stored code p done hp ok
  obtain ⟨k, hk, -, own⟩ := (visited_later r pre here).secrets.hasKey key
  exact List.mem_map.mpr ⟨k, hk, own⟩

/-- What a poll hands out was at its place, and is not after it. -/
lemma handsOut_moves (srv db rest) {c : AccountSnapshot} {t s o code done}
    (out : handsOut (.ran t s o c) = some (code, done)) :
    At c done.netplay_secret (.stored code) ∧ (∃ id, s = discord_poll id code) ∧
      ∀ secret, ¬ At ((accountMachine srv db).afterRun c t s rest o) secret (.stored code) := by
  obtain ⟨t', id, o', pre, p, same, hp, ok⟩ := handsOut_stored out
  cases same
  refine ⟨⟨p, done, hp, ok, rfl⟩, ⟨id, rfl⟩, ?_⟩
  rintro secret ⟨q, done', hq, -⟩
  have away := @handsOut_gone srv _ _ _ _ _ _ out
  change (accountExec srv (discord_poll id code) o c.world).1.login.logins.lookup code = _ at hq
  rw [away] at hq
  cases hq

/-- A section keeps each key at one place. -/
lemma OnePlace.run {srv db} (sound : Database.Sound db) {c : AccountSnapshot} {tr t s rest o}
    (r : Run (accountMachine srv db) c tr) (h : OnePlace c tr) (e : c.pending t = s :: rest) :
    OnePlace ((accountMachine srv db).afterRun c t s rest o) (.ran t s o c :: tr) := by
  have known {secret x} (here : At c secret x) := at_known (accounts_sound sound r) here
  constructor
  case one =>
    intro secret x y hx hy
    rcases at_origin r e hx with ⟨other, old⟩ | ⟨id, code, outcome, page, rfl, rfl, old⟩ |
      ⟨new, rfl, -⟩
    · rcases at_origin r e hy with ⟨-, old'⟩ | ⟨-, -, -, -, -, -, old'⟩ | ⟨new, -⟩
      · exact h.one secret x y old old'
      · exact absurd (h.one secret x _ old old') other
      · exact absurd (known old) new
    · rcases at_origin r e hy with ⟨other, old'⟩ | ⟨id', code', outcome', page', same, rfl, -⟩ |
        ⟨new, -⟩
      · exact absurd (h.one secret y _ old' old) other
      · cases same
        rfl
      · exact absurd (known old) new
    · rcases at_origin r e hy with ⟨-, old'⟩ | ⟨-, -, -, -, -, -, old'⟩ | ⟨-, rfl, -⟩
      · exact absurd (known old') new
      · exact absurd (known old') new
      · rfl
  case gone =>
    intro secret x hx out
    rw [handedOut_cons, List.mem_append] at out
    rcases out with now | before
    · obtain ⟨⟨code, done⟩, out, rfl⟩ := Option.map_eq_some_iff.mp (Option.mem_toList.mp now)
      obtain ⟨here, ⟨id, rfl⟩, away⟩ := handsOut_moves srv db rest out
      rcases at_origin r e hx with ⟨-, old⟩ | ⟨_, _, _, _, same, -⟩ | ⟨-, -, _, _, _, same⟩
      · rw [h.one _ x _ old here] at hx
        exact away _ hx
      · cases same
      · cases same
    · rcases at_origin r e hx with ⟨-, old⟩ | ⟨-, -, -, -, -, -, old⟩ | ⟨new, -⟩
      · exact h.gone secret x old before
      · exact h.gone secret _ old before
      · exact new (handedOut_known sound r secret before)
  case once =>
    rw [handedOut_cons]
    cases out : handsOut (.ran t s o c) with
    | none => exact h.once
    | some x =>
      obtain ⟨code, done⟩ := x
      obtain ⟨here, -⟩ := handsOut_moves srv db rest out
      exact List.nodup_cons.mpr ⟨h.gone _ _ here, h.once⟩

/-- An event puts no key anywhere. -/
lemma OnePlace.event {srv db} {c : AccountSnapshot} {tr e} (en : e.enabled c.world)
    (h : OnePlace c tr) : OnePlace ((accountMachine srv db).afterEvent c e) (.came e c :: tr) := by
  have before {secret x} (hx : At ((accountMachine srv db).afterEvent c e) secret x) :
      At c secret x := by
    cases x with
    | flying t =>
      obtain ⟨id, pairing, page, done, hs, own⟩ := hx
      by_cases same : t = e.task
      · subst same
        simp only [Machine.afterEvent, accountMachine, Function.update_self] at hs
        -- A callback lands with errors only before Discord was asked.
        obtain ⟨⟨_, ⟨_, _, _, _, _, _, asked, -⟩, -⟩, -⟩ :=
          @event_sees srv [] c.world e _ hs done rfl
        cases asked
      · simp only [Machine.afterEvent, accountMachine, Function.update_of_ne same] at hs
        exact ⟨id, pairing, page, done, hs, own⟩
    | stored code =>
      obtain ⟨p, done, hp, rest⟩ := hx
      refine ⟨p, done, ?_, rest⟩
      rw [← (event_frame en).2.1]
      exact hp
  refine ⟨?_, ?_, ?_⟩
  · exact fun secret x y hx hy => h.one secret x y (before hx) (before hy)
  · exact fun secret x hx => h.gone secret x (before hx)
  · exact h.once

lemma one_place {srv db} (sound : Database.Sound db) {c : AccountSnapshot} {tr}
    (r : Run (accountMachine srv db) c tr) : OnePlace c tr := by
  apply r.induct (I := OnePlace)
  · constructor
    · rintro secret (t | code) y hx
      · obtain ⟨id, pairing, page, done, hs, -⟩ := hx
        cases hs
      · obtain ⟨p, done, hp, -⟩ := hx
        cases hp
    · rintro secret x - ⟨⟩
    · exact List.nodup_nil
  · intro c tr l c' r h st
    cases st with
    | run e _ => exact h.run sound r e
    | event _ en => exact h.event en

/-- **What a poll hands out.** Whatever a poll hands out under a pairing code is for the player of a
snowflake that Discord confirmed to a callback of that code before, with a key that was issued to that
player; and no key is handed out twice in a run, by any polls. -/
theorem polls_hand_out_once {srv : AccountServer} {db : Database} (sound : db.Sound)
    {c : AccountSnapshot} {tr : List AccountLabel} (r : Run (accountMachine srv db) c tr) :
    (handedOut tr).Nodup ∧
    ∀ later l earlier, tr = later ++ l :: earlier → ∀ code done, handsOut l = some (code, done) →
      ∃ snowflake, Confirmed srv earlier code snowflake ∧
        l.pre.world.players.HasRow done.player_id snowflake ∧
        HasKey l.pre.world.auth.secrets done.player_id (srv.hash done.netplay_secret) := by
  refine ⟨(one_place sound r).once, ?_⟩
  intro later l earlier e code done out
  obtain ⟨r', -⟩ := r.pre_reached l later earlier e
  obtain ⟨t, id, o, pre, p, rfl, hp, ok⟩ := handsOut_stored out
  obtain ⟨⟨snowflake, said, row⟩, key⟩ := (accounts_sound sound r').stored code p done hp ok
  exact ⟨snowflake, said, row, key⟩

/-- The poll hands out Reimu's key. -/
theorem polls_hand_out_once_reimu : ∃ c tr l, Run (accountMachine sampleAccounts {}) c tr ∧ l ∈ tr ∧
    ∃ code done snowflake, handsOut l = some (code, done) ∧ done.netplay_secret = "rnp_1" ∧
      l.pre.world.players.HasRow done.player_id snowflake := by
  have h : ((accountMachine sampleAccounts {}).follow polledLogin).any fun x =>
      x.2.any fun l => (handsOut l).any (·.2.netplay_secret = "rnp_1") := by decide
  obtain ⟨c, tr, r, ht, -⟩ := Machine.follow_reaches h
  obtain ⟨l, hl, out⟩ := List.any_eq_true.mp ht
  obtain ⟨⟨code, done⟩, out, own⟩ := (Option.any_eq_true _ _).mp out
  obtain ⟨later, earlier, e⟩ := List.append_of_mem hl
  obtain ⟨-, each⟩ := polls_hand_out_once empty_sound r
  obtain ⟨snowflake, -, row, -⟩ := each later l earlier e code done out
  exact ⟨c, tr, l, r, hl, code, done, snowflake, out, of_decide_eq_true own, row⟩

end RecompNet.Auth
