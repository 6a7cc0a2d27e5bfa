import RecompNet.Auth.Players

/-!
# What a login hands out

What the requests have in flight, over every interleaving: whom a login is about, where a key came from
and what lies under a pairing code. A poll hands out a session only for the player of a snowflake that
Discord confirmed to a callback of that very code, and no key is handed out twice.
-/

namespace RecompNet.Auth

open Interleave AccountSection

/-! ## Keys -/

/-- The player has had the key. -/
def HasKey (rows : List SecretRow) (player key : String) : Prop :=
  ∃ r ∈ rows, r.player_id = player ∧ r.secret_hash = key

/-- What a section makes of the keys. -/
inductive SecretsStep (srv : AccountServer) (o : AccountAnswer) (rows : List SecretRow) :
    AccountSection → List SecretRow → Prop where
  | same {s} : SecretsStep srv o rows s rows
  | issue_key {id pairing player} :
    srv.hash o.secret ∉ rows.map (·.secret_hash) →
    SecretsStep srv o rows (issue_key id pairing player)
      (rows ++ [{ player_id := player.id, secret_hash := srv.hash o.secret }])
  | revoke_all {id u u'} :
    SecretsStep srv o rows (device (.revoke_all id u) u')
      (revokeRows rows fun r => r.player_id = u && !r.revoked).1
  | revoke_key {id key u} :
    SecretsStep srv o rows (device (.revoke_key id key) u)
      (revokeRows rows (·.secret_hash = key)).1

/-- Of the device sections only the revocations touch the keys. -/
lemma exec_secrets (srv : AccountServer) (s : AuthSection) (u : String) (o : AccountAnswer)
    (a : AuthAnswer) (w : AuthWorld) :
    SecretsStep srv o w.secrets (device s u) (exec srv.toAuthServer s a w).1.secrets := by
  cases s with
  | spend_nonce id req u' =>
    rw [exec, spend_nonce_world]
    exact .same
  | revoke_all id u' =>
    simp only [exec]
    split
    · exact .revoke_all
    · exact .same
  | revoke_key id key =>
    simp only [exec]
    split
    · exact .revoke_key
    · exact .same
  | _ =>
    dsimp only [exec, verify_proof_step, proven_step, revoke_by_proof_step]
    repeat' split
    all_goals exact .same

lemma accountExec_secrets (srv : AccountServer) (s : AccountSection) (o : AccountAnswer)
    (w : AccountWorld) :
    SecretsStep srv o w.auth.secrets s (accountExec srv s o w).1.auth.secrets := by
  cases s with
  | device s u => exact exec_secrets srv s u o _ w.auth
  | issue_key id pairing player =>
    simp only [accountExec, issue_key_step]
    split
    · exact .same
    · split
      · rename_i free
        apply SecretsStep.issue_key
        have new := ((Bool.and_eq_true _ _).mp free).2
        simpa using new
      · exact .same
  | finish id pairing outcome page => exact .same
  | discord_poll id code => exact .same
  | _ =>
    simp only [accountExec]
    repeat' split
    all_goals exact .same

/-- Revoking rows keeps their players and keys. -/
lemma mem_revokeRows {rows : List SecretRow} {which r'} :
    r' ∈ (revokeRows rows which).1 ↔
      ∃ r ∈ rows, r' = if which r then { r with revoked := true } else r := by
  unfold revokeRows
  rw [List.mem_map]
  exact exists_congr fun r => and_congr_right fun _ => eq_comm

lemma revokeRows_hashes (rows : List SecretRow) (which : SecretRow → Bool) :
    (revokeRows rows which).1.map (·.secret_hash) = rows.map (·.secret_hash) := by
  unfold revokeRows
  rw [List.map_map]
  apply List.map_congr_left
  intro r _
  dsimp only [Function.comp_apply]
  split <;> rfl

/-- The rows are still there, and what was revoked is. -/
def KeysKept (rows rows' : List SecretRow) : Prop :=
  ∀ r ∈ rows, ∃ r' ∈ rows', r'.player_id = r.player_id ∧ r'.secret_hash = r.secret_hash ∧
    (r.revoked → r'.revoked)

lemma KeysKept.refl (rows : List SecretRow) : KeysKept rows rows :=
  fun r hr => ⟨r, hr, rfl, rfl, id⟩

lemma KeysKept.trans {rows rows' rows'' : List SecretRow} (h : KeysKept rows rows')
    (h' : KeysKept rows' rows'') : KeysKept rows rows'' := by
  intro r hr
  obtain ⟨r', hr', player, key, revoked⟩ := h r hr
  obtain ⟨r'', hr'', player', key', revoked'⟩ := h' r' hr'
  exact ⟨r'', hr'', player'.trans player, key'.trans key, fun dead => revoked' (revoked dead)⟩

lemma KeysKept.hasKey {rows rows' : List SecretRow} (h : KeysKept rows rows') {player key}
    (has : HasKey rows player key) : HasKey rows' player key := by
  obtain ⟨r, hr, rfl, rfl⟩ := has
  obtain ⟨r', hr', player, key, -⟩ := h r hr
  exact ⟨r', hr', player, key⟩

lemma revokeRows_kept (rows : List SecretRow) (which : SecretRow → Bool) :
    KeysKept rows (revokeRows rows which).1 := by
  intro r hr
  refine ⟨_, mem_revokeRows.mpr ⟨r, hr, rfl⟩, ?_⟩
  split
  · exact ⟨rfl, rfl, fun _ => rfl⟩
  · exact ⟨rfl, rfl, id⟩

lemma SecretsStep.kept {srv o rows s rows'} (h : SecretsStep srv o rows s rows') :
    KeysKept rows rows' := by
  cases h with
  | same => exact .refl rows
  | issue_key _ => exact fun r hr => ⟨r, List.mem_append_left _ hr, rfl, rfl, id⟩
  | revoke_all => exact revokeRows_kept _ _
  | revoke_key => exact revokeRows_kept _ _

/-- The keys stay different. -/
lemma SecretsStep.nodup {srv o rows s rows'} (h : SecretsStep srv o rows s rows')
    (keys : (rows.map (·.secret_hash)).Nodup) : (rows'.map (·.secret_hash)).Nodup := by
  cases h with
  | same => exact keys
  | issue_key fresh =>
    rw [List.map_append]
    refine keys.append (List.nodup_singleton _) ?_
    intro key old new
    cases List.mem_singleton.mp new
    exact fresh old
  | revoke_all => rwa [revokeRows_hashes]
  | revoke_key => rwa [revokeRows_hashes]

/-- A player of a row is the player of an old one, or the one that the key was issued to. -/
lemma SecretsStep.owner {srv o rows s rows'} (h : SecretsStep srv o rows s rows') {r}
    (hr : r ∈ rows') : (∃ r0 ∈ rows, r.player_id = r0.player_id ∧ r.secret_hash = r0.secret_hash) ∨
      ∃ id pairing player, s = .issue_key id pairing player ∧
        r = { player_id := player.id, secret_hash := srv.hash o.secret } := by
  have revoked {which} (hr : r ∈ (revokeRows rows which).1) :
      ∃ r0 ∈ rows, r.player_id = r0.player_id ∧ r.secret_hash = r0.secret_hash := by
    obtain ⟨r0, hr0, rfl⟩ := mem_revokeRows.mp hr
    refine ⟨r0, hr0, ?_⟩
    split <;> exact ⟨rfl, rfl⟩
  cases h with
  | same => exact .inl ⟨r, hr, rfl, rfl⟩
  | issue_key _ =>
    rcases List.mem_append.mp hr with old | new
    · exact .inl ⟨r, old, rfl, rfl⟩
    · exact .inr ⟨_, _, _, rfl, List.mem_singleton.mp new⟩
  | revoke_all => exact .inl (revoked hr)
  | revoke_key => exact .inl (revoked hr)

/-! ## The logins in flight -/

/-- The call of the login store that a section makes. -/
def loginCall (o : AccountAnswer) (w : AccountWorld) : AccountSection → Option LoginCall
  | discord_start _ => some (.begin (fun _ => w.auth.now) w.auth.now o.random_code)
  | finish _ pairing outcome _ => some (.finish w.auth.now pairing outcome)
  | discord_poll _ code => some (.take w.auth.now code)
  | _ => none

lemma accountExec_login (srv : AccountServer) (s : AccountSection) (o : AccountAnswer)
    (w : AccountWorld) : (accountExec srv s o w).1.login =
      ((loginCall o w s).map fun c => c.exec w.login).getD w.login := by
  cases s with
  | device s u => rfl
  | discord_start id =>
    simp only [accountExec]
    split <;> rfl
  | finish id pairing outcome page => rfl
  | discord_poll id code => rfl
  | issue_key id pairing player =>
    simp only [accountExec, issue_key_step]
    repeat' split
    all_goals rfl
  | _ =>
    simp only [accountExec]
    repeat' split
    all_goals rfl

/-- The calls of the login store in a trace. -/
def loginEvent : AccountLabel → Option LoginEvent
  | .ran _ s o pre => (loginCall o pre.world s).map fun call => ⟨call, pre.world.login⟩
  | .came _ _ => none

/-- No section moves the clock. -/
lemma accountExec_now (srv : AccountServer) (s : AccountSection) (o : AccountAnswer)
    (w : AccountWorld) : (accountExec srv s o w).1.auth.now = w.auth.now := by
  cases s with
  | device s u => exact exec_frame.1
  | finish id pairing outcome page => rfl
  | discord_poll id code => rfl
  | issue_key id pairing player =>
    simp only [accountExec, issue_key_step]
    repeat' split
    all_goals rfl
  | _ =>
    simp only [accountExec]
    repeat' split
    all_goals rfl

/-- The calls are made in the order of the clock, with codes that are new. -/
lemma loginCall_possible {o : AccountAnswer} {w : AccountWorld} {s c}
    (h : loginCall o w s = some c) (clock : w.login.now ≤ w.auth.now)
    (fresh : o.random_code ∉ w.login.codes) :
    c.Possible w.login ∧ (c.exec w.login).now = w.auth.now := by
  cases s with
  | discord_start id =>
    cases h
    exact ⟨⟨clock, fun _ _ => ⟨clock, le_rfl⟩, fresh⟩, rfl⟩
  | finish id pairing outcome page =>
    cases h
    exact ⟨clock, rfl⟩
  | discord_poll id code =>
    cases h
    exact ⟨clock, rfl⟩
  | _ => cases h

/-- The login store runs along with the server. -/
lemma login_run {srv db} {c : AccountSnapshot} {tr} (r : Run (accountMachine srv db) c tr) :
    LoginRun c.world.login (tr.filterMap loginEvent) ∧ c.world.login.now ≤ c.world.auth.now := by
  apply r.induct (I := fun c tr =>
    LoginRun c.world.login (tr.filterMap loginEvent) ∧ c.world.login.now ≤ c.world.auth.now)
  · exact ⟨.start, le_rfl⟩
  · rintro c tr l c' - ⟨run, clock⟩ st
    cases st with
    | @run t s rest o e fresh =>
      have login := accountExec_login srv s o c.world
      have now := accountExec_now srv s o c.world
      cases made : loginCall o c.world s with
      | none =>
        rw [made] at login
        rw [List.filterMap_cons_none (by simp [loginEvent, made])]
        change LoginRun (accountExec srv s o c.world).1.login _ ∧
          (accountExec srv s o c.world).1.login.now ≤ (accountExec srv s o c.world).1.auth.now
        rw [login, now]
        exact ⟨run, clock⟩
      | some call =>
        obtain ⟨possible, at_now⟩ := loginCall_possible made clock fresh.2
        rw [made] at login
        have event : loginEvent (.ran t s o c) = some ⟨call, c.world.login⟩ := by
          simp [loginEvent, made]
        rw [List.filterMap_cons_some event]
        change LoginRun (accountExec srv s o c.world).1.login _ ∧
          (accountExec srv s o c.world).1.login.now ≤ (accountExec srv s o c.world).1.auth.now
        rw [login, now]
        exact ⟨run.call call possible, at_now.le⟩
    | @event e _ _ =>
      cases e with
      | device e =>
        refine ⟨run, clock.trans ?_⟩
        cases e with
        | pass elapsed => exact Nat.le_add_right _ _
        | _ => exact le_rfl
      | _ => exact ⟨run, clock⟩

/-! ## What a section knows -/

/-- A callback for the pairing code asked Discord, which confirmed the player of the snowflake. -/
def Confirmed (srv : AccountServer) (tr : List AccountLabel) (pairing snowflake : String) : Prop :=
  ∃ t id code o pre p, .ran t (.exchange id pairing code) o pre ∈ tr ∧
    confirmed srv.config o.me o.guild = .ok p ∧ p.id = snowflake

lemma Confirmed.mono {srv tr tr' pairing snowflake} (h : Confirmed srv tr pairing snowflake)
    (sub : tr ⊆ tr') : Confirmed srv tr' pairing snowflake := by
  obtain ⟨t, id, code, o, pre, p, hl, said, own⟩ := h
  exact ⟨t, id, code, o, pre, p, sub hl, said, own⟩

/-- A login of the pairing code was confirmed for the player it names, who was given its key. -/
def Earned (srv : AccountServer) (tr : List AccountLabel) (w : AccountWorld) (pairing : String)
    (done : Completed) : Prop :=
  (∃ snowflake, Confirmed srv tr pairing snowflake ∧ w.players.HasRow done.player_id snowflake) ∧
    HasKey w.auth.secrets done.player_id (srv.hash done.netplay_secret)

/-- The player that a section of a device request carries. -/
def AuthSection.about (u : String) : AuthSection → Prop
  | .spend_nonce _ _ u' | .verify_proof _ _ u' | .touch_key _ _ u' | .load_player _ _ u'
  | .revoke_all _ u' | .revoke_by_proof _ _ u' => u' = u
  | .issue _ | .store_handle .. | .revoke_key .. | .respond .. => True

/-- What a pending section relies on. -/
def Sees (srv : AccountServer) (tr : List AccountLabel) (w : AccountWorld) : AccountSection → Prop
  | device (.store_handle _ h) u => Shown h ∧ ∃ snowflake, w.players.HasRow u snowflake
  | device s u => s.about u
  | select_player _ pairing p | insert_player _ pairing p => Confirmed srv tr pairing p.id
  | refresh_names _ pairing p u h =>
    Confirmed srv tr pairing p.id ∧ w.players.HasRow u p.id ∧ (Text.nonempty h).isSome
  -- A row that belongs to a snowflake has a handle.
  | fill_handle .. => False
  | issue_key _ pairing player => Confirmed srv tr pairing player.discord_id ∧
      w.players.HasRow player.id player.discord_id
  | finish _ pairing outcome _ => ∀ done, outcome = .ok done → Earned srv tr w pairing done
  | discord_start _ | exchange .. | discord_poll .. | create_player _ => True

/-- Later in a run: no row of either table was lost. -/
structure AccountWorld.Later (w w' : AccountWorld) : Prop where
  players : PlayerTable.Kept w.players w'.players
  secrets : KeysKept w.auth.secrets w'.auth.secrets

lemma Earned.later {srv tr tr' w w' pairing done} (h : Earned srv tr w pairing done)
    (sub : tr ⊆ tr') (later : w.Later w') : Earned srv tr' w' pairing done := by
  obtain ⟨⟨snowflake, said, row⟩, key⟩ := h
  exact ⟨⟨snowflake, said.mono sub, later.players.hasRow row⟩, later.secrets.hasKey key⟩

lemma Sees.later {srv tr tr' w w' s} (h : Sees srv tr w s) (sub : tr ⊆ tr') (later : w.Later w') :
    Sees srv tr' w' s := by
  cases s with
  | device s u =>
    cases s with
    | store_handle id name =>
      obtain ⟨shown, snowflake, row⟩ := h
      exact ⟨shown, snowflake, later.players.hasRow row⟩
    | _ => exact h
  | select_player id pairing p => exact Confirmed.mono h sub
  | insert_player id pairing p => exact Confirmed.mono h sub
  | refresh_names id pairing p u name =>
    exact ⟨h.1.mono sub, later.players.hasRow h.2.1, h.2.2⟩
  | fill_handle => exact h
  | issue_key id pairing player => exact ⟨h.1.mono sub, later.players.hasRow h.2⟩
  | finish id pairing outcome page => exact fun done e => (h done e).later sub later
  | _ => trivial

lemma accountExec_later (srv : AccountServer) (s : AccountSection) (o : AccountAnswer)
    (w : AccountWorld) : w.Later (accountExec srv s o w).1 :=
  ⟨(accountExec_players srv s o w).kept, (accountExec_secrets srv s o w).kept⟩

/-- A device section keeps to its player, and a handle is stored for a player that was loaded. -/
lemma exec_about {srv : AuthServer} {s : AuthSection} {a : AuthAnswer} {w u s'}
    (about : s.about u) (h : s' ∈ (exec srv s a w).2) :
    s'.about u ∧ ∀ id name, s' = .store_handle id name → a.player.isSome ∧ Shown name := by
  cases s with
  | spend_nonce id req u' =>
    cases about
    simp only [exec, spend_nonce_step] at h
    repeat' split at h
    all_goals
      rw [List.mem_singleton.mp h]
      refine ⟨?_, ?_⟩
      · first | rfl | trivial
      · intro i name e
        cases e
  | load_player id req u' =>
    cases about
    simp only [exec] at h
    split at h
    · rename_i player found
      simp only [proven_step] at h
      repeat' split at h
      all_goals rw [List.mem_singleton.mp h]
      · exact ⟨trivial, by rintro _ _ ⟨⟩⟩
      · exact ⟨trivial, by rintro _ _ ⟨⟩⟩
      · rename_i name passed
        refine ⟨trivial, ?_⟩
        rintro _ _ ⟨⟩
        exact ⟨by rw [found]; rfl, (Identity.acceptable_tidy passed).1⟩
      · exact ⟨trivial, by rintro _ _ ⟨⟩⟩
      · exact ⟨rfl, by rintro _ _ ⟨⟩⟩
    · rw [List.mem_singleton.mp h]
      exact ⟨trivial, by rintro _ _ ⟨⟩⟩
  | _ =>
    simp only [exec, verify_proof_step, revoke_by_proof_step] at h
    repeat' split at h
    all_goals
      first
      | rw [List.mem_singleton.mp h]
      | cases h
    all_goals
      try split
      all_goals
        refine ⟨?_, ?_⟩
        · first | exact about | trivial
        · intro i name e
          cases e

/-- The sections of a login start no device section. -/
lemma accountExec_device {srv s o w s0 u} (h : device s0 u ∈ (accountExec srv s o w).2) :
    ∃ s1, s = device s1 u ∧ s0 ∈ (exec srv.toAuthServer s1 (o.device w u) w.auth).2 := by
  cases s with
  | device s1 u' =>
    obtain ⟨s2, hs2, same⟩ := List.mem_map.mp h
    cases same
    exact ⟨s1, rfl, hs2⟩
  | finish id pairing outcome page => cases h
  | discord_poll id code => cases h
  | issue_key id pairing player =>
    simp only [accountExec, issue_key_step] at h
    repeat' split at h
    all_goals cases List.mem_singleton.mp h
  | _ =>
    simp only [accountExec] at h
    repeat' split at h
    all_goals
      first
      | cases List.mem_singleton.mp h
      | cases h

lemma callback_device {srv : AccountServer} {id : Nat} {q : DiscordCallback} {s0 u} :
    device s0 u ∉ q.body srv id := by
  intro h
  unfold DiscordCallback.body at h
  dsimp only at h
  repeat' split at h
  all_goals cases List.mem_singleton.mp h

/-! ## What holds of every run -/

/-- The database of a server as its schema and an earlier server leave it. -/
structure Database.Sound (db : Database) : Prop where
  players : db.players.Sound
  keys : (db.secrets.map (·.secret_hash)).Nodup
  owners : ∀ r ∈ db.secrets, ∃ snowflake, db.players.HasRow r.player_id snowflake

structure AccountsSound (srv : AccountServer) (c : AccountSnapshot) (tr : List AccountLabel) :
    Prop where
  players : c.world.players.Sound
  keys : (c.world.auth.secrets.map (·.secret_hash)).Nodup
  owners : ∀ r ∈ c.world.auth.secrets, ∃ snowflake, c.world.players.HasRow r.player_id snowflake
  stored : ∀ code p done, c.world.login.logins.lookup code = some p →
    p.outcome = some (.ok done) → Earned srv tr c.world code done
  pending : Holds (fun w _ s => Sees srv tr w s) c

/-- The table stays sound. -/
lemma PlayersStep.sound {srv o w s ps'} {tr : List AccountLabel}
    (h : PlayersStep srv o w.players s ps') (sound : w.players.Sound) (sees : Sees srv tr w s) :
    ps'.Sound := by
  cases h with
  | same => exact sound
  | @store_handle id name u =>
    obtain ⟨shown, snowflake, r, hr, own, linked⟩ := sees
    apply sound.update (setHandle_edit _)
    intro r' hr' chosen
    have same : r'.id = r.id := (of_decide_eq_true chosen).trans own.symm
    rw [sound.ids r' hr' r hr same]
    exact .inr ⟨by rw [linked]; rfl, shown_nonempty.mpr shown⟩
  | refresh_names => exact sound.update (setNames_edit _) fun _ _ _ => .inl rfl
  | fill_handle => exact sees.elim
  | insert_player into =>
    exact sound.insert into
      (fun _ => shown_nonempty.mpr (default_handle_shown _ _)) (by rintro ⟨⟩)
  | create_player into => exact sound.insert into (by rintro ⟨⟩) (fun _ => rfl)

/-- Only a player with a row gets a key. -/
lemma SecretsStep.owners {srv o s rows'} {w w' : AccountWorld} {tr : List AccountLabel}
    (h : SecretsStep srv o w.auth.secrets s rows') (later : PlayerTable.Kept w.players w'.players)
    (owners : ∀ r ∈ w.auth.secrets, ∃ snowflake, w.players.HasRow r.player_id snowflake)
    (sees : Sees srv tr w s) :
    ∀ r ∈ rows', ∃ snowflake, w'.players.HasRow r.player_id snowflake := by
  intro r hr
  rcases h.owner hr with ⟨r0, hr0, player, -⟩ | ⟨id, pairing, player, rfl, rfl⟩
  · obtain ⟨snowflake, row⟩ := owners r0 hr0
    exact ⟨snowflake, later.hasRow (player ▸ row)⟩
  · exact ⟨player.discord_id, later.hasRow sees.2⟩

/-- What lies under a pairing code after a section was there before, or the section left it there. -/
lemma accountExec_stored {srv o w s code p} {done : Completed}
    (hp : (accountExec srv s o w).1.login.logins.lookup code = some p)
    (ok : p.outcome = some (.ok done)) :
    (∃ id page, s = finish id code (.ok done) page ∧ ∃ q, w.login.logins.lookup code = some q) ∨
      ∃ q, w.login.logins.lookup code = some q ∧ q.outcome = some (.ok done) ∧
        ∀ id outcome page, s ≠ finish id code outcome page := by
  rw [accountExec_login] at hp
  cases made : loginCall o w s with
  | none =>
    rw [made] at hp
    refine .inr ⟨p, hp, ok, ?_⟩
    rintro id outcome page rfl
    cases made
  | some call =>
    rw [made] at hp
    rcases exec_lookup hp with ⟨started, -, rfl⟩ | ⟨now, outcome, q, landed, hq, rfl⟩ |
      ⟨kept, other⟩
    · cases ok
    · cases ok
      cases s with
      | finish id pairing outcome page =>
        cases made
        cases landed
        exact .inl ⟨id, page, rfl, q, hq⟩
      | discord_start id =>
        cases made
        cases landed
      | discord_poll id code =>
        cases made
        cases landed
      | _ => cases made
    · refine .inr ⟨p, kept, ok, ?_⟩
      rintro id outcome page rfl
      cases made
      exact other _ _ rfl

/-- A started section relies on nothing that does not hold. -/
lemma accountExec_sees {srv : AccountServer} {c : AccountSnapshot} {tr t s rest o}
    (h : AccountsSound srv c tr) (e : c.pending t = s :: rest) :
    ∀ s' ∈ (accountExec srv s o c.world).2,
      Sees srv (.ran t s o c :: tr) (accountExec srv s o c.world).1 s' := by
  have sees := h.pending t s (e ▸ List.mem_cons_self)
  have later := accountExec_later srv s o c.world
  have sub : tr ⊆ .ran t s o c :: tr := List.subset_cons_self _ _
  have refused {id pairing} {e : String} {w} : ∀ s' ∈ finished id pairing (.error e),
      Sees srv (.ran t s o c :: tr) w s' := by
    intro s' hs'
    rw [List.mem_singleton.mp hs']
    rintro done ⟨⟩
  intro s' hs'
  cases s with
  | device s u =>
    obtain ⟨s0, hs0, rfl⟩ := List.mem_map.mp hs'
    have about : s.about u := by
      cases s with
      | store_handle => trivial
      | _ => exact sees
    obtain ⟨about', stores⟩ := exec_about about hs0
    cases s0 with
    | store_handle id name =>
      obtain ⟨loaded, shown⟩ := stores id name rfl
      have found : (c.world.players.load_player u).isSome := by
        dsimp only [AccountAnswer.device] at loaded
        split at loaded
        · exact loaded
        · cases loaded
      obtain ⟨snowflake, row⟩ := h.players.loaded found
      exact ⟨shown, snowflake, later.players.hasRow row⟩
    | _ => exact about'
  | discord_start id =>
    simp only [accountExec] at hs'
    split at hs' <;> cases hs'
  | exchange id pairing code =>
    simp only [accountExec] at hs' ⊢
    split at hs'
    · rename_i p said
      rw [List.mem_singleton.mp hs']
      exact ⟨t, id, code, o, c, p, List.mem_cons_self, said, rfl⟩
    · exact refused s' hs'
  | select_player id pairing p =>
    simp only [accountExec] at hs'
    split at hs'
    · exact refused s' hs'
    · split at hs'
      · rename_i row found
        rw [List.mem_singleton.mp hs']
        have own : row.discord_id = some p.id := by simpa using List.find?_some found
        have here := List.mem_of_find?_eq_some found
        have nonblank := h.players.linked row here (by rw [own]; rfl)
        exact ⟨Confirmed.mono sees sub, later.players.hasRow ⟨row, here, rfl, own⟩, nonblank⟩
      · rw [List.mem_singleton.mp hs']
        exact Confirmed.mono sees sub
  | refresh_names id pairing p u name =>
    obtain ⟨said, row, nonblank⟩ := sees
    simp only [accountExec] at hs'
    split at hs'
    · exact refused s' hs'
    · split at hs'
      · rw [List.mem_singleton.mp hs']
        exact ⟨said.mono sub, later.players.hasRow row⟩
      · rename_i blank
        rw [blank] at nonblank
        cases nonblank
  | fill_handle => exact sees.elim
  | insert_player id pairing p =>
    simp only [accountExec] at hs'
    split at hs'
    · rename_i ps' e
      rw [List.mem_singleton.mp hs']
      have into : c.world.players.insert (newPlayer srv o.uuid p) = some ps' := by
        split at e
        · exact e
        · cases e
      have table : (accountExec srv (.insert_player id pairing p) o c.world).1.players = ps' := by
        simp only [accountExec, e]
      refine ⟨Confirmed.mono sees sub, newPlayer srv o.uuid p, ?_, rfl, rfl⟩
      rw [table, (PlayerTable.insert_some into).1]
      exact List.mem_append_right _ (List.mem_singleton.mpr rfl)
    · exact refused s' hs'
  | issue_key id pairing player =>
    obtain ⟨said, row⟩ := sees
    simp only [accountExec, issue_key_step] at hs'
    split at hs'
    · exact refused s' hs'
    · rename_i session signed
      split at hs'
      · rename_i free
        rw [List.mem_singleton.mp hs']
        have rows : (accountExec srv (.issue_key id pairing player) o c.world).1.auth.secrets =
            c.world.auth.secrets ++
              [{ player_id := player.id, secret_hash := srv.hash o.secret }] := by
          simp only [accountExec, issue_key_step, signed, if_pos free]
        rintro done ⟨⟩
        refine ⟨⟨player.discord_id, said.mono sub, later.players.hasRow row⟩, ?_⟩
        rw [rows]
        exact ⟨_, List.mem_append_right _ (List.mem_singleton.mpr rfl), rfl, rfl⟩
      · exact refused s' hs'
  | finish id pairing outcome page => cases hs'
  | discord_poll id code => cases hs'
  | create_player id =>
    simp only [accountExec] at hs'
    repeat' split at hs'
    all_goals cases hs'

/-- A callback that lands with an error, or asks Discord, relies on nothing. -/
lemma callback_sees {srv tr w id} (q : DiscordCallback) :
    ∀ s ∈ q.body srv id, Sees srv tr w s := by
  intro s hs
  unfold DiscordCallback.body at hs
  dsimp only at hs
  repeat' split at hs
  all_goals rw [List.mem_singleton.mp hs]
  · rintro done ⟨⟩
  · rintro done ⟨⟩
  · rintro done ⟨⟩
  · trivial

lemma event_sees {srv : AccountServer} {tr w} (e : AccountEvent) :
    ∀ s ∈ e.body srv, Sees srv tr w s := by
  intro s hs
  cases e with
  | device e =>
    obtain ⟨s0, hs0, rfl⟩ := List.mem_map.mp hs
    cases e with
    | auth_challenge id =>
      rw [List.mem_singleton.mp hs0]
      trivial
    | request id req =>
      simp only [AuthEvent.body] at hs0
      simp only [AccountEvent.subject]
      split at hs0 <;> rename_i parsed <;> rw [List.mem_singleton.mp hs0]
      · change _ = _
        rw [parsed, Option.getD_some]
      · trivial
    | new_key row => cases hs0
    | pass elapsed => cases hs0
  | discord_callback id q => exact callback_sees q s hs
  | _ =>
    rw [List.mem_singleton.mp hs]
    trivial

/-- What comes from outside touches neither the tables nor the logins. -/
lemma event_frame {w : AccountWorld} {e : AccountEvent} (h : e.enabled w) :
    (e.apply w).players = w.players ∧ (e.apply w).login = w.login ∧
      (e.apply w).auth.secrets = w.auth.secrets := by
  cases e with
  | device e =>
    cases e with
    | new_key row => exact h.elim
    | _ => exact ⟨rfl, rfl, rfl⟩
  | _ => exact ⟨rfl, rfl, rfl⟩

lemma event_later {w : AccountWorld} {e : AccountEvent} (h : e.enabled w) : w.Later (e.apply w) := by
  obtain ⟨players, -, secrets⟩ := event_frame h
  exact ⟨players ▸ .refl _, secrets ▸ .refl _⟩

/-- Every run of a server over a sound database is sound. -/
theorem accounts_sound {srv db} (sound : Database.Sound db) {c : AccountSnapshot} {tr}
    (r : Run (accountMachine srv db) c tr) : AccountsSound srv c tr := by
  apply r.induct (I := AccountsSound srv)
  · refine ⟨sound.players, sound.keys, sound.owners, ?_, Holds.start _⟩
    rintro code p done ⟨⟩
  · intro c tr l c' _ h st
    cases st with
    | @run t s rest o e _ =>
      have sees := h.pending t s (e ▸ List.mem_cons_self)
      have later := accountExec_later srv s o c.world
      have sub : tr ⊆ .ran t s o c :: tr := List.subset_cons_self _ _
      refine ⟨(accountExec_players srv s o c.world).sound h.players sees,
        (accountExec_secrets srv s o c.world).nodup h.keys,
        (accountExec_secrets srv s o c.world).owners later.players h.owners sees, ?_, ?_⟩
      · intro code p done hp ok
        rcases accountExec_stored hp ok with ⟨id, page, rfl, -⟩ | ⟨q, hq, kept, -⟩
        · exact (sees done rfl).later sub later
        · exact (h.stored code q done hq kept).later sub later
      · have old : Holds (fun w _ s' => Sees srv (.ran t s o c :: tr) w s') c := by
          intro t' s' hs'
          exact (h.pending t' s' hs').later sub ⟨.refl _, .refl _⟩
        apply old.run e
        · exact fun _ _ _ holds => holds.later (List.Subset.refl _) later
        · exact accountExec_sees h e
    | @event e idle en =>
      obtain ⟨players, login, secrets⟩ := event_frame en
      have later := event_later en
      have sub : tr ⊆ .came e c :: tr := List.subset_cons_self _ _
      refine ⟨?_, ?_, ?_, ?_, ?_⟩
      · change (e.apply c.world).players.Sound
        rw [players]
        exact h.players
      · change ((e.apply c.world).auth.secrets.map _).Nodup
        rw [secrets]
        exact h.keys
      · change ∀ r ∈ (e.apply c.world).auth.secrets, ∃ snowflake,
          (e.apply c.world).players.HasRow r.player_id snowflake
        rw [secrets, players]
        exact h.owners
      · intro code p done hp ok
        change (e.apply c.world).login.logins.lookup code = some p at hp
        rw [login] at hp
        exact (h.stored code p done hp ok).later sub later
      · apply Holds.event (A := fun w _ s' => Sees srv (.came e c :: tr) w s')
        · intro t' s' hs'
          exact (h.pending t' s' hs').later sub ⟨.refl _, .refl _⟩
        · exact fun _ _ _ holds => holds.later (List.Subset.refl _) later
        · exact event_sees e

/-- What a run went through was no later than where it is. -/
lemma visited_later {srv db} {c : AccountSnapshot} {tr} (r : Run (accountMachine srv db) c tr) :
    ∀ s ∈ visited c tr, s.world.Later c.world := by
  apply r.induct (I := fun c tr => ∀ s ∈ visited c tr, s.world.Later c.world)
  · intro s hs
    rw [List.mem_singleton.mp hs]
    exact ⟨.refl _, .refl _⟩
  · intro c tr l c' _ ih st s hs
    have step : c.world.Later c'.world := by
      cases st with
      | run _ _ => exact accountExec_later ..
      | event _ en => exact event_later en
    rw [st.visited_cons] at hs
    rcases List.mem_cons.mp hs with rfl | hs
    · exact ⟨.refl _, .refl _⟩
    · have before := ih s hs
      exact ⟨before.players.trans step.players, before.secrets.trans step.secrets⟩

/-- A section that was run relied on what it sees. -/
lemma ran_sees {srv db} (sound : Database.Sound db) {c : AccountSnapshot} {tr}
    (r : Run (accountMachine srv db) c tr) {t s o pre} (h : .ran t s o pre ∈ tr) :
    Sees srv tr c.world s := by
  obtain ⟨rest, earlier, r', sub, e⟩ := r.ran_pending h
  have sees := (accounts_sound sound r').pending t s (e ▸ List.mem_cons_self)
  exact sees.later sub (visited_later r pre (pre_visited h))

/-- A login of the pairing code comes to its key, as the player. -/
def SignsIn (code : String) (player : Player) : AccountLabel → Prop
  | .ran _ (issue_key _ pairing p) _ _ => pairing = code ∧ p = player
  | _ => False

lemma signs_in_known {srv db} (sound : Database.Sound db) {c : AccountSnapshot} {tr}
    (r : Run (accountMachine srv db) c tr) {l code player} (hl : l ∈ tr)
    (signs : SignsIn code player l) : Confirmed srv tr code player.discord_id ∧
      c.world.players.HasRow player.id player.discord_id := by
  cases l with
  | came _ _ => exact signs.elim
  | ran t s o pre =>
    cases s with
    | issue_key id pairing p =>
      obtain ⟨rfl, rfl⟩ := signs
      exact ran_sees sound r hl
    | _ => exact signs.elim

/-- **One player for each snowflake.** However logins interleave, rows of the table are never lost and
never change their id or snowflake, and no two rows share one. A login signs in as the player of a
snowflake that Discord confirmed to a callback of its pairing code, and two logins sign in as one player
iff it was the same snowflake. -/
theorem one_player_per_snowflake {srv : AccountServer} {db : Database} (sound : db.Sound)
    {c : AccountSnapshot} {tr : List AccountLabel} (r : Run (accountMachine srv db) c tr) :
    (∀ s ∈ visited c tr, PlayerTable.Kept s.world.players c.world.players) ∧
    c.world.players.Sound ∧
    (∀ l ∈ tr, ∀ code player, SignsIn code player l →
      Confirmed srv tr code player.discord_id ∧
        c.world.players.HasRow player.id player.discord_id) ∧
    ∀ l ∈ tr, ∀ l' ∈ tr, ∀ code code' player player', SignsIn code player l →
      SignsIn code' player' l' → (player.id = player'.id ↔ player.discord_id = player'.discord_id) := by
  have table := (accounts_sound sound r).players
  refine ⟨fun s hs => (visited_later r s hs).players, table,
    fun l hl code player signs => signs_in_known sound r hl signs, ?_⟩
  intro l hl l' hl' code code' player player' signs signs'
  obtain ⟨-, row⟩ := signs_in_known sound r hl signs
  obtain ⟨-, row'⟩ := signs_in_known sound r hl' signs'
  exact table.hasRow_iff row row'

instance (code : String) (player : Player) (l : AccountLabel) :
    Decidable (SignsIn code player l) := by
  unfold SignsIn
  split <;> infer_instance

lemma empty_sound : Database.Sound {} where
  players := by constructor <;> (intro r hr; cases hr)
  keys := List.nodup_nil
  owners := by intro r hr; cases hr

/-- Two first logins of one snowflake race, one of them fails, and a third, under other names, is the
same player. -/
theorem one_player_per_snowflake_raced : ∃ c tr l l' player player',
    Run (accountMachine sampleAccounts {}) c tr ∧ l ∈ tr ∧ l' ∈ tr ∧ SignsIn "code2" player l ∧
    SignsIn "code3" player' l' ∧ player.id = player'.id := by
  let player : Player := ⟨"player2", "123456789012345678", "reimu_h", "Reimu"⟩
  let player' := { player with discord_username := "marisa_k" }
  let ms := racingLogins ++ loginGoesOn 2 reimu "2" 1 ++ loginBegins 3 "3" ++
    loginGoesOn 3 renamed "3" 4
  have h : ((accountMachine sampleAccounts {}).follow ms).any fun x =>
      x.2.any (fun l => SignsIn "code2" player l) && x.2.any fun l => SignsIn "code3" player' l := by
    decide
  obtain ⟨c, tr, r, ht, -⟩ := Machine.follow_reaches h
  obtain ⟨first, second⟩ := (Bool.and_eq_true _ _).mp ht
  obtain ⟨l, hl, signs⟩ := List.any_eq_true.mp first
  obtain ⟨l', hl', signs'⟩ := List.any_eq_true.mp second
  have signs := of_decide_eq_true signs
  have signs' := of_decide_eq_true signs'
  obtain ⟨-, -, -, one⟩ := one_player_per_snowflake empty_sound r
  exact ⟨c, tr, l, l', player, player', r, hl, hl', signs, signs',
    (one l hl l' hl' _ _ _ _ signs signs').mpr rfl⟩

end RecompNet.Auth
