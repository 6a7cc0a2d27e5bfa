import RecompNet.Auth.Logins

/-!
# What a device key opens

What stands behind an answer to a device request, over every interleaving with logins and with other
requests: a check at which a live key of that player gave the proof, and behind the key a login that
Discord confirmed. A handle changes and a key is revoked only so, and a revoked key opens nothing ever
after.
-/

namespace RecompNet.Auth

open Interleave AccountSection

/-! ## What stands behind a section -/

/-- The request of that number, about the player. -/
def Asks (srv : AccountServer) (tr : List AccountLabel) (id : Nat) (req : AuthRequest) (u : String) :
    Prop :=
  (∃ pre, .came (.device (.request id req)) pre ∈ tr) ∧ srv.parse_uuid req.player_id = some u

/-- A check of the request finds that a live key of the player gives the proof. -/
def Proves (srv : AccountServer) (id : Nat) (req : AuthRequest) (u key : String) :
    AccountLabel → Prop
  | .ran _ (device (.verify_proof i req' u') _) o pre
  | .ran _ (device (.revoke_by_proof i req' u') _) o pre => (i = id ∧ req' = req ∧ u' = u) ∧
      o.db_ok = true ∧ key ∈ liveKeys pre.world.auth.secrets u ∧
        req.provenBy srv.toAuthServer key = true
  | _ => False

/-- The request asked, and a check proved it. -/
def Proven (srv : AccountServer) (tr : List AccountLabel) (id : Nat) (req : AuthRequest)
    (u : String) : Prop :=
  Asks srv tr id req u ∧ ∃ key, ∃ l ∈ tr, Proves srv id req u key l

/-- Is the request one for all keys, if it revokes any? -/
def AuthRequest.whole : AuthRequest → Prop
  | session_from_secret _ | set_handle _ => True
  | revoke_secret req => req.all = true

/-- What stands behind an answer that lets the player in. -/
def Reply.behind (u : String) (P : Prop) : Reply → Prop
  | session_issued _ u' _ => u' = u ∧ P
  | handle _ => P
  | revoked n => n = 0 ∨ P
  | challenge_issued _ | error .. => True

/-- What stands behind a section of a request about the player `u`. -/
def AuthSection.behind (srv : AccountServer) (tr : List AccountLabel) (u : String) :
    AuthSection → Prop
  | .issue _ => True
  | .spend_nonce id req _ => Asks srv tr id req u
  | .verify_proof id req _ => Asks srv tr id req u ∧ req.whole
  | .touch_key id req _ | .load_player id req _ => Proven srv tr id req u ∧ req.whole
  | .store_handle id name => ∃ req : HandleReq, Proven srv tr id (.set_handle req) u ∧
      Names.acceptable srv.apply (some req.handle) = some name
  | .revoke_all id _ => ∃ req : ProofReq, req.all = true ∧ Proven srv tr id (.revoke_secret req) u
  | .revoke_by_proof id req _ => Asks srv tr id req u
  | .revoke_key id key => ∃ req, Asks srv tr id req u ∧ ∃ l ∈ tr, Proves srv id req u key l
  | .respond id reply => reply.behind u (∃ req, Proven srv tr id req u)

section Mono

variable {srv : AccountServer} {tr tr' : List AccountLabel} {id : Nat} {req : AuthRequest}
  {u : String} (sub : tr ⊆ tr')

include sub

lemma Asks.mono (h : Asks srv tr id req u) : Asks srv tr' id req u := by
  obtain ⟨⟨pre, came⟩, parsed⟩ := h
  exact ⟨⟨pre, sub came⟩, parsed⟩

lemma Proven.mono (h : Proven srv tr id req u) : Proven srv tr' id req u := by
  obtain ⟨asks, key, l, hl, proves⟩ := h
  exact ⟨asks.mono sub, key, l, sub hl, proves⟩

lemma behind_mono {s : AuthSection} (h : s.behind srv tr u) : s.behind srv tr' u := by
  cases s with
  | issue id => trivial
  | spend_nonce id req u' => exact Asks.mono sub h
  | verify_proof id req u' => exact ⟨h.1.mono sub, h.2⟩
  | touch_key id req u' => exact ⟨h.1.mono sub, h.2⟩
  | load_player id req u' => exact ⟨h.1.mono sub, h.2⟩
  | store_handle id name =>
    obtain ⟨req, proven, passed⟩ := h
    exact ⟨req, proven.mono sub, passed⟩
  | revoke_all id u' =>
    obtain ⟨req, all, proven⟩ := h
    exact ⟨req, all, proven.mono sub⟩
  | revoke_by_proof id req u' => exact Asks.mono sub h
  | revoke_key id key =>
    obtain ⟨req, asks, l, hl, proves⟩ := h
    exact ⟨req, asks.mono sub, l, sub hl, proves⟩
  | respond id reply =>
    cases reply with
    | session_issued session u' player =>
      obtain ⟨own, req, proven⟩ := h
      exact ⟨own, req, proven.mono sub⟩
    | handle name =>
      obtain ⟨req, proven⟩ := h
      exact ⟨req, proven.mono sub⟩
    | revoked n =>
      rcases h with none_revoked | ⟨req, proven⟩
      · exact .inl none_revoked
      · exact .inr ⟨req, proven.mono sub⟩
    | challenge_issued nonce => trivial
    | error status code => trivial

end Mono

/-- What a device section starts has behind it what the section has, or what its check found. -/
lemma exec_behind {srv : AccountServer} {c : AccountSnapshot} {tr t s u o}
    (about : s.about u) (h : s.behind srv tr u) :
    ∀ s' ∈ (exec srv.toAuthServer s (o.device c.world u) c.world.auth).2,
      s'.behind srv (.ran t (device s u) o c :: tr) u := by
  have sub : tr ⊆ .ran t (device s u) o c :: tr := List.subset_cons_self _ _
  intro s' hs'
  cases s with
  | issue id =>
    rw [List.mem_singleton.mp hs']
    trivial
  | spend_nonce id req u' =>
    cases about
    simp only [exec, spend_nonce_step] at hs'
    split at hs'
    · rw [List.mem_singleton.mp hs']
      trivial
    · split at hs'
      · split at hs' <;> rename_i all <;> rw [List.mem_singleton.mp hs']
        · exact ⟨Asks.mono sub h, all⟩
        · exact Asks.mono sub h
      · rename_i other
        rw [List.mem_singleton.mp hs']
        refine ⟨Asks.mono sub h, ?_⟩
        cases req with
        | revoke_secret r => exact absurd rfl (other r)
        | _ => trivial
  | verify_proof id req u' =>
    cases about
    simp only [exec, verify_proof_step] at hs'
    split at hs' <;> rename_i checked <;> rw [List.mem_singleton.mp hs']
    · obtain ⟨ok, found⟩ := (Bool.and_eq_true _ _).mp checked
      obtain ⟨key, live, proof⟩ := List.any_eq_true.mp found
      refine ⟨⟨h.1.mono sub, key, _, List.mem_cons_self, ?_⟩, h.2⟩
      exact ⟨⟨rfl, rfl, rfl⟩, ok, live, proof⟩
    · trivial
  | touch_key id req u' =>
    cases about
    rw [List.mem_singleton.mp hs']
    split
    · exact ⟨h.1.mono sub, h.2⟩
    · trivial
  | load_player id req u' =>
    cases about
    obtain ⟨proven, whole⟩ := h
    have proven := proven.mono sub
    simp only [exec] at hs'
    split at hs'
    · simp only [proven_step] at hs'
      split at hs'
      · split at hs' <;> rw [List.mem_singleton.mp hs']
        · exact ⟨rfl, _, proven⟩
        · trivial
      · split at hs' <;> rename_i passed <;> rw [List.mem_singleton.mp hs']
        · exact ⟨_, proven, passed⟩
        · trivial
      · rw [List.mem_singleton.mp hs']
        exact ⟨_, whole, proven⟩
    · rw [List.mem_singleton.mp hs']
      trivial
  | store_handle id name =>
    obtain ⟨req, proven, -⟩ := h
    rw [List.mem_singleton.mp hs']
    split
    · exact ⟨_, proven.mono sub⟩
    · trivial
  | revoke_all id u' =>
    obtain ⟨req, -, proven⟩ := h
    simp only [exec] at hs'
    split at hs' <;> rw [List.mem_singleton.mp hs']
    · exact .inr ⟨_, proven.mono sub⟩
    · trivial
  | revoke_by_proof id req u' =>
    cases about
    simp only [exec, revoke_by_proof_step] at hs'
    split at hs'
    · rw [List.mem_singleton.mp hs']
      trivial
    · rename_i ok
      split at hs' <;> rename_i found <;> rw [List.mem_singleton.mp hs']
      · have ok : o.db_ok = true := by simpa [AccountAnswer.device] using ok
        refine ⟨req, Asks.mono sub h, _, List.mem_cons_self, ⟨rfl, rfl, rfl⟩, ok, ?_, ?_⟩
        · exact List.mem_of_find?_eq_some found
        · exact List.find?_some found
      · exact .inl rfl
  | revoke_key id key =>
    obtain ⟨req, asks, l, hl, proves⟩ := h
    simp only [exec] at hs'
    split at hs' <;> rw [List.mem_singleton.mp hs']
    · exact .inr ⟨req, asks.mono sub, key, l, sub hl, proves⟩
    · trivial
  | respond id reply => cases hs'

/-- What stands behind the sections and the answers of a run. -/
structure Grounded (srv : AccountServer) (c : AccountSnapshot) (tr : List AccountLabel) : Prop where
  pending : Holds (fun _ _ s => ∀ s0 u, s = device s0 u → s0.about u ∧ s0.behind srv tr u) c
  replies : ∀ id reply, (id, reply) ∈ c.world.auth.replies →
    ∃ u, reply.behind u (∃ req, Proven srv tr id req u)

lemma reply_behind_mono {srv : AccountServer} {tr tr' : List AccountLabel} {id u} {reply : Reply}
    (sub : tr ⊆ tr') (h : reply.behind u (∃ req, Proven srv tr id req u)) :
    reply.behind u (∃ req, Proven srv tr' id req u) :=
  behind_mono (s := .respond id reply) sub h

/-- A request has its own number, player and nothing else behind it. -/
lemma event_behind {srv : AccountServer} {tr c} (e : AccountEvent) :
    ∀ s ∈ e.body srv, ∀ s0 u, s = device s0 u →
      s0.about u ∧ s0.behind srv (.came e c :: tr) u := by
  intro s hs s0 u own
  subst own
  cases e with
  | device e =>
    obtain ⟨s1, hs1, same⟩ := List.mem_map.mp hs
    cases same
    cases e with
    | auth_challenge id =>
      rw [List.mem_singleton.mp hs1]
      exact ⟨trivial, trivial⟩
    | request id req =>
      simp only [AuthEvent.body] at hs1
      simp only [AccountEvent.subject]
      split at hs1 <;> rename_i parsed <;> rw [List.mem_singleton.mp hs1, parsed]
      · exact ⟨rfl, ⟨c, List.mem_cons_self⟩, parsed⟩
      · exact ⟨trivial, trivial⟩
    | new_key row => cases hs1
    | pass elapsed => cases hs1
  | discord_callback id q => exact absurd hs callback_device
  | _ => cases List.mem_singleton.mp hs

/-- The answers to the device requests come from their own sections. -/
lemma accountExec_replies {srv s o w id reply}
    (h : (id, reply) ∈ (accountExec srv s o w).1.auth.replies) :
    (id, reply) ∈ w.auth.replies ∨ ∃ u, s = device (.respond id reply) u := by
  cases s with
  | device s0 u =>
    rcases exec_replies h with old | rfl
    · exact .inl old
    · exact .inr ⟨u, rfl⟩
  | finish id' pairing outcome page => exact .inl h
  | discord_poll id' code => exact .inl h
  | issue_key id' pairing player =>
    simp only [accountExec, issue_key_step] at h
    repeat' split at h
    all_goals exact .inl h
  | _ =>
    simp only [accountExec] at h
    repeat' split at h
    all_goals exact .inl h

lemma run_grounded {srv db} {c : AccountSnapshot} {tr} (r : Run (accountMachine srv db) c tr) :
    Grounded srv c tr := by
  apply r.induct (I := Grounded srv)
  · refine ⟨Holds.start _, ?_⟩
    rintro id reply ⟨⟩
  · intro c tr l c' _ h st
    have sub : tr ⊆ l :: tr := List.subset_cons_self _ _
    have old : Holds (fun _ _ s => ∀ s0 u, s = device s0 u →
        s0.about u ∧ s0.behind srv (l :: tr) u) c := by
      intro t s hs s0 u own
      obtain ⟨about, behind⟩ := h.pending t s hs s0 u own
      exact ⟨about, behind_mono sub behind⟩
    cases st with
    | @run t s rest o e _ =>
      refine ⟨old.run e (fun _ _ _ holds => holds) ?_, ?_⟩
      · rintro s' hs' s0 u rfl
        obtain ⟨s1, rfl, hs0⟩ := accountExec_device hs'
        obtain ⟨about, behind⟩ := h.pending t _ (e ▸ List.mem_cons_self) s1 u rfl
        exact ⟨(exec_about about hs0).1, exec_behind about behind s0 hs0⟩
      · intro id reply hr
        rcases accountExec_replies hr with before | ⟨u, rfl⟩
        · obtain ⟨u, behind⟩ := h.replies id reply before
          exact ⟨u, reply_behind_mono sub behind⟩
        · obtain ⟨-, behind⟩ := h.pending t _ (e ▸ List.mem_cons_self) _ u rfl
          exact ⟨u, reply_behind_mono sub behind⟩
    | @event e _ en =>
      refine ⟨old.event (fun _ _ _ holds => holds) (event_behind e), ?_⟩
      intro id reply hr
      have before : (id, reply) ∈ c.world.auth.replies := by
        cases e with
        | device e => cases e <;> exact hr
        | _ => exact hr
      obtain ⟨u, behind⟩ := h.replies id reply before
      exact ⟨u, reply_behind_mono sub behind⟩

/-- What a section relies on when it is run. -/
lemma ran_behind {srv db} {c : AccountSnapshot} {tr later earlier}
    (r : Run (accountMachine srv db) c tr) {t s u o pre}
    (e : tr = later ++ .ran t (device s u) o pre :: earlier) :
    s.about u ∧ s.behind srv earlier u := by
  obtain ⟨r', c', st⟩ := r.pre_reached _ later earlier e
  cases st with
  | run hs _ => exact (run_grounded r').pending t _ (hs ▸ List.mem_cons_self) s u rfl

/-! ## Where a key comes from -/

/-- A login of the pairing code comes to its key, for the player. -/
def GivesKey (srv : AccountServer) (code : String) (player : Player) (key : String) :
    AccountLabel → Prop
  | .ran _ (issue_key _ pairing p) o _ => pairing = code ∧ p = player ∧ srv.hash o.secret = key
  | _ => False

lemma GivesKey.signsIn {srv code player key l} (h : GivesKey srv code player key l) :
    SignsIn code player l := by
  cases l with
  | came _ _ => exact h.elim
  | ran t s o pre =>
    cases s with
    | issue_key id pairing p => exact ⟨h.1, h.2.1⟩
    | _ => exact h.elim

/-- The player has been given the key in the trace. -/
def Given (srv : AccountServer) (tr : List AccountLabel) (u key : String) : Prop :=
  ∃ l ∈ tr, ∃ code player, GivesKey srv code player key l ∧ player.id = u

/-- A row after a step was there, or the step gave the key. -/
lemma step_given {srv db} {c c' : AccountSnapshot} {l} (st : Step (accountMachine srv db) c l c')
    {r} (hr : r ∈ c'.world.auth.secrets) :
    HasKey c.world.auth.secrets r.player_id r.secret_hash ∨
      ∃ code player, GivesKey srv code player r.secret_hash l ∧ player.id = r.player_id := by
  cases st with
  | @run t s rest o _ _ =>
    rcases (accountExec_secrets srv s o c.world).owner hr with ⟨r0, hr0, player, key⟩ |
      ⟨id, pairing, player, rfl, rfl⟩
    · exact .inl ⟨r0, hr0, player.symm, key.symm⟩
    · exact .inr ⟨pairing, player, ⟨rfl, rfl, rfl⟩, rfl⟩
  | @event e _ en =>
    have same := (event_frame en).2.2
    change r ∈ (e.apply c.world).auth.secrets at hr
    rw [same] at hr
    exact .inl ⟨r, hr, rfl, rfl⟩

/-- Every key was in the database when the server started, or was given by a login. -/
lemma keys_given {srv db} {c : AccountSnapshot} {tr} (r : Run (accountMachine srv db) c tr) :
    ∀ k ∈ c.world.auth.secrets,
      HasKey db.secrets k.player_id k.secret_hash ∨ Given srv tr k.player_id k.secret_hash := by
  apply r.induct (I := fun c tr => ∀ k ∈ c.world.auth.secrets,
    HasKey db.secrets k.player_id k.secret_hash ∨ Given srv tr k.player_id k.secret_hash)
  · exact fun k hk => .inl ⟨k, hk, rfl, rfl⟩
  · intro c tr l c' _ ih st k hk
    rcases step_given st hk with ⟨k0, hk0, player, key⟩ | ⟨code, p, gives, own⟩
    · rcases ih k0 hk0 with stored | ⟨l0, hl0, given⟩
      · rw [player, key] at stored
        exact .inl stored
      · rw [player, key] at given
        exact .inr ⟨l0, List.mem_cons_of_mem _ hl0, given⟩
    · exact .inr ⟨l, List.mem_cons_self, code, p, gives, own⟩

/-- A live key is a row that is not revoked. -/
lemma mem_liveKeys {rows : List SecretRow} {u key} : key ∈ liveKeys rows u ↔
    ∃ r ∈ rows, r.player_id = u ∧ r.secret_hash = key ∧ r.revoked = false := by
  unfold liveKeys
  simp only [List.mem_map, List.mem_filter, Bool.and_eq_true, decide_eq_true_eq,
    Bool.not_eq_true']
  constructor
  · rintro ⟨r, ⟨hr, player, live⟩, key⟩
    exact ⟨r, hr, player, key, live⟩
  · rintro ⟨r, hr, player, key, live⟩
    exact ⟨r, ⟨hr, player, live⟩, key⟩

lemma Proves.live {srv id req u key l} (h : Proves srv id req u key l) :
    key ∈ liveKeys l.pre.world.auth.secrets u := by
  cases l with
  | came _ _ => exact h.elim
  | ran t s o pre =>
    cases s with
    | device s u' =>
      cases s with
      | verify_proof i req' u' => exact h.2.2.1
      | revoke_by_proof i req' u' => exact h.2.2.1
      | _ => exact h.elim
    | _ => exact h.elim

/-- What stands behind an answer about the player: a check of the request at which a live key gave the
proof, and behind the key the database that the server started with, or an earlier login as the player of
a snowflake that Discord had confirmed. -/
def Vouched (srv : AccountServer) (db : Database) (tr : List AccountLabel) (id : Nat) (u : String) :
    Prop :=
  ∃ req key later l earlier, Asks srv tr id req u ∧ tr = later ++ l :: earlier ∧
    Proves srv id req u key l ∧
    (HasKey db.secrets u key ∨ ∃ g ∈ earlier, ∃ code player, GivesKey srv code player key g ∧
      player.id = u ∧ Confirmed srv earlier code player.discord_id ∧
        l.pre.world.players.HasRow u player.discord_id)

lemma Proven.vouched {srv : AccountServer} {db} (sound : Database.Sound db) {c : AccountSnapshot} {tr}
    (r : Run (accountMachine srv db) c tr) {id req u} (h : Proven srv tr id req u) :
    Vouched srv db tr id u := by
  obtain ⟨asks, key, l, hl, proves⟩ := h
  obtain ⟨later, earlier, e⟩ := List.append_of_mem hl
  obtain ⟨r', -⟩ := r.pre_reached l later earlier e
  refine ⟨req, key, later, l, earlier, asks, e, proves, ?_⟩
  obtain ⟨k, hk, rfl, rfl, -⟩ := mem_liveKeys.mp proves.live
  rcases keys_given r' k hk with stored | ⟨g, hg, code, player, gives, own⟩
  · exact .inl stored
  · obtain ⟨said, row⟩ := signs_in_known sound r' hg gives.signsIn
    rw [own] at row
    exact .inr ⟨g, hg, code, player, gives, own, said, row⟩

/-- **Device answers go back to Discord.** Whenever a device request is given a session, a handle or a
revocation, a live key of that player gave the proof of this very request, and the key goes back to a
login that Discord confirmed for the player's snowflake. -/
theorem device_answers_vouched {srv : AccountServer} {db : Database} (sound : db.Sound)
    {c : AccountSnapshot} {tr : List AccountLabel} (r : Run (accountMachine srv db) c tr) :
    ∀ id reply, (id, reply) ∈ c.world.auth.replies →
      ∃ u, reply.behind u (Vouched srv db tr id u) := by
  intro id reply hr
  obtain ⟨u, behind⟩ := (run_grounded r).replies id reply hr
  refine ⟨u, ?_⟩
  cases reply with
  | session_issued session u' player =>
    obtain ⟨own, req, proven⟩ := behind
    exact ⟨own, proven.vouched sound r⟩
  | handle name =>
    obtain ⟨req, proven⟩ := behind
    exact proven.vouched sound r
  | revoked n =>
    rcases behind with none_revoked | ⟨req, proven⟩
    · exact .inl none_revoked
    · exact .inr (proven.vouched sound r)
  | challenge_issued nonce => trivial
  | error status code => trivial

/-- A device that has Reimu's key is given a session for her. -/
theorem device_answers_vouched_reimu : ∃ c tr session player,
    Run (accountMachine sampleAccounts {}) c tr ∧
    (1, .session_issued session "player1" player) ∈ c.world.auth.replies ∧
    Vouched sampleAccounts {} tr 1 "player1" := by
  let reply : Reply := .session_issued "jwt" "player1" ⟨"Reimu", "reimu_h"⟩
  let ms := polledLogin ++ deviceAsks (.session_from_secret (reimuProof false)) 5
  have h : ((accountMachine sampleAccounts {}).follow ms).any fun x =>
      (1, reply) ∈ x.1.world.auth.replies := by decide
  obtain ⟨c, tr, r, ht, -⟩ := Machine.follow_reaches h
  have hr := of_decide_eq_true ht
  obtain ⟨u, rfl, vouched⟩ := device_answers_vouched empty_sound r 1 reply hr
  exact ⟨c, tr, _, _, r, hr, vouched⟩

/-! ## Revocation -/

/-- The world after a step. -/
def worldAfter (srv : AccountServer) : AccountLabel → AccountWorld
  | .ran _ s o pre => (accountExec srv s o pre.world).1
  | .came e pre => e.apply pre.world

lemma step_after {srv db} {c c' : AccountSnapshot} {l} (st : Step (accountMachine srv db) c l c') :
    c'.world = worldAfter srv l := by
  cases st <;> rfl

/-- What a run does after a step: rows are kept, and a key that is new was given. -/
lemma since_step {srv db} {c : AccountSnapshot} {tr} (r : Run (accountMachine srv db) c tr) :
    ∀ later l earlier, tr = later ++ l :: earlier → (worldAfter srv l).Later c.world ∧
      ∀ k ∈ c.world.auth.secrets,
        HasKey (worldAfter srv l).auth.secrets k.player_id k.secret_hash ∨
          Given srv later k.player_id k.secret_hash := by
  apply r.induct (I := fun c tr => ∀ later l earlier, tr = later ++ l :: earlier →
    (worldAfter srv l).Later c.world ∧ ∀ k ∈ c.world.auth.secrets,
      HasKey (worldAfter srv l).auth.secrets k.player_id k.secret_hash ∨
        Given srv later k.player_id k.secret_hash)
  · intro later l earlier e
    simp at e
  · intro c tr l' c' r ih st later l earlier e
    cases later with
    | nil =>
      obtain ⟨rfl, rfl⟩ := List.cons.inj e
      rw [step_after st]
      exact ⟨⟨.refl _, .refl _⟩, fun k hk => .inl ⟨k, hk, rfl, rfl⟩⟩
    | cons l'' later =>
      obtain ⟨rfl, e'⟩ := List.cons.inj e
      obtain ⟨before, known⟩ := ih later l earlier e'
      have step := visited_later (r.step st) c
        (List.mem_cons_of_mem _ (List.mem_map.mpr ⟨l', List.mem_cons_self, st.label_pre⟩))
      refine ⟨⟨before.players.trans step.players, before.secrets.trans step.secrets⟩, ?_⟩
      intro k hk
      rcases step_given st hk with ⟨k0, hk0, player, key⟩ | ⟨code, p, gives, own⟩
      · rcases known k0 hk0 with stored | ⟨g, hg, given⟩
        · rw [player, key] at stored
          exact .inl stored
        · rw [player, key] at given
          exact .inr ⟨g, List.mem_cons_of_mem _ hg, given⟩
      · exact .inr ⟨l', List.mem_cons_self, code, p, gives, own⟩

/-- The step revokes the row. -/
def Revokes (srv : AccountServer) (k : SecretRow) (l : AccountLabel) : Prop :=
  k ∈ l.pre.world.auth.secrets ∧ k.revoked = false ∧
    ∃ k' ∈ (worldAfter srv l).auth.secrets, k'.secret_hash = k.secret_hash ∧ k'.revoked = true

/-- Rows with one key are one row. -/
lemma one_row {rows : List SecretRow} (keys : (rows.map (·.secret_hash)).Nodup) {k k'}
    (hk : k ∈ rows) (hk' : k' ∈ rows) (same : k.secret_hash = k'.secret_hash) : k = k' :=
  List.inj_on_of_nodup_map keys hk hk' same

/-- A revoked key is not live again. -/
lemma revoked_not_live {w w' : AccountWorld} (later : w.Later w')
    (keys : (w'.auth.secrets.map (·.secret_hash)).Nodup) {k} (hk : k ∈ w.auth.secrets)
    (dead : k.revoked = true) (u : String) : k.secret_hash ∉ liveKeys w'.auth.secrets u := by
  intro live
  obtain ⟨k0, hk0, -, same, alive⟩ := mem_liveKeys.mp live
  obtain ⟨k1, hk1, -, key, stays⟩ := later.secrets k hk
  rw [one_row keys hk0 hk1 (same.trans key.symm), stays dead] at alive
  cases alive

/-- Only a request that proved a key of the same player revokes one: the key that it proved, unless it
asked for all. -/
lemma revokes_proven {srv db} (sound : Database.Sound db) {c : AccountSnapshot} {tr later l earlier}
    (r : Run (accountMachine srv db) c tr) (e : tr = later ++ l :: earlier) {k}
    (h : Revokes srv k l) : ∃ id req key, Asks srv earlier id req k.player_id ∧
      (∃ l' ∈ earlier, Proves srv id req k.player_id key l') ∧
      (key = k.secret_hash ∨ ∃ p, req = .revoke_secret p ∧ p.all = true) := by
  obtain ⟨hk, alive, k', hk', same, dead⟩ := h
  obtain ⟨r', c', st⟩ := r.pre_reached l later earlier e
  have keys := (accounts_sound sound r').keys
  have unchanged (hk' : k' ∈ l.pre.world.auth.secrets) : False := by
    rw [one_row keys hk' hk same, alive] at dead
    cases dead
  have chosen {which} (hk' : k' ∈ (revokeRows l.pre.world.auth.secrets which).1) : which k = true := by
    obtain ⟨k0, hk0, rfl⟩ := mem_revokeRows.mp hk'
    have own : k0.secret_hash = k.secret_hash := by
      split at same <;> exact same
    cases one_row keys hk0 hk own
    split at dead
    · assumption
    · rw [alive] at dead
      cases dead
  cases l with
  | came ev pre =>
    cases st with
    | event _ en =>
      have rows : (ev.apply pre.world).auth.secrets = pre.world.auth.secrets := (event_frame en).2.2
      change k' ∈ (ev.apply pre.world).auth.secrets at hk'
      rw [rows] at hk'
      exact (unchanged hk').elim
  | ran t s o pre =>
    have step := accountExec_secrets srv s o pre.world
    generalize hrows : (accountExec srv s o pre.world).1.auth.secrets = rows at step
    change k' ∈ (accountExec srv s o pre.world).1.auth.secrets at hk'
    rw [hrows] at hk'
    cases step with
    | same => exact (unchanged hk').elim
    | issue_key fresh =>
      rcases List.mem_append.mp hk' with old | new
      · exact (unchanged old).elim
      · cases List.mem_singleton.mp new
        cases dead
    | @revoke_all id u u' =>
      obtain ⟨about, req, all, asks, key, proves⟩ := ran_behind r e
      have own : k.player_id = u' := by
        have is_his := (Bool.and_eq_true _ _).mp (chosen hk')
        exact (of_decide_eq_true is_his.1).trans about
      rw [own]
      exact ⟨id, _, key, asks, proves, .inr ⟨req, rfl, all⟩⟩
    | @revoke_key id key u =>
      obtain ⟨-, req, asks, l', hl', proves⟩ := ran_behind r e
      have own_key : k.secret_hash = key := of_decide_eq_true (chosen hk')
      -- The row that the check saw is still there, so it is this one.
      obtain ⟨k0, hk0, player, key0, -⟩ := mem_liveKeys.mp proves.live
      have here : l'.pre ∈ visited pre earlier := pre_visited hl'
      obtain ⟨k1, hk1, player1, key1, -⟩ := (visited_later r' l'.pre here).secrets k0 hk0
      have one := one_row keys hk1 hk (key1.trans (key0.trans own_key.symm))
      have own : k.player_id = u := by rw [← one, player1, player]
      rw [own]
      exact ⟨id, req, key, asks, ⟨l', hl', proves⟩, .inl own_key.symm⟩

instance (srv : AccountServer) (k : SecretRow) (l : AccountLabel) : Decidable (Revokes srv k l) := by
  unfold Revokes
  infer_instance

end RecompNet.Auth
