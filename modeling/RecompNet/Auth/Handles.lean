import RecompNet.Auth.DeviceKeys

/-!
# Whose choice a handle is

A login refreshes the names that Discord gives and leaves the handle alone; only a request that proves a
key stores another one. Over every interleaving a player's handle is therefore the last one that the
player chose, or the one of the first login.
-/

namespace RecompNet.Auth

open Interleave AccountSection

/-- The handle that a step stores for the player. -/
def storesHandle (u : String) : AccountLabel → Option String
  | .ran _ (device (.store_handle _ name) u') o _ => if o.db_ok && u' = u then some name else none
  | _ => none

/-- The handles that were stored for the player, the latest first. -/
def storedHandles (u : String) (tr : List AccountLabel) : List String :=
  tr.filterMap (storesHandle u)

/-- The handle that the player started with: that of the database, or that of the first login. -/
def Starts (srv : AccountServer) (db : Database) (tr : List AccountLabel) (u h : String) : Prop :=
  (∃ r ∈ db.players, r.id = u ∧ r.netplay_handle = some h) ∨
    ∃ t id pairing p o pre, .ran t (insert_player id pairing p) o pre ∈ tr ∧ o.uuid = u ∧
      h = Identity.default_handle_for srv.apply p

/-- The handle is the last one that was stored, or else the first. -/
def Current (srv : AccountServer) (db : Database) (tr : List AccountLabel) (u h : String) : Prop :=
  (storedHandles u tr = [] → Starts srv db tr u h) ∧
    ∀ h' rest, storedHandles u tr = h' :: rest → h = h'

lemma Starts.cons {srv db tr u h} (l : AccountLabel) (starts : Starts srv db tr u h) :
    Starts srv db (l :: tr) u h := by
  rcases starts with stored | ⟨t, id, pairing, p, o, pre, hl, rest⟩
  · exact .inl stored
  · exact .inr ⟨t, id, pairing, p, o, pre, List.mem_cons_of_mem _ hl, rest⟩

lemma storedHandles_cons (u : String) (l : AccountLabel) (tr : List AccountLabel) :
    storedHandles u (l :: tr) = (storesHandle u l).toList ++ storedHandles u tr := by
  unfold storedHandles
  rw [List.filterMap_cons]
  cases storesHandle u l <;> rfl

/-- A step that stores no handle of the player leaves the current one. -/
lemma Current.keep {srv db tr u h} {l : AccountLabel} (now : Current srv db tr u h)
    (idle : storesHandle u l = none) : Current srv db (l :: tr) u h := by
  unfold Current
  rw [storedHandles_cons, idle]
  exact ⟨fun none_stored => (now.1 none_stored).cons l, now.2⟩

lemma Current.stored {srv db tr u h} {l : AccountLabel} (stores : storesHandle u l = some h) :
    Current srv db (l :: tr) u h := by
  unfold Current
  rw [storedHandles_cons, stores]
  constructor
  · rintro ⟨⟩
  · rintro h' rest ⟨⟩
    rfl

/-- What stores a handle is `store_handle`, for the player that it is about. -/
lemma storesHandle_some {u name} {l : AccountLabel} (h : storesHandle u l = some name) :
    ∃ t id o pre, l = .ran t (device (.store_handle id name) u) o pre ∧ o.db_ok = true := by
  cases l with
  | came _ _ => cases h
  | ran t s o pre =>
    cases s with
    | device s u' =>
      cases s with
      | store_handle id name' =>
        simp only [storesHandle] at h
        split at h
        · rename_i his
          obtain ⟨ok, own⟩ := (Bool.and_eq_true _ _).mp his
          cases h
          cases of_decide_eq_true own
          exact ⟨t, id, o, pre, rfl, ok⟩
        · cases h
      | _ => cases h
    | _ => cases h

/-- A linked row after a section: an old one with the handle that the section stores, if any, or a new
one with the handle of a first login. -/
lemma accountExec_handle {srv o t} {c : AccountSnapshot} {tr s} (sees : Sees srv tr c.world s) {row}
    (h : row ∈ (accountExec srv s o c.world).1.players) (linked : row.discord_id.isSome) :
    (∃ old ∈ c.world.players, old.id = row.id ∧ old.discord_id = row.discord_id ∧
      row.netplay_handle = (storesHandle row.id (.ran t s o c)).or old.netplay_handle) ∨
    ∃ id pairing p, s = insert_player id pairing p ∧ o.uuid = row.id ∧
      row.netplay_handle = some (Identity.default_handle_for srv.apply p) ∧
      ∀ old ∈ c.world.players, old.id ≠ row.id := by
  -- A row that a section leaves with its handle, when the section stores none.
  have unchanged (idle : storesHandle row.id (.ran t s o c) = none) {old : PlayerRecord}
      (hold : old ∈ c.world.players) (id : row.id = old.id) (discord : row.discord_id = old.discord_id)
      (handle : row.netplay_handle = old.netplay_handle) :
      ∃ old ∈ c.world.players, old.id = row.id ∧ old.discord_id = row.discord_id ∧
        row.netplay_handle = (storesHandle row.id (.ran t s o c)).or old.netplay_handle :=
    ⟨old, hold, id.symm, discord.symm, by rw [idle, Option.none_or, handle]⟩
  cases stores : storesHandle row.id (.ran t s o c) with
  | some name =>
    obtain ⟨t', id, o', pre, same, ok⟩ := storesHandle_some stores
    cases same
    have table : (accountExec srv (device (.store_handle id name) row.id) o c.world).1.players =
        if o.db_ok then c.world.players.update (·.id = row.id) (setHandle name)
        else c.world.players := rfl
    rw [table, if_pos ok] at h
    obtain ⟨old, hold, e, own, discord⟩ := (setHandle_edit name).from_old h
    refine .inl ⟨old, hold, own.symm, discord.symm, ?_⟩
    rw [if_pos (decide_eq_true own.symm)] at e
    rw [e]
    rfl
  | none =>
    rw [stores] at unchanged
    have step := accountExec_players srv s o c.world
    generalize hps : (accountExec srv s o c.world).1.players = ps at step h
    cases step with
    | same => exact .inl (unchanged rfl h rfl rfl rfl)
    | @store_handle id name u ok =>
      obtain ⟨old, hold, e, own, discord⟩ := (setHandle_edit name).from_old h
      refine .inl (unchanged rfl hold own discord ?_)
      have other : old.id ≠ u := by
        rintro rfl
        simp [storesHandle, ok, own] at stores
      rw [if_neg (by simpa using other)] at e
      rw [e]
    | refresh_names =>
      obtain ⟨old, hold, e, own, discord⟩ := (setNames_edit _).from_old h
      refine .inl (unchanged rfl hold own discord ?_)
      rw [e]
      split <;> rfl
    | fill_handle => exact sees.elim
    | insert_player into =>
      obtain ⟨rfl, apart⟩ := PlayerTable.insert_some into
      rcases List.mem_append.mp h with old | new
      · exact .inl (unchanged rfl old rfl rfl rfl)
      · cases List.mem_singleton.mp new
        exact .inr ⟨_, _, _, rfl, rfl, rfl, fun old hold => (apart old hold).1⟩
    | create_player into =>
      obtain ⟨rfl, apart⟩ := PlayerTable.insert_some into
      rcases List.mem_append.mp h with old | new
      · exact .inl (unchanged rfl old rfl rfl rfl)
      · cases List.mem_singleton.mp new
        cases linked

/-- A handle was only stored for a player that has a row. -/
lemma stored_has_row {srv db} (sound : Database.Sound db) {c : AccountSnapshot} {tr}
    (r : Run (accountMachine srv db) c tr) {u} (h : storedHandles u tr ≠ []) :
    ∃ snowflake, c.world.players.HasRow u snowflake := by
  obtain ⟨name, hn⟩ := List.exists_mem_of_ne_nil _ h
  obtain ⟨l, hl, stores⟩ := List.mem_filterMap.mp hn
  obtain ⟨t, id, o, pre, rfl, -⟩ := storesHandle_some stores
  exact (ran_sees sound r hl).2

/-- Every linked player has the current handle. -/
lemma handles_current {srv db} (sound : Database.Sound db) {c : AccountSnapshot} {tr}
    (r : Run (accountMachine srv db) c tr) :
    ∀ row ∈ c.world.players, row.discord_id.isSome →
      ∃ h, row.netplay_handle = some h ∧ Current srv db tr row.id h := by
  apply r.induct (I := fun c tr => ∀ row ∈ c.world.players, row.discord_id.isSome →
    ∃ h, row.netplay_handle = some h ∧ Current srv db tr row.id h)
  · intro row hrow linked
    have shown := sound.players.linked row hrow linked
    cases e : row.netplay_handle with
    | none =>
      rw [e] at shown
      cases shown
    | some h =>
      refine ⟨h, rfl, fun _ => .inl ⟨row, hrow, rfl, e⟩, ?_⟩
      rintro h' rest ⟨⟩
  · intro c tr l c' r ih st row hrow linked
    cases st with
    | @run t s rest o e _ =>
      have sees := (accounts_sound sound r).pending t s (e ▸ List.mem_cons_self)
      rcases accountExec_handle (t := t) sees hrow linked with ⟨old, hold, id, discord, handle⟩ |
        ⟨id, pairing, p, rfl, own, handle, new⟩
      · obtain ⟨h, now, current⟩ := ih old hold (discord ▸ linked)
        rw [id] at current
        rw [now] at handle
        cases stores : storesHandle row.id (.ran t s o c) with
        | none =>
          rw [stores] at handle
          exact ⟨h, handle, current.keep stores⟩
        | some name =>
          rw [stores] at handle
          exact ⟨name, handle, .stored stores⟩
      · -- A row that was just made had no handle stored before.
        have none_stored : storedHandles row.id tr = [] := by
          by_contra some_stored
          obtain ⟨snowflake, old, hold, same, -⟩ := stored_has_row sound r some_stored
          exact new old hold same
        refine ⟨_, handle, ?_⟩
        unfold Current
        rw [storedHandles_cons, none_stored]
        refine ⟨fun _ => .inr ⟨t, id, pairing, p, o, c, List.mem_cons_self, own, rfl⟩, ?_⟩
        rintro h' rest ⟨⟩
    | @event e _ en =>
      change row ∈ (e.apply c.world).players at hrow
      rw [(event_frame en).1] at hrow
      obtain ⟨h, now, current⟩ := ih row hrow linked
      exact ⟨h, now, current.keep rfl⟩

/-- **A handle is its player's choice.** Every player with a snowflake has a handle, which is the last one
stored for the player, or the one it started with. A handle is stored only for a request that asked for
it, that the name gate passed and that a live key of that player proved; so neither a rename on Discord
nor logins that race change it. -/
theorem handle_is_chosen {srv : AccountServer} {db : Database} (sound : db.Sound)
    {c : AccountSnapshot} {tr : List AccountLabel} (r : Run (accountMachine srv db) c tr) :
    (∀ row ∈ c.world.players, row.discord_id.isSome →
      ∃ h, row.netplay_handle = some h ∧ Shown h ∧ Current srv db tr row.id h) ∧
    ∀ later l earlier, tr = later ++ l :: earlier → ∀ u h, storesHandle u l = some h →
      ∃ id, ∃ req : HandleReq, Proven srv earlier id (.set_handle req) u ∧
        Names.acceptable srv.apply (some req.handle) = some h := by
  constructor
  · intro row hrow linked
    obtain ⟨h, now, current⟩ := handles_current sound r row hrow linked
    refine ⟨h, now, ?_, current⟩
    have shown := (accounts_sound sound r).players.linked row hrow linked
    rw [now] at shown
    exact shown_nonempty.mp shown
  · intro later l earlier e u h stores
    obtain ⟨t, id, o, pre, rfl, -⟩ := storesHandle_some stores
    obtain ⟨-, req, proven, passed⟩ := ran_behind r e
    exact ⟨id, req, proven, passed⟩

/-- Reimu takes another handle, and keeps it through a login under other names. -/
theorem handle_is_chosen_renamed : ∃ c tr row, Run (accountMachine sampleAccounts {}) c tr ∧
    row ∈ c.world.players ∧ row.discord_username = some "marisa_k" ∧
    row.netplay_handle = some "Red White" ∧ Current sampleAccounts {} tr row.id "Red White" := by
  let proof := reimuProof false
  let ms := polledLogin ++
    deviceAsks (.set_handle ⟨proof.player_id, proof.nonce, proof.proof, "Red White"⟩) 6 ++
    loginBegins 3 "3" ++ loginGoesOn 3 renamed "3" 3
  let row : PlayerRecord :=
    ⟨"player1", some reimu.id, some "marisa_k", some "Marisa", some "Red White"⟩
  have h : ((accountMachine sampleAccounts {}).follow ms).any fun x => row ∈ x.1.world.players := by
    decide
  obtain ⟨c, tr, r, ht, -⟩ := Machine.follow_reaches h
  have hrow := of_decide_eq_true ht
  obtain ⟨every, -⟩ := handle_is_chosen empty_sound r
  obtain ⟨h, now, -, current⟩ := every row hrow rfl
  cases now
  exact ⟨c, tr, row, r, hrow, rfl, rfl, current⟩

end RecompNet.Auth