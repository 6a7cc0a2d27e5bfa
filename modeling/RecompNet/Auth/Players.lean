import RecompNet.Auth.Accounts

/-!
# One player for each snowflake

What the sections do to the table of players, over every interleaving of logins: rows are only added and
keep their id and snowflake, two rows never share either, and a row that belongs to a Discord account
always has a handle. So a login is linked to the one row of its snowflake.
-/

namespace RecompNet.Auth

open Interleave AccountSection

abbrev AccountLabel := Label AccountWorld AccountSection AccountTid AccountAnswer AccountEvent

abbrev AccountSnapshot := Snapshot AccountWorld AccountSection AccountTid

/-! ## The table -/

namespace PlayerTable

/-- The player `id` has the snowflake. -/
def HasRow (ps : PlayerTable) (id snowflake : String) : Prop :=
  ∃ r ∈ ps, r.id = id ∧ r.discord_id = some snowflake

/-- A row has its own id, and its own snowflake if any. One with a snowflake has a handle that is not
blank, and one without has none. -/
structure Sound (ps : PlayerTable) : Prop where
  ids : ∀ r ∈ ps, ∀ r' ∈ ps, r.id = r'.id → r = r'
  snowflakes : ∀ r ∈ ps, ∀ r' ∈ ps, r.discord_id = r'.discord_id → r.discord_id.isSome → r = r'
  linked : ∀ r ∈ ps, r.discord_id.isSome → (Text.nonempty r.netplay_handle).isSome
  anonymous : ∀ r ∈ ps, r.discord_id = none → r.netplay_handle = none

/-- The rows of `ps` are still there, with their ids and snowflakes. -/
def Kept (ps ps' : PlayerTable) : Prop :=
  ∀ r ∈ ps, ∃ r' ∈ ps', r'.id = r.id ∧ r'.discord_id = r.discord_id

lemma Kept.refl (ps : PlayerTable) : Kept ps ps := fun r hr => ⟨r, hr, rfl, rfl⟩

lemma Kept.trans {ps ps' ps'' : PlayerTable} (h : Kept ps ps') (h' : Kept ps' ps'') :
    Kept ps ps'' := by
  intro r hr
  obtain ⟨r', hr', id, discord⟩ := h r hr
  obtain ⟨r'', hr'', id', discord'⟩ := h' r' hr'
  exact ⟨r'', hr'', id'.trans id, discord'.trans discord⟩

lemma Kept.hasRow {ps ps' : PlayerTable} (h : Kept ps ps') {id snowflake}
    (row : ps.HasRow id snowflake) : ps'.HasRow id snowflake := by
  obtain ⟨r, hr, rfl, own⟩ := row
  obtain ⟨r', hr', id, discord⟩ := h r hr
  exact ⟨r', hr', id, discord.trans own⟩

/-- In a sound table a snowflake has one id and an id has one snowflake. -/
lemma Sound.hasRow_iff {ps : PlayerTable} (h : ps.Sound) {id id' snowflake snowflake' : String}
    (row : ps.HasRow id snowflake) (row' : ps.HasRow id' snowflake') :
    id = id' ↔ snowflake = snowflake' := by
  obtain ⟨r, hr, rfl, own⟩ := row
  obtain ⟨r', hr', rfl, own'⟩ := row'
  constructor
  · intro e
    have same := h.ids r hr r' hr' e
    rw [same, own'] at own
    exact (Option.some.inj own).symm
  · intro e
    rw [h.snowflakes r hr r' hr' (by rw [own, own', e]) (by rw [own]; rfl)]

/-- A player that is loaded has a snowflake. -/
lemma Sound.loaded {ps : PlayerTable} (h : ps.Sound) {id : String}
    (some_row : (ps.load_player id).isSome) : ∃ snowflake, ps.HasRow id snowflake := by
  obtain ⟨row, e⟩ := Option.isSome_iff_exists.mp some_row
  obtain ⟨r, found, e⟩ := Option.bind_eq_some_iff.mp e
  have here := List.mem_of_find?_eq_some found
  have own : r.id = id := by simpa using List.find?_some found
  cases discord : r.discord_id with
  | some snowflake => exact ⟨snowflake, r, here, own, discord⟩
  | none =>
    rw [h.anonymous r here discord] at e
    cases e

/-- An update that leaves ids and snowflakes alone. -/
structure Edit (f : PlayerRecord → PlayerRecord) : Prop where
  id : ∀ r, (f r).id = r.id
  discord_id : ∀ r, (f r).discord_id = r.discord_id

section Update

variable {ps : PlayerTable} {which : PlayerRecord → Bool} {f : PlayerRecord → PlayerRecord}

lemma mem_update {r : PlayerRecord} :
    r ∈ ps.update which f ↔ ∃ r0 ∈ ps, r = if which r0 then f r0 else r0 := by
  unfold update
  rw [List.mem_map]
  exact exists_congr fun r0 => and_congr_right fun _ => eq_comm

/-- A row after an update has an old row's id and snowflake. -/
lemma Edit.from_old (e : Edit f) {r : PlayerRecord} (hr : r ∈ ps.update which f) :
    ∃ r0 ∈ ps, r = (if which r0 then f r0 else r0) ∧ r.id = r0.id ∧
      r.discord_id = r0.discord_id := by
  obtain ⟨r0, hr0, rfl⟩ := mem_update.mp hr
  refine ⟨r0, hr0, rfl, ?_⟩
  split
  · exact ⟨e.id r0, e.discord_id r0⟩
  · exact ⟨rfl, rfl⟩

lemma Edit.kept (e : Edit f) : Kept ps (ps.update which f) := by
  intro r hr
  refine ⟨_, mem_update.mpr ⟨r, hr, rfl⟩, ?_⟩
  split
  · exact ⟨e.id r, e.discord_id r⟩
  · exact ⟨rfl, rfl⟩

/-- An update of linked rows, to handles that are not blank, keeps a table sound. -/
lemma Sound.update (h : ps.Sound) (e : Edit f)
    (filled : ∀ r ∈ ps, which r → (f r).netplay_handle = r.netplay_handle ∨
      r.discord_id.isSome ∧ (Text.nonempty (f r).netplay_handle).isSome) :
    (ps.update which f).Sound where
  ids := by
    intro r hr r' hr' same
    obtain ⟨r0, hr0, rfl, id, -⟩ := e.from_old hr
    obtain ⟨r1, hr1, rfl, id', -⟩ := e.from_old hr'
    rw [h.ids r0 hr0 r1 hr1 (id.symm.trans (same.trans id'))]
  snowflakes := by
    intro r hr r' hr' same some_id
    obtain ⟨r0, hr0, rfl, -, discord⟩ := e.from_old hr
    obtain ⟨r1, hr1, rfl, -, discord'⟩ := e.from_old hr'
    rw [discord] at some_id same
    rw [h.snowflakes r0 hr0 r1 hr1 (same.trans discord') some_id]
  linked := by
    intro r hr some_id
    obtain ⟨r0, hr0, rfl, -, discord⟩ := e.from_old hr
    rw [discord] at some_id
    split
    · rename_i chosen
      rcases filled r0 hr0 chosen with same | ⟨-, nonblank⟩
      · rw [same]
        exact h.linked r0 hr0 some_id
      · exact nonblank
    · exact h.linked r0 hr0 some_id
  anonymous := by
    intro r hr none_id
    obtain ⟨r0, hr0, rfl, -, discord⟩ := e.from_old hr
    rw [discord] at none_id
    split
    · rename_i chosen
      rcases filled r0 hr0 chosen with same | ⟨linked, -⟩
      · rw [same]
        exact h.anonymous r0 hr0 none_id
      · rw [none_id] at linked
        cases linked
    · exact h.anonymous r0 hr0 none_id

end Update

section Insert

variable {ps ps' : PlayerTable} {row : PlayerRecord}

lemma insert_some (h : ps.insert row = some ps') :
    ps' = ps ++ [row] ∧ ∀ r ∈ ps, r.id ≠ row.id ∧
      (r.discord_id.isSome → r.discord_id ≠ row.discord_id) := by
  unfold PlayerTable.insert at h
  split at h
  · cases h
  · rename_i free
    cases h
    refine ⟨rfl, fun r hr => ?_⟩
    have apart : clashes row r = false := by
      rw [Bool.not_eq_true, List.any_eq_false] at free
      exact Bool.eq_false_iff.mpr (free r hr)
    simpa [clashes] using apart

lemma insert_kept (h : ps.insert row = some ps') : Kept ps ps' := by
  intro r hr
  rw [(insert_some h).1]
  exact ⟨r, List.mem_append_left _ hr, rfl, rfl⟩

/-- An insertion that goes through keeps a table sound. -/
lemma Sound.insert (h : ps.Sound) (into : ps.insert row = some ps')
    (linked : row.discord_id.isSome → (Text.nonempty row.netplay_handle).isSome)
    (anonymous : row.discord_id = none → row.netplay_handle = none) : ps'.Sound := by
  obtain ⟨rfl, apart⟩ := insert_some into
  constructor
  case ids =>
    intro r hr r' hr' same
    rcases List.mem_append.mp hr with old | new <;> rcases List.mem_append.mp hr' with old' | new'
    · exact h.ids r old r' old' same
    · rw [List.mem_singleton.mp new'] at same
      exact absurd same (apart r old).1
    · rw [List.mem_singleton.mp new] at same
      exact absurd same.symm (apart r' old').1
    · rw [List.mem_singleton.mp new, List.mem_singleton.mp new']
  case snowflakes =>
    intro r hr r' hr' same some_id
    rcases List.mem_append.mp hr with old | new <;> rcases List.mem_append.mp hr' with old' | new'
    · exact h.snowflakes r old r' old' same some_id
    · rw [List.mem_singleton.mp new'] at same
      exact absurd same ((apart r old).2 some_id)
    · rw [same] at some_id
      rw [List.mem_singleton.mp new] at same
      exact absurd same.symm ((apart r' old').2 some_id)
    · rw [List.mem_singleton.mp new, List.mem_singleton.mp new']
  case linked =>
    intro r hr
    rcases List.mem_append.mp hr with old | new
    · exact h.linked r old
    · rw [List.mem_singleton.mp new]
      exact linked
  case anonymous =>
    intro r hr
    rcases List.mem_append.mp hr with old | new
    · exact h.anonymous r old
    · rw [List.mem_singleton.mp new]
      exact anonymous

end Insert

end PlayerTable

/-! ## What a section does to the table -/

def setHandle (h : String) (r : PlayerRecord) : PlayerRecord := { r with netplay_handle := some h }

def setNames (p : Identity.DiscordProfile) (r : PlayerRecord) : PlayerRecord :=
  { r with discord_username := some p.username, discord_global_name := p.global_name }

lemma setHandle_edit (h : String) : PlayerTable.Edit (setHandle h) := ⟨fun _ => rfl, fun _ => rfl⟩

lemma setNames_edit (p : Identity.DiscordProfile) : PlayerTable.Edit (setNames p) :=
  ⟨fun _ => rfl, fun _ => rfl⟩

/-- What a section makes of the players. -/
inductive PlayersStep (srv : AccountServer) (o : AccountAnswer) (ps : PlayerTable) :
    AccountSection → PlayerTable → Prop where
  | same {s} : PlayersStep srv o ps s ps
  | store_handle {id h u} :
    o.db_ok = true →
    PlayersStep srv o ps (device (.store_handle id h) u) (ps.update (·.id = u) (setHandle h))
  | refresh_names {id pairing p u h} :
    PlayersStep srv o ps (refresh_names id pairing p u h)
      (ps.update (·.discord_id = some p.id) (setNames p))
  | fill_handle {id pairing p u} :
    PlayersStep srv o ps (fill_handle id pairing p u)
      (ps.update (·.discord_id = some p.id) (setHandle (Identity.default_handle_for srv.apply p)))
  | insert_player {id pairing p ps'} :
    ps.insert (newPlayer srv o.uuid p) = some ps' →
    PlayersStep srv o ps (insert_player id pairing p) ps'
  | create_player {id ps'} :
    ps.insert { id := o.uuid } = some ps' →
    PlayersStep srv o ps (create_player id) ps'

lemma accountExec_players (srv : AccountServer) (s : AccountSection) (o : AccountAnswer)
    (w : AccountWorld) : PlayersStep srv o w.players s (accountExec srv s o w).1.players := by
  cases s with
  | device s u =>
    cases s with
    | store_handle id h =>
      simp only [accountExec, device_step, devicePlayers]
      split
      · rename_i ok
        exact .store_handle ok
      · exact .same
    | _ => exact .same
  | discord_start id =>
    simp only [accountExec]
    split <;> exact .same
  | exchange id pairing code =>
    simp only [accountExec]
    split <;> exact .same
  | select_player id pairing p =>
    simp only [accountExec]
    repeat' split
    all_goals exact .same
  | refresh_names id pairing p u h =>
    simp only [accountExec]
    split
    · exact .same
    · split <;> exact .refresh_names
  | fill_handle id pairing p u =>
    simp only [accountExec]
    split
    · exact .same
    · exact .fill_handle
  | insert_player id pairing p =>
    simp only [accountExec]
    split
    · rename_i ps' e
      split at e
      · exact .insert_player e
      · cases e
    · exact .same
  | issue_key id pairing player =>
    simp only [accountExec, issue_key_step]
    repeat' split
    all_goals exact .same
  | finish id pairing outcome page => exact .same
  | discord_poll id code => exact .same
  | create_player id =>
    simp only [accountExec]
    split
    · exact .same
    · split
      · rename_i ps' e
        split at e
        · exact .create_player e
        · cases e
      · exact .same

/-- Rows are never lost. -/
lemma PlayersStep.kept {srv o ps s ps'} (h : PlayersStep srv o ps s ps') :
    PlayerTable.Kept ps ps' := by
  cases h with
  | same => exact .refl ps
  | store_handle => exact (setHandle_edit _).kept
  | refresh_names => exact (setNames_edit _).kept
  | fill_handle => exact (setHandle_edit _).kept
  | insert_player into => exact PlayerTable.insert_kept into
  | create_player into => exact PlayerTable.insert_kept into

/-! ## Handles -/

/-- A handle that is not blank. -/
def Shown (h : String) : Prop := h ≠ ""

lemma shown_nonempty {h : String} : (Text.nonempty (some h)).isSome ↔ Shown h := by
  simp [Text.nonempty, Option.filter, Shown]

/-- The name gate passes no blank name, so a new account has a handle. -/
lemma default_handle_shown (apply : String → String) (p : Identity.DiscordProfile) :
    Shown (Identity.default_handle_for apply p) := by
  unfold Identity.default_handle_for
  split
  · rename_i n hn
    exact (Identity.acceptable_tidy hn).1
  · split
    · rename_i n hn
      exact (Identity.acceptable_tidy hn).1
    · intro e
      have empty := congrArg String.toList e
      rw [String.toList_append] at empty
      cases (List.append_eq_nil_iff.mp empty).1

end RecompNet.Auth
