import RecompNet.Http.JoinCode

/-!
# Who gets into a room

The list of a game offers what a join would take, and nothing that it would refuse; and whoever sits
in a private room, its host apart, came in by offering the room's code.
-/

namespace RecompNet.Http

/-! ## The list and the door -/

/-- Whether a newcomer without a code gets in. -/
lemma join_newcomer {g : RoomRegistry} {id r p gid ver now} (here : g.rooms.lookup id = some r)
    (out : r.members.any (·.player_id = p) = false) :
    (∃ r', (g.join id p gid ver none now).1 = .ok r') ↔
      r.status = .Open ∧ r.game_id = gid ∧ r.client_version = ver ∧ r.admits none ∧
        r.members.length < r.slot_count := by
  unfold RoomRegistry.join
  rw [here]
  dsimp only
  constructor
  · rintro ⟨r', h⟩
    split_ifs at h with opened game version code member full
    exact ⟨not_not.mp opened, not_not.mp game, not_not.mp version, by simpa using code,
      not_le.mp full⟩
  · rintro ⟨opened, game, version, code, room⟩
    obtain ⟨s, -, -, -, found⟩ := exists_free_slot room
    rw [if_neg (not_not.mpr opened), if_neg (not_not.mpr game), if_neg (not_not.mpr version),
      if_neg (by simpa using code), if_neg (ne_true_of_eq_false out), if_neg (not_le.mpr room),
      found]
    exact ⟨_, rfl⟩

/-- Without a code only a public room lets anybody in. -/
lemma admits_none {r : Room} : r.admits none = !r.is_private := by
  unfold Room.admits
  cases r.join_code <;> simp

lemma mem_list_public {g : RoomRegistry} {gid cv} {x : RoomSummary} :
    x ∈ list_public g gid cv ↔ ∃ id r, g.rooms.lookup id = some r ∧ lists gid cv r ∧ x = .of r := by
  simp only [list_public, List.mem_map, List.mem_filter, Assoc.Map.mem_values]
  constructor
  · rintro ⟨r, ⟨⟨id, hr⟩, shown⟩, rfl⟩
    exact ⟨id, r, hr, shown, rfl⟩
  · rintro ⟨id, r, hr, shown, rfl⟩
    exact ⟨r, ⟨⟨id, hr⟩, shown⟩, rfl⟩

/-- **The list and the door agree.** In every registry that requests reach, a room is in the list of
a game and version exactly when a newcomer who asks with these and without a code gets in. -/
theorem listed_iff_joinable (cfg : RoomConfig) (evs : List RoomEvent) (gid ver id p : String)
    (now : Timestamp)
    (newcomer : ∀ r, (served cfg evs).rooms.lookup id = some r → p ∉ r.members.map (·.player_id)) :
    (∃ x ∈ list_public (served cfg evs) gid (some ver), x.room_id = id) ↔
      ∃ r, ((served cfg evs).join id p gid ver none now).1 = .ok r := by
  cases here : (served cfg evs).rooms.lookup id with
  | none =>
    constructor
    · rintro ⟨x, hx, own⟩
      obtain ⟨id', r, hr, -, rfl⟩ := mem_list_public.mp hx
      have filed := (served_filed cfg evs id' r hr).id
      rw [← own, RoomSummary.of, filed, hr] at here
      cases here
    · rintro ⟨r, h⟩
      simp only [RoomRegistry.join, here] at h
      cases h
  | some r =>
    have out : r.members.any (·.player_id = p) = false := by
      rw [List.any_eq_false]
      intro m hm
      have other : m.player_id ≠ p := fun e => newcomer r here (e ▸ List.mem_map_of_mem hm)
      simpa using other
    rw [join_newcomer here out, admits_none]
    constructor
    · rintro ⟨x, hx, own⟩
      obtain ⟨id', r', hr, shown, rfl⟩ := mem_list_public.mp hx
      have filed := (served_filed cfg evs id' r' hr).id
      rw [← own, RoomSummary.of, filed, hr] at here
      cases here
      simp only [lists, Bool.and_eq_true, decide_eq_true_eq, Option.all_some] at shown
      obtain ⟨⟨⟨⟨opened, pub⟩, game⟩, version⟩, room⟩ := shown
      exact ⟨opened, game, version.symm, pub, room⟩
    · rintro ⟨opened, game, version, pub, room⟩
      have filed := served_filed cfg evs id r here
      refine ⟨.of r, mem_list_public.mpr ⟨id, r, here, ?_, rfl⟩, filed.id⟩
      simp only [lists, Bool.and_eq_true, decide_eq_true_eq, Option.all_some]
      exact ⟨⟨⟨⟨opened, pub⟩, game⟩, version.symm⟩, room⟩

/-- A room that waits for a second player. -/
def openRoom : List RoomEvent :=
  [.request "reimu" 0 0 (.create_room { game_id := "th06", client_version := "1" } "r1" [])]

theorem listed_iff_joinable_open :
    (∃ x ∈ list_public (served { protocol_magic := 1 } openRoom) "th06" (some "1"),
      x.room_id = "r1") ↔
    ∃ r, ((served { protocol_magic := 1 } openRoom).join "r1" "marisa" "th06" "1" none 1).1 =
      .ok r := by
  apply listed_iff_joinable
  intro r h
  cases h
  decide

/-! ## Private rooms -/

/-- Somebody asked in this run to join the room with this code. -/
def Offered (evs : List RoomEvent) (id p : String) (code : Option String) : Prop :=
  ∃ beat now body, RoomEvent.request p beat now (.join_room id body) ∈ evs ∧ body.join_code = code

/-- Everybody in a private room but its host offered its code. -/
def Told (evs : List RoomEvent) (id : String) (r : Room) : Prop :=
  r.is_private → ∀ m ∈ r.members, m.player_id ≠ r.host_player_id →
    Offered evs id m.player_id r.join_code

lemma Told.later {evs id r} (h : Told evs id r) (e : RoomEvent) : Told (evs ++ [e]) id r := by
  intro priv m hm guest
  obtain ⟨beat, now, body, asked, code⟩ := h priv m hm guest
  exact ⟨beat, now, body, List.mem_append_left _ asked, code⟩

/-- A room that keeps its code and its host, and gains nobody. -/
lemma Told.fewer {evs id r r'} (h : Told evs id r) (priv : r'.is_private = r.is_private)
    (code : r'.join_code = r.join_code) (host : r'.host_player_id = r.host_player_id)
    (members : ∀ m' ∈ r'.members, ∃ m ∈ r.members, m.player_id = m'.player_id) :
    Told evs id r' := by
  intro hp m' hm' guest
  obtain ⟨m, hm, same⟩ := members m' hm'
  rw [code, ← same]
  exact h (priv ▸ hp) m hm (by rw [same, ← host]; exact guest)

/-- A join that changes a private room offered its code. -/
lemma join_offers {g : RoomRegistry} {id p gid ver code now r r'}
    (old : g.rooms.lookup id = some r) (out : r.members.any (·.player_id = p) = false)
    (h : (g.join id p gid ver code now).2.rooms.lookup id = some r')
    (came : ∃ m ∈ r'.members, m.player_id = p) (priv : r.is_private) : code = r.join_code := by
  have admitted : r.admits code := by
    by_contra refused
    have same : (g.join id p gid ver code now).2 = g := by
      unfold RoomRegistry.join
      rw [old]
      dsimp only
      split_ifs with _ _ _ admitted
      all_goals first
        | rfl
        | exact absurd (by simpa using admitted) refused
    rw [same, old] at h
    cases h
    obtain ⟨m, hm, own⟩ := came
    have := List.any_eq_false.mp out m hm
    simp [own] at this
  unfold Room.admits at admitted
  rw [priv] at admitted
  cases hc : r.join_code with
  | none => simp [hc] at admitted
  | some c =>
    cases code with
    | none => simp [hc] at admitted
    | some c' =>
      have same : c = c' := by simpa [hc] using admitted
      rw [same]

lemma setMember_from (r : Room) (p : String) {f : Member → Member}
    (h : ∀ m, (f m).player_id = m.player_id) :
    ∀ m' ∈ (r.setMember p f).members, ∃ m ∈ r.members, m.player_id = m'.player_id := by
  intro m' hm'
  have there := List.mem_map_of_mem (f := (·.player_id)) hm'
  rw [r.setMember_ids p h] at there
  exact List.mem_map.mp there

lemma reopen_code (r : Room) :
    r.reopen.join_code = r.join_code ∧ r.reopen.is_private = r.is_private := by
  unfold Room.reopen
  split <;> exact ⟨rfl, rfl⟩

lemma RoomEvent.op_join {cfg id p gid ver code now} {e : RoomEvent}
    (h : e.op cfg = some (.join id p gid ver code now)) :
    ∃ beat body, e = .request p beat now (.join_room id body) ∧ body.join_code = code := by
  cases e with
  | purge => cases h
  | request q beat t req =>
    cases req with
    | join_room =>
      cases h
      exact ⟨beat, _, rfl, rfl⟩
    | create_room =>
      simp only [RoomEvent.op] at h
      split at h <;> cases h
    | _ => cases h

/-- An event keeps everybody told. -/
lemma Told.step {cfg evs g id r'} {e : RoomEvent}
    (told : ∀ r, g.rooms.lookup id = some r → Told evs id r)
    (h : (e.serve cfg g).2.rooms.lookup id = some r') : Told (evs ++ [e]) id r' := by
  rw [e.serve_run] at h
  cases hop : e.op cfg with
  | none =>
    rw [hop] at h
    exact (told r' h).later e
  | some op =>
    rw [hop] at h
    simp only [Option.map_some, Option.getD_some] at h
    have after := h
    cases RoomOp.run_step h with
    | same old => exact (told r' old).later e
    | create =>
      rintro - m hm guest
      rw [List.mem_singleton.mp hm] at guest
      exact absurd rfl guest
    | @join _ p gid ver code now r s old opened out =>
      intro priv m hm guest
      rcases List.mem_append.mp hm with hm | hm
      · exact (told r old).later e priv m hm guest
      · have offers := join_offers old out after ⟨m, List.mem_append_right _ hm, by
          rw [List.mem_singleton.mp hm]⟩ priv
        obtain ⟨beat, body, rfl, asked⟩ := e.op_join hop
        rw [List.mem_singleton.mp hm]
        exact ⟨beat, now, body, List.mem_append_right _ (List.mem_singleton_self _),
          asked.trans offers⟩
    | @leave _ p now r old =>
      refine ((told r old).later e).fewer (reopen_code _).2 (reopen_code _).1 (reopen_host _) ?_
      intro m' hm'
      rw [reopen_members] at hm'
      obtain ⟨m, hm, rfl⟩ := List.mem_map.mp hm'
      exact ⟨m, List.mem_of_mem_filter hm, rfl⟩
    | @ready _ p ready beat now draw r old =>
      have ids := setMember_from r p (f := ({ · with ready := ready, last_heartbeat := beat }))
        fun _ => rfl
      unfold Room.settle
      split
      · exact ((told r old).later e).fewer rfl rfl rfl ids
      · refine ((told r old).later e).fewer (reopen_code _).2 (reopen_code _).1 (reopen_host _) ?_
        rw [reopen_members]
        exact ids
    | @beat _ p beat now r old =>
      exact ((told r old).later e).fewer rfl rfl rfl (setMember_from r p fun _ => rfl)
    | running old => exact ((told _ old).later e).fewer rfl rfl rfl fun m hm => ⟨m, hm, rfl⟩
    | purge _ _ old =>
      exact ((told _ old).later e).fewer rfl rfl rfl fun m hm => ⟨m, List.mem_of_mem_filter hm, rfl⟩

end RecompNet.Http
