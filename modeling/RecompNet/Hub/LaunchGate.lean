import RecompNet.Hub.MatchStart
import RecompNet.Hub.Nameplates
import RecompNet.Hub.Sessions

/-!
# What a launch finds

`start_lobby` checks its gate in one section and builds the launch in the next, and whatever else runs in
between. A path report on a seat stands for a message of the room's history: the last report of its
player, made after the last change of the members. `launches_gated` says what may run between the two
sections for the launch to describe a room that may start.
-/

open scoped List

namespace RecompNet

open Section Interleave

/-- The members of a room, when there is one. -/
def HubInner.membersIn (g : HubInner) (lid : String) : List String :=
  ((g.lobbies.lookup lid).map (·.member_ids)).getD []

/-- Does the step change who is in the room? -/
def regroups (srv : Server) (lid : String) : HubLabel → Bool
  | .ran _ s o pre =>
    !((exec srv s o pre.world).1.hub.membersIn lid).isPerm (pre.world.hub.membersIn lid)
  | .came .. => false

/-- The path that a player reports in the room. -/
def reportOf (lid q : String) : HubLabel → Option IcePath
  | .ran _ (dispatch p _ msg) _ pre =>
    if p = q ∧ msg.op = .path_report ∧ pre.world.hub.lobby_id_of p = some lid then
      msg.path.bind normalize_ice_path
    else none
  | _ => none

/-- The latest path report of a player in the room and when it was made, unless the members of the room
changed since; the latest step first. -/
def standing (srv : Server) (lid q : String) : List HubLabel → Option (IcePath × Instant)
  | [] => none
  | l :: earlier =>
    match reportOf lid q l with
    | some kind => some (kind, l.pre.world.now)
    | none => if regroups srv lid l then none else standing srv lid q earlier

/-! ## Path reports -/

/-- A room whose seats have no path report has none. -/
lemma Lobby.pathless_of_slots {l : Lobby} (h : ∀ s, some s ∈ l.slots → s.ice_path = none) :
    l.Pathless := by
  intro x hx
  obtain ⟨s, hs, rfl⟩ := List.mem_map.mp hx
  obtain ⟨c, hc, rfl⟩ := List.mem_filterMap.mp hs
  exact h s hc

lemma createdLobby_pathless {srv : Server} {g : HubInner} {o : Answer} {p ip : String}
    {msg : InMsg} : (createdLobby srv g o p ip msg).Pathless := by
  apply Lobby.pathless_of_slots
  intro s hs
  rcases List.mem_or_eq_of_mem_set hs with none | e
  · cases List.eq_of_mem_replicate none
  · cases e
    rfl

lemma matchLobby_pathless {srv : Server} {g : HubInner} {plan : MatchPlan} {lid : String} :
    (matchLobby srv g plan lid).Pathless := by
  apply Lobby.pathless_of_slots
  intro s hs
  rcases List.mem_or_eq_of_mem_set hs with first | e
  · rcases List.mem_or_eq_of_mem_set first with none | e
    · cases List.eq_of_mem_replicate none
    · cases e
      rfl
  · cases e
    rfl

/-- A room after a section has nobody new and no new path report, has no report at all, or has the one
that a player made in it. -/
lemma exec_paths {srv s o w lid l'} (sized : w.hub.Sized)
    (hl' : (exec srv s o w).1.hub.lobbies.lookup lid = some l') :
    (∃ l, w.hub.lobbies.lookup lid = some l ∧ l.Shuffles l') ∨ l'.Pathless ∨
    ∃ p ip msg kind l, s = dispatch p ip msg ∧ msg.op = .path_report ∧
      msg.path.bind normalize_ice_path = some kind ∧ w.hub.lobby_id_of p = some lid ∧
      w.hub.lobbies.lookup lid = some l ∧ l.slots.any (Lobby.holds p) ∧
      l' = l.reportPath p kind w.now := by
  rcases (exec_change srv s o sized).room_back hl' with
    ⟨l, hl, change⟩ | ⟨-, -, -, -, -, rfl⟩ | ⟨-, -, -, -, -, -, rfl⟩
  · cases change with
    | stay k => exact .inl ⟨l, hl, k⟩
    | report op hkind noted seated =>
      exact .inr (.inr ⟨_, _, _, _, l, rfl, op, hkind, noted, hl, seated, rfl⟩)
    -- Whoever comes or goes, the reports of the room are cleared.
    | sit => exact .inr (.inl (Lobby.sit_pathless _ _ _ _))
    | kick => exact .inr (.inl (Lobby.kick_pathless _ _))
    | vacate => exact .inr (.inl (Lobby.vacate_pathless _ _))
  · exact .inr (.inl createdLobby_pathless)
  · exact .inr (.inl matchLobby_pathless)

/-- A report on a seat is the one just made, or was there. -/
lemma Lobby.reportPath_proofs {l : Lobby} {p : String} {kind : IcePath} {now : Instant} {x}
    (hx : x ∈ (l.reportPath p kind now).proofs) :
    x ∈ l.proofs ∨ x = (p, some kind, some now) := by
  obtain ⟨s, hs, rfl⟩ := List.mem_map.mp hx
  obtain ⟨c, hc, rfl⟩ := List.mem_filterMap.mp hs
  rcases mem_updateFirst hc with old | ⟨c', hc', held, e⟩
  · exact .inl (List.mem_map.mpr ⟨s, List.mem_filterMap.mpr ⟨some s, old, rfl⟩, rfl⟩)
  · right
    obtain ⟨s', rfl, rfl⟩ := Lobby.holds_eq_true.mp held
    cases e
    rfl

/-- With one seat, a player has no other report than the one it just made. -/
lemma Lobby.reportPath_own {l : Lobby} {p : String} {kind : IcePath} {now : Instant} {x}
    (once : l.member_ids.count p = 1) (hx : x ∈ (l.reportPath p kind now).proofs) (own : x.1 = p) :
    x = (p, some kind, some now) := by
  obtain ⟨s, hs, rfl⟩ := List.mem_map.mp hx
  obtain ⟨c, hc, rfl⟩ := List.mem_filterMap.mp hs
  have few : l.slots.countP (holds p) ≤ 1 := by
    rw [count_member, cells, List.countP_append] at once
    omega
  obtain ⟨c', e⟩ := updateFirst_once few hc (holds_eq_true.mpr ⟨s, rfl, own⟩)
  cases c' with
  | none => cases e
  | some s' =>
    cases e
    exact Prod.ext own rfl

/-- The report that a player has on its seat is its standing one. -/
def PathsStand (srv : Server) (c : HubSnapshot) (tr : List HubLabel) : Prop :=
  ∀ lid l, c.world.hub.lobbies.lookup lid = some l → ∀ x ∈ l.proofs, ∀ kind, x.2.1 = some kind →
    l.member_ids.count x.1 = 1 → ∃ t, x.2.2 = some t ∧ standing srv lid x.1 tr = some (kind, t)

/-- A step that keeps the members of a room does not change them. -/
lemma regroups_false {srv t s o lid l l'} {pre : HubSnapshot}
    (hl : pre.world.hub.lobbies.lookup lid = some l)
    (hl' : (exec srv s o pre.world).1.hub.lobbies.lookup lid = some l')
    (members : l'.member_ids ~ l.member_ids) : regroups srv lid (.ran t s o pre) = false := by
  have before : pre.world.hub.membersIn lid = l.member_ids := by simp [HubInner.membersIn, hl]
  have after : (exec srv s o pre.world).1.hub.membersIn lid = l'.member_ids := by
    simp [HubInner.membersIn, hl']
  simp only [regroups, before, after, List.isPerm_iff.mpr members, Bool.not_true]

/-- A standing report outlives a step that is no report of its player and keeps the members. -/
lemma standing_later {srv lid q l tr} (silent : reportOf lid q l = none)
    (kept : regroups srv lid l = false) : standing srv lid q (l :: tr) = standing srv lid q tr := by
  simp [standing, silent, kept]

/-- A report is the message of a player in the room. -/
lemma reportOf_eq_some {lid q t s o kind} {pre : HubSnapshot}
    (h : reportOf lid q (.ran t s o pre) = some kind) : ∃ ip msg, s = dispatch q ip msg ∧
      msg.op = .path_report ∧ msg.path.bind normalize_ice_path = some kind ∧
      pre.world.hub.lobby_id_of q = some lid := by
  cases s with
  | dispatch p ip msg =>
    simp only [reportOf] at h
    split_ifs at h with his
    obtain ⟨rfl, op, noted⟩ := his
    exact ⟨ip, msg, rfl, op, h, noted⟩
  | _ => cases h

/-- A report of a seated player is noted on its seat. -/
lemma exec_report {srv o w q ip msg lid l kind} (op : msg.op = .path_report)
    (hkind : msg.path.bind normalize_ice_path = some kind)
    (noted : w.hub.lobby_id_of q = some lid) (hl : w.hub.lobbies.lookup lid = some l)
    (seated : l.slots.any (Lobby.holds q)) :
    (exec srv (dispatch q ip msg) o w).1.hub.lobbies.lookup lid =
      some (l.reportPath q kind w.now) := by
  simp only [exec, World.lift, World.setHub, dispatch_step, op, handle_path_report, hkind, noted, hl,
    seated, if_true]
  exact (Assoc.Map.lookup_modify_self ..).trans (congrArg _ hl)

/-- Whoever has a report on a player seat has a player seat. -/
lemma Lobby.seated_of_proof {l : Lobby} {x} (hx : x ∈ l.proofs) : l.slots.any (holds x.1) := by
  obtain ⟨s, hs, rfl⟩ := List.mem_map.mp hx
  obtain ⟨c, hc, rfl⟩ := List.mem_filterMap.mp hs
  exact List.any_eq_true.mpr ⟨some s, hc, holds_eq_true.mpr ⟨s, rfl, rfl⟩⟩

/-- What a section leaves on the seats still stands. -/
lemma PathsStand.run {srv c tr t s rest o} (h : PathsStand srv c tr) (sized : c.world.hub.Sized) :
    PathsStand srv ((hubMachine srv).afterRun c t s rest o) (.ran t s o c :: tr) := by
  intro lid l' hl' x hx kind hkind once
  have some_path : x.2.1 ≠ none := hkind ▸ Option.some_ne_none kind
  have paths := exec_paths sized hl'
  cases hr : reportOf lid x.1 (.ran t s o c) with
  | some k =>
    -- the player's own report, on its one seat
    obtain ⟨ip, msg, rfl, op, hk, noted⟩ := reportOf_eq_some hr
    obtain ⟨l, rfl⟩ : ∃ l : Lobby, l' = l.reportPath x.1 k c.world.now := by
      rcases paths with ⟨l, hl, sh⟩ | pathless | ⟨p, ip', msg', k', l, e, -, hk', -, -, -, rfl⟩
      · have seated := Lobby.seated_of_proof (sh.proofs x hx some_path)
        have noted' := @exec_report srv o c.world x.1 ip msg lid l k op hk noted hl seated
        exact ⟨l, Option.some.inj (hl'.symm.trans noted')⟩
      · exact absurd (pathless x hx) some_path
      · obtain ⟨rfl, rfl, rfl⟩ := dispatch.inj e
        obtain rfl := Option.some.inj (hk.symm.trans hk')
        exact ⟨l, rfl⟩
    rw [Lobby.reportPath_members] at once
    have own := Lobby.reportPath_own once hx rfl
    have same : k = kind := Option.some.inj ((congrArg (·.2.1) own).symm.trans hkind)
    refine ⟨c.world.now, congrArg (·.2.2) own, ?_⟩
    rw [standing, hr, same]
    rfl
  | none =>
    rcases paths with ⟨l, hl, sh⟩ | pathless | ⟨p, ip, msg, k, l, rfl, op, hk, noted, hl, -, rfl⟩
    · rw [sh.members.count_eq] at once
      obtain ⟨t', ht, stands⟩ := h lid l hl x (sh.proofs x hx some_path) kind hkind once
      exact ⟨t', ht, (standing_later hr (regroups_false hl hl' sh.members)).trans stands⟩
    · exact absurd (pathless x hx) some_path
    · have other : x ≠ (p, some k, some c.world.now) := by
        rintro rfl
        simp [reportOf, op, hk, noted] at hr
      have members := Lobby.reportPath_members l p k c.world.now
      rw [members] at once
      have old := (Lobby.reportPath_proofs hx).resolve_right other
      obtain ⟨t', ht, stands⟩ := h lid l hl x old kind hkind once
      exact ⟨t', ht, (standing_later hr (regroups_false hl hl' (.of_eq members))).trans stands⟩

/-- Every report on the seat of a player is its latest one, made since the room last changed. -/
theorem HubRun.paths_stand {srv c tr} (r : HubRun srv c tr) : PathsStand srv c tr := by
  apply r.induct (I := fun c tr => PathsStand srv c tr)
  · intro lid l hl
    cases hl
  · intro c tr l c' r ih st
    cases st with
    | run _ _ => exact ih.run (HubRun.basic r).sized
    | @event e _ _ =>
      intro lid l hl
      exact ih lid l ((congrArg (·.lookup lid) (apply_lobbies srv c.world e)).symm.trans hl)

/-! ## The relay host -/

/-- Only a match room records a relay host of its own. -/
theorem HubRun.relay_unset {srv c tr} (r : HubRun srv c tr) : ∀ lid l,
    c.world.hub.lobbies.lookup lid = some l → l.automatch = false → l.relay_host_player_id = "" := by
  apply r.induct (I := fun c _ => ∀ lid l, c.world.hub.lobbies.lookup lid = some l →
    l.automatch = false → l.relay_host_player_id = "")
  · intro lid l hl
    cases hl
  · intro c tr l c' r ih st lid l' hl' made
    cases st with
    | @run t s rest o e ho =>
      have change := exec_change srv s o (HubRun.basic r).sized
      rcases change.lobby_back hl' with ⟨l, hl, frame⟩ | ⟨p, ip, msg, -, -, rfl⟩ |
        ⟨plan, -, -, -, -, -, rfl⟩
      · exact frame.relay.trans (ih lid l hl (frame.automatch ▸ made))
      · rfl
      · cases made
    | @event e _ _ => exact ih lid l' ((apply_lobbies srv c.world e) ▸ hl') made

/-- The relay host of a room is a member of it. -/
theorem HubRun.relay_member {srv c tr} (r : HubRun srv c tr) {lid l}
    (hl : c.world.hub.lobbies.lookup lid = some l) : l.relay_host ∈ l.member_ids := by
  cases auto : l.automatch with
  | false =>
    unfold Lobby.relay_host
    rw [if_pos (HubRun.relay_unset r lid l hl auto)]
    exact HubRun.hosted r lid l hl auto
  | true =>
    obtain ⟨t, plan, o, pre, -, -, same⟩ := HubRun.formed_as r lid l hl auto
    have relay : l.relay_host = plan.relay_ticket.player_id := by
      unfold Lobby.relay_host
      rw [same.relay, same.host]
      show (if plan.relay_ticket.player_id = "" then "" else plan.relay_ticket.player_id) = _
      split
      · rename_i blank
        exact blank.symm
      · rfl
    rw [relay, same.members.mem_iff, matchLobby_members]
    unfold MatchPlan.relay_ticket
    split <;> simp

/-! ## The gate and the commit -/

/-- What the gate of a start finds in a room for a transport. -/
structure Lobby.Startable (now : Instant) (l : Lobby) (transport : StartTransport) : Prop where
  two : 2 ≤ player_count l
  gallery : l.spectator_count = 0
  ice : transport = .Ice → player_count l = 2
  proven : transport = .Host → player_count l = 2 → l.Proven now

/-- A decision for a transport was made in a room that may start on it. -/
lemma gate_startable {now : Instant} {l : Lobby} {caps : Option Value} {ice : Bool} {transport}
    (players : ¬ player_count l < 2) (h : start_transport now l caps ice = .ok transport) :
    l.Startable now transport := by
  unfold start_transport at h
  split at h
  · rename_i host
    cases h
    unfold host_relay_decision at host
    split_ifs at host with wants endpoint gallery via unproven
    all_goals refine ⟨not_lt.mp players, by omega, nofun, fun _ two => ?_⟩
    · omega
    · exact Lobby.proven_iff.mpr (Bool.not_eq_true _ ▸ unproven)
  · split_ifs at h with shut two
    · cases h
      obtain ⟨-, gallery⟩ := not_or.mp shut
      exact ⟨not_lt.mp players, by omega, fun _ => not_not.mp two, nofun⟩

/-- What a launch says of its room: there are two players at least and nobody in the gallery, ICE has
exactly two, and the host relay has its slot and, in a room of two, the other player's standing report
that it reaches the relay host directly. -/
structure Launch.Gated (srv : Server) (earlier : List HubLabel) (now : Instant) (l : Lobby)
    (m : Launch) : Prop where
  two : 2 ≤ m.player_count
  gallery : m.spectators = []
  ice : m.transport = .Ice → m.player_count = 2
  relay : m.transport = .Host → ∃ i, m.relay_host_slot = some i ∧
    ∃ row ∈ m.slots, row.slot = i ∧ row.player_id = l.relay_host
  proven : m.transport = .Host → m.player_count = 2 → ∀ row ∈ m.slots,
    row.player_id ≠ l.relay_host → ∃ t, standing srv m.lobby_id row.player_id earlier =
      some (.direct, t) ∧ now - t ≤ HOST_RELAY_PATH_FRESH

/-- The rows of a table are its occupied seats. -/
lemma mem_seatRows {g : HubInner} {now : Instant} {start : Nat} {table : List (Option Slot)} {row} :
    row ∈ seatRows g now start table ↔ ∃ i s, table[i]? = some (some s) ∧
      row = slot_json now (start + i) s (account_of g s.player_id) := by
  simp only [seatRows, List.mem_filterMap, Prod.exists, List.mem_zipIdx_iff_getElem?,
    Option.map_eq_some_iff]
  constructor
  · rintro ⟨c, i, hc, s, rfl, rfl⟩
    exact ⟨i, s, hc, rfl⟩
  · rintro ⟨i, s, hs, rfl⟩
    exact ⟨some s, i, hs, s, rfl, rfl⟩

/-- An empty gallery has no rows. -/
lemma seatRows_gallery {g : HubInner} {now : Instant} {start : Nat} {l : Lobby}
    (nobody : l.spectator_count = 0) : seatRows g now start l.spectators = [] := by
  rw [List.eq_nil_iff_forall_not_mem]
  intro row hrow
  obtain ⟨i, s, hs, -⟩ := mem_seatRows.mp hrow
  exact absurd rfl (List.countP_eq_zero.mp nobody (some s) (List.mem_of_getElem? hs))

/-- Of two members, each is there once. -/
lemma count_of_two {α : Type} [DecidableEq α] {xs : List α} {a b : α} (two : xs.length = 2)
    (ha : a ∈ xs) (hb : b ∈ xs) (ne : b ≠ a) : xs.count b = 1 := by
  obtain ⟨x, y, rfl⟩ := List.length_eq_two.mp two
  simp only [List.mem_cons, List.not_mem_nil, or_false] at ha hb
  rcases ha with rfl | rfl <;> rcases hb with rfl | rfl
  · exact absurd rfl ne
  · simp [ne.symm]
  · simp [ne.symm]
  · exact absurd rfl ne

/-- A member is at the table when nobody is in the gallery. -/
lemma Lobby.seated_of_member {l : Lobby} {p : String} (nobody : l.spectator_count = 0)
    (h : p ∈ l.member_ids) : l.slots.any (holds p) := by
  have held : 0 < l.cells.countP (holds p) := by
    rw [← count_member]
    exact List.count_pos_iff.mpr h
  rw [cells, List.countP_append] at held
  have off : l.spectators.countP (holds p) ≤ l.spectators.countP (·.isSome) := by
    apply List.countP_mono_left
    intro c _ hc
    obtain ⟨s, rfl, -⟩ := holds_eq_true.mp hc
    rfl
  have none : l.spectators.countP (·.isSome) = 0 := nobody
  have pos : 0 < l.slots.countP (holds p) := by omega
  obtain ⟨c, hc, here⟩ := List.countP_pos_iff.mp pos
  exact List.any_eq_true.mpr ⟨c, hc, here⟩

/-- A member at the table has a seat there. -/
lemma Lobby.slot_of_member {l : Lobby} {p : String} (nobody : l.spectator_count = 0)
    (h : p ∈ l.member_ids) : ∃ s, some s ∈ l.slots ∧ s.player_id = p := by
  obtain ⟨c, hc, held⟩ := List.any_eq_true.mp (seated_of_member nobody h)
  obtain ⟨s, rfl, own⟩ := holds_eq_true.mp held
  exact ⟨s, hc, own⟩

/-- Whoever has a seat at the table is a member. -/
lemma Lobby.member_of_slot {l : Lobby} {s : Slot} (hs : some s ∈ l.slots) :
    s.player_id ∈ l.member_ids := by
  rw [mem_member_ids, everyone_eq_cells]
  exact ⟨s, List.mem_filterMap.mpr ⟨some s, List.mem_append_left _ hs, rfl⟩, rfl⟩

/-- A match begins with as many players. -/
@[simp] lemma launch_count (l : Lobby) (caps : Option Value) (sid : Nat) :
    player_count (l.launch caps sid) = player_count l := by
  show (l.slots.map _).countP _ = l.slots.countP _
  rw [List.countP_map]
  congr 1
  funext c
  cases c <;> rfl

/-- The seats of a room whose match begins are the same, un-readied. -/
lemma launch_seat {l : Lobby} {caps : Option Value} {sid i : Nat} {s'}
    (h : (l.launch caps sid).slots[i]? = some (some s')) :
    ∃ s, some s ∈ l.slots ∧ s.core = s'.core := by
  have h : (l.slots.map (Option.map ({ · with ready := false })))[i]? = some (some s') := h
  rw [List.getElem?_map] at h
  obtain ⟨c, hc, e⟩ := Option.map_eq_some_iff.mp h
  obtain ⟨s, rfl, rfl⟩ := Option.map_eq_some_iff.mp e
  exact ⟨s, List.mem_of_getElem? hc, rfl⟩

/-- A commit in a room that may start launches what the gate asks for. -/
theorem commit_gated {srv c tr} (r : HubRun srv c tr) {lid l caps sid sp transport}
    (hl : c.world.hub.lobbies.lookup lid = some l)
    (ok : l.Startable c.world.now transport) :
    (launchOf c.world.now c.world.hub (l.launch caps sid) sp transport).Gated srv tr
      c.world.now l := by
  have relay_host : (l.launch caps sid).relay_host = l.relay_host := rfl
  have member := HubRun.relay_member r hl
  constructor
  · exact ok.two.trans_eq (launch_count l caps sid).symm
  · exact seatRows_gallery ok.gallery
  · exact fun ice => (launch_count l caps sid).trans (ok.ice ice)
  · intro host
    have host : transport = .Host := host
    have at_table := Lobby.seated_of_member ok.gallery member
    have seated : (l.launch caps sid).slots.any (Lobby.holds l.relay_host) := by
      show (l.slots.map _).any _
      rw [List.any_map]
      obtain ⟨c, hc, here⟩ := List.any_eq_true.mp at_table
      obtain ⟨s, rfl, own⟩ := Lobby.holds_eq_true.mp here
      exact List.any_eq_true.mpr ⟨some s, hc, Lobby.holds_eq_true.mpr ⟨_, rfl, own⟩⟩
    rw [← List.findIdx?_isSome, Option.isSome_iff_exists] at seated
    obtain ⟨i, found⟩ := seated
    obtain ⟨hi, here, -⟩ := List.findIdx?_eq_some_iff_getElem.mp found
    obtain ⟨s, hs, own⟩ := Lobby.holds_eq_true.mp here
    refine ⟨i, (if_pos host).trans found, _, mem_seatRows.mpr ⟨i, s, ?_, rfl⟩, Nat.zero_add i, own⟩
    rw [List.getElem?_eq_getElem hi, hs]
  · intro host two row hrow other
    have host : transport = .Host := host
    have two : player_count l = 2 := (launch_count l caps sid).symm.trans two
    obtain ⟨i, s', hs', rfl⟩ := mem_seatRows.mp hrow
    obtain ⟨s, hs, core⟩ := launch_seat hs'
    have same : s.player_id = s'.player_id := congrArg Prod.fst core
    have other : s.player_id ≠ l.relay_host := same ▸ other
    have seat : s ∈ l.slots.filterMap id := List.mem_filterMap.mpr ⟨some s, hs, rfl⟩
    -- a proven path is a report that stands in the trace
    obtain ⟨direct, fresh⟩ := ok.proven host two s hs other
    have members : l.member_ids.length = 2 := by
      rw [l.member_count, two, ok.gallery]
    obtain ⟨t, ht, stands⟩ := HubRun.paths_stand r lid l hl s.core (List.mem_map_of_mem seat) .direct
      direct (count_of_two members member (Lobby.member_of_slot hs) other)
    refine ⟨t, ?_, ?_⟩
    · show standing srv l.lobby_id s'.player_id tr = _
      rw [(HubRun.basic r).lobby_key lid l hl, ← same]
      exact stands
    · have ht : s.ice_path_at = some t := ht
      simpa only [Slot.path_fresh, ht, Option.any_some, decide_eq_true_eq] using fresh

/-! ## Between the gate and the commit -/

/-- How a room may change after the gate of a start: no player leaves the table and nobody comes into the
gallery, under ICE nobody comes to the table, and in a room of two on the host relay nobody but the relay
host loses its report of a direct path. -/
structure Lobby.Steady (transport : StartTransport) (l l' : Lobby) : Prop where
  table : player_count l ≤ player_count l'
  gallery : l'.spectator_count ≤ l.spectator_count
  ice : transport = .Ice → player_count l' ≤ player_count l
  reports : transport = .Host → player_count l' = 2 → ∀ x ∈ l.proofs, x.1 ≠ l.relay_host →
    x.2.1 = some .direct → ∀ x' ∈ l'.proofs, x'.1 = x.1 → x'.2.1 = some .direct

/-- What runs between the gate of a start and its commit keeps the room steady, and no report that was
recent enough at the gate has become too old. -/
structure SteadyStart (srv : Server) (lid : String) (transport : StartTransport) (chk : HubSnapshot)
    (since : List HubLabel) (pre : HubSnapshot) : Prop where
  steps : ∀ t s o mid, .ran t s o mid ∈ since → ∀ l l',
    mid.world.hub.lobbies.lookup lid = some l →
    (exec srv s o mid.world).1.hub.lobbies.lookup lid = some l' → l.Steady transport l'
  ages : transport = .Host → ∀ l, pre.world.hub.lobbies.lookup lid = some l → player_count l = 2 →
    ∀ s, some s ∈ l.slots → s.player_id ≠ l.relay_host → s.path_fresh chk.world.now →
      s.path_fresh pre.world.now

/-- Every start of a run is left alone between its gate and its commit. -/
def StartsSteady (srv : Server) (tr : List HubLabel) : Prop :=
  ∀ t st lid caps ice chk since sid sp transport pre,
    Between (hubMachine srv) tr t (start_prepare st lid caps ice) chk since
      (start_commit st lid caps sid sp transport ice) pre →
    SteadyStart srv lid transport chk since pre

/-- A gate that goes on to its commit finds a room that may start. -/
lemma exec_gate (srv : Server) (o : Answer) {w st lid caps sid sp transport ice}
    (hs : start_commit st lid caps sid sp transport ice ∈
      (exec srv (start_prepare st lid caps ice) o w).2) :
    ∃ l, w.hub.lobbies.lookup lid = some l ∧ l.Startable w.now transport := by
  simp only [exec, World.lift, start_prepare_step] at hs
  split at hs
  · cases List.mem_singleton.mp hs
  · rename_i l hl
    split_ifs at hs with players
    · cases List.mem_singleton.mp hs
    · split at hs
      · cases List.mem_singleton.mp hs
      · rename_i tr ok
        cases List.mem_singleton.mp hs
        exact ⟨l, hl, gate_startable players ok⟩

/-- The gate touches no room. -/
lemma gate_lobbies (srv : Server) (o : Answer) (w : World) (st : Starter) (lid : String)
    (caps : Option Value) (ice : Bool) :
    (exec srv (start_prepare st lid caps ice) o w).1.hub.lobbies = w.hub.lobbies := by
  simp only [exec, World.lift, World.setHub]
  rcases start_prepare_cases w.now w.hub st lid caps ice with ⟨code, e⟩ | ⟨sp, tr, e⟩ <;> rw [e]

/-- Where as many are in a room after a section as before, they are the same. -/
lemma exec_same_members {srv s o lid l l'} {w : World} (basic : w.Basic) (fresh : o.uuid ∉ w.issued)
    (hl : w.hub.lobbies.lookup lid = some l)
    (hl' : (exec srv s o w).1.hub.lobbies.lookup lid = some l')
    (same : l'.member_ids.length = l.member_ids.length) : l'.member_ids ~ l.member_ids := by
  have old : lid ≠ o.uuid := by
    rintro rfl
    exact fresh (basic.lobby_issued _ l hl)
  rcases (exec_change srv s o basic.sized).room_back hl' with
    ⟨l0, hl0, change⟩ | ⟨-, -, -, -, new, -⟩ | ⟨-, -, -, -, -, new, -⟩
  · obtain rfl := Option.some.inj (hl.symm.trans hl0)
    cases change with
    | stay k => exact k.members
    | report => exact .of_eq (Lobby.reportPath_members ..)
    | @sit _ _ _ _ slot ep hfree _ =>
      have free := Lobby.seat_freeSeat (basic.sized _ _ hl) hfree
      have more := (Lobby.sit_members free slot ep).length_eq
      rw [List.length_cons] at more
      omega
    | kick _ _ hseat _ =>
      have fewer := (Lobby.kick_members hseat).length_eq
      rw [List.length_cons] at fewer
      omega
    | vacate =>
      rw [Lobby.vacate_members] at same ⊢
      exact .of_eq (List.filter_sublist.eq_of_length same)
  · exact absurd new old
  · exact absurd new old

lemma Lobby.mem_proofs {l : Lobby} {x} : x ∈ l.proofs ↔ ∃ s, some s ∈ l.slots ∧ s.core = x := by
  simp [proofs]

/-- A step that keeps the room steady keeps it startable. -/
lemma Lobby.Startable.step {srv s o lid l l' transport t0} {w : World} (ok : l.Startable t0 transport)
    (basic : w.Basic) (fresh : o.uuid ∉ w.issued) (clock : t0 ≤ w.now)
    (hl : w.hub.lobbies.lookup lid = some l)
    (hl' : (exec srv s o w).1.hub.lobbies.lookup lid = some l')
    (steady : l.Steady transport l') : l'.Startable t0 transport := by
  have nobody : l'.spectator_count = 0 :=
    Nat.eq_zero_of_le_zero (steady.gallery.trans ok.gallery.le)
  have two : 2 ≤ player_count l' := ok.two.trans steady.table
  refine ⟨two, nobody, ?_, ?_⟩
  · intro ice
    exact le_antisymm ((steady.ice ice).trans (ok.ice ice).le) two
  · intro host two' s' hs' other
    have both : player_count l = 2 := le_antisymm (steady.table.trans two'.le) ok.two
    have members : l'.member_ids ~ l.member_ids := by
      apply exec_same_members basic fresh hl hl'
      rw [l'.member_count, l.member_count, two', both, nobody, ok.gallery]
    have frame : Frame l l' := by
      rcases (exec_change srv s o basic.sized).room_back hl' with
        ⟨l0, hl0, change⟩ | ⟨-, -, -, -, rfl, -⟩ | ⟨-, -, -, -, -, rfl, -⟩
      · obtain rfl := Option.some.inj (hl.symm.trans hl0)
        exact change.frame
      · exact absurd (basic.lobby_issued _ l hl) fresh
      · exact absurd (basic.lobby_issued _ l hl) fresh
    have relay : l'.relay_host = l.relay_host := by
      unfold Lobby.relay_host
      rw [frame.relay, frame.host]
    rw [relay] at other
    -- whoever is at the table was there before, with a report that it still has
    obtain ⟨s0, hs0, own⟩ :=
      Lobby.slot_of_member ok.gallery (members.subset (Lobby.member_of_slot hs'))
    have other0 : s0.player_id ≠ l.relay_host := fun e => other (own.symm.trans e)
    have here : s'.core ∈ l'.proofs := Lobby.mem_proofs.mpr ⟨s', hs', rfl⟩
    have direct : s'.ice_path = some .direct :=
      steady.reports host two' s0.core (Lobby.mem_proofs.mpr ⟨s0, hs0, rfl⟩) other0
        (ok.proven host both s0 hs0 other0).1 s'.core here own.symm
    refine ⟨direct, ?_⟩
    have reported : s'.core.2.1 ≠ none := fun none => Option.some_ne_none _ (direct.symm.trans none)
    have old : s'.core ∈ l.proofs → s'.path_fresh t0 := by
      intro hx
      obtain ⟨s1, hs1, e⟩ := Lobby.mem_proofs.mp hx
      have same : s1.player_id = s'.player_id := congrArg Prod.fst e
      have recent := (ok.proven host both s1 hs1 fun e => other (same.symm.trans e)).2
      have at_same : s1.ice_path_at = s'.ice_path_at := congrArg (·.2.2) e
      unfold Slot.path_fresh at recent ⊢
      rwa [at_same] at recent
    rcases exec_paths basic.sized hl' with
      ⟨l0, hl0, sh⟩ | none | ⟨p, ip, msg, kind, l0, -, -, -, -, hl0, -, rfl⟩
    · obtain rfl := Option.some.inj (hl.symm.trans hl0)
      exact old (sh.proofs _ here reported)
    · exact absurd (none _ here) reported
    · obtain rfl := Option.some.inj (hl.symm.trans hl0)
      rcases Lobby.reportPath_proofs here with hx | e
      · exact old hx
      · -- a report made since the gate is no older than the gate
        have now : s'.ice_path_at = some w.now := congrArg (·.2.2) e
        have recent : t0 - w.now ≤ HOST_RELAY_PATH_FRESH :=
          (Nat.sub_eq_zero_of_le clock).trans_le (Nat.zero_le _)
        simpa only [Slot.path_fresh, now, Option.any_some, decide_eq_true_eq] using recent

/-- What is left of the gate at the commit: a room that may start, but for the age of its reports. -/
lemma HubRun.startable_since {srv c tr t st lid caps ice chk since sid sp transport pre}
    (r : HubRun srv c tr)
    (h : Between (hubMachine srv) tr t (start_prepare st lid caps ice) chk since
      (start_commit st lid caps sid sp transport ice) pre)
    (steady : SteadyStart srv lid transport chk since pre) {l}
    (hl : pre.world.hub.lobbies.lookup lid = some l) : l.Startable chk.world.now transport := by
  obtain ⟨o, o', earlier, -, r', starts⟩ := h.reached r
  obtain ⟨l0, hl0, ok⟩ := exec_gate srv o' starts
  have run := Run.since (M := hubMachine srv) (I := fun c since =>
    (∀ t s o mid, .ran t s o mid ∈ since → ∀ l l', mid.world.hub.lobbies.lookup lid = some l →
      (exec srv s o mid.world).1.hub.lobbies.lookup lid = some l' → l.Steady transport l') →
    chk.world.now ≤ c.world.now ∧ lid ∈ c.world.issued ∧
      ∀ l, c.world.hub.lobbies.lookup lid = some l → l.Startable chk.world.now transport) ?_ ?_ r'
  · exact (run steady.steps).2.2 l hl
  · -- right after the gate
    intro c st _
    obtain ⟨rchk, -⟩ := r'.pre_reached _ _ _ rfl
    cases st with
    | run e ho =>
      refine ⟨exec_now.ge, exec_issued ((HubRun.basic rchk).lobby_issued lid l0 hl0), ?_⟩
      intro l hl
      have same := gate_lobbies srv o' chk.world st lid caps ice
      obtain rfl := Option.some.inj (hl0.symm.trans (same ▸ hl))
      exact ok
  · -- one step later
    intro c since l' c' r ih st all
    obtain ⟨clock, known, room⟩ := ih fun t s o mid hm => all t s o mid (List.mem_cons_of_mem _ hm)
    cases st with
    | @run t s rest o e ho =>
      refine ⟨clock.trans exec_now.ge, exec_issued known, fun l' hl' => ?_⟩
      have change := (exec_change srv s o (HubRun.basic r).sized).room_back hl'
      rcases change with ⟨l, hl, -⟩ | ⟨-, -, -, -, rfl, -⟩ | ⟨-, -, -, -, -, rfl, -⟩
      · exact (room l hl).step (HubRun.basic r) ho.2.1 clock hl hl'
          (all t s o c List.mem_cons_self l l' hl hl')
      · exact absurd known ho.2.1
      · exact absurd known ho.2.1
    | @event e _ _ =>
      refine ⟨clock.trans apply_now, apply_issued known, fun l hl => room l ?_⟩
      exact (congrArg (·.lookup lid) (apply_lobbies srv c.world e)).symm.trans hl

/-- In a run whose starts are left alone between their gates and their commits, every launch describes a
room that may start. -/
theorem launches_gated {srv c tr} (r : HubRun srv c tr) (steady : StartsSteady srv tr) :
    ∀ later t s o pre earlier, tr = later ++ .ran t s o pre :: earlier → ∀ q m,
      send_to q (.launch m) ∈ (exec srv s o pre.world).2 →
        ∃ l, pre.world.hub.lobbies.lookup m.lobby_id = some l ∧
          m.Gated srv earlier pre.world.now l := by
  rintro later t s o pre earlier rfl q m hs
  obtain ⟨rpre, -⟩ := r.pre_reached _ later earlier rfl
  obtain ⟨st, lid, caps, sid, sp, transport, ice, l, rfl, hl, rfl⟩ := exec_launch hs
  have key : (l.launch caps sid).lobby_id = lid := (HubRun.basic rpre).lobby_key lid l hl
  -- the gate that led to the commit
  obtain ⟨k, chk, since, between⟩ := r.between_ran
    (List.mem_append_right later List.mem_cons_self) fun e w hb => body_not_inner _ hb rfl
  obtain ⟨_, _, _, -, -, starts⟩ := between.reached r
  obtain ⟨rfl, -, -⟩ := exec_start_commit starts
  have alone := steady _ _ _ _ _ _ _ _ _ _ _ between
  have ok := HubRun.startable_since r between alone hl
  have gate : l.Startable pre.world.now transport := by
    refine ⟨ok.two, ok.gallery, ok.ice, fun host two s hs other => ?_⟩
    obtain ⟨direct, fresh⟩ := ok.proven host two s hs other
    exact ⟨direct, alone.ages host l hl two s hs other fresh⟩
  refine ⟨l, ?_, commit_gated rpre hl gate⟩
  show pre.world.hub.lobbies.lookup (l.launch caps sid).lobby_id = some l
  rw [key]
  exact hl

/-! ## With and without somebody in between -/

/-- Does the last step launch a match on this transport with so many players? -/
def lastLaunches (srv : Server) (transport : StartTransport) (players : Nat) :
    List HubLabel → Bool
  | .ran _ s o pre :: _ => (exec srv s o pre.world).2.any fun
    | send_to _ (.launch m) => m.transport = transport && m.player_count = players
    | _ => false
  | _ => false

lemma lastLaunches_sound {srv transport players tr} (h : lastLaunches srv transport players tr) :
    ∃ t s o pre earlier q m, tr = .ran t s o pre :: earlier ∧
      send_to q (.launch m) ∈ (exec srv s o pre.world).2 ∧ m.transport = transport ∧
      m.player_count = players := by
  cases tr with
  | nil => cases h
  | cons l earlier =>
    cases l with
    | came => cases h
    | ran t s o pre =>
      obtain ⟨s', hs', hm⟩ := List.any_eq_true.mp h
      split at hm
      · rename_i q m
        simp only [Bool.and_eq_true, decide_eq_true_eq] at hm
        exact ⟨t, s, o, pre, earlier, q, m, rfl, hs', hm⟩
      · cases hm

/-- Does the step leave the number of players and of spectators alone, and every report direct? -/
def leavesRoom (srv : Server) (lid : String) : HubLabel → Bool
  | .ran _ s o mid =>
    (mid.world.hub.lobbies.lookup lid).all fun l =>
      ((exec srv s o mid.world).1.hub.lobbies.lookup lid).all fun l' =>
        player_count l' = player_count l && l'.spectator_count = l.spectator_count &&
          l'.proofs.all fun x => x.1 = l.relay_host || x.2.1 = some .direct
  | .came .. => true

/-- Is every start left alone between its gates and its commit, with reports that are recent enough? -/
def steadyStarts (srv : Server) (tr : List HubLabel) : Bool :=
  (cuts tr).all fun c => match c.2.1 with
    | .ran _ (start_commit _ lid ..) _ pre =>
      ((pre.world.hub.lobbies.lookup lid).all fun l =>
        l.slots.all (·.all fun s => s.player_id = l.relay_host || s.path_fresh pre.world.now)) &&
      (cuts c.2.2).all fun c => match c.2.1 with
        | .ran _ (start_prepare ..) _ _ => c.1.all (leavesRoom srv lid)
        | _ => true
    | _ => true

lemma steadyStarts_sound {srv : Server} {tr} (h : steadyStarts srv tr) : StartsSteady srv tr := by
  rintro t st lid caps ice chk since sid sp transport pre ⟨⟨o, o', later, earlier, e, -⟩, -⟩
  obtain ⟨recent, gates⟩ := (Bool.and_eq_true _ _).mp (List.all_eq_true.mp h _ (mem_cuts e))
  have left : since.all (leavesRoom srv lid) := List.all_eq_true.mp gates _ (mem_cuts rfl)
  constructor
  · intro t s o mid hm l l' hl hl'
    have good := List.all_eq_true.mp left _ hm
    simp only [leavesRoom, hl, hl', Option.all_some, Bool.and_eq_true, decide_eq_true_eq] at good
    obtain ⟨⟨players, gallery⟩, reports⟩ := good
    refine ⟨players.ge, gallery.le, fun _ => players.le, fun _ _ x _ other _ x' hx' own => ?_⟩
    have direct := List.all_eq_true.mp reports x' hx'
    simpa [own, other] using direct
  · intro _ l hl _ s hs other _
    rw [hl] at recent
    simpa [other] using List.all_eq_true.mp recent (some s) hs

/-- The guest reports that it reaches the host directly, and the host starts on its relay; between the gate
and the commit a minute passes and the guest reports again. -/
def startOnRelay (p q room : String) : List Move :=
  let o := draw "9b1deb4d-3b7d-4bad-9bdd-2b0d7b3dcb6d"
  let report := [say q { op := .path_report, path := some "direct" }] ++ steps (.conn q) 3 o
  roomOfTwo p q room o ++ report ++
    [say p { op := .start, match_caps := some (.object []) }] ++ steps (.conn p) 3 o ++
    [.event (.pass (60 * NANOS) 60)] ++ report ++ steps (.conn p) 1 o

/-- The match of the two is launched on the relay of the host. -/
theorem launches_gated_relay : ∃ c tr, HubRun sampleServer c tr ∧
    ∃ t s o pre earlier q m l, tr = .ran t s o pre :: earlier ∧
      send_to q (.launch m) ∈ (exec sampleServer s o pre.world).2 ∧ m.transport = .Host ∧
      m.player_count = 2 ∧ m.Gated sampleServer earlier pre.world.now l := by
  let p := "6b0f1e52-3c1d-4a86-9a53-0d5f6f1c2a11"
  let q := "c4d1c1a0-5f0e-4a53-8d43-9f4b1f7f3b22"
  let room := "1f8a9f0e-7d2b-4b57-8f6f-2f6f2b0c9d01"
  have h : ((hubMachine sampleServer).follow (startOnRelay p q room)).any fun x =>
      lastLaunches sampleServer .Host 2 x.2 && steadyStarts sampleServer x.2 := by decide +kernel
  obtain ⟨c, tr, r, ht, -⟩ := Machine.follow_reaches h
  obtain ⟨launches, steady⟩ := (Bool.and_eq_true _ _).mp ht
  obtain ⟨t, s, o, pre, earlier, q', m, rfl, hs, host, two⟩ := lastLaunches_sound launches
  obtain ⟨l, -, gated⟩ :=
    launches_gated r (steadyStarts_sound steady) [] t s o pre earlier rfl q' m hs
  exact ⟨c, _, r, t, s, o, pre, earlier, q', m, l, rfl, hs, host, two, gated⟩

/-- The guest leaves after the gate, before the commit. -/
def leavesInBetween (p q room : String) : List Move :=
  let o := draw "9b1deb4d-3b7d-4bad-9bdd-2b0d7b3dcb6d"
  roomOfTwo p q room o ++ [say p { op := .start }] ++ steps (.conn p) 3 o ++
    [say q { op := .leave }] ++ steps (.conn q) 3 o ++ steps (.conn p) 1 o

/-- The host is launched into a match over ICE alone. -/
theorem launched_alone : ¬ ∀ c tr, HubRun sampleServer c tr →
    ∀ later t s o pre earlier, tr = later ++ .ran t s o pre :: earlier → ∀ q m,
      send_to q (.launch m) ∈ (exec sampleServer s o pre.world).2 →
        ∃ l, pre.world.hub.lobbies.lookup m.lobby_id = some l ∧
          m.Gated sampleServer earlier pre.world.now l := by
  intro all
  let p := "6b0f1e52-3c1d-4a86-9a53-0d5f6f1c2a11"
  let q := "c4d1c1a0-5f0e-4a53-8d43-9f4b1f7f3b22"
  let room := "1f8a9f0e-7d2b-4b57-8f6f-2f6f2b0c9d01"
  have h : ((hubMachine sampleServer).follow (leavesInBetween p q room)).any fun x =>
      lastLaunches sampleServer .Ice 1 x.2 := by decide +kernel
  obtain ⟨c, tr, r, ht, -⟩ := Machine.follow_reaches h
  obtain ⟨t, s, o, pre, earlier, q', m, rfl, hs, -, one⟩ := lastLaunches_sound ht
  obtain ⟨l, -, gated⟩ := all c _ r [] t s o pre earlier rfl q' m hs
  exact absurd gated.two (by omega)

end RecompNet
