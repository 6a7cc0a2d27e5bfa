import RecompNet.Hub.Section

/-!
# Room handlers

Creating, joining, leaving, closing and rearranging rooms (`ws_lobby.rs`). Each function is what one
section does under the hub lock: the new hub, and the sections that follow.
-/

namespace RecompNet

open Section

/-- What a section does to the hub, and what its task runs next. -/
abbrev HubStep := HubInner × List Section

/-- Answer a client with an error and leave the hub alone. -/
def refuse (g : HubInner) (p : String) (code : Code) : HubStep := (g, [send_to p (.error code)])

/-! ## Connections -/

/-- A connection's row before its first message. -/
def freshClient (srv : Server) (p peer_ip : String) : ClientMeta where
  player_id := p
  display_name := "Player-" ++ tag p
  peer_ip := peer_ip
  country := srv.country_for peer_ip

/-- Write an identity into the client's row and, when it is seated, into its seat. Returns the accepted
name and the room that needs a `lobby_update`. -/
def apply_identity (g : HubInner) (p : String) (name game : Option String) (fallback : String) :
    HubInner × String × Option String :=
  let g1 := g.setClient p fun c =>
    { c with display_name := name.getD c.display_name, game_name := game.getD c.game_name }
  let (g2, renamed) : HubInner × Option String :=
    match name, g1.lobby_id_of p with
    | some n, some lid =>
      match g1.lobbies.lookup lid with
      | none => (g1, none)
      | some l =>
        let unique := unique_display_name l n (some p) fallback
        let changed := (l.everyone.find? (·.player_id = p)).any (·.display_name ≠ unique)
        let g2 := g1.setLobby lid (·.setMember p ({ · with display_name := unique }))
        (g2.setClient p ({ · with display_name := unique }), if changed then some lid else none)
    | _, _ => (g1, none)
  (g2, ((g2.clients.lookup p).map (·.display_name)).getD "", renamed)

/-! ## create -/

def handle_create (g : HubInner) (p peer_ip : String) (msg : InMsg) : HubStep :=
  if (g.lobby_id_of p).isSome then refuse g p .already_in_lobby
  else if MAX_LOBBIES ≤ g.lobbies.size then refuse g p .lobby_limit
  else
    let rename := match Text.nonempty msg.display_name with
      | some dn => [set_display_name p dn]
      | none => []
    (g, rename ++ [create_insert p peer_ip msg])

/-- The room a `create` makes. -/
def createdLobby (srv : Server) (g : HubInner) (o : Answer) (p peer_ip : String) (msg : InMsg) :
    Lobby :=
  let host := g.clients.lookup p
  let max_slots := clamp (msg.max_slots.getD 2) 2 MAX_SLOTS
  let allow_spectators := msg.allow_spectators.getD false
  let password := Text.nonempty msg.password
  let slot : Slot :=
    { player_id := p
      display_name := (host.map (·.display_name)).getD "Host"
      country := (host.map (·.country)).getD "" }
  { lobby_id := o.uuid
    name := (Text.nonempty msg.name).getD "Lobby"
    game_name := (Text.nonempty msg.game_name).getD "Unknown"
    game_version := normalize_game_version msg.game_version
    disc_fp := normalize_disc_fp msg.disc_fp
    host_player_id := p
    host_endpoint :=
      own_endpoint srv.parse_ip ((Text.nonempty msg.host_bind).getD "0.0.0.0:7777") peer_ip
    password_hash := password.map fun pw => srv.hash_password pw o.salt
    password_salt := password.map fun _ => o.salt
    max_slots := max_slots
    session_id := g.next_session
    slots := (List.replicate max_slots none).set 0 (some slot)
    allow_spectators := allow_spectators
    spectators := List.replicate (if allow_spectators then MAX_SPECTATORS else 0) none
    match_caps := sanitize_match_caps msg.match_caps }

/-- The next session id, which stops at the largest 32-bit number. -/
def nextSession (n : Nat) : Nat := min (n + 1) (2 ^ 32 - 1)

def create_insert_step (srv : Server) (o : Answer) (g : HubInner) (p peer_ip : String)
    (msg : InMsg) : HubStep :=
  let l := createdLobby srv g o p peer_ip msg
  let g' := { g with
    next_session := nextSession g.next_session
    lobbies := g.lobbies.insert o.uuid l }
  let g' := g'.setClient p fun c => { c with lobby_id := some o.uuid, game_name := l.game_name }
  let created : Created :=
    { lobby_id := o.uuid
      session_id := l.session_id
      host_endpoint := l.host_endpoint
      host_player_id := p
      display_name := ((g.clients.lookup p).map (·.display_name)).getD "Host"
      max_slots := l.max_slots
      allow_spectators := l.allow_spectators
      max_spectators := if l.allow_spectators then MAX_SPECTATORS else 0
      match_caps := l.match_caps }
  (g', [send_to p (.created created), broadcast_list])

/-! ## join -/

def required_mod_rows (caps : Option Value) : List Value :=
  match (caps.bind (·.get "mods")).bind Value.as_array with
  | none => []
  | some arr =>
    arr.filter fun v =>
      (Text.nonempty (((v.get "id").or (v.get "i")).bind Value.as_str)).isSome

def guest_has_pkg (offer : Option Value) (id ver : String) : Bool :=
  match (offer.bind fun o => (o.get "pkgs").or (o.get "mods")).bind Value.as_array with
  | none => false
  | some arr =>
    arr.any fun p =>
      ((p.get "id").or (p.get "i")).bind Value.as_str = some id &&
        ((p.get "ver").or (p.get "v")).bind Value.as_str = some ver

/-- The required mods that a joiner's offer lacks. -/
def missingMods (caps : Option Value) (offer : Option Value) : List Value :=
  (required_mod_rows caps).filter fun m =>
    let id := (((m.get "id").or (m.get "i")).bind Value.as_str).getD ""
    let ver := (((m.get "ver").or (m.get "v")).bind Value.as_str).getD ""
    id ≠ "" && !guest_has_pkg offer id ver

/-- What is wrong with a joiner's password. -/
def passwordError (srv : Server) (l : Lobby) (password : Option String) : Option Code :=
  match l.password_hash, l.password_salt with
  | some hash, some salt =>
    match Text.nonempty password with
    | none => some .need_password
    | some pw => if srv.hash_password pw salt ≠ hash then some .bad_password else none
  | _, _ => none

/-- The seat a joiner gets: a free player seat, else a free seat of the gallery. -/
def freeSeat (l : Lobby) : Option Nat :=
  if l.max_slots ≤ player_count l ∨ l.slots.all (·.isSome) then
    (l.spectators.findIdx? (·.isNone)).map spectator_seat
  else l.slots.findIdx? (·.isNone)

/-- A room with a joiner seated: everybody un-readied, every path report forgotten. -/
def Lobby.sit (l : Lobby) (seat : Nat) (s : Slot) (guest_endpoint : String) : Lobby :=
  { clear_lobby_ice_paths (l.setSeat seat (some s)).unready with guest_endpoint }

def seat_joiner_locked (srv : Server) (o : Answer) (g : HubInner)
    (lobby_id p peer_ip guest_bind : String) (password : Option String)
    (mod_offer : Option Value) : HubInner × SeatResult :=
  let row := g.clients.lookup p
  let requested_name := (row.map (·.display_name)).getD "Guest"
  match g.lobbies.lookup lobby_id with
  | none => (g, .Err .gone)
  | some l =>
    match passwordError srv l password with
    | some code => (g, .Err code)
    | none =>
      let missing := missingMods l.match_caps mod_offer
      if missing ≠ [] then (g, .NeedMods missing true)
      else
        match freeSeat l with
        | none => (g, .Err .full)
        | some seat =>
          let display_name := unique_display_name l requested_name (some p) o.uuid
          let slot : Slot :=
            { player_id := p, display_name, country := (row.map (·.country)).getD "" }
          let l' := l.sit seat slot (own_endpoint srv.parse_ip guest_bind peer_ip)
          let g' := g.setLobby lobby_id fun _ => l'
          let g' := g'.setClient p fun c =>
            { c with
              lobby_id := some lobby_id
              display_name := display_name
              game_name := if l.game_name = "" then c.game_name else l.game_name }
          (g', .Ok
            { slot := seat
              session_id := l.session_id
              host_endpoint := l.host_endpoint
              guest_endpoint := l'.guest_endpoint
              match_caps := l.match_caps })

/-- The first section of a join. -/
def handle_join (g : HubInner) (p peer_ip : String) (msg : InMsg) : HubStep :=
  match Text.nonempty msg.lobby_id with
  | none => (g, [send_to p (.bad_request msg.op.text)])
  | some lobby_id =>
    if (g.lobby_id_of p).isSome then refuse g p .already_in_lobby
    else
      let rename := match Text.nonempty msg.display_name with
        | some dn => [set_display_name p dn]
        | none => []
      (g, rename ++ [join_seat p peer_ip lobby_id msg])

/-- The checks of a join that come before the seat itself, all under one lock. -/
def joinOutcome (srv : Server) (o : Answer) (g : HubInner) (p peer_ip lobby_id : String)
    (msg : InMsg) : HubInner × SeatResult :=
  match g.lobbies.lookup lobby_id with
  | none => (g, .Err .gone)
  | some l =>
    let seat := seat_joiner_locked srv o g lobby_id p peer_ip
      ((Text.nonempty msg.guest_bind).getD "0.0.0.0:7778") msg.password msg.mod_offer
    -- Before anything else about the room, so that a block looks like a room that is not there.
    if l.host_player_id ≠ "" ∧ blocked_between g p l.host_player_id then (g, .Err .no_such_lobby)
    else if disc_fp_mismatch l.disc_fp (normalize_disc_fp msg.disc_fp) then (g, .Err .disc_mismatch)
    else
      match Text.nonempty msg.game_name with
      | some want =>
        if l.game_name ≠ want then (g, .Err .game_mismatch)
        else if l.game_version ≠ normalize_game_version msg.game_version then
          (g, .Err .version_mismatch)
        else seat
      | none =>
        if l.game_version ≠ normalize_game_version msg.game_version then
          (g, .Err .version_mismatch)
        else seat

def join_seat_step (srv : Server) (o : Answer) (g : HubInner) (p peer_ip lobby_id : String)
    (msg : InMsg) : HubStep :=
  match joinOutcome srv o g p peer_ip lobby_id msg with
  | (g, .Err code) => refuse g p code
  | (g, .NeedMods mods can_transfer) => (g, [join_need_mods p lobby_id mods can_transfer])
  | (g, .Ok seated) => (g, [join_ok p lobby_id seated])

def join_need_mods_step (g : HubInner) (p lobby_id : String) (mods : List Value)
    (can_transfer : Bool) : HubStep :=
  let g' := g.setClient p ({ · with pending_mod_lobby := some lobby_id })
  let host_id := ((g.lobbies.lookup lobby_id).map (·.host_player_id)).getD ""
  (g', [send_to p (.need_mods lobby_id host_id mods can_transfer)])

def join_ok_step (g : HubInner) (p lobby_id : String) (s : Seated) : HubStep :=
  let joined : Joined :=
    { lobby_id := lobby_id
      session_id := s.session_id
      local_slot := s.slot
      spectator := is_spectator_seat s.slot
      host_endpoint := s.host_endpoint
      guest_endpoint := s.guest_endpoint
      match_caps := s.match_caps }
  (g.setClient p ({ · with pending_mod_lobby := none }),
    [send_to p (.joined joined), emit_lobby_update lobby_id, broadcast_list,
      join_announce p lobby_id s.slot])

def join_announce_step (g : HubInner) (p lobby_id : String) (slot : Nat) : HubStep :=
  let name := ((g.clients.lookup p).map (·.display_name)).getD ""
  let line :=
    if is_spectator_seat slot then name ++ " has joined as a spectator." else name ++ " has joined."
  (g, [chat_system lobby_id line])

/-! ## leave, close, kick -/

/-- The room's members as they are told of its state. -/
def emit_lobby_update_step (now : Instant) (g : HubInner) (lid : String) : HubStep :=
  match g.lobbies.lookup lid with
  | none => (g, [])
  | some l =>
    let update : LobbyUpdate :=
      { lobby_id := l.lobby_id
        session_id := l.session_id
        host_endpoint := l.host_endpoint
        lan_endpoints := l.lan_endpoints
        guest_endpoint := l.guest_endpoint
        player_count := player_count l
        max_slots := l.max_slots
        host_player_id := l.host_player_id
        all_ready := (l.slots.filterMap id).all (·.ready) && 2 ≤ player_count l
        slots := seatRows g now 0 l.slots
        allow_spectators := l.allow_spectators
        max_spectators := l.spectators.length
        spectator_count := l.spectator_count
        spectators := seatRows g now SPECTATOR_SLOT_BASE l.spectators
        match_caps := l.match_caps }
    (g, l.member_ids.map fun m => send_to m (.lobby_update update))

def chat_system_step (g : HubInner) (lid text : String) : HubStep :=
  match g.lobbies.lookup lid with
  | none => (g, [])
  | some l => (g, l.member_ids.map fun m => send_to m (.chat_system lid text))

def destroy_lobby_step (g : HubInner) (lid : String) : HubStep :=
  match g.lobbies.lookup lid with
  | none => (g, [])
  | some l =>
    ({ g with
      lobbies := g.lobbies.erase lid
      clients := g.clients.modifyEach l.member_ids ({ · with lobby_id := none }) },
      l.member_ids.map (fun m => send_to m (.lobby_closed lid)) ++ [broadcast_list])

/-- A room with the seats of a player emptied. -/
def Lobby.vacate (l : Lobby) (p : String) : Lobby :=
  let cut := List.map fun s => if Lobby.holds p s then none else s
  clear_lobby_ice_paths
    { l with slots := cut l.slots, spectators := cut l.spectators, guest_endpoint := "" }

def client_leave_step (g : HubInner) (p : String) : HubStep :=
  match g.lobby_id_of p with
  | none => (g, [])
  | some lid =>
    let g := g.setClient p ({ · with lobby_id := none })
    match g.lobbies.lookup lid with
    | none => (g, [])
    | some l =>
      -- An automatch room dies when it can no longer be a match.
      let automatch_emptied := l.automatch && player_count l ≤ 2
      if l.host_player_id = p ∨ automatch_emptied then (g, [destroy_lobby lid])
      else
        let name := ((l.everyone.find? (·.player_id = p)).map (·.display_name)).getD ""
        let line := if name = "" then [] else [chat_system lid (name ++ " has left.")]
        (g.setLobby lid (·.vacate p), [emit_lobby_update lid, broadcast_list] ++ line)

def handle_close (g : HubInner) (p : String) : HubStep :=
  match g.lobby_id_of p with
  | none => (g, [])
  | some lid =>
    if (g.lobbies.lookup lid).any (·.host_player_id = p) then (g, [destroy_lobby lid]) else (g, [])

/-- A room with one seat emptied by the host. -/
def Lobby.kick (l : Lobby) (slot : Nat) : Lobby :=
  clear_lobby_ice_paths { (l.setSeat slot none).unready with guest_endpoint := "" }

def handle_kick (g : HubInner) (p : String) (msg : InMsg) : HubStep :=
  match msg.slot with
  | none => (g, [send_to p (.bad_request msg.op.text)])
  | some slot =>
    match g.lobby_id_of p with
    | none => (g, [])
    | some lid =>
      match g.lobbies.lookup lid with
      | none => (g, [])
      | some l =>
        if l.host_player_id ≠ p then refuse g p .not_host
        else
          match l.seat slot with
          | none => refuse g p .bad_slot
          | some none => refuse g p .empty_slot
          | some (some s) =>
            let victim := s.player_id
            if victim = l.host_player_id ∨ victim = p then refuse g p .cannot_kick
            else
              let g' := g.setLobby lid (·.kick slot)
              let g' := g'.setClient victim ({ · with lobby_id := none })
              let line := if s.display_name = "" then []
                else [chat_system lid (s.display_name ++ " was kicked.")]
              (g', [send_to victim (.kicked lid), emit_lobby_update lid, broadcast_list] ++ line)

/-! ## Seats -/

/-- A room with two seats exchanged by `move` or `seat_move`. -/
def Lobby.rearrange (l : Lobby) (i j : Nat) : Lobby :=
  clear_lobby_ice_paths (l.swapSeats i j).unready

def handle_move (g : HubInner) (p : String) (msg : InMsg) : HubStep :=
  match msg.from_slot.or msg.slot, msg.to_slot with
  | some i, some j =>
    if i = j then (g, [])
    else
      match g.lobby_id_of p with
      | none => refuse g p .not_in_lobby
      | some lid =>
        match g.lobbies.lookup lid with
        | none => refuse g p .gone
        | some l =>
          if l.host_player_id ≠ p then refuse g p .not_host
          else
            match l.seat i, l.seat j with
            | some (some _), some _ =>
              (g.setLobby lid (·.rearrange i j), [emit_lobby_update lid])
            | some none, some _ => refuse g p .empty_slot
            | _, _ => refuse g p .bad_slot
  | _, _ => refuse g p .bad_slot

def handle_seat_move (g : HubInner) (p : String) (msg : InMsg) : HubStep :=
  match msg.to_slot.or msg.target_slot with
  | none => refuse g p .bad_slot
  | some target =>
    match g.lobby_id_of p with
    | none => refuse g p .not_in_lobby
    | some lid =>
      match g.lobbies.lookup lid with
      | none => refuse g p .gone
      | some l =>
        match l.seat_of p with
        | none => refuse g p .not_seated
        | some i =>
          match l.seat target with
          | none => refuse g p .bad_slot
          | some cell =>
            if i = target then refuse g p .bad_slot
            else if cell.isSome then refuse g p .slot_taken
            else (g.setLobby lid (·.rearrange i target), [emit_lobby_update lid])

def handle_seat_swap_request (g : HubInner) (p : String) (msg : InMsg) : HubStep :=
  match msg.target_slot.or msg.to_slot with
  | none => (g, [])
  | some target =>
    match (g.lobby_id_of p).bind (g.lobbies.lookup ·) with
    | none => (g, [])
    | some l =>
      match l.seat_of p with
      | none => (g, [])
      | some i =>
        match l.seat target with
        | none => refuse g p .bad_slot
        | some cell =>
          if target = i then refuse g p .bad_slot
          else
            match cell with
            | none => refuse g p .empty_slot
            | some occupant =>
              let asker_name := (((l.seat i).join).map (·.display_name)).getD ""
              (g, [send_to occupant.player_id (.seat_swap_ask p asker_name i target)])

/-- A room after an accepted swap: the path reports go only when a seat changes tables. -/
def Lobby.trade (l : Lobby) (mine theirs : Nat) : Lobby :=
  let l' := (l.swapSeats mine theirs).unready
  if is_spectator_seat mine ≠ is_spectator_seat theirs then clear_lobby_ice_paths l' else l'

def handle_seat_swap_answer (g : HubInner) (p : String) (msg : InMsg) : HubStep :=
  let accept := msg.accept.getD false
  let asker := msg.asker_player_id.getD ""
  if asker = "" then (g, [])
  else
    match g.lobby_id_of p with
    | none => (g, [])
    | some lid =>
      match g.lobbies.lookup lid with
      | none => (g, [])
      | some l =>
        match l.seat_of p, l.seat_of asker with
        | some mine, some theirs =>
          if !accept ∨ mine = theirs then (g, [send_to asker (.seat_swap_result false)])
          else
            (g.setLobby lid (·.trade mine theirs),
              [send_to asker (.seat_swap_result true), emit_lobby_update lid])
        -- The asker left, or seats moved under us.
        | _, _ => (g, [send_to asker (.seat_swap_result false)])

/-! ## Room settings -/

/-- Forget the path reports of the players alone. -/
def Lobby.clearPlayerPaths (l : Lobby) : Lobby := l.mapPlayers Slot.clearPath

def handle_set_host_endpoint (srv : Server) (g : HubInner) (p peer_ip : String) (msg : InMsg) :
    HubStep :=
  let parsed := (msg.host_endpoint.bind parse_advertise_endpoint).filter
    (endpoint_is_clients_own srv.parse_ip · peer_ip)
  match parsed with
  | none => refuse g p .bad_host_endpoint
  | some endpoint =>
    match g.lobby_id_of p with
    | none => refuse g p .not_in_lobby
    | some lid =>
      match g.lobbies.lookup lid with
      | none => refuse g p .gone
      | some l =>
        if l.host_player_id ≠ p then refuse g p .not_host
        else
          let g' := g.setLobby lid fun l =>
            let l := if l.host_endpoint ≠ endpoint ∧ !caps_relay_via_ice l.match_caps then
              l.clearPlayerPaths else l
            { l with
              host_endpoint := endpoint
              lan_endpoints := sanitize_lan_endpoints msg.lan_endpoints }
          (g', [emit_lobby_update lid, broadcast_list, send_to p .host_endpoint_ok])

/-- Note a player's path report on its seat. -/
def Lobby.reportPath (l : Lobby) (p : String) (kind : IcePath) (now : Instant) : Lobby :=
  l.setPlayer p ({ · with ice_path := some kind, ice_path_at := some now })

def handle_path_report (now : Instant) (g : HubInner) (p : String) (msg : InMsg) : HubStep :=
  match msg.path.bind normalize_ice_path with
  | none => refuse g p .bad_path_report
  | some kind =>
    match g.lobby_id_of p with
    | none => refuse g p .not_in_lobby
    | some lid =>
      match g.lobbies.lookup lid with
      | none => refuse g p .gone
      | some l =>
        if l.slots.any (Lobby.holds p) then
          (g.setLobby lid (·.reportPath p kind now), [send_to p (.path_report_ok kind)])
        else refuse g p .not_in_lobby

def handle_set_match_caps (g : HubInner) (p : String) (msg : InMsg) : HubStep :=
  match sanitize_match_caps msg.match_caps with
  | none => refuse g p .bad_match_caps
  | some caps =>
    match g.lobby_id_of p with
    | none => refuse g p .not_in_lobby
    | some lid =>
      match g.lobbies.lookup lid with
      | none => refuse g p .gone
      | some l =>
        if l.host_player_id ≠ p then refuse g p .not_host
        else (g.setLobby lid ({ · with match_caps := some caps }), [emit_lobby_update lid])

def handle_set_ready (g : HubInner) (p : String) (msg : InMsg) : HubStep :=
  let ready := msg.ready.getD true
  let bios_offer := sanitize_bios_offer msg.bios_offer
  let mod_offer := sanitize_mod_offer msg.mod_offer
  let memcard_offer := sanitize_memcard_offer msg.memcard_offer
  match g.lobby_id_of p with
  | none => refuse g p .not_in_lobby
  | some lid =>
    match g.lobbies.lookup lid with
    | none => refuse g p .gone
    | some l =>
      let is_player := !((l.seat_of p).any is_spectator_seat)
      let g' := g.setLobby lid (·.setMember p fun s =>
        { s with
          ready := if is_player then ready else s.ready
          bios_offer := bios_offer.or s.bios_offer
          mod_offer := mod_offer.or s.mod_offer
          memcard_offer := memcard_offer.or s.memcard_offer })
      (g', [emit_lobby_update lid])

end RecompNet
