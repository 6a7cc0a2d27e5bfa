import RecompNet.Hub.Rooms

/-!
# Starting a match

`handle_start` and the two sections of `start_lobby` (`ws_lobby.rs`): the gate and the session id under
one lock, the launch under the next.
-/

namespace RecompNet

open Section

/-- The host that pressed Play, when there is one. -/
def Starter.initiator : Starter → Option String
  | .host p _ => some p
  | .server _ => none

def handle_start (g : HubInner) (p : String) (msg : InMsg) : HubStep :=
  match g.lobby_id_of p with
  | none => refuse g p .not_in_lobby
  | some lid =>
    match g.lobbies.lookup lid with
    | none => refuse g p .gone
    | some l =>
      if l.host_player_id ≠ p then refuse g p .not_host
      else
        (g, [start_prepare (.host p msg.match_caps) lid (sanitize_match_caps msg.match_caps) true])

/-- The first section of `start_lobby`: check the gate and allocate the session id. -/
def start_prepare_step (now : Instant) (g : HubInner) (starter : Starter) (lid : String)
    (fresh_caps : Option Value) (allow_ice : Bool) : HubStep :=
  match g.lobbies.lookup lid with
  | none => (g, [start_failed starter lid allow_ice .gone])
  | some l =>
    if player_count l < 2 then (g, [start_failed starter lid allow_ice .need_players])
    else
      match start_transport now l (fresh_caps.or l.match_caps) allow_ice with
      | .error _ => (g, [start_failed starter lid allow_ice .relay_unavailable])
      | .ok transport =>
        let host_spectates := (starter.initiator.bind l.seat_of).any is_spectator_seat
        ({ g with next_session := nextSession g.next_session },
          [start_commit starter lid fresh_caps g.next_session host_spectates transport allow_ice])

/-- A room whose match begins. -/
def Lobby.launch (l : Lobby) (fresh_caps : Option Value) (sid : Nat) : Lobby :=
  { l.unready with match_caps := fresh_caps.or l.match_caps, session_id := sid, started := true }

/-- The launch frame of a room, after `Lobby.launch`. -/
def launchOf (now : Instant) (g : HubInner) (l : Lobby) (host_spectates : Bool)
    (transport : StartTransport) : Launch where
  lobby_id := l.lobby_id
  session_id := l.session_id
  host_endpoint := l.host_endpoint
  guest_endpoint := l.guest_endpoint
  player_count := player_count l
  max_slots := l.max_slots
  slots := seatRows g now 0 l.slots
  spectators := seatRows g now SPECTATOR_SLOT_BASE l.spectators
  spectator_count := l.spectator_count
  spectator_relay_base := l.max_slots + (if host_spectates then 1 else 0)
  host_spectates := host_spectates
  transport := transport
  relay_host_slot :=
    if transport = .Host then l.slots.findIdx? (Lobby.holds l.relay_host) else none
  match_caps := l.match_caps
  relay_via_ice := caps_relay_via_ice l.match_caps

/-- The second section of `start_lobby`: commit the room's state and broadcast the launch. -/
def start_commit_step (now : Instant) (g : HubInner) (starter : Starter) (lid : String)
    (fresh_caps : Option Value) (sid : Nat) (host_spectates : Bool) (transport : StartTransport)
    (allow_ice : Bool) : HubStep :=
  match g.lobbies.lookup lid with
  | none => (g, [start_failed starter lid allow_ice .gone])
  | some l =>
    let l' := l.launch fresh_caps sid
    let launch := launchOf now g l' host_spectates transport
    (g.setLobby lid fun _ => l', l'.member_ids.map fun m => send_to m (.launch launch))

/-- Why the gate refused the host, evaluated again for its error. -/
def start_reason_step (now : Instant) (g : HubInner) (p lid : String) (sent_caps : Option Value) :
    HubStep :=
  let reason := (g.lobbies.lookup lid).bind fun l =>
    match start_transport now l ((sanitize_match_caps sent_caps).or l.match_caps) true with
    | .error why => some why
    | .ok _ => none
  match reason with
  | some why => (g, [send_to p (.start_refused why)])
  | none => refuse g p .relay_unavailable

/-- A start task that fails for another reason tells the members and closes the room. -/
def start_abort_step (g : HubInner) (lid : String) (code : Code) : HubStep :=
  let members := ((g.lobbies.lookup lid).map (·.member_ids)).getD []
  (g, members.map (fun m => send_to m (.error code)) ++ [destroy_lobby lid])

end RecompNet
