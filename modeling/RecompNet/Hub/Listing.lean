import RecompNet.Hub.State
import Mathlib.Data.List.Sort

/-!
# Seat rows and the lobby list

What the server tells its clients about rooms, seats and the players online (`ws_lobby.rs`). The lists
are built from the hub under its lock; `lowercase` is `str::to_lowercase`, which only orders the players.
-/

namespace RecompNet

/-- How long a waiting-room path report counts. -/
def HOST_RELAY_PATH_FRESH : Nat := 120 * NANOS

/-- Is the path report of a seat recent enough? -/
def Slot.path_fresh (now : Instant) (s : Slot) : Bool :=
  s.ice_path_at.any fun since => now - since ≤ HOST_RELAY_PATH_FRESH

def slot_json (now : Instant) (i : Nat) (slot : Slot) (account : String) : SlotRow where
  slot := i
  player_id := slot.player_id
  account := account
  display_name := slot.display_name
  ready := slot.ready
  bios_offer := slot.bios_offer
  mod_offer := slot.mod_offer
  memcard_offer := slot.memcard_offer
  country := if slot.country = "" then none else some slot.country
  path := slot.ice_path.map fun path => (path, slot.path_fresh now)

/-- The rows of the occupied seats of one table, the first of which has the index `start`. -/
def seatRows (g : HubInner) (now : Instant) (start : Nat) (table : List (Option Slot)) :
    List SlotRow :=
  table.zipIdx.filterMap fun (s, i) =>
    s.map fun slot => slot_json now (start + i) slot (account_of g slot.player_id)

/-- Does a room pass the filters of a list request? An automatch room never does. -/
def Lobby.listed (l : Lobby) (filter_game filter_version : Option String) : Bool :=
  !l.automatch && filter_game.all (fun x => x = "" || l.game_name = x) &&
    filter_version.all fun v => v = "" || l.game_version = v

def lobbyListRow (g : HubInner) (l : Lobby) : LobbyListRow where
  lobby_id := l.lobby_id
  name := l.name
  game_name := l.game_name
  game_version := l.game_version
  player_count := player_count l
  max_slots := l.max_slots
  has_password := l.password_hash.isSome
  lobby_kind := (((l.match_caps.bind (·.get "lobby_kind")).bind Value.as_i64)).getD 0
  host_endpoint := l.host_endpoint
  lan_endpoints := l.lan_endpoints
  host_country := ((l.everyone.find? (·.player_id = l.host_player_id)).map (·.country)).getD ""
  allow_spectators := l.allow_spectators
  max_spectators := l.spectators.length
  spectator_count := l.spectator_count
  host_rtt_ms := ((g.clients.lookup l.host_player_id).map (·.probe_rtt_ms)).getD (-1)

/-- The short public form of a connection id. -/
def tag (player_id : String) : String := String.ofList (player_id.toList.take 8)

def onlinePlayerRow (g : HubInner) (c : ClientMeta) : OnlinePlayerRow :=
  let lobby := c.lobby_id.bind (g.lobbies.lookup ·)
  { display_name := c.display_name
    country := c.country
    lobby_id := (lobby.map (·.lobby_id)).getD ""
    lobby_name := (lobby.map (·.name)).getD ""
    hosting := lobby.any (·.host_player_id = c.player_id)
    tag := tag c.player_id
    account := c.account_id
    game_name := c.game_name }

/-- Does a client count as online in a filtered list? -/
def ClientMeta.listed (require_login : Bool) (filter_game : Option String) (c : ClientMeta) : Bool :=
  (!require_login || c.account.isSome) && filter_game.all fun x => x = "" || c.game_name = x

/-- A list before it is sent. -/
structure LobbyList where
  lobbies : List LobbyListRow
  players : List OnlinePlayerRow

/-- The frame of a list. -/
def LobbyList.frame (v : LobbyList) : OutMsg := .lobby_list v.lobbies v.players

/-- The parts of the server's configuration that the lists read. -/
structure ListConfig where
  require_login : Bool
  lowercase : String → String

def lobby_list_json_filtered (cfg : ListConfig) (g : HubInner)
    (filter_game filter_version : Option String) : LobbyList where
  lobbies := (g.lobbies.values.filter (·.listed filter_game filter_version)).map (lobbyListRow g)
  players :=
    ((g.clients.values.filter (·.listed cfg.require_login filter_game)).map
      (onlinePlayerRow g)).insertionSort
        fun a b => cfg.lowercase a.display_name ≤ cfg.lowercase b.display_name

def lobby_list_json (cfg : ListConfig) (g : HubInner) : LobbyList :=
  lobby_list_json_filtered cfg g none none

/-- The unfiltered list, or the one of a title. -/
def scopedList (cfg : ListConfig) (g : HubInner) (scope : String) : LobbyList :=
  if scope = "" then lobby_list_json cfg g else lobby_list_json_filtered cfg g (some scope) none

/-- The first connection, in iteration order, whose id begins with a tag. -/
def clientWithTag (g : HubInner) (t : String) : Option String :=
  g.clients.keys.find? (Text.starts_with · t)

/-- The list as one particular client should see it, without the rooms and players that a block with
that client hides. -/
def lobby_list_json_for (cfg : ListConfig) (g : HubInner) (player_id : String) : LobbyList :=
  let v := scopedList cfg g (game_scope_for g player_id)
  { lobbies := v.lobbies.filter fun row =>
      match g.lobbies.lookup row.lobby_id with
      | none => true
      | some l => !blocked_between g player_id l.host_player_id
    players := v.players.filter fun row =>
      if (g.clients.lookup player_id).any fun c => Text.starts_with c.player_id row.tag then true
      else match clientWithTag g row.tag with
        | none => true
        | some other => !blocked_between g player_id other }

end RecompNet
