import RecompNet.Automatch.Queue

/-!
# The wire

The messages of the WebSocket protocol (`ws_lobby.rs`), as data. `InMsg` is a parsed client message with
its optional fields; `OutMsg` has one constructor for each frame the server builds, with the fields of
the JSON object. Error codes and the other closed sets of texts are enumerations whose constructors are
the texts themselves.
-/

namespace RecompNet

/-- The `op` of a client message. -/
inductive ClientOp where
  | hello | list | ping | create | join | set_ready | chat | server_chat | set_match_caps
  | set_host_endpoint | path_report | start | leave | kick | move | seat_move | seat_swap_request
  | seat_swap_answer | close | signal | probe_signal | mod_signal | mod_xfer_start | mod_xfer_cancel
  | mod_xfer_fail | get_turn_credentials | set_blocks | automatch_rulesets | automatch_queue
  | automatch_cancel | automatch_rtt | desync_report | chat_report | automatch_accept
  | other (detail : String)
  deriving DecidableEq

/-- The text of an `op`. -/
def ClientOp.text : ClientOp → String
  | .hello => "hello" | .list => "list" | .ping => "ping" | .create => "create" | .join => "join"
  | .set_ready => "set_ready" | .chat => "chat" | .server_chat => "server_chat"
  | .set_match_caps => "set_match_caps" | .set_host_endpoint => "set_host_endpoint"
  | .path_report => "path_report" | .start => "start" | .leave => "leave" | .kick => "kick"
  | .move => "move" | .seat_move => "seat_move" | .seat_swap_request => "seat_swap_request"
  | .seat_swap_answer => "seat_swap_answer" | .close => "close" | .signal => "signal"
  | .probe_signal => "probe_signal" | .mod_signal => "mod_signal"
  | .mod_xfer_start => "mod_xfer_start" | .mod_xfer_cancel => "mod_xfer_cancel"
  | .mod_xfer_fail => "mod_xfer_fail" | .get_turn_credentials => "get_turn_credentials"
  | .set_blocks => "set_blocks" | .automatch_rulesets => "automatch_rulesets"
  | .automatch_queue => "automatch_queue" | .automatch_cancel => "automatch_cancel"
  | .automatch_rtt => "automatch_rtt" | .desync_report => "desync_report"
  | .chat_report => "chat_report" | .automatch_accept => "automatch_accept"
  | .other detail => detail

/-- One entry of a queue request's titles. -/
structure InTitle where
  game_name : String := ""
  game_version : String := ""
  disc_fp : String := ""
  ruleset_id : String := ""
  max_slots : Option Nat := none
  deriving DecidableEq

/-- A parsed client message. -/
structure InMsg where
  op : ClientOp
  display_name : Option String := none
  session : Option String := none
  name : Option String := none
  game_name : Option String := none
  game_version : Option String := none
  disc_fp : Option String := none
  password : Option String := none
  max_slots : Option Nat := none
  allow_spectators : Option Bool := none
  host_bind : Option String := none
  host_endpoint : Option String := none
  ice_relay : Option Bool := none
  lan_endpoints : Option (List String) := none
  guest_bind : Option String := none
  lobby_id : Option String := none
  to_player_id : Option String := none
  type : Option Int := none
  flag : Option Int := none
  text : Option String := none
  ready : Option Bool := none
  bios_offer : Option Value := none
  mod_offer : Option Value := none
  memcard_offer : Option Value := none
  match_caps : Option Value := none
  slot : Option Nat := none
  from_slot : Option Nat := none
  target_slot : Option Nat := none
  accept : Option Bool := none
  asker_player_id : Option String := none
  to_slot : Option Nat := none
  path : Option String := none
  error : Option String := none
  titles : Option (List InTitle) := none
  ruleset_id : Option String := none
  mods_enabled : Option Bool := none
  mod_exempt : Option (List String) := none
  mid : Option String := none
  mids : Option (List String) := none
  accounts : Option (List String) := none
  game : Option String := none
  platform : Option String := none
  server : Option String := none
  lobby : Option String := none
  scope : Option String := none
  reason : Option String := none
  note : Option String := none
  match_id : Option String := none
  rtt_ms : Option Int := none

/-- The `code` of an error frame. -/
inductive Code where
  | name_rejected | lobby_name_rejected | password_invalid | session_invalid | login_required
  | already_in_lobby | lobby_limit | gone | no_such_lobby | disc_mismatch | game_mismatch
  | version_mismatch | need_password | bad_password | full | need_mods | not_host | bad_slot
  | empty_slot | cannot_kick | not_in_lobby | not_seated | slot_taken | bad_host_endpoint
  | bad_path_report | bad_match_caps | need_players | relay_unavailable | no_game | bad_report
  | need_account | message_expired | cannot_report | rate_limited | report_failed | automatch_off
  | already_queued | mods_not_pooled | queue_full | unknown_ruleset | need_disc_fp
  | version_not_pooled | slots_not_pooled
  deriving DecidableEq

/-- A waiting-room path report. -/
inductive IcePath where
  | direct | relay | fail
  deriving DecidableEq

/-- Why `host_relay_decision` or `start_transport` refuses. -/
inductive StartRefusal where
  | no_host_relay_ask | host_relay_no_endpoint | host_relay_spectators | host_relay_unproven
  | ice_needs_two_players
  deriving DecidableEq

/-- How a match that may start is carried. -/
inductive StartTransport where
  | Host | Ice
  deriving DecidableEq

/-- The `reason` of an `automatch_requeue` frame. -/
inductive RequeueReason where
  | peer_declined | peer_timeout | peer_left | lobby_limit | host_unreachable
  deriving DecidableEq

/-- The `reason` of an `automatch_cancelled` frame. -/
inductive CancelReason where
  | cancelled | declined | timeout
  deriving DecidableEq

/-- The `relay_role` of an `automatch_found` frame. -/
inductive RelayRole where
  | host | guest
  deriving DecidableEq

/-- One seat of a `lobby_update` or `launch`. -/
structure SlotRow where
  slot : Nat
  player_id : String
  account : String
  display_name : String
  ready : Bool
  bios_offer : Option Value
  mod_offer : Option Value
  memcard_offer : Option Value
  country : Option String
  path : Option (IcePath × Bool)

/-- One room of a `lobby_list`. -/
structure LobbyListRow where
  lobby_id : String
  name : String
  game_name : String
  game_version : String
  player_count : Nat
  max_slots : Nat
  has_password : Bool
  lobby_kind : Int
  host_endpoint : String
  lan_endpoints : List String
  host_country : String
  allow_spectators : Bool
  max_spectators : Nat
  spectator_count : Nat
  host_rtt_ms : Int

/-- One connected client of a `lobby_list`. -/
structure OnlinePlayerRow where
  display_name : String
  country : String
  lobby_id : String
  lobby_name : String
  hosting : Bool
  tag : String
  account : String
  game_name : String
  deriving DecidableEq

/-- The reply to `create`. -/
structure Created where
  lobby_id : String
  session_id : Nat
  host_endpoint : String
  host_player_id : String
  display_name : String
  max_slots : Nat
  allow_spectators : Bool
  max_spectators : Nat
  match_caps : Option Value

/-- The reply to `join`, and the seating notice of an automatch room. -/
structure Joined where
  lobby_id : String
  session_id : Nat
  local_slot : Nat
  spectator : Bool
  host_endpoint : String
  guest_endpoint : String
  automatch : Bool := false
  relay_host_slot : Option Nat := none
  match_caps : Option Value

/-- The state of a room, as its members are told. -/
structure LobbyUpdate where
  lobby_id : String
  session_id : Nat
  host_endpoint : String
  lan_endpoints : List String
  guest_endpoint : String
  player_count : Nat
  max_slots : Nat
  host_player_id : String
  all_ready : Bool
  slots : List SlotRow
  allow_spectators : Bool
  max_spectators : Nat
  spectator_count : Nat
  spectators : List SlotRow
  match_caps : Option Value

/-- The start of a match. -/
structure Launch where
  lobby_id : String
  session_id : Nat
  host_endpoint : String
  guest_endpoint : String
  player_count : Nat
  max_slots : Nat
  slots : List SlotRow
  spectators : List SlotRow
  spectator_count : Nat
  spectator_relay_base : Nat
  host_spectates : Bool
  transport : StartTransport
  relay_host_slot : Option Nat
  match_caps : Option Value
  relay_via_ice : Bool

/-- One queue type of an `automatch_rulesets_ok`. -/
structure RulesetRow where
  id : String
  label : String
  caps_summary : String
  game_version : String
  max_slots : Nat
  match_caps : Value

/-- One bucket of an `automatch_queued` or `automatch_status`. -/
structure PoolRow where
  game_name : String
  ruleset_id : String
  pool : Nat
  deriving DecidableEq

/-- An offered match, as one side is told. -/
structure Found where
  match_id : String
  game_name : String
  game_version : String
  ruleset_id : String
  ruleset_label : String
  opponent_handle : String
  opponent_username : String
  opponent_country : String
  est_rtt_ms : Int
  accept_secs : Nat
  relay_role : RelayRole
  floor : Option DelayFloor
  match_caps : Option Value

/-- The fields of a relayed signal. -/
structure SignalFrame where
  lobby_id : String
  from_player_id : String
  type : Int
  flag : Int
  text : String
  deriving DecidableEq

/-- The fields of a relayed chat line. -/
structure ChatFrame where
  mid : String
  from_player_id : String
  from_account : String
  «from» : String
  text : String
  deriving DecidableEq

/-- A frame the server sends. -/
inductive OutMsg where
  /-- The empty text frame that answers a WebSocket ping. -/
  | empty
  | welcome (player_id : String)
  | error (code : Code)
  | bad_request (request_op : String)
  | unknown_op (detail : String)
  | mod_not_approved (ruleset_id mod : String)
  | cooldown (retry_secs : Nat)
  | start_refused (reason : StartRefusal)
  | hello_ok (display_name : String)
  | pong
  | lobby_list (lobbies : List LobbyListRow) (players : List OnlinePlayerRow)
  | created (c : Created)
  | joined (j : Joined)
  | need_mods (lobby_id host_player_id : String) (mods : List Value) (can_transfer : Bool)
  | lobby_update (u : LobbyUpdate)
  | lobby_closed (lobby_id : String)
  | left
  | kicked (lobby_id : String)
  | seat_swap_ask (asker_player_id asker_name : String) (from_slot target_slot : Nat)
  | seat_swap_result (accept : Bool)
  | host_endpoint_ok
  | path_report_ok (path : IcePath)
  | launch (l : Launch)
  | chat (lobby_id : String) (line : ChatFrame)
  | chat_system (lobby_id text : String)
  | server_chat (game_name country : String) (line : ChatFrame)
  | signal (s : SignalFrame)
  | probe_signal (s : SignalFrame)
  | mod_signal (s : SignalFrame)
  | mod_xfer_pull (from_player_id lobby_id : String) (mods : List Value)
  | mod_xfer_fail (error : String)
  | turn_credentials (error : Option String)
  | automatch_rulesets_ok (rulesets : List RulesetRow)
  | automatch_queued (titles : List PoolRow) (relay_endpoint : Option String) (ice_relay : Bool)
  | automatch_rtt_ok (rtt_ms : Int)
  | automatch_cancelled (reason : CancelReason) (cooldown_secs : Option Nat)
  | automatch_accept_ok (accept : Bool)
  | automatch_requeue (reason : RequeueReason) (queued : Bool)
  | automatch_found (f : Found)
  | automatch_status (queued_secs : Nat) (est_rtt_ms : Int) (titles : List PoolRow)
  | chat_report_ok (mid : String)

end RecompNet
