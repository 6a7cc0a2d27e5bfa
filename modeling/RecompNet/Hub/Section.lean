import RecompNet.Automatch.Rulesets
import RecompNet.Hub.Endpoint
import RecompNet.Hub.Start

/-!
# Critical sections of the server

The world the handlers share and the critical sections they are made of. A handler of `ws_lobby.rs` takes
the hub lock, the queue lock or the database once for each section, and what it carries across is the
argument of the next section; a section's constructor is named after the function it is part of. Code
between two locks runs with the section before it.
-/

namespace RecompNet

/-- Why an account was charged a strike. -/
inductive DodgeKind where
  | decline | timeout
  deriving DecidableEq

/-- A row of `automatch_strikes`, its time in whole seconds. -/
structure Strike where
  player_id : String
  kind : DodgeKind
  game_name : String
  created_at : Nat
  deriving DecidableEq

def STRIKE_WINDOW_SECS : Nat := 24 * 60 * 60

/-- Seconds an account must wait before queueing again. -/
def cooldown_secs (strikes : List Strike) (wall : Nat) (account_id : String) (ladder : List Nat) :
    Nat :=
  let recent := strikes.filter fun s =>
    s.player_id = account_id && wall ≤ s.created_at + STRIKE_WINDOW_SECS
  if recent = [] ∨ ladder = [] then 0
  else
    let penalty := ladder.getD (min (recent.length - 1) (ladder.length - 1)) 0
    let last := (recent.map (·.created_at)).foldl max 0
    penalty - (wall - last)

/-- The server's own task that starts an automatch room, asleep until `wake_at`. `deadline` is when the
proof window closes, known once the settle delay is over. -/
structure StartTask where
  lobby_id : String
  match_id : String
  a : Ticket
  b : Ticket
  ice_pair : Bool
  wake_at : Instant
  deadline : Option Instant := none
  deriving DecidableEq

/-- Everything the handlers share: the hub, the queue, the strikes of the database, the two clocks, the
sleeping start tasks, the uuids drawn so far, and the frames put on each connection's channel, oldest
first. -/
structure World where
  hub : HubInner := {}
  automatch : QueueInner := {}
  strikes : List Strike := []
  now : Instant := 0
  wall : Nat := 0
  spawned : Assoc.Map String StartTask := ∅
  issued : List String := []
  sent : List (String × OutMsg) := []

/-- What stays fixed while the server runs: its configuration, the loaded rulesets, and the library
functions and tables the handlers call. -/
structure Server where
  require_login : Bool := false
  automatch_rulesets : Rulesets
  automatch_dodge_cooldowns : List Nat := [60]
  automatch_queue_max : Nat := 256
  automatch_accept_secs : Nat := 15
  automatch_rematch_cooldown_secs : Nat := 300
  automatch_start_delay_secs : Nat := 3
  /-- `chat_filter::apply`. -/
  apply : String → String := id
  hash_password : String → Salt → Hash
  parse_ip : String → Option IpAddr
  /-- `WsLobbyHub::country_for`. -/
  country_for : String → String := fun _ => ""
  /-- `str::to_lowercase`. -/
  lowercase : String → String := id

def Server.lists (srv : Server) : ListConfig := ⟨srv.require_login, srv.lowercase⟩

/-- What became of the session token of a `hello`. -/
inductive SessionAnswer where
  | invalid
  /-- A valid token for a row that is gone. -/
  | no_row
  | player (p : Player)

/-- `moderation::Submitted`. -/
inductive Submitted where
  | Ok | Duplicate | RateLimited | Failed
  deriving DecidableEq

/-- What the outside answers to a section: fresh uuids, random bytes, the token check and the player row,
whether a socket or the database took a write, and what the report store and the TURN minter say. -/
structure Answer where
  uuid : String
  match_ids : List String
  salt : Salt := []
  session : SessionAnswer := .invalid
  welcome_sent : Bool := true
  db_ok : Bool := true
  submitted : Submitted := .Ok
  turn : Option String := none

/-- A uuid is never empty and never repeats, and there is one for every pair that can form. -/
def Answer.possible (o : Answer) (w : World) : Prop :=
  o.uuid ≠ "" ∧ o.uuid ∉ w.issued ∧ o.uuid ∉ o.match_ids ∧ o.match_ids.Nodup ∧
    (∀ id ∈ o.match_ids, id ≠ "" ∧ id ∉ w.issued) ∧
    w.automatch.tickets.length ≤ 2 * o.match_ids.length

instance (o : Answer) (w : World) : Decidable (o.possible w) := by
  unfold Answer.possible
  infer_instance

/-- A `moderation::ChatReport`. -/
structure ChatReport where
  reporter_id : String
  accused_id : String
  message_id : String
  message_text : String
  accused_name : String
  context : String
  transcript : String
  message_count : Nat
  scope : String
  lobby_id : String
  game_name : String
  game_version : String
  platform : String
  server : String
  reason : String
  note : String
  deriving DecidableEq

/-- A queue request, with what its first section read from the connection. -/
structure QueueRequest where
  player_id : String
  account_id : String
  handle : String
  username : String
  country : String
  known_rtt : Int
  msg : InMsg
  titles : List InTitle := []

/-- A seated join. -/
structure Seated where
  slot : Nat
  session_id : Nat
  host_endpoint : String
  guest_endpoint : String
  match_caps : Option Value

/-- The outcome of seating a joiner. -/
inductive SeatResult where
  | Err (code : Code)
  | NeedMods (mods : List Value) (can_transfer : Bool)
  | Ok (s : Seated)

/-- Who is starting a match: the host that pressed Play, with the caps it sent, or the server. -/
inductive Starter where
  | host (player_id : String) (sent_caps : Option Value)
  | server (task : StartTask)

/-- What `form_match` settled before it takes the hub lock. -/
structure MatchPlan where
  p : Pending
  rs : Ruleset
  a_hosts : Bool
  caps : Value

/-- A critical section still to run, with the locals it carries. -/
inductive Section where
  -- shared by several handlers
  | send_to (player_id : String) (msg : OutMsg)
  | emit_lobby_update (lobby_id : String)
  | broadcast_list
  | chat_system (lobby_id text : String)
  | destroy_lobby (lobby_id : String)
  | client_leave (player_id : String)
  -- handle_socket
  | welcome (player_id : String)
  | list_tick (player_id : String)
  | clients_remove (player_id : String)
  -- handle_text
  | handle_text (player_id peer_ip : String) (msg : Except String InMsg)
  | dispatch (player_id peer_ip : String) (msg : InMsg)
  | hello_session (player_id : String) (name game : Option String)
  | hello_identity (player_id : String) (name game : Option String)
  | list_reply (player_id : String) (game version : Option String)
  -- handle_create, handle_join
  | set_display_name (player_id name : String)
  | create_insert (player_id peer_ip : String) (msg : InMsg)
  | join_seat (player_id peer_ip lobby_id : String) (msg : InMsg)
  | join_need_mods (player_id lobby_id : String) (mods : List Value) (can_transfer : Bool)
  | join_ok (player_id lobby_id : String) (seated : Seated)
  | join_announce (player_id lobby_id : String) (slot : Nat)
  -- start_lobby
  | start_prepare (starter : Starter) (lobby_id : String) (fresh_caps : Option Value)
      (allow_ice : Bool)
  | start_commit (starter : Starter) (lobby_id : String) (fresh_caps : Option Value)
      (sid : Nat) (host_spectates : Bool) (transport : StartTransport) (allow_ice : Bool)
  | start_failed (starter : Starter) (lobby_id : String) (allow_ice : Bool) (code : Code)
  | start_reason (player_id lobby_id : String) (sent_caps : Option Value)
  | start_abort (lobby_id : String) (code : Code)
  -- handle_chat_report
  | chat_report_record (player_id mid : String) (report : ChatReport)
  -- handle_automatch_queue
  | queue_account (req : QueueRequest)
  | queue_game (req : QueueRequest)
  | queue_cooldown (req : QueueRequest) (keys : List MatchKey)
  | queue_waiting (req : QueueRequest) (keys : List MatchKey)
  | queue_blocks (req : QueueRequest) (keys : List MatchKey)
  | queue_ticket (req : QueueRequest) (keys : List MatchKey) (blocks : List String)
  | queue_push (req : QueueRequest) (ticket : Ticket)
  | queue_pools (ticket : Ticket) (keys : List MatchKey) (rows : List PoolRow)
  | queue_set_rtt (player_id : String) (rtt_ms : Int)
  | queue_remove (player_id : String)
  | queue_answer (player_id : String) (accept : Bool) (match_id : Option String)
  -- settle_declined, automatch_tick, run_pairing
  | settle_declined (p : Pending) (loser : String) (kind : DodgeKind)
  | settle_notify (p : Pending) (loser : String) (kind : DodgeKind)
  | requeue_if_here (t : Ticket) (reason : RequeueReason)
  | requeue_front (t : Ticket)
  | record_strike (account_id : String) (kind : DodgeKind) (game_name : String)
  | take_expired
  | run_pairing
  | status_push
  -- form_match
  | form_match (p : Pending)
  | form_match_room (plan : MatchPlan)
  | form_match_gone (p : Pending)
  | form_match_joined (plan : MatchPlan) (lobby_id : String) (session_id : Nat) (seat : Nat)
  | form_match_spawn (task : StartTask)

namespace World

/-- Put a frame on a connection's channel, when the connection is registered. -/
def send (w : World) (player_id : String) (msg : OutMsg) : World :=
  if w.hub.connected player_id then { w with sent := w.sent ++ [(player_id, msg)] } else w

/-- Replace the hub. -/
def setHub (w : World) (g : HubInner) : World := { w with hub := g }

/-- Replace the queue. -/
def setQueue (w : World) (q : QueueInner) : World := { w with automatch := q }

@[simp] lemma send_hub (w : World) (p : String) (m : OutMsg) : (w.send p m).hub = w.hub := by
  unfold send
  split <;> rfl

@[simp] lemma send_automatch (w : World) (p : String) (m : OutMsg) :
    (w.send p m).automatch = w.automatch := by
  unfold send
  split <;> rfl

@[simp] lemma send_issued (w : World) (p : String) (m : OutMsg) :
    (w.send p m).issued = w.issued := by
  unfold send
  split <;> rfl

@[simp] lemma send_now (w : World) (p : String) (m : OutMsg) : (w.send p m).now = w.now := by
  unfold send
  split <;> rfl

@[simp] lemma send_spawned (w : World) (p : String) (m : OutMsg) :
    (w.send p m).spawned = w.spawned := by
  unfold send
  split <;> rfl

end World

end RecompNet
