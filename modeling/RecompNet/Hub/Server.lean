import RecompNet.Lib.Interleave
import RecompNet.Names
import RecompNet.Hub.Talk
import RecompNet.Hub.Match

/-!
# The server

`handle_text` with its gates and its dispatch, every critical section as a step of the world, and the
server as an interleaving machine: a task for each connection's handler, for its list tick, for the
automatch driver and for each automatch room's start. A connection handles one message at a time. When
its socket closes its tick is aborted; a tick that already read the hub may still put its list on the
channel.
-/

namespace RecompNet

open Section

/-! ## handle_text -/

def PASSWORD_MAX_BYTES : Nat := 128

def password_is_invalid (pw : String) : Bool :=
  PASSWORD_MAX_BYTES < Text.byte_len pw || pw.toList.any Text.is_control

/-- Clean the names of a message, or refuse the whole message. -/
def sanitize_in_place (srv : Server) (msg : InMsg) : Except Code InMsg :=
  let msg := { msg with
    display_name := Names.sanitize msg.display_name
    name := Names.sanitize msg.name
    game_name := Names.sanitize msg.game_name }
  if msg.display_name.any (Names.is_refused srv.apply) then .error .name_rejected
  else if msg.name.any (Names.is_refused srv.apply) then .error .lobby_name_rejected
  else if msg.password.any password_is_invalid then .error .password_invalid
  else .ok msg

/-- Is an op served before the sign-in on a closed server? -/
def ClientOp.open_to_guests : ClientOp → Bool
  | .hello | .ping => true
  | _ => false

/-- Parse, clean and gate one text message. The parser's error carries the op of the text. -/
def handle_text_step (srv : Server) (g : HubInner) (p peer_ip : String)
    (text : Except String InMsg) : HubStep :=
  match text with
  | .error op => (g, [send_to p (.bad_request op)])
  | .ok msg =>
    match sanitize_in_place srv msg with
    | .error code => refuse g p code
    | .ok msg =>
      if srv.require_login ∧ !msg.op.open_to_guests ∧ !g.authed p then (g, [])
      else (g, [dispatch p peer_ip msg])

/-- The token of a `hello`, checked and looked up, and the account attached. -/
def hello_session_step (g : HubInner) (o : Answer) (p : String) (name game : Option String) :
    HubStep :=
  match o.session with
  | .invalid => (g, [send_to p (.error .session_invalid), hello_identity p name game])
  | .no_row => (g, [hello_identity p name game])
  | .player player =>
    (g.setClient p ({ · with account := some player }),
      [hello_identity p (some player.handle) game])

/-- The identity part of a `hello`, and its answer. -/
def hello_identity_step (srv : Server) (g : HubInner) (o : Answer) (p : String)
    (name game : Option String) : HubStep :=
  let (g', accepted, renamed) := apply_identity g p name game o.uuid
  if srv.require_login ∧ !g'.authed p then refuse g' p .login_required
  else (g', send_to p (.hello_ok accepted) :: renamed.toList.map emit_lobby_update)

def handle_hello (g : HubInner) (p : String) (msg : InMsg) : HubStep :=
  let game := Text.nonempty msg.game_name
  let name := Text.nonempty msg.display_name
  match Text.nonempty msg.session with
  | some _ => (g, [hello_session p name game])
  | none => (g, [hello_identity p name game])

def handle_list (g : HubInner) (p : String) (msg : InMsg) : HubStep :=
  let game := Text.nonempty msg.game_name
  let version := Text.nonempty (msg.game_version.map Text.trim)
  (g.recordTitle p game, [list_reply p game version])

/-- The reply to `list`. -/
def list_reply_step (srv : Server) (g : HubInner) (p : String) (game version : Option String) :
    HubStep :=
  (g, [send_to p (lobby_list_json_filtered srv.lists g game version).frame])

def handle_set_display_name (g : HubInner) (p name : String) : HubStep :=
  (g.setClient p ({ · with display_name := name }), [])

/-- The first section of the handler of each op. -/
def dispatch_step (srv : Server) (o : Answer) (now : Instant) (g : HubInner) (p peer_ip : String)
    (msg : InMsg) : HubStep :=
  match msg.op with
  | .hello => handle_hello g p msg
  | .list => handle_list g p msg
  | .ping => (g, [send_to p .pong])
  | .create => handle_create g p peer_ip msg
  | .join => handle_join g p peer_ip msg
  | .set_ready => handle_set_ready g p msg
  | .chat => handle_chat srv g p msg
  | .server_chat => handle_server_chat srv g p msg
  | .set_match_caps => handle_set_match_caps g p msg
  | .set_host_endpoint => handle_set_host_endpoint srv g p peer_ip msg
  | .path_report => handle_path_report now g p msg
  | .start => handle_start g p msg
  | .leave => (g, [client_leave p, send_to p .left])
  | .kick => handle_kick g p msg
  | .move => handle_move g p msg
  | .seat_move => handle_seat_move g p msg
  | .seat_swap_request => handle_seat_swap_request g p msg
  | .seat_swap_answer => handle_seat_swap_answer g p msg
  | .close => handle_close g p
  | .signal => handle_signal now g p msg
  | .probe_signal => handle_probe_signal now g p msg
  | .mod_signal => handle_mod_signal g p msg
  | .mod_xfer_start => handle_mod_xfer_start g p msg
  | .mod_xfer_cancel => handle_mod_xfer_cancel g p
  | .mod_xfer_fail => handle_mod_xfer_fail g p msg
  | .get_turn_credentials => (g, [send_to p (.turn_credentials o.turn)])
  | .set_blocks => handle_set_blocks g p msg
  | .automatch_rulesets => handle_automatch_rulesets srv g p msg
  | .automatch_queue => handle_automatch_queue srv g p msg
  | .automatch_cancel => (g, [queue_remove p, send_to p (.automatch_cancelled .cancelled none)])
  | .automatch_rtt => handle_automatch_rtt g p msg
  | .desync_report => (g, [])
  | .chat_report => handle_chat_report g p msg
  | .automatch_accept =>
    let accept := msg.accept.getD false
    (g, [send_to p (.automatch_accept_ok accept), queue_answer p accept msg.match_id])
  | .other detail => (g, [send_to p (.unknown_op detail)])

/-! ## Sending -/

/-- The list of its title to every listed client. -/
def broadcast_list_step (srv : Server) (w : World) : World :=
  let g := w.hub
  let ids := g.clients.keys.filter fun id => !srv.require_login || g.authed id
  { w with
    sent := w.sent ++ ids.map fun id => (id, (scopedList srv.lists g (game_scope_for g id)).frame) }

/-- One tick of a connection's list push. -/
def list_tick_step (srv : Server) (g : HubInner) (p : String) : HubStep :=
  if !g.connected p ∨ (srv.require_login ∧ !g.authed p) then (g, [])
  else (g, [send_to p (lobby_list_json_for srv.lists g p).frame])

/-- The welcome, written to the socket itself; a socket that does not take it ends the connection. -/
def welcome_step (o : Answer) (w : World) (p : String) : World :=
  if o.welcome_sent then w.send p (.welcome p)
  else w.setHub { w.hub with clients := w.hub.clients.erase p }

/-! ## The machine -/

/-- A hub section as a step of the world. -/
def World.lift (w : World) (r : HubStep) : WorldStep := (w.setHub r.1, r.2)

/-- Run a critical section. -/
def exec (srv : Server) (s : Section) (o : Answer) (w : World) : WorldStep :=
  match s with
  | send_to p m => (w.send p m, [])
  | emit_lobby_update lid => w.lift (emit_lobby_update_step w.now w.hub lid)
  | broadcast_list => (broadcast_list_step srv w, [])
  | chat_system lid text => w.lift (chat_system_step w.hub lid text)
  | destroy_lobby lid => w.lift (destroy_lobby_step w.hub lid)
  | client_leave p => w.lift (client_leave_step w.hub p)
  | welcome p => (welcome_step o w p, [])
  | list_tick p => w.lift (list_tick_step srv w.hub p)
  | clients_remove p => (w.setHub { w.hub with clients := w.hub.clients.erase p }, [])
  | handle_text p ip text => w.lift (handle_text_step srv w.hub p ip text)
  | dispatch p ip msg => w.lift (dispatch_step srv o w.now w.hub p ip msg)
  | hello_session p name game => w.lift (hello_session_step w.hub o p name game)
  | hello_identity p name game => w.lift (hello_identity_step srv w.hub o p name game)
  | list_reply p game version => w.lift (list_reply_step srv w.hub p game version)
  | set_display_name p name => w.lift (handle_set_display_name w.hub p name)
  | create_insert p ip msg =>
    { w with issued := o.uuid :: w.issued }.lift (create_insert_step srv o w.hub p ip msg)
  | join_seat p ip lid msg => w.lift (join_seat_step srv o w.hub p ip lid msg)
  | join_need_mods p lid mods xfer => w.lift (join_need_mods_step w.hub p lid mods xfer)
  | join_ok p lid seated => w.lift (join_ok_step w.hub p lid seated)
  | join_announce p lid slot => w.lift (join_announce_step w.hub p lid slot)
  | start_prepare st lid caps ice => w.lift (start_prepare_step w.now w.hub st lid caps ice)
  | start_commit st lid caps sid specs tr ice =>
    w.lift (start_commit_step w.now w.hub st lid caps sid specs tr ice)
  | start_failed st lid ice code => start_failed_step w st lid ice code
  | start_reason p lid caps => w.lift (start_reason_step w.now w.hub p lid caps)
  | start_abort lid code => w.lift (start_abort_step w.hub lid code)
  | chat_report_record p mid _ => (w, [reportAnswer p mid o.submitted])
  | queue_account req => queue_account_step srv w req
  | queue_game req => queue_game_step srv w req
  | queue_cooldown req keys => queue_cooldown_step srv o w req keys
  | queue_waiting req keys => queue_waiting_step srv w req keys
  | queue_blocks req keys => queue_blocks_step w req keys
  | queue_ticket req keys blocks => queue_ticket_step srv w req keys blocks
  | queue_push _ ticket => queue_push_step w ticket
  | queue_pools ticket keys rows => queue_pools_step w ticket keys rows
  | queue_set_rtt p rtt => (w.setQueue (w.automatch.set_rtt p rtt), [])
  | queue_remove p => queue_remove_step w p
  | queue_answer p accept id => queue_answer_step w p accept id
  | settle_declined p loser kind => settle_declined_step o w p loser kind
  | settle_notify p loser kind => settle_notify_step srv o w p loser kind
  | requeue_if_here t reason => requeue_if_here_step w t reason
  | requeue_front t => (w.setQueue (w.automatch.requeue_front t w.now), [])
  | record_strike account kind game => (record_strike_step o w account kind game, [])
  | take_expired => take_expired_step srv w
  | run_pairing => run_pairing_step srv o w
  | status_push => status_push_step w
  | form_match p => form_match_step srv w p
  | form_match_room plan => form_match_room_step srv o w plan
  | form_match_gone p => form_match_gone_step w p
  | form_match_joined plan lid sid seat => w.lift (form_match_joined_step w.hub plan lid sid seat)
  | form_match_spawn task => form_match_spawn_step srv w task

/-- The tasks: a connection's handler, its list tick, the automatch driver, the start of an automatch
room, and the clocks. -/
inductive Tid where
  | conn (p : String)
  | tick (p : String)
  | automatch
  | start (lid : String)
  | clock
  deriving DecidableEq

/-- What happens to the server from outside its sections. -/
inductive Event where
  | connect (p ip : String)
  | text (p : String) (msg : Except String InMsg)
  | ws_ping (p : String)
  | disconnect (p : String)
  | list_tick (p : String)
  | automatch_tick
  | wake (lid : String)
  | pass (elapsed : Nat) (wall_secs : Nat)

namespace Event

/-- The task an event belongs to. -/
def task : Event → Tid
  | connect p _ | text p _ | ws_ping p | disconnect p => .conn p
  | list_tick p => .tick p
  | automatch_tick => .automatch
  | wake lid => .start lid
  | pass _ _ => .clock

/-- Can the event happen? A connection's id is a fresh uuid. -/
def enabled (w : World) : Event → Prop
  | connect p _ => p ≠ "" ∧ p ∉ w.issued
  | text p _ | ws_ping p | disconnect p => w.hub.connected p
  | wake lid => (w.spawned.lookup lid).any (·.wake_at ≤ w.now)
  | list_tick _ | automatch_tick | pass _ _ => True

instance (w : World) (e : Event) : Decidable (e.enabled w) := by
  unfold enabled
  cases e <;> infer_instance

/-- What an event does to the world. -/
def apply (srv : Server) (w : World) : Event → World
  | connect p ip =>
    { w with
      hub := { w.hub with clients := w.hub.clients.insert p (freshClient srv p ip) }
      issued := p :: w.issued }
  | ws_ping p => w.send p .empty
  | wake lid => { w with spawned := w.spawned.erase lid }
  | pass elapsed wall_secs => { w with now := w.now + elapsed, wall := w.wall + wall_secs }
  | _ => w

/-- A start task that wakes up, with the end of its proof window. -/
def awake (now : Instant) (task : StartTask) : StartTask :=
  let window := if task.ice_pair then AUTOMATCH_PROOF_WAIT_ICE else AUTOMATCH_PROOF_WAIT
  { task with deadline := some (task.deadline.getD (now + window)) }

/-- The sections an event starts. -/
def body (w : World) : Event → List Section
  | connect p _ => [welcome p]
  | text p msg =>
    [handle_text p (((w.hub.clients.lookup p).map (·.peer_ip)).getD "") msg]
  | disconnect p => [queue_remove p, client_leave p, clients_remove p]
  | list_tick p => [Section.list_tick p]
  | automatch_tick => [take_expired, run_pairing, status_push]
  | wake lid =>
    (w.spawned.lookup lid).toList.map fun task =>
      start_prepare (.server (awake w.now task)) lid none false
  | ws_ping _ | pass _ _ => []

end Event

/-- The server as a machine. -/
def hubMachine (srv : Server) : Interleave.Machine World Section Tid Answer Event where
  start := {}
  exec := exec srv
  answers := Answer.possible
  task := Event.task
  enabled := fun e w => e.enabled w
  apply := fun e w => e.apply srv w
  body := fun e w => e.body w

/-- The snapshots of the server, with their runs. -/
abbrev HubSnapshot := Interleave.Snapshot World Section Tid

abbrev HubLabel := Interleave.Label World Section Tid Answer Event

abbrev HubRun (srv : Server) : HubSnapshot → List HubLabel → Prop :=
  Interleave.Run (hubMachine srv)

instance (srv : Server) : ∀ o w, Decidable ((hubMachine srv).answers o w) :=
  inferInstanceAs (∀ (o : Answer) (w : World), Decidable (o.possible w))

instance (srv : Server) : ∀ e w, Decidable ((hubMachine srv).enabled e w) :=
  inferInstanceAs (∀ (e : Event) (w : World), Decidable (e.enabled w))

/-! ## Schedules

Short forms in which a run can be written down: a small deployment with one queue type, a few players,
and the moves of a schedule. -/

abbrev Move := Interleave.Move Tid Answer Event

/-- Let a task run its next `n` sections with the same answer. -/
def steps (t : Tid) (n : Nat) (o : Answer) : List Move := List.replicate n (.run t o)

/-- A client sends a message. -/
def say (p : String) (msg : InMsg) : Move := .event (.text p (.ok msg))

/-- An answer that draws these uuids. -/
def draw (uuid : String) (match_ids : List String := []) : Answer := { uuid, match_ids }

def sampleServer : Server where
  automatch_rulesets := Rulesets.load
    [{ id := "ranked"
       game_name := "Example Game"
       match_caps := .object [("input_delay", .number (.posInt 2))] }]
  hash_password := fun _ salt => salt
  parse_ip := fun _ => none

def alice : Player := { id := "acc-alice", handle := "Alice", id_ne := by decide }
def bob : Player := { id := "acc-bob", handle := "Bob", id_ne := by decide }
def carol : Player := { id := "acc-carol", handle := "Carol", id_ne := by decide }

/-- Connect, take the welcome and sign in. -/
def signIn (p : String) (player : Player) (o : Answer) : List Move :=
  [.event (.connect p "203.0.113.7")] ++ steps (.conn p) 1 o ++
    [say p { op := .hello, session := some "token" }] ++
    steps (.conn p) 5 { o with session := .player player }

/-- Two guests in a room of the first. -/
def roomOfTwo (p q room : String) (o : Answer) : List Move :=
  [.event (.connect p "203.0.113.7")] ++ steps (.conn p) 1 o ++
    [.event (.connect q "198.51.100.4")] ++ steps (.conn q) 1 o ++
    [say p { op := .create }] ++ steps (.conn p) 3 (draw room) ++ steps (.conn p) 2 o ++
    [say q { op := .join, lobby_id := some room }] ++ steps (.conn q) 13 o

/-- A queue request that offers to relay over ICE and has measured. -/
def queueUp : InMsg where
  op := .automatch_queue
  ice_relay := some true
  rtt_ms := some 10
  titles := some
    [{ game_name := "Example Game"
       disc_fp := "0123456789abcdef0123456789abcdef0123456789abcdef0123456789abcdef" }]

end RecompNet
