import RecompNet.Http.Signals
import RecompNet.ReadyBarrier
import RecompNet.Text

/-!
# Requests of the rooms

The handlers of `/v1/rooms` with what they answer (`routes/mod.rs`). A request touches the registry
in one critical section; who it is from is settled before, by `require_auth`, whose result comes
with the request, as do the readings of the clock and what the handler draws. `main.rs` purges the
registry between the requests.
-/

namespace RecompNet.Http

structure RoomSummary where
  room_id : String
  game_id : String
  client_version : String
  display_name : String
  slot_count : Nat
  member_count : Nat
  input_delay : Nat
  is_private : Bool
  status : RoomStatus
  deriving DecidableEq

/-- `From<&Room>`. -/
def RoomSummary.of (r : Room) : RoomSummary where
  room_id := r.room_id
  game_id := r.game_id
  client_version := r.client_version
  display_name := r.display_name
  slot_count := r.slot_count
  member_count := r.members.length
  input_delay := r.input_delay
  is_private := r.is_private
  status := r.status

/-- Does a room go into the list of a game? -/
def lists (game_id : String) (client_version : Option String) (r : Room) : Bool :=
  r.status = .Open && !r.is_private && r.game_id = game_id &&
    client_version.all (· = r.client_version) && r.members.length < r.slot_count

def list_public (g : RoomRegistry) (game_id : String) (client_version : Option String) :
    List RoomSummary :=
  (g.rooms.values.filter (lists game_id client_version)).map RoomSummary.of

/-- A room as one player is shown it. -/
structure RoomView where
  room_id : String
  game_id : String
  client_version : String
  display_name : String
  slot_count : Nat
  input_delay : Nat
  is_private : Bool
  join_code : Option String
  status : RoomStatus
  host_player_id : String
  members : List Member
  rnet : Option RnetBootstrap
  deriving DecidableEq

def RoomView.from_room (room : Room) (viewer : String) : RoomView where
  room_id := room.room_id
  game_id := room.game_id
  client_version := room.client_version
  display_name := room.display_name
  slot_count := room.slot_count
  input_delay := room.input_delay
  is_private := room.is_private
  join_code := if room.host_player_id = viewer then room.join_code else none
  status := room.status
  host_player_id := room.host_player_id
  members := room.members
  rnet := RoomRegistry.bootstrap_for room viewer

/-- What the handlers read of `config.rs`. -/
structure RoomConfig where
  game_allowlist : List String := []
  default_slot_count : Nat := 2
  default_input_delay : Nat := 2
  protocol_magic : Nat

/-- Without an allowlist every name but the empty one is allowed. -/
def RoomConfig.game_allowed (cfg : RoomConfig) (game_id : String) : Bool :=
  if cfg.game_allowlist.isEmpty then game_id ≠ "" else cfg.game_allowlist.any (· = game_id)

structure CreateRoomBody where
  game_id : String
  client_version : String
  display_name : String := ""
  slot_count : Option Nat := none
  input_delay : Option Nat := none
  is_private : Bool := false

structure JoinBody where
  game_id : String
  client_version : String
  join_code : Option String := none

/-- A request, with what its handler draws. -/
inductive RoomRequest where
  | list_rooms (game_id : String) (client_version : Option String)
  | create_room (body : CreateRoomBody) (room_id : String) (draws : List Nat)
  | get_room (room_id : String)
  | join_room (room_id : String) (body : JoinBody)
  | leave_room (room_id : String)
  | set_ready (room_id : String) (ready : Bool) (draw : Nat)
  | heartbeat (room_id : String)
  | mark_running (room_id : String)

inductive RoomReply where
  | rooms (list : List RoomSummary)
  | created (view : RoomView)
  | room (view : RoomView)
  | no_content
  | error (e : ApiError)
  deriving DecidableEq

/-- Answer with a room as the caller sees it, or with the error. -/
def RoomReply.of (player_id : String) : Except RoomError Room → RoomReply
  | .ok r => .room (.from_room r player_id)
  | .error e => .error (.of e)

/-- Answer without a body, or with the error. -/
def RoomReply.done {α : Type} : Except RoomError α → RoomReply
  | .ok _ => .no_content
  | .error e => .error (.of e)

/-- `create_room`: the refusals before the registry is asked. -/
def create_refused (cfg : RoomConfig) (body : CreateRoomBody) : Option ApiError :=
  if !cfg.game_allowed body.game_id then some ⟨400, "game_id not allowed"⟩
  else if body.game_id = "" ∨ body.client_version = "" then
    some ⟨400, "game_id and client_version are required"⟩
  else none

/-- The name a new room is listed under. -/
def CreateRoomBody.name (body : CreateRoomBody) : String :=
  if Text.trim body.display_name = "" then "lobby" else Text.trim body.display_name

/-- The registry's part of `create_room`. -/
def CreateRoomBody.op (cfg : RoomConfig) (body : CreateRoomBody) (host : String) (now : Timestamp)
    (room_id : String) (draws : List Nat) : RoomOp :=
  .create host body.game_id body.client_version body.name
    (body.slot_count.getD cfg.default_slot_count) (body.input_delay.getD cfg.default_input_delay)
    cfg.protocol_magic body.is_private now room_id draws

def create_room (cfg : RoomConfig) (g : RoomRegistry) (player_id : String) (body : CreateRoomBody)
    (now : Timestamp) (room_id : String) (draws : List Nat) : RoomReply × RoomRegistry :=
  match create_refused cfg body with
  | some e => (.error e, g)
  | none =>
    match g.create player_id body.game_id body.client_version body.name
        (body.slot_count.getD cfg.default_slot_count)
        (body.input_delay.getD cfg.default_input_delay)
        cfg.protocol_magic body.is_private now room_id draws with
    | (.ok room, g) => (.created (.from_room room player_id), g)
    | (.error e, g) => (.error (.of e), g)

/-- What a request of a player does; `beat` and `now` are its readings of the clock. -/
def RoomRequest.serve (cfg : RoomConfig) (g : RoomRegistry) (player_id : String)
    (beat now : Timestamp) : RoomRequest → RoomReply × RoomRegistry
  | list_rooms game_id client_version => (.rooms (list_public g game_id client_version), g)
  | create_room body room_id draws => Http.create_room cfg g player_id body now room_id draws
  | get_room room_id => (.of player_id (membership g player_id room_id), g)
  | join_room room_id body =>
    (g.join room_id player_id body.game_id body.client_version body.join_code now).map
      (.of player_id) id
  | leave_room room_id => (g.leave room_id player_id now).map .done id
  | set_ready room_id ready draw =>
    (g.set_ready room_id player_id ready beat now draw).map (.of player_id) id
  | heartbeat room_id => (g.heartbeat room_id player_id beat now).map .done id
  | mark_running room_id => (g.mark_running room_id player_id now).map (.of player_id) id

/-- What comes to the registry. -/
inductive RoomEvent where
  | request (player_id : String) (beat now : Timestamp) (req : RoomRequest)
  | purge (heartbeat_timeout_secs idle_secs : Nat) (now : Timestamp)

/-- The answer to an event, and the registry after it. -/
def RoomEvent.serve (cfg : RoomConfig) (g : RoomRegistry) :
    RoomEvent → Option RoomReply × RoomRegistry
  | request p beat now req => (req.serve cfg g p beat now).map some id
  | purge hb idle now => (none, (g.purge_stale hb idle now).getD g)

/-- The registry after a sequence of events. -/
def served (cfg : RoomConfig) (evs : List RoomEvent) : RoomRegistry :=
  evs.foldl (fun g e => (e.serve cfg g).2) {}

/-- The room that a reply carries. -/
def RoomReply.view : RoomReply → Option RoomView
  | created v | room v => some v
  | _ => none

/-- Whom an event shows a room to, and the room. -/
def RoomEvent.shows (cfg : RoomConfig) (g : RoomRegistry) : RoomEvent → Option (String × RoomView)
  | request p beat now req => (req.serve cfg g p beat now).1.view.map (p, ·)
  | purge .. => none

/-! ## Requests are calls of the registry -/

/-- The call of the registry that an event makes, when it makes one. -/
def RoomEvent.op (cfg : RoomConfig) : RoomEvent → Option RoomOp
  | request p beat now req =>
    match req with
    | .list_rooms .. | .get_room .. => none
    | .create_room body room_id draws =>
      if (create_refused cfg body).isSome then none else some (body.op cfg p now room_id draws)
    | .join_room id body => some (.join id p body.game_id body.client_version body.join_code now)
    | .leave_room id => some (.leave id p now)
    | .set_ready id ready draw => some (.set_ready id p ready beat now draw)
    | .heartbeat id => some (.heartbeat id p beat now)
    | .mark_running id => some (.mark_running id p now)
  | purge hb idle now => some (.purge_stale hb idle now)

/-- An event changes the registry by its call only. -/
lemma RoomEvent.serve_run (cfg : RoomConfig) (g : RoomRegistry) (e : RoomEvent) :
    (e.serve cfg g).2 = ((e.op cfg).map fun op => (op.run g).2).getD g := by
  cases e with
  | purge => rfl
  | request p beat now req =>
    cases req with
    | create_room body room_id draws =>
      simp only [serve, op, RoomRequest.serve, create_room, Prod.map_snd, id]
      cases create_refused cfg body with
      | some => rfl
      | none =>
        simp only [Option.isSome_none, Bool.false_eq_true, if_false, Option.map_some,
          Option.getD_some, CreateRoomBody.op, RoomOp.run, outcome]
        split
        · rename_i h
          rw [h]
        · rename_i h
          rw [h]
    | _ => rfl

lemma served_append (cfg : RoomConfig) (pre : List RoomEvent) (e : RoomEvent) :
    served cfg (pre ++ [e]) = (e.serve cfg (served cfg pre)).2 := by
  simp [served]

/-- The registry after some requests is one that calls of the registry reach. -/
lemma served_after (cfg : RoomConfig) (evs : List RoomEvent) :
    served cfg evs = RoomRegistry.after (evs.filterMap (RoomEvent.op cfg)) := by
  induction evs using List.reverseRecOn with
  | nil => rfl
  | append_singleton evs e ih =>
    rw [served_append, List.filterMap_append, e.serve_run, ih]
    cases h : e.op cfg with
    | none => simp [h]
    | some op =>
      rw [List.filterMap_cons_some h, List.filterMap_nil, after_append]
      rfl

end RecompNet.Http
