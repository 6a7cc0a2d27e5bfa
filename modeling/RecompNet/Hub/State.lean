import RecompNet.Lib.Assoc
import RecompNet.Hub.Wire

/-!
# The state of the hub

Clients, rooms and seats (`ws_lobby.rs`), as they stand under the hub lock, and the room functions that
the handlers share. A room's two seat tables share one index namespace: below `SPECTATOR_SLOT_BASE` is a
player seat, at or above it a seat of the gallery.
-/

namespace RecompNet

def MAX_SLOTS : Nat := 8
def MAX_LOBBIES : Nat := 64
def MAX_SPECTATORS : Nat := 4
def SPECTATOR_SLOT_BASE : Nat := 64

def is_spectator_seat (seat : Nat) : Bool := SPECTATOR_SLOT_BASE ≤ seat

def spectator_seat (index : Nat) : Nat := SPECTATOR_SLOT_BASE + index

abbrev Salt := List UInt8
abbrev Hash := List UInt8

/-- A signed-in account, as the lobby sees it. Its id is the text of a uuid, never empty. -/
structure Player where
  id : String
  discord_username : String := ""
  handle : String
  id_ne : id ≠ ""

/-- One occupied seat. -/
structure Slot where
  player_id : String
  display_name : String
  ready : Bool := false
  bios_offer : Option Value := none
  mod_offer : Option Value := none
  memcard_offer : Option Value := none
  country : String := ""
  ice_path : Option IcePath := none
  ice_path_at : Option Instant := none

structure Lobby where
  lobby_id : String
  name : String
  game_name : String
  game_version : String
  disc_fp : String
  host_player_id : String
  host_endpoint : String
  lan_endpoints : List String := []
  guest_endpoint : String := ""
  password_hash : Option Hash := none
  password_salt : Option Salt := none
  max_slots : Nat
  session_id : Nat
  slots : List (Option Slot)
  allow_spectators : Bool := false
  spectators : List (Option Slot) := []
  match_caps : Option Value := none
  relay_host_player_id : String := ""
  started : Bool := false
  automatch : Bool := false

def SIGNAL_BURST : ℚ := 60
def SIGNAL_PER_SEC : ℚ := 60
def SIGNAL_TEXT_MAX : Nat := 4096
def PROBE_GRANT_TTL : Nat := 20 * NANOS
def PROBE_GRANTS_PER_CLIENT : Nat := 32

/-- The `signal` types of the ICE exchange. -/
def is_ice_signal_type (ty : Int) : Bool := 130 ≤ ty && ty ≤ 136

/-- The types of a latency probe. -/
def is_probe_signal_type (ty : Int) : Bool := 1 ≤ ty && ty ≤ 6

/-- Token bucket for one sender's signals. -/
structure SignalBucket where
  tokens : ℚ := SIGNAL_BURST
  last : Option Instant := none

/-- Take one token; `false` means over the rate cap. -/
def SignalBucket.allow (b : SignalBucket) (now : Instant) : SignalBucket × Bool :=
  let tokens := match b.last with
    | none => b.tokens
    | some last => min (b.tokens + ((now - last : Nat) : ℚ) / NANOS * SIGNAL_PER_SEC) SIGNAL_BURST
  if 1 ≤ tokens then ({ tokens := tokens - 1, last := some now }, true)
  else ({ tokens, last := some now }, false)

structure ClientMeta where
  player_id : String
  display_name : String
  account : Option Player := none
  peer_ip : String
  country : String := ""
  game_name : String := ""
  lobby_id : Option String := none
  pending_mod_lobby : Option String := none
  blocks : List String := []
  probe_rtt_ms : Int := -1
  signal_bucket : SignalBucket := {}

/-- The account id behind a connection, or "" for a guest. -/
def ClientMeta.account_id (c : ClientMeta) : String := (c.account.map (·.id)).getD ""

structure ChatLine where
  id : String
  from_account : String
  from_name : String
  text : String
  scope : String
  lobby_id : String
  game_name : String
  deriving DecidableEq

def CHAT_RING_MAX : Nat := 1000
def CHAT_CONTEXT_LINES : Nat := 6

structure HubInner where
  clients : Assoc.Map String ClientMeta := ∅
  lobbies : Assoc.Map String Lobby := ∅
  next_session : Nat := 1
  chat_ring : List ChatLine := []
  next_chat_id : Nat := 1
  probe_grants : Assoc.Map (String × String) Instant := ∅

/-! ## Rooms -/

namespace Lobby

/-- Whose process runs the relay hub: the host, unless the room recorded a chosen relay seat. -/
def relay_host (l : Lobby) : String :=
  if l.relay_host_player_id = "" then l.host_player_id else l.relay_host_player_id

/-- The seat at an index, when there is one. -/
def seat (l : Lobby) (seat : Nat) : Option (Option Slot) :=
  if is_spectator_seat seat then l.spectators[seat - SPECTATOR_SLOT_BASE]? else l.slots[seat]?

/-- Write a seat; an index without a seat is left alone. -/
def setSeat (l : Lobby) (seat : Nat) (s : Option Slot) : Lobby :=
  if is_spectator_seat seat then
    { l with spectators := l.spectators.set (seat - SPECTATOR_SLOT_BASE) s }
  else { l with slots := l.slots.set seat s }

/-- Every seated participant, players first. -/
def everyone (l : Lobby) : List Slot := l.slots.filterMap id ++ l.spectators.filterMap id

/-- Rewrite every occupied seat. -/
def mapSeats (l : Lobby) (f : Slot → Slot) : Lobby :=
  { l with slots := l.slots.map (Option.map f), spectators := l.spectators.map (Option.map f) }

/-- Rewrite every occupied player seat. -/
def mapPlayers (l : Lobby) (f : Slot → Slot) : Lobby :=
  { l with slots := l.slots.map (Option.map f) }

def member_ids (l : Lobby) : List String := l.everyone.map (·.player_id)

/-- Is this the seat of a given player? -/
def holds (player_id : String) (s : Option Slot) : Bool :=
  s.any (·.player_id = player_id)

/-- Which seat a player occupies, in the shared index namespace. -/
def seat_of (l : Lobby) (player_id : String) : Option Nat :=
  match l.slots.findIdx? (holds player_id) with
  | some i => some i
  | none => (l.spectators.findIdx? (holds player_id)).map spectator_seat

def spectator_count (l : Lobby) : Nat := l.spectators.countP (·.isSome)

/-- Exchange two seats by taking both and putting each into the other's place. -/
def swapSeats (l : Lobby) (i j : Nat) : Lobby :=
  let a := (l.seat i).join
  let l := l.setSeat i none
  let b := (l.seat j).join
  let l := l.setSeat j none
  (l.setSeat j a).setSeat i b

/-- Rewrite the first player seat that a player holds. -/
def setPlayer (l : Lobby) (player_id : String) (f : Slot → Slot) : Lobby :=
  { l with slots := updateFirst (holds player_id) (Option.map f) l.slots }

/-- Rewrite the first seat, over both tables, that a player holds. -/
def setMember (l : Lobby) (player_id : String) (f : Slot → Slot) : Lobby :=
  if l.slots.any (holds player_id) then l.setPlayer player_id f
  else { l with spectators := updateFirst (holds player_id) (Option.map f) l.spectators }

/-- Un-ready every player. -/
def unready (l : Lobby) : Lobby := l.mapPlayers ({ · with ready := false })

end Lobby

def player_count (l : Lobby) : Nat := l.slots.countP (·.isSome)

/-- Forget the path reports of a seat. -/
def Slot.clearPath (s : Slot) : Slot := { s with ice_path := none, ice_path_at := none }

def clear_lobby_ice_paths (l : Lobby) : Lobby := l.mapSeats Slot.clearPath

/-- Make a requested name unique among the occupied seats; `fallback` is the random suffix. -/
def unique_display_name (l : Lobby) (requested : String) (skip_player_id : Option String)
    (fallback : String) : String :=
  let t := Text.trim requested
  let base := if t = "" then "Guest" else t
  let taken := fun name : String =>
    l.everyone.any fun s => some s.player_id ≠ skip_player_id && s.display_name = name
  if !taken base then base
  else
    match ((List.range 63).map fun n => base ++ " (" ++ toString (n + 2) ++ ")").find?
        (!taken ·) with
    | some candidate => candidate
    | none => base ++ " (" ++ String.ofList (fallback.toList.take 8) ++ ")"

namespace HubInner

/-- `clients.get_mut`: rewrite the row of a connected client. -/
def setClient (g : HubInner) (p : String) (f : ClientMeta → ClientMeta) : HubInner :=
  { g with clients := g.clients.modify p f }

/-- `lobbies.get_mut`: rewrite a room. -/
def setLobby (g : HubInner) (lid : String) (f : Lobby → Lobby) : HubInner :=
  { g with lobbies := g.lobbies.modify lid f }

/-- Record the title a client names, when it names one. -/
def recordTitle (g : HubInner) (p : String) (game : Option String) : HubInner :=
  match game with
  | some gn => g.setClient p ({ · with game_name := gn })
  | none => g

/-- The room a client has recorded. -/
def lobby_id_of (g : HubInner) (p : String) : Option String :=
  (g.clients.lookup p).bind (·.lobby_id)

/-- Is the client connected? -/
def connected (g : HubInner) (p : String) : Bool := (g.clients.lookup p).isSome

/-- Is the client connected with an account attached? -/
def authed (g : HubInner) (p : String) : Bool :=
  (g.clients.lookup p).any fun c => c.account.isSome

/-- Record a relayed line and hand back its id. -/
def remember_chat (g : HubInner) (from_account from_name text scope lobby_id game_name : String) :
    HubInner × String :=
  let id := String.ofList (Nat.toDigits 16 g.next_chat_id)
  let line : ChatLine := { id, from_account, from_name, text, scope, lobby_id, game_name }
  let ring := g.chat_ring ++ [line]
  ({ g with
    next_chat_id := g.next_chat_id + 1
    chat_ring := ring.drop (ring.length - CHAT_RING_MAX) }, id)

section
variable (g : HubInner) (from_account from_name text scope lobby_id game_name : String)

@[simp] lemma remember_chat_clients :
    (g.remember_chat from_account from_name text scope lobby_id game_name).1.clients =
      g.clients := by
  simp only [remember_chat]

@[simp] lemma remember_chat_lobbies :
    (g.remember_chat from_account from_name text scope lobby_id game_name).1.lobbies =
      g.lobbies := by
  simp only [remember_chat]

@[simp] lemma remember_chat_probe_grants :
    (g.remember_chat from_account from_name text scope lobby_id game_name).1.probe_grants =
      g.probe_grants := by
  simp only [remember_chat]

end

/-- The reported line, with the lines before it from the same room. -/
def chat_with_context (g : HubInner) (message_id : String) : Option (ChatLine × String) :=
  match g.chat_ring.findIdx? (·.id = message_id) with
  | none => none
  | some idx =>
    (g.chat_ring[idx]?).map fun line =>
      let near := (g.chat_ring.take idx).drop (idx - CHAT_CONTEXT_LINES)
      let same := near.filter fun l => l.scope = line.scope && l.lobby_id = line.lobby_id
      (line, "\n".intercalate (same.map fun l => l.from_name ++ ": " ++ l.text))

end HubInner

/-- Has either of these two blocked the other? -/
def blocked_between (g : HubInner) (a_player b_player : String) : Bool :=
  match g.clients.lookup a_player, g.clients.lookup b_player with
  | some a, some b =>
    (b.account_id ≠ "" && b.account_id ∈ a.blocks) ||
      (a.account_id ≠ "" && a.account_id ∈ b.blocks)
  | _, _ => false

def account_of (g : HubInner) (player_id : String) : String :=
  ((g.clients.lookup player_id).map (·.account_id)).getD ""

/-- The title a client counts as playing. -/
def game_scope_for (g : HubInner) (player_id : String) : String :=
  match g.clients.lookup player_id with
  | none => ""
  | some c =>
    if c.game_name ≠ "" then c.game_name
    else ((c.lobby_id.bind (g.lobbies.lookup ·)).map (·.game_name)).getD ""

end RecompNet
