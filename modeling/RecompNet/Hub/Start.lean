import RecompNet.Hub.Listing

/-!
# The start gate

Caps and the decision how, and whether, a match may start (`ws_lobby.rs`).
-/

namespace RecompNet

/-- Put a host's caps on the host relay over ICE, unless they are no object or too large. -/
def sanitize_match_caps (caps : Option Value) : Option Value :=
  caps.bind fun v =>
    if v.is_object then
      let v := (v.insert "relay" (.string "host")).insert "relay_via" (.string "ice")
      if Text.byte_len v.to_string > 4096 then none else some v
    else none

/-- An offer that is an object within its size limit. -/
def sanitizeOffer (limit : Nat) (offer : Option Value) : Option Value :=
  offer.bind fun v =>
    if v.is_object then if Text.byte_len v.to_string > limit then none else some v
    else none

def sanitize_bios_offer (offer : Option Value) : Option Value := sanitizeOffer 512 offer
def sanitize_memcard_offer (offer : Option Value) : Option Value := sanitizeOffer 256 offer
def sanitize_mod_offer (offer : Option Value) : Option Value := sanitizeOffer 2048 offer

/-- Do the caps ask for the host relay? -/
def wants_host (caps : Option Value) : Bool :=
  (caps.bind (·.get "relay")).bind Value.as_str = some "host"

/-- Do the caps ask for the host relay carried over ICE? -/
def caps_relay_via_ice (caps : Option Value) : Bool :=
  wants_host caps && (caps.bind (·.get "relay_via")).bind Value.as_str = some "ice"

/-- A seat that has not proven, recently enough, that it reaches the relay host directly. -/
def Lobby.unproven (now : Instant) (l : Lobby) (s : Slot) : Bool :=
  s.player_id ≠ l.relay_host && (s.ice_path ≠ some .direct || !s.path_fresh now)

def host_relay_decision (now : Instant) (l : Lobby) (caps : Option Value) :
    Except StartRefusal Unit :=
  if !wants_host caps then .error .no_host_relay_ask
  else if l.host_endpoint = "" ∧ !caps_relay_via_ice caps then .error .host_relay_no_endpoint
  else if l.spectator_count > 0 then .error .host_relay_spectators
  else if caps_relay_via_ice caps ∧ player_count l > 2 then .ok ()
  else if (l.slots.filterMap id).any (l.unproven now) then .error .host_relay_unproven
  else .ok ()

/-- The transport a match starts on, or the reason it cannot start. -/
def start_transport (now : Instant) (l : Lobby) (caps : Option Value) (allow_ice : Bool) :
    Except StartRefusal StartTransport :=
  match host_relay_decision now l caps with
  | .ok () => .ok .Host
  | .error why =>
    if !allow_ice ∨ l.spectator_count > 0 then .error why
    else if player_count l ≠ 2 then .error .ice_needs_two_players
    else .ok .Ice

end RecompNet
