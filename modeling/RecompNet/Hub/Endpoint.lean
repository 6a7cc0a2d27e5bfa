import RecompNet.Hub.State

/-!
# Endpoints, versions and fingerprints

The checks on client-supplied addresses and join pins (`ws_lobby.rs`). The IP parser of the standard
library enters as the function `parse_ip`.
-/

namespace RecompNet

/-- `std::net::IpAddr`: four bytes, or eight 16-bit segments. -/
inductive IpAddr where
  | V4 (octets : List Nat)
  | V6 (segments : List Nat)
  deriving DecidableEq

/-- `to_ipv4_mapped`, on addresses of both kinds. -/
def IpAddr.unmapped : IpAddr → IpAddr
  | .V6 [0, 0, 0, 0, 0, 0xffff, hi, lo] => .V4 [hi / 256, hi % 256, lo / 256, lo % 256]
  | ip => ip

/-- Loopback, private or link-local, as `endpoint_is_clients_own` asks it of the peer. -/
def IpAddr.peer_is_local : IpAddr → Bool
  | .V4 [a, b, _, _] =>
    a = 127 || (a = 10 || (a = 172 && 16 ≤ b && b ≤ 31) || (a = 192 && b = 168)) ||
      (a = 169 && b = 254)
  | .V4 _ => false
  | .V6 segments => segments = [0, 0, 0, 0, 0, 0, 0, 1]

/-- `parse` for an unsigned integer type with the given maximum. -/
def parse_unsigned (maximum : Nat) (s : String) : Option Nat :=
  let ds := match s.toList with
    | '+' :: ds => ds
    | ds => ds
  if ds = [] ∨ ds.any (fun c => c.toNat < 48 || 57 < c.toNat) then none
  else
    let n := ds.foldl (fun n c => n * 10 + (c.toNat - 48)) 0
    if n ≤ maximum then some n else none

def normalize_disc_fp (v : Option String) : String :=
  match v with
  | none => ""
  | some raw =>
    let s := Text.to_ascii_lowercase (Text.trim raw)
    if s = "" then ""
    else if Text.byte_len s ≠ 64 ∨ s.toList.any (!Text.is_ascii_hexdigit ·) then ""
    else s

def disc_fp_mismatch (lobby_fp join_fp : String) : Bool :=
  if lobby_fp = "" ∧ join_fp = "" then false else lobby_fp ≠ join_fp

def normalize_game_version (v : Option String) : String :=
  match v.filter (Text.trim · ≠ "") with
  | some s => Text.trim s
  | none => "dev"

def rewrite_endpoint (bind peer_ip : String) : String :=
  match Text.rsplit_once bind ':' with
  | none => bind
  | some (host, port) =>
    let use_host :=
      if host = "" ∨ host = "0.0.0.0" ∨ host = "*" ∨ host = "::" then
        if peer_ip = "" then "127.0.0.1" else peer_ip
      else host
    use_host ++ ":" ++ port

/-- May this client advertise the endpoint as its own? -/
def endpoint_is_clients_own (parse_ip : String → Option IpAddr) (endpoint peer_ip : String) : Bool :=
  match Text.rsplit_once endpoint ':' with
  | none => false
  | some (host, _) =>
    let host := Text.trim_end_matches (Text.trim_start_matches host '[') ']'
    match parse_ip host with
    | none => false
    | some ep_ip =>
      let peer := Text.trim peer_ip
      let peer := if Text.starts_with peer "::ffff:" then String.ofList (peer.toList.drop 7) else peer
      match parse_ip peer with
      | none => false
      | some peer_addr => peer_addr.peer_is_local || ep_ip.unmapped = peer_addr

def own_endpoint (parse_ip : String → Option IpAddr) (bind peer_ip : String) : String :=
  let ep := rewrite_endpoint bind peer_ip
  if endpoint_is_clients_own parse_ip ep peer_ip then ep
  else
    let port := ((Text.rsplit_once bind ':').map (·.2)).getD "0"
    rewrite_endpoint ("0.0.0.0:" ++ port) peer_ip

/-- The characters an advertised host may not contain. -/
def endpointForbidden : List Char := [' ', '"', '\'', Char.ofNat 123, Char.ofNat 125, '\\']

def parse_advertise_endpoint (raw : String) : Option String :=
  let ep := Text.trim raw
  if ep = "" ∨ Text.byte_len ep > 64 then none
  else match Text.rsplit_once ep ':' with
    | none => none
    | some (host, port_s) =>
      if host = "" ∨ host = "0.0.0.0" ∨ host = "*" ∨ host = "::" ∨
          host.toList.any (· ∈ endpointForbidden) then none
      else match parse_unsigned 65535 port_s with
        | none => none
        | some port => if port = 0 then none else some (host ++ ":" ++ toString port)

def is_rfc1918_host (host : String) : Bool :=
  match (Text.split host '.').map (parse_unsigned 255) with
  | [some a, some b, some _, some _] =>
    a = 10 || (a = 172 && 16 ≤ b && b ≤ 31) || (a = 192 && b = 168)
  | _ => false

/-- The scan of the LAN advertise list, which stops at four entries. -/
def lanEndpoints : List String → List String → List String
  | [], out => out
  | item :: items, out =>
    match parse_advertise_endpoint item with
    | none => lanEndpoints items out
    | some ep =>
      let host := ((Text.rsplit_once ep ':').map (·.1)).getD ""
      if Text.starts_with host "127." || host = "localhost" || !is_rfc1918_host host || ep ∈ out then
        lanEndpoints items out
      else
        let out := out ++ [ep]
        if out.length ≥ 4 then out else lanEndpoints items out

def sanitize_lan_endpoints (raw : Option (List String)) : List String :=
  match raw with
  | none => []
  | some list => lanEndpoints list []

def normalize_ice_path (raw : String) : Option IcePath :=
  let s := Text.to_ascii_lowercase (Text.trim raw)
  if s = "direct" ∨ s = "host" ∨ s = "srflx" ∨ s = "prflx" then some .direct
  else if s = "relay" then some .relay
  else if s = "fail" ∨ s = "failed" ∨ s = "none" then some .fail
  else none

end RecompNet
