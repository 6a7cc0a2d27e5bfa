import RecompNet.Hub.Rooms

/-!
# Chat, signals and mod transfers

The handlers that relay a line or a signal from one client to others (`ws_lobby.rs`), with the block list
and the chat reports.
-/

namespace RecompNet

open Section

def CHAT_MAX_CHARS : Nat := 240
def MAX_BLOCKS : Nat := 256

/-- A chat line as it is relayed: no control characters, capped, trimmed, filtered; `none` when nothing
is left of it. -/
def chatText (srv : Server) (text : Option String) : Option String :=
  let cs := ((text.getD "").toList.filter (!Text.is_control ·)).take CHAT_MAX_CHARS
  let out := Text.trimChars cs
  if out = [] then none else some (srv.apply (String.ofList out))

def handle_chat (srv : Server) (g : HubInner) (p : String) (msg : InMsg) : HubStep :=
  match chatText srv msg.text with
  | none => (g, [])
  | some text =>
    match g.lobby_id_of p with
    | none => refuse g p .not_in_lobby
    | some lid =>
      match g.lobbies.lookup lid with
      | none => (g, [])
      | some l =>
        match l.everyone.find? (·.player_id = p) with
        | none => (g, [])
        | some sender =>
          let from_account := account_of g p
          let game_name := ((g.clients.lookup p).map (·.game_name)).getD ""
          let (g', mid) :=
            g.remember_chat from_account sender.display_name text "lobby" lid game_name
          let line : ChatFrame :=
            { mid, from_player_id := p, from_account, «from» := sender.display_name, text }
          (g', l.member_ids.map fun m => send_to m (.chat lid line))

/-- The clients that hear a server chat line in the title `scope`. -/
def chatAudience (g : HubInner) (scope : String) : List String :=
  (g.clients.values.filter fun c => game_scope_for g c.player_id = scope).map (·.player_id)

def handle_server_chat (srv : Server) (g : HubInner) (p : String) (msg : InMsg) : HubStep :=
  match chatText srv msg.text with
  | none => (g, [])
  | some text =>
    let g := g.recordTitle p (Text.nonempty msg.game_name)
    let scope := game_scope_for g p
    if scope = "" then refuse g p .no_game
    else
      let g := g.setClient p fun c => if c.game_name = "" then { c with game_name := scope } else c
      match g.clients.lookup p with
      | none => (g, [])
      | some sender =>
        let from_account := sender.account_id
        let targets := chatAudience g scope
        let (g', mid) := g.remember_chat from_account sender.display_name text "server" "" scope
        let line : ChatFrame :=
          { mid, from_player_id := p, from_account, «from» := sender.display_name, text }
        (g', targets.map fun m => send_to m (.server_chat scope sender.country line))

def handle_set_blocks (g : HubInner) (p : String) (msg : InMsg) : HubStep :=
  let ids := ((msg.accounts.getD []).filter (Text.trim · ≠ "")).take MAX_BLOCKS
  (g.setClient p ({ · with blocks := ids }), [])

/-! ## Signals -/

/-- Take a token from a client's bucket; `false` also when the client is gone. -/
def takeToken (now : Instant) (g : HubInner) (p : String) : HubInner × Bool :=
  match g.clients.lookup p with
  | none => (g, false)
  | some c =>
    let (bucket, ok) := c.signal_bucket.allow now
    (g.setClient p ({ · with signal_bucket := bucket }), ok)

@[simp] lemma takeToken_lobbies {now : Instant} {g : HubInner} {p : String} :
    (takeToken now g p).1.lobbies = g.lobbies := by
  unfold takeToken
  split <;> rfl

@[simp] lemma takeToken_grants {now : Instant} {g : HubInner} {p : String} :
    (takeToken now g p).1.probe_grants = g.probe_grants := by
  unfold takeToken
  split <;> rfl

def handle_signal (now : Instant) (g : HubInner) (p : String) (msg : InMsg) : HubStep :=
  match msg.lobby_id.or (g.lobby_id_of p) with
  | none => (g, [send_to p (.bad_request msg.op.text)])
  | some lid =>
    let ty := msg.type.getD 0
    match g.lobbies.lookup lid with
    | none => (g, [])
    | some l =>
      let allowed := match l.seat_of p with
        | none => false
        | some seat => !(is_spectator_seat seat && is_ice_signal_type ty)
      let text := msg.text.getD ""
      if !allowed ∨ SIGNAL_TEXT_MAX < Text.byte_len text then (g, [])
      else
        let (g', within_rate) := takeToken now g p
        if !within_rate then (g', [])
        else
          let frame : SignalFrame :=
            { lobby_id := lid, from_player_id := p, type := ty, flag := msg.flag.getD 0, text }
          let dest := msg.to_player_id.getD ""
          let targets := l.member_ids.filter fun m => m ≠ p && (dest = "" || m = dest)
          (g', targets.map fun m => send_to m (.signal frame))

/-- May a browser that is not the host probe this room? -/
def probeClosed (g : HubInner) (l : Lobby) (p : String) (key : String × String) : Bool :=
  let closed := l.automatch || l.started || l.password_hash.isSome || (l.seat_of p).isSome
  let at_cap := !(g.probe_grants.lookup key).isSome &&
    PROBE_GRANTS_PER_CLIENT ≤ g.probe_grants.keys.countP (·.1 = p)
  closed || at_cap || blocked_between g p l.host_player_id

def handle_probe_signal (now : Instant) (g : HubInner) (p : String) (msg : InMsg) : HubStep :=
  match Text.nonempty msg.lobby_id with
  | none => (g, [])
  | some lid =>
    let ty := msg.type.getD 0
    let text := msg.text.getD ""
    if !is_probe_signal_type ty ∨ SIGNAL_TEXT_MAX < Text.byte_len text then (g, [])
    else
      let (g, within_rate) := takeToken now g p
      if !within_rate then (g, [])
      else
        let g := { g with
          probe_grants := g.probe_grants.retain fun _ since => now - since < PROBE_GRANT_TTL }
        match g.lobbies.lookup lid with
        | none => (g, [])
        | some l =>
          let frame : SignalFrame :=
            { lobby_id := lid, from_player_id := p, type := ty, flag := msg.flag.getD 0, text }
          if l.host_player_id = p then
            let dest := msg.to_player_id.getD ""
            if (g.probe_grants.lookup (dest, lid)).isSome then
              (g, [send_to dest (.probe_signal frame)])
            else (g, [])
          else if probeClosed g l p (p, lid) then (g, [])
          else
            ({ g with probe_grants := g.probe_grants.insert (p, lid) now },
              [send_to l.host_player_id (.probe_signal frame)])

/-! ## Mod transfers -/

def handle_mod_xfer_start (g : HubInner) (p : String) (msg : InMsg) : HubStep :=
  let lobby_id := msg.lobby_id.getD ""
  if lobby_id = "" then refuse g p .gone
  else if (g.clients.lookup p).bind (·.pending_mod_lobby) ≠ some lobby_id then refuse g p .need_mods
  else
    match g.lobbies.lookup lobby_id with
    | none => refuse g p .gone
    | some l =>
      (g, [send_to l.host_player_id
        (.mod_xfer_pull p lobby_id (required_mod_rows l.match_caps))])

def handle_mod_xfer_cancel (g : HubInner) (p : String) : HubStep :=
  (g.setClient p ({ · with pending_mod_lobby := none }), [])

/-- May the host `p` address a joiner that waits for its mods? -/
def xfer_relay_ok (g : HubInner) (p dest : String) : Bool :=
  match g.clients.lookup dest with
  | none => false
  | some c => (c.pending_mod_lobby.bind (g.lobbies.lookup ·)).any (·.host_player_id = p)

def handle_mod_signal (g : HubInner) (p : String) (msg : InMsg) : HubStep :=
  match g.clients.lookup p with
  | none => (g, [send_to p (.bad_request msg.op.text)])
  | some sender =>
    match (msg.lobby_id.or sender.pending_mod_lobby).or sender.lobby_id with
    | none => (g, [send_to p (.bad_request msg.op.text)])
    | some lid =>
      match g.lobbies.lookup lid with
      | none => (g, [])
      | some l =>
        let frame : SignalFrame :=
          { lobby_id := lid
            from_player_id := p
            type := msg.type.getD 0
            flag := msg.flag.getD 0
            text := msg.text.getD "" }
        let dest := msg.to_player_id.getD ""
        if sender.pending_mod_lobby = some lid then
          (g, [send_to l.host_player_id (.mod_signal frame)])
        else if l.host_player_id = p ∧ dest ≠ "" ∧
            (g.clients.lookup dest).bind (·.pending_mod_lobby) = some lid then
          (g, [send_to dest (.mod_signal frame)])
        else (g, [])

def handle_mod_xfer_fail (g : HubInner) (p : String) (msg : InMsg) : HubStep :=
  let dest := msg.to_player_id.getD ""
  let err := msg.error.getD "export failed"
  if xfer_relay_ok g p dest then (g, [send_to dest (.mod_xfer_fail err)])
  else
    match (((g.clients.lookup p).bind (·.pending_mod_lobby)).bind (g.lobbies.lookup ·)) with
    | none => (g, [])
    | some l => (g, [send_to l.host_player_id (.mod_xfer_fail err)])

/-! ## Reports -/

/-- The line a field of a report comes from, or what the client said where the line is silent. -/
def preferServer (known : String) (said : Option String) : String :=
  if known = "" then said.getD "" else known

/-- The ids a report names, at most sixteen of them. -/
def reportedIds (msg : InMsg) : List String :=
  let ids := msg.mids.getD []
  let ids := if ids = [] then msg.mid.toList else ids
  (ids.filter (· ≠ "")).take 16

def handle_chat_report (g : HubInner) (p : String) (msg : InMsg) : HubStep :=
  match reportedIds msg with
  | [] => refuse g p .bad_report
  | mid :: ids =>
    let others := (mid :: ids).filterMap fun m => (g.chat_with_context m).map (·.1)
    match (g.clients.lookup p).bind (·.account) with
    | none => refuse g p .need_account
    | some reporter =>
      match g.chat_with_context mid with
      | none => refuse g p .message_expired
      | some (line, context) =>
        if line.from_account = "" ∨ line.from_account = reporter.id then refuse g p .cannot_report
        else
          let report : ChatReport :=
            { reporter_id := reporter.id
              accused_id := line.from_account
              message_id := line.id
              message_text := line.text
              accused_name := line.from_name
              context := context
              transcript :=
                "\n".intercalate (others.map fun l => l.from_name ++ ": " ++ l.text)
              message_count := others.length
              scope := preferServer line.scope msg.scope
              lobby_id := preferServer line.lobby_id msg.lobby
              game_name := preferServer line.game_name msg.game
              game_version := msg.game_version.getD ""
              platform := msg.platform.getD ""
              server := msg.server.getD ""
              reason := msg.reason.getD ""
              note := msg.note.getD "" }
          (g, [chat_report_record p mid report])

/-- The answer to a report, from what the report store said. -/
def reportAnswer (p mid : String) : Submitted → Section
  | .Ok | .Duplicate => send_to p (.chat_report_ok mid)
  | .RateLimited => send_to p (.error .rate_limited)
  | .Failed => send_to p (.error .report_failed)

end RecompNet
