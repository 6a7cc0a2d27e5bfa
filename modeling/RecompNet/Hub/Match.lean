import RecompNet.Automatch.Keys
import RecompNet.Hub.Launch

/-!
# Automatch handlers

Queueing, the accept gate, pairing and the room of a matched pair (`ws_lobby.rs`, "automatch"). Sections
that touch the queue or the database work on the whole world; those under the hub lock work on the hub.
-/

namespace RecompNet

open Section

/-- The world after a section, and what its task runs next. -/
abbrev WorldStep := World × List Section

/-- The proof windows of an automatch room. -/
def AUTOMATCH_PROOF_WAIT : Nat := 20 * NANOS
def AUTOMATCH_PROOF_WAIT_ICE : Nat := 30 * NANOS

def rulesets_json (rs : Rulesets) (game_name : String) : OutMsg :=
  .automatch_rulesets_ok ((rs.for_game game_name).map fun r =>
    { id := r.id
      label := r.label
      caps_summary := r.caps_summary
      game_version := r.game_version
      max_slots := r.max_slots
      match_caps := r.match_caps })

def handle_automatch_rulesets (srv : Server) (g : HubInner) (p : String) (msg : InMsg) : HubStep :=
  let game := match Text.nonempty msg.game_name with
    | some game => game
    | none => ((g.clients.lookup p).map (·.game_name)).getD ""
  (g, [send_to p (rulesets_json srv.automatch_rulesets game)])

/-! ## Queueing -/

def handle_automatch_queue (srv : Server) (g : HubInner) (p : String) (msg : InMsg) : HubStep :=
  if srv.automatch_rulesets.is_empty then refuse g p .automatch_off
  else
    match g.clients.lookup p with
    | none => (g, [])
    | some c =>
      match c.account with
      | none => refuse g p .need_account
      | some account =>
        if c.lobby_id.isSome then refuse g p .already_in_lobby
        else
          (g, [queue_account
            { player_id := p
              account_id := account.id
              handle := account.handle
              username := account.discord_username
              country := c.country
              known_rtt := c.probe_rtt_ms
              msg := msg }])

/-- The gates on a request whose titles are known. -/
def queueTitles (srv : Server) (req : QueueRequest) (titles : List InTitle) : List Section :=
  match queueGates srv.automatch_rulesets titles (req.msg.mod_exempt.getD []) with
  | .error (.keys code) => [send_to req.player_id (.error code)]
  | .error (.exemption id bad) => [send_to req.player_id (.mod_not_approved id bad)]
  | .ok keys => [queue_cooldown { req with titles } keys]

def queue_account_step (srv : Server) (w : World) (req : QueueRequest) : WorldStep :=
  if w.automatch.is_queued_account req.account_id then
    (w, [send_to req.player_id (.error .already_queued)])
  else if req.msg.mods_enabled.getD false then
    (w, [send_to req.player_id (.error .mods_not_pooled)])
  else
    match req.msg.titles.getD [] with
    | [] => (w, [queue_game req])
    | titles => (w, queueTitles srv req titles)

/-- A client that named no titles is the single-title launcher: the one entry it meant. -/
def queue_game_step (srv : Server) (w : World) (req : QueueRequest) : WorldStep :=
  let game := ((w.hub.clients.lookup req.player_id).map (·.game_name)).getD ""
  (w, queueTitles srv req
    [{ game_name := game
       game_version := req.msg.game_version.getD ""
       disc_fp := req.msg.disc_fp.getD ""
       ruleset_id := req.msg.ruleset_id.getD "" }])

/-- The database's answer about a cooldown; a failing query answers 0. -/
def cooldownNow (srv : Server) (o : Answer) (w : World) (account_id : String) : Nat :=
  if o.db_ok then cooldown_secs w.strikes w.wall account_id srv.automatch_dodge_cooldowns else 0

def queue_cooldown_step (srv : Server) (o : Answer) (w : World) (req : QueueRequest)
    (keys : List MatchKey) : WorldStep :=
  let cool := cooldownNow srv o w req.account_id
  if cool > 0 then (w, [send_to req.player_id (.cooldown cool)])
  else (w, [queue_waiting req keys])

def queue_waiting_step (srv : Server) (w : World) (req : QueueRequest) (keys : List MatchKey) :
    WorldStep :=
  if srv.automatch_queue_max ≤ w.automatch.waiting then
    (w, [send_to req.player_id (.error .queue_full)])
  else (w, [queue_blocks req keys])

def queue_blocks_step (w : World) (req : QueueRequest) (keys : List MatchKey) : WorldStep :=
  (w, [queue_ticket req keys (((w.hub.clients.lookup req.player_id).map (·.blocks)).getD [])])

/-- The ticket of a request, or `none` when it offers to relay at an address that is not its own. -/
def ticketOf (srv : Server) (w : World) (req : QueueRequest) (keys : List MatchKey)
    (blocks : List String) : Option Ticket :=
  let my_ip := ((w.hub.clients.lookup req.player_id).map (·.peer_ip)).getD ""
  let relay_endpoint : Option (Option String) :=
    match Text.nonempty (req.msg.host_endpoint.map Text.trim) with
    | none => some none
    | some raw =>
      ((parse_advertise_endpoint raw).filter
        (endpoint_is_clients_own srv.parse_ip · my_ip)).map some
  relay_endpoint.map fun relay_endpoint =>
    { player_id := req.player_id
      account_id := req.account_id
      handle := req.handle
      username := req.username
      country := req.country
      keys := keys
      host_bind := req.msg.host_bind.getD "0.0.0.0:7777"
      guest_bind := req.msg.guest_bind.getD "0.0.0.0:7778"
      relay_endpoint := relay_endpoint
      ice_relay := req.msg.ice_relay.getD false
      queued_at := w.now
      rtt_ms := match req.msg.rtt_ms with
        | some v => sanitize_rtt v
        | none => req.known_rtt
      blocks := blocks }

def queue_ticket_step (srv : Server) (w : World) (req : QueueRequest) (keys : List MatchKey)
    (blocks : List String) : WorldStep :=
  match ticketOf srv w req keys blocks with
  | none => (w, [send_to req.player_id (.error .bad_host_endpoint)])
  | some ticket => (w, [queue_push req ticket])

def queue_push_step (w : World) (ticket : Ticket) : WorldStep :=
  (w.setQueue (w.automatch.push ticket), [queue_pools ticket ticket.keys []])

def queue_pools_step (w : World) (ticket : Ticket) (keys : List MatchKey) (rows : List PoolRow) :
    WorldStep :=
  match keys with
  | k :: keys =>
    let row : PoolRow :=
      { game_name := k.game_name
        ruleset_id := k.ruleset_id
        pool := w.automatch.pool_for k ticket.account_id }
    (w, [queue_pools ticket keys (rows ++ [row])])
  | [] =>
    (w, [send_to ticket.player_id (.automatch_queued rows ticket.relay_endpoint ticket.ice_relay),
      run_pairing])

def handle_automatch_rtt (g : HubInner) (p : String) (msg : InMsg) : HubStep :=
  let rtt := sanitize_rtt (msg.rtt_ms.getD (-1))
  (g.setClient p ({ · with probe_rtt_ms := rtt }),
    [queue_set_rtt p rtt, send_to p (.automatch_rtt_ok rtt)])

/-! ## Declining -/

/-- The two sides of an offer, the loser first. -/
def Pending.loserFirst (p : Pending) (loser : String) : Ticket × Ticket :=
  if p.a.player_id = loser then (p.a, p.b) else (p.b, p.a)

/-- The section after `automatch.remove_player`: an offer the player was half of settles as a dodge. -/
def queue_remove_step (w : World) (p : String) : WorldStep :=
  match w.automatch.remove_player p with
  | (q, none) => (w.setQueue q, [])
  | (q, some pd) => (w.setQueue q, [settle_declined pd p .timeout])

def queue_answer_step (w : World) (p : String) (accept : Bool) (match_id : Option String) :
    WorldStep :=
  match w.automatch.answer_for p accept match_id with
  | (q, none) => (w.setQueue q, [])
  | (q, some pd) =>
    if pd.both_yes then (w.setQueue q, [form_match pd])
    else
      let decliner := if pd.a_accept = some false then pd.a else pd.b
      (w.setQueue q, [settle_declined pd decliner.player_id .decline])

/-- Insert a strike; a database that does not take it is ignored. -/
def record_strike_step (o : Answer) (w : World) (account_id : String) (kind : DodgeKind)
    (game_name : String) : World :=
  if o.db_ok then
    { w with strikes := w.strikes ++ [⟨account_id, kind, game_name, w.wall⟩] }
  else w

def settle_declined_step (o : Answer) (w : World) (p : Pending) (loser : String)
    (kind : DodgeKind) : WorldStep :=
  (record_strike_step o w (p.loserFirst loser).1.account_id kind p.key.game_name,
    [settle_notify p loser kind])

/-- Why the other side of a declined offer goes back to the queue. -/
def DodgeKind.requeueReason : DodgeKind → RequeueReason
  | .decline => .peer_declined
  | .timeout => .peer_timeout

def settle_notify_step (srv : Server) (o : Answer) (w : World) (p : Pending) (loser : String)
    (kind : DodgeKind) : WorldStep :=
  let (lost, other) := p.loserFirst loser
  let cool := cooldownNow srv o w lost.account_id
  (w, [send_to lost.player_id (.automatch_cancelled .declined (some cool)),
    requeue_if_here other kind.requeueReason])

/-- Only requeue somebody who is still connected. -/
def requeue_if_here_step (w : World) (t : Ticket) (reason : RequeueReason) : WorldStep :=
  if w.hub.connected t.player_id then
    (w, [requeue_front t, send_to t.player_id (.automatch_requeue reason true)])
  else (w, [])

/-! ## Pairing -/

/-- What one side of an offer is told. -/
def foundOf (srv : Server) (p : Pending) (me them : Ticket) : Found :=
  let rs := srv.automatch_rulesets.resolve p.key.game_name p.key.ruleset_id
  let floor := rs.map fun r => delay_floor r.match_caps p.a.rtt_ms p.b.rtt_ms r.frame_ms
  { match_id := p.match_id
    game_name := p.key.game_name
    game_version := p.key.game_version
    ruleset_id := p.key.ruleset_id
    ruleset_label := (rs.map (·.label)).getD ""
    opponent_handle := them.handle
    opponent_username := them.username
    opponent_country := them.country
    est_rtt_ms :=
      if 0 ≤ p.a.rtt_ms ∧ 0 ≤ p.b.rtt_ms then p.a.rtt_ms + p.b.rtt_ms else -1
    accept_secs := srv.automatch_accept_secs
    relay_role :=
      if p.relay_host_is_a = some (decide (me.player_id = p.a.player_id)) then .host else .guest
    floor := floor
    match_caps := match rs, floor with
      | some r, some f => some (caps_with_floor r.match_caps f)
      | _, _ => none }

/-- Offer a formed pair to both sides. -/
def offer_pair (srv : Server) (p : Pending) : List Section :=
  [send_to p.a.player_id (.automatch_found (foundOf srv p p.a p.b)),
    send_to p.b.player_id (.automatch_found (foundOf srv p p.b p.a))]

def run_pairing_step (srv : Server) (o : Answer) (w : World) : WorldStep :=
  let (q, offers) :=
    w.automatch.pair srv.automatch_rematch_cooldown_secs w.now o.match_ids
  ({ w with automatch := q, issued := o.match_ids ++ w.issued }, offers.flatMap (offer_pair srv))

/-- What the driver does with an offer that lapsed. -/
def settle_expired (p : Pending) : List Section :=
  let a_bad := p.a_accept ≠ some true
  let b_bad := p.b_accept ≠ some true
  if a_bad ∧ b_bad then
    [p.a, p.b].flatMap fun t =>
      [record_strike t.account_id .timeout p.key.game_name,
        send_to t.player_id (.automatch_cancelled .timeout none)]
  else
    let loser := if a_bad then p.a.player_id else p.b.player_id
    [settle_declined p loser .timeout]

def take_expired_step (srv : Server) (w : World) : WorldStep :=
  let (q, lapsed) := w.automatch.take_expired srv.automatch_accept_secs w.now
  (w.setQueue q, lapsed.flatMap settle_expired)

def status_push_step (w : World) : WorldStep :=
  (w, (w.automatch.status_rows w.now).map fun (player_id, waited, rtt, pools) =>
    send_to player_id (.automatch_status waited rtt
      (pools.map fun (k, n) => ⟨k.game_name, k.ruleset_id, n⟩)))

/-! ## The room of a matched pair -/

/-- What the match will run: the floored caps of its ruleset, on the host relay. -/
def matchCaps (rs : Ruleset) (p : Pending) : Value :=
  let floor := delay_floor rs.match_caps p.a.rtt_ms p.b.rtt_ms rs.frame_ms
  let caps := (caps_with_floor rs.match_caps floor).insert "relay" (.string "host")
  if p.is_ice then caps.insert "relay_via" (.string "ice") else caps

def form_match_step (srv : Server) (w : World) (p : Pending) : WorldStep :=
  let w := w.setQueue (w.automatch.note_pairing p.a.account_id p.b.account_id w.now)
  match srv.automatch_rulesets.resolve p.key.game_name p.key.ruleset_id with
  | none => (w, [])
  | some rs =>
    match p.relay_host_is_a with
    | none => (w, [])
    | some a_hosts => (w, [form_match_room { p, rs, a_hosts, caps := matchCaps rs p }])

/-- The ticket of the side that relays. -/
def MatchPlan.relay_ticket (plan : MatchPlan) : Ticket :=
  if plan.a_hosts then plan.p.a else plan.p.b

/-- A matched player's seat. -/
def matchSlot (g : HubInner) (t : Ticket) : Slot where
  player_id := t.player_id
  display_name := t.handle
  ready := true
  country := ((g.clients.lookup t.player_id).map (·.country)).getD ""

/-- The room of a matched pair. Its host is "", which no connection holds. -/
def matchLobby (srv : Server) (g : HubInner) (plan : MatchPlan) (lobby_id : String) : Lobby where
  lobby_id := lobby_id
  name := plan.rs.label
  game_name := plan.p.key.game_name
  game_version := plan.p.key.game_version
  disc_fp := plan.p.key.disc_fp
  host_player_id := ""
  host_endpoint := if plan.p.is_ice then "" else plan.relay_ticket.relay_endpoint.getD ""
  guest_endpoint := own_endpoint srv.parse_ip plan.p.b.guest_bind
    (((g.clients.lookup plan.p.b.player_id).map (·.peer_ip)).getD "")
  max_slots := plan.rs.max_slots
  session_id := g.next_session
  slots := ((List.replicate plan.rs.max_slots none).set 0 (some (matchSlot g plan.p.a))).set 1
    (some (matchSlot g plan.p.b))
  match_caps := some plan.caps
  relay_host_player_id := plan.relay_ticket.player_id
  automatch := true

def form_match_room_step (srv : Server) (o : Answer) (w : World) (plan : MatchPlan) : WorldStep :=
  let p := plan.p
  let g := w.hub
  if MAX_LOBBIES ≤ g.lobbies.size then
    (w, [p.a, p.b].map fun t => send_to t.player_id (.automatch_requeue .lobby_limit false))
  else if !g.connected p.a.player_id ∨ !g.connected p.b.player_id then (w, [form_match_gone p])
  else
    let l := matchLobby srv g plan o.uuid
    let g' := { g with
      next_session := nextSession g.next_session
      lobbies := g.lobbies.insert o.uuid l
      clients := g.clients.modifyEach [p.a.player_id, p.b.player_id] fun c =>
        { c with lobby_id := some o.uuid, pending_mod_lobby := none } }
    let task : StartTask :=
      { lobby_id := o.uuid
        match_id := p.match_id
        a := p.a
        b := p.b
        ice_pair := p.is_ice
        wake_at := 0 }
    ({ w with hub := g', issued := o.uuid :: w.issued },
      [form_match_joined plan o.uuid l.session_id 0, form_match_joined plan o.uuid l.session_id 1,
        emit_lobby_update o.uuid, form_match_spawn task])

/-- One of the two connections was missing: the lock is taken again to tell which side is left. -/
def form_match_gone_step (w : World) (p : Pending) : WorldStep :=
  let gone := if w.hub.connected p.a.player_id then p.a.player_id else p.b.player_id
  let survivor := if gone = p.a.player_id then p.b else p.a
  (w, [requeue_if_here survivor .peer_left])

def form_match_joined_step (g : HubInner) (plan : MatchPlan) (lobby_id : String)
    (session_id seat : Nat) : HubStep :=
  let l := g.lobbies.lookup lobby_id
  let t := if seat = 0 then plan.p.a else plan.p.b
  let joined : Joined :=
    { lobby_id := lobby_id
      session_id := session_id
      local_slot := seat
      spectator := false
      host_endpoint := (l.map (·.host_endpoint)).getD ""
      guest_endpoint := (l.map (·.guest_endpoint)).getD ""
      automatch := true
      relay_host_slot := some (if plan.a_hosts then 0 else 1)
      match_caps := some plan.caps }
  (g, [send_to t.player_id (.joined joined)])

/-- `tokio::spawn` of the start task, which first sleeps the settle delay. -/
def form_match_spawn_step (srv : Server) (w : World) (task : StartTask) : WorldStep :=
  let task := { task with wake_at := w.now + srv.automatch_start_delay_secs * NANOS }
  ({ w with spawned := w.spawned.insert task.lobby_id task }, [])

/-- What the caller of `start_lobby` does with an error. The host is answered; the server's task waits for
a proof until its window closes, then tries ICE once, and gives the pair up when that fails too. -/
def start_failed_step (w : World) (starter : Starter) (lid : String) (allow_ice : Bool)
    (code : Code) : WorldStep :=
  match starter with
  | .host p sent_caps =>
    if code = .relay_unavailable then (w, [start_reason p lid sent_caps])
    else (w, [send_to p (.error code)])
  | .server task =>
    if code ≠ .relay_unavailable then (w, [start_abort lid code])
    else if allow_ice then
      (w, [destroy_lobby lid, requeue_if_here task.a .host_unreachable,
        requeue_if_here task.b .host_unreachable])
    else if task.deadline.any (w.now < ·) then
      ({ w with spawned := w.spawned.insert lid { task with wake_at := w.now + NANOS } }, [])
    else (w, [start_prepare starter lid none true])

end RecompNet
