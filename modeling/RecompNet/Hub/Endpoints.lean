import RecompNet.Hub.EndpointText
import RecompNet.Hub.GuestEndpoint

/-!
# The endpoints of a room

Four requests bring the endpoints that the other players of a room dial. `set_host_endpoint` and the
offer of a queue request go through the strict validator, the binds of `create` and `join` and of a
ticket are rewritten. `endpoints_sound` says of which binds and offers all endpoints are what they
should be, in every state of a run.
-/

namespace RecompNet

open Section Interleave

/-- A client connected from an address. -/
def ConnectedFrom (tr : List HubLabel) (p ip : String) : Prop :=
  ∃ pre, .came (.connect p ip) pre ∈ tr

/-- A step in which a client supplies the host endpoint of a room. -/
inductive SuppliesHost (srv : Server) (lid p ip ep : String) : HubLabel → Prop where
  | created {t msg o pre} :
    o.uuid = lid →
    ep = own_endpoint srv.parse_ip ((Text.nonempty msg.host_bind).getD "0.0.0.0:7777") ip →
    SuppliesHost srv lid p ip ep (.ran t (create_insert p ip msg) o pre)
  | offered {t msg o pre raw} :
    msg.op = .set_host_endpoint →
    pre.world.hub.lobby_id_of p = some lid →
    msg.host_endpoint = some raw →
    parse_advertise_endpoint raw = some ep →
    SuppliesHost srv lid p ip ep (.ran t (dispatch p ip msg) o pre)
  | relayed {t plan o pre} :
    o.uuid = lid →
    plan.relay_ticket.player_id = p →
    plan.relay_ticket.relay_endpoint = some ep →
    SuppliesHost srv lid p ip ep (.ran t (form_match_room plan) o pre)

/-- A step in which a client supplies the guest endpoint of a room. -/
inductive SuppliesGuest (srv : Server) (lid p ip ep : String) : HubLabel → Prop where
  | joined {t msg o pre} :
    ep = joinEndpoint srv ip msg →
    SuppliesGuest srv lid p ip ep (.ran t (join_seat p ip lid msg) o pre)
  | matched {t plan o pre} :
    o.uuid = lid →
    plan.p.b.player_id = p →
    ep = own_endpoint srv.parse_ip plan.p.b.guest_bind ip →
    SuppliesGuest srv lid p ip ep (.ran t (form_match_room plan) o pre)

/-- An endpoint is a client's own, and the client supplied it. -/
def OwnSupply (srv : Server) (tr : List HubLabel) (supplies : String → String → HubLabel → Prop)
    (ep : String) : Prop :=
  ∃ p ip, ConnectedFrom tr p ip ∧ (∃ x ∈ tr, supplies p ip x) ∧ EndpointOf srv.parse_ip ip ep

/-- What the endpoints of a room should be. -/
structure EndpointsSound (srv : Server) (tr : List HubLabel) (lid : String) (l : Lobby) : Prop where
  host : l.host_endpoint ≠ "" →
    OwnSupply srv tr (SuppliesHost srv lid · · l.host_endpoint) l.host_endpoint
  guest : l.guest_endpoint ≠ "" →
    OwnSupply srv tr (SuppliesGuest srv lid · · l.guest_endpoint) l.guest_endpoint
  lan : LanList l.lan_endpoints

/-- The binds and offers that a step writes into a room are plain, and so is the offer of a ticket.
-/
def PlainEndpoints (srv : Server) : HubLabel → Prop
  | .ran _ (create_insert _ ip msg) _ _ =>
    PlainBind srv.parse_ip ip ((Text.nonempty msg.host_bind).getD "0.0.0.0:7777")
  | .ran _ (join_seat p ip lid msg) o pre =>
    (joinOutcome srv o pre.world.hub p ip lid msg).2.seated →
      PlainBind srv.parse_ip ip ((Text.nonempty msg.guest_bind).getD "0.0.0.0:7778")
  | .ran _ (dispatch p ip msg) _ pre =>
    msg.op = .set_host_endpoint → ∀ lid l, pre.world.hub.lobby_id_of p = some lid →
      pre.world.hub.lobbies.lookup lid = some l → l.host_player_id = p →
      ∀ raw, msg.host_endpoint = some raw → PlainOffer srv.parse_ip ip raw ∧
        (endpoint_is_clients_own srv.parse_ip (Text.trim raw) ip →
          ∀ item ∈ msg.lan_endpoints.getD [], PlainLan item)
  | .ran _ (queue_ticket req _ _) _ pre =>
    ∀ raw, Text.nonempty (req.msg.host_endpoint.map Text.trim) = some raw →
      PlainOffer srv.parse_ip
        (((pre.world.hub.clients.lookup req.player_id).map (·.peer_ip)).getD "") raw
  | .ran _ (form_match_room plan) _ pre =>
    pre.world.hub.lobbies.size < MAX_LOBBIES → pre.world.hub.connected plan.p.a.player_id →
      ∀ row, pre.world.hub.clients.lookup plan.p.b.player_id = some row →
        PlainBind srv.parse_ip row.peer_ip plan.p.b.guest_bind
  | _ => True

/-! ## The address of a client -/

/-- The client that a section acts for, with its address. -/
def Section.speaker : Section → Option (String × String)
  | handle_text p ip _ | dispatch p ip _ | create_insert p ip _ | join_seat p ip _ _ => some (p, ip)
  | _ => none

lemma Emits.speaker {srv s s' x} (em : Emits srv s s') (h : s'.speaker = some x) :
    s.speaker = some x := by
  cases em with
  | @plain s s' hp =>
    cases s' with
    | handle_text | dispatch | create_insert | join_seat => cases hp
    | _ => cases h
  | dispatch | create | join => exact h
  | _ => cases h

lemma ConnectedFrom.cons {tr p ip x} (h : ConnectedFrom tr p ip) : ConnectedFrom (x :: tr) p ip :=
  h.imp fun _ => List.mem_cons_of_mem _

/-- The addresses in the rows of the clients are those that they connected from. -/
theorem HubRun.rows_from {srv c tr} (r : HubRun srv c tr) : ∀ p row,
    c.world.hub.clients.lookup p = some row → ConnectedFrom tr p row.peer_ip := by
  apply r.induct (I := fun c tr => ∀ p row, c.world.hub.clients.lookup p = some row →
    ConnectedFrom tr p row.peer_ip)
  · intro p row h
    cases h
  · intro c tr l c' r ih st p row' hrow'
    cases st with
    | @run t s rest o e ho =>
      obtain ⟨row, hrow, edit⟩ := exec_row p row' hrow'
      have before := (ih p row hrow).cons (x := .ran t s o c)
      cases edit <;> exact before
    | @event e _ _ =>
      rcases apply_client_back hrow' with old | ⟨ip, rfl, rfl⟩
      · exact (ih p row' old).cons
      · exact ⟨c, List.mem_cons_self⟩

/-- The address in a section that acts for a client is that which the client connected from. -/
theorem HubRun.speakers_from {srv c tr} (r : HubRun srv c tr) :
    Holds (fun _ _ s => ∀ p ip, s.speaker = some (p, ip) → ConnectedFrom tr p ip) c := by
  apply r.induct
    (I := fun c tr =>
      Holds (fun _ _ s => ∀ p ip, s.speaker = some (p, ip) → ConnectedFrom tr p ip) c)
  · exact Holds.start _
  · intro c tr l c' r ih st
    have later : Holds (fun _ _ s => ∀ p ip, s.speaker = some (p, ip) →
        ConnectedFrom (l :: tr) p ip) c := fun t s hs p ip h => (ih t s hs p ip h).cons
    cases st with
    | @run t s rest o e _ =>
      apply later.run e
      · exact fun _ _ _ h => h
      · intro s' hs' p ip h
        exact later t s (e ▸ List.mem_cons_self) p ip ((exec_emits s' hs').speaker h)
    | @event e _ enabled =>
      apply later.event
      · exact fun _ _ _ h => h
      · intro s hs p ip h
        cases e <;> simp only [hubMachine, Event.body, List.mem_cons, List.mem_map,
          List.not_mem_nil, or_false] at hs
        case connect | list_tick =>
          subst hs
          cases h
        case text =>
          subst hs
          cases h
          obtain ⟨row, hrow⟩ := connected_iff.mp enabled
          rw [hrow]
          exact (HubRun.rows_from r _ row hrow).cons
        case disconnect | automatch_tick => rcases hs with rfl | rfl | rfl <;> cases h
        case wake =>
          obtain ⟨task, -, rfl⟩ := hs
          cases h

/-! ## What is written -/

section
variable {srv : Server} {o : Answer} {w : World} {lid : String} {l l' : Lobby}

/-- What the strict request makes of a room. -/
lemma set_host_endpoint_inv {p ip : String} {msg : InMsg}
    (hl' : (handle_set_host_endpoint srv w.hub p ip msg).1.lobbies.lookup lid = some l') :
    w.hub.lobbies.lookup lid = some l' ∨
    ∃ l raw ep, w.hub.lobby_id_of p = some lid ∧ w.hub.lobbies.lookup lid = some l ∧
      l.host_player_id = p ∧ msg.host_endpoint = some raw ∧
      parse_advertise_endpoint raw = some ep ∧ endpoint_is_clients_own srv.parse_ip ep ip ∧
      l'.host_endpoint = ep ∧ l'.lan_endpoints = sanitize_lan_endpoints msg.lan_endpoints := by
  unfold handle_set_host_endpoint at hl'
  dsimp only at hl'
  split at hl'
  · exact .inl hl'
  · rename_i ep parsed
    obtain ⟨accepted, own⟩ := Option.filter_eq_some_iff.mp parsed
    obtain ⟨raw, sent, hep⟩ := Option.bind_eq_some_iff.mp accepted
    split at hl'
    · exact .inl hl'
    · rename_i lid0 noted
      split at hl'
      · exact .inl hl'
      · rename_i l hl
        split at hl'
        · exact .inl hl'
        · rename_i host
          obtain ⟨l0, hl0, ⟨-, rfl⟩ | ⟨rfl, rfl⟩⟩ := lookup_setLobby_back hl'
          · exact .inl hl0
          · exact .inr ⟨l, raw, ep, noted, hl, not_not.mp host, sent, hep, own, rfl, rfl⟩

/-- Only that request writes the endpoints of the host of a room. -/
lemma RoomEdit.host_endpoint {s : Section} (h : RoomEdit srv o w lid l s l') :
    (l'.host_endpoint = l.host_endpoint ∧ l'.lan_endpoints = l.lan_endpoints) ∨
      ∃ p ip msg, s = dispatch p ip msg ∧ msg.op = .set_host_endpoint := by
  have read : ∀ {m n : Lobby}, m.furniture = n →
      m.host_endpoint = n.host_endpoint ∧ m.lan_endpoints = n.lan_endpoints :=
    fun e => ⟨(congrArg Lobby.host_endpoint e :), (congrArg Lobby.lan_endpoints e :)⟩
  have kept : ∀ {m : Lobby}, m.furniture = l.furniture →
      m.host_endpoint = l.host_endpoint ∧ m.lan_endpoints = l.lan_endpoints :=
    fun e => (read e).imp (·.trans rfl) (·.trans rfl)
  cases h with
  | same | set_match_caps | path_report | launch | vacate => exact .inl ⟨rfl, rfl⟩
  | rename | set_ready => exact .inl (kept Lobby.furniture_setMember)
  | set_host_endpoint op => exact .inr ⟨_, _, _, rfl, op⟩
  | move | seat_move => exact .inl (kept Lobby.furniture_rearrange)
  | seat_swap_answer => exact .inl (kept Lobby.furniture_trade)
  | kick => exact .inl ((read Lobby.furniture_kick).imp (·.trans rfl) (·.trans rfl))
  | sit => exact .inl ((read Lobby.furniture_sit).imp (·.trans rfl) (·.trans rfl))

/-- Who comes with an endpoint comes in a join that seats it. -/
lemma turnover_joined {p e : String} {x : HubLabel} (h : turnover srv lid x = some (.joined p e)) :
    ∃ t ip msg o pre, x = .ran t (join_seat p ip lid msg) o pre ∧
      (joinOutcome srv o pre.world.hub p ip lid msg).2.seated ∧ e = joinEndpoint srv ip msg := by
  cases x with
  | came => cases h
  | ran t s o pre =>
    cases s with
    | join_seat q ip lid' msg =>
      simp only [turnover] at h
      split at h
      · rename_i ok
        obtain ⟨rfl, seated⟩ := ok
        cases h
        exact ⟨t, ip, msg, o, pre, rfl, seated, rfl⟩
      · cases h
    | client_leave q =>
      simp only [turnover] at h
      split at h <;> cases h
    | dispatch q ip msg =>
      simp only [turnover] at h
      split at h <;> cases h
    | _ => cases h

end

/-! ## Over a run -/

lemma OwnSupply.cons {srv tr supplies ep x} (h : OwnSupply srv tr supplies ep) :
    OwnSupply srv (x :: tr) supplies ep := by
  obtain ⟨p, ip, here, ⟨y, hy, supplied⟩, sound⟩ := h
  exact ⟨p, ip, here.cons, ⟨y, List.mem_cons_of_mem _ hy, supplied⟩, sound⟩

/-- Nothing is the own endpoint of a client without an address. -/
lemma own_nowhere {parse_ip : String → Option IpAddr} (parser : IpParser parse_ip) (ep : String) :
    endpoint_is_clients_own parse_ip ep "" = false := by
  have blank : Text.trim "" = "" ∧ Text.starts_with "" "::ffff:" = false := by decide
  unfold endpoint_is_clients_own
  split
  · rfl
  · dsimp only
    split
    · rfl
    · simp [blank.1, blank.2, parser.blank]

/-- The relay offer of a ticket is the own endpoint of its client. -/
lemma HubRun.offers_sound {srv c tr} (r : HubRun srv c tr) (parser : IpParser srv.parse_ip)
    (plain : ∀ l ∈ tr, PlainEndpoints srv l) :
    TicketsKeep (fun x => ∀ ep, x.relay_endpoint = some ep →
      ∃ ip, ConnectedFrom tr x.player_id ip ∧ EndpointOf srv.parse_ip ip ep) c := by
  apply HubRun.asked_tickets_keep r
  · intro t req keys blocks o pre x asked made ep hep
    have offer := plain _ asked
    obtain ⟨later, earlier, rfl⟩ := List.append_of_mem asked
    obtain ⟨before, -⟩ := r.pre_reached _ _ _ rfl
    obtain ⟨relay, hrelay, rfl⟩ := Option.map_eq_some_iff.mp made
    obtain rfl : relay = some ep := hep
    split at hrelay
    · cases hrelay
    · rename_i raw sent
      obtain ⟨ep', accepted, e⟩ := Option.map_eq_some_iff.mp hrelay
      obtain rfl := Option.some.inj e
      obtain ⟨parsed, own⟩ := Option.filter_eq_some_iff.mp accepted
      have sound := offer_endpoint parser parsed own (offer raw sent)
      cases hrow : pre.world.hub.clients.lookup req.player_id with
      | none =>
        have nowhere := own
        rw [hrow, Option.map_none, Option.getD_none, own_nowhere parser] at nowhere
        cases nowhere
      | some row =>
        rw [hrow] at sound
        obtain ⟨at', here⟩ := HubRun.rows_from before req.player_id row hrow
        exact ⟨_, ⟨at', List.mem_append_right _ (List.mem_cons_of_mem _ here)⟩, sound⟩
  · exact fun _ _ h => h
  · exact fun _ _ h => h

section
variable {srv : Server} {c : HubSnapshot} {tr : List HubLabel} {t : Tid} {s : Section} {o : Answer}
  {lid : String} {l l' : Lobby}

/-- The endpoints of the host of a room after a step. -/
lemma host_endpoints_step (r : HubRun srv c tr) (parser : IpParser srv.parse_ip)
    (plain : PlainEndpoints srv (.ran t s o c)) (mine : s ∈ c.pending t)
    (hl : c.world.hub.lobbies.lookup lid = some l) (edit : RoomEdit srv o c.world lid l s l')
    (hl' : (exec srv s o c.world).1.hub.lobbies.lookup lid = some l')
    (sound : EndpointsSound srv tr lid l) :
    (l'.host_endpoint ≠ "" → OwnSupply srv (.ran t s o c :: tr)
      (SuppliesHost srv lid · · l'.host_endpoint) l'.host_endpoint) ∧ LanList l'.lan_endpoints := by
  have kept : l'.host_endpoint = l.host_endpoint → l'.lan_endpoints = l.lan_endpoints →
      (l'.host_endpoint ≠ "" → OwnSupply srv (.ran t s o c :: tr)
        (SuppliesHost srv lid · · l'.host_endpoint) l'.host_endpoint) ∧ LanList l'.lan_endpoints := by
    intro host lan
    rw [host, lan]
    exact ⟨fun some => (sound.host some).cons, sound.lan⟩
  rcases edit.host_endpoint with ⟨host, lan⟩ | ⟨p, ip, msg, rfl, op⟩
  · exact kept host lan
  · simp only [exec, World.lift, World.setHub, dispatch_step, op] at hl'
    rcases set_host_endpoint_inv hl' with
      same | ⟨l0, raw, ep, noted, hl0, host, sent, accepted, own, e, lan⟩
    · obtain rfl := Option.some.inj (hl.symm.trans same)
      exact kept rfl rfl
    · obtain ⟨offer, plainLan⟩ := plain op lid l0 noted hl0 host raw sent
      have from' := HubRun.speakers_from r t _ mine p ip rfl
      constructor
      · intro _
        rw [e]
        exact ⟨p, ip, from'.cons, ⟨_, List.mem_cons_self, .offered op noted sent accepted⟩,
          offer_endpoint parser accepted own offer⟩
      · rw [lan]
        refine sanitize_lan (plainLan ?_)
        obtain ⟨host', port_s, port, parts, rfl, isPort⟩ := parse_advertise_eq accepted
        obtain ⟨whole, none⟩ := rsplit_eq parts
        rw [whole, own_port none isPort.plain.1]
        exact own

/-- The endpoint of the guest of a room after a step. -/
lemma guest_endpoint_step (r : HubRun srv c tr) (parser : IpParser srv.parse_ip)
    (literal : ∀ p ip, ConnectedFrom tr p ip → (srv.parse_ip ip).isSome)
    (plain : PlainEndpoints srv (.ran t s o c)) (mine : s ∈ c.pending t) (new : lid ≠ o.uuid)
    (hl : c.world.hub.lobbies.lookup lid = some l)
    (hl' : (exec srv s o c.world).1.hub.lobbies.lookup lid = some l')
    (sound : EndpointsSound srv tr lid l) (some' : l'.guest_endpoint ≠ "") :
    OwnSupply srv (.ran t s o c :: tr) (SuppliesGuest srv lid · · l'.guest_endpoint)
      l'.guest_endpoint := by
  obtain ⟨l0, hl0, -, writes, -⟩ := @room_turnover srv o lid l' s t c (HubRun.basic r) new hl'
  obtain rfl := Option.some.inj (hl.symm.trans hl0)
  cases turns : turnover srv lid (.ran t s o c) with
  | none =>
    rw [turns] at writes
    replace writes : l'.guest_endpoint = l.guest_endpoint := writes
    rw [writes] at some' ⊢
    exact (sound.guest some').cons
  | some x =>
    rw [turns] at writes
    cases x with
    | parted => exact absurd writes some'
    | joined p e =>
      replace writes : l'.guest_endpoint = e := writes
      obtain ⟨t', ip, msg, o', pre, here, seated, rfl⟩ := turnover_joined turns
      cases here
      have from' := HubRun.speakers_from r t _ mine p ip rfl
      rw [writes]
      exact ⟨p, ip, from'.cons, ⟨_, List.mem_cons_self, .joined rfl⟩,
        (own_endpoint_iff parser (literal p ip from')).mpr (plain seated)⟩

/-- The endpoints of a room that was just formed for a match. -/
lemma matched_endpoints {plan : MatchPlan} (r : HubRun srv c tr) (parser : IpParser srv.parse_ip)
    (literal : ∀ p ip, ConnectedFrom tr p ip → (srv.parse_ip ip).isSome)
    (earlier : ∀ l ∈ tr, PlainEndpoints srv l) (mine : form_match_room plan ∈ c.pending t)
    (plain : PlainEndpoints srv (.ran t (form_match_room plan) o c))
    (room : c.world.hub.lobbies.size < MAX_LOBBIES)
    (a : c.world.hub.connected plan.p.a.player_id) (b : c.world.hub.connected plan.p.b.player_id) :
    EndpointsSound srv (.ran t (form_match_room plan) o c :: tr) o.uuid
      (matchLobby srv c.world.hub plan o.uuid) := by
  refine ⟨fun some => ?_, fun _ => ?_, lanList_nil⟩
  · cases ice : plan.p.is_ice with
    | true => simp [matchLobby, ice] at some
    | false =>
      have among : plan.relay_ticket ∈ [plan.p.a, plan.p.b] := by
        unfold MatchPlan.relay_ticket
        split <;> simp
      cases hep : plan.relay_ticket.relay_endpoint with
      | none => simp [matchLobby, ice, hep] at some
      | some ep =>
        have e : (matchLobby srv c.world.hub plan o.uuid).host_endpoint = ep := by
          simp [matchLobby, ice, hep]
        obtain ⟨ip, from', sound⟩ :=
          (HubRun.offers_sound r parser earlier).pending t _ mine _ among ep hep
        rw [e]
        exact ⟨_, ip, from'.cons, ⟨_, List.mem_cons_self, .relayed rfl rfl hep⟩, sound⟩
  · obtain ⟨row, hrow⟩ := connected_iff.mp b
    have from' := HubRun.rows_from r _ row hrow
    have e : (matchLobby srv c.world.hub plan o.uuid).guest_endpoint =
        own_endpoint srv.parse_ip plan.p.b.guest_bind row.peer_ip := by
      simp [matchLobby, hrow]
    rw [e]
    exact ⟨_, row.peer_ip, from'.cons, ⟨_, List.mem_cons_self, .matched rfl rfl rfl⟩,
      (own_endpoint_iff parser (literal _ _ from')).mpr (plain room a row hrow)⟩

end

/-- **Endpoints.** If every client is seen at the literal of an IP address, and the binds and the
offers that come into a room are plain, then in every state of a run each endpoint of a room is one
that its client can be dialled at and may advertise, and the LAN endpoints are those of private
addresses. -/
theorem endpoints_sound {srv c tr} (r : HubRun srv c tr) (parser : IpParser srv.parse_ip)
    (literal : ∀ p ip, ConnectedFrom tr p ip → (srv.parse_ip ip).isSome)
    (plain : ∀ l ∈ tr, PlainEndpoints srv l) :
    ∀ lid l, c.world.hub.lobbies.lookup lid = some l → EndpointsSound srv tr lid l := by
  revert literal plain
  apply r.induct (I := fun c tr => (∀ p ip, ConnectedFrom tr p ip → (srv.parse_ip ip).isSome) →
    (∀ l ∈ tr, PlainEndpoints srv l) →
    ∀ lid l, c.world.hub.lobbies.lookup lid = some l → EndpointsSound srv tr lid l)
  · intro _ _ lid l hl
    cases hl
  · intro c tr x c' r ih st literal plain lid l' hl'
    have addressed : ∀ p ip, ConnectedFrom tr p ip → (srv.parse_ip ip).isSome :=
      fun p ip h => literal p ip h.cons
    obtain ⟨now, earlier⟩ := List.forall_mem_cons.mp plain
    have ih := ih addressed earlier
    cases st with
    | @run t s rest o e ho =>
      have basic := HubRun.basic r
      have mine : s ∈ c.pending t := e ▸ List.mem_cons_self
      rcases exec_room hl' with ⟨l, hl, edit⟩ | ⟨p, ip, msg, rfl, rfl, rfl⟩ | ⟨plan, rfl, rfl, rfl⟩
      · have new : lid ≠ o.uuid := by
          rintro rfl
          exact ho.2.1 (basic.lobby_issued _ l hl)
        have sound := ih lid l hl
        obtain ⟨host, lan⟩ := host_endpoints_step r parser now mine hl edit hl' sound
        exact ⟨host, guest_endpoint_step r parser addressed now mine new hl hl' sound, lan⟩
      · have from' := HubRun.speakers_from r t _ mine p ip rfl
        refine ⟨fun _ => ?_, fun some => absurd rfl some, lanList_nil⟩
        exact ⟨p, ip, from'.cons, ⟨_, List.mem_cons_self, .created rfl rfl⟩,
          (own_endpoint_iff parser (addressed p ip from')).mpr now⟩
      · rcases (exec_change srv _ o basic.sized).lobby_back hl' with
          ⟨l, hl, -⟩ | ⟨p, ip, msg, e, -⟩ | ⟨plan', e, room, a, b, -⟩
        · exact absurd (basic.lobby_issued _ l hl) ho.2.1
        · cases e
        · cases e
          exact matched_endpoints r parser addressed earlier mine now room a b
    | @event e _ _ =>
      have rooms : (e.apply srv c.world).hub.lobbies = c.world.hub.lobbies :=
        apply_lobbies srv c.world e
      have sound := ih lid l' (rooms ▸ hl')
      exact ⟨fun some => (sound.host some).cons, fun some => (sound.guest some).cons, sound.lan⟩

/-! ## Endpoints of a room, and a port that is none -/

/-- A parser of two addresses. -/
def twoIps (s : String) : Option IpAddr :=
  if s = "203.0.113.7" then some (.V4 [203, 0, 113, 7])
  else if s = "198.51.100.4" then some (.V4 [198, 51, 100, 4])
  else none

lemma twoIps_reads : IpParser twoIps := by
  refine ⟨rfl, fun s a h => ?_⟩
  unfold twoIps at h
  split_ifs at h with one two
  · subst one
    decide
  · subst two
    decide

def twoAddresses : Server := { sampleServer with parse_ip := twoIps }

/-- Is a client that connects seen at one of the addresses? -/
def fromTwo : HubLabel → Bool
  | .came (.connect _ ip) _ => (twoIps ip).isSome
  | _ => true

lemma fromTwo_literal {tr : List HubLabel} (h : tr.all fromTwo) :
    ∀ p ip, ConnectedFrom tr p ip → (twoAddresses.parse_ip ip).isSome := by
  rintro p ip ⟨pre, came⟩
  exact List.all_eq_true.mp h _ came

/-- A client opens a room. -/
def opensRoom (bind : Option String) : List Move :=
  let p := "6b0f1e52-3c1d-4a86-9a53-0d5f6f1c2a11"
  let o := draw "1f8a9f0e-7d2b-4b57-8f6f-2f6f2b0c9d01"
  [.event (.connect p "203.0.113.7")] ++ steps (.conn p) 1 o ++
    [say p { op := .create, host_bind := bind }] ++ steps (.conn p) 3 o

def lanOffers : List String :=
  ["192.168.1.5:7777", "127.0.0.1:7777", " 192.168.1.5:7777", "10.0.0.2:+7778"]

/-- A client opens a room at the default port and another one joins. Then the host names an endpoint of its
own, and more on its LAN. -/
def namesEndpoints : List Move :=
  let p := "6b0f1e52-3c1d-4a86-9a53-0d5f6f1c2a11"
  let q := "c4d1c1a0-5f0e-4a53-8d43-9f4b1f7f3b22"
  let o := draw "1f8a9f0e-7d2b-4b57-8f6f-2f6f2b0c9d01"
  let o' := draw "9b1deb4d-3b7d-4bad-9bdd-2b0d7b3dcb6d"
  opensRoom none ++ steps (.conn p) 2 o' ++
    [.event (.connect q "198.51.100.4")] ++ steps (.conn q) 1 o' ++
    [say q { op := .join, lobby_id := some o.uuid, guest_bind := some "198.51.100.4:7001" }] ++
    steps (.conn q) 10 o' ++
    [say p { op := .set_host_endpoint, host_endpoint := some "203.0.113.7:9000",
             lan_endpoints := some lanOffers }] ++ steps (.conn p) 2 o'

/-- Does a step write no endpoint, or one of these? -/
def plainSteps : HubLabel → Bool
  | .ran _ (create_insert _ ip msg) _ _ =>
    ip = "203.0.113.7" && (Text.nonempty msg.host_bind).isNone
  | .ran _ (join_seat _ ip _ msg) _ _ =>
    ip = "198.51.100.4" && msg.guest_bind = some "198.51.100.4:7001"
  | .ran _ (dispatch _ ip msg) _ _ => msg.op ≠ .set_host_endpoint ||
    (ip = "203.0.113.7" && msg.host_endpoint = some "203.0.113.7:9000" &&
      msg.lan_endpoints = some lanOffers)
  | .ran _ (queue_ticket _ _ _) _ _ => false
  | .ran _ (form_match_room _) _ _ => false
  | _ => true

lemma plainLan_of {raw host port : String}
    (parts : Text.rsplit_once (Text.trim raw) ':' = some (host, port))
    (octets : ∀ octet ∈ Text.split host '.',
      (parse_unsigned 255 octet).all fun n => octet = toString n) : PlainLan raw := by
  intro host' port' parts' _ octet hoctet n hn
  cases parts.symm.trans parts'
  have plain := octets octet hoctet
  rw [hn] at plain
  exact of_decide_eq_true plain

lemma plainSteps_plain {x : HubLabel} (h : plainSteps x) : PlainEndpoints twoAddresses x := by
  cases x with
  | came => trivial
  | ran t s o pre =>
    cases s with
    | create_insert p ip msg =>
      obtain ⟨one, blank⟩ := (Bool.and_eq_true _ _).mp h
      obtain rfl := of_decide_eq_true one
      show PlainBind twoIps "203.0.113.7" _
      rw [Option.isNone_iff_eq_none.mp blank]
      refine ⟨"0.0.0.0", "7777", by decide, ⟨7777, by decide, by decide, rfl⟩, ?_⟩
      rw [if_neg (by decide)]
      unfold SelfOwned
      decide
    | join_seat p ip lid msg =>
      obtain ⟨two, bind⟩ := (Bool.and_eq_true _ _).mp h
      obtain rfl := of_decide_eq_true two
      intro _
      show PlainBind twoIps "198.51.100.4" _
      rw [of_decide_eq_true bind]
      refine ⟨"198.51.100.4", "7001", by decide, ⟨7001, by decide, by decide, rfl⟩, ?_⟩
      rw [if_pos (by decide)]
      exact .inl (by decide)
    | dispatch p ip msg =>
      intro op _ l _ _ _ raw hraw
      simp only [plainSteps, op, ne_eq, not_true_eq_false, decide_false, Bool.false_or,
        Bool.and_eq_true, decide_eq_true_eq] at h
      obtain ⟨⟨rfl, host⟩, lan⟩ := h
      cases host.symm.trans hraw
      constructor
      · intro host port parts _
        have there : Text.rsplit_once (Text.trim "203.0.113.7:9000") ':' =
            some ("203.0.113.7", "9000") := by decide
        cases there.symm.trans parts
        exact .inl (by decide)
      · intro _ item hitem
        rw [lan] at hitem
        simp only [Option.getD_some, lanOffers, List.mem_cons, List.not_mem_nil, or_false] at hitem
        rcases hitem with rfl | rfl | rfl | rfl
        · exact @plainLan_of _ "192.168.1.5" "7777" (by decide) (by decide)
        · exact @plainLan_of _ "127.0.0.1" "7777" (by decide) (by decide)
        · exact @plainLan_of _ "192.168.1.5" "7777" (by decide) (by decide)
        · exact @plainLan_of _ "10.0.0.2" "+7778" (by decide) (by decide)
    | queue_ticket | form_match_room => cases h
    | _ => trivial

/-- A test of the endpoints of the room and of the steps. -/
def endpointsAt (host guest : String) (lan : List String) (test : HubLabel → Bool)
    (x : HubSnapshot × List HubLabel) : Bool :=
  ((x.1.world.hub.lobbies.lookup "1f8a9f0e-7d2b-4b57-8f6f-2f6f2b0c9d01").any fun l =>
    l.host_endpoint = host && l.guest_endpoint = guest && l.lan_endpoints = lan) && x.2.all test

lemma endpointsAt_reached {host guest : String} {lan : List String} {test : HubLabel → Bool}
    {ms : List Move} (h : ((hubMachine twoAddresses).follow ms).any (endpointsAt host guest lan test)) :
    ∃ c tr lid l, HubRun twoAddresses c tr ∧ tr.all test ∧ c.world.hub.lobbies.lookup lid = some l ∧
      l.host_endpoint = host ∧ l.guest_endpoint = guest ∧ l.lan_endpoints = lan := by
  obtain ⟨c, tr, r, ht, -⟩ := Machine.follow_reaches h
  obtain ⟨there, all⟩ := (Bool.and_eq_true _ _).mp ht
  obtain ⟨l, hl, at'⟩ := (Option.any_eq_true _ _).mp there
  simp only [Bool.and_eq_true, decide_eq_true_eq] at at'
  exact ⟨c, tr, _, l, r, all, hl, at'.1.1, at'.1.2, at'.2⟩

/-- The endpoints of a room of two, with the LAN addresses of its host. -/
theorem endpoints_sound_named : ∃ c tr lid l, HubRun twoAddresses c tr ∧
    c.world.hub.lobbies.lookup lid = some l ∧ l.host_endpoint = "203.0.113.7:9000" ∧
    l.guest_endpoint = "198.51.100.4:7001" ∧
    l.lan_endpoints = ["192.168.1.5:7777", "10.0.0.2:7778"] ∧
    EndpointsSound twoAddresses tr lid l := by
  have h : ((hubMachine twoAddresses).follow namesEndpoints).any
      (endpointsAt "203.0.113.7:9000" "198.51.100.4:7001" ["192.168.1.5:7777", "10.0.0.2:7778"]
        fun x => fromTwo x && plainSteps x) := by
    decide +kernel
  obtain ⟨c, tr, lid, l, r, all, hl, host, guest, lan⟩ := endpointsAt_reached h
  have seen : tr.all fromTwo := List.all_eq_true.mpr fun x hx =>
    ((Bool.and_eq_true _ _).mp (List.all_eq_true.mp all x hx)).1
  have plain : ∀ x ∈ tr, PlainEndpoints twoAddresses x := fun x hx =>
    plainSteps_plain ((Bool.and_eq_true _ _).mp (List.all_eq_true.mp all x hx)).2
  exact ⟨c, tr, lid, l, r, hl, host, guest, lan,
    endpoints_sound r twoIps_reads (fromTwo_literal seen) plain lid l hl⟩

/-- What follows the last colon of a bind is copied, be it a port or not. -/
theorem endpoint_port_copied : ¬ ∀ srv c tr, HubRun srv c tr → IpParser srv.parse_ip →
    (∀ p ip, ConnectedFrom tr p ip → (srv.parse_ip ip).isSome) →
    ∀ lid l, c.world.hub.lobbies.lookup lid = some l → EndpointsSound srv tr lid l := by
  intro all
  have h : ((hubMachine twoAddresses).follow (opensRoom (some "0.0.0.0:abc"))).any
      (endpointsAt "203.0.113.7:abc" "" [] fromTwo) := by
    decide +kernel
  obtain ⟨c, tr, lid, l, r, seen, hl, e, -⟩ := endpointsAt_reached h
  have sound := all _ c tr r twoIps_reads (fromTwo_literal seen) lid l hl
  obtain ⟨p, ip, -, -, own⟩ := sound.host (by rw [e]; decide)
  obtain ⟨host, port, parts, -, isPort⟩ := own.parts
  have cut : Text.rsplit_once "203.0.113.7:abc" ':' = some (host, port) := by
    rw [← e, parts]
    exact rsplit_colon isPort.plain.1
  have abc : port = "abc" := by
    have cut' : Text.rsplit_once "203.0.113.7:abc" ':' = some ("203.0.113.7", "abc") := by decide
    rw [cut'] at cut
    cases cut
    rfl
  have digit := isPort.digits 'a' (by rw [abc]; decide)
  exact absurd digit (by decide)

end RecompNet
