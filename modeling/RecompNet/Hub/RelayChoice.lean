import RecompNet.Hub.Offers
import RecompNet.Hub.Origin
import RecompNet.Hub.MatchRoom

/-!
# Who relays a match

The relay of a matched pair is chosen again at each stage: for the offer, for the room and for the
two `joined` messages. The tickets of an offer do not change while it is pending (`Ledger.custody`),
so all of them come to the choice of the pairing.
-/

namespace RecompNet

open Section Interleave

/-- One side of an offer relays, it can, and each side is told which. -/
structure RelaySettled (srv : Server) (p : Pending) (x : Bool) : Prop where
  chosen : p.relay_host_is_a = some x
  able : p.is_ice = false → (p.ticket x).relay_endpoint.isSome
  told : ∀ y, (foundOf srv p (p.ticket y) (p.ticket !y)).relay_role = .host ↔ y = x

/-- The seat of a side in the room of its match. -/
def seatOf (x : Bool) : Nat := if x then 0 else 1

/-- A room names one side of an offer as its relay, in its seat and with its endpoint. -/
structure RelayRoom (p : Pending) (x : Bool) (l : Lobby) : Prop where
  relay : l.relay_host_player_id = (p.ticket x).player_id
  seat : ∃ s, l.slots[seatOf x]? = some (some s) ∧ s.player_id = (p.ticket x).player_id
  endpoint : p.is_ice = false → (p.ticket x).relay_endpoint = some l.host_endpoint

/-- What the stages of a match say about its relay. -/
structure RelayAgreed (srv : Server) (c : HubSnapshot) (tr : List HubLabel) : Prop where
  /-- Whatever is in the queue, the two connections of an offer agree on the relay. -/
  offered : ∀ (g : QueueInner) cooldown now ids, ∀ p ∈ (g.pair cooldown now ids).2,
    p.a.player_id ≠ p.b.player_id → ∃ x, RelaySettled srv p x
  /-- They still do when the offer is taken out. -/
  kept : ∀ p ∈ offersOf srv c tr, p.blank ∈ tr.flatMap (made srv) ∧
    (p.a.player_id ≠ p.b.player_id → ∃ x, RelaySettled srv p.blank x ∧ RelaySettled srv p x)
  /-- A side is told of an offer what was made for it. -/
  found : ∀ q f, (q, .automatch_found f) ∈ c.world.sent → ∃ p ∈ tr.flatMap (made srv), ∃ y,
    q = (p.ticket y).player_id ∧ f = foundOf srv p (p.ticket y) (p.ticket !y)
  /-- The room of a match has the relay of the offer. -/
  room : ∀ t plan o pre, .ran t (form_match_room plan) o pre ∈ tr →
    plan.p.blank ∈ tr.flatMap (made srv) ∧ RelaySettled srv plan.p plan.a_hosts ∧
      ∀ lid l, pre.world.hub.lobbies.lookup lid = none →
        (exec srv (form_match_room plan) o pre.world).1.hub.lobbies.lookup lid = some l →
        RelayRoom plan.p plan.a_hosts l
  /-- Both players are told of the seat of that relay. -/
  joined : ∀ q j, (q, .joined j) ∈ c.world.sent → j.automatch → ∃ t plan o pre x,
    .ran t (form_match_room plan) o pre ∈ tr ∧ j.lobby_id = o.uuid ∧
      q = (plan.p.ticket x).player_id ∧ j.local_slot = seatOf x ∧
      j.relay_host_slot = some (seatOf plan.a_hosts)

/-- A pair that may be offered has somebody who relays. -/
lemma relay_chosen {p : Pending} (possible : relay_possible p.a p.b) :
    ∃ x, p.relay_host_is_a = some x ∧ (p.is_ice = false → (p.ticket x).relay_endpoint.isSome) := by
  unfold Pending.relay_host_is_a
  split_ifs with ice
  · exact ⟨_, rfl, fun no => absurd (no.symm.trans ice) (by decide)⟩
  · cases ha : p.a.relay_endpoint with
    | none =>
      cases hb : p.b.relay_endpoint with
      | none =>
        have both : p.a.ice_relay && p.b.ice_relay := by
          simpa [relay_possible, ha, hb] using possible
        exact absurd both ice
      | some eb => exact ⟨false, rfl, fun _ => by simp [Pending.ticket, hb]⟩
    | some ea =>
      cases hb : p.b.relay_endpoint with
      | none => exact ⟨true, rfl, fun _ => by simp [Pending.ticket, ha]⟩
      | some eb =>
        refine ⟨p.rtt_pick, rfl, fun _ => ?_⟩
        cases p.rtt_pick <;> simp [Pending.ticket, ha, hb]

/-- The side that is told to host is the chosen one, when the sides are two connections. -/
lemma relay_told {srv : Server} {p : Pending} {x : Bool} (chosen : p.relay_host_is_a = some x)
    (apart : p.a.player_id ≠ p.b.player_id) (y : Bool) :
    (foundOf srv p (p.ticket y) (p.ticket !y)).relay_role = .host ↔ y = x := by
  have mine : decide ((p.ticket y).player_id = p.a.player_id) = y := by
    cases y with
    | true => exact decide_eq_true rfl
    | false => exact decide_eq_false apart.symm
  simp only [foundOf, chosen, mine, Option.some.injEq]
  split_ifs with e
  · exact iff_of_true rfl e.symm
  · exact iff_of_false (by decide) fun h => e h.symm

/-- An offer that may be made is settled. -/
lemma relay_settled (srv : Server) {p : Pending} (possible : relay_possible p.a p.b)
    (apart : p.a.player_id ≠ p.b.player_id) : ∃ x, RelaySettled srv p x := by
  obtain ⟨x, chosen, able⟩ := relay_chosen possible
  exact ⟨x, chosen, able, relay_told chosen apart⟩

/-- The answers do not change who relays. -/
lemma RelaySettled.of_blank {srv p x} (h : RelaySettled srv p.blank x) : RelaySettled srv p x :=
  ⟨h.chosen, h.able, h.told⟩

/-- A pairing settles its offers. -/
lemma pair_settled {srv : Server} {g : QueueInner} {cooldown now ids} :
    ∀ p ∈ (g.pair cooldown now ids).2, p.a.player_id ≠ p.b.player_id →
      ∃ x, RelaySettled srv p x := by
  intro p hp apart
  have spec := (QueueInner.pairLoop_spec (g := g.window cooldown now)).2.2.2 p hp
  exact relay_settled srv spec.1.relay apart

/-- An offer of the queue was made by a pairing of the run. -/
lemma Ledger.offered {srv c tr p} (h : Ledger srv c tr) (hp : p ∈ offersOf srv c tr) :
    p.blank ∈ tr.flatMap (made srv) := h.custody.mem_iff.mp (List.mem_map_of_mem hp)

/-- The offers of a run are settled. -/
lemma made_settled {srv : Server} {tr : List HubLabel} {p} (h : p ∈ tr.flatMap (made srv))
    (apart : p.a.player_id ≠ p.b.player_id) : ∃ x, RelaySettled srv p x := by
  obtain ⟨l, -, hp⟩ := List.mem_flatMap.mp h
  unfold made at hp
  split at hp
  · exact pair_settled p hp apart
  · cases hp

/-- A plan is made for an offer that was taken out, with the relay of the offer. -/
lemma HubRun.plan_formed {srv c tr} (r : HubRun srv c tr) {t plan o pre}
    (h : .ran t (form_match_room plan) o pre ∈ tr) :
    plan.p ∈ offersOf srv c tr ∧ plan.p.both_yes ∧ plan.p.relay_host_is_a = some plan.a_hosts := by
  obtain ⟨s', o', pre', hm, hs, hk⟩ := HubRun.ran_called r h fun e w hb => by
    simpa using body_kinds hb
  cases s' with
  | form_match p =>
    obtain ⟨out, yes⟩ := HubRun.formed_taken r hm
    simp only [exec, form_match_step] at hs
    split at hs
    · cases hs
    · split at hs
      · cases hs
      · rename_i x chosen
        cases List.mem_singleton.mp hs
        exact ⟨List.mem_append_right _ out, yes, chosen⟩
  | dispatch p ip msg => cases hop : msg.op <;> simp [hop] at hk
  | _ => simp at hk

/-- The sides of an offer that both accepted are two connections. -/
lemma Ledger.apart {srv c tr p} (h : Ledger srv c tr) (hp : p ∈ offersOf srv c tr)
    (yes : p.both_yes) : p.a.player_id ≠ p.b.player_id := by
  intro same
  have silent := h.alone p hp same
  have accepted := of_decide_eq_true ((Bool.and_eq_true _ _).mp yes).2
  cases silent.symm.trans accepted

/-- The room of a plan names the relay of the plan. -/
lemma matchLobby_relay {srv : Server} {g : HubInner} {plan : MatchPlan} {lid : String}
    (able : plan.p.is_ice = false → (plan.p.ticket plan.a_hosts).relay_endpoint.isSome) :
    RelayRoom plan.p plan.a_hosts (matchLobby srv g plan lid) := by
  have chosen : plan.relay_ticket = plan.p.ticket plan.a_hosts := by
    unfold MatchPlan.relay_ticket Pending.ticket
    cases plan.a_hosts <;> rfl
  refine ⟨congrArg Ticket.player_id chosen, ⟨matchSlot g (plan.p.ticket plan.a_hosts), ?_, rfl⟩, ?_⟩
  · simp only [matchLobby, plan.rs.max_slots_two]
    cases plan.a_hosts <;> rfl
  · intro no
    obtain ⟨e, he⟩ := Option.isSome_iff_exists.mp (able no)
    simp [matchLobby, no, chosen, he]

/-- A frame of a kind that only pending sends have was sent by one of them, which a section that has
such sends started. -/
lemma HubRun.sent_called {srv c tr} (r : HubRun srv c tr) {q m} (h : (q, m) ∈ c.world.sent)
    (list : m.kind ≠ .lobby_list) (other : m.kind ≠ .other) :
    ∃ t s o pre, .ran t s o pre ∈ tr ∧ send_to q m ∈ (exec srv s o pre.world).2 ∧
      .send_to m.kind ∈ s.calls := by
  obtain ⟨l, hl, hf⟩ := (HubRun.mem_sent r).mp h
  rcases (mem_frames hf).2 with ⟨t, o, pre, rfl⟩ | ⟨t, o, pre, rfl, hb⟩ | rfl | ⟨rfl, -⟩
  · obtain ⟨s', o', pre', hm, hs, hk⟩ := HubRun.ran_called r hl fun e w hb => by
      simpa using body_kinds hb
    exact ⟨t, s', o', pre', hm, hs, hk⟩
  · obtain ⟨id, -, e⟩ := List.mem_map.mp hb
    cases e
    exact absurd rfl list
  · exact absurd rfl other
  · exact absurd rfl other

/-- The frames of an offer that were sent are those that were made for it. -/
lemma HubRun.found_made {srv c tr} (r : HubRun srv c tr) {q f}
    (h : (q, .automatch_found f) ∈ c.world.sent) : ∃ p ∈ tr.flatMap (made srv), ∃ y,
      q = (p.ticket y).player_id ∧ f = foundOf srv p (p.ticket y) (p.ticket !y) := by
  obtain ⟨t, s, o, pre, hm, hs, hk⟩ := HubRun.sent_called r h nofun nofun
  cases s with
  | run_pairing =>
    obtain ⟨p, hp, hs⟩ := List.mem_flatMap.mp hs
    refine ⟨p, List.mem_flatMap.mpr ⟨_, hm, hp⟩, ?_⟩
    simp only [offer_pair, List.mem_cons, List.not_mem_nil, or_false, send_to.injEq,
      OutMsg.automatch_found.injEq] at hs
    rcases hs with ⟨rfl, rfl⟩ | ⟨rfl, rfl⟩
    · exact ⟨true, rfl, rfl⟩
    · exact ⟨false, rfl, rfl⟩
  | dispatch p ip msg => cases hop : msg.op <;> simp [hop, OutMsg.kind] at hk
  | _ => simp [OutMsg.kind] at hk

/-- A `joined` of a match is one of the two that go out when its room is formed. -/
lemma HubRun.joined_formed {srv c tr} (r : HubRun srv c tr) {q j}
    (h : (q, .joined j) ∈ c.world.sent) (auto : j.automatch) : ∃ t plan o pre x,
      .ran t (form_match_room plan) o pre ∈ tr ∧ j.lobby_id = o.uuid ∧
        q = (plan.p.ticket x).player_id ∧ j.local_slot = seatOf x ∧
        j.relay_host_slot = some (seatOf plan.a_hosts) := by
  obtain ⟨t, s, o, pre, hm, hs, hk⟩ := HubRun.sent_called r h nofun nofun
  cases s with
  | join_ok p lid seated =>
    simp only [exec, World.lift, join_ok_step, List.mem_cons, List.not_mem_nil, or_false,
      send_to.injEq, reduceCtorEq, OutMsg.joined.injEq] at hs
    obtain ⟨-, rfl⟩ := hs
    cases auto
  | form_match_joined plan lid sid seat =>
    obtain ⟨s', o', pre', hm', hs', hk'⟩ := HubRun.ran_called r hm fun e w hb => by
      simpa using body_kinds hb
    cases s' with
    | form_match_room plan' =>
      simp only [exec, form_match_room_step] at hs'
      split_ifs at hs'
      · simp at hs'
      · simp at hs'
      · simp only [exec, World.lift, form_match_joined_step, List.mem_singleton, send_to.injEq,
          OutMsg.joined.injEq] at hs
        obtain ⟨rfl, rfl⟩ := hs
        simp only [List.mem_cons, form_match_joined.injEq, reduceCtorEq, List.not_mem_nil,
          or_false] at hs'
        rcases hs' with ⟨rfl, rfl, -, rfl⟩ | ⟨rfl, rfl, -, rfl⟩
        · exact ⟨_, _, _, _, true, hm', rfl, rfl, rfl, rfl⟩
        · exact ⟨_, _, _, _, false, hm', rfl, rfl, rfl, rfl⟩
    | dispatch p ip msg => cases hop : msg.op <;> simp [hop] at hk'
    | _ => simp at hk'
  | dispatch p ip msg => cases hop : msg.op <;> simp [hop, OutMsg.kind] at hk
  | _ => simp [OutMsg.kind] at hk

/-- **Who relays a match.** The two connections of every offer, the room of their match and the
`joined` messages of that room agree on it. -/
theorem relay_agreed {srv c tr} (r : HubRun srv c tr) : RelayAgreed srv c tr where
  offered _ _ _ _ := pair_settled
  kept p hp := by
    have here := (HubRun.ledger r).offered hp
    refine ⟨here, fun apart => ?_⟩
    obtain ⟨x, settled⟩ := made_settled here apart
    exact ⟨x, settled, settled.of_blank⟩
  found _ _ := HubRun.found_made r
  room t plan o pre h := by
    obtain ⟨out, yes, chosen⟩ := HubRun.plan_formed r h
    have led := HubRun.ledger r
    have apart := led.apart out yes
    obtain ⟨x, settled⟩ := made_settled (led.offered out) apart
    have settled := settled.of_blank
    obtain rfl := Option.some.inj (settled.chosen.symm.trans chosen)
    refine ⟨led.offered out, settled, ?_⟩
    intro lid l absent hl
    obtain ⟨_, _, r', -, -⟩ := Run.ran_pending r h
    rcases (exec_change srv _ o (HubRun.basic r').sized).lobby_back hl with
      ⟨l0, hl0, -⟩ | ⟨_, _, _, e, -⟩ | ⟨_, e, -, -, -, -, rfl⟩
    · cases absent.symm.trans hl0
    · cases e
    · cases e
      exact matchLobby_relay settled.able
  joined _ _ := HubRun.joined_formed r

/-- Is the frame a `joined` of a match with the relay in the first seat? -/
def joinsFirstRelay (player : String) : String × OutMsg → Bool
  | (q, .joined j) => q = player && j.automatch && j.relay_host_slot = some 0
  | _ => false

/-- Alice and Bob are put in a room whose relay is the player in the first seat. -/
theorem relay_agreed_matched : ∃ c tr p q, HubRun sampleServer c tr ∧ p ≠ q ∧
    (∃ x ∈ c.world.sent, joinsFirstRelay p x) ∧ (∃ x ∈ c.world.sent, joinsFirstRelay q x) ∧
    RelayAgreed sampleServer c tr := by
  let p := "6b0f1e52-3c1d-4a86-9a53-0d5f6f1c2a11"
  let q := "c4d1c1a0-5f0e-4a53-8d43-9f4b1f7f3b22"
  let lid := "1f8a9f0e-7d2b-4b57-8f6f-2f6f2b0c9d01"
  have h : ((hubMachine sampleServer).follow (pairUp p q lid)).any fun x =>
      x.1.world.sent.any (joinsFirstRelay p) && x.1.world.sent.any (joinsFirstRelay q) := by
    decide
  obtain ⟨c, tr, r, ht, -⟩ := Machine.follow_reaches h
  obtain ⟨first, second⟩ := (Bool.and_eq_true _ _).mp ht
  exact ⟨c, tr, p, q, r, by decide, List.any_eq_true.mp first, List.any_eq_true.mp second,
    relay_agreed r⟩

end RecompNet
