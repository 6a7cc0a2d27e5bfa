import RecompNet.Hub.ReadyMarks
import RecompNet.Hub.MatchLaunch

/-!
# The endpoint of the guest

A room has one field for the endpoint of its guest. Every join writes it, also that of a watcher or
of a player beyond the second, and every leave and kick clears it, whoever goes.
`guest_endpoint_iff` says when the field is nonetheless that of the one player across from the host.
-/

namespace RecompNet

open Section Interleave

/-- The endpoint that a join derives for its player. -/
def joinEndpoint (srv : Server) (ip : String) (msg : InMsg) : String :=
  own_endpoint srv.parse_ip ((Text.nonempty msg.guest_bind).getD "0.0.0.0:7778") ip

/-- Who comes to a room, with the endpoint that the join derives, or that somebody goes. -/
inductive Turnover where
  | joined (p endpoint : String)
  | parted

def SeatResult.seated : SeatResult → Bool
  | .Ok _ => true
  | _ => false

namespace HubInner

/-- Does a player leave a room that stays? -/
def parts (g : HubInner) (lid p : String) : Bool :=
  g.lobby_id_of p = some lid && (g.lobbies.lookup lid).any fun l =>
    ¬ (l.host_player_id = p ∨ l.automatch && player_count l ≤ 2)

/-- Does the host kick somebody out of its room? -/
def kicks (g : HubInner) (lid p : String) (msg : InMsg) : Bool :=
  msg.op = .kick && g.lobby_id_of p = some lid && (g.lobbies.lookup lid).any fun l =>
    l.host_player_id = p && ((msg.slot.bind l.seat).join).any (·.player_id ≠ p)

end HubInner

/-- Who comes or goes with a step. -/
def turnover (srv : Server) (lid : String) : HubLabel → Option Turnover
  | .ran _ (join_seat p ip lid' msg) o pre =>
    if lid' = lid ∧ (joinOutcome srv o pre.world.hub p ip lid' msg).2.seated then
      some (.joined p (joinEndpoint srv ip msg))
    else none
  | .ran _ (client_leave p) _ pre => if pre.world.hub.parts lid p then some .parted else none
  | .ran _ (dispatch p _ msg) _ pre =>
    if pre.world.hub.kicks lid p msg then some .parted else none
  | _ => none

/-- May the section bring somebody into a room or take somebody out? -/
def Section.turns : Section → Bool
  | join_seat .. | client_leave _ => true
  | dispatch _ _ msg => msg.op = .kick
  | _ => false

/-- The endpoint that a step derives for a player that joins with it. -/
def ownJoin (srv : Server) (lid p : String) (x : HubLabel) : Option String :=
  match turnover srv lid x with
  | some (.joined q endpoint) => if q = p then some endpoint else none
  | _ => none

namespace Turnover

/-- What is written for the guest. -/
def endpoint : Turnover → String
  | joined _ e => e
  | parted => ""

/-- It is the player itself that came, or one with the same endpoint; or somebody went, and the
player's join derived none. -/
def Suits (p e : String) : Turnover → Prop
  | joined q e' => q = p ∨ e' = e
  | parted => e = ""

end Turnover

/-- The player across from the host is the only one. -/
structure Lobby.SoleGuest (l : Lobby) (p : String) : Prop where
  guest : p ≠ l.host_player_id
  seated : ∃ s, some s ∈ l.slots ∧ s.player_id = p
  sole : ∀ s, some s ∈ l.slots → s.player_id = l.host_player_id ∨ s.player_id = p

/-- The room has this endpoint for its guest, and so have its updates and its launch. -/
structure ShowsGuest (g : HubInner) (lid : String) (e : String) : Prop where
  room : ∀ l, g.lobbies.lookup lid = some l → l.guest_endpoint = e
  updates : ∀ now q u, send_to q (.lobby_update u) ∈ (emit_lobby_update_step now g lid).2 →
    u.guest_endpoint = e
  launches : ∀ now st caps sid spectates transport ice q m, send_to q (.launch m) ∈
    (start_commit_step now g st lid caps sid spectates transport ice).2 → m.guest_endpoint = e

/-- What the updates and the launch say is what the room has. -/
lemma showsGuest_iff {g : HubInner} {lid e : String} {l : Lobby}
    (hl : g.lobbies.lookup lid = some l) :
    ShowsGuest g lid e ↔ l.guest_endpoint = e := by
  constructor
  · exact fun h => h.room l hl
  · rintro rfl
    constructor
    · rintro l' hl'
      rw [Option.some.inj (hl.symm.trans hl')]
    · intro now q u hu
      simp only [emit_lobby_update_step, hl] at hu
      obtain ⟨m, -, e⟩ := List.mem_map.mp hu
      cases e
      rfl
    · intro now st caps sid spectates transport ice q m hm
      simp only [start_commit_step, hl] at hm
      obtain ⟨m, -, e⟩ := List.mem_map.mp hm
      cases e
      rfl

/-! ## What a step writes -/

section
variable {srv : Server} {o : Answer} {w : World} {p ip lid : String} {msg : InMsg} {l l' : Lobby}

/-- What a join makes of a room. -/
lemma join_seat_inv {lid' : String}
    (hl' : (exec srv (join_seat p ip lid' msg) o w).1.hub.lobbies.lookup lid = some l') :
    (∃ l seat slot, w.hub.lobbies.lookup lid = some l ∧ lid' = lid ∧
      (joinOutcome srv o w.hub p ip lid' msg).2.seated ∧ freeSeat l = some seat ∧
      slot.player_id = p ∧ l' = l.sit seat slot (joinEndpoint srv ip msg)) ∨
    w.hub.lobbies.lookup lid = some l' ∧
      ¬ (lid' = lid ∧ (joinOutcome srv o w.hub p ip lid' msg).2.seated) := by
  simp only [exec, World.lift, World.setHub, join_seat_step_hub] at hl'
  have ends := join_ends srv o w.hub p ip lid' msg
  generalize joinOutcome srv o w.hub p ip lid' msg = out at ends hl' ⊢
  cases ends with
  | @refused r no =>
    refine .inr ⟨hl', fun h => ?_⟩
    cases r with
    | Ok s => exact no s rfl
    | _ => cases h.2
  | @seated l seat hl free =>
    obtain ⟨l0, hl0, ⟨ne, rfl⟩ | ⟨rfl, rfl⟩⟩ := lookup_setLobby_back hl'
    · exact .inr ⟨hl0, fun h => ne h.1.symm⟩
    · exact .inl ⟨l, seat, _, hl, rfl, rfl, free, rfl, rfl⟩

/-- What a leave makes of a room. -/
lemma client_leave_inv
    (hl' : (exec srv (client_leave p) o w).1.hub.lobbies.lookup lid = some l') :
    (∃ l, w.hub.lobbies.lookup lid = some l ∧ w.hub.parts lid p ∧ l' = l.vacate p) ∨
    w.hub.lobbies.lookup lid = some l' ∧ ¬ w.hub.parts lid p := by
  simp only [exec, World.lift, client_leave_step] at hl'
  unfold HubInner.parts
  cases noted : w.hub.lobby_id_of p with
  | none =>
    rw [noted] at hl'
    exact .inr ⟨hl', by simp⟩
  | some lid0 =>
    rw [noted] at hl'
    dsimp only at hl'
    by_cases here : lid0 = lid
    · subst here
      rw [decide_eq_true rfl, Bool.true_and]
      split at hl'
      · rename_i gone
        cases gone.symm.trans hl'
      · rename_i l hl
        replace hl : w.hub.lobbies.lookup lid0 = some l := hl
        rw [hl, Option.any_some, decide_eq_true_iff]
        split at hl'
        · rename_i closes
          exact .inr ⟨hl.symm.trans hl', not_not.mpr closes⟩
        · rename_i stays
          obtain ⟨l0, hl0, ⟨ne, -⟩ | ⟨-, rfl⟩⟩ := lookup_setLobby_back hl'
          · exact absurd rfl ne
          · exact .inl ⟨l0, hl.symm.trans hl0, Option.some.inj (hl.symm.trans hl0) ▸ stays, rfl⟩
    · refine .inr ⟨?_, by simp [here]⟩
      split at hl'
      · exact hl'
      · split at hl'
        · exact hl'
        · obtain ⟨l0, hl0, ⟨-, rfl⟩ | ⟨e, -⟩⟩ := lookup_setLobby_back hl'
          · exact hl0
          · exact absurd e.symm here

lemma kicks_iff {g : HubInner} (op : msg.op = .kick) :
    g.kicks lid p msg ↔ ∃ l i s, Kicks g p msg lid l i s := by
  simp only [HubInner.kicks, op, decide_true, Bool.true_and, Bool.and_eq_true, decide_eq_true_eq,
    Option.any_eq_true]
  constructor
  · rintro ⟨noted, l, room, host, s, held, other⟩
    obtain ⟨i, slot, seat⟩ := Option.bind_eq_some_iff.mp (Option.join_eq_some_iff.mp held)
    exact ⟨l, i, s, slot, noted, room, host, seat, other⟩
  · rintro ⟨l, i, s, k⟩
    refine ⟨k.noted, l, k.room, k.host, s, ?_, k.other⟩
    rw [k.slot, Option.bind_some, k.held]
    rfl

/-- What a kick makes of a room. -/
lemma kick_inv (op : msg.op = .kick)
    (hl' : (handle_kick w.hub p msg).1.lobbies.lookup lid = some l') :
    (∃ l i s, w.hub.lobbies.lookup lid = some l ∧ w.hub.kicks lid p msg ∧ l.seat i = some (some s) ∧
      l' = l.kick i) ∨
    w.hub.lobbies.lookup lid = some l' ∧ ¬ w.hub.kicks lid p msg := by
  rw [kicks_iff op]
  have ends := kick_ends w.hub p msg
  generalize (handle_kick w.hub p msg).1 = g' at ends hl'
  cases ends with
  | refused no =>
    refine .inr ⟨hl', ?_⟩
    rintro ⟨l, i, s, k⟩
    exact no lid l i s k
  | @kicked lid0 l i s k =>
    obtain ⟨l0, hl0, ⟨ne, rfl⟩ | ⟨rfl, rfl⟩⟩ := lookup_setLobby_back hl'
    · refine .inr ⟨hl0, ?_⟩
      rintro ⟨_, _, _, k'⟩
      exact ne (Option.some.inj (k'.noted.symm.trans k.noted))
    · obtain rfl := Option.some.inj (hl0.symm.trans k.room)
      exact .inl ⟨_, i, s, hl0, ⟨_, i, s, k⟩, k.held, rfl⟩

/-- The other sections write nothing for the guest. -/
lemma RoomEdit.guest_endpoint {s : Section} (h : RoomEdit srv o w lid l s l') (other : ¬ s.turns) :
    l'.guest_endpoint = l.guest_endpoint := by
  have kept : ∀ {m : Lobby}, m.furniture = l.furniture → m.guest_endpoint = l.guest_endpoint :=
    fun e => (congrArg Lobby.guest_endpoint e :)
  cases h with
  | same | set_match_caps | path_report | launch => rfl
  | rename | set_ready => exact kept Lobby.furniture_setMember
  | set_host_endpoint _ _ _ paths => rcases paths with ⟨rfl, -⟩ | rfl <;> rfl
  | move | seat_move => exact kept Lobby.furniture_rearrange
  | seat_swap_answer => exact kept Lobby.furniture_trade
  | kick op => exact absurd (decide_eq_true op) other
  | sit | vacate => exact absurd rfl other

/-- What a step of the hub writes for the guest of a room that was there before, and whom it seats.
-/
lemma room_turnover {s : Section} {t} {c : HubSnapshot} (basic : c.world.Basic) (new : lid ≠ o.uuid)
    (hl' : (exec srv s o c.world).1.hub.lobbies.lookup lid = some l') :
    ∃ l, c.world.hub.lobbies.lookup lid = some l ∧ l'.fixed = l.fixed ∧
      l'.guest_endpoint =
        ((turnover srv lid (.ran t s o c)).map Turnover.endpoint).getD l.guest_endpoint ∧
      ∀ m ∈ l'.member_ids, m ∈ l.member_ids ∨
        ∃ e, turnover srv lid (.ran t s o c) = some (.joined m e) := by
  rcases exec_room hl' with ⟨l, hl, edit⟩ | ⟨p, ip, msg, -, e, -⟩ | ⟨plan, -, e, -⟩
  · refine ⟨l, hl, edit.fixed, ?_⟩
    -- The sections that bring nobody in and take nobody out.
    have silent : turnover srv lid (.ran t s o c) = none → s.seats = [] →
        l'.guest_endpoint = l.guest_endpoint →
        l'.guest_endpoint =
          ((turnover srv lid (.ran t s o c)).map Turnover.endpoint).getD l.guest_endpoint ∧
        ∀ m ∈ l'.member_ids, m ∈ l.member_ids ∨
          ∃ e, turnover srv lid (.ran t s o c) = some (.joined m e) := by
      intro none seats same
      refine ⟨by rw [none]; exact same, fun m hm => .inl ?_⟩
      rcases (exec_change srv s o basic.sized).member_back basic.sized hl' hm with
        ⟨l0, hl0, hm⟩ | hm
      · exact Option.some.inj (hl0.symm.trans hl) ▸ hm
      · rw [seats] at hm
        cases hm
    cases s with
    | join_seat p ip lid' msg =>
      rcases join_seat_inv hl' with ⟨l0, seat, slot, hl0, rfl, ok, free, rfl, rfl⟩ | ⟨same, no⟩
      · obtain rfl := Option.some.inj (hl.symm.trans hl0)
        have joins : turnover srv lid' (.ran t (join_seat slot.player_id ip lid' msg) o c) =
            some (.joined slot.player_id (joinEndpoint srv ip msg)) := if_pos ⟨rfl, ok⟩
        rw [joins]
        refine ⟨rfl, fun m hm => ?_⟩
        have seated := Lobby.sit_members (Lobby.seat_freeSeat (basic.sized _ _ hl) free) slot
          (joinEndpoint srv ip msg)
        rcases List.mem_cons.mp (seated.subset hm) with rfl | hm
        · exact .inr ⟨_, rfl⟩
        · exact .inl hm
      · obtain rfl := Option.some.inj (hl.symm.trans same)
        have none : turnover srv lid (.ran t (join_seat p ip lid' msg) o c) = none := if_neg no
        rw [none]
        exact ⟨rfl, fun m hm => .inl hm⟩
    | client_leave p =>
      rcases client_leave_inv hl' with ⟨l0, hl0, ok, rfl⟩ | ⟨same, no⟩
      · obtain rfl := Option.some.inj (hl.symm.trans hl0)
        have leaves : turnover srv lid (.ran t (client_leave p) o c) = some .parted := if_pos ok
        rw [leaves]
        refine ⟨rfl, fun m hm => .inl ?_⟩
        rw [Lobby.vacate_members] at hm
        exact List.mem_of_mem_filter hm
      · obtain rfl := Option.some.inj (hl.symm.trans same)
        have none : turnover srv lid (.ran t (client_leave p) o c) = none := if_neg no
        rw [none]
        exact ⟨rfl, fun m hm => .inl hm⟩
    | dispatch p ip msg =>
      by_cases op : msg.op = .kick
      · simp only [exec, World.lift, World.setHub, dispatch_step, op] at hl'
        rcases kick_inv op hl' with ⟨l0, i, s, hl0, ok, held, rfl⟩ | ⟨same, no⟩
        · obtain rfl := Option.some.inj (hl.symm.trans hl0)
          have kicks : turnover srv lid (.ran t (dispatch p ip msg) o c) = some .parted := if_pos ok
          rw [kicks]
          refine ⟨rfl, fun m hm => .inl ?_⟩
          exact (Lobby.kick_members held).subset (List.mem_cons_of_mem _ hm)
        · obtain rfl := Option.some.inj (hl.symm.trans same)
          have none : turnover srv lid (.ran t (dispatch p ip msg) o c) = none := if_neg no
          rw [none]
          exact ⟨rfl, fun m hm => .inl hm⟩
      · refine silent (if_neg ?_) rfl (edit.guest_endpoint (by simp [turns, op]))
        simp [HubInner.kicks, op]
    | create_insert | form_match_room =>
      cases edit
      exact ⟨rfl, fun m hm => .inl hm⟩
    | _ => exact silent rfl rfl (edit.guest_endpoint Bool.false_ne_true)
  · exact absurd e new
  · exact absurd e new

/-- Whoever comes or goes, comes to a room that is there or goes from it. -/
lemma turnover_room {t s} {c : HubSnapshot} (h : (turnover srv lid (.ran t s o c)).isSome) :
    ∃ l, c.world.hub.lobbies.lookup lid = some l := by
  have there : ∀ {f : Lobby → Bool}, (c.world.hub.lobbies.lookup lid).any f →
      ∃ l, c.world.hub.lobbies.lookup lid = some l := by
    intro f hf
    obtain ⟨l, hl, -⟩ := (Option.any_eq_true _ _).mp hf
    exact ⟨l, hl⟩
  cases s with
  | join_seat p ip lid' msg =>
    simp only [turnover] at h
    split at h
    · rename_i ok
      obtain ⟨rfl, seated⟩ := ok
      unfold joinOutcome at seated
      cases hl : c.world.hub.lobbies.lookup lid' with
      | none =>
        rw [hl] at seated
        cases seated
      | some l => exact ⟨l, rfl⟩
    · cases h
  | client_leave p =>
    simp only [turnover] at h
    split at h
    · rename_i ok
      exact there (Bool.and_eq_true_iff.mp ok).2
    · cases h
  | dispatch p ip msg =>
    simp only [turnover] at h
    split at h
    · rename_i ok
      exact there (Bool.and_eq_true_iff.mp ok).2
    · cases h
  | _ => cases h

/-- What is known of the guests of a room from the trace. -/
structure GuestsFrom (srv : Server) (lid : String) (c : HubSnapshot) (tr : List HubLabel) :
    Prop where
  issued : ∀ x ∈ tr, (turnover srv lid x).isSome → lid ∈ c.world.issued
  written : ∀ l, c.world.hub.lobbies.lookup lid = some l → l.automatch = false →
    l.guest_endpoint = ((tr.findSome? (turnover srv lid)).map Turnover.endpoint).getD ""
  joined : ∀ l, c.world.hub.lobbies.lookup lid = some l → l.automatch = false →
    ∀ m ∈ l.member_ids, m ≠ l.host_player_id → (tr.findSome? (ownJoin srv lid m)).isSome

theorem HubRun.guests_from {c tr} (r : HubRun srv c tr) : GuestsFrom srv lid c tr := by
  apply r.induct (I := GuestsFrom srv lid)
  · refine ⟨List.forall_mem_nil _, fun l hl => ?_, fun l hl => ?_⟩
    · cases hl
    · cases hl
  · intro c tr x c' r ih st
    have basic := HubRun.basic r
    cases st with
    | @run t s rest o e ho =>
      have issued : ∀ x ∈ .ran t s o c :: tr, (turnover srv lid x).isSome →
          lid ∈ c.world.issued := by
        intro x hx turns
        rcases List.mem_cons.mp hx with rfl | hx
        · obtain ⟨l, hl⟩ := turnover_room turns
          exact basic.lobby_issued lid l hl
        · exact ih.issued x hx turns
      by_cases new : lid = o.uuid
      · -- A room that this step makes: nobody came or went under its id before.
        have none : (.ran t s o c :: tr).findSome? (turnover srv lid) = none := by
          refine List.findSome?_eq_none_iff.mpr fun x hx => ?_
          by_contra turns
          exact ho.2.1 (new ▸ issued x hx (Option.isSome_iff_ne_none.mpr turns))
        have made : ∀ l', (exec srv s o c.world).1.hub.lobbies.lookup lid = some l' →
            l'.automatch = false →
            ∃ p ip msg, l' = createdLobby srv c.world.hub o p ip msg := by
          intro l' hl' hosted
          rcases exec_room hl' with ⟨l, hl, -⟩ | ⟨p, ip, msg, -, -, rfl⟩ | ⟨plan, -, -, rfl⟩
          · exact absurd (new ▸ basic.lobby_issued lid l hl) ho.2.1
          · exact ⟨p, ip, msg, rfl⟩
          · cases hosted
        refine ⟨fun x hx turns => exec_issued (issued x hx turns), ?_, ?_⟩
        · intro l' hl' hosted
          obtain ⟨p, ip, msg, rfl⟩ := made l' hl' hosted
          rw [none]
          rfl
        · intro l' hl' hosted m hm guest
          obtain ⟨p, ip, msg, rfl⟩ := made l' hl' hosted
          rw [createdLobby_members, List.mem_singleton] at hm
          exact absurd hm guest
      · -- A room from before: the step writes for its guest what `turnover` says.
        have back : ∀ l', (exec srv s o c.world).1.hub.lobbies.lookup lid = some l' → _ :=
          fun l' hl' => @room_turnover srv o lid l' s t c basic new hl'
        refine ⟨fun x hx turns => exec_issued (issued x hx turns), ?_, ?_⟩
        · intro l' hl' hosted
          obtain ⟨l, hl, fixed, writes, -⟩ := back l' hl'
          have hosted' : l.automatch = false := (congrArg (·.1.automatch) fixed).symm.trans hosted
          rw [writes, List.findSome?_cons]
          cases turnover srv lid (.ran t s o c) with
          | none => exact ih.written l hl hosted'
          | some x => rfl
        · intro l' hl' hosted m hm guest
          obtain ⟨l, hl, fixed, -, seats⟩ := back l' hl'
          have hosted' : l.automatch = false := (congrArg (·.1.automatch) fixed).symm.trans hosted
          have host : l'.host_player_id = l.host_player_id := congrArg (·.1.host_player_id) fixed
          rw [List.findSome?_cons]
          rcases seats m hm with old | ⟨e, joins⟩
          · have before := ih.joined l hl hosted' m old (host ▸ guest)
            cases ownJoin srv lid m (.ran t s o c) with
            | none => exact before
            | some e => rfl
          · have own : ownJoin srv lid m (.ran t s o c) = some e := by
              unfold ownJoin
              rw [joins]
              exact if_pos rfl
            rw [own]
            rfl
    | @event e idle _ =>
      have rooms : (e.apply srv c.world).hub.lobbies = c.world.hub.lobbies :=
        apply_lobbies srv c.world e
      constructor
      · intro x hx turns
        rcases List.mem_cons.mp hx with rfl | hx
        · cases turns
        · exact apply_issued (ih.issued x hx turns)
      · exact fun l hl => ih.written l (rooms ▸ hl)
      · exact fun l hl => ih.joined l (rooms ▸ hl)

end

/-- The last to come is a player if its last join is that. -/
lemma ownJoin_last {srv lid p e} {tr : List HubLabel}
    (h : tr.findSome? (turnover srv lid) = some (.joined p e)) :
    tr.findSome? (ownJoin srv lid p) = some e := by
  induction tr with
  | nil => cases h
  | cons x tr ih =>
    rw [List.findSome?_cons] at h ⊢
    unfold ownJoin
    cases hx : turnover srv lid x with
    | none =>
      rw [hx] at h
      exact ih h
    | some t =>
      rw [hx] at h
      obtain rfl := Option.some.inj h
      simp

/-- **The guest's endpoint.** Whoever is alone across from the host has joined the room. The room,
its updates and its launch have the endpoint that this join derived exactly if nobody came or went
after it, or the last that came derived the same, or somebody went and the join derived none. -/
theorem guest_endpoint_iff {srv c tr} (r : HubRun srv c tr) {lid l p}
    (hl : c.world.hub.lobbies.lookup lid = some l) (hosted : l.automatch = false)
    (guest : l.SoleGuest p) :
    ∃ e t, tr.findSome? (ownJoin srv lid p) = some e ∧ tr.findSome? (turnover srv lid) = some t ∧
      (ShowsGuest c.world.hub lid e ↔ t.Suits p e) := by
  have from' : GuestsFrom srv lid c tr := HubRun.guests_from r
  obtain ⟨s, hs, rfl⟩ := guest.seated
  have member : s.player_id ∈ l.member_ids := by
    refine List.mem_map.mpr ⟨s, List.mem_append_left _ ?_, rfl⟩
    exact List.mem_filterMap.mpr ⟨some s, hs, rfl⟩
  obtain ⟨e, own⟩ := Option.isSome_iff_exists.mp (from'.joined l hl hosted _ member guest.guest)
  obtain ⟨x, hx, hown⟩ := List.exists_of_findSome?_eq_some own
  have turns : (turnover srv lid x).isSome := by
    unfold ownJoin at hown
    split at hown
    · rename_i h
      rw [h]
      rfl
    · cases hown
  have some : (tr.findSome? (turnover srv lid)).isSome :=
    List.findSome?_isSome_iff.mpr ⟨x, hx, turns⟩
  obtain ⟨t, last⟩ := Option.isSome_iff_exists.mp some
  refine ⟨e, t, own, last, ?_⟩
  rw [showsGuest_iff hl, from'.written l hl hosted, last]
  show t.endpoint = e ↔ t.Suits s.player_id e
  cases t with
  | parted => exact eq_comm
  | joined q e' =>
    refine ⟨.inr, ?_⟩
    rintro (rfl | same)
    · exact Option.some.inj ((ownJoin_last last).symm.trans own)
    · exact same

/-- Two guests are in a room of the first that has a gallery, and a third one comes to watch. -/
def watcherJoins (p q r room : String) : List Move :=
  let o := draw "9b1deb4d-3b7d-4bad-9bdd-2b0d7b3dcb6d"
  [.event (.connect p "203.0.113.7")] ++ steps (.conn p) 1 o ++
    [.event (.connect q "198.51.100.4")] ++ steps (.conn q) 1 o ++
    [.event (.connect r "192.0.2.9")] ++ steps (.conn r) 1 o ++
    [say p { op := .create, allow_spectators := some true }] ++ steps (.conn p) 3 (draw room) ++
    [say q { op := .join, lobby_id := some room }] ++ steps (.conn q) 3 o ++
    [say r { op := .join, lobby_id := some room }] ++ steps (.conn r) 3 o

/-- Is a player alone across from the host of a room, whose guest has this endpoint? -/
def guestIs (lid p e : String) (g : HubInner) : Bool :=
  (g.lobbies.lookup lid).any fun l =>
    !l.automatch && l.host_player_id ≠ p && l.guest_endpoint = e &&
      l.slots.any (·.any (·.player_id = p)) &&
      l.slots.all (·.all fun s => s.player_id = l.host_player_id || s.player_id = p)

lemma guestIs_sound {lid p e g} (h : guestIs lid p e g) : ∃ l, g.lobbies.lookup lid = some l ∧
    l.automatch = false ∧ l.SoleGuest p ∧ l.guest_endpoint = e := by
  obtain ⟨l, hl, test⟩ := (Option.any_eq_true _ _).mp h
  simp only [Bool.and_eq_true, Bool.not_eq_true', decide_eq_true_eq, List.any_eq_true,
    Option.any_eq_true, List.all_eq_true, Option.all_eq_true, Bool.or_eq_true] at test
  obtain ⟨⟨⟨⟨hosted, guest⟩, e⟩, c, hc, s, rfl, seated⟩, sole⟩ := test
  exact ⟨l, hl, hosted, ⟨guest.symm, ⟨s, hc, seated⟩, fun s hs => sole (some s) hs s rfl⟩, e⟩

lemma watcherJoins_run : ∃ c tr room p, HubRun sampleServer c tr ∧
    guestIs room p "192.0.2.9:7778" c.world.hub ∧
    tr.findSome? (ownJoin sampleServer room p) = some "198.51.100.4:7778" := by
  let p := "6b0f1e52-3c1d-4a86-9a53-0d5f6f1c2a11"
  let q := "c4d1c1a0-5f0e-4a53-8d43-9f4b1f7f3b22"
  let r := "0b1f1c88-6a44-4c0e-9a3b-4a1a3f8e7d10"
  let room := "1f8a9f0e-7d2b-4b57-8f6f-2f6f2b0c9d01"
  let test : HubSnapshot × List HubLabel → Bool := fun x =>
    guestIs room q "192.0.2.9:7778" x.1.world.hub &&
      x.2.findSome? (ownJoin sampleServer room q) = some "198.51.100.4:7778"
  have h : ((hubMachine sampleServer).follow (watcherJoins p q r room)).any test := by
    decide +kernel
  obtain ⟨c, tr, run, ht, -⟩ := Machine.follow_reaches h
  simp only [test, Bool.and_eq_true, decide_eq_true_eq] at ht
  exact ⟨c, tr, room, q, run, ht⟩

/-- The watcher has joined last. -/
theorem guest_endpoint_iff_watched : ∃ c tr lid l p, HubRun sampleServer c tr ∧
    c.world.hub.lobbies.lookup lid = some l ∧ l.automatch = false ∧ l.SoleGuest p ∧
    ∃ e t, tr.findSome? (ownJoin sampleServer lid p) = some e ∧
      tr.findSome? (turnover sampleServer lid) = some t ∧
      (ShowsGuest c.world.hub lid e ↔ t.Suits p e) := by
  obtain ⟨c, tr, room, p, run, there, -⟩ := watcherJoins_run
  obtain ⟨l, hl, hosted, guest, -⟩ := guestIs_sound there
  exact ⟨c, tr, room, l, p, run, hl, hosted, guest, guest_endpoint_iff run hl hosted guest⟩

/-- The endpoint of a watcher stands for the guest's. -/
theorem guest_endpoint_watched : ¬ ∀ c tr lid l p e, HubRun sampleServer c tr →
    c.world.hub.lobbies.lookup lid = some l → l.automatch = false → l.SoleGuest p →
    tr.findSome? (ownJoin sampleServer lid p) = some e → ShowsGuest c.world.hub lid e := by
  intro all
  obtain ⟨c, tr, room, p, run, there, own⟩ := watcherJoins_run
  obtain ⟨l, hl, hosted, guest, e⟩ := guestIs_sound there
  have shown := (all c tr room l p _ run hl hosted guest own).room l hl
  exact absurd (e.symm.trans shown) (by decide)

end RecompNet
