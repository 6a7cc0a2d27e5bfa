import RecompNet.Hub.Nameplates
import RecompNet.Hub.Passes

/-!
# What a room shows

The part of a room that its members are told (`RoomView`), read off the room and off the frames that
carry it, `lobby_update` and `launch`. A section that changes it publishes it: it starts an
`emit_lobby_update`, or it is the start of a match, whose `launch` carries it. A path report alone does
neither.
-/

open scoped List

namespace RecompNet

open Section

/-- An occupied seat as the members see it: where it is, whose, and its latest path report. -/
structure SeatView where
  slot : Nat
  player_id : String
  display_name : String
  ready : Bool
  path : Option IcePath
  deriving DecidableEq

/-- A room as its members see it. -/
structure RoomView where
  session_id : Nat
  host_endpoint : String
  guest_endpoint : String
  match_caps : Option Value
  slots : List SeatView
  spectators : List SeatView

def Slot.view (i : Nat) (s : Slot) : SeatView where
  slot := i
  player_id := s.player_id
  display_name := s.display_name
  ready := s.ready
  path := s.ice_path

def SlotRow.view (r : SlotRow) : SeatView where
  slot := r.slot
  player_id := r.player_id
  display_name := r.display_name
  ready := r.ready
  path := r.path.map Prod.fst

/-- The occupied seats of one table, the first of which has the index `start`. -/
def tableView (start : Nat) (table : List (Option Slot)) : List SeatView :=
  table.zipIdx.filterMap fun (s, i) => s.map (Slot.view (start + i))

/-- What a room has to show now. -/
def Lobby.view (l : Lobby) : RoomView where
  session_id := l.session_id
  host_endpoint := l.host_endpoint
  guest_endpoint := l.guest_endpoint
  match_caps := l.match_caps
  slots := tableView 0 l.slots
  spectators := tableView SPECTATOR_SLOT_BASE l.spectators

def LobbyUpdate.view (u : LobbyUpdate) : RoomView where
  session_id := u.session_id
  host_endpoint := u.host_endpoint
  guest_endpoint := u.guest_endpoint
  match_caps := u.match_caps
  slots := u.slots.map SlotRow.view
  spectators := u.spectators.map SlotRow.view

def Launch.view (x : Launch) : RoomView where
  session_id := x.session_id
  host_endpoint := x.host_endpoint
  guest_endpoint := x.guest_endpoint
  match_caps := x.match_caps
  slots := x.slots.map SlotRow.view
  spectators := x.spectators.map SlotRow.view

/-- Which room a `lobby_update` or a `launch` is about. -/
def OutMsg.room : OutMsg → Option String
  | .lobby_update u => some u.lobby_id
  | .launch x => some x.lobby_id
  | _ => none

/-- The frame shows the room as it is. A `launch` carries no LAN endpoints. -/
def OutMsg.Shows (l : Lobby) : OutMsg → Prop
  | .lobby_update u => u.view = l.view ∧ u.lan_endpoints = l.lan_endpoints
  | .launch x => x.view = l.view
  | _ => True

/-- Two rooms that show the same. -/
def Lobby.Alike (l l' : Lobby) : Prop := l'.view = l.view ∧ l'.lan_endpoints = l.lan_endpoints

lemma OutMsg.Shows.alike {l l' : Lobby} {m : OutMsg} (h : m.Shows l) (k : l.Alike l') : m.Shows l' := by
  cases m with
  | lobby_update u => exact ⟨h.1.trans k.1.symm, h.2.trans k.2.symm⟩
  | launch x => exact Eq.trans h k.1.symm
  | _ => trivial

/-- The rows of a frame show the table they were made from. -/
lemma seatRows_view (g : HubInner) (now : Instant) (start : Nat) (table : List (Option Slot)) :
    (seatRows g now start table).map SlotRow.view = tableView start table := by
  unfold seatRows tableView
  rw [List.map_filterMap]
  congr 1
  funext ⟨s, i⟩
  cases s with
  | none => rfl
  | some s => simp [slot_json, SlotRow.view, Slot.view, Function.comp_def]

/-- What a table shows is read off what its cells show. -/
lemma tableView_eq (start : Nat) (table : List (Option Slot)) : tableView start table =
    ((table.map (Option.map (Slot.view 0))).zipIdx.filterMap fun (v, i) =>
      v.map fun v : SeatView => { v with slot := start + i }) := by
  unfold tableView
  rw [List.zipIdx_map, List.filterMap_map]
  congr 1
  funext ⟨s, i⟩
  cases s <;> rfl

/-- Rewriting seats without what they show. -/
lemma tableView_congr {start : Nat} {xs ys : List (Option Slot)}
    (h : xs.map (Option.map (Slot.view 0)) = ys.map (Option.map (Slot.view 0))) :
    tableView start xs = tableView start ys := by
  rw [tableView_eq, tableView_eq, h]

lemma tableView_owners (start : Nat) (table : List (Option Slot)) :
    (tableView start table).map SeatView.player_id = (table.filterMap id).map Slot.player_id := by
  have cells : table.filterMap id = (table.zipIdx.filterMap fun x => x.1) := by
    conv_lhs => rw [← List.zipIdx_map_fst 0 table, List.filterMap_map]
    rfl
  rw [cells, tableView, List.map_filterMap, List.map_filterMap]
  congr 1
  funext ⟨s, i⟩
  cases s <;> rfl

/-- The members of a room are whom it shows. -/
lemma Lobby.Alike.members {l l' : Lobby} (h : l.Alike l') : l'.member_ids = l.member_ids := by
  have shown : ∀ l : Lobby, l.member_ids =
      (l.view.slots ++ l.view.spectators).map SeatView.player_id := by
    intro l
    rw [List.map_append, member_ids, everyone, List.map_append]
    exact congrArg₂ (· ++ ·) (tableView_owners _ _).symm (tableView_owners _ _).symm
  rw [shown, shown, h.1]

lemma Lobby.Alike.refl (l : Lobby) : l.Alike l := ⟨rfl, rfl⟩

lemma Lobby.Alike.trans {a b c : Lobby} (h : a.Alike b) (k : b.Alike c) : a.Alike c :=
  ⟨k.1.trans h.1, k.2.trans h.2⟩

/-- Rewriting the first match changes nothing that the rewriting of that one keeps. -/
lemma map_updateFirst_find {α β : Type} {c : α → Bool} {f : α → α} {k : α → β} {xs : List α}
    (h : ∀ x, xs.find? c = some x → k (f x) = k x) : (updateFirst c f xs).map k = xs.map k := by
  induction xs with
  | nil => rfl
  | cons x xs ih =>
    rw [updateFirst]
    cases hc : c x with
    | true =>
      have kept := h x (List.find?_cons_of_pos hc)
      rw [if_pos rfl, List.map_cons, List.map_cons, kept]
    | false =>
      have rest : ∀ y, xs.find? c = some y → k (f y) = k y := by
        intro y hy
        exact h y ((List.find?_cons_of_neg (by simp [hc])).trans hy)
      rw [if_neg Bool.false_ne_true, List.map_cons, List.map_cons, ih rest]

/-- The first seat of a player in a table, occupied. -/
lemma find_filterMap_id (p : String) (table : List (Option Slot)) :
    (table.filterMap id).find? (·.player_id = p) = (table.find? (Lobby.holds p)).join := by
  induction table with
  | nil => rfl
  | cons c table ih =>
    cases c with
    | none => simpa [Lobby.holds] using ih
    | some s =>
      by_cases e : s.player_id = p
      · simp [Lobby.holds, e]
      · simpa [Lobby.holds, e] using ih

/-- Rewriting the first player seat of a player to one that shows the same. -/
lemma Lobby.setPlayer_alike {l : Lobby} {p : String} {f : Slot → Slot}
    (h : ∀ s, l.slots.find? (holds p) = some (some s) → Slot.view 0 (f s) = Slot.view 0 s) :
    l.Alike (l.setPlayer p f) := by
  have slots : tableView 0 (l.setPlayer p f).slots = tableView 0 l.slots := by
    refine tableView_congr (map_updateFirst_find ?_)
    rintro (_ | s) hs
    · rfl
    · exact congrArg some (h s hs)
  refine ⟨?_, rfl⟩
  simp only [view, slots]
  rfl

/-- Rewriting a member's seat to one that shows the same. -/
lemma Lobby.setMember_alike {l : Lobby} {p : String} {f : Slot → Slot}
    (h : ∀ s, l.everyone.find? (·.player_id = p) = some s → Slot.view 0 (f s) = Slot.view 0 s) :
    l.Alike (l.setMember p f) := by
  rw [everyone, List.find?_append, find_filterMap_id, find_filterMap_id] at h
  unfold setMember
  split
  · refine setPlayer_alike fun s hs => h s ?_
    rw [hs]
    rfl
  · rename_i standing
    have none : l.slots.find? (holds p) = none := by
      rw [List.find?_eq_none]
      exact fun c hc hold => standing (List.any_eq_true.mpr ⟨c, hc, hold⟩)
    rw [none] at h
    have gallery : tableView SPECTATOR_SLOT_BASE (updateFirst (holds p) (Option.map f) l.spectators) =
        tableView SPECTATOR_SLOT_BASE l.spectators := by
      refine tableView_congr (map_updateFirst_find ?_)
      rintro (_ | s) hs
      · rfl
      · exact congrArg some (h s (by rw [hs]; rfl))
    refine ⟨?_, rfl⟩
    simp only [view, gallery]

/-- An update shows the room that it was made from. -/
lemma emit_lobby_update_shows {now} {g : HubInner} {lid q m} (key : ∀ l, g.lobbies.lookup lid = some l →
    l.lobby_id = lid) (h : send_to q m ∈ (emit_lobby_update_step now g lid).2) :
    ∃ l, g.lobbies.lookup lid = some l ∧ m.room = some lid ∧ m.Shows l := by
  unfold emit_lobby_update_step at h
  split at h
  · cases h
  · rename_i l hl
    obtain ⟨q', -, e⟩ := List.mem_map.mp h
    cases e
    refine ⟨l, hl, congrArg some (key l hl), ?_, rfl⟩
    simp only [LobbyUpdate.view, Lobby.view, seatRows_view]

/-! ## Handlers publish what they change -/

/-- The section will bring about an update of the room. -/
def Section.emits (s : Section) (lid : String) : Prop :=
  s = emit_lobby_update lid ∨ ∃ p seated, s = join_ok p lid seated

/-- The rooms stay, or one changes and its update is among the new sections. -/
def Publishes (g : HubInner) (r : HubStep) : Prop :=
  r.1.lobbies = g.lobbies ∨ ∃ lid, emit_lobby_update lid ∈ r.2 ∧
    ∀ lid', lid' ≠ lid → r.1.lobbies.lookup lid' = g.lobbies.lookup lid'

lemma publishes_setLobby {g g' : HubInner} {lid : String} {f : Lobby → Lobby} {ss : List Section}
    (e : g'.lobbies = (g.setLobby lid f).lobbies) (h : emit_lobby_update lid ∈ ss) :
    Publishes g (g', ss) := by
  refine .inr ⟨lid, h, fun lid' ne => ?_⟩
  dsimp only
  rw [e]
  exact Assoc.Map.lookup_modify_ne ne

lemma recordTitle_lobbies {g : HubInner} {p game} : (g.recordTitle p game).lobbies = g.lobbies := by
  unfold HubInner.recordTitle
  split <;> rfl

/-- The handler of a message publishes what it changes, a path report apart. -/
lemma dispatch_publishes {srv o now} {g : HubInner} {p ip} {msg : InMsg}
    (report : msg.op ≠ .path_report) : Publishes g (dispatch_step srv o now g p ip msg) := by
  unfold dispatch_step
  cases hop : msg.op with
  | path_report => exact absurd hop report
  | ping | get_turn_credentials | desync_report | other | leave | automatch_cancel
  | automatch_accept | automatch_rulesets | mod_xfer_cancel | set_blocks | automatch_rtt =>
    exact .inl rfl
  | hello | create | join | start | close | seat_swap_request | mod_signal | mod_xfer_start
  | mod_xfer_fail | automatch_queue | chat_report =>
    left
    dsimp only [handle_hello, handle_create, handle_join, handle_start, handle_close,
      handle_seat_swap_request, handle_mod_signal, handle_mod_xfer_start, handle_mod_xfer_fail,
      handle_automatch_queue, handle_chat_report, refuse]
    repeat' split
    all_goals rfl
  | list => exact .inl recordTitle_lobbies
  | chat =>
    left
    dsimp only [handle_chat, refuse]
    split
    · rfl
    · split
      · rfl
      · split
        · rfl
        · split
          · rfl
          · exact HubInner.remember_chat_lobbies ..
  | server_chat =>
    left
    dsimp only [handle_server_chat, refuse]
    split
    · rfl
    · split
      · exact recordTitle_lobbies
      · split
        · exact recordTitle_lobbies
        · exact (HubInner.remember_chat_lobbies ..).trans recordTitle_lobbies
  | signal | probe_signal =>
    left
    dsimp only [handle_signal, handle_probe_signal, refuse]
    repeat' split
    all_goals first
      | rfl
      | exact takeToken_lobbies
  | set_match_caps | set_host_endpoint | set_ready | move | seat_move | seat_swap_answer =>
    dsimp only [handle_set_match_caps, handle_set_host_endpoint, handle_set_ready, handle_move,
      handle_seat_move, handle_seat_swap_answer, refuse]
    repeat' split
    all_goals first
      | exact .inl rfl
      | exact publishes_setLobby rfl (by simp)
  | kick =>
    dsimp only [handle_kick, refuse]
    repeat' split
    all_goals first
      | exact .inl rfl
      | exact .inr ⟨_, by simp, fun lid' ne => Assoc.Map.lookup_modify_ne ne⟩

/-- Signed in is having an account. -/
lemma authed_eq (g : HubInner) (p : String) : g.authed p = (g.account p).isSome := by
  unfold HubInner.authed HubInner.account
  cases g.clients.lookup p <;> rfl

/-- A `hello` publishes a new name of a seat. Whoever noted a room is past the login gate. -/
lemma hello_identity_publishes {srv o} {g : HubInner} {p name game lid l'}
    (gate : srv.require_login → (g.lobby_id_of p).isSome → g.authed p)
    (h : (hello_identity_step srv g o p name game).1.lobbies.lookup lid = some l') :
    (∃ l, g.lobbies.lookup lid = some l ∧ l.Alike l') ∨
      emit_lobby_update lid ∈ (hello_identity_step srv g o p name game).2 := by
  rw [hello_identity_step_hub] at h
  cases name with
  | none => exact .inl ⟨l', h, .refl l'⟩
  | some n =>
    rcases @apply_identity_cases g p n game o.uuid with ⟨e, -⟩ | ⟨lid0, l, hlid, hl, renamed, e⟩
    · rw [e] at h
      exact .inl ⟨l', h, .refl l'⟩
    · rw [e] at h
      obtain ⟨l0, h0, ⟨-, rfl⟩ | ⟨rfl, rfl⟩⟩ := lookup_setLobby_back h
      · exact .inl ⟨_, h0, .refl _⟩
      · obtain rfl : l = l0 := Option.some.inj (hl.symm.trans h0)
        cases hc : (l.everyone.find? (·.player_id = p)).any
            (·.display_name ≠ unique_display_name l n (some p) o.uuid) with
        | true =>
          right
          have passed : ¬ (srv.require_login ∧
              !(apply_identity g p (some n) game o.uuid).1.authed p) := by
            rintro ⟨closed, out⟩
            have signed := gate closed (by rw [hlid]; rfl)
            rw [authed_eq, apply_identity_account, ← authed_eq, signed] at out
            cases out
          rw [hc, if_pos rfl] at renamed
          simp only [hello_identity_step, if_neg passed, renamed]
          simp
        | false =>
          left
          refine ⟨l, hl, Lobby.setMember_alike fun s hs => ?_⟩
          rw [hs] at hc
          have kept : s.display_name = unique_display_name l n (some p) o.uuid := by
            simpa using hc
          simp [Slot.view, ← kept]

/-- What the members of a room are told of what a section made of it. -/
inductive Told (w : World) (s : Section) (ss : List Section) (lid : String) (l' : Lobby) : Prop where
  | same {l} (room : w.hub.lobbies.lookup lid = some l) (alike : l.Alike l')
  | update {e} (mem : e ∈ ss) (emits : e.emits lid)
  | launch (each : ∀ q ∈ l'.member_ids, ∃ m, send_to q m ∈ ss ∧ m.room = some lid ∧ m.Shows l')
  | fresh (new : lid ∉ w.issued)
  | report {p ip msg} (call : s = dispatch p ip msg) (op : msg.op = .path_report)

/-- A joiner that gets a seat is announced. -/
lemma join_seat_told {srv o} {w : World} {p ip lid0 msg lid l'}
    (h : (join_seat_step srv o w.hub p ip lid0 msg).1.lobbies.lookup lid = some l') :
    Told w (join_seat p ip lid0 msg) (join_seat_step srv o w.hub p ip lid0 msg).2 lid l' := by
  rw [join_seat_step_hub] at h
  have ends := join_ends srv o w.hub p ip lid0 msg
  generalize outcome : joinOutcome srv o w.hub p ip lid0 msg = out at ends h
  cases ends with
  | refused => exact .same h (.refl l')
  | seated hl free =>
    obtain ⟨l0, h0, ⟨-, rfl⟩ | ⟨rfl, -⟩⟩ := lookup_setLobby_back h
    · exact .same h0 (.refl _)
    · obtain ⟨seated, told⟩ : ∃ seated,
          join_ok p lid seated ∈ (join_seat_step srv o w.hub p ip lid msg).2 := by
        rw [join_seat_step, outcome]
        exact ⟨_, List.mem_singleton_self _⟩
      exact .update told (.inr ⟨p, seated, rfl⟩)

/-- The start of a match tells every member. -/
lemma start_commit_told {now} {w : World} {st lid0 caps sid specs tr ice lid l'} (basic : w.Basic)
    (h : (start_commit_step now w.hub st lid0 caps sid specs tr ice).1.lobbies.lookup lid = some l') :
    Told w (start_commit st lid0 caps sid specs tr ice)
      (start_commit_step now w.hub st lid0 caps sid specs tr ice).2 lid l' := by
  unfold start_commit_step at h ⊢
  cases hl : w.hub.lobbies.lookup lid0 with
  | none =>
    rw [hl] at h
    exact .same h (.refl l')
  | some l =>
    rw [hl] at h
    obtain ⟨l0, h0, ⟨-, rfl⟩ | ⟨rfl, rfl⟩⟩ := lookup_setLobby_back h
    · exact .same h0 (.refl _)
    · refine .launch fun q hq => ⟨_, List.mem_map.mpr ⟨q, hq, rfl⟩, ?_, ?_⟩
      · exact congrArg some (basic.lobby_key lid l hl)
      · simp only [OutMsg.Shows, Launch.view, launchOf, Lobby.view, seatRows_view]

/-- Somebody who leaves a room that stays is announced. -/
lemma client_leave_told {w : World} {p lid l'}
    (h : (client_leave_step w.hub p).1.lobbies.lookup lid = some l') :
    Told w (client_leave p) (client_leave_step w.hub p).2 lid l' := by
  revert h
  unfold client_leave_step
  split
  · exact fun h => .same h (.refl l')
  · rename_i lid0 hlid
    dsimp only
    split
    · exact fun h => .same h (.refl l')
    · rename_i l hl
      split
      · exact fun h => .same h (.refl l')
      · intro h
        obtain ⟨l0, h0, ⟨-, rfl⟩ | ⟨rfl, -⟩⟩ := lookup_setLobby_back h
        · exact .same h0 (.refl _)
        · exact .update (e := emit_lobby_update lid) (by simp) (.inl rfl)

/-- **Every section tells the members of a room what it made of it**, a path report apart. -/
theorem exec_told {srv s o} {w : World} (basic : w.Basic) (known : HubKnown srv w) (ho : o.possible w)
    {lid l'} (h : (exec srv s o w).1.hub.lobbies.lookup lid = some l') :
    Told w s (exec srv s o w).2 lid l' := by
  have same : (exec srv s o w).1.hub.lobbies = w.hub.lobbies → Told w s (exec srv s o w).2 lid l' :=
    fun e => .same (e ▸ h) (.refl l')
  have off : s.off_hub → Told w s (exec srv s o w).2 lid l' := by
    intro h
    obtain ⟨q, st, sp, e⟩ := exec_off_hub h
    exact same (by rw [e])
  cases s with
  | send_to p m => exact same (congrArg HubInner.lobbies (World.send_hub w p m))
  | emit_lobby_update | chat_system | start_reason | list_tick =>
    apply same
    simp only [exec, World.lift, emit_lobby_update_step, chat_system_step, start_reason_step,
      list_tick_step, refuse]
    split <;> rfl
  | handle_text p ip text =>
    apply same
    simp only [exec, World.lift, handle_text_step, refuse]
    repeat' split
    all_goals rfl
  | hello_session | start_prepare =>
    apply same
    simp only [exec, World.lift, hello_session_step, start_prepare_step]
    repeat' split
    all_goals rfl
  | welcome p =>
    apply same
    simp only [exec, welcome_step]
    split
    · exact congrArg HubInner.lobbies (World.send_hub w p _)
    · rfl
  | destroy_lobby lid0 =>
    simp only [exec, World.lift, World.setHub, destroy_lobby_step] at h
    split at h
    · exact .same h (.refl l')
    · exact .same (lookup_erase_back h).2 (.refl l')
  | client_leave p => exact client_leave_told h
  | dispatch p ip msg =>
    by_cases op : msg.op = .path_report
    · exact .report rfl op
    · rcases @dispatch_publishes srv o w.now w.hub p ip msg op with e | ⟨lid0, mem, others⟩
      · exact same e
      · by_cases here : lid = lid0
        · subst here
          exact .update mem (.inl rfl)
        · exact .same ((others lid here) ▸ h) (.refl l')
  | hello_identity p name game =>
    have gate : srv.require_login → (w.hub.lobby_id_of p).isSome → w.hub.authed p := by
      intro closed noted
      cases hrow : w.hub.clients.lookup p with
      | none => simp [HubInner.lobby_id_of, hrow] at noted
      | some row =>
        simp only [HubInner.lobby_id_of, hrow, Option.bind_some] at noted
        exact (known.clients p row hrow (.inl noted)).2 closed (connected_iff.mpr ⟨row, hrow⟩)
    rcases hello_identity_publishes gate h with ⟨l, hl, alike⟩ | mem
    · exact .same hl alike
    · exact .update mem (.inl rfl)
  | create_insert p ip msg =>
    rcases lookup_insert_back h with ⟨-, h⟩ | ⟨rfl, -⟩
    · exact .same h (.refl l')
    · exact .fresh ho.2.1
  | join_seat p ip lid0 msg => exact join_seat_told h
  | start_commit => exact start_commit_told basic h
  | form_match_room plan =>
    simp only [exec, form_match_room_step] at h ⊢
    split_ifs at h
    · exact .same h (.refl l')
    · exact .same h (.refl l')
    · rcases lookup_insert_back h with ⟨-, h⟩ | ⟨rfl, -⟩
      · exact .same h (.refl l')
      · exact .fresh ho.2.1
  | start_failed | queue_account | queue_cooldown | queue_waiting | queue_ticket | queue_pools
  | queue_remove | queue_answer | settle_declined | record_strike | requeue_if_here
  | form_match => exact off rfl
  | _ => exact same rfl

end RecompNet
