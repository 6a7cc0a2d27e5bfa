import RecompNet.Hub.Basics

/-!
# How a section rewrites a room

The inversion of a step at one room: `RoomEdit` lists the sections that rewrite a room, each with
what it checked and the room it leaves, and `exec_room` says that a room after a section is a
rewritten one or was just made. What a room keeps is then read off the few ways to rewrite it.
-/

namespace RecompNet

open Section

/-- A section that leaves the room `l'` where the room `l` was, under the id `lid`. -/
inductive RoomEdit (srv : Server) (o : Answer) (w : World) (lid : String) (l : Lobby) :
    Section → Lobby → Prop where
  | same {s} : RoomEdit srv o w lid l s l
  | rename {p n game} :
    w.hub.lobby_id_of p = some lid →
    RoomEdit srv o w lid l (hello_identity p (some n) game)
      (l.setMember p ({ · with display_name := unique_display_name l n (some p) o.uuid }))
  | set_ready {p ip msg f} :
    msg.op = .set_ready →
    w.hub.lobby_id_of p = some lid →
    (∀ s : Slot, ∃ ready bios_offer mod_offer memcard_offer,
      f s = { s with ready, bios_offer, mod_offer, memcard_offer }) →
    RoomEdit srv o w lid l (dispatch p ip msg) (l.setMember p f)
  | set_match_caps {p ip msg caps} :
    msg.op = .set_match_caps →
    sanitize_match_caps msg.match_caps = some caps →
    w.hub.lobby_id_of p = some lid →
    l.host_player_id = p →
    RoomEdit srv o w lid l (dispatch p ip msg) { l with match_caps := some caps }
  | set_host_endpoint {p ip msg l0 endpoint} :
    msg.op = .set_host_endpoint →
    w.hub.lobby_id_of p = some lid →
    l.host_player_id = p →
    (l0 = l ∧ (l.host_endpoint = endpoint ∨ caps_relay_via_ice l.match_caps) ∨
      l0 = l.clearPlayerPaths) →
    RoomEdit srv o w lid l (dispatch p ip msg)
      { l0 with
        host_endpoint := endpoint
        lan_endpoints := sanitize_lan_endpoints msg.lan_endpoints }
  | path_report {p ip msg kind} :
    msg.op = .path_report →
    msg.path.bind normalize_ice_path = some kind →
    w.hub.lobby_id_of p = some lid →
    l.slots.any (Lobby.holds p) →
    RoomEdit srv o w lid l (dispatch p ip msg) (l.reportPath p kind w.now)
  | move {p ip msg i j s c} :
    msg.op = .move →
    w.hub.lobby_id_of p = some lid →
    l.host_player_id = p →
    i ≠ j →
    l.seat i = some (some s) →
    l.seat j = some c →
    RoomEdit srv o w lid l (dispatch p ip msg) (l.rearrange i j)
  | seat_move {p ip msg i j} :
    msg.op = .seat_move →
    w.hub.lobby_id_of p = some lid →
    l.seat_of p = some i →
    i ≠ j →
    l.seat j = some none →
    RoomEdit srv o w lid l (dispatch p ip msg) (l.rearrange i j)
  | seat_swap_answer {p ip msg asker i j} :
    msg.op = .seat_swap_answer →
    msg.accept = some true →
    msg.asker_player_id = some asker →
    w.hub.lobby_id_of p = some lid →
    l.seat_of p = some i →
    l.seat_of asker = some j →
    i ≠ j →
    RoomEdit srv o w lid l (dispatch p ip msg) (l.trade i j)
  | kick {p ip msg i s} :
    msg.op = .kick →
    w.hub.lobby_id_of p = some lid →
    l.host_player_id = p →
    l.seat i = some (some s) →
    s.player_id ≠ l.host_player_id →
    RoomEdit srv o w lid l (dispatch p ip msg) (l.kick i)
  | sit {p ip msg seat slot seated} :
    (joinOutcome srv o w.hub p ip lid msg).2 = .Ok seated →
    freeSeat l = some seat →
    slot.player_id = p →
    slot.display_name = unique_display_name l
      (((w.hub.clients.lookup p).map (·.display_name)).getD "Guest") (some p) o.uuid →
    RoomEdit srv o w lid l (join_seat p ip lid msg) (l.sit seat slot
      (own_endpoint srv.parse_ip ((Text.nonempty msg.guest_bind).getD "0.0.0.0:7778") ip))
  | vacate {p} :
    w.hub.lobby_id_of p = some lid →
    l.host_player_id ≠ p →
    ¬ (l.automatch ∧ player_count l ≤ 2) →
    RoomEdit srv o w lid l (client_leave p) (l.vacate p)
  | launch {st caps sid sp tr ice} :
    RoomEdit srv o w lid l (start_commit st lid caps sid sp tr ice) (l.launch caps sid)

/-- Every room of the hub `g'` is a rewritten one. -/
def Edits (srv : Server) (o : Answer) (w : World) (s : Section) (g' : HubInner) : Prop :=
  ∀ lid l', g'.lobbies.lookup lid = some l' →
    ∃ l, w.hub.lobbies.lookup lid = some l ∧ RoomEdit srv o w lid l s l'

section
variable {srv : Server} {o : Answer} {w : World} {s : Section} {g' : HubInner}

lemma Edits.same (h : g'.lobbies = w.hub.lobbies) : Edits srv o w s g' :=
  fun _ l' hl' => ⟨l', h ▸ hl', .same⟩

/-- Rewriting one room. -/
lemma Edits.setLobby {lid : String} {l : Lobby} {f : Lobby → Lobby}
    (hl : w.hub.lobbies.lookup lid = some l) (h : RoomEdit srv o w lid l s (f l)) :
    Edits srv o w s (w.hub.setLobby lid f) := by
  intro lid' l' hl'
  obtain ⟨l0, hl0, ⟨-, rfl⟩ | ⟨rfl, rfl⟩⟩ := lookup_setLobby_back hl'
  · exact ⟨l', hl0, .same⟩
  · obtain rfl := Option.some.inj (hl.symm.trans hl0)
    exact ⟨l, hl, h⟩

/-- The rows of the clients are no part of a room. -/
lemma Edits.of_lobbies {g : HubInner} (h : Edits srv o w s g) (same : g'.lobbies = g.lobbies) :
    Edits srv o w s g' :=
  fun lid l' hl' => h lid l' (same ▸ hl')

end

section
variable {srv : Server} {o : Answer} {w : World} {p ip : String} {msg : InMsg}

lemma handle_set_ready_edits (op : msg.op = .set_ready) :
    Edits srv o w (dispatch p ip msg) (handle_set_ready w.hub p msg).1 := by
  unfold handle_set_ready
  split
  · exact .same rfl
  · rename_i lid hlid
    split
    · exact .same rfl
    · rename_i l hl
      exact .setLobby hl (.set_ready op hlid fun s => ⟨_, _, _, _, rfl⟩)

lemma handle_set_match_caps_edits (op : msg.op = .set_match_caps) :
    Edits srv o w (dispatch p ip msg) (handle_set_match_caps w.hub p msg).1 := by
  unfold handle_set_match_caps
  split
  · exact .same rfl
  · rename_i caps hcaps
    split
    · exact .same rfl
    · rename_i lid hlid
      split
      · exact .same rfl
      · rename_i l hl
        split
        · exact .same rfl
        · rename_i host
          exact .setLobby hl (.set_match_caps op hcaps hlid (not_not.mp host))

lemma handle_set_host_endpoint_edits (op : msg.op = .set_host_endpoint) :
    Edits srv o w (dispatch p ip msg) (handle_set_host_endpoint srv w.hub p ip msg).1 := by
  unfold handle_set_host_endpoint
  dsimp only
  split
  · exact .same rfl
  · rename_i endpoint _
    split
    · exact .same rfl
    · rename_i lid hlid
      split
      · exact .same rfl
      · rename_i l hl
        split
        · exact .same rfl
        · rename_i host
          refine .setLobby hl ?_
          by_cases moved : l.host_endpoint ≠ endpoint ∧ !caps_relay_via_ice l.match_caps
          · rw [if_pos moved]
            exact .set_host_endpoint op hlid (not_not.mp host) (.inr rfl)
          · rw [if_neg moved]
            refine .set_host_endpoint op hlid (not_not.mp host) (.inl ⟨rfl, ?_⟩)
            by_contra other
            obtain ⟨ne, off⟩ := not_or.mp other
            exact moved ⟨ne, by simpa using off⟩

lemma handle_path_report_edits (op : msg.op = .path_report) :
    Edits srv o w (dispatch p ip msg) (handle_path_report w.now w.hub p msg).1 := by
  unfold handle_path_report
  split
  · exact .same rfl
  · rename_i kind hkind
    split
    · exact .same rfl
    · rename_i lid hlid
      split
      · exact .same rfl
      · rename_i l hl
        split
        · rename_i seated
          exact .setLobby hl (.path_report op hkind hlid seated)
        · exact .same rfl

lemma handle_move_edits (op : msg.op = .move) :
    Edits srv o w (dispatch p ip msg) (handle_move w.hub p msg).1 := by
  unfold handle_move
  split
  · rename_i i j _ _
    split
    · exact .same rfl
    · rename_i ne
      split
      · exact .same rfl
      · rename_i lid hlid
        split
        · exact .same rfl
        · rename_i l hl
          split
          · exact .same rfl
          · rename_i host
            split
            · rename_i s c hi hj
              exact .setLobby hl (.move op hlid (not_not.mp host) ne hi hj)
            · exact .same rfl
            · exact .same rfl
  · exact .same rfl

lemma handle_seat_move_edits (op : msg.op = .seat_move) :
    Edits srv o w (dispatch p ip msg) (handle_seat_move w.hub p msg).1 := by
  unfold handle_seat_move
  split
  · exact .same rfl
  · rename_i target _
    split
    · exact .same rfl
    · rename_i lid hlid
      split
      · exact .same rfl
      · rename_i l hl
        split
        · exact .same rfl
        · rename_i i hi
          split
          · exact .same rfl
          · rename_i c hc
            split
            · exact .same rfl
            · rename_i ne
              split
              · exact .same rfl
              · rename_i free
                have none : c = none := Option.not_isSome_iff_eq_none.mp free
                exact .setLobby hl (.seat_move op hlid hi ne (none ▸ hc))

lemma handle_seat_swap_answer_edits (op : msg.op = .seat_swap_answer) :
    Edits srv o w (dispatch p ip msg) (handle_seat_swap_answer w.hub p msg).1 := by
  unfold handle_seat_swap_answer
  dsimp only
  split
  · exact .same rfl
  · rename_i named
    split
    · exact .same rfl
    · rename_i lid hlid
      split
      · exact .same rfl
      · rename_i l hl
        split
        · rename_i i j hi hj
          split
          · exact .same rfl
          · rename_i yes
            obtain ⟨accept, ne⟩ := not_or.mp yes
            have accept : msg.accept = some true := by
              cases h : msg.accept with
              | none => simp [h] at accept
              | some yes => simpa [h] using accept
            have asker : msg.asker_player_id = some (msg.asker_player_id.getD "") := by
              cases h : msg.asker_player_id with
              | none => exact absurd (by rw [h]; rfl) named
              | some asker => rfl
            exact .setLobby hl (.seat_swap_answer op accept asker hlid hi hj ne)
        · exact .same rfl

lemma handle_kick_edits (op : msg.op = .kick) :
    Edits srv o w (dispatch p ip msg) (handle_kick w.hub p msg).1 := by
  have ends := kick_ends w.hub p msg
  generalize (handle_kick w.hub p msg).1 = g' at ends ⊢
  cases ends with
  | refused => exact .same rfl
  | @kicked lid l i s k =>
    have edit : Edits srv o w (dispatch p ip msg) (w.hub.setLobby lid (·.kick i)) :=
      .setLobby k.room (.kick op k.noted k.host k.held fun e => k.other (e.trans k.host))
    exact edit.of_lobbies rfl

/-- What the handler of a message does to the rooms. -/
lemma dispatch_edits :
    Edits srv o w (dispatch p ip msg) (dispatch_step srv o w.now w.hub p ip msg).1 := by
  unfold dispatch_step
  cases op : msg.op with
  | set_ready => exact handle_set_ready_edits op
  | set_match_caps => exact handle_set_match_caps_edits op
  | set_host_endpoint => exact handle_set_host_endpoint_edits op
  | path_report => exact handle_path_report_edits op
  | move => exact handle_move_edits op
  | seat_move => exact handle_seat_move_edits op
  | seat_swap_answer => exact handle_seat_swap_answer_edits op
  | kick => exact handle_kick_edits op
  | ping | get_turn_credentials | desync_report | other | leave | automatch_cancel
  | automatch_accept | mod_xfer_cancel | set_blocks | automatch_rulesets | automatch_rtt =>
    exact .same rfl
  | list | hello | create | join | start | close =>
    refine .same ?_
    dsimp only [handle_list, HubInner.recordTitle, handle_hello, handle_create, handle_join,
      handle_start, handle_close, refuse]
    repeat' split
    all_goals rfl
  | chat | server_chat =>
    refine .same ?_
    dsimp only [handle_chat, handle_server_chat, HubInner.recordTitle, HubInner.setClient, refuse]
    repeat' split
    all_goals simp
  | signal | probe_signal | seat_swap_request =>
    refine .same ?_
    dsimp only [handle_signal, handle_probe_signal, takeToken, handle_seat_swap_request, refuse]
    repeat' split
    all_goals rfl
  | mod_signal | mod_xfer_start | mod_xfer_fail | automatch_queue | chat_report =>
    refine .same ?_
    dsimp only [handle_mod_signal, handle_mod_xfer_start, handle_mod_xfer_fail,
      handle_automatch_queue, handle_chat_report, refuse]
    repeat' split
    all_goals rfl

lemma apply_identity_edits {name game : Option String} :
    Edits srv o w (hello_identity p name game) (apply_identity w.hub p name game o.uuid).1 := by
  unfold apply_identity
  dsimp only
  split
  · rename_i n lid hlid
    have seated : w.hub.lobby_id_of p = some lid := by
      simp only [HubInner.lobby_id_of, HubInner.setClient, Assoc.Map.lookup_modify_self] at hlid ⊢
      cases row : w.hub.clients.lookup p with
      | none =>
        rw [row] at hlid
        cases hlid
      | some c =>
        rw [row] at hlid
        exact hlid
    split
    · exact .same rfl
    · rename_i l hl
      have hl : w.hub.lobbies.lookup lid = some l := hl
      have edit : Edits srv o w (hello_identity p (some n) game) (w.hub.setLobby lid
          (·.setMember p ({ · with display_name := unique_display_name l n (some p) o.uuid }))) :=
        .setLobby hl (.rename seated)
      exact edit.of_lobbies rfl
  · exact .same rfl

lemma join_seat_edits {lid : String} :
    Edits srv o w (join_seat p ip lid msg) (join_seat_step srv o w.hub p ip lid msg).1 := by
  rw [join_seat_step_hub]
  have ends := join_ends srv o w.hub p ip lid msg
  generalize outcome : joinOutcome srv o w.hub p ip lid msg = out at ends
  cases ends with
  | refused => exact .same rfl
  | @seated l seat hl free =>
    have edit : Edits srv o w (join_seat p ip lid msg) (w.hub.setLobby lid fun _ =>
        l.sit seat (joinerSlot w.hub o p l) (own_endpoint srv.parse_ip
          ((Text.nonempty msg.guest_bind).getD "0.0.0.0:7778") ip)) :=
      .setLobby hl (.sit (congrArg Prod.snd outcome) free rfl rfl)
    exact edit.of_lobbies rfl

end

/-- **How a section rewrites a room.** A room after a section is one from before, rewritten by it,
or one that it just made. -/
theorem exec_room {srv s o w lid l'} (hl' : (exec srv s o w).1.hub.lobbies.lookup lid = some l') :
    (∃ l, w.hub.lobbies.lookup lid = some l ∧ RoomEdit srv o w lid l s l') ∨
    (∃ p ip msg, s = create_insert p ip msg ∧ lid = o.uuid ∧
      l' = createdLobby srv w.hub o p ip msg) ∨
    ∃ plan, s = form_match_room plan ∧ lid = o.uuid ∧ l' = matchLobby srv w.hub plan o.uuid := by
  have edited : Edits srv o w s (exec srv s o w).1.hub →
      ∃ l, w.hub.lobbies.lookup lid = some l ∧ RoomEdit srv o w lid l s l' := fun h => h lid l' hl'
  have same : (exec srv s o w).1.hub.lobbies = w.hub.lobbies →
      ∃ l, w.hub.lobbies.lookup lid = some l ∧ RoomEdit srv o w lid l s l' :=
    fun h => edited (.same h)
  have off : s.off_hub → ∃ l, w.hub.lobbies.lookup lid = some l ∧ RoomEdit srv o w lid l s l' := by
    intro h
    obtain ⟨q, st, sp, e⟩ := exec_off_hub h
    exact same (by rw [e])
  cases s with
  | dispatch p ip msg => exact .inl (edited dispatch_edits)
  | join_seat p ip lid msg => exact .inl (edited join_seat_edits)
  | hello_identity p name game =>
    refine .inl (edited ?_)
    show Edits srv o w _ (hello_identity_step srv w.hub o p name game).1
    rw [hello_identity_step_hub]
    exact apply_identity_edits
  | create_insert p ip msg =>
    rcases lookup_insert_back hl' with ⟨-, hl⟩ | ⟨rfl, rfl⟩
    · exact .inl ⟨l', hl, .same⟩
    · exact .inr (.inl ⟨p, ip, msg, rfl, rfl, rfl⟩)
  | form_match_room plan =>
    simp only [exec, form_match_room_step] at hl'
    split_ifs at hl'
    · exact .inl ⟨l', hl', .same⟩
    · exact .inl ⟨l', hl', .same⟩
    · rcases lookup_insert_back hl' with ⟨-, hl⟩ | ⟨rfl, rfl⟩
      · exact .inl ⟨l', hl, .same⟩
      · exact .inr (.inr ⟨plan, rfl, rfl, rfl⟩)
  | destroy_lobby lid0 =>
    simp only [exec, World.lift, destroy_lobby_step] at hl'
    split at hl'
    · exact .inl ⟨l', hl', .same⟩
    · exact .inl ⟨l', (lookup_erase_back hl').2, .same⟩
  | client_leave p =>
    refine .inl (edited ?_)
    simp only [exec, World.lift, client_leave_step]
    split
    · exact .same rfl
    · rename_i lid0 hlid
      split
      · exact .same rfl
      · rename_i l hl
        split
        · exact .same rfl
        · rename_i stays
          obtain ⟨host, auto⟩ := not_or.mp stays
          have edit : Edits srv o w (client_leave p) (w.hub.setLobby lid0 (·.vacate p)) :=
            .setLobby hl (.vacate hlid host (by simpa using auto))
          exact edit.of_lobbies rfl
  | start_commit st lid0 caps sid sp tr ice =>
    refine .inl (edited ?_)
    simp only [exec, World.lift, start_commit_step]
    split
    · exact .same rfl
    · rename_i l hl
      exact .setLobby hl .launch
  | send_to p m => exact .inl (same (congrArg HubInner.lobbies (World.send_hub w p m)))
  | welcome p =>
    refine .inl (same ?_)
    simp only [exec, welcome_step]
    split
    · exact congrArg HubInner.lobbies (World.send_hub w p _)
    · rfl
  | emit_lobby_update | chat_system | start_reason | list_tick | handle_text | hello_session
  | start_prepare =>
    refine .inl (same ?_)
    simp only [exec, World.lift, emit_lobby_update_step, chat_system_step, start_reason_step,
      list_tick_step, handle_text_step, hello_session_step, start_prepare_step, refuse]
    repeat' split
    all_goals rfl
  | start_failed | queue_account | queue_cooldown | queue_waiting | queue_ticket | queue_pools
  | queue_remove | queue_answer | settle_declined | record_strike | requeue_if_here
  | form_match => exact .inl (off rfl)
  | _ => exact .inl (same rfl)

/-! ## What every rewriting keeps -/

namespace Lobby

/-- The parts of a room that are settled when it is made. -/
def fixed (l : Lobby) : Lobby × Nat × Nat :=
  ({ l with
      host_endpoint := ""
      lan_endpoints := []
      guest_endpoint := ""
      session_id := 0
      slots := []
      spectators := []
      match_caps := none
      started := false },
    l.slots.length, l.spectators.length)

@[simp] lemma fixed_mapPlayers (l : Lobby) (f : Slot → Slot) :
    (l.mapPlayers f).fixed = l.fixed := by
  simp [fixed, mapPlayers]

@[simp] lemma fixed_mapSeats (l : Lobby) (f : Slot → Slot) : (l.mapSeats f).fixed = l.fixed := by
  simp [fixed, mapSeats]

@[simp] lemma fixed_setSeat (l : Lobby) (i : Nat) (c : Option Slot) :
    (l.setSeat i c).fixed = l.fixed := by
  unfold setSeat
  split <;> simp [fixed]

@[simp] lemma fixed_setPlayer (l : Lobby) (p : String) (f : Slot → Slot) :
    (l.setPlayer p f).fixed = l.fixed := by
  simp [fixed, setPlayer, length_updateFirst]

@[simp] lemma fixed_setMember (l : Lobby) (p : String) (f : Slot → Slot) :
    (l.setMember p f).fixed = l.fixed := by
  unfold setMember
  split
  · exact fixed_setPlayer l p f
  · simp [fixed, length_updateFirst]

lemma fixed_swapSeats (l : Lobby) (i j : Nat) : (l.swapSeats i j).fixed = l.fixed := by
  simp [swapSeats]

lemma fixed_sit (l : Lobby) (i : Nat) (s : Slot) (ep : String) :
    (l.sit i s ep).fixed = l.fixed := by
  show (clear_lobby_ice_paths (l.setSeat i (some s)).unready).fixed = l.fixed
  simp [clear_lobby_ice_paths, unready]

lemma fixed_kick (l : Lobby) (i : Nat) : (l.kick i).fixed = l.fixed := by
  show ((l.setSeat i none).unready.mapSeats Slot.clearPath).fixed = l.fixed
  simp [unready]

lemma fixed_launch (l : Lobby) (caps : Option Value) (sid : Nat) :
    (l.launch caps sid).fixed = l.fixed := by
  show l.unready.fixed = l.fixed
  simp [unready]

lemma fixed_vacate (l : Lobby) (p : String) : (l.vacate p).fixed = l.fixed := by
  simp [vacate, clear_lobby_ice_paths, fixed, mapSeats]

end Lobby

/-- What is settled when a room is made stays. -/
theorem RoomEdit.fixed {srv o w lid l s l'} (h : RoomEdit srv o w lid l s l') :
    l'.fixed = l.fixed := by
  cases h with
  | same => rfl
  | rename | set_ready => exact l.fixed_setMember _ _
  | set_match_caps => rfl
  | set_host_endpoint _ _ _ paths =>
    rcases paths with ⟨rfl, -⟩ | rfl
    · rfl
    · exact l.fixed_mapPlayers _
  | path_report => exact l.fixed_setPlayer _ _
  | move | seat_move =>
    simp [Lobby.rearrange, clear_lobby_ice_paths, Lobby.unready, Lobby.fixed_swapSeats]
  | seat_swap_answer =>
    unfold Lobby.trade
    dsimp only
    split <;> simp [clear_lobby_ice_paths, Lobby.unready, Lobby.fixed_swapSeats]
  | kick => exact l.fixed_kick _
  | sit => exact l.fixed_sit _ _ _
  | vacate => exact l.fixed_vacate _
  | launch => exact l.fixed_launch _ _

end RecompNet
