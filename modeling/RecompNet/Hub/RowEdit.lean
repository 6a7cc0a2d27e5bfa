import RecompNet.Hub.Basics

/-!
# How a section rewrites a client's row

The inversion of a step at one connection: `RowEdit` lists the sections that rewrite a row, and
`exec_row` says that a row after a section is an old one, rewritten. No section adds a row.
-/

namespace RecompNet

open Section

/-- A section that leaves the row `c'` where the row `c` of the client `q` was. -/
inductive RowEdit (o : Answer) (w : World) (q : String) (c : ClientMeta) :
    Section → ClientMeta → Prop where
  | same {s} : RowEdit o w q c s c
  | title {ip msg title} :
    msg.op = .list ∨ msg.op = .server_chat →
    RowEdit o w q c (dispatch q ip msg) { c with game_name := title }
  | token {ip msg bucket} :
    msg.op = .signal ∨ msg.op = .probe_signal →
    RowEdit o w q c (dispatch q ip msg) { c with signal_bucket := bucket }
  | mod_xfer_cancel {ip msg} :
    msg.op = .mod_xfer_cancel →
    RowEdit o w q c (dispatch q ip msg) { c with pending_mod_lobby := none }
  | set_blocks {ip msg} :
    msg.op = .set_blocks →
    RowEdit o w q c (dispatch q ip msg)
      { c with blocks := ((msg.accounts.getD []).filter (Text.trim · ≠ "")).take MAX_BLOCKS }
  | automatch_rtt {ip msg} :
    msg.op = .automatch_rtt →
    RowEdit o w q c (dispatch q ip msg)
      { c with probe_rtt_ms := sanitize_rtt (msg.rtt_ms.getD (-1)) }
  | kicked {p ip msg lid l i s} :
    msg.op = .kick →
    w.hub.lobby_id_of p = some lid →
    w.hub.lobbies.lookup lid = some l →
    l.host_player_id = p →
    l.seat i = some (some s) →
    s.player_id = q →
    q ≠ p →
    RowEdit o w q c (dispatch p ip msg) { c with lobby_id := none }
  | sign_in {name game player} :
    o.session = .player player →
    RowEdit o w q c (hello_session q name game) { c with account := some player }
  | identity {name game n} :
    (n = name.getD c.display_name ∨ ∃ said lid l, name = some said ∧ c.lobby_id = some lid ∧
      w.hub.lobbies.lookup lid = some l ∧ n = unique_display_name l said (some q) o.uuid) →
    RowEdit o w q c (hello_identity q name game)
      { c with display_name := n, game_name := game.getD c.game_name }
  | set_display_name {name} :
    RowEdit o w q c (set_display_name q name) { c with display_name := name }
  | create {ip msg title} :
    RowEdit o w q c (create_insert q ip msg) { c with lobby_id := some o.uuid, game_name := title }
  | sit {ip lid msg l title} :
    w.hub.lobbies.lookup lid = some l →
    RowEdit o w q c (join_seat q ip lid msg)
      { c with
        lobby_id := some lid
        display_name := unique_display_name l c.display_name (some q) o.uuid
        game_name := title }
  | want {lid mods xfer} :
    RowEdit o w q c (join_need_mods q lid mods xfer) { c with pending_mod_lobby := some lid }
  | joined {lid seated} :
    RowEdit o w q c (join_ok q lid seated) { c with pending_mod_lobby := none }
  | leave : RowEdit o w q c (client_leave q) { c with lobby_id := none }
  | destroy {lid l} :
    w.hub.lobbies.lookup lid = some l →
    q ∈ l.member_ids →
    RowEdit o w q c (destroy_lobby lid) { c with lobby_id := none }
  | form {plan} :
    q ∈ [plan.p.a.player_id, plan.p.b.player_id] →
    RowEdit o w q c (form_match_room plan)
      { c with lobby_id := some o.uuid, pending_mod_lobby := none }

/-- Every row of the hub `g'` is an old one, rewritten. -/
def RowEdits (o : Answer) (w : World) (s : Section) (g' : HubInner) : Prop :=
  ∀ q c', g'.clients.lookup q = some c' →
    ∃ c, w.hub.clients.lookup q = some c ∧ RowEdit o w q c s c'

section
variable {o : Answer} {w : World} {s : Section} {g' : HubInner}

lemma RowEdits.same (h : g'.clients = w.hub.clients) : RowEdits o w s g' :=
  fun _ c' hc' => ⟨c', h ▸ hc', .same⟩

/-- Rewriting one row. -/
lemma RowEdits.setClient {p : String} {f : ClientMeta → ClientMeta}
    (h : ∀ c, w.hub.clients.lookup p = some c → RowEdit o w p c s (f c)) :
    RowEdits o w s (w.hub.setClient p f) := by
  intro q c' hc'
  obtain ⟨c, hc, ⟨-, rfl⟩ | ⟨rfl, rfl⟩⟩ := lookup_setClient_back hc'
  · exact ⟨c', hc, .same⟩
  · exact ⟨c, hc, h c hc⟩

/-- The rooms are no part of a row. -/
lemma RowEdits.of_clients {g : HubInner} (h : RowEdits o w s g) (same : g'.clients = g.clients) :
    RowEdits o w s g' :=
  fun q c' hc' => h q c' (same ▸ hc')

end

section
variable {srv : Server} {o : Answer} {w : World} {p ip : String} {msg : InMsg}

lemma recordTitle_row {game : Option String} (op : msg.op = .list ∨ msg.op = .server_chat) :
    RowEdits o w (dispatch p ip msg) (w.hub.recordTitle p game) := by
  unfold HubInner.recordTitle
  split
  · exact .setClient fun c _ => .title op
  · exact .same rfl

lemma takeToken_row (op : msg.op = .signal ∨ msg.op = .probe_signal) :
    RowEdits o w (dispatch p ip msg) (takeToken w.now w.hub p).1 := by
  unfold takeToken
  split
  · exact .same rfl
  · exact .setClient fun c _ => .token op

lemma handle_server_chat_row (op : msg.op = .server_chat) :
    RowEdits o w (dispatch p ip msg) (handle_server_chat srv w.hub p msg).1 := by
  have titled : ∀ {g : HubInner}, RowEdits o w (dispatch p ip msg) g → ∀ scope,
      RowEdits o w (dispatch p ip msg)
        (g.setClient p fun c => if c.game_name = "" then { c with game_name := scope } else c) := by
    intro g h scope q c' hc'
    obtain ⟨c1, hc1, ⟨-, rfl⟩ | ⟨rfl, rfl⟩⟩ := lookup_setClient_back hc'
    · exact h q c' hc1
    · obtain ⟨c, hc, edit⟩ := h q c1 hc1
      split
      · refine ⟨c, hc, ?_⟩
        cases edit with
        | same => exact .title (.inr op)
        | title => exact .title (.inr op)
        | token other => rw [op] at other; rcases other with h | h <;> cases h
        | mod_xfer_cancel other | set_blocks other | automatch_rtt other | kicked other =>
          rw [op] at other
          cases other
      · exact ⟨c, hc, edit⟩
  have recorded := @recordTitle_row o w p ip msg (Text.nonempty msg.game_name) (.inr op)
  unfold handle_server_chat
  split
  · exact .same rfl
  · dsimp only
    split
    · exact recorded
    · split
      · exact titled recorded _
      · exact (titled recorded _).of_clients (HubInner.remember_chat_clients ..)

lemma handle_kick_row (op : msg.op = .kick) :
    RowEdits o w (dispatch p ip msg) (handle_kick w.hub p msg).1 := by
  have ends := kick_ends w.hub p msg
  generalize (handle_kick w.hub p msg).1 = g' at ends ⊢
  cases ends with
  | refused => exact .same rfl
  | @kicked lid l i s k =>
    have edit : RowEdits o w (dispatch p ip msg)
        (w.hub.setClient s.player_id ({ · with lobby_id := none })) :=
      .setClient fun c _ => .kicked op k.noted k.room k.host k.held rfl k.other
    exact edit.of_clients rfl

/-- What the handler of a message does to the rows. -/
lemma dispatch_row :
    RowEdits o w (dispatch p ip msg) (dispatch_step srv o w.now w.hub p ip msg).1 := by
  unfold dispatch_step
  cases op : msg.op with
  | list => exact recordTitle_row (.inl op)
  | server_chat => exact handle_server_chat_row op
  | kick => exact handle_kick_row op
  | mod_xfer_cancel => exact .setClient fun c _ => .mod_xfer_cancel op
  | set_blocks => exact .setClient fun c _ => .set_blocks op
  | automatch_rtt => exact .setClient fun c _ => .automatch_rtt op
  | signal =>
    have spent := @takeToken_row o w p ip msg (.inl op)
    dsimp only [handle_signal]
    repeat' split
    all_goals first
      | exact .same rfl
      | exact spent
  | probe_signal =>
    have spent := @takeToken_row o w p ip msg (.inr op)
    dsimp only [handle_probe_signal]
    repeat' split
    all_goals first
      | exact .same rfl
      | exact spent
  | chat =>
    refine .same ?_
    dsimp only [handle_chat, refuse]
    repeat' split
    all_goals simp
  | ping | get_turn_credentials | desync_report | other | leave | automatch_cancel
  | automatch_accept | automatch_rulesets => exact .same rfl
  | hello | create | join | start | close | set_ready | set_match_caps | set_host_endpoint
  | path_report =>
    refine .same ?_
    dsimp only [handle_hello, handle_create, handle_join, handle_start, handle_close,
      handle_set_ready, handle_set_match_caps, handle_set_host_endpoint, handle_path_report, refuse]
    repeat' split
    all_goals rfl
  | move | seat_move | seat_swap_request | seat_swap_answer | mod_signal | mod_xfer_start
  | mod_xfer_fail | automatch_queue | chat_report =>
    refine .same ?_
    dsimp only [handle_move, handle_seat_move, handle_seat_swap_request, handle_seat_swap_answer,
      handle_mod_signal, handle_mod_xfer_start, handle_mod_xfer_fail, handle_automatch_queue,
      handle_chat_report, refuse]
    repeat' split
    all_goals rfl

lemma apply_identity_row {name game : Option String} :
    RowEdits o w (hello_identity p name game) (apply_identity w.hub p name game o.uuid).1 := by
  intro q c' hc'
  let named : ClientMeta → ClientMeta := fun c =>
    { c with display_name := name.getD c.display_name, game_name := game.getD c.game_name }
  have plain : (w.hub.setClient p named).clients.lookup q = some c' →
      ∃ c, w.hub.clients.lookup q = some c ∧ RowEdit o w q c (hello_identity p name game) c' := by
    intro h
    obtain ⟨c, hc, ⟨-, rfl⟩ | ⟨rfl, rfl⟩⟩ := lookup_setClient_back h
    · exact ⟨c', hc, .same⟩
    · exact ⟨c, hc, .identity (.inl rfl)⟩
  unfold apply_identity at hc'
  dsimp only at hc'
  split at hc'
  · rename_i said lid hlid
    split at hc'
    · exact plain hc'
    · rename_i l hl
      have hl : w.hub.lobbies.lookup lid = some l := hl
      obtain ⟨c1, hc1, ⟨-, rfl⟩ | ⟨rfl, rfl⟩⟩ := lookup_setClient_back hc'
      · exact plain hc1
      · obtain ⟨c, hc, ⟨ne, -⟩ | ⟨-, rfl⟩⟩ := lookup_setClient_back hc1
        · exact absurd rfl ne
        · have seated : c.lobby_id = some lid := by
            simp only [HubInner.lobby_id_of, HubInner.setClient, Assoc.Map.lookup_modify_self,
              hc] at hlid
            exact hlid
          exact ⟨c, hc, .identity (.inr ⟨said, lid, l, rfl, seated, hl, rfl⟩)⟩
  · exact plain hc'

lemma join_seat_row {lid : String} :
    RowEdits o w (join_seat p ip lid msg) (join_seat_step srv o w.hub p ip lid msg).1 := by
  rw [join_seat_step_hub]
  have ends := join_ends srv o w.hub p ip lid msg
  generalize joinOutcome srv o w.hub p ip lid msg = out at ends ⊢
  cases ends with
  | refused => exact .same rfl
  | seated hl free =>
    intro q c' hc'
    obtain ⟨c, hc, ⟨-, rfl⟩ | ⟨rfl, rfl⟩⟩ := lookup_setClient_back hc'
    · exact ⟨c', hc, .same⟩
    · have hc : w.hub.clients.lookup q = some c := hc
      refine ⟨c, hc, ?_⟩
      unfold joinerRow joinerSlot
      rw [hc]
      exact .sit hl

end

/-- **How a section rewrites a row.** -/
theorem exec_row {srv s o w} : RowEdits o w s (exec srv s o w).1.hub := by
  have off : s.off_hub → RowEdits o w s (exec srv s o w).1.hub := by
    intro h
    obtain ⟨q, st, sp, e⟩ := exec_off_hub h
    exact .same (by rw [e])
  cases s with
  | dispatch p ip msg => exact dispatch_row
  | join_seat p ip lid msg => exact join_seat_row
  | hello_session p name game =>
    simp only [exec, World.lift, hello_session_step]
    split
    · exact .same rfl
    · exact .same rfl
    · rename_i player signed
      exact .setClient fun c _ => .sign_in signed
  | hello_identity p name game =>
    show RowEdits o w _ (hello_identity_step srv w.hub o p name game).1
    rw [hello_identity_step_hub]
    exact apply_identity_row
  | set_display_name p name => exact .setClient fun c _ => .set_display_name
  | create_insert p ip msg =>
    have edit : RowEdits o w (create_insert p ip msg) (w.hub.setClient p fun c =>
        { c with
          lobby_id := some o.uuid
          game_name := (createdLobby srv w.hub o p ip msg).game_name }) :=
      .setClient fun c _ => .create
    exact edit.of_clients rfl
  | join_need_mods p lid mods xfer => exact .setClient fun c _ => .want
  | join_ok p lid seated => exact .setClient fun c _ => .joined
  | client_leave p =>
    have edit : RowEdits o w (client_leave p) (w.hub.setClient p ({ · with lobby_id := none })) :=
      .setClient fun c _ => .leave
    simp only [exec, World.lift, client_leave_step]
    split
    · exact .same rfl
    · split
      · exact edit
      · split
        · exact edit
        · exact edit.of_clients rfl
  | destroy_lobby lid =>
    simp only [exec, World.lift, destroy_lobby_step]
    split
    · exact .same rfl
    · rename_i l hl
      intro q c' hc'
      obtain ⟨c, hc, ⟨-, rfl⟩ | ⟨hq, rfl⟩⟩ := lookup_modifyEach_back hc'
      · exact ⟨c', hc, .same⟩
      · exact ⟨c, hc, .destroy hl hq⟩
  | form_match_room plan =>
    simp only [exec, form_match_room_step]
    split_ifs
    · exact .same rfl
    · exact .same rfl
    · intro q c' hc'
      obtain ⟨c, hc, ⟨-, rfl⟩ | ⟨hq, rfl⟩⟩ := lookup_modifyEach_back hc'
      · exact ⟨c', hc, .same⟩
      · exact ⟨c, hc, .form hq⟩
  | clients_remove p =>
    exact fun q c' hc' => ⟨c', (lookup_erase_back hc').2, .same⟩
  | welcome p =>
    simp only [exec, welcome_step]
    split
    · exact .same (congrArg HubInner.clients (World.send_hub w p _))
    · exact fun q c' hc' => ⟨c', (lookup_erase_back hc').2, .same⟩
  | send_to p m => exact .same (congrArg HubInner.clients (World.send_hub w p m))
  | emit_lobby_update | chat_system | start_reason | list_tick | handle_text | start_prepare
  | start_commit =>
    refine .same ?_
    simp only [exec, World.lift, emit_lobby_update_step, chat_system_step, start_reason_step,
      list_tick_step, handle_text_step, start_prepare_step, start_commit_step, refuse]
    repeat' split
    all_goals rfl
  | start_failed | queue_account | queue_cooldown | queue_waiting | queue_ticket | queue_pools
  | queue_remove | queue_answer | settle_declined | record_strike | requeue_if_here
  | form_match => exact off rfl
  | _ => exact .same rfl

end RecompNet
