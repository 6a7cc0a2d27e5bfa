import RecompNet.Hub.Server

/-!
# What a section is followed by

Which sections a section puts in front of its task. Most are `plain`: sends, broadcasts and the later
parts of a handler, whose origin no result asks for. `Emits` says where the others come from: a message
is dispatched by the handler of its own text, a room is created, joined or left by a client's own
message, and a queue request reaches its push with the keys that passed the gates.
-/

namespace RecompNet

open Section

/-- The frames whose origin `Emits` does not record. -/
@[simp] def OutMsg.plain : OutMsg → Bool
  | .hello_ok _ | .launch _ | .lobby_list .. => false
  | .automatch_requeue reason _ => reason ≠ .peer_left
  | _ => true

/-- The sections whose origin `Emits` does not record. -/
@[simp] def Section.plain : Section → Bool
  | send_to _ m => m.plain
  | requeue_if_here _ reason => reason ≠ .peer_left
  | handle_text .. | dispatch .. | hello_session .. | hello_identity .. | create_insert ..
  | join_seat .. | client_leave _ | clients_remove _ | welcome _ | queue_cooldown ..
  | queue_waiting .. | queue_blocks .. | queue_ticket .. | queue_push .. | form_match_room _
  | form_match_gone _ => false
  | _ => true

/-- Where the sections that are not plain come from. -/
inductive Emits (srv : Server) : Section → Section → Prop where
  | plain {s s'} :
    s'.plain →
    Emits srv s s'
  | dispatch {p ip text msg} :
    Emits srv (handle_text p ip text) (dispatch p ip msg)
  | hello {p ip msg name game} :
    msg.op = .hello →
    Emits srv (dispatch p ip msg) (hello_session p name game)
  | identity {p ip msg name game} :
    msg.op = .hello →
    Emits srv (dispatch p ip msg) (hello_identity p name game)
  | session {p name game name' game'} :
    Emits srv (hello_session p name game) (hello_identity p name' game')
  | hello_ok {p name game n} :
    Emits srv (hello_identity p name game) (send_to p (.hello_ok n))
  | list {p game version rooms players} :
    Emits srv (list_reply p game version) (send_to p (.lobby_list rooms players))
  | tick {p rooms players} :
    Emits srv (list_tick p) (send_to p (.lobby_list rooms players))
  | launch {st lid caps sid specs tr ice q l} :
    Emits srv (start_commit st lid caps sid specs tr ice) (send_to q (.launch l))
  | create {p ip msg} :
    Emits srv (dispatch p ip msg) (create_insert p ip msg)
  | join {p ip lid msg} :
    Emits srv (dispatch p ip msg) (join_seat p ip lid msg)
  | leave {p ip msg} :
    Emits srv (dispatch p ip msg) (client_leave p)
  | gates {s titles keys} {req : QueueRequest} :
    queueGates srv.automatch_rulesets titles (req.msg.mod_exempt.getD []) = .ok keys →
    Emits srv s (queue_cooldown { req with titles } keys)
  | waiting {req keys} :
    Emits srv (queue_cooldown req keys) (queue_waiting req keys)
  | blocks {req keys} :
    Emits srv (queue_waiting req keys) (queue_blocks req keys)
  | ticket {req keys blocks} :
    Emits srv (queue_blocks req keys) (queue_ticket req keys blocks)
  | push {req keys blocks} {t : Ticket} :
    t.keys = keys →
    t.player_id = req.player_id →
    Emits srv (queue_ticket req keys blocks) (queue_push req t)
  | room {p plan} :
    plan.p = p →
    Emits srv (form_match p) (form_match_room plan)
  | gone {plan} :
    Emits srv (form_match_room plan) (form_match_gone plan.p)
  | survivor {p t} :
    Emits srv (form_match_gone p) (requeue_if_here t .peer_left)
  | requeue {t reason} :
    Emits srv (requeue_if_here t reason) (send_to t.player_id (.automatch_requeue reason true))

/-- Every section of a list is plain. -/
def Plain (ss : List Section) : Prop := ∀ s ∈ ss, s.plain

@[simp] lemma plain_nil : Plain [] := by
  intro s hs
  cases hs

@[simp] lemma plain_cons {s ss} : Plain (s :: ss) ↔ s.plain ∧ Plain ss := List.forall_mem_cons

@[simp] lemma plain_append {ss ss'} : Plain (ss ++ ss') ↔ Plain ss ∧ Plain ss' :=
  List.forall_mem_append

@[simp] lemma plain_map {α : Type} {f : α → Section} {l : List α} :
    Plain (l.map f) ↔ ∀ x ∈ l, (f x).plain := List.forall_mem_map

@[simp] lemma requeueReason_ne (k : DodgeKind) : k.requeueReason ≠ .peer_left := by
  cases k <;> decide

@[simp] lemma plain_refuse {g p code} : Plain (refuse g p code).2 := by simp [refuse]

/-! ## The handlers -/

lemma handle_set_ready_plain {g p msg} : Plain (handle_set_ready g p msg).2 := by
  unfold handle_set_ready
  repeat' split
  all_goals simp

lemma handle_kick_plain {g p msg} : Plain (handle_kick g p msg).2 := by
  unfold handle_kick
  dsimp only
  repeat' split
  all_goals simp

lemma handle_move_plain {g p msg} : Plain (handle_move g p msg).2 := by
  unfold handle_move
  repeat' split
  all_goals simp

lemma handle_seat_move_plain {g p msg} : Plain (handle_seat_move g p msg).2 := by
  unfold handle_seat_move
  repeat' split
  all_goals simp

lemma handle_seat_swap_request_plain {g p msg} : Plain (handle_seat_swap_request g p msg).2 := by
  unfold handle_seat_swap_request
  repeat' split
  all_goals simp

lemma handle_seat_swap_answer_plain {g p msg} : Plain (handle_seat_swap_answer g p msg).2 := by
  unfold handle_seat_swap_answer
  dsimp only
  repeat' split
  all_goals simp

lemma handle_close_plain {g p} : Plain (handle_close g p).2 := by
  unfold handle_close
  repeat' split
  all_goals simp

lemma handle_set_host_endpoint_plain {srv g p ip msg} :
    Plain (handle_set_host_endpoint srv g p ip msg).2 := by
  unfold handle_set_host_endpoint
  dsimp only
  repeat' split
  all_goals simp

lemma handle_path_report_plain {now g p msg} : Plain (handle_path_report now g p msg).2 := by
  unfold handle_path_report
  repeat' split
  all_goals simp

lemma handle_set_match_caps_plain {g p msg} : Plain (handle_set_match_caps g p msg).2 := by
  unfold handle_set_match_caps
  repeat' split
  all_goals simp

lemma handle_chat_plain {srv g p msg} : Plain (handle_chat srv g p msg).2 := by
  unfold handle_chat
  repeat' split
  all_goals simp

lemma handle_server_chat_plain {srv g p msg} : Plain (handle_server_chat srv g p msg).2 := by
  unfold handle_server_chat
  dsimp only
  repeat' split
  all_goals simp

lemma handle_signal_plain {now g p msg} : Plain (handle_signal now g p msg).2 := by
  unfold handle_signal
  dsimp only
  repeat' split
  all_goals simp

lemma handle_probe_signal_plain {now g p msg} : Plain (handle_probe_signal now g p msg).2 := by
  unfold handle_probe_signal
  dsimp only
  repeat' split
  all_goals simp

lemma handle_mod_signal_plain {g p msg} : Plain (handle_mod_signal g p msg).2 := by
  unfold handle_mod_signal
  dsimp only
  repeat' split
  all_goals simp

lemma handle_mod_xfer_start_plain {g p msg} : Plain (handle_mod_xfer_start g p msg).2 := by
  unfold handle_mod_xfer_start
  dsimp only
  repeat' split
  all_goals simp

lemma handle_mod_xfer_fail_plain {g p msg} : Plain (handle_mod_xfer_fail g p msg).2 := by
  unfold handle_mod_xfer_fail
  dsimp only
  repeat' split
  all_goals simp

lemma handle_chat_report_plain {g p msg} : Plain (handle_chat_report g p msg).2 := by
  unfold handle_chat_report
  repeat' split
  all_goals simp

lemma handle_start_plain {g p msg} : Plain (handle_start g p msg).2 := by
  unfold handle_start
  repeat' split
  all_goals simp

lemma handle_automatch_queue_plain {srv g p msg} : Plain (handle_automatch_queue srv g p msg).2 := by
  unfold handle_automatch_queue
  repeat' split
  all_goals simp

lemma emit_lobby_update_step_plain {now g lid} : Plain (emit_lobby_update_step now g lid).2 := by
  unfold emit_lobby_update_step
  split <;> simp

lemma chat_system_step_plain {g lid t} : Plain (chat_system_step g lid t).2 := by
  unfold chat_system_step
  split <;> simp

lemma destroy_lobby_step_plain {g lid} : Plain (destroy_lobby_step g lid).2 := by
  unfold destroy_lobby_step
  split <;> simp

lemma client_leave_step_plain {g p} : Plain (client_leave_step g p).2 := by
  unfold client_leave_step
  dsimp only
  repeat' split
  all_goals simp

lemma join_seat_step_plain {srv o g p ip lid msg} : Plain (join_seat_step srv o g p ip lid msg).2 := by
  unfold join_seat_step
  split <;> simp

lemma start_prepare_step_plain {now g st lid caps ice} :
    Plain (start_prepare_step now g st lid caps ice).2 := by
  unfold start_prepare_step
  repeat' split
  all_goals simp

lemma start_reason_step_plain {now g p lid caps} : Plain (start_reason_step now g p lid caps).2 := by
  unfold start_reason_step
  dsimp only
  repeat' split
  all_goals simp

lemma start_abort_step_plain {g lid code} : Plain (start_abort_step g lid code).2 := by
  unfold start_abort_step
  simp

lemma queue_remove_step_plain {w p} : Plain (queue_remove_step w p).2 := by
  unfold queue_remove_step
  split <;> simp

lemma queue_answer_step_plain {w p a id} : Plain (queue_answer_step w p a id).2 := by
  unfold queue_answer_step
  repeat' split
  all_goals simp

lemma settle_notify_step_plain {srv o w p l k} : Plain (settle_notify_step srv o w p l k).2 := by
  unfold settle_notify_step
  simp

lemma run_pairing_step_plain {srv o w} : Plain (run_pairing_step srv o w).2 := by
  intro s hs
  obtain ⟨p, -, hs⟩ := List.mem_flatMap.mp hs
  rcases List.mem_pair.mp hs with rfl | rfl <;> rfl

lemma settle_expired_plain {p} : Plain (settle_expired p) := by
  unfold settle_expired
  dsimp only
  split <;> simp

lemma take_expired_step_plain {srv w} : Plain (take_expired_step srv w).2 := by
  intro s hs
  obtain ⟨p, -, hs⟩ := List.mem_flatMap.mp hs
  exact settle_expired_plain s hs

lemma status_push_step_plain {w} : Plain (status_push_step w).2 := by
  unfold status_push_step
  simp

lemma start_failed_step_plain {w st lid ice code} : Plain (start_failed_step w st lid ice code).2 := by
  unfold start_failed_step
  repeat' split
  all_goals simp

lemma queue_pools_step_plain {w t keys rows} : Plain (queue_pools_step w t keys rows).2 := by
  unfold queue_pools_step
  split <;> simp

/-- A session that is checked leads to the identity part of its `hello`. -/
lemma hello_session_step_emits {srv g o p name game} :
    ∀ s' ∈ (hello_session_step g o p name game).2, Emits srv (hello_session p name game) s' := by
  unfold hello_session_step
  split
  · rw [List.forall_mem_cons, List.forall_mem_singleton]
    exact ⟨.plain rfl, .session⟩
  · rw [List.forall_mem_singleton]
    exact .session
  · rw [List.forall_mem_singleton]
    exact .session

lemma hello_identity_step_emits {srv g o p name game} :
    ∀ s' ∈ (hello_identity_step srv g o p name game).2,
      Emits srv (hello_identity p name game) s' := by
  intro s' hs
  unfold hello_identity_step at hs
  dsimp only at hs
  split at hs
  · exact .plain (plain_refuse s' hs)
  · rcases List.mem_cons.mp hs with rfl | hs
    · exact .hello_ok
    · obtain ⟨lid, -, rfl⟩ := List.mem_map.mp hs
      exact .plain rfl

lemma handle_hello_emits {srv g p ip msg} (hop : msg.op = .hello) :
    ∀ s' ∈ (handle_hello g p msg).2, Emits srv (.dispatch p ip msg) s' := by
  unfold handle_hello
  dsimp only
  split
  · rw [List.forall_mem_singleton]
    exact .hello hop
  · rw [List.forall_mem_singleton]
    exact .identity hop

lemma list_tick_step_emits {srv g p} :
    ∀ s' ∈ (list_tick_step srv g p).2, Emits srv (list_tick p) s' := by
  intro s' hs
  unfold list_tick_step at hs
  split at hs
  · cases hs
  · rw [List.mem_singleton.mp hs]
    exact .tick

lemma start_commit_step_emits {srv now g st lid caps sid specs tr ice} :
    ∀ s' ∈ (start_commit_step now g st lid caps sid specs tr ice).2,
      Emits srv (start_commit st lid caps sid specs tr ice) s' := by
  intro s' hs
  unfold start_commit_step at hs
  split at hs
  · rw [List.mem_singleton.mp hs]
    exact .plain rfl
  · obtain ⟨m, -, rfl⟩ := List.mem_map.mp hs
    exact .launch

lemma requeue_if_here_step_emits {srv w t r} :
    ∀ s' ∈ (requeue_if_here_step w t r).2, Emits srv (requeue_if_here t r) s' := by
  intro s' hs
  unfold requeue_if_here_step at hs
  split at hs
  · rcases List.mem_pair.mp hs with rfl | rfl
    · exact .plain rfl
    · exact .requeue
  · cases hs

lemma form_match_step_emits {srv w p} :
    ∀ s' ∈ (form_match_step srv w p).2, Emits srv (form_match p) s' := by
  intro s' hs
  unfold form_match_step at hs
  dsimp only at hs
  split at hs
  · cases hs
  · split at hs
    · cases hs
    · rw [List.mem_singleton.mp hs]
      exact .room rfl

/-- A match room is followed by plain sections, unless one of the two is gone. -/
lemma form_match_room_step_emits {srv o w plan} :
    ∀ s' ∈ (form_match_room_step srv o w plan).2, Emits srv (form_match_room plan) s' := by
  intro s' hs
  unfold form_match_room_step at hs
  dsimp only at hs
  split at hs
  · exact .plain (by aesop)
  · split at hs
    · rw [List.mem_singleton.mp hs]
      exact .gone
    · exact .plain (by aesop)

lemma handle_create_emits {srv g p ip msg} :
    ∀ s' ∈ (handle_create g p ip msg).2, Emits srv (.dispatch p ip msg) s' := by
  intro s' hs
  unfold handle_create at hs
  split at hs
  · exact .plain (plain_refuse s' hs)
  · split at hs
    · exact .plain (plain_refuse s' hs)
    · dsimp only at hs
      rcases List.mem_append.mp hs with hs | hs
      · split at hs
        · rw [List.mem_singleton.mp hs]
          exact .plain rfl
        · cases hs
      · rw [List.mem_singleton.mp hs]
        exact .create

lemma handle_join_emits {srv g p ip msg} :
    ∀ s' ∈ (handle_join g p ip msg).2, Emits srv (.dispatch p ip msg) s' := by
  intro s' hs
  unfold handle_join at hs
  split at hs
  · rw [List.mem_singleton.mp hs]
    exact .plain rfl
  · split at hs
    · exact .plain (plain_refuse s' hs)
    · dsimp only at hs
      rcases List.mem_append.mp hs with hs | hs
      · split at hs
        · rw [List.mem_singleton.mp hs]
          exact .plain rfl
        · cases hs
      · rw [List.mem_singleton.mp hs]
        exact .join

/-- A dispatched message is followed by plain sections, or by the create, the join or the leave it asks
for. -/
lemma dispatch_emits {srv o now g p ip msg} :
    ∀ s' ∈ (dispatch_step srv o now g p ip msg).2, Emits srv (.dispatch p ip msg) s' := by
  have plain : ∀ {r : HubStep}, Plain r.2 → ∀ s' ∈ r.2, Emits srv (.dispatch p ip msg) s' :=
    fun h s' hs => .plain (h s' hs)
  unfold dispatch_step
  cases hop : msg.op with
  | hello => exact handle_hello_emits hop
  | list => exact plain (by simp [handle_list])
  | ping => exact plain (by simp)
  | create => exact handle_create_emits
  | join => exact handle_join_emits
  | set_ready => exact plain handle_set_ready_plain
  | chat => exact plain handle_chat_plain
  | server_chat => exact plain handle_server_chat_plain
  | set_match_caps => exact plain handle_set_match_caps_plain
  | set_host_endpoint => exact plain handle_set_host_endpoint_plain
  | path_report => exact plain handle_path_report_plain
  | start => exact plain handle_start_plain
  | leave =>
    intro s' hs
    rcases List.mem_pair.mp hs with rfl | rfl
    · exact .leave
    · exact .plain rfl
  | kick => exact plain handle_kick_plain
  | move => exact plain handle_move_plain
  | seat_move => exact plain handle_seat_move_plain
  | seat_swap_request => exact plain handle_seat_swap_request_plain
  | seat_swap_answer => exact plain handle_seat_swap_answer_plain
  | close => exact plain handle_close_plain
  | signal => exact plain handle_signal_plain
  | probe_signal => exact plain handle_probe_signal_plain
  | mod_signal => exact plain handle_mod_signal_plain
  | mod_xfer_start => exact plain handle_mod_xfer_start_plain
  | mod_xfer_cancel => exact plain (by simp [handle_mod_xfer_cancel])
  | mod_xfer_fail => exact plain handle_mod_xfer_fail_plain
  | get_turn_credentials => exact plain (by simp)
  | set_blocks => exact plain (by simp [handle_set_blocks])
  | automatch_rulesets => exact plain (by simp [handle_automatch_rulesets, rulesets_json])
  | automatch_queue => exact plain handle_automatch_queue_plain
  | automatch_cancel => exact plain (by simp)
  | automatch_rtt => exact plain (by simp [handle_automatch_rtt])
  | desync_report => exact plain (by simp)
  | chat_report => exact plain handle_chat_report_plain
  | automatch_accept => exact plain (by simp)
  | other _ => exact plain (by simp)

/-- The gates of a queue request pass on the keys they found. -/
lemma queueTitles_emits {srv s req titles} :
    ∀ s' ∈ queueTitles srv req titles, Emits srv s s' := by
  intro s' hs
  unfold queueTitles at hs
  split at hs
  · rw [List.mem_singleton.mp hs]
    exact .plain rfl
  · rw [List.mem_singleton.mp hs]
    exact .plain rfl
  · rename_i keys hk
    rw [List.mem_singleton.mp hs]
    exact .gates hk

lemma queue_account_emits {srv s w req} :
    ∀ s' ∈ (queue_account_step srv w req).2, Emits srv s s' := by
  intro s' hs
  unfold queue_account_step at hs
  split_ifs at hs
  · exact .plain (by simp_all)
  · exact .plain (by simp_all)
  · split at hs
    · rw [List.mem_singleton.mp hs]
      exact .plain rfl
    · exact queueTitles_emits s' hs

lemma queue_game_emits {srv s w req} :
    ∀ s' ∈ (queue_game_step srv w req).2, Emits srv s s' := by
  simp only [queue_game_step]
  exact queueTitles_emits

/-- What a section puts in front of its task. -/
theorem exec_emits {srv s o w} : ∀ s' ∈ (exec srv s o w).2, Emits srv s s' := by
  have plain : ∀ {ss : List Section}, Plain ss → ∀ s' ∈ ss, Emits srv s s' :=
    fun h s' hs => .plain (h s' hs)
  cases s with
  | send_to | broadcast_list | welcome | clients_remove | queue_set_rtt | requeue_front
  | record_strike => exact plain plain_nil
  | emit_lobby_update => exact plain emit_lobby_update_step_plain
  | chat_system => exact plain chat_system_step_plain
  | destroy_lobby => exact plain destroy_lobby_step_plain
  | client_leave => exact plain client_leave_step_plain
  | list_tick => exact list_tick_step_emits
  | handle_text p ip text =>
    intro s' hs
    simp only [exec, World.lift, handle_text_step] at hs
    split at hs
    · exact .plain (by simp_all)
    · split at hs
      · exact .plain (plain_refuse s' hs)
      · split at hs
        · cases hs
        · rw [List.mem_singleton.mp hs]
          exact .dispatch
  | dispatch => exact dispatch_emits
  | hello_session => exact hello_session_step_emits
  | hello_identity => exact hello_identity_step_emits
  | list_reply p game version =>
    intro s' hs
    rw [List.mem_singleton.mp hs]
    exact .list
  | set_display_name => exact plain plain_nil
  | create_insert => exact plain (by simp [exec, World.lift, create_insert_step])
  | join_seat => exact plain join_seat_step_plain
  | join_need_mods => exact plain (by simp [exec, World.lift, join_need_mods_step])
  | join_ok => exact plain (by simp [exec, World.lift, join_ok_step])
  | join_announce => exact plain (by simp [exec, World.lift, join_announce_step])
  | start_prepare => exact plain start_prepare_step_plain
  | start_commit => exact start_commit_step_emits
  | start_failed => exact plain start_failed_step_plain
  | start_reason => exact plain start_reason_step_plain
  | start_abort => exact plain start_abort_step_plain
  | chat_report_record p mid report =>
    exact plain (by cases h : o.submitted <;> simp [exec, reportAnswer, h])
  | queue_account req => exact queue_account_emits
  | queue_game req => exact queue_game_emits
  | queue_cooldown req keys =>
    intro s' hs
    simp only [exec, queue_cooldown_step] at hs
    split at hs
    · exact .plain (by simp_all)
    · rw [List.mem_singleton.mp hs]
      exact .waiting
  | queue_waiting req keys =>
    intro s' hs
    simp only [exec, queue_waiting_step] at hs
    split at hs
    · exact .plain (by simp_all)
    · rw [List.mem_singleton.mp hs]
      exact .blocks
  | queue_blocks req keys =>
    intro s' hs
    rw [List.mem_singleton.mp hs]
    exact .ticket
  | queue_ticket req keys blocks =>
    intro s' hs
    simp only [exec, queue_ticket_step] at hs
    split at hs
    · exact .plain (by simp_all)
    · rename_i t ht
      rw [List.mem_singleton.mp hs]
      obtain ⟨e, -, rfl⟩ := Option.map_eq_some_iff.mp ht
      exact .push rfl rfl
  | queue_push req t => exact plain (by simp [exec, queue_push_step])
  | queue_pools => exact plain queue_pools_step_plain
  | queue_remove => exact plain queue_remove_step_plain
  | queue_answer => exact plain queue_answer_step_plain
  | settle_declined => exact plain (by simp [exec, settle_declined_step])
  | settle_notify => exact plain settle_notify_step_plain
  | requeue_if_here => exact requeue_if_here_step_emits
  | take_expired => exact plain take_expired_step_plain
  | run_pairing => exact plain run_pairing_step_plain
  | status_push => exact plain status_push_step_plain
  | form_match => exact form_match_step_emits
  | form_match_room => exact form_match_room_step_emits
  | form_match_gone p =>
    intro s' hs
    rw [List.mem_singleton.mp hs]
    exact .survivor
  | form_match_joined => exact plain (by simp [exec, World.lift, form_match_joined_step])
  | form_match_spawn => exact plain plain_nil

end RecompNet
