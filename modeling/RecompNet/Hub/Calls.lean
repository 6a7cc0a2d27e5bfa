import RecompNet.Hub.Server

/-!
# Which sections start which

The call graph of the server's sections, read off the code: `Section.calls` lists the kinds of sections
that a section may put in front of its task, for a dispatched message by its op. A result about where a
kind of section comes from looks it up here and then reads the few callers that are left.
-/

namespace RecompNet

open Section

/-- The kinds of frames that some result asks about. -/
inductive FrameKind where
  | hello_ok | lobby_list | lobby_update | launch | chat | server_chat | probe_signal
  | chat_report_ok | created | joined | seat_swap_ask | automatch_found | other
  deriving DecidableEq

def OutMsg.kind : OutMsg → FrameKind
  | .hello_ok _ => .hello_ok
  | .lobby_list .. => .lobby_list
  | .lobby_update _ => .lobby_update
  | .launch _ => .launch
  | .chat .. => .chat
  | .server_chat .. => .server_chat
  | .probe_signal _ => .probe_signal
  | .chat_report_ok _ => .chat_report_ok
  | .created _ => .created
  | .joined _ => .joined
  | .seat_swap_ask .. => .seat_swap_ask
  | .automatch_found _ => .automatch_found
  | _ => .other

/-- The kinds of sections. -/
inductive SectionKind where
  | send_to (m : FrameKind) | emit_lobby_update | broadcast_list | chat_system | destroy_lobby
  | client_leave | welcome | list_tick | clients_remove | handle_text | dispatch | hello_session
  | hello_identity | list_reply | set_display_name | create_insert | join_seat | join_need_mods
  | join_ok | join_announce | start_prepare | start_commit | start_failed | start_reason
  | start_abort | chat_report_record | queue_account | queue_game | queue_cooldown | queue_waiting
  | queue_blocks | queue_ticket | queue_push | queue_pools | queue_set_rtt | queue_remove
  | queue_answer | settle_declined | settle_notify | requeue_if_here | requeue_front
  | record_strike | take_expired | run_pairing | status_push | form_match | form_match_room
  | form_match_gone | form_match_joined | form_match_spawn
  deriving DecidableEq

@[simp] def Section.kind : Section → SectionKind
  | send_to _ m => .send_to m.kind
  | emit_lobby_update _ => .emit_lobby_update
  | broadcast_list => .broadcast_list
  | chat_system .. => .chat_system
  | destroy_lobby _ => .destroy_lobby
  | client_leave _ => .client_leave
  | welcome _ => .welcome
  | list_tick _ => .list_tick
  | clients_remove _ => .clients_remove
  | handle_text .. => .handle_text
  | dispatch .. => .dispatch
  | hello_session .. => .hello_session
  | hello_identity .. => .hello_identity
  | list_reply .. => .list_reply
  | set_display_name .. => .set_display_name
  | create_insert .. => .create_insert
  | join_seat .. => .join_seat
  | join_need_mods .. => .join_need_mods
  | join_ok .. => .join_ok
  | join_announce .. => .join_announce
  | start_prepare .. => .start_prepare
  | start_commit .. => .start_commit
  | start_failed .. => .start_failed
  | start_reason .. => .start_reason
  | start_abort .. => .start_abort
  | chat_report_record .. => .chat_report_record
  | queue_account _ => .queue_account
  | queue_game _ => .queue_game
  | queue_cooldown .. => .queue_cooldown
  | queue_waiting .. => .queue_waiting
  | queue_blocks .. => .queue_blocks
  | queue_ticket .. => .queue_ticket
  | queue_push .. => .queue_push
  | queue_pools .. => .queue_pools
  | queue_set_rtt .. => .queue_set_rtt
  | queue_remove _ => .queue_remove
  | queue_answer .. => .queue_answer
  | settle_declined .. => .settle_declined
  | settle_notify .. => .settle_notify
  | requeue_if_here .. => .requeue_if_here
  | requeue_front _ => .requeue_front
  | record_strike .. => .record_strike
  | take_expired => .take_expired
  | run_pairing => .run_pairing
  | status_push => .status_push
  | form_match _ => .form_match
  | form_match_room _ => .form_match_room
  | form_match_gone _ => .form_match_gone
  | form_match_joined .. => .form_match_joined
  | form_match_spawn _ => .form_match_spawn

/-- Does the step run a section of the kind? -/
def runsKind (k : SectionKind) : HubLabel → Bool
  | .ran _ s _ _ => s.kind = k
  | .came .. => false

lemma runsKind_ran {k l} (h : runsKind k l) : ∃ t s o pre, l = .ran t s o pre ∧ s.kind = k := by
  cases l with
  | ran t s o pre => exact ⟨t, s, o, pre, rfl, of_decide_eq_true h⟩
  | came => cases h

/-- What the handler of an op starts. -/
@[simp] def ClientOp.calls : ClientOp → List SectionKind
  | .hello => [.hello_session, .hello_identity]
  | .list => [.list_reply]
  | .create => [.send_to .other, .set_display_name, .create_insert]
  | .join => [.send_to .other, .set_display_name, .join_seat]
  | .chat => [.send_to .other, .send_to .chat]
  | .server_chat => [.send_to .other, .send_to .server_chat]
  | .set_ready | .set_match_caps | .move | .seat_move | .seat_swap_answer =>
    [.send_to .other, .emit_lobby_update]
  | .set_host_endpoint => [.send_to .other, .emit_lobby_update, .broadcast_list]
  | .start => [.send_to .other, .start_prepare]
  | .leave => [.client_leave, .send_to .other]
  | .kick => [.send_to .other, .emit_lobby_update, .broadcast_list, .chat_system]
  | .close => [.destroy_lobby]
  | .automatch_queue => [.send_to .other, .queue_account]
  | .automatch_cancel => [.queue_remove, .send_to .other]
  | .automatch_rtt => [.queue_set_rtt, .send_to .other]
  | .automatch_accept => [.send_to .other, .queue_answer]
  | .chat_report => [.send_to .other, .chat_report_record]
  | .probe_signal => [.send_to .probe_signal]
  | .seat_swap_request => [.send_to .other, .send_to .seat_swap_ask]
  | .ping | .path_report | .signal | .mod_signal
  | .mod_xfer_start | .mod_xfer_cancel | .mod_xfer_fail | .get_turn_credentials | .set_blocks
  | .automatch_rulesets | .desync_report | .other _ => [.send_to .other]

/-- What a section starts. -/
@[simp] def Section.calls : Section → List SectionKind
  | emit_lobby_update _ => [.send_to .lobby_update]
  | chat_system .. => [.send_to .other]
  | destroy_lobby _ => [.send_to .other, .broadcast_list]
  | client_leave _ => [.destroy_lobby, .emit_lobby_update, .broadcast_list, .chat_system]
  | list_tick _ => [.send_to .lobby_list]
  | handle_text .. => [.send_to .other, .dispatch]
  | dispatch _ _ msg => msg.op.calls
  | hello_session .. => [.send_to .other, .hello_identity]
  | hello_identity .. => [.send_to .other, .send_to .hello_ok, .emit_lobby_update]
  | list_reply .. => [.send_to .lobby_list]
  | create_insert .. => [.send_to .created, .broadcast_list]
  | join_seat .. => [.send_to .other, .join_need_mods, .join_ok]
  | join_need_mods .. => [.send_to .other]
  | join_ok .. => [.send_to .joined, .emit_lobby_update, .broadcast_list, .join_announce]
  | join_announce .. => [.chat_system]
  | start_prepare .. => [.start_failed, .start_commit]
  | start_commit .. => [.start_failed, .send_to .launch]
  | start_failed .. =>
    [.start_reason, .send_to .other, .start_abort, .destroy_lobby, .requeue_if_here, .start_prepare]
  | start_reason .. => [.send_to .other]
  | start_abort .. => [.send_to .other, .destroy_lobby]
  | chat_report_record .. => [.send_to .other, .send_to .chat_report_ok]
  | queue_account _ => [.send_to .other, .queue_game, .queue_cooldown]
  | queue_game _ => [.send_to .other, .queue_cooldown]
  | queue_cooldown .. => [.send_to .other, .queue_waiting]
  | queue_waiting .. => [.send_to .other, .queue_blocks]
  | queue_blocks .. => [.queue_ticket]
  | queue_ticket .. => [.send_to .other, .queue_push]
  | queue_push .. => [.queue_pools]
  | queue_pools .. => [.queue_pools, .send_to .other, .run_pairing]
  | queue_remove _ => [.settle_declined]
  | queue_answer .. => [.form_match, .settle_declined]
  | settle_declined .. => [.settle_notify]
  | settle_notify .. => [.send_to .other, .requeue_if_here]
  | requeue_if_here .. => [.requeue_front, .send_to .other]
  | take_expired => [.record_strike, .send_to .other, .settle_declined]
  | run_pairing => [.send_to .automatch_found]
  | status_push => [.send_to .other]
  | form_match _ => [.form_match_room]
  | form_match_room _ =>
    [.send_to .other, .form_match_gone, .form_match_joined, .emit_lobby_update, .form_match_spawn]
  | form_match_gone _ => [.requeue_if_here]
  | form_match_joined .. => [.send_to .joined]
  | _ => []

/-- The sections of a list are all of the kinds `ks`. -/
def Calls (ks : List SectionKind) (ss : List Section) : Prop := ∀ s ∈ ss, s.kind ∈ ks

section
variable {ks : List SectionKind}

@[simp] lemma calls_nil : Calls ks [] := by
  intro s hs
  cases hs

@[simp] lemma calls_cons {s ss} : Calls ks (s :: ss) ↔ s.kind ∈ ks ∧ Calls ks ss :=
  List.forall_mem_cons

@[simp] lemma calls_append {ss ss'} : Calls ks (ss ++ ss') ↔ Calls ks ss ∧ Calls ks ss' :=
  List.forall_mem_append

@[simp] lemma calls_map {α : Type} {f : α → Section} {l : List α} :
    Calls ks (l.map f) ↔ ∀ x ∈ l, (f x).kind ∈ ks := List.forall_mem_map

@[simp] lemma calls_flatMap {α : Type} {f : α → List Section} {l : List α} :
    Calls ks (l.flatMap f) ↔ ∀ x ∈ l, Calls ks (f x) := by
  simp only [Calls, List.mem_flatMap]
  exact ⟨fun h x hx s hs => h s ⟨x, hx, hs⟩, fun h s ⟨x, hx, hs⟩ => h x hx s hs⟩

end

@[simp] lemma calls_refuse {ks : List SectionKind} {g : HubInner} {p : String} {code : Code} :
    Calls ks (refuse g p code).2 ↔ .send_to .other ∈ ks := by
  simp [refuse, OutMsg.kind]

/-- What the handler of a message starts. -/
theorem dispatch_calls {srv : Server} {o : Answer} {now : Instant} {g : HubInner} {p ip : String}
    {msg : InMsg} : Calls msg.op.calls (dispatch_step srv o now g p ip msg).2 := by
  unfold dispatch_step
  cases hop : msg.op with
  | hello =>
    dsimp only [handle_hello]
    split <;> simp
  | ping | get_turn_credentials | desync_report | other | leave | automatch_cancel
  | automatch_accept => simp [OutMsg.kind]
  | list | mod_xfer_cancel | set_blocks | automatch_rulesets | automatch_rtt =>
    simp [handle_list, handle_mod_xfer_cancel, handle_set_blocks, handle_automatch_rulesets,
      rulesets_json, handle_automatch_rtt, OutMsg.kind]
  | create | join =>
    dsimp only [handle_create, handle_join]
    repeat' split
    all_goals simp [OutMsg.kind]
  | set_ready | set_match_caps | move | seat_move | seat_swap_answer =>
    dsimp only [handle_set_ready, handle_set_match_caps, handle_move, handle_seat_move,
      handle_seat_swap_answer]
    repeat' split
    all_goals simp [OutMsg.kind]
  | chat | server_chat =>
    dsimp only [handle_chat, handle_server_chat]
    repeat' split
    all_goals simp [OutMsg.kind]
  | set_host_endpoint | kick | start | close =>
    dsimp only [handle_set_host_endpoint, handle_kick, handle_start, handle_close]
    repeat' split
    all_goals simp [OutMsg.kind]
  | path_report | seat_swap_request | signal | probe_signal =>
    dsimp only [handle_path_report, handle_seat_swap_request, handle_signal, handle_probe_signal]
    repeat' split
    all_goals simp [OutMsg.kind]
  | mod_signal | mod_xfer_start | mod_xfer_fail =>
    dsimp only [handle_mod_signal, handle_mod_xfer_start, handle_mod_xfer_fail]
    repeat' split
    all_goals simp [OutMsg.kind]
  | automatch_queue | chat_report =>
    dsimp only [handle_automatch_queue, handle_chat_report]
    repeat' split
    all_goals simp

lemma queueTitles_calls {srv : Server} {req : QueueRequest} {titles : List InTitle} :
    Calls [.send_to .other, .queue_cooldown] (queueTitles srv req titles) := by
  unfold queueTitles
  repeat' split
  all_goals simp [OutMsg.kind]

/-- **The call graph.** -/
theorem exec_calls {srv : Server} {s : Section} {o : Answer} {w : World} :
    Calls s.calls (exec srv s o w).2 := by
  cases s with
  | send_to | broadcast_list | welcome | clients_remove | set_display_name | queue_set_rtt
  | requeue_front | record_strike | form_match_spawn => exact calls_nil
  | handle_text p ip text =>
    simp only [exec, World.lift, handle_text_step]
    repeat' split
    all_goals simp [OutMsg.kind]
  | dispatch => exact dispatch_calls
  | emit_lobby_update | chat_system | destroy_lobby =>
    simp only [exec, World.lift, emit_lobby_update_step, chat_system_step, destroy_lobby_step]
    split <;> simp [OutMsg.kind]
  | client_leave p =>
    simp only [exec, World.lift, client_leave_step]
    repeat' split
    all_goals simp
  | list_tick | list_reply =>
    simp only [exec, World.lift, list_tick_step, list_reply_step]
    try split
    all_goals simp [OutMsg.kind, LobbyList.frame]
  | hello_session p name game =>
    simp only [exec, World.lift, hello_session_step]
    split <;> simp [OutMsg.kind]
  | hello_identity p name game =>
    simp only [exec, World.lift, hello_identity_step]
    split
    · simp
    · simp [OutMsg.kind]
  | create_insert | join_need_mods | join_ok | join_announce | form_match_joined
  | form_match_gone | queue_push | queue_blocks | settle_declined =>
    simp [exec, World.lift, create_insert_step, join_need_mods_step, join_ok_step,
      join_announce_step, form_match_joined_step, form_match_gone_step, queue_push_step,
      queue_blocks_step, settle_declined_step, OutMsg.kind]
  | join_seat p ip lid msg =>
    simp only [exec, World.lift, join_seat_step]
    split <;> simp
  | start_prepare | start_commit | start_reason =>
    simp only [exec, World.lift, start_prepare_step, start_commit_step, start_reason_step]
    repeat' split
    all_goals simp [OutMsg.kind]
  | start_failed st lid ice code =>
    simp only [exec, start_failed_step]
    repeat' split
    all_goals simp [OutMsg.kind]
  | start_abort lid code => simp [exec, World.lift, start_abort_step, OutMsg.kind]
  | chat_report_record p mid report =>
    simp only [exec]
    cases o.submitted <;> simp [reportAnswer, OutMsg.kind]
  | queue_account req =>
    simp only [exec, queue_account_step]
    split_ifs
    · simp [OutMsg.kind]
    · simp [OutMsg.kind]
    · split
      · simp
      · intro s hs
        have known := queueTitles_calls s hs
        simp only [List.mem_cons, List.not_mem_nil, or_false] at known
        simp only [Section.calls, List.mem_cons]
        tauto
  | queue_game req =>
    simp only [exec, queue_game_step]
    exact queueTitles_calls
  | queue_cooldown | queue_waiting | queue_ticket =>
    simp only [exec, queue_cooldown_step, queue_waiting_step, queue_ticket_step]
    split <;> simp [OutMsg.kind]
  | queue_pools t keys rows =>
    cases keys <;> simp [exec, queue_pools_step, OutMsg.kind]
  | queue_remove | queue_answer | settle_notify | requeue_if_here =>
    simp only [exec, queue_remove_step, queue_answer_step, settle_notify_step,
      requeue_if_here_step]
    repeat' split
    all_goals simp [OutMsg.kind]
  | take_expired =>
    simp only [exec, take_expired_step, settle_expired, calls_flatMap]
    intro p _
    split <;> simp [OutMsg.kind]
  | run_pairing => simp [exec, run_pairing_step, offer_pair, OutMsg.kind]
  | status_push => simp [exec, status_push_step, OutMsg.kind]
  | form_match p =>
    simp only [exec, form_match_step]
    repeat' split
    all_goals simp
  | form_match_room plan =>
    simp only [exec, form_match_room_step]
    split_ifs <;> simp [OutMsg.kind]

/-- The kinds of sections that an event other than a wake-up starts. -/
def eventKinds : List SectionKind :=
  [.welcome, .handle_text, .queue_remove, .client_leave, .clients_remove, .list_tick,
    .take_expired, .run_pairing, .status_push]

/-- An event starts a section of these kinds, or it wakes the start task of a room. -/
lemma body_cases {e : Event} {w : World} {s : Section} (h : s ∈ e.body w) :
    s.kind ∈ eventKinds ∨
    ∃ lid task, e = .wake lid ∧ w.spawned.lookup lid = some task ∧
      s = start_prepare (.server (Event.awake w.now task)) lid none false := by
  cases e with
  | wake lid =>
    obtain ⟨task, ht, rfl⟩ := List.mem_map.mp h
    exact .inr ⟨lid, task, rfl, Option.mem_toList.mp ht, rfl⟩
  | disconnect | automatch_tick =>
    left
    simp only [Event.body, List.mem_cons, List.not_mem_nil, or_false] at h
    rcases h with rfl | rfl | rfl <;> simp [eventKinds]
  | ws_ping | pass => cases h
  | _ =>
    left
    cases List.mem_singleton.mp h
    simp [eventKinds]

/-- The kinds of sections that an event starts. -/
lemma body_kinds {e : Event} {w : World} {s : Section} (h : s ∈ e.body w) :
    s.kind ∈ [.welcome, .handle_text, .queue_remove, .client_leave, .clients_remove, .list_tick,
      .take_expired, .run_pairing, .status_push, .start_prepare] := by
  rcases body_cases h with kind | ⟨lid, task, -, -, rfl⟩
  · exact List.mem_append_left [.start_prepare] kind
  · simp

end RecompNet
