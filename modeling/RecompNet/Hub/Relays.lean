import RecompNet.Hub.JoinGate

/-!
# What passes from client to client

The signals of a room and the frames of a mod transfer, which the server takes from one client and
hands to another. Such a frame reaches a channel only through the handler of a message of its own
kind, and that handler knows both ends: two members of one room, or its host and a client that
passed the gate of the room and wants its mods.
-/

namespace RecompNet

open Section Interleave

/-- A signal, or a frame of a mod transfer. -/
@[simp] def OutMsg.relayed : OutMsg → Bool
  | .signal _ | .mod_signal _ | .mod_xfer_pull .. | .mod_xfer_fail _ => true
  | _ => false

/-- The send of such a frame. -/
@[simp] def Section.relays : Section → Bool
  | send_to _ m => m.relayed
  | _ => false

/-- The messages whose handlers send them. -/
@[simp] def ClientOp.relays : ClientOp → Bool
  | .signal | .mod_signal | .mod_xfer_start | .mod_xfer_fail => true
  | _ => false

/-- No section of a list relays. -/
def Silent (ss : List Section) : Prop := ∀ s ∈ ss, s.relays = false

section

@[simp] lemma silent_nil : Silent [] := by
  intro s hs
  cases hs

@[simp] lemma silent_cons {s ss} : Silent (s :: ss) ↔ s.relays = false ∧ Silent ss :=
  List.forall_mem_cons

@[simp] lemma silent_append {ss ss'} : Silent (ss ++ ss') ↔ Silent ss ∧ Silent ss' :=
  List.forall_mem_append

@[simp] lemma silent_map {α : Type} {f : α → Section} {l : List α} :
    Silent (l.map f) ↔ ∀ x ∈ l, (f x).relays = false := List.forall_mem_map

@[simp] lemma silent_refuse {g p code} : Silent (refuse g p code).2 := by simp [refuse]

end

/-- A relayed frame is a send of no kind of its own. -/
lemma Section.relays_kind {s : Section} (h : s.relays) : s.kind = .send_to .other := by
  cases s with
  | send_to q m =>
    cases m with
    | signal | mod_signal | mod_xfer_pull | mod_xfer_fail => rfl
    | _ => cases h
  | _ => cases h

/-- The handlers of the other messages relay nothing. -/
lemma dispatch_silent {srv o now g p ip} {msg : InMsg} (h : msg.op.relays = false) :
    Silent (dispatch_step srv o now g p ip msg).2 := by
  unfold dispatch_step
  cases hop : msg.op with
  | signal | mod_signal | mod_xfer_start | mod_xfer_fail =>
    rw [hop] at h
    cases h
  | hello | create | join =>
    dsimp only [handle_hello, handle_create, handle_join]
    repeat' split
    all_goals simp
  | ping | get_turn_credentials | desync_report | other | leave | automatch_cancel
  | automatch_accept => simp
  | list | mod_xfer_cancel | set_blocks | automatch_rulesets | automatch_rtt =>
    simp [handle_list, handle_mod_xfer_cancel, handle_set_blocks, handle_automatch_rulesets,
      rulesets_json, handle_automatch_rtt]
  | set_ready | set_match_caps | move | seat_move | seat_swap_answer =>
    dsimp only [handle_set_ready, handle_set_match_caps, handle_move, handle_seat_move,
      handle_seat_swap_answer]
    repeat' split
    all_goals simp
  | chat | server_chat =>
    dsimp only [handle_chat, handle_server_chat]
    repeat' split
    all_goals simp
  | set_host_endpoint | kick | start | close =>
    dsimp only [handle_set_host_endpoint, handle_kick, handle_start, handle_close]
    repeat' split
    all_goals simp
  | path_report | seat_swap_request | probe_signal =>
    dsimp only [handle_path_report, handle_seat_swap_request, handle_probe_signal]
    repeat' split
    all_goals simp
  | automatch_queue | chat_report =>
    dsimp only [handle_automatch_queue, handle_chat_report]
    repeat' split
    all_goals simp

lemma queueTitles_silent {srv req titles} : Silent (queueTitles srv req titles) := by
  unfold queueTitles
  repeat' split
  all_goals simp

lemma settle_expired_silent {p} : Silent (settle_expired p) := by
  unfold settle_expired
  dsimp only
  split_ifs <;> simp

/-- **Only the handler of a relay relays.** -/
theorem exec_silent {srv s o w} (h : ∀ p ip msg, s = dispatch p ip msg → msg.op.relays = false) :
    Silent (exec srv s o w).2 := by
  have unkind (k : .send_to .other ∉ s.calls) : Silent (exec srv s o w).2 := by
    intro s' hs'
    by_contra relays
    exact k (Section.relays_kind ((Bool.not_eq_false _).mp relays) ▸ exec_calls _ hs')
  cases s with
  | dispatch p ip msg => exact dispatch_silent (h p ip msg rfl)
  | handle_text p ip text =>
    simp only [exec, World.lift, handle_text_step]
    repeat' split
    all_goals simp
  | chat_system | destroy_lobby =>
    simp only [exec, World.lift, chat_system_step, destroy_lobby_step]
    split <;> simp
  | hello_session | hello_identity =>
    simp only [exec, World.lift, hello_session_step, hello_identity_step]
    split <;> simp
  | join_seat p ip lid msg =>
    simp only [exec, World.lift, join_seat_step]
    split <;> simp
  | join_need_mods => simp [exec, World.lift, join_need_mods_step]
  | start_reason =>
    simp only [exec, World.lift, start_reason_step]
    repeat' split
    all_goals simp
  | start_failed st lid ice code =>
    simp only [exec, start_failed_step]
    repeat' split
    all_goals simp
  | start_abort lid code => simp [exec, World.lift, start_abort_step]
  | chat_report_record p mid report =>
    simp only [exec]
    cases o.submitted <;> simp [reportAnswer]
  | queue_account req =>
    simp only [exec, queue_account_step]
    split_ifs
    · simp
    · simp
    · split
      · simp
      · exact queueTitles_silent
  | queue_game req =>
    simp only [exec, queue_game_step]
    exact queueTitles_silent
  | queue_cooldown | queue_waiting | queue_ticket =>
    simp only [exec, queue_cooldown_step, queue_waiting_step, queue_ticket_step]
    split <;> simp
  | queue_pools t keys rows => cases keys <;> simp [exec, queue_pools_step]
  | settle_notify | requeue_if_here =>
    simp only [exec, settle_notify_step, requeue_if_here_step]
    repeat' split
    all_goals simp
  | take_expired =>
    simp only [exec, take_expired_step]
    intro s' hs'
    obtain ⟨p, -, hs'⟩ := List.mem_flatMap.mp hs'
    exact settle_expired_silent s' hs'
  | status_push => simp [exec, status_push_step]
  | form_match_room plan =>
    simp only [exec, form_match_room_step]
    split_ifs <;> simp
  | _ => exact unkind (by simp)

/-! ## The two ends of a relay -/

/-- `p` and `q` sit in one room, and `p` may signal this there. -/
structure Signals (g : HubInner) (p q : String) (f : SignalFrame) : Prop where
  sender : f.from_player_id = p
  other : q ≠ p
  short : Text.byte_len f.text ≤ SIGNAL_TEXT_MAX
  room : ∃ l i, g.lobbies.lookup f.lobby_id = some l ∧ q ∈ l.member_ids ∧ p ∈ l.member_ids ∧
    l.seat_of p = some i ∧ ¬ (is_spectator_seat i ∧ is_ice_signal_type f.type)

/-- The host of a room, and a client that is noted to want the room's mods. -/
structure Transfer (g : HubInner) (lid host joiner : String) (l : Lobby) : Prop where
  room : g.lobbies.lookup lid = some l
  host : l.host_player_id = host
  wants : (g.clients.lookup joiner).bind (·.pending_mod_lobby) = some lid

/-- What the two may pass to each other. -/
inductive TransferFrame (lid host joiner : String) (l : Lobby) :
    String → String → OutMsg → Prop where
  | pull : TransferFrame lid host joiner l joiner host
      (.mod_xfer_pull joiner lid (required_mod_rows l.match_caps))
  | asked {f : SignalFrame} (sender : f.from_player_id = joiner) (room : f.lobby_id = lid) :
      TransferFrame lid host joiner l joiner host (.mod_signal f)
  | answered {f : SignalFrame} (sender : f.from_player_id = host) (room : f.lobby_id = lid) :
      TransferFrame lid host joiner l host joiner (.mod_signal f)
  | gave_up {e} : TransferFrame lid host joiner l joiner host (.mod_xfer_fail e)
  | failed {e} : TransferFrame lid host joiner l host joiner (.mod_xfer_fail e)

/-- What a handler passes on. -/
inductive RelaysTo (g : HubInner) (p : String) : Section → Prop where
  | signal {q f} (room : Signals g p q f) : RelaysTo g p (send_to q (.signal f))
  | transfer {lid host joiner l q m} (pair : Transfer g lid host joiner l)
      (frame : TransferFrame lid host joiner l p q m) : RelaysTo g p (send_to q m)

lemma handle_signal_relayed {now g p msg} (sized : g.Sized) :
    ∀ s ∈ (handle_signal now g p msg).2, s.relays → RelaysTo g p s := by
  unfold handle_signal
  dsimp only
  split
  · simp
  · rename_i lid _
    split
    · simp
    · rename_i l hl
      split
      · simp
      · rename_i i hseat
        split_ifs with stopped ended
        · simp
        · simp
        · intro s hs _
          obtain ⟨q, hq, rfl⟩ := List.mem_map.mp hs
          obtain ⟨hq, ne⟩ := List.mem_filter.mp hq
          simp only [Bool.and_eq_true, decide_eq_true_eq] at ne
          obtain ⟨allowed, short⟩ := not_or.mp stopped
          obtain ⟨s, hs, own⟩ := Lobby.seat_of_eq_some (sized lid l hl) hseat
          have sits : p ∈ l.member_ids := own ▸ Lobby.mem_of_seat hs
          refine .signal ⟨rfl, ne.1, not_lt.mp short, l, i, hl, hq, sits, hseat, ?_⟩
          simpa using allowed

lemma handle_mod_signal_relayed {g p msg} :
    ∀ s ∈ (handle_mod_signal g p msg).2, s.relays → RelaysTo g p s := by
  unfold handle_mod_signal
  split
  · simp
  · rename_i sender hsender
    split
    · simp
    · rename_i lid _
      split
      · simp
      · rename_i l hl
        dsimp only
        split_ifs with wants host
        · intro s hs _
          rw [List.mem_singleton.mp hs]
          exact .transfer ⟨hl, rfl, by rw [hsender]; exact wants⟩ (.asked rfl rfl)
        · intro s hs _
          rw [List.mem_singleton.mp hs]
          exact .transfer ⟨hl, host.1, host.2.2⟩ (.answered rfl rfl)
        · simp

lemma handle_mod_xfer_start_relayed {g p msg} :
    ∀ s ∈ (handle_mod_xfer_start g p msg).2, s.relays → RelaysTo g p s := by
  unfold handle_mod_xfer_start
  dsimp only
  split_ifs with named wants
  · simp [refuse]
  · simp [refuse]
  · split
    · simp [refuse]
    · rename_i l hl
      intro s hs _
      rw [List.mem_singleton.mp hs]
      exact .transfer ⟨hl, rfl, not_not.mp wants⟩ .pull

lemma handle_mod_xfer_fail_relayed {g p msg} :
    ∀ s ∈ (handle_mod_xfer_fail g p msg).2, s.relays → RelaysTo g p s := by
  unfold handle_mod_xfer_fail
  dsimp only
  split_ifs with may
  · intro s hs _
    rw [List.mem_singleton.mp hs]
    unfold xfer_relay_ok at may
    split at may
    · cases may
    · rename_i c hc
      obtain ⟨l, hl, host⟩ := (Option.any_eq_true _ _).mp may
      obtain ⟨lid, wants, hl⟩ := Option.bind_eq_some_iff.mp hl
      exact .transfer ⟨hl, of_decide_eq_true host, by rw [hc]; exact wants⟩ .failed
  · split
    · simp
    · rename_i l hl
      obtain ⟨lid, wants, hl⟩ := Option.bind_eq_some_iff.mp hl
      intro s hs _
      rw [List.mem_singleton.mp hs]
      exact .transfer ⟨hl, rfl, wants⟩ .gave_up

/-- What a step relays, and between whom. -/
lemma exec_relayed {srv s o w q m} (sized : w.hub.Sized) (relayed : m.relayed)
    (h : send_to q m ∈ (exec srv s o w).2) :
    ∃ p ip msg, s = dispatch p ip msg ∧ RelaysTo w.hub p (send_to q m) := by
  by_cases from_client : ∃ p ip msg, s = dispatch p ip msg ∧ msg.op.relays
  · obtain ⟨p, ip, msg, rfl, op⟩ := from_client
    refine ⟨p, ip, msg, rfl, ?_⟩
    replace h : send_to q m ∈ (dispatch_step srv o w.now w.hub p ip msg).2 := h
    unfold dispatch_step at h
    cases hop : msg.op with
    | signal =>
      rw [hop] at h
      exact handle_signal_relayed sized _ h relayed
    | mod_signal =>
      rw [hop] at h
      exact handle_mod_signal_relayed _ h relayed
    | mod_xfer_start =>
      rw [hop] at h
      exact handle_mod_xfer_start_relayed _ h relayed
    | mod_xfer_fail =>
      rw [hop] at h
      exact handle_mod_xfer_fail_relayed _ h relayed
    | _ =>
      rw [hop] at op
      cases op
  · have silent : (send_to q m).relays = false := by
      refine exec_silent (fun p ip msg e => ?_) _ h
      by_contra op
      exact from_client ⟨p, ip, msg, e, (Bool.not_eq_false _).mp op⟩
    rw [Section.relays, relayed] at silent
    cases silent

/-! ## Runs -/

/-- In this step a client handed a frame on to `q`. -/
def HandsOn (srv : Server) (p q : String) (m : OutMsg) (l : HubLabel) : Prop :=
  ∃ ip msg o pre, l = .ran (.conn p) (dispatch p ip msg) o pre ∧
    send_to q m ∈ (exec srv (dispatch p ip msg) o pre.world).2

/-- A client asked to join a room, in an earlier step, and met all that it asks but the mods. -/
def Passed (srv : Server) (earlier : List HubLabel) (joiner lid : String) : Prop :=
  ∃ t ip msg o pre l, .ran t (join_seat joiner ip lid msg) o pre ∈ earlier ∧
    pre.world.hub.lobbies.lookup lid = some l ∧ JoinGate srv pre.world.hub l joiner msg

/-- **Relays are confined.** Whatever one client is handed of another was handed on either between
two members of one room, or between the host of a room and a client that was noted to want its mods
and that had passed its gate. -/
theorem relays_confined {srv c tr} (r : HubRun srv c tr) {q m} (sent : (q, m) ∈ c.world.sent)
    (relayed : m.relayed) :
    ∃ later l earlier p, tr = later ++ l :: earlier ∧ HandsOn srv p q m l ∧
      ((∃ f, m = .signal f ∧ Signals l.pre.world.hub p q f) ∨
      ∃ lid host joiner room, Transfer l.pre.world.hub lid host joiner room ∧
        TransferFrame lid host joiner room p q m ∧ Passed srv earlier joiner lid) := by
  obtain ⟨l, hl, hf⟩ := (HubRun.mem_sent r).mp sent
  rcases (mem_frames hf).2 with ⟨t, o, pre, rfl⟩ | ⟨t, o, pre, rfl, hb⟩ | rfl | ⟨rfl, -⟩
  · obtain ⟨s, o', pre', hs, hmem⟩ := HubRun.ran_inner r hl rfl
    obtain ⟨later, earlier, at_⟩ := List.append_of_mem hs
    obtain ⟨rpre, -⟩ := r.pre_reached _ later earlier at_
    have basic := HubRun.basic rpre
    obtain ⟨p, ip, msg, rfl, by_client⟩ := exec_relayed basic.sized relayed hmem
    obtain rfl : t = .conn p := HubRun.ran_actor r hs rfl
    refine ⟨later, _, earlier, p, at_, ⟨ip, msg, o', pre', rfl, hmem⟩, ?_⟩
    cases by_client with
    | signal room => exact .inl ⟨_, rfl, room⟩
    | @transfer lid host joiner room _ _ pair frame =>
      refine .inr ⟨lid, host, joiner, room, pair, frame, ?_⟩
      obtain ⟨row, hrow, wants⟩ := Option.bind_eq_some_iff.mp pair.wants
      exact HubRun.grants_gated rpre joiner row lid hrow wants
  · obtain ⟨id, -, e⟩ := List.mem_map.mp hb
    cases e
    cases relayed
  · cases relayed
  · cases relayed

/-- Was this client asked to send mods to another? -/
def asksPull (p q : String) : String × OutMsg → Bool
  | (host, .mod_xfer_pull joiner _ _) => host = p && joiner = q
  | _ => false

/-- A room that asks for one mod. -/
def moddedRoom : Value :=
  .object [("mods", .array [.object [("id", .string "hd-textures"), ("ver", .string "2")]])]

/-- Bob lacks the mod of Alice's room and asks her for it. -/
theorem relays_confined_pull : ∃ c tr p q m, HubRun sampleServer c tr ∧ (p, m) ∈ c.world.sent ∧
    asksPull p q (p, m) ∧ ∃ later l earlier lid room, tr = later ++ l :: earlier ∧
      HandsOn sampleServer q p m l ∧ Transfer l.pre.world.hub lid p q room ∧
      TransferFrame lid p q room q p m ∧ Passed sampleServer earlier q lid := by
  let p := "6b0f1e52-3c1d-4a86-9a53-0d5f6f1c2a11"
  let q := "c4d1c1a0-5f0e-4a53-8d43-9f4b1f7f3b22"
  let lid := "1f8a9f0e-7d2b-4b57-8f6f-2f6f2b0c9d01"
  let o := draw "9b1deb4d-3b7d-4bad-9bdd-2b0d7b3dcb6d"
  let ms := signIn p alice o ++ [say p { op := .create, match_caps := some moddedRoom }] ++
    steps (.conn p) 3 (draw lid) ++ steps (.conn p) 2 o ++ signIn q bob o ++
    [say q { op := .join, lobby_id := some lid }] ++ steps (.conn q) 5 o ++
    [say q { op := .mod_xfer_start, lobby_id := some lid }] ++ steps (.conn q) 3 o
  have h : ((hubMachine sampleServer).follow ms).any fun x =>
      x.1.world.sent.any (asksPull p q) := by
    decide +kernel
  obtain ⟨c, tr, r, ht, -⟩ := Machine.follow_reaches h
  obtain ⟨⟨host, m⟩, sent, asks⟩ := List.any_eq_true.mp ht
  cases m with
  | mod_xfer_pull joiner room rows =>
    have ends := asks
    simp only [asksPull, Bool.and_eq_true, decide_eq_true_eq] at ends
    obtain ⟨rfl, rfl⟩ := ends
    obtain ⟨later, l, earlier, from_, at_, hands,
      ⟨f, e, -⟩ | ⟨lid, host, joiner, room, pair, frame, passed⟩⟩ := relays_confined r sent rfl
    · cases e
    · cases frame with
      | pull =>
        exact ⟨c, tr, _, _, _, r, sent, asks, later, l, earlier, _, room, at_, hands, pair, .pull,
          passed⟩
  | _ => cases asks

end RecompNet
