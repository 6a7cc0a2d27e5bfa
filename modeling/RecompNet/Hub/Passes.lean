import RecompNet.Hub.Known

/-!
# What is passed on

Every handler passes the ids it was given on to the sections it starts, and speaks to members, hosts,
grant holders and queued players besides. So the ids stay known: `exec_passes` says it of one section,
`HubRun.known` of a run.
-/

namespace RecompNet

open Section Interleave

/-! ## The handlers -/

section
variable {strict : Prop} {srv : Server} {o : Answer} {w : World} {p ip lid : String} {msg : InMsg}

/-- Every section of a list keeps its promise. -/
def AllKnown (strict : Prop) (srv : Server) (w : World) (ss : List Section) : Prop :=
  ∀ s ∈ ss, s.known strict srv w

@[simp] lemma allKnown_nil : AllKnown strict srv w [] := by
  intro s hs
  cases hs

@[simp] lemma allKnown_cons {s ss} :
    AllKnown strict srv w (s :: ss) ↔ s.known strict srv w ∧ AllKnown strict srv w ss :=
  List.forall_mem_cons

@[simp] lemma allKnown_append {ss ss'} :
    AllKnown strict srv w (ss ++ ss') ↔ AllKnown strict srv w ss ∧ AllKnown strict srv w ss' :=
  List.forall_mem_append

@[simp] lemma allKnown_map {α : Type} {f : α → Section} {l : List α} :
    AllKnown strict srv w (l.map f) ↔ ∀ x ∈ l, (f x).known strict srv w := List.forall_mem_map

/-- A frame to a known connection. -/
lemma known_send {q m} (h : Known srv w q) : (send_to q m).known strict srv w :=
  fun _ => .inl h.2

/-- A frame that a guest may have. -/
lemma known_send_guest {q m} (h : m.to_guests) : (send_to q m).known strict srv w :=
  fun _ => .inr h

@[simp] lemma allKnown_refuse {g q code} : AllKnown strict srv w (refuse g q code).2 := by
  simp [refuse, OutMsg.to_guests]

/-- A frame to every member of a room. -/
lemma known_members {l} (hk : HubKnown srv w) (hl : w.hub.lobbies.lookup lid = some l)
    (f : String → OutMsg) : AllKnown strict srv w (l.member_ids.map fun m => send_to m (f m)) := by
  rw [allKnown_map]
  exact fun m hm => known_send (hk.members lid l hl m hm)

/-- A frame to some members of a room. -/
lemma known_some_members {l} (hk : HubKnown srv w) (hl : w.hub.lobbies.lookup lid = some l)
    (who : String → Bool) (f : String → OutMsg) :
    AllKnown strict srv w ((l.member_ids.filter who).map fun m => send_to m (f m)) := by
  rw [allKnown_map]
  exact fun m hm => known_send (hk.members lid l hl m (List.mem_of_mem_filter hm))

lemma handle_set_ready_known :
    AllKnown strict srv w (handle_set_ready w.hub p msg).2 := by
  unfold handle_set_ready
  repeat' split
  all_goals simp

lemma handle_move_known :
    AllKnown strict srv w (handle_move w.hub p msg).2 := by
  unfold handle_move
  repeat' split
  all_goals simp

lemma handle_seat_move_known :
    AllKnown strict srv w (handle_seat_move w.hub p msg).2 := by
  unfold handle_seat_move
  repeat' split
  all_goals simp

lemma handle_close_known :
    AllKnown strict srv w (handle_close w.hub p).2 := by
  unfold handle_close
  repeat' split
  all_goals simp

lemma handle_set_host_endpoint_known (hp : Known srv w p) :
    AllKnown strict srv w (handle_set_host_endpoint srv w.hub p ip msg).2 := by
  unfold handle_set_host_endpoint
  dsimp only
  repeat' split
  all_goals simp [hp.2]

lemma handle_path_report_known (hp : Known srv w p) :
    AllKnown strict srv w (handle_path_report w.now w.hub p msg).2 := by
  unfold handle_path_report
  repeat' split
  all_goals simp [hp.2]

lemma handle_set_match_caps_known :
    AllKnown strict srv w (handle_set_match_caps w.hub p msg).2 := by
  unfold handle_set_match_caps
  repeat' split
  all_goals simp

lemma handle_chat_report_known (hp : Known srv w p) :
    AllKnown strict srv w (handle_chat_report w.hub p msg).2 := by
  unfold handle_chat_report
  repeat' split
  all_goals simp [hp]

lemma handle_start_known (hp : Known srv w p) :
    AllKnown strict srv w (handle_start w.hub p msg).2 := by
  unfold handle_start
  repeat' split
  all_goals simp_all [Starter.known]

lemma handle_create_known (hp : Known srv w p) :
    AllKnown strict srv w (handle_create w.hub p ip msg).2 := by
  unfold handle_create
  split
  · simp
  · split
    · simp
    · dsimp only
      split <;> simp [hp]

lemma handle_join_known (hp : Known srv w p) :
    AllKnown strict srv w (handle_join w.hub p ip msg).2 := by
  unfold handle_join
  split
  · simp [OutMsg.to_guests]
  · split
    · simp
    · dsimp only
      split <;> simp [hp]

lemma handle_hello_known :
    AllKnown strict srv w (handle_hello w.hub p msg).2 := by
  unfold handle_hello
  split <;> simp

lemma handle_automatch_queue_known (hp : Known srv w p) :
    AllKnown strict srv w (handle_automatch_queue srv w.hub p msg).2 := by
  unfold handle_automatch_queue
  repeat' split
  all_goals simp [hp]

lemma handle_mod_xfer_start_known (hk : HubKnown srv w) :
    AllKnown strict srv w (handle_mod_xfer_start w.hub p msg).2 := by
  unfold handle_mod_xfer_start
  dsimp only
  split
  · simp
  · split
    · simp
    · split
      · simp
      · rename_i l hl
        simp [(hk.host _ l hl).2]

lemma handle_mod_signal_known (hk : HubKnown srv w) :
    AllKnown strict srv w (handle_mod_signal w.hub p msg).2 := by
  unfold handle_mod_signal
  split
  · simp [OutMsg.to_guests]
  · split
    · simp [OutMsg.to_guests]
    · split
      · simp
      · rename_i l hl
        dsimp only
        split
        · simp [(hk.host _ l hl).2]
        · split
          · rename_i hd
            -- The addressee waits for its mods, so it is a client that a join let this far.
            obtain ⟨c, hc, hpend⟩ := Option.bind_eq_some_iff.mp hd.2.2
            simp [(hk.clients _ c hc (.inr (by simp [hpend]))).2]
          · simp

lemma handle_mod_xfer_fail_known (hk : HubKnown srv w) :
    AllKnown strict srv w (handle_mod_xfer_fail w.hub p msg).2 := by
  unfold handle_mod_xfer_fail
  dsimp only
  split
  · rename_i hd
    unfold xfer_relay_ok at hd
    split at hd
    · cases hd
    · rename_i c hc
      obtain ⟨l, hl, -⟩ := (Option.any_eq_true _ _).mp hd
      obtain ⟨lid, hpend, -⟩ := Option.bind_eq_some_iff.mp hl
      simp [(hk.clients _ c hc (.inr (by simp [hpend]))).2]
  · split
    · simp
    · rename_i l hl
      obtain ⟨lid, -, hl⟩ := Option.bind_eq_some_iff.mp hl
      simp [(hk.host _ l hl).2]

lemma handle_chat_known (hk : HubKnown srv w) :
    AllKnown strict srv w (handle_chat srv w.hub p msg).2 := by
  unfold handle_chat
  split
  · simp
  · split
    · simp
    · split
      · simp
      · rename_i l hl
        split
        · simp
        · exact known_members hk hl _

lemma handle_signal_known (hk : HubKnown srv w) :
    AllKnown strict srv w (handle_signal w.now w.hub p msg).2 := by
  unfold handle_signal
  split
  · simp [OutMsg.to_guests]
  · dsimp only
    split
    · simp
    · rename_i l hl
      repeat' split
      all_goals first | exact allKnown_nil | exact known_some_members hk hl _ _

lemma handle_seat_swap_request_known (hk : HubKnown srv w) :
    AllKnown strict srv w (handle_seat_swap_request w.hub p msg).2 := by
  unfold handle_seat_swap_request
  split
  · simp
  · split
    · simp
    · rename_i l hl
      obtain ⟨lid, -, hl⟩ := Option.bind_eq_some_iff.mp hl
      split
      · simp
      · split
        · simp
        · rename_i hs
          split
          · simp
          · split
            · simp
            · simp [(hk.members _ l hl _ (Lobby.mem_of_seat hs)).2]

lemma handle_kick_known (hk : HubKnown srv w) :
    AllKnown strict srv w (handle_kick w.hub p msg).2 := by
  unfold handle_kick
  split
  · simp [OutMsg.to_guests]
  · split
    · simp
    · split
      · simp
      · rename_i l hl
        split
        · simp
        · split
          · simp
          · simp
          · rename_i s hs
            have victim := hk.members _ l hl _ (Lobby.mem_of_seat hs)
            dsimp only
            split
            · simp
            · split <;> simp [victim.2]

lemma join_ok_step_known {st} (hp : Known srv w p) :
    AllKnown strict srv w (join_ok_step w.hub p lid st).2 := by
  unfold join_ok_step
  simp [hp.2]

lemma join_need_mods_step_known {mods x} (hp : Known srv w p) :
    AllKnown strict srv w (join_need_mods_step w.hub p lid mods x).2 := by
  unfold join_need_mods_step
  simp [hp.2]

lemma emit_lobby_update_step_known (hk : HubKnown srv w) :
    AllKnown strict srv w (emit_lobby_update_step w.now w.hub lid).2 := by
  unfold emit_lobby_update_step
  split
  · simp
  · rename_i l hl
    exact known_members hk hl _

lemma chat_system_step_known {t} (hk : HubKnown srv w) :
    AllKnown strict srv w (chat_system_step w.hub lid t).2 := by
  unfold chat_system_step
  split
  · simp
  · rename_i l hl
    exact known_members hk hl _

lemma destroy_lobby_step_known (hk : HubKnown srv w) :
    AllKnown strict srv w (destroy_lobby_step w.hub lid).2 := by
  unfold destroy_lobby_step
  split
  · simp
  · rename_i l hl
    rw [allKnown_append]
    exact ⟨known_members hk hl _, by simp ⟩

lemma client_leave_step_known :
    AllKnown strict srv w (client_leave_step w.hub p).2 := by
  unfold client_leave_step
  dsimp only
  repeat' split
  all_goals simp

lemma create_insert_step_known (hp : Known srv w p) :
    AllKnown strict srv w (create_insert_step srv o w.hub p ip msg).2 := by
  unfold create_insert_step
  simp [hp.2]

lemma join_seat_step_known (hp : Known srv w p) :
    AllKnown strict srv w (join_seat_step srv o w.hub p ip lid msg).2 := by
  unfold join_seat_step
  split <;> simp [hp]

lemma hello_session_step_known {name game} :
    AllKnown strict srv w (hello_session_step w.hub o p name game).2 := by
  unfold hello_session_step
  split <;> simp [OutMsg.to_guests]

lemma hello_identity_step_known {name game} :
    AllKnown strict srv w (hello_identity_step srv w.hub o p name game).2 := by
  unfold hello_identity_step
  repeat' split
  all_goals simp [OutMsg.to_guests]

lemma start_prepare_step_known {st : Starter} {caps ice} (hp : st.known srv w) :
    AllKnown strict srv w (start_prepare_step w.now w.hub st lid caps ice).2 := by
  unfold start_prepare_step
  repeat' split
  all_goals simp [hp]

lemma start_commit_step_known {st : Starter} {caps sid hs tr ice} (hp : st.known srv w)
    (hk : HubKnown srv w) :
    AllKnown strict srv w (start_commit_step w.now w.hub st lid caps sid hs tr ice).2 := by
  unfold start_commit_step
  split
  · simp [hp]
  · rename_i l hl
    rw [allKnown_map]
    intro m hm
    have same := (l.launch_shuffles caps sid).members
    exact known_send (hk.members _ l hl m (same.subset hm))

lemma start_reason_step_known {caps} :
    AllKnown strict srv w (start_reason_step w.now w.hub p lid caps).2 := by
  unfold start_reason_step
  dsimp only
  repeat' split
  all_goals simp [OutMsg.to_guests]

lemma start_abort_step_known {code} :
    AllKnown strict srv w (start_abort_step w.hub lid code).2 := by
  unfold start_abort_step
  simp [OutMsg.to_guests]

lemma requeue_if_here_step_known {t : Ticket} {r} (hp : Known srv w t.player_id) :
    AllKnown strict srv w (requeue_if_here_step w t r).2 := by
  unfold requeue_if_here_step
  split <;> simp [hp, hp.2]

lemma form_match_step_known {pd : Pending} (hp : pd.known srv w) :
    AllKnown strict srv w (form_match_step srv w pd).2 := by
  unfold form_match_step
  repeat' split
  all_goals simp [hp]

lemma form_match_room_step_known {plan : MatchPlan} (hp : plan.p.known srv w) :
    AllKnown strict srv w (form_match_room_step srv o w plan).2 := by
  unfold form_match_room_step
  dsimp only
  repeat' split
  all_goals simp [Pending.known, hp.1, hp.2, hp.1.2, hp.2.2]

lemma form_match_gone_step_known {pd : Pending} (hp : pd.known srv w) :
    AllKnown strict srv w (form_match_gone_step w pd).2 := by
  unfold form_match_gone_step
  dsimp only
  simp only [allKnown_cons, allKnown_nil, and_true]
  split <;> split
  · exact hp.2
  · exact hp.1
  · exact hp.2
  · exact hp.1

lemma form_match_joined_step_known {plan : MatchPlan} {sid seat} (hp : plan.p.known srv w) :
    AllKnown strict srv w (form_match_joined_step w.hub plan lid sid seat).2 := by
  unfold form_match_joined_step
  dsimp only
  split
  · simp [hp.1.2]
  · simp [hp.2.2]

lemma settle_notify_step_known {pd : Pending} {l k} (hp : pd.known srv w) :
    AllKnown strict srv w (settle_notify_step srv o w pd l k).2 := by
  have sides : Known srv w (pd.loserFirst l).1.player_id ∧
      Known srv w (pd.loserFirst l).2.player_id := by
    unfold Pending.loserFirst
    split
    · exact hp
    · exact hp.symm
  unfold settle_notify_step
  simp [sides.1.2, sides.2]

lemma settle_declined_step_known {pd : Pending} {l k} (hp : pd.known srv w) :
    AllKnown strict srv w (settle_declined_step o w pd l k).2 := by
  unfold settle_declined_step
  simp [hp]

lemma start_failed_step_known {st : Starter} {ice code} (hp : st.known srv w) :
    AllKnown strict srv w (start_failed_step w st lid ice code).2 := by
  unfold start_failed_step
  repeat' split
  all_goals simp_all [Starter.known, OutMsg.to_guests]

lemma queue_pools_step_known {t : Ticket} {keys rows} (hp : Known srv w t.player_id) :
    AllKnown strict srv w (queue_pools_step w t keys rows).2 := by
  unfold queue_pools_step
  split <;> simp [hp, hp.2]

/-- Filling in a client's own title changes nobody's title. -/
lemma game_scope_for_fill {g : HubInner} {q : String} :
    game_scope_for (g.setClient p fun c =>
      if c.game_name = "" then { c with game_name := game_scope_for g p } else c) q =
      game_scope_for g q := by
  generalize hs : game_scope_for g p = scope
  by_cases e : q = p
  · subst e
    cases hc : g.clients.lookup q with
    | none => simp [game_scope_for, HubInner.setClient, hc]
    | some c =>
      by_cases hn : c.game_name = ""
      · simp only [game_scope_for, hc, hn] at hs
        simp only [game_scope_for, HubInner.setClient, Assoc.Map.lookup_modify_self, hc, hn]
        by_cases h0 : scope = "" <;> simp_all
      · simp [game_scope_for, HubInner.setClient, hc, hn]
  · unfold game_scope_for
    simp only [HubInner.setClient, Assoc.Map.lookup_modify_ne e]

lemma handle_server_chat_known
    (hg : strict → (chatText srv msg.text).isSome →
      game_scope_for (w.hub.recordTitle p (Text.nonempty msg.game_name)) p ≠ "" →
      ∀ q, w.hub.connected q →
        game_scope_for (w.hub.recordTitle p (Text.nonempty msg.game_name)) q =
          game_scope_for (w.hub.recordTitle p (Text.nonempty msg.game_name)) p → w.hub.authed q) :
    AllKnown strict srv w (handle_server_chat srv w.hub p msg).2 := by
  unfold handle_server_chat
  split
  · simp
  · rename_i text ht
    dsimp only
    split
    · simp
    · rename_i hs
      split
      · simp
      · rw [allKnown_map]
        intro q hq hst
        left
        intro _ hc
        -- Whoever hears the line has the title of its author, before and after that is filled in.
        obtain ⟨c, hmem, rfl⟩ := List.mem_map.mp hq
        have title := of_decide_eq_true (List.mem_filter.mp hmem).2
        rw [game_scope_for_fill] at title
        exact hg hst (by simp [ht]) hs _ hc title

/-- The asker of a swap is a member of the room, or one that a step may speak to. -/
lemma handle_seat_swap_answer_known
    (hg : strict → ((w.hub.lobby_id_of p).bind (w.hub.lobbies.lookup ·)).isSome →
      w.hub.connected (msg.asker_player_id.getD "") → w.hub.authed (msg.asker_player_id.getD "")) :
    AllKnown strict srv w (handle_seat_swap_answer w.hub p msg).2 := by
  unfold handle_seat_swap_answer
  dsimp only
  split
  · simp
  · split
    · simp
    · rename_i lid hlid
      split
      · simp
      · rename_i l hl
        have told : ∀ ok, (send_to (msg.asker_player_id.getD "") (.seat_swap_result ok)).known
            strict srv w := by
          intro ok st
          left
          intro _
          exact hg st (by simp [hlid, hl])
        repeat' split
        all_goals simp only [allKnown_cons, allKnown_nil, and_true]
        · exact told false
        · exact ⟨told true, trivial⟩
        · exact told false

/-- A probe goes to the host, or to a browser that holds a grant. -/
lemma handle_probe_signal_known (hk : HubKnown srv w) :
    AllKnown strict srv w (handle_probe_signal w.now w.hub p msg).2 := by
  unfold handle_probe_signal
  split
  · simp
  · dsimp only
    split
    · simp
    · split
      · simp
      · split
        · simp
        · rename_i l hl
          rw [takeToken_lobbies] at hl
          split
          · split
            · rename_i hgrant
              obtain ⟨since, hs⟩ := Option.isSome_iff_exists.mp hgrant
              have old := (Assoc.Map.lookup_retain.mp hs).1
              rw [takeToken_grants] at old
              have known := hk.grants _ (Assoc.Map.mem_iff.mpr ⟨since, old⟩)
              simp [known.2]
            · simp
          · split
            · simp
            · simp [(hk.host _ l hl).2]

/-- What a handler of a client that is known, or of an op that is open to guests, passes on. -/
lemma dispatch_known {pre : HubSnapshot} {t} (hk : HubKnown srv pre.world)
    (hp : Known srv pre.world p ∨ msg.op.open_to_guests)
    (hg : strict → GuestsApart srv (.ran t (dispatch p ip msg) o pre)) :
    AllKnown strict srv pre.world (dispatch_step srv o pre.world.now pre.world.hub p ip msg).2 := by
  unfold dispatch_step
  have known : ¬ msg.op.open_to_guests → Known srv pre.world p := hp.resolve_right
  cases hop : msg.op with
  | hello => exact handle_hello_known
  | ping => simp [OutMsg.to_guests]
  | server_chat => exact handle_server_chat_known fun st => (hg st).1 hop
  | seat_swap_answer => exact handle_seat_swap_answer_known fun st => (hg st).2 hop
  | chat => exact handle_chat_known hk
  | signal => exact handle_signal_known hk
  | probe_signal => exact handle_probe_signal_known hk
  | mod_signal => exact handle_mod_signal_known hk
  | mod_xfer_start => exact handle_mod_xfer_start_known hk
  | mod_xfer_fail => exact handle_mod_xfer_fail_known hk
  | kick => exact handle_kick_known hk
  | seat_swap_request => exact handle_seat_swap_request_known hk
  | set_ready => exact handle_set_ready_known
  | move => exact handle_move_known
  | seat_move => exact handle_seat_move_known
  | close => exact handle_close_known
  | set_match_caps => exact handle_set_match_caps_known
  | desync_report => simp
  | mod_xfer_cancel => simp [handle_mod_xfer_cancel]
  | set_blocks => simp [handle_set_blocks]
  | other => simp [OutMsg.to_guests]
  | _ =>
    have hp : Known srv pre.world p := known (by simp [hop, ClientOp.open_to_guests])
    first
      | exact handle_create_known hp
      | exact handle_join_known hp
      | exact handle_set_host_endpoint_known hp
      | exact handle_path_report_known hp
      | exact handle_start_known hp
      | exact handle_automatch_queue_known hp
      | exact handle_chat_report_known hp
      | simp [hp, hp.2, handle_list, handle_automatch_rulesets, handle_automatch_rtt]

/-- The sides of an offer in the roll are known. -/
lemma HubKnown.listed (hk : HubKnown srv w) {pd : Pending} (h : w.automatch.Lists pd) :
    pd.known srv w := ⟨hk.queue _ h.1, hk.queue _ h.2⟩

lemma queue_remove_step_known (hk : HubKnown srv w) :
    AllKnown strict srv w (queue_remove_step w p).2 := by
  unfold queue_remove_step
  split
  · simp
  · rename_i q pd h
    simp [hk.listed (QueueInner.lists_remove_player h)]

lemma queue_answer_step_known {accept id} (hk : HubKnown srv w) :
    AllKnown strict srv w (queue_answer_step w p accept id).2 := by
  unfold queue_answer_step
  split
  · simp
  · rename_i q pd h
    have listed := hk.listed (QueueInner.lists_answer_for h)
    split <;> simp [listed]

lemma settle_expired_known {pd : Pending} (hp : pd.known srv w) :
    AllKnown strict srv w (settle_expired pd) := by
  unfold settle_expired
  dsimp only
  split
  · simp [hp.1.2, hp.2.2]
  · simp [hp]

lemma take_expired_step_known (hk : HubKnown srv w) :
    AllKnown strict srv w (take_expired_step srv w).2 := by
  intro s hs
  obtain ⟨pd, hpd, hs⟩ := List.mem_flatMap.mp hs
  exact settle_expired_known (hk.listed (QueueInner.lists_take_expired hpd)) s hs

lemma run_pairing_step_known (hk : HubKnown srv w) :
    AllKnown strict srv w (run_pairing_step srv o w).2 := by
  intro s hs
  obtain ⟨pd, hpd, hs⟩ := List.mem_flatMap.mp hs
  have hp := hk.listed (QueueInner.lists_pair hpd)
  have offered : AllKnown strict srv w (offer_pair srv pd) := by simp [offer_pair, hp.1.2, hp.2.2]
  exact offered s hs

lemma status_push_step_known (hk : HubKnown srv w) :
    AllKnown strict srv w (status_push_step w).2 := by
  unfold status_push_step QueueInner.status_rows
  simp only [allKnown_map, List.mem_map]
  rintro _ ⟨t, ht, rfl⟩
  apply known_send
  apply hk.queue t.who
  exact List.mem_map_of_mem (List.mem_append_left _ ht)

lemma queueTitles_known {req : QueueRequest} {titles} (hp : Known srv w req.player_id) :
    AllKnown strict srv w (queueTitles srv req titles) := by
  unfold queueTitles
  split <;> simp [hp, hp.2, OutMsg.to_guests]

lemma queue_account_step_known {req : QueueRequest} (hp : Known srv w req.player_id) :
    AllKnown strict srv w (queue_account_step srv w req).2 := by
  unfold queue_account_step
  split_ifs
  · simp [OutMsg.to_guests]
  · simp [OutMsg.to_guests]
  · split
    · simp [hp]
    · exact queueTitles_known hp

lemma queue_game_step_known {req : QueueRequest} (hp : Known srv w req.player_id) :
    AllKnown strict srv w (queue_game_step srv w req).2 := by
  simp only [queue_game_step]
  exact queueTitles_known hp

lemma queue_cooldown_step_known {req : QueueRequest} {keys} (hp : Known srv w req.player_id) :
    AllKnown strict srv w (queue_cooldown_step srv o w req keys).2 := by
  unfold queue_cooldown_step
  dsimp only
  split <;> simp [hp, OutMsg.to_guests]

lemma queue_waiting_step_known {req : QueueRequest} {keys} (hp : Known srv w req.player_id) :
    AllKnown strict srv w (queue_waiting_step srv w req keys).2 := by
  unfold queue_waiting_step
  split <;> simp [hp, OutMsg.to_guests]

lemma queue_blocks_step_known {req : QueueRequest} {keys} (hp : Known srv w req.player_id) :
    AllKnown strict srv w (queue_blocks_step w req keys).2 := by
  simp [queue_blocks_step, hp]

/-- A ticket is its request's. -/
lemma ticketOf_player {req : QueueRequest} {keys blocks t}
    (h : ticketOf srv w req keys blocks = some t) : t.player_id = req.player_id := by
  obtain ⟨_, -, rfl⟩ := Option.map_eq_some_iff.mp h
  rfl

lemma queue_ticket_step_known {req : QueueRequest} {keys blocks}
    (hp : Known srv w req.player_id) :
    AllKnown strict srv w (queue_ticket_step srv w req keys blocks).2 := by
  unfold queue_ticket_step
  split
  · simp [OutMsg.to_guests]
  · rename_i t ht
    simp [ticketOf_player ht, hp]

lemma queue_push_step_known {t : Ticket} (hp : Known srv w t.player_id) :
    AllKnown strict srv w (queue_push_step w t).2 := by
  simp [queue_push_step, hp]

/-- A list goes to the client that asked, or to one that passed the tick's own check. -/
lemma list_tick_step_known : AllKnown strict srv w (list_tick_step srv w.hub p).2 := by
  unfold list_tick_step
  split
  · exact allKnown_nil
  · rename_i h
    have signed := (not_or.mp h).2
    have safe : Safe srv w p := fun hr _ => by simpa [hr] using signed
    simp [safe]

lemma list_reply_step_known {game version} (hp : Known srv w p) :
    AllKnown strict srv w (list_reply_step srv w.hub p game version).2 := by
  simp [list_reply_step, hp.2]

/-- The gate lets a message pass that is open to guests, or whose sender is signed in. -/
lemma handle_text_step_known {text} (hp : p ∈ w.issued) :
    AllKnown strict srv w (handle_text_step srv w.hub p ip text).2 := by
  unfold handle_text_step
  split
  · simp [OutMsg.to_guests]
  · split
    · exact allKnown_refuse
    · rename_i msg _
      split
      · exact allKnown_nil
      · rename_i h
        have passed : Known srv w p ∨ msg.op.open_to_guests := by
          by_cases ho : msg.op.open_to_guests
          · exact .inr ho
          · exact .inl ⟨.inr hp, fun hr _ => by simpa [hr, ho] using h⟩
        simpa using passed

lemma reportAnswer_known {mid said} (hp : Known srv w p) :
    (reportAnswer p mid said).known strict srv w := by
  cases said with
  | Ok | Duplicate => exact known_send hp
  | RateLimited | Failed => exact known_send_guest rfl

lemma join_announce_step_known {slot} :
    AllKnown strict srv w (join_announce_step w.hub p lid slot).2 := by
  simp [join_announce_step]

/-- What a section passes on, in the world that it found. -/
lemma exec_passes {pre : HubSnapshot} {t s} (hk : HubKnown srv pre.world)
    (hs : s.known strict srv pre.world) (hg : strict → GuestsApart srv (.ran t s o pre)) :
    AllKnown strict srv pre.world (exec srv s o pre.world).2 := by
  cases s with
  | send_to | broadcast_list | welcome | clients_remove | set_display_name | queue_set_rtt
  | requeue_front | record_strike | form_match_spawn => exact allKnown_nil
  | emit_lobby_update => exact emit_lobby_update_step_known hk
  | chat_system => exact chat_system_step_known hk
  | destroy_lobby => exact destroy_lobby_step_known hk
  | client_leave => exact client_leave_step_known
  | list_tick => exact list_tick_step_known
  | handle_text => exact handle_text_step_known hs
  | dispatch => exact dispatch_known hk hs hg
  | hello_session => exact hello_session_step_known
  | hello_identity => exact hello_identity_step_known
  | list_reply => exact list_reply_step_known hs
  | create_insert => exact create_insert_step_known hs
  | join_seat => exact join_seat_step_known hs
  | join_need_mods => exact join_need_mods_step_known hs
  | join_ok => exact join_ok_step_known hs
  | join_announce => exact join_announce_step_known
  | start_prepare => exact start_prepare_step_known hs
  | start_commit => exact start_commit_step_known hs hk
  | start_failed => exact start_failed_step_known hs
  | start_reason => exact start_reason_step_known
  | start_abort => exact start_abort_step_known
  | chat_report_record => exact allKnown_cons.mpr ⟨reportAnswer_known hs, allKnown_nil⟩
  | queue_account => exact queue_account_step_known hs
  | queue_game => exact queue_game_step_known hs
  | queue_cooldown => exact queue_cooldown_step_known hs
  | queue_waiting => exact queue_waiting_step_known hs
  | queue_blocks => exact queue_blocks_step_known hs
  | queue_ticket => exact queue_ticket_step_known hs
  | queue_push => exact queue_push_step_known hs
  | queue_pools => exact queue_pools_step_known hs
  | queue_remove => exact queue_remove_step_known hk
  | queue_answer => exact queue_answer_step_known hk
  | settle_declined => exact settle_declined_step_known hs
  | settle_notify => exact settle_notify_step_known hs
  | requeue_if_here => exact requeue_if_here_step_known hs
  | take_expired => exact take_expired_step_known hk
  | run_pairing => exact run_pairing_step_known hk
  | status_push => exact status_push_step_known hk
  | form_match => exact form_match_step_known hs
  | form_match_room => exact form_match_room_step_known hs
  | form_match_gone => exact form_match_gone_step_known hs
  | form_match_joined => exact form_match_joined_step_known hs

end

/-! ## The known in a run -/

/-- Whom a section seats is known. -/
lemma Section.known.of_seats {strict : Prop} {srv : Server} {w : World} {s : Section}
    (h : s.known strict srv w) {q} (hq : q ∈ s.seats) : Known srv w q := by
  cases s with
  | create_insert | join_seat =>
    rw [List.mem_singleton.mp hq]
    exact h
  | form_match_room plan =>
    simp only [Section.seats, List.mem_cons, List.not_mem_nil, or_false] at hq
    rcases hq with rfl | rfl
    · exact h.1
    · exact h.2
  | _ => cases hq

/-- The grants of a hub after a section are old, or one to a client that is known. -/
lemma HubChange.grant_back {strict : Prop} {srv o w s g'} (h : HubChange srv o w s g')
    (hs : s.known strict srv w) (hk : HubKnown srv w) : ∀ k ∈ g'.probe_grants, Known srv w k.1 := by
  cases h with
  | keep keeps => exact fun k hmem => hk.grants k (keeps.grants k hmem)
  | grant hop keeps =>
    intro k hmem
    rcases (AList.mem_insert _).mp hmem with rfl | hmem
    · exact hs.resolve_right (by simp [hop, ClientOp.open_to_guests])
    · exact hk.grants k (keeps.grants k hmem)
  | _ => exact hk.grants

/-- A section keeps the world's ids known. -/
lemma HubKnown.exec {strict : Prop} {srv s o w} (hk : HubKnown srv w) (hb : w.Basic)
    (hs : s.known strict srv w) : HubKnown srv (exec srv s o w).1 := by
  have change := exec_change srv s o hb.sized
  have stays : ∀ q, Known srv w q → Known srv (RecompNet.exec srv s o w).1 q :=
    fun q h => h.exec hb
  constructor
  · intro lid l' hl' m hm
    rcases change.member_back hb.sized hl' hm with ⟨l, hl, hm⟩ | hm
    · exact stays m (hk.members lid l hl m hm)
    · exact stays m (hs.of_seats hm)
  · intro lid l' hl'
    rcases change.lobby_back hl' with ⟨l, hl, f⟩ | ⟨p, ip, msg, rfl, -, rfl⟩ |
      ⟨plan, -, -, -, -, -, rfl⟩
    · rw [f.host]
      exact stays _ (hk.host lid l hl)
    · exact stays p hs
    · exact stays "" (known_nobody hb)
  · intro q c' hc' hn
    rcases change.noted_back hc' hn with ⟨c, hc, hn⟩ | hq | ⟨lid, mods, xfer, rfl⟩
    · exact stays q (hk.clients q c hc hn)
    · exact stays q (hs.of_seats hq)
    · exact stays q hs
  · exact fun k hmem => stays k.1 (change.grant_back hs hk k hmem)
  · intro x hx
    rcases mem_roll_exec hx with hx | ⟨t, rfl | ⟨req, rfl⟩, rfl⟩
    · exact stays x.2 (hk.queue x hx)
    · exact stays _ hs
    · exact stays _ hs
  · intro lid task ht
    rcases spawned_exec ht with ht | ⟨old, rfl | ⟨lid', ice, code, rfl⟩, ha, hb'⟩
    · exact ⟨stays _ (hk.spawned lid task ht).1, stays _ (hk.spawned lid task ht).2⟩
    · exact ⟨ha ▸ stays _ hs.1, hb' ▸ stays _ hs.2⟩
    · exact ⟨ha ▸ stays _ hs.1, hb' ▸ stays _ hs.2⟩

/-- An event keeps the world's ids known. -/
lemma HubKnown.apply {srv w} {e : Event} (hk : HubKnown srv w) (he : e.enabled w) :
    HubKnown srv (e.apply srv w) := by
  have stays : ∀ q, Known srv w q → Known srv (e.apply srv w) q := fun q h => h.apply he
  constructor
  · rw [apply_lobbies]
    exact fun lid l hl m hm => stays m (hk.members lid l hl m hm)
  · rw [apply_lobbies]
    exact fun lid l hl => stays _ (hk.host lid l hl)
  · intro q c' hc' hn
    rcases apply_client_back hc' with hc | ⟨ip, -, rfl⟩
    · exact stays q (hk.clients q c' hc hn)
    · rcases hn with hn | hn <;> cases hn
  · intro k hmem
    have same : (e.apply srv w).hub.probe_grants = w.hub.probe_grants := by
      cases e with
      | ws_ping p => exact congrArg HubInner.probe_grants (World.send_hub w p _)
      | _ => rfl
    rw [same] at hmem
    exact stays k.1 (hk.grants k hmem)
  · rw [apply_automatch]
    exact fun x hx => stays x.2 (hk.queue x hx)
  · intro lid task ht
    have old : w.spawned.lookup lid = some task := by
      cases e with
      | wake lid' => exact (lookup_erase_back ht).2
      | ws_ping p => exact World.send_spawned w p .empty ▸ ht
      | _ => exact ht
    exact ⟨stays _ (hk.spawned lid task old).1, stays _ (hk.spawned lid task old).2⟩

/-- The sections that an event starts speak to the known. -/
lemma body_known {strict : Prop} {srv w} {e : Event} (hk : HubKnown srv w) (hb : w.Basic)
    (he : e.enabled w) : AllKnown strict srv w (e.body w) := by
  cases e with
  | text p msg => simpa [Event.body] using (hb.client_issued p he).2
  | wake lid =>
    simp only [Event.body, allKnown_map, Option.mem_toList]
    intro task ht
    exact hk.spawned lid task ht
  | _ => simp [Event.body]

/-- In every run whose steps keep guests apart, as far as that is asked for, the ids that the world and
the pending sections carry are known. -/
theorem HubRun.known {strict : Prop} {srv c tr} (r : HubRun srv c tr)
    (hg : ∀ l ∈ tr, strict → GuestsApart srv l) :
    HubKnown srv c.world ∧ Holds (fun w _ s => s.known strict srv w) c := by
  refine r.invariant (P := fun l => strict → GuestsApart srv l)
    (I := fun c _ => HubKnown srv c.world ∧ Holds (fun w _ s => s.known strict srv w) c)
    ?_ ?_ hg
  · refine ⟨?_, Holds.start _⟩
    constructor <;> simp [hubMachine, QueueInner.roll, QueueInner.sides]
  · rintro c tr l c' r ⟨hk, hp⟩ hl st
    have hb := HubRun.basic r
    cases st with
    | @run t s rest o e _ =>
      have hs := hp t s (e ▸ List.mem_cons_self)
      have mono : ∀ s' : Section, s'.known strict srv c.world →
          s'.known strict srv (exec srv s o c.world).1 :=
        fun s' h => h.mono exec_issued (fun _ h => h.exec hb) fun _ _ _ _ h => h.exec hb
      refine ⟨hk.exec hb hs, Holds.run hp e ?_ ?_⟩
      · exact fun _ s' _ h => mono s' h
      · exact fun s' hs' => mono s' (exec_passes hk hs hl s' hs')
    | @event e _ he =>
      have known : ∀ q, Known srv c.world q → Known srv (e.apply srv c.world) q :=
        fun _ h => h.apply he
      refine ⟨hk.apply he, Holds.event hp ?_ ?_⟩
      · intro t' s' hs' h
        refine h.mono apply_issued known ?_
        rintro hst q m rfl safe
        apply safe.apply
        rintro ip rfl
        exact hl hst t' m hs'
      · intro s' hs'
        have h : s'.known strict srv c.world := body_known hk hb he s' hs'
        refine h.mono apply_issued known ?_
        rintro - q m rfl
        cases e <;> simp [hubMachine, Event.body] at hs'

/-- Guests aside, whatever a run carries is known. -/
theorem HubRun.all_known {srv c tr} (r : HubRun srv c tr) :
    HubKnown srv c.world ∧ Holds (fun w _ s => s.known False srv w) c :=
  HubRun.known r fun _ _ => False.elim

end RecompNet
