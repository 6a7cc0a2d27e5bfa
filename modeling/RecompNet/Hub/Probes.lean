import RecompNet.Hub.Basics
import RecompNet.Hub.Calls
import RecompNet.Hub.Origin

/-!
# Probes of a listed room

A `probe_signal` travels between a browser and the host of a room it could see in the list
(`handle_probe_signal`). The browser's probe leaves a grant, and the host's answer needs one: the
grants of a run are earned by its earlier probes, and those of one client stay within their number.
-/

namespace RecompNet

open Section Interleave

/-- The grants that are still open. -/
def openGrants (now : Instant) (g : HubInner) : Assoc.Map (String × String) Instant :=
  g.probe_grants.retain fun _ since => now - since < PROBE_GRANT_TTL

/-- How many open grants a client has. -/
def World.openGrantsOf (w : World) (p : String) : Nat :=
  (openGrants w.now w.hub).keys.countP (·.1 = p)

/-- A client may probe this room. -/
structure MayProbe (g : HubInner) (l : Lobby) (p : String) : Prop where
  seatless : l.seat_of p = none
  apart : blocked_between g p l.host_player_id = false
  listed : l.automatch = false
  waiting : l.started = false
  free : l.password_hash = none

/-! ## What one probe does -/

/-- A token is no part of a block. -/
lemma takeToken_blocked {now g p a b} :
    blocked_between (takeToken now g p).1 a b = blocked_between g a b := by
  unfold takeToken
  split
  · rfl
  · simp only [blocked_between, HubInner.setClient, Assoc.Map.lookup_modify]
    split_ifs <;> cases g.clients.lookup a <;> cases g.clients.lookup b <;> rfl

/-- What a probe does to the grants, and what it sends. -/
inductive Probed (now : Instant) (g : HubInner) (p : String) : HubStep → Prop where
  | dropped {g'} :
    g'.probe_grants = g.probe_grants ∨ g'.probe_grants = openGrants now g →
    Probed now g p (g', [])
  /-- The host answers a browser that has an open grant. -/
  | answered {g' l dest since f} :
    g.lobbies.lookup f.lobby_id = some l →
    l.host_player_id = p →
    f.from_player_id = p →
    (openGrants now g).lookup (dest, f.lobby_id) = some since →
    g'.probe_grants = openGrants now g →
    Probed now g p (g', [send_to dest (.probe_signal f)])
  /-- A browser probes the host, and gets a grant. -/
  | asked {g' l f} :
    g.lobbies.lookup f.lobby_id = some l →
    f.from_player_id = p →
    MayProbe g l p →
    (p, f.lobby_id) ∈ openGrants now g ∨
      (openGrants now g).keys.countP (·.1 = p) < PROBE_GRANTS_PER_CLIENT →
    g'.probe_grants = (openGrants now g).insert (p, f.lobby_id) now →
    Probed now g p (g', [send_to l.host_player_id (.probe_signal f)])

lemma handle_probe_signal_probed {now g p msg} :
    Probed now g p (handle_probe_signal now g p msg) := by
  unfold handle_probe_signal
  split
  · exact .dropped (.inl rfl)
  · rename_i lid _
    dsimp only
    split
    · exact .dropped (.inl rfl)
    · split
      · exact .dropped (.inl takeToken_grants)
      · simp only [takeToken_lobbies, takeToken_grants]
        split
        · exact .dropped (.inr rfl)
        · rename_i l hl
          split
          · rename_i host
            split
            · rename_i granted
              obtain ⟨since, hs⟩ := Option.isSome_iff_exists.mp granted
              exact .answered hl host rfl hs rfl
            · exact .dropped (.inr rfl)
          · split
            · exact .dropped (.inr rfl)
            · rename_i closed
              simp only [probeClosed, Bool.or_eq_true, not_or, Bool.not_eq_true,
                Bool.and_eq_false_iff, Bool.not_eq_false', decide_eq_false_iff_not,
                not_le] at closed
              obtain ⟨⟨⟨⟨⟨auto, started⟩, free⟩, seat⟩, cap⟩, apart⟩ := closed
              have may : MayProbe g l p := by
                refine ⟨?_, ?_, auto, started, ?_⟩
                · exact Option.not_isSome_iff_eq_none.mp (ne_true_of_eq_false seat)
                · exact takeToken_blocked.symm.trans apart
                · exact Option.not_isSome_iff_eq_none.mp (ne_true_of_eq_false free)
              exact .asked hl rfl may (cap.imp AList.lookup_isSome.mp id) rfl

lemma dispatch_probed {srv o now g p ip msg} (op : msg.op = .probe_signal) :
    Probed now g p (dispatch_step srv o now g p ip msg) := by
  unfold dispatch_step
  rw [op]
  exact handle_probe_signal_probed

/-! ## Only a probe touches the grants -/

@[simp] lemma grants_setClient (g : HubInner) (p : String) (f : ClientMeta → ClientMeta) :
    (g.setClient p f).probe_grants = g.probe_grants := rfl

@[simp] lemma grants_setLobby (g : HubInner) (lid : String) (f : Lobby → Lobby) :
    (g.setLobby lid f).probe_grants = g.probe_grants := rfl

@[simp] lemma grants_recordTitle (g : HubInner) (p : String) (game : Option String) :
    (g.recordTitle p game).probe_grants = g.probe_grants := by
  unfold HubInner.recordTitle
  split <;> rfl

lemma apply_identity_grants {g p name game fallback} :
    (apply_identity g p name game fallback).1.probe_grants = g.probe_grants := by
  unfold apply_identity
  dsimp only
  split
  · split <;> rfl
  · rfl

lemma joinOutcome_grants {srv o g p ip lid msg} :
    (joinOutcome srv o g p ip lid msg).1.probe_grants = g.probe_grants := by
  have ends := join_ends srv o g p ip lid msg
  generalize joinOutcome srv o g p ip lid msg = out at ends ⊢
  cases ends <;> rfl

/-- The other handlers leave the grants alone. -/
lemma dispatch_grants {srv o now g p ip msg} (hop : msg.op ≠ .probe_signal) :
    (dispatch_step srv o now g p ip msg).1.probe_grants = g.probe_grants := by
  unfold dispatch_step
  cases op : msg.op with
  | probe_signal => exact absurd op hop
  | ping | get_turn_credentials | desync_report | other | leave | automatch_cancel
  | automatch_accept | mod_xfer_cancel | set_blocks | automatch_rulesets | automatch_rtt => rfl
  | list => exact grants_recordTitle _ _ _
  | hello | create | join | set_ready | move | seat_move | seat_swap_answer | seat_swap_request =>
    dsimp only [handle_hello, handle_create, handle_join, handle_set_ready, handle_move,
      handle_seat_move, handle_seat_swap_answer, handle_seat_swap_request, refuse]
    repeat' split
    all_goals rfl
  | kick | path_report | set_match_caps | set_host_endpoint | start | close =>
    dsimp only [handle_kick, handle_path_report, handle_set_match_caps, handle_set_host_endpoint,
      handle_start, handle_close, refuse]
    repeat' split
    all_goals rfl
  | chat | server_chat | signal =>
    dsimp only [handle_chat, handle_server_chat, handle_signal, takeToken, refuse]
    repeat' split
    all_goals simp
  | mod_signal | mod_xfer_start | mod_xfer_fail | automatch_queue | chat_report =>
    dsimp only [handle_mod_signal, handle_mod_xfer_start, handle_mod_xfer_fail,
      handle_automatch_queue, handle_chat_report, refuse]
    repeat' split
    all_goals rfl

/-- Only the handler of a probe touches the grants. -/
theorem exec_grants {srv s o w} (h : ∀ p ip msg, s = dispatch p ip msg → msg.op ≠ .probe_signal) :
    (exec srv s o w).1.hub.probe_grants = w.hub.probe_grants := by
  have off : s.off_hub → (exec srv s o w).1.hub.probe_grants = w.hub.probe_grants := by
    intro h
    obtain ⟨q, st, sp, e⟩ := exec_off_hub h
    rw [e]
  cases s with
  | dispatch p ip msg => exact dispatch_grants (h p ip msg rfl)
  | send_to p m => exact congrArg HubInner.probe_grants (World.send_hub w p m)
  | emit_lobby_update | chat_system | destroy_lobby | start_reason | list_tick =>
    simp only [exec, World.lift, emit_lobby_update_step, chat_system_step, destroy_lobby_step,
      start_reason_step, list_tick_step, refuse]
    split <;> rfl
  | client_leave | handle_text | hello_session | start_prepare | start_commit =>
    simp only [exec, World.lift, client_leave_step, handle_text_step, hello_session_step,
      start_prepare_step, start_commit_step, refuse]
    repeat' split
    all_goals rfl
  | welcome p =>
    simp only [exec, welcome_step]
    split
    · exact congrArg HubInner.probe_grants (World.send_hub w p _)
    · rfl
  | hello_identity p name game =>
    refine Eq.trans ?_ (@apply_identity_grants w.hub p name game o.uuid)
    exact congrArg HubInner.probe_grants (hello_identity_step_hub srv o w.hub p name game)
  | join_seat p ip lid msg =>
    exact (congrArg HubInner.probe_grants (join_seat_step_hub ..)).trans joinOutcome_grants
  | form_match_room plan =>
    simp only [exec, form_match_room_step]
    split_ifs <;> rfl
  | start_failed | queue_account | queue_cooldown | queue_waiting | queue_ticket | queue_pools
  | queue_remove | queue_answer | settle_declined | record_strike | requeue_if_here
  | form_match => exact off rfl
  | _ => rfl

/-- Events leave the grants alone. -/
lemma apply_grants (srv : Server) (w : World) (e : Event) :
    (e.apply srv w).hub.probe_grants = w.hub.probe_grants := by
  cases e with
  | ws_ping p => exact congrArg HubInner.probe_grants (World.send_hub w p _)
  | _ => rfl

/-! ## Grants are earned -/

/-- In this step a client passed a `probe_signal` on to `q`. -/
def PassesProbe (srv : Server) (q : String) (f : SignalFrame) (l : HubLabel) : Prop :=
  ∃ ip msg o pre, l = .ran (.conn f.from_player_id) (dispatch f.from_player_id ip msg) o pre ∧
    msg.op = .probe_signal ∧
    send_to q (.probe_signal f) ∈ (exec srv (dispatch f.from_player_id ip msg) o pre.world).2

/-- A client probed the host of a room in an earlier step, and the room still has that host. -/
structure Earned (srv : Server) (w : World) (tr : List HubLabel) (b lid : String)
    (since : Instant) : Prop where
  past : since ≤ w.now
  drawn : lid ∈ w.issued
  asked : ∃ l ∈ tr, ∃ f room, PassesProbe srv room.host_player_id f l ∧ f.from_player_id = b ∧
    f.lobby_id = lid ∧ l.pre.world.now = since ∧ l.pre.world.hub.lobbies.lookup lid = some room ∧
    ∀ room', w.hub.lobbies.lookup lid = some room' → room'.host_player_id = room.host_player_id

/-- A room whose id was drawn keeps its host. -/
lemma host_exec {srv s o w lid room} (basic : World.Basic w) (ho : o.possible w)
    (drawn : lid ∈ w.issued) (hl : (exec srv s o w).1.hub.lobbies.lookup lid = some room) :
    ∃ old, w.hub.lobbies.lookup lid = some old ∧ room.host_player_id = old.host_player_id := by
  rcases (exec_change srv s o basic.sized).lobby_back hl with
    ⟨old, hold, frame⟩ | ⟨p, ip, msg, -, rfl, -⟩ | ⟨plan, -, -, -, -, rfl, -⟩
  · exact ⟨old, hold, frame.host⟩
  · exact absurd drawn ho.2.1
  · exact absurd drawn ho.2.1

/-- What was earned stays earned. -/
lemma Earned.step {srv c tr l c' b lid since} (h : Earned srv c.world tr b lid since)
    (r : HubRun srv c tr) (st : Step (hubMachine srv) c l c') :
    Earned srv c'.world (l :: tr) b lid since := by
  have basic := HubRun.basic r
  obtain ⟨past, drawn, l0, hl0, f, room, passes, hb, hlid, at_, hroom, hosted⟩ := h
  have later := List.mem_cons_of_mem l hl0
  cases st with
  | @run t s rest o e ho =>
    refine ⟨past.trans exec_now.ge, exec_issued drawn, l0, later, f, room, passes, hb, hlid, at_,
      hroom, ?_⟩
    intro room' hl'
    obtain ⟨old, hold, same⟩ := host_exec basic ho drawn hl'
    exact same.trans (hosted old hold)
  | @event e _ _ =>
    refine ⟨past.trans apply_now, apply_issued drawn, l0, later, f, room, passes, hb, hlid, at_,
      hroom, ?_⟩
    intro room' hl'
    have same : (e.apply srv c.world).hub.lobbies = c.world.hub.lobbies := apply_lobbies srv _ e
    exact hosted room' (same ▸ hl')

/-- Only a probe adds to the grants, and only to its sender's. -/
lemma grants_back {srv s o w k since}
    (h : (exec srv s o w).1.hub.probe_grants.lookup k = some since) :
    w.hub.probe_grants.lookup k = some since ∨
      ∃ p ip msg f l, s = dispatch p ip msg ∧ msg.op = .probe_signal ∧
        send_to l.host_player_id (.probe_signal f) ∈ (exec srv s o w).2 ∧ f.from_player_id = p ∧
        w.hub.lobbies.lookup f.lobby_id = some l ∧ k = (p, f.lobby_id) ∧ since = w.now := by
  by_cases probe : ∃ p ip msg, s = dispatch p ip msg ∧ msg.op = .probe_signal
  · obtain ⟨p, ip, msg, rfl, op⟩ := probe
    have outcome := @dispatch_probed srv o w.now w.hub p ip msg op
    have kept : (openGrants w.now w.hub).lookup k = some since →
        w.hub.probe_grants.lookup k = some since := fun h => (Assoc.Map.lookup_retain.mp h).1
    simp only [exec, World.lift] at h ⊢
    generalize dispatch_step srv o w.now w.hub p ip msg = x at outcome h ⊢
    cases outcome with
    | dropped same =>
      left
      rcases same with same | same
      · exact same ▸ h
      · exact kept (same ▸ h)
    | answered _ _ _ _ same => exact .inl (kept (same ▸ h))
    | @asked g' l f hl hp _ _ same =>
      replace h : g'.probe_grants.lookup k = some since := h
      rw [same] at h
      by_cases key : k = (p, f.lobby_id)
      · rw [key, AList.lookup_insert] at h
        exact .inr ⟨p, ip, msg, f, l, rfl, op, List.mem_singleton_self _, hp, hl, key,
          (Option.some.inj h).symm⟩
      · rw [AList.lookup_insert_ne key] at h
        exact .inl (kept h)
  · left
    rw [exec_grants fun p ip msg e op => probe ⟨p, ip, msg, e, op⟩] at h
    exact h

/-- Every grant of a run is earned. -/
theorem HubRun.grants_earned {srv c tr} (r : HubRun srv c tr) : ∀ b lid since,
    c.world.hub.probe_grants.lookup (b, lid) = some since → Earned srv c.world tr b lid since := by
  induction r with
  | start =>
    intro b lid since h
    cases h
  | @step c tr l c' r st ih =>
    intro b lid since h
    have basic := HubRun.basic r
    cases st with
    | @run t s rest o e ho =>
      rcases grants_back h with h | ⟨p, ip, msg, f, room, rfl, op, passed, rfl, hl, key, rfl⟩
      · exact (ih b lid since h).step r (.run e ho)
      · obtain ⟨rfl, rfl⟩ := Prod.mk.inj key
        have own : t = .conn f.from_player_id :=
          HubRun.actor_task r t _ (e ▸ List.mem_cons_self) _ rfl
        subst own
        have drawn := basic.lobby_issued _ room hl
        refine ⟨exec_now.ge, exec_issued drawn, _, List.mem_cons_self, f, room,
          ⟨ip, msg, o, c, rfl, op, passed⟩, rfl, rfl, rfl, hl, ?_⟩
        intro room' hl'
        obtain ⟨old, hold, same⟩ := host_exec basic ho drawn hl'
        obtain rfl := Option.some.inj (hl.symm.trans hold)
        exact same
    | @event e idle en =>
      have same : (e.apply srv c.world).hub.probe_grants = c.world.hub.probe_grants :=
        apply_grants srv _ e
      exact (ih b lid since (same ▸ h)).step r (.event idle en)

/-! ## Grants are few -/

/-- Grants only close as time passes. -/
lemma openGrants_sublist {now now' : Instant} {g : HubInner} (h : now ≤ now') :
    (openGrants now' g).keys.Sublist (openGrants now g).keys := by
  refine List.Sublist.map Sigma.fst (List.monotone_filter_right _ fun e young => ?_)
  have young := of_decide_eq_true young
  exact decide_eq_true ((Nat.sub_le_sub_right h _).trans_lt young)

/-- No grants but the open ones are among the open ones. -/
lemma openGrants_all (now : Instant) (g : HubInner) :
    (openGrants now g).keys.Sublist g.probe_grants.keys :=
  List.filter_sublist.map Sigma.fst

/-- Granting anew what is granted already adds no key. -/
lemma keys_insert_old {m : Assoc.Map (String × String) Instant} {k since} (old : k ∈ m) :
    (m.insert k since).keys.Subperm m.keys := by
  refine List.subperm_of_subset (m.insert k since).keys_nodup fun k' hk' => ?_
  rcases (AList.mem_insert _).mp (AList.mem_keys.mpr hk') with rfl | hk'
  · exact AList.mem_keys.mp old
  · exact AList.mem_keys.mp hk'

/-- A new grant is counted for its client alone. -/
lemma countP_insert {m : Assoc.Map (String × String) Instant} {p q lid : String} {since : Instant}
    (few : ∀ q, m.keys.countP (·.1 = q) ≤ PROBE_GRANTS_PER_CLIENT)
    (cap : (p, lid) ∈ m ∨ m.keys.countP (·.1 = p) < PROBE_GRANTS_PER_CLIENT) :
    (m.insert (p, lid) since).keys.countP (·.1 = q) ≤ PROBE_GRANTS_PER_CLIENT := by
  by_cases old : (p, lid) ∈ m
  · exact ((keys_insert_old old).countP_le _).trans (few q)
  · have added : (m.insert (p, lid) since).keys = (p, lid) :: m.keys := by
      rw [AList.keys, AList.entries_insert_of_notMem old]
      rfl
    rw [added, List.countP_cons]
    by_cases own : p = q
    · subst own
      rw [if_pos (decide_eq_true rfl)]
      exact cap.resolve_left old
    · rw [if_neg (by simpa using own)]
      exact few q

/-- A section leaves every client with few open grants. -/
lemma openGrants_exec {srv s o w} (few : ∀ q, w.openGrantsOf q ≤ PROBE_GRANTS_PER_CLIENT)
    (q : String) :
    (exec srv s o w).1.openGrantsOf q ≤ PROBE_GRANTS_PER_CLIENT := by
  unfold World.openGrantsOf
  rw [exec_now]
  have same : (exec srv s o w).1.hub.probe_grants = w.hub.probe_grants →
      (openGrants w.now (exec srv s o w).1.hub).keys.countP (·.1 = q) ≤
        PROBE_GRANTS_PER_CLIENT := by
    intro h
    rw [openGrants, h]
    exact few q
  by_cases probe : ∃ p ip msg, s = dispatch p ip msg ∧ msg.op = .probe_signal
  · obtain ⟨p, ip, msg, rfl, op⟩ := probe
    have outcome := @dispatch_probed srv o w.now w.hub p ip msg op
    simp only [exec, World.lift] at same ⊢
    have pruned : ∀ {g' : HubInner}, g'.probe_grants = openGrants w.now w.hub →
        (openGrants w.now g').keys.countP (·.1 = q) ≤ PROBE_GRANTS_PER_CLIENT := by
      intro g' e
      refine ((openGrants_all w.now g').countP_le).trans ?_
      rw [e]
      exact few q
    generalize dispatch_step srv o w.now w.hub p ip msg = x at outcome same ⊢
    cases outcome with
    | dropped kept => exact kept.elim same pruned
    | answered _ _ _ _ kept => exact pruned kept
    | @asked g' l f _ _ _ cap kept =>
      refine ((openGrants_all w.now g').countP_le).trans ?_
      rw [kept]
      exact countP_insert few cap
  · exact same (exec_grants fun p ip msg e op => probe ⟨p, ip, msg, e, op⟩)

/-- No client of a run has more than its share of open grants. -/
theorem HubRun.openGrants_few {srv c tr} (r : HubRun srv c tr) :
    ∀ q, c.world.openGrantsOf q ≤ PROBE_GRANTS_PER_CLIENT := by
  induction r with
  | start => exact fun q => Nat.zero_le _
  | @step c tr l c' r st ih =>
    cases st with
    | @run t s rest o e ho => exact openGrants_exec ih
    | @event e idle en =>
      intro q
      have later : c.world.now ≤ (e.apply srv c.world).now := apply_now
      have same : (e.apply srv c.world).hub.probe_grants = c.world.hub.probe_grants :=
        apply_grants srv _ e
      show (openGrants _ (e.apply srv c.world).hub).keys.countP _ ≤ _
      rw [openGrants, same]
      exact ((openGrants_sublist later).countP_le).trans (ih q)

/-! ## Every probe of a run -/

/-- A probe comes from a handler of its sender. -/
lemma HubRun.probe_origin {srv c tr} (r : HubRun srv c tr) {q f}
    (h : (q, .probe_signal f) ∈ c.world.sent) : ∃ l ∈ tr, PassesProbe srv q f l := by
  obtain ⟨l, hl, hf⟩ := (HubRun.mem_sent r).mp h
  rcases (mem_frames hf).2 with ⟨t, o, pre, rfl⟩ | ⟨t, o, pre, rfl, hb⟩ | hw | ⟨he, -⟩
  · obtain ⟨s, o', pre', hs, hmem⟩ := HubRun.ran_inner r hl rfl
    have called : SectionKind.send_to .probe_signal ∈ s.calls := exec_calls _ hmem
    cases s with
    | dispatch p ip msg =>
      obtain rfl : t = .conn p := HubRun.ran_actor r hs rfl
      have op : msg.op = .probe_signal := by
        simp only [Section.calls] at called
        cases op : msg.op <;> rw [op] at called <;> simp at called
      have outcome := @dispatch_probed srv o' pre'.world.now pre'.world.hub p ip msg op
      have sender : f.from_player_id = p := by
        simp only [exec, World.lift] at hmem
        generalize dispatch_step srv o' pre'.world.now pre'.world.hub p ip msg = x at outcome hmem
        cases outcome with
        | dropped => cases hmem
        | answered _ _ hp | asked _ hp =>
          cases List.mem_singleton.mp hmem
          exact hp
      subst sender
      exact ⟨_, hs, ip, msg, o', pre', rfl, op, hmem⟩
    | _ => simp at called
  · obtain ⟨id, -, e⟩ := List.mem_map.mp hb
    cases e
  · cases hw
  · cases he

/-- The host of a room answers a client that asked it not long before. -/
def Answers (srv : Server) (l : HubLabel) (earlier : List HubLabel) (q : String) (f : SignalFrame)
    (room : Lobby) : Prop :=
  f.from_player_id = room.host_player_id ∧ ∃ l' ∈ earlier, ∃ f' room',
    PassesProbe srv room.host_player_id f' l' ∧ f'.from_player_id = q ∧ f'.lobby_id = f.lobby_id ∧
    l'.pre.world.hub.lobbies.lookup f.lobby_id = some room' ∧
    room'.host_player_id = room.host_player_id ∧ l'.pre.world.now ≤ l.pre.world.now ∧
    l.pre.world.now - l'.pre.world.now < PROBE_GRANT_TTL

/-- A client asks the host of a room that it may probe. -/
def Asks (l : HubLabel) (q : String) (f : SignalFrame) (room : Lobby) : Prop :=
  q = room.host_player_id ∧ MayProbe l.pre.world.hub room f.from_player_id

/-- What a step passes on is a question or an answer. -/
lemma HubRun.probe_passed {srv c tr} (r : HubRun srv c tr) {q f later l earlier}
    (at_ : tr = later ++ l :: earlier) (passes : PassesProbe srv q f l) :
    ∃ room, l.pre.world.hub.lobbies.lookup f.lobby_id = some room ∧
      (Answers srv l earlier q f room ∨ Asks l q f room) := by
  obtain ⟨rpre, -⟩ := r.pre_reached l later earlier at_
  obtain ⟨ip, msg, o, pre, rfl, op, hmem⟩ := passes
  have outcome := @dispatch_probed srv o pre.world.now pre.world.hub f.from_player_id ip msg op
  simp only [exec, World.lift] at hmem
  generalize dispatch_step srv o pre.world.now pre.world.hub f.from_player_id ip msg = x
    at outcome hmem
  cases outcome with
  | dropped => cases hmem
  | @answered _ room _ since _ hl host _ granted _ =>
    cases List.mem_singleton.mp hmem
    obtain ⟨granted, young⟩ := Assoc.Map.lookup_retain.mp granted
    obtain ⟨past, -, l', hl', f', room', passes', hb, hlid, rfl, hroom', hosted⟩ :=
      HubRun.grants_earned rpre q f.lobby_id since granted
    have same := hosted room hl
    exact ⟨room, hl, .inl ⟨host.symm, l', hl', f', room', same ▸ passes', hb, hlid, hroom',
      same.symm, past, of_decide_eq_true young⟩⟩
  | @asked _ room _ hl _ may _ _ =>
    cases List.mem_singleton.mp hmem
    exact ⟨room, hl, .inr ⟨rfl, may⟩⟩

/-- **Probes.** Every probe delivered answers one that its receiver had sent to the same host, or
asks the host of a room that its sender may probe; and no client ever has more grants than its
share. -/
theorem probe_signals {srv c tr} (r : HubRun srv c tr) :
    (∀ q f, (q, .probe_signal f) ∈ c.world.sent → ∃ later l earlier room,
      tr = later ++ l :: earlier ∧ PassesProbe srv q f l ∧
      l.pre.world.hub.lobbies.lookup f.lobby_id = some room ∧
      (Answers srv l earlier q f room ∨ Asks l q f room)) ∧
    ∀ s ∈ visited c tr, ∀ p, s.world.openGrantsOf p ≤ PROBE_GRANTS_PER_CLIENT := by
  constructor
  · intro q f h
    obtain ⟨l, hl, passes⟩ := HubRun.probe_origin r h
    obtain ⟨later, earlier, at_⟩ := List.append_of_mem hl
    obtain ⟨room, hroom, why⟩ := HubRun.probe_passed r at_ passes
    exact ⟨later, l, earlier, room, at_, passes, hroom, why⟩
  · intro s hs p
    obtain ⟨tr', r'⟩ := r.visited_reached hs
    exact HubRun.openGrants_few r' p

/-- Was this probe put on the channel of `q`? -/
def probeSent (w : World) (q : String) (f : SignalFrame) : Bool :=
  w.sent.any fun x => match x with
    | (q', .probe_signal f') => q' = q && f' = f
    | _ => false

lemma probeSent_sound {w : World} {q f} (h : probeSent w q f) : (q, .probe_signal f) ∈ w.sent := by
  obtain ⟨⟨q', m⟩, hx, h⟩ := List.any_eq_true.mp h
  cases m with
  | probe_signal f' =>
    simp only [Bool.and_eq_true, decide_eq_true_eq] at h
    obtain ⟨rfl, rfl⟩ := h
    exact hx
  | _ => cases h

/-- Bob probes Alice's room, and Alice answers. -/
theorem probe_signals_answered : ∃ c tr p q lid ask answer, HubRun sampleServer c tr ∧
    (p, .probe_signal ⟨lid, q, 1, 0, ask⟩) ∈ c.world.sent ∧
    (q, .probe_signal ⟨lid, p, 2, 0, answer⟩) ∈ c.world.sent ∧
    ∃ later l earlier room, tr = later ++ l :: earlier ∧
      PassesProbe sampleServer q ⟨lid, p, 2, 0, answer⟩ l ∧
      l.pre.world.hub.lobbies.lookup lid = some room ∧
      (Answers sampleServer l earlier q ⟨lid, p, 2, 0, answer⟩ room ∨
        Asks l q ⟨lid, p, 2, 0, answer⟩ room) := by
  let p := "6b0f1e52-3c1d-4a86-9a53-0d5f6f1c2a11"
  let q := "c4d1c1a0-5f0e-4a53-8d43-9f4b1f7f3b22"
  let lid := "1f8a9f0e-7d2b-4b57-8f6f-2f6f2b0c9d01"
  let o := draw "9b1deb4d-3b7d-4bad-9bdd-2b0d7b3dcb6d"
  let probe : InMsg := { op := .probe_signal, lobby_id := some lid, to_player_id := some q }
  let ms := signIn p alice o ++ [say p { op := .create }] ++ steps (.conn p) 3 (draw lid) ++
    steps (.conn p) 2 o ++ signIn q bob o ++
    [say q { probe with type := some 1, text := some "offer" }] ++ steps (.conn q) 3 o ++
    [say p { probe with type := some 2, text := some "answer" }] ++ steps (.conn p) 3 o
  have h : ((hubMachine sampleServer).follow ms).any fun x =>
      probeSent x.1.world p ⟨lid, q, 1, 0, "offer"⟩ &&
        probeSent x.1.world q ⟨lid, p, 2, 0, "answer"⟩ := by decide
  obtain ⟨c, tr, r, ht, -⟩ := Machine.follow_reaches h
  obtain ⟨asked, answered⟩ := (Bool.and_eq_true _ _).mp ht
  have answered := probeSent_sound answered
  exact ⟨c, tr, p, q, lid, "offer", "answer", r, probeSent_sound asked, answered,
    (probe_signals r).1 q _ answered⟩

end RecompNet
