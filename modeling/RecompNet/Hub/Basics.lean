import RecompNet.Hub.Change

/-!
# What every run keeps

Facts of every reachable world: clients and rooms are stored under their own ids, ids come from the uuids
that were drawn, no connection is called "", and no seat table is longer than the players' index
namespace. `HubChange.client_back` and `HubChange.lobby_back` say where an entry of the hub comes from:
no section adds a connection, and a room is an old one in new order or one that was just made.
-/

namespace RecompNet

open Section Interleave

/-- A rewritten row is an old row, or the rewriting of one. -/
lemma lookup_setClient_back {g : HubInner} {p q : String} {f : ClientMeta → ClientMeta} {c'}
    (h : (g.setClient p f).clients.lookup q = some c') :
    ∃ c, g.clients.lookup q = some c ∧ (q ≠ p ∧ c' = c ∨ q = p ∧ c' = f c) := by
  rw [HubInner.setClient, Assoc.Map.lookup_modify] at h
  split at h
  · rename_i e
    obtain ⟨c, hc, rfl⟩ := Option.map_eq_some_iff.mp h
    exact ⟨c, hc, .inr ⟨e, rfl⟩⟩
  · rename_i e
    exact ⟨c', h, .inl ⟨e, rfl⟩⟩

/-- A rewritten room is an old room, or the rewriting of one. -/
lemma lookup_setLobby_back {g : HubInner} {lid lid' : String} {f : Lobby → Lobby} {l'}
    (h : (g.setLobby lid f).lobbies.lookup lid' = some l') :
    ∃ l, g.lobbies.lookup lid' = some l ∧ (lid' ≠ lid ∧ l' = l ∨ lid' = lid ∧ l' = f l) := by
  rw [HubInner.setLobby, Assoc.Map.lookup_modify] at h
  split at h
  · rename_i e
    obtain ⟨l, hl, rfl⟩ := Option.map_eq_some_iff.mp h
    exact ⟨l, hl, .inr ⟨e, rfl⟩⟩
  · rename_i e
    exact ⟨l', h, .inl ⟨e, rfl⟩⟩

/-- A row rewritten under several keys. -/
lemma lookup_modifyEach_back {m : Assoc.Map String ClientMeta} {ks : List String} {q : String}
    {f : ClientMeta → ClientMeta} {c'} (h : (m.modifyEach ks f).lookup q = some c') :
    ∃ c, m.lookup q = some c ∧ (q ∉ ks ∧ c' = c ∨ q ∈ ks ∧ c' = f c) := by
  rw [Assoc.Map.lookup_modifyEach] at h
  split at h
  · rename_i e
    obtain ⟨c, hc, rfl⟩ := Option.map_eq_some_iff.mp h
    exact ⟨c, hc, .inr ⟨e, rfl⟩⟩
  · rename_i e
    exact ⟨c', h, .inl ⟨e, rfl⟩⟩

/-- What is left after an erasure was there before. -/
lemma lookup_erase_back {α : Type} {m : Assoc.Map String α} {k q : String} {a : α}
    (h : (m.erase k).lookup q = some a) : q ≠ k ∧ m.lookup q = some a := by
  by_cases e : q = k
  · subst e
    rw [AList.lookup_erase] at h
    cases h
  · rw [AList.lookup_erase_ne e] at h
    exact ⟨e, h⟩

/-- What is there after an insertion was there before, or was inserted. -/
lemma lookup_insert_back {α : Type} {m : Assoc.Map String α} {k q : String} {a b : α}
    (h : (m.insert k a).lookup q = some b) : q ≠ k ∧ m.lookup q = some b ∨ q = k ∧ b = a := by
  by_cases e : q = k
  · subst e
    rw [AList.lookup_insert] at h
    exact .inr ⟨rfl, (Option.some.inj h).symm⟩
  · rw [AList.lookup_insert_ne e] at h
    exact .inl ⟨e, h⟩

/-- What a step of the hub makes of a room that stays. -/
inductive RoomChange (srv : Server) (o : Answer) (w : World) (lid : String) (l : Lobby) :
    Section → Lobby → Prop where
  | stay {s l'} :
    l.Shuffles l' →
    RoomChange srv o w lid l s l'
  | report {p ip msg kind} :
    msg.op = .path_report →
    msg.path.bind normalize_ice_path = some kind →
    w.hub.lobby_id_of p = some lid →
    l.slots.any (Lobby.holds p) →
    RoomChange srv o w lid l (dispatch p ip msg) (l.reportPath p kind w.now)
  | sit {p ip msg seat slot ep} :
    freeSeat l = some seat →
    slot.player_id = p →
    RoomChange srv o w lid l (join_seat p ip lid msg) (l.sit seat slot ep)
  | kick {p ip msg seat s} :
    w.hub.lobby_id_of p = some lid →
    l.host_player_id = p →
    l.seat seat = some (some s) →
    s.player_id ≠ l.host_player_id →
    RoomChange srv o w lid l (dispatch p ip msg) (l.kick seat)
  | vacate {p} :
    l.host_player_id ≠ p →
    ¬ (l.automatch ∧ player_count l ≤ 2) →
    RoomChange srv o w lid l (client_leave p) (l.vacate p)

namespace HubChange

variable {srv : Server} {o : Answer} {w : World} {s : Section} {g' : HubInner}

/-- No section adds a connection, and none takes an account away. -/
theorem client_back (h : HubChange srv o w s g') {q c'} (hq : g'.clients.lookup q = some c') :
    ∃ c, w.hub.clients.lookup q = some c ∧ c'.player_id = c.player_id ∧
      (c.account.isSome → c'.account.isSome) := by
  have kept : ∀ {g'' : HubInner}, w.hub.Keeps g'' → g''.clients.lookup q = some c' →
      ∃ c, w.hub.clients.lookup q = some c ∧ c'.player_id = c.player_id ∧
        (c.account.isSome → c'.account.isSome) := by
    intro g'' hk hq
    have rel := hk.clients q
    rw [hq] at rel
    generalize w.hub.clients.lookup q = x at rel ⊢
    cases rel with
    | some k => exact ⟨_, rfl, k.player_id, k.account⟩
  cases h with
  | keep hk => exact kept hk hq
  | grant _ hk => exact kept hk hq
  | want =>
    obtain ⟨c, hc, ⟨-, rfl⟩ | ⟨-, rfl⟩⟩ := lookup_setClient_back hq <;> exact ⟨_, hc, rfl, id⟩
  | report => exact ⟨c', hq, rfl, id⟩
  | create =>
    obtain ⟨c, hc, ⟨-, rfl⟩ | ⟨-, rfl⟩⟩ := lookup_setClient_back hq <;> exact ⟨_, hc, rfl, id⟩
  | sit _ _ _ _ hf =>
    obtain ⟨c, hc, ⟨-, rfl⟩ | ⟨-, rfl⟩⟩ := lookup_setClient_back hq
    · exact ⟨_, hc, rfl, id⟩
    · exact ⟨c, hc, (hf c).1, fun h => by rwa [(hf c).2.2.1]⟩
  | kick =>
    obtain ⟨c, hc, ⟨-, rfl⟩ | ⟨-, rfl⟩⟩ := lookup_setClient_back hq <;> exact ⟨_, hc, rfl, id⟩
  | unlink =>
    obtain ⟨c, hc, ⟨-, rfl⟩ | ⟨-, rfl⟩⟩ := lookup_setClient_back hq <;> exact ⟨_, hc, rfl, id⟩
  | vacate =>
    obtain ⟨c, hc, ⟨-, rfl⟩ | ⟨-, rfl⟩⟩ := lookup_setClient_back hq <;> exact ⟨_, hc, rfl, id⟩
  | destroy =>
    obtain ⟨c, hc, ⟨-, rfl⟩ | ⟨-, rfl⟩⟩ := lookup_modifyEach_back hq <;> exact ⟨_, hc, rfl, id⟩
  | drop => exact ⟨c', (lookup_erase_back hq).2, rfl, id⟩
  | form =>
    obtain ⟨c, hc, ⟨-, rfl⟩ | ⟨-, rfl⟩⟩ := lookup_modifyEach_back hq <;> exact ⟨_, hc, rfl, id⟩

/-- A section drops the row that it removes and no other. -/
theorem client_stays (h : HubChange srv o w s g') {q} (hq : w.hub.connected q)
    (hr : s ≠ clients_remove q) (hw : s ≠ welcome q) : g'.connected q := by
  obtain ⟨c, hc⟩ := Option.isSome_iff_exists.mp hq
  have kept : ∀ {g'' : HubInner}, w.hub.Keeps g'' → g''.connected q := by
    intro g'' hk
    have rel := hk.clients q
    rw [hc] at rel
    unfold HubInner.connected
    generalize g''.clients.lookup q = x at rel ⊢
    cases rel
    rfl
  have rewritten : ∀ p f, (w.hub.setClient p f).connected q := by
    intro p f
    simp only [HubInner.connected, HubInner.setClient, Assoc.Map.lookup_modify, hc]
    split <;> rfl
  have each : ∀ ps f, ((w.hub.clients.modifyEach ps f).lookup q).isSome := by
    intro ps f
    rw [Assoc.Map.lookup_modifyEach, hc]
    split <;> rfl
  cases h with
  | keep hk => exact kept hk
  | grant _ hk =>
    have old := kept hk
    exact old
  | want | create | sit | kick | unlink | vacate => exact rewritten _ _
  | report => exact hq
  | destroy | form => exact each _ _
  | @drop s p hs =>
    have ne : q ≠ p := by
      rintro rfl
      exact hs.elim hr hw
    show ((w.hub.clients.erase p).lookup q).isSome
    rw [AList.lookup_erase_ne ne]
    exact hq

/-- A room is there until a section destroys it. -/
theorem lobby_stays (h : HubChange srv o w s g') {lid l} (hl : w.hub.lobbies.lookup lid = some l)
    (hd : s ≠ destroy_lobby lid) : ∃ l', g'.lobbies.lookup lid = some l' := by
  have kept : ∀ {g'' : HubInner}, w.hub.Keeps g'' → ∃ l', g''.lobbies.lookup lid = some l' := by
    intro g'' hk
    have rel := hk.lobbies lid
    rw [hl] at rel
    generalize g''.lobbies.lookup lid = x at rel ⊢
    cases rel
    exact ⟨_, rfl⟩
  have rewritten : ∀ lid' f, ∃ l', (w.hub.setLobby lid' f).lobbies.lookup lid = some l' := by
    intro lid' f
    simp only [HubInner.setLobby, Assoc.Map.lookup_modify, hl]
    split <;> exact ⟨_, rfl⟩
  have added : ∀ lid' (l0 : Lobby), ∃ l', (w.hub.lobbies.insert lid' l0).lookup lid = some l' := by
    intro lid' l0
    by_cases e : lid = lid'
    · exact ⟨l0, e ▸ AList.lookup_insert _⟩
    · exact ⟨l, (AList.lookup_insert_ne e).trans hl⟩
  cases h with
  | keep hk => exact kept hk
  | grant _ hk =>
    obtain ⟨l', hl'⟩ := kept hk
    exact ⟨l', hl'⟩
  | want | unlink | drop => exact ⟨l, hl⟩
  | report | sit | kick | vacate => exact rewritten _ _
  | create | form => exact added _ _
  | destroy => exact ⟨l, (AList.lookup_erase_ne fun e => hd (congrArg _ e.symm)).trans hl⟩

/-- A room after a section is an old one, changed, or the one that the section made. -/
theorem room_back (h : HubChange srv o w s g') {lid l'} (hl : g'.lobbies.lookup lid = some l') :
    (∃ l, w.hub.lobbies.lookup lid = some l ∧ RoomChange srv o w lid l s l') ∨
    (∃ p ip msg, s = create_insert p ip msg ∧ lid = o.uuid ∧
      l' = createdLobby srv w.hub o p ip msg) ∨
    (∃ plan, s = form_match_room plan ∧ w.hub.lobbies.size < MAX_LOBBIES ∧
      w.hub.connected plan.p.a.player_id ∧ w.hub.connected plan.p.b.player_id ∧ lid = o.uuid ∧
      l' = matchLobby srv w.hub plan o.uuid) := by
  have kept : ∀ {g'' : HubInner}, w.hub.Keeps g'' → g''.lobbies.lookup lid = some l' →
      ∃ l, w.hub.lobbies.lookup lid = some l ∧ RoomChange srv o w lid l s l' := by
    intro g'' hk hl
    have rel := hk.lobbies lid
    rw [hl] at rel
    generalize w.hub.lobbies.lookup lid = x at rel ⊢
    cases rel with
    | some k => exact ⟨_, rfl, .stay k⟩
  have same : w.hub.lobbies.lookup lid = some l' →
      ∃ l, w.hub.lobbies.lookup lid = some l ∧ RoomChange srv o w lid l s l' :=
    fun h => ⟨l', h, .stay (.refl l')⟩
  -- A rewritten room was there before, and the others are the same.
  have rewritten : ∀ {lid0 : String} {l0 : Lobby} {f : Lobby → Lobby},
      w.hub.lobbies.lookup lid0 = some l0 → RoomChange srv o w lid0 l0 s (f l0) →
      (w.hub.setLobby lid0 f).lobbies.lookup lid = some l' →
      ∃ l, w.hub.lobbies.lookup lid = some l ∧ RoomChange srv o w lid l s l' := by
    intro lid0 l0 f hroom made hl
    obtain ⟨l, hold, ⟨-, rfl⟩ | ⟨rfl, rfl⟩⟩ := lookup_setLobby_back hl
    · exact same hold
    · obtain rfl := Option.some.inj (hroom.symm.trans hold)
      exact ⟨l0, hroom, made⟩
  cases h with
  | keep hk => exact .inl (kept hk hl)
  | grant _ hk => exact .inl (kept hk hl)
  | want | unlink | drop => exact .inl (same hl)
  | report op hkind hlid hroom seated =>
    exact .inl (rewritten hroom (.report op hkind hlid seated) hl)
  | sit _ hroom hfree hslot _ => exact .inl (rewritten hroom (.sit hfree hslot) hl)
  | kick hlid hroom hhost hseat hne =>
    exact .inl (rewritten hroom (.kick hlid hhost hseat hne) hl)
  | vacate _ hroom hhost hno => exact .inl (rewritten hroom (.vacate hhost hno) hl)
  | destroy => exact .inl (same (lookup_erase_back hl).2)
  | create =>
    rcases lookup_insert_back hl with ⟨-, hl⟩ | ⟨e, rfl⟩
    · exact .inl (same hl)
    · exact .inr (.inl ⟨_, _, _, rfl, e, rfl⟩)
  | form hsize ha hb =>
    rcases lookup_insert_back hl with ⟨-, hl⟩ | ⟨e, rfl⟩
    · exact .inl (same hl)
    · exact .inr (.inr ⟨_, rfl, hsize, ha, hb, e, rfl⟩)

end HubChange

/-- A room that stays is still itself. -/
lemma RoomChange.frame {srv o w lid l s l'} (h : RoomChange srv o w lid l s l') : l.Frame l' := by
  cases h with
  | stay k => exact k.toFrame
  | report => exact l.reportPath_frame _ _ _
  | sit => exact l.sit_frame _ _ _
  | kick => exact l.kick_frame _
  | vacate => exact l.vacate_frame _

/-- A room after a section is an old one, still itself, or the one that the section made. -/
theorem HubChange.lobby_back {srv o w s g'} (h : HubChange srv o w s g') {lid l'}
    (hl : g'.lobbies.lookup lid = some l') :
    (∃ l, w.hub.lobbies.lookup lid = some l ∧ l.Frame l') ∨
    (∃ p ip msg, s = create_insert p ip msg ∧ lid = o.uuid ∧
      l' = createdLobby srv w.hub o p ip msg) ∨
    (∃ plan, s = form_match_room plan ∧ w.hub.lobbies.size < MAX_LOBBIES ∧
      w.hub.connected plan.p.a.player_id ∧ w.hub.connected plan.p.b.player_id ∧ lid = o.uuid ∧
      l' = matchLobby srv w.hub plan o.uuid) := by
  rcases h.room_back hl with ⟨l, hold, change⟩ | made
  · exact .inl ⟨l, hold, change.frame⟩
  · exact .inr made

/-- Free seats have no owners. -/
lemma filterMap_replicate_none {α : Type} (n : Nat) :
    (List.replicate n (none : Option α)).filterMap id = [] := by
  simp

/-- A new room has its host as its one member. -/
lemma createdLobby_members (srv : Server) (g : HubInner) (o : Answer) (p ip : String)
    (msg : InMsg) : (createdLobby srv g o p ip msg).member_ids = [p] := by
  have two : ∃ n, clamp (msg.max_slots.getD 2) 2 MAX_SLOTS = n + 1 := by
    refine ⟨clamp (msg.max_slots.getD 2) 2 MAX_SLOTS - 1, ?_⟩
    unfold clamp MAX_SLOTS
    omega
  obtain ⟨n, hn⟩ := two
  simp only [Lobby.member_ids, Lobby.everyone, createdLobby, hn, filterMap_replicate_none,
    List.replicate_succ, List.set_cons_zero]
  simp

/-- The room of a matched pair has the two players as its members. -/
lemma matchLobby_members (srv : Server) (g : HubInner) (plan : MatchPlan) (lid : String) :
    (matchLobby srv g plan lid).member_ids = [plan.p.a.player_id, plan.p.b.player_id] := by
  simp [Lobby.member_ids, Lobby.everyone, matchLobby, plan.rs.max_slots_two, matchSlot,
    List.replicate_succ]

/-- The members that a section may seat. -/
def Section.seats (s : Section) : List String :=
  match s with
  | create_insert p _ _ | join_seat p _ _ _ => [p]
  | form_match_room plan => [plan.p.a.player_id, plan.p.b.player_id]
  | _ => []

/-- A member of a room after a section was one before, or is one that the section seated. -/
theorem HubChange.member_back {srv o w s g'} (h : HubChange srv o w s g') (sized : w.hub.Sized)
    {lid l' m} (hl : g'.lobbies.lookup lid = some l') (hm : m ∈ l'.member_ids) :
    (∃ l, w.hub.lobbies.lookup lid = some l ∧ m ∈ l.member_ids) ∨ m ∈ s.seats := by
  rcases h.room_back hl with ⟨l, hold, change⟩ | ⟨p, ip, msg, rfl, -, rfl⟩ | ⟨plan, rfl, -, -, -, -, rfl⟩
  · cases change with
    | stay k => exact .inl ⟨l, hold, k.members.subset hm⟩
    | report =>
      rw [Lobby.reportPath_members] at hm
      exact .inl ⟨l, hold, hm⟩
    | sit hfree hslot =>
      have free := Lobby.seat_freeSeat (sized _ _ hold) hfree
      rcases List.mem_cons.mp ((Lobby.sit_members free _ _).subset hm) with rfl | hm
      · exact .inr (hslot ▸ List.mem_singleton_self _)
      · exact .inl ⟨l, hold, hm⟩
    | kick _ _ hseat _ =>
      exact .inl ⟨l, hold, (Lobby.kick_members hseat).subset (List.mem_cons_of_mem _ hm)⟩
    | vacate =>
      rw [Lobby.vacate_members] at hm
      exact .inl ⟨l, hold, List.mem_of_mem_filter hm⟩
  · rw [createdLobby_members] at hm
    exact .inr hm
  · rw [matchLobby_members] at hm
    exact .inr hm

/-- A room noted in a client's row after a section, as its own or as one it wants the mods of, was noted
before, or the section wrote it. -/
theorem HubChange.noted_back {srv o w s g'} (h : HubChange srv o w s g') {q c'}
    (hq : g'.clients.lookup q = some c') (hn : c'.lobby_id.isSome ∨ c'.pending_mod_lobby.isSome) :
    (∃ c, w.hub.clients.lookup q = some c ∧
      (c.lobby_id.isSome ∨ c.pending_mod_lobby.isSome)) ∨ q ∈ s.seats ∨
      ∃ lid mods xfer, s = join_need_mods q lid mods xfer := by
  have kept : ∀ {g'' : HubInner}, w.hub.Keeps g'' → g''.clients.lookup q = some c' →
      ∃ c, w.hub.clients.lookup q = some c ∧
        (c.lobby_id.isSome ∨ c.pending_mod_lobby.isSome) := by
    intro g'' hk hq
    have rel := hk.clients q
    rw [hq] at rel
    generalize w.hub.clients.lookup q = x at rel ⊢
    cases rel with
    | some k => exact ⟨_, rfl, hn.imp (k.lobby_id ▸ ·) k.pending⟩
  have cleared : ∀ {f : ClientMeta → ClientMeta} {c : ClientMeta},
      (f c).pending_mod_lobby = c.pending_mod_lobby → (f c).lobby_id = none →
      ((f c).lobby_id.isSome ∨ (f c).pending_mod_lobby.isSome) →
      c.lobby_id.isSome ∨ c.pending_mod_lobby.isSome := by
    intro f c hp hl h
    rw [hp, hl] at h
    exact h.imp (fun h => by cases h) id
  cases h with
  | keep hk => exact .inl (kept hk hq)
  | grant _ hk => exact .inl (kept hk hq)
  | want =>
    obtain ⟨c, hc, ⟨-, rfl⟩ | ⟨rfl, rfl⟩⟩ := lookup_setClient_back hq
    · exact .inl ⟨_, hc, hn⟩
    · exact .inr (.inr ⟨_, _, _, rfl⟩)
  | report => exact .inl ⟨c', hq, hn⟩
  | create =>
    obtain ⟨c, hc, ⟨-, rfl⟩ | ⟨rfl, rfl⟩⟩ := lookup_setClient_back hq
    · exact .inl ⟨_, hc, hn⟩
    · exact .inr (.inl (List.mem_singleton_self _))
  | sit =>
    obtain ⟨c, hc, ⟨-, rfl⟩ | ⟨rfl, rfl⟩⟩ := lookup_setClient_back hq
    · exact .inl ⟨_, hc, hn⟩
    · exact .inr (.inl (List.mem_singleton_self _))
  | kick | unlink | vacate =>
    obtain ⟨c, hc, ⟨-, rfl⟩ | ⟨rfl, rfl⟩⟩ := lookup_setClient_back hq
    · exact .inl ⟨_, hc, hn⟩
    · exact .inl ⟨_, hc, cleared (f := ({ · with lobby_id := none })) rfl rfl hn⟩
  | destroy =>
    obtain ⟨c, hc, ⟨-, rfl⟩ | ⟨-, rfl⟩⟩ := lookup_modifyEach_back hq
    · exact .inl ⟨_, hc, hn⟩
    · exact .inl ⟨_, hc, cleared (f := ({ · with lobby_id := none })) rfl rfl hn⟩
  | drop => exact .inl ⟨c', (lookup_erase_back hq).2, hn⟩
  | form =>
    obtain ⟨c, hc, ⟨-, rfl⟩ | ⟨hin, rfl⟩⟩ := lookup_modifyEach_back hq
    · exact .inl ⟨_, hc, hn⟩
    · exact .inr (.inl hin)

/-- The sections that leave the sleeping start tasks alone. -/
lemma exec_spawned {srv : Server} {s : Section} {o : Answer} {w : World}
    (hs : ∀ task, s ≠ form_match_spawn task)
    (hf : ∀ st lid ice code, s ≠ start_failed st lid ice code) :
    (exec srv s o w).1.spawned = w.spawned := by
  cases s with
  | form_match_spawn task => exact absurd rfl (hs task)
  | start_failed st lid ice code => exact absurd rfl (hf st lid ice code)
  | send_to p m => exact World.send_spawned w p m
  | welcome p =>
    simp only [exec, welcome_step]
    split
    · exact World.send_spawned w p _
    · rfl
  | queue_account | queue_remove | queue_answer | form_match =>
    simp only [exec, queue_account_step, queue_remove_step, queue_answer_step, form_match_step]
    repeat' split
    all_goals rfl
  | queue_cooldown | queue_waiting | queue_ticket | requeue_if_here | settle_declined
  | record_strike =>
    simp only [exec, queue_cooldown_step, queue_waiting_step, queue_ticket_step,
      requeue_if_here_step, settle_declined_step, record_strike_step]
    split <;> rfl
  | queue_pools t keys rows => cases keys <;> rfl
  | form_match_room plan =>
    simp only [exec, form_match_room_step]
    split_ifs <;> rfl
  | _ => rfl

/-- A sleeping start task was asleep before, or the section put it to sleep. -/
lemma spawned_exec {srv : Server} {s : Section} {o : Answer} {w : World} {lid task}
    (h : (exec srv s o w).1.spawned.lookup lid = some task) :
    w.spawned.lookup lid = some task ∨
      ∃ old, (s = form_match_spawn old ∨
        ∃ lid' ice code, s = start_failed (.server old) lid' ice code) ∧
        task.a = old.a ∧ task.b = old.b := by
  by_cases hs : ∃ t, s = form_match_spawn t
  · obtain ⟨old, rfl⟩ := hs
    rcases lookup_insert_back h with ⟨-, h⟩ | ⟨-, rfl⟩
    · exact .inl h
    · exact .inr ⟨old, .inl rfl, rfl, rfl⟩
  · by_cases hf : ∃ st lid' ice code, s = start_failed st lid' ice code
    · obtain ⟨st, lid', ice, code, rfl⟩ := hf
      simp only [exec, start_failed_step] at h
      cases st with
      | host p caps =>
        left
        dsimp only at h
        split at h <;> exact h
      | server old =>
        dsimp only at h
        split_ifs at h
        · exact .inl h
        · exact .inl h
        · rcases lookup_insert_back h with ⟨-, h⟩ | ⟨-, rfl⟩
          · exact .inl h
          · exact .inr ⟨old, .inr ⟨_, _, _, rfl⟩, rfl, rfl⟩
        · exact .inl h
    · left
      rw [exec_spawned (fun t e => hs ⟨t, e⟩) fun st l i c e => hf ⟨st, l, i, c, e⟩] at h
      exact h

/-- What holds of every reachable world. -/
structure World.Basic (w : World) : Prop where
  client_key : ∀ p c, w.hub.clients.lookup p = some c → c.player_id = p
  lobby_key : ∀ lid l, w.hub.lobbies.lookup lid = some l → l.lobby_id = lid
  client_issued : ∀ p, w.hub.connected p → p ≠ "" ∧ p ∈ w.issued
  lobby_issued : ∀ lid l, w.hub.lobbies.lookup lid = some l → lid ∈ w.issued
  small : ∀ lid l, w.hub.lobbies.lookup lid = some l → l.slots.length ≤ MAX_SLOTS

lemma World.Basic.sized {w : World} (h : w.Basic) : w.hub.Sized :=
  fun lid l hl => (h.small lid l hl).trans (by decide)

lemma connected_iff {g : HubInner} {p : String} :
    g.connected p ↔ ∃ c, g.clients.lookup p = some c := Option.isSome_iff_exists

/-- The clock stands still in a section. -/
lemma exec_now {srv s o w} : (exec srv s o w).1.now = w.now := by
  have off : s.off_hub → (exec srv s o w).1.now = w.now := by
    intro h
    obtain ⟨q, st, sp, e⟩ := exec_off_hub h
    rw [e]
  cases s with
  | send_to p m => exact World.send_now w p m
  | welcome p =>
    simp only [exec, welcome_step]
    split
    · exact World.send_now w p _
    · rfl
  | form_match_room plan =>
    simp only [exec, form_match_room_step]
    split_ifs <;> rfl
  | start_failed | queue_account | queue_cooldown | queue_waiting | queue_ticket | queue_pools
  | queue_remove | queue_answer | settle_declined | record_strike | requeue_if_here
  | form_match => exact off rfl
  | _ => rfl

lemma apply_now {srv : Server} {w : World} {e : Event} : w.now ≤ (e.apply srv w).now := by
  cases e with
  | ws_ping p => exact (World.send_now w p _).ge
  | pass elapsed wall => exact Nat.le_add_right _ _
  | _ => exact le_rfl

/-- Uuids stay drawn. -/
lemma exec_issued {srv s o w} : w.issued ⊆ (exec srv s o w).1.issued := by
  have same : (exec srv s o w).1.issued = w.issued → w.issued ⊆ (exec srv s o w).1.issued :=
    fun e => e ▸ List.Subset.refl _
  have off : s.off_hub → w.issued ⊆ (exec srv s o w).1.issued := by
    intro h
    obtain ⟨q, st, sp, e⟩ := exec_off_hub h
    exact same (by rw [e])
  cases s with
  | send_to p m => exact same (World.send_issued w p m)
  | welcome p =>
    apply same
    simp only [exec, welcome_step]
    split
    · exact World.send_issued w p _
    · rfl
  | create_insert => exact List.subset_cons_self _ _
  | form_match_room plan =>
    simp only [exec, form_match_room_step]
    split_ifs
    · exact List.Subset.refl _
    · exact List.Subset.refl _
    · exact List.subset_cons_self _ _
  | run_pairing => exact List.subset_append_right _ _
  | start_failed | queue_account | queue_cooldown | queue_waiting | queue_ticket | queue_pools
  | queue_remove | queue_answer | settle_declined | record_strike | requeue_if_here
  | form_match => exact off rfl
  | _ => exact List.Subset.refl _

/-- The uuid of a match room is drawn when the room is built. -/
lemma exec_issued_form {srv plan o w} (hsize : w.hub.lobbies.size < MAX_LOBBIES)
    (ha : w.hub.connected plan.p.a.player_id) (hb : w.hub.connected plan.p.b.player_id) :
    o.uuid ∈ (exec srv (form_match_room plan) o w).1.issued := by
  have hno : ¬ (!w.hub.connected plan.p.a.player_id ∨ !w.hub.connected plan.p.b.player_id) := by
    simp [ha, hb]
  simp only [exec, form_match_room_step, if_neg (not_le.mpr hsize), if_neg hno]
  exact List.mem_cons_self

lemma createdLobby_small (srv : Server) (g : HubInner) (o : Answer) (p ip : String)
    (msg : InMsg) : (createdLobby srv g o p ip msg).slots.length ≤ MAX_SLOTS := by
  simp only [createdLobby, List.length_set, List.length_replicate, clamp]
  have : MAX_SLOTS = 8 := rfl
  omega

/-- The room of a matched pair has two seats. -/
lemma matchLobby_two (srv : Server) (g : HubInner) (plan : MatchPlan) (lid : String) :
    (matchLobby srv g plan lid).slots.length = 2 := by
  simp [matchLobby, plan.rs.max_slots_two]

/-- A section keeps the basic facts. -/
lemma exec_basic {srv s o w} (h : w.Basic) : (exec srv s o w).1.Basic := by
  have change := exec_change srv s o h.sized
  have grows : w.issued ⊆ (exec srv s o w).1.issued := exec_issued
  constructor
  · intro p c' hc'
    obtain ⟨c, hc, e, -⟩ := change.client_back hc'
    exact e.trans (h.client_key p c hc)
  · intro lid l' hl'
    rcases change.lobby_back hl' with ⟨l, hl, f⟩ | ⟨p, ip, msg, -, rfl, rfl⟩ |
      ⟨plan, -, -, -, -, rfl, rfl⟩
    · exact f.lobby_id.trans (h.lobby_key lid l hl)
    · rfl
    · rfl
  · intro p hp
    obtain ⟨c', hc'⟩ := connected_iff.mp hp
    obtain ⟨c, hc, -⟩ := change.client_back hc'
    obtain ⟨hne, hin⟩ := h.client_issued p (connected_iff.mpr ⟨c, hc⟩)
    exact ⟨hne, grows hin⟩
  · intro lid l' hl'
    rcases change.lobby_back hl' with ⟨l, hl, -⟩ | ⟨p, ip, msg, rfl, rfl, -⟩ |
      ⟨plan, rfl, hsize, ha, hb, rfl, -⟩
    · exact grows (h.lobby_issued lid l hl)
    · exact List.mem_cons_self
    · exact exec_issued_form hsize ha hb
  · intro lid l' hl'
    rcases change.lobby_back hl' with ⟨l, hl, f⟩ | ⟨p, ip, msg, -, -, rfl⟩ |
      ⟨plan, -, -, -, -, -, rfl⟩
    · exact f.slots_length.trans_le (h.small lid l hl)
    · exact createdLobby_small srv w.hub o p ip msg
    · rw [matchLobby_two]
      decide

/-- An event changes the clients by a new connection at most, and no room. -/
lemma apply_lobbies (srv : Server) (w : World) (e : Event) :
    (e.apply srv w).hub.lobbies = w.hub.lobbies := by
  cases e with
  | ws_ping p => exact congrArg HubInner.lobbies (World.send_hub w p _)
  | _ => rfl

lemma apply_client_back {srv : Server} {w : World} {e : Event} {q c'}
    (h : (e.apply srv w).hub.clients.lookup q = some c') :
    w.hub.clients.lookup q = some c' ∨
      ∃ ip, e = .connect q ip ∧ c' = freshClient srv q ip := by
  cases e with
  | connect p ip =>
    rcases lookup_insert_back h with ⟨-, h⟩ | ⟨rfl, rfl⟩
    · exact .inl h
    · exact .inr ⟨ip, rfl, rfl⟩
  | ws_ping p =>
    left
    rw [← World.send_hub w p .empty]
    exact h
  | _ => exact .inl h

lemma apply_issued {srv : Server} {w : World} {e : Event} :
    w.issued ⊆ (e.apply srv w).issued := by
  cases e with
  | connect p ip => exact List.subset_cons_self _ _
  | ws_ping p => exact (World.send_issued w p _).symm ▸ List.Subset.refl _
  | _ => exact List.Subset.refl _

/-- An event keeps the basic facts. -/
lemma apply_basic {srv : Server} {w : World} {e : Event} (h : w.Basic) (he : e.enabled w) :
    (e.apply srv w).Basic := by
  constructor
  · intro p c' hc'
    rcases apply_client_back hc' with hc | ⟨ip, -, rfl⟩
    · exact h.client_key p c' hc
    · rfl
  · rw [apply_lobbies]
    exact h.lobby_key
  · intro p hp
    obtain ⟨c', hc'⟩ := connected_iff.mp hp
    rcases apply_client_back hc' with hc | ⟨ip, rfl, -⟩
    · obtain ⟨hne, hin⟩ := h.client_issued p (connected_iff.mpr ⟨c', hc⟩)
      exact ⟨hne, apply_issued hin⟩
    · exact ⟨he.1, List.mem_cons_self⟩
  · rw [apply_lobbies]
    exact fun lid l hl => apply_issued (h.lobby_issued lid l hl)
  · rw [apply_lobbies]
    exact h.small

/-- Every reachable world is basic. -/
theorem HubRun.basic {srv c tr} (r : HubRun srv c tr) : c.world.Basic := by
  apply r.induct (I := fun c _ => c.world.Basic)
  · constructor <;> simp [hubMachine, HubInner.connected]
  · intro c tr l c' _ h st
    cases st with
    | run _ _ => exact exec_basic h
    | event _ he => exact apply_basic h he

end RecompNet
