import RecompNet.Hub.RoomEdit
import RecompNet.Hub.Seating

/-!
# The room of a match

The room of a matched pair has the host "", which no connection holds, so every operation that asks for
the host refuses. `settings` are what only the host or the start of a match may rewrite; the roster
stays because both seats are taken and a departure closes the room with its seats still filled.
-/

open scoped List

namespace RecompNet

open Section Interleave

/-- What a room runs with, and whether its match began. -/
def Lobby.settings (l : Lobby) : Option Value × String × Bool :=
  (l.match_caps, l.host_endpoint, l.started)

/-- The settings of a room are rewritten by the start of its match and by its host. -/
lemma RoomEdit.settings {srv o w lid l s l'} (h : RoomEdit srv o w lid l s l') :
    l'.settings = l.settings ∨
      (∃ st caps sid sp tr ice, s = start_commit st lid caps sid sp tr ice ∧
        l'.match_caps = caps.or l.match_caps ∧ l'.host_endpoint = l.host_endpoint) ∨
      ∃ p ip msg, s = dispatch p ip msg ∧ w.hub.lobby_id_of p = some lid ∧ l.host_player_id = p := by
  -- The settings are no part of the seats.
  have read : ∀ {m n : Lobby}, m.furniture = n → m.settings = n.settings :=
    fun e => (congrArg Lobby.settings e :)
  have kept : ∀ {m : Lobby}, m.furniture = l.furniture → m.settings = l.settings :=
    fun e => (read e).trans rfl
  cases h with
  | same | path_report | vacate => exact .inl rfl
  | rename | set_ready => exact .inl (kept Lobby.furniture_setMember)
  | move | seat_move => exact .inl (kept Lobby.furniture_rearrange)
  | seat_swap_answer => exact .inl (kept Lobby.furniture_trade)
  | kick => exact .inl ((read Lobby.furniture_kick).trans rfl)
  | sit => exact .inl ((read Lobby.furniture_sit).trans rfl)
  | set_match_caps _ _ noted host => exact .inr (.inr ⟨_, _, _, rfl, noted, host⟩)
  | set_host_endpoint _ noted host => exact .inr (.inr ⟨_, _, _, rfl, noted, host⟩)
  | launch => exact .inr (.inl ⟨_, _, _, _, _, _, rfl, rfl, rfl⟩)

/-- A room that was there before has its settings rewritten in no other way. -/
theorem exec_settings {srv s o w lid l l'} (hl : w.hub.lobbies.lookup lid = some l)
    (hl' : (exec srv s o w).1.hub.lobbies.lookup lid = some l') (fresh : lid ≠ o.uuid) :
    l'.settings = l.settings ∨
      (∃ st caps sid sp tr ice, s = start_commit st lid caps sid sp tr ice ∧
        l'.match_caps = caps.or l.match_caps ∧ l'.host_endpoint = l.host_endpoint) ∨
      ∃ p ip msg, s = dispatch p ip msg ∧ w.hub.lobby_id_of p = some lid ∧ l.host_player_id = p := by
  rcases exec_room hl' with ⟨l0, hl0, edit⟩ | ⟨-, -, -, -, made, -⟩ | ⟨-, -, made, -⟩
  · obtain rfl := Option.some.inj (hl.symm.trans hl0)
    exact edit.settings
  · exact absurd made fresh
  · exact absurd made fresh

/-! ## Who starts a match -/

/-- The host that presses Play, and its room. -/
def Section.hostStart : Section → Option (String × String)
  | start_prepare (.host p _) lid .. => some (p, lid)
  | start_commit (.host p _) lid .. => some (p, lid)
  | _ => none

/-- A host's start goes on as its start, and begins in the room that it hosts. -/
lemma exec_hostStart {srv s o w s' p lid} (hs : s' ∈ (exec srv s o w).2)
    (h : s'.hostStart = some (p, lid)) : s.hostStart = some (p, lid) ∨
      w.hub.connected p ∧ ∃ l, w.hub.lobbies.lookup lid = some l ∧ l.host_player_id = p := by
  have kind : s'.kind ∈ [SectionKind.start_prepare, .start_commit] := by
    cases s' with
    | start_prepare | start_commit => simp
    | _ => cases h
  have called : ¬ ∀ k ∈ s.calls, k ∉ [SectionKind.start_prepare, .start_commit] :=
    fun none => none _ (exec_calls _ hs) kind
  cases s with
  | dispatch q ip msg =>
    cases hop : msg.op with
    | start =>
      right
      simp only [exec, World.lift, dispatch_step, hop, handle_start, refuse] at hs
      split at hs
      · cases List.mem_singleton.mp hs
        cases h
      · rename_i lid0 hlid
        split at hs
        · cases List.mem_singleton.mp hs
          cases h
        · rename_i l hl
          split at hs
          · cases List.mem_singleton.mp hs
            cases h
          · rename_i host
            cases List.mem_singleton.mp hs
            cases h
            obtain ⟨row, hrow, -⟩ := Option.bind_eq_some_iff.mp hlid
            exact ⟨connected_iff.mpr ⟨row, hrow⟩, l, hl, not_not.mp host⟩
    | _ => exact absurd (by simp [hop]) called
  | start_prepare st lid0 caps ice =>
    simp only [exec, World.lift, start_prepare_step] at hs
    repeat' split at hs
    all_goals
      cases List.mem_singleton.mp hs
      cases st <;> first
        | cases h; done
        | exact .inl h
  | start_failed st lid0 ice code =>
    cases st with
    | host p caps =>
      simp only [exec, start_failed_step] at hs
      split_ifs at hs <;> cases List.mem_singleton.mp hs <;> cases h
    | server task =>
      simp only [exec, start_failed_step] at hs
      split_ifs at hs
      · cases List.mem_singleton.mp hs
        cases h
      · simp only [List.mem_cons, List.not_mem_nil, or_false] at hs
        rcases hs with rfl | rfl | rfl <;> cases h
      · cases hs
      · cases List.mem_singleton.mp hs
        cases h
  | _ => exact absurd (by simp) called

/-- A host's start is about the room of that host. -/
theorem HubRun.host_starts {srv c tr} (r : HubRun srv c tr) :
    Holds (fun w _ s => ∀ p lid, s.hostStart = some (p, lid) → p ≠ "" ∧ lid ∈ w.issued ∧
      ∀ l, w.hub.lobbies.lookup lid = some l → l.host_player_id = p) c := by
  induction r with
  | start => exact Holds.start _
  | @step c tr l c' r st ih =>
    have basic := HubRun.basic r
    cases st with
    | @run t s rest o e ho =>
      have moved : ∀ p lid, (p ≠ "" ∧ lid ∈ c.world.issued ∧
          ∀ l, c.world.hub.lobbies.lookup lid = some l → l.host_player_id = p) →
          p ≠ "" ∧ lid ∈ (exec srv s o c.world).1.issued ∧
          ∀ l, (exec srv s o c.world).1.hub.lobbies.lookup lid = some l → l.host_player_id = p := by
        rintro p lid ⟨ne, drawn, host⟩
        refine ⟨ne, exec_issued drawn, fun l' hl' => ?_⟩
        rcases (exec_change srv s o basic.sized).lobby_back hl' with ⟨l, hl, frame⟩ |
          ⟨_, _, _, -, rfl, -⟩ | ⟨_, -, -, -, -, rfl, -⟩
        · exact frame.host.trans (host l hl)
        · exact absurd drawn ho.2.1
        · exact absurd drawn ho.2.1
      apply Holds.run ih e
      · exact fun t' s' _ h p lid hs => moved p lid (h p lid hs)
      · intro s' hs' p lid hs
        apply moved
        rcases exec_hostStart hs' hs with here | ⟨conn, l, hl, host⟩
        · exact ih t s (e ▸ List.mem_cons_self) p lid here
        · refine ⟨(basic.client_issued p conn).1, basic.lobby_issued lid l hl, ?_⟩
          intro l' hl'
          obtain rfl := Option.some.inj (hl.symm.trans hl')
          exact host
    | @event e _ _ =>
      apply Holds.event ih
      · intro t' s' _ h p lid hs
        obtain ⟨ne, drawn, host⟩ := h p lid hs
        refine ⟨ne, apply_issued drawn, fun l hl => host l ?_⟩
        exact (apply_lobbies srv c.world e) ▸ hl
      · intro s' hs' p lid hs
        have kind := body_kinds hs'
        cases s' with
        | start_prepare st =>
          cases e <;> simp only [hubMachine, Event.body, List.mem_cons, List.mem_map,
            List.not_mem_nil, or_false, reduceCtorEq] at hs'
          case wake =>
            obtain ⟨task, -, e⟩ := hs'
            cases e
            cases hs
        | start_commit => simp at kind
        | _ => cases hs

/-- The caps that a host sent along with its start. -/
def Starter.sent_caps : Starter → Option Value
  | .host _ sent_caps => sent_caps
  | .server _ => none

/-- A start brings the sanitized form of the caps that were sent with it. -/
def Section.bringsSentCaps : Section → Prop
  | start_prepare starter _ fresh_caps _ => fresh_caps = sanitize_match_caps starter.sent_caps
  | start_commit starter _ fresh_caps .. => fresh_caps = sanitize_match_caps starter.sent_caps
  | _ => True

/-- The server starts a match with the caps that the room has. -/
def Section.bringsNoCaps : Section → Prop
  | start_prepare (.server _) _ fresh_caps _ => fresh_caps = none
  | start_commit (.server _) _ fresh_caps .. => fresh_caps = none
  | _ => True

/-- The caps of a start are passed on unchanged. -/
lemma exec_bringsSentCaps {srv s o w} (h : s.bringsSentCaps) :
    ∀ s' ∈ (exec srv s o w).2, s'.bringsSentCaps := by
  intro s' hs
  have kind : s'.kind ∉ [SectionKind.start_prepare, .start_commit] → s'.bringsSentCaps := by
    intro none
    cases s' with
    | start_prepare | start_commit => simp at none
    | _ => trivial
  have called : (∀ k ∈ s.calls, k ∉ [SectionKind.start_prepare, .start_commit]) →
      s'.bringsSentCaps := fun none => kind (none _ (exec_calls _ hs))
  cases s with
  | dispatch q ip msg =>
    cases hop : msg.op with
    | start =>
      simp only [exec, World.lift, dispatch_step, hop, handle_start, refuse] at hs
      repeat' split at hs
      all_goals
        cases List.mem_singleton.mp hs
        trivial
    | _ => exact called (by simp [hop])
  | start_prepare st lid caps ice =>
    simp only [exec, World.lift, start_prepare_step] at hs
    repeat' split at hs
    all_goals
      cases List.mem_singleton.mp hs
      trivial
  | start_failed st lid ice code =>
    cases st with
    | host p caps =>
      simp only [exec, start_failed_step] at hs
      split_ifs at hs <;> cases List.mem_singleton.mp hs <;> trivial
    | server task =>
      simp only [exec, start_failed_step] at hs
      split_ifs at hs
      · cases List.mem_singleton.mp hs
        trivial
      · simp only [List.mem_cons, List.not_mem_nil, or_false] at hs
        rcases hs with rfl | rfl | rfl <;> trivial
      · cases hs
      · cases List.mem_singleton.mp hs
        exact rfl
  | _ => exact called (by simp)

theorem HubRun.brings_sent_caps {srv c tr} (r : HubRun srv c tr) :
    ∀ t, ∀ s ∈ c.pending t, s.bringsSentCaps := by
  refine r.passed_on exec_bringsSentCaps ?_
  intro e w s hs
  cases e <;> simp only [hubMachine, Event.body, List.mem_cons, List.mem_map, List.not_mem_nil,
    or_false] at hs
  case connect | text | list_tick => exact hs ▸ trivial
  case disconnect | automatch_tick => rcases hs with rfl | rfl | rfl <;> trivial
  case wake =>
    obtain ⟨task, -, rfl⟩ := hs
    rfl

theorem HubRun.brings_no_caps {srv c tr} (r : HubRun srv c tr) :
    ∀ t, ∀ s ∈ c.pending t, s.bringsNoCaps := by
  intro t s hs
  have sent := HubRun.brings_sent_caps r t s hs
  cases s with
  | start_prepare st =>
    cases st with
    | host => trivial
    | server => exact sent
  | start_commit st =>
    cases st with
    | host => trivial
    | server => exact sent
  | _ => trivial

/-! ## Who closes a room -/

/-- The server gives up the start of a match. -/
def Section.GivesUp (s : Section) (lid : String) : Prop :=
  (∃ task ice code, s = start_failed (.server task) lid ice code) ∨ ∃ code, s = start_abort lid code

/-- A room is closed by its host, by a departure or by the server that gives up its start. -/
lemma exec_destroys {srv s o w lid} (hs : destroy_lobby lid ∈ (exec srv s o w).2) :
    (∃ p l, w.hub.lobby_id_of p = some lid ∧ w.hub.lobbies.lookup lid = some l ∧
        l.host_player_id = p) ∨
      (∃ p, s = client_leave p ∧ w.hub.lobby_id_of p = some lid) ∨ s.GivesUp lid := by
  have called : ¬ ∀ k ∈ s.calls, k ≠ .destroy_lobby := fun none => none _ (exec_calls _ hs) rfl
  cases s with
  | dispatch q ip msg =>
    cases hop : msg.op with
    | close =>
      left
      simp only [exec, World.lift, dispatch_step, hop, handle_close] at hs
      split at hs
      · cases hs
      · rename_i lid0 hlid
        split_ifs at hs with host
        · cases List.mem_singleton.mp hs
          obtain ⟨l, hl, host⟩ := (Option.any_eq_true _ _).mp host
          exact ⟨q, l, hlid, hl, of_decide_eq_true host⟩
        · cases hs
    | _ => exact absurd (by simp [hop]) called
  -- The departure of the host, or of a player of a match that is down to two.
  | client_leave p =>
    right; left
    simp only [exec, World.lift, client_leave_step] at hs
    split at hs
    · cases hs
    · rename_i lid0 hlid
      split at hs
      · cases hs
      · split_ifs at hs
        · cases List.mem_singleton.mp hs
          exact ⟨p, rfl, hlid⟩
        · simp at hs
        · simp at hs
  | start_failed st lid0 ice code =>
    right; right; left
    cases st with
    | host p caps =>
      simp only [exec, start_failed_step] at hs
      split_ifs at hs <;> cases List.mem_singleton.mp hs
    | server task =>
      simp only [exec, start_failed_step] at hs
      split_ifs at hs
      · cases List.mem_singleton.mp hs
      · simp only [List.mem_cons, List.not_mem_nil, or_false, reduceCtorEq] at hs
        cases hs
        exact ⟨task, ice, code, rfl⟩
      · cases hs
      · cases List.mem_singleton.mp hs
  -- The server gives up: the proof window is over.
  | start_abort lid0 code =>
    right; right; right
    simp only [exec, World.lift, start_abort_step, List.mem_append, List.mem_map,
      List.mem_singleton, reduceCtorEq, and_false, exists_false, false_or] at hs
    cases hs
    exact ⟨code, rfl⟩
  | _ => exact absurd (by simp) called

/-! ## The roster of a match -/

/-- Nobody comes to a full room without a host, and nobody goes. -/
theorem RoomChange.match_roster {srv o w lid l s l'} (h : RoomChange srv o w lid l s l')
    (basic : w.Basic) (hl : w.hub.lobbies.lookup lid = some l) (auto : l.automatch)
    (host : l.host_player_id = "") (two : l.slots.length = 2) (gallery : l.spectators.length = 0)
    (full : l.member_ids.length = 2) : l'.member_ids ~ l.member_ids := by
  cases h with
  | stay k => exact k.members
  | report => exact .of_eq (Lobby.reportPath_members _ _ _ _)
  | @sit p ip msg seat slot ep hfree =>
    -- A seat for the joiner would be a third one.
    have free := Lobby.seat_freeSeat (basic.sized _ _ hl) hfree
    have more := (Lobby.sit_members free slot ep).length_eq
    have frame := Lobby.sit_frame l seat slot ep
    have room := Lobby.members_le_seats (l.sit seat slot ep)
    rw [frame.slots_length, frame.spectators_length] at room
    simp only [List.length_cons] at more
    omega
  | kick hlid hhost =>
    -- No connection has the empty id.
    obtain ⟨row, hrow, -⟩ := Option.bind_eq_some_iff.mp hlid
    have named := (basic.client_issued _ (connected_iff.mpr ⟨row, hrow⟩)).1
    exact absurd (hhost.symm.trans host) named
  | vacate _ hno => exact absurd ⟨auto, two ▸ List.countP_le_length⟩ hno

/-! ## The life of a match room -/

/-- What a match room keeps of the room that was formed. -/
structure Lobby.SameMatch (l l' : Lobby) : Prop extends Frame l l' where
  members : l'.member_ids ~ l.member_ids
  caps : l'.match_caps = l.match_caps
  endpoint : l'.host_endpoint = l.host_endpoint

lemma Lobby.SameMatch.refl (l : Lobby) : l.SameMatch l where
  toFrame := (Lobby.Shuffles.refl l).toFrame
  members := .refl _
  caps := rfl
  endpoint := rfl

lemma Lobby.SameMatch.trans {a b c : Lobby} (h : a.SameMatch b) (k : b.SameMatch c) :
    a.SameMatch c where
  toFrame := h.toFrame.trans k.toFrame
  members := k.members.trans h.members
  caps := k.caps.trans h.caps
  endpoint := k.endpoint.trans h.endpoint

/-- The match whose room this is was formed in the trace. -/
def FormedAs (srv : Server) (tr : List HubLabel) (lid : String) (l : Lobby) : Prop :=
  ∃ t plan o pre, .ran t (form_match_room plan) o pre ∈ tr ∧ lid = o.uuid ∧
    (matchLobby srv pre.world.hub plan lid).SameMatch l

/-- A room that was formed has two players and nobody else. -/
lemma FormedAs.shape {srv tr lid l} (h : FormedAs srv tr lid l) : l.host_player_id = "" ∧
    l.slots.length = 2 ∧ l.spectators.length = 0 ∧ l.member_ids.length = 2 := by
  obtain ⟨t, plan, o, pre, -, -, same⟩ := h
  refine ⟨same.host, ?_, same.spectators_length, ?_⟩
  · exact same.slots_length.trans (matchLobby_two srv pre.world.hub plan lid)
  · rw [same.members.length_eq, matchLobby_members]
    rfl

/-- One section leaves a room that was formed as it is. -/
lemma FormedAs.step {srv c tr t s rest o lid l l'} (r : HubRun srv c tr)
    (e : c.pending t = s :: rest) (formed : FormedAs srv tr lid l)
    (hl : c.world.hub.lobbies.lookup lid = some l)
    (hl' : (exec srv s o c.world).1.hub.lobbies.lookup lid = some l') (auto : l.automatch)
    (fresh : lid ≠ o.uuid) : l.SameMatch l' ∧
      (l'.started = l.started ∨ ∃ task caps sid sp tr ice,
        s = start_commit (.server task) lid caps sid sp tr ice) := by
  have basic := HubRun.basic r
  obtain ⟨host, two, gallery, full⟩ := formed.shape
  have change : RoomChange srv o c.world lid l s l' := by
    rcases (exec_change srv s o basic.sized).room_back hl' with
      ⟨l0, hl0, change⟩ | ⟨_, _, _, -, e, -⟩ | ⟨_, -, -, -, -, e, -⟩
    · obtain rfl := Option.some.inj (hl.symm.trans hl0)
      exact change
    · exact absurd e fresh
    · exact absurd e fresh
  have members := change.match_roster basic hl auto host two gallery full
  have frame := change.frame
  rcases exec_settings hl hl' fresh with same | ⟨st, caps, sid, sp, tr, ice, rfl, hcaps, hend⟩ |
    ⟨p, ip, msg, rfl, hlid, hp⟩
  · obtain ⟨hcaps, hend, began⟩ := by simpa [Lobby.settings] using same
    exact ⟨⟨frame, members, hcaps, hend⟩, .inl began⟩
  · cases st with
    | host p sent =>
      have mine := HubRun.host_starts r t _ (e ▸ List.mem_cons_self) p lid rfl
      exact absurd ((mine.2.2 l hl).symm.trans host) mine.1
    | server task =>
      obtain rfl := HubRun.brings_no_caps r t _ (e ▸ List.mem_cons_self)
      exact ⟨⟨frame, members, hcaps, hend⟩, .inr ⟨task, none, sid, sp, tr, ice, rfl⟩⟩
  · obtain ⟨row, hrow, -⟩ := Option.bind_eq_some_iff.mp hlid
    exact absurd (hp.symm.trans host) (basic.client_issued p (connected_iff.mpr ⟨row, hrow⟩)).1

/-- A longer trace has the same match in it. -/
lemma FormedAs.later {srv tr l lid room room'} (h : FormedAs srv tr lid room)
    (same : room.SameMatch room') : FormedAs srv (l :: tr) lid room' := by
  obtain ⟨t, plan, o, pre, ran, e, formed⟩ := h
  exact ⟨t, plan, o, pre, List.mem_cons_of_mem _ ran, e, formed.trans same⟩

/-- Every match room of a run is the room that was formed. -/
theorem HubRun.formed_as {srv c tr} (r : HubRun srv c tr) : ∀ lid l,
    c.world.hub.lobbies.lookup lid = some l → l.automatch → FormedAs srv tr lid l := by
  apply r.induct (I := fun c tr => ∀ lid l,
    c.world.hub.lobbies.lookup lid = some l → l.automatch → FormedAs srv tr lid l)
  · intro lid l hl
    cases hl
  · intro c tr l c' r ih st lid l' hl' auto
    have basic := HubRun.basic r
    cases st with
    | @run t s rest o e ho =>
      have change := exec_change srv s o basic.sized
      rcases change.lobby_back hl' with ⟨l, hl, frame⟩ | ⟨p, ip, msg, -, -, rfl⟩ |
        ⟨plan, rfl, -, -, -, rfl, rfl⟩
      · have fresh : lid ≠ o.uuid := by
          rintro rfl
          exact ho.2.1 (basic.lobby_issued _ l hl)
        have was : l.automatch := frame.automatch ▸ auto
        have formed := ih lid l hl was
        exact formed.later (FormedAs.step r e formed hl hl' was fresh).1
      · cases auto
      · exact ⟨t, plan, o, c, List.mem_cons_self, rfl, Lobby.SameMatch.refl _⟩
    | @event e _ _ =>
      have hl : c.world.hub.lobbies.lookup lid = some l' := (apply_lobbies srv c.world e) ▸ hl'
      exact (ih lid l' hl auto).later (Lobby.SameMatch.refl _)

/-- A room is closed because somebody left it, or because the server gave up its start. -/
def ClosedFor (tr : List HubLabel) (lid : String) : Prop :=
  (∃ p o pre, .ran (.conn p) (client_leave p) o pre ∈ tr ∧
      pre.world.hub.lobby_id_of p = some lid) ∨
    ∃ t s o pre, .ran t s o pre ∈ tr ∧ s.GivesUp lid

lemma ClosedFor.later {tr l lid} (h : ClosedFor tr lid) : ClosedFor (l :: tr) lid := by
  rcases h with ⟨p, o, pre, ran, hp⟩ | ⟨t, s, o, pre, ran, gives⟩
  · exact .inl ⟨p, o, pre, List.mem_cons_of_mem _ ran, hp⟩
  · exact .inr ⟨t, s, o, pre, List.mem_cons_of_mem _ ran, gives⟩

/-- What is about to be destroyed is closed for a reason, or is no match room. -/
def ClosesFor (tr : List HubLabel) (w : World) (s : Section) : Prop :=
  ∀ lid, s = destroy_lobby lid → ClosedFor tr lid ∨
    lid ∈ w.issued ∧ ∀ l, w.hub.lobbies.lookup lid = some l → ¬ l.automatch

/-- A match room is about to be destroyed only after a departure, or after the server gave up its
start. -/
theorem HubRun.match_closed {srv c tr} (r : HubRun srv c tr) :
    Holds (fun w _ s => ClosesFor tr w s) c := by
  apply r.induct (I := fun c tr => Holds (fun w _ s => ClosesFor tr w s) c)
  · exact Holds.start _
  · intro c tr l c' r ih st
    have basic := HubRun.basic r
    have old : Holds (fun w _ s => ClosesFor (l :: tr) w s) c :=
      fun t s hs lid hd => (ih t s hs lid hd).imp ClosedFor.later id
    cases st with
    | @run t s rest o e ho =>
      have ran : Label.ran t s o c ∈ Label.ran t s o c :: tr := List.mem_cons_self
      have made : ∀ {lid}, lid ∈ c.world.issued ∧
            (∀ l, c.world.hub.lobbies.lookup lid = some l → ¬ l.automatch) →
          lid ∈ (exec srv s o c.world).1.issued ∧
            ∀ l, (exec srv s o c.world).1.hub.lobbies.lookup lid = some l → ¬ l.automatch := by
        rintro lid ⟨drawn, plain⟩
        refine ⟨exec_issued drawn, fun l' hl' auto => ?_⟩
        rcases (exec_change srv s o basic.sized).lobby_back hl' with ⟨l, hl, frame⟩ |
          ⟨_, _, _, -, rfl, -⟩ | ⟨_, -, -, -, -, rfl, -⟩
        · exact plain l hl (frame.automatch ▸ auto)
        · exact absurd drawn ho.2.1
        · exact absurd drawn ho.2.1
      apply old.run e
      · exact fun t' s' _ h lid hd => (h lid hd).imp id made
      · rintro s' hs' lid rfl
        rcases exec_destroys hs' with ⟨p, l, hp, hl, host⟩ | ⟨p, rfl, hp⟩ | gives
        · refine .inr (made ⟨basic.lobby_issued lid l hl, fun l0 hl0 auto => ?_⟩)
          -- The host of a match room is nobody that is connected.
          obtain rfl := Option.some.inj (hl.symm.trans hl0)
          obtain ⟨row, hrow, -⟩ := Option.bind_eq_some_iff.mp hp
          have named := (basic.client_issued p (connected_iff.mpr ⟨row, hrow⟩)).1
          exact named (host.symm.trans (HubRun.formed_as r lid l hl auto).shape.1)
        · obtain rfl := HubRun.actor_task r t _ (e ▸ List.mem_cons_self) p rfl
          exact .inl (.inl ⟨p, o, c, ran, hp⟩)
        · exact .inl (.inr ⟨t, s, o, c, ran, gives⟩)
    | @event e _ _ =>
      apply old.event
      · intro t' s' _ h lid hd
        refine (h lid hd).imp id fun ⟨drawn, plain⟩ => ⟨apply_issued drawn, fun l hl => ?_⟩
        exact plain l ((apply_lobbies srv c.world e) ▸ hl)
      · rintro s' hs' lid rfl
        have kind := body_kinds hs'
        simp at kind

/-- What a match room keeps from its formation to its destruction, and why it is destroyed. -/
structure MatchRoomKept (srv : Server) (c : HubSnapshot) (tr : List HubLabel) : Prop where
  /-- Two seats for the pair, whoever sits where, and the settings of the formation. -/
  formed : ∀ lid l, c.world.hub.lobbies.lookup lid = some l → l.automatch →
    ∃ t plan o pre, .ran t (form_match_room plan) o pre ∈ tr ∧ lid = o.uuid ∧
      l.member_ids ~ [plan.p.a.player_id, plan.p.b.player_id] ∧ (∀ s ∈ l.spectators, s = none) ∧
      l.host_player_id = "" ∧ l.match_caps = some plan.caps ∧
      l.relay_host_player_id = plan.relay_ticket.player_id ∧
      l.host_endpoint = if plan.p.is_ice then "" else plan.relay_ticket.relay_endpoint.getD ""
  /-- The match begins when the server says so. -/
  began : ∀ t s o pre, .ran t s o pre ∈ tr → ∀ lid l l',
    pre.world.hub.lobbies.lookup lid = some l → l.automatch →
    (exec srv s o pre.world).1.hub.lobbies.lookup lid = some l' → l'.started = l.started ∨
      ∃ task caps sid sp tr ice, s = start_commit (.server task) lid caps sid sp tr ice
  /-- A matched player is in the room, or the room is about to go. -/
  leaving : ∀ lid l p, c.world.hub.lobbies.lookup lid = some l → l.automatch →
    p ∈ l.member_ids → c.world.hub.lobby_id_of p = some lid ∨
      destroy_lobby lid ∈ c.pending (.conn p)
  closed : ∀ t lid l, destroy_lobby lid ∈ c.pending t → c.world.hub.lobbies.lookup lid = some l →
    l.automatch → ClosedFor tr lid

/-- In a run whose match rooms seat only clients that are free, every match room is kept as it was
formed. -/
theorem match_room_kept {srv c tr} (r : HubRun srv c tr) (free : ∀ l ∈ tr, FormsFree srv l) :
    MatchRoomKept srv c tr where
  formed lid l hl auto := by
    obtain ⟨t, plan, o, pre, ran, e, same⟩ := HubRun.formed_as r lid l hl auto
    refine ⟨t, plan, o, pre, ran, e, ?_, ?_, same.host, same.caps, same.relay, same.endpoint⟩
    · exact same.members.trans (.of_eq (matchLobby_members ..))
    · have none : l.spectators.length = 0 := same.spectators_length
      rw [List.length_eq_zero_iff.mp none]
      simp
  began t s o pre ran lid l l' hl auto hl' := by
    obtain ⟨rest, earlier, r', -, e⟩ := Run.ran_pending r ran
    have possible : o.possible pre.world := Run.ran_answers r ran
    have fresh : lid ≠ o.uuid := by
      rintro rfl
      exact possible.2.1 ((HubRun.basic r').lobby_issued _ l hl)
    exact (FormedAs.step r' e (HubRun.formed_as r' lid l hl auto) hl hl' auto fresh).2
  leaving lid l p hl _ hp := by
    rcases (HubRun.seats_sound r free).sound.noted p lid (mem_roster.mpr ⟨l, hl, hp⟩) with h | h
    · exact .inl h
    · exact .inr h
  closed t lid l hd hl auto := by
    rcases HubRun.match_closed r t _ hd lid rfl with why | ⟨-, plain⟩
    · exact why
    · exact absurd auto (plain l hl)

/-- A departure does not always destroy the room of the match. -/
theorem match_room_outlives : ¬ ∀ c tr, HubRun sampleServer c tr →
    MatchRoomKept sampleServer c tr := by
  intro all
  obtain ⟨c, tr, lid, l, p, r, quiet, hl, auto, hp, gone⟩ := matched_elsewhere_run
  rcases (all c tr r).leaving lid l p hl auto hp with noted | closing
  · obtain ⟨row, hrow, -⟩ := Option.bind_eq_some_iff.mp noted
    exact gone (connected_iff.mpr ⟨row, hrow⟩)
  · rw [quiet] at closing
    cases closing

def closesIn (lid : String) : Section → Bool
  | destroy_lobby lid' => lid' = lid
  | _ => false

/-- A match room is kept until Alice, who leaves it, destroys it. -/
theorem match_room_kept_left : ∃ c tr, HubRun sampleServer c tr ∧
    (∃ lid l p, c.world.hub.lobbies.lookup lid = some l ∧ l.automatch ∧ p ∈ l.member_ids ∧
      destroy_lobby lid ∈ c.pending (.conn p)) ∧ MatchRoomKept sampleServer c tr := by
  let p := "6b0f1e52-3c1d-4a86-9a53-0d5f6f1c2a11"
  let q := "c4d1c1a0-5f0e-4a53-8d43-9f4b1f7f3b22"
  let lid := "1f8a9f0e-7d2b-4b57-8f6f-2f6f2b0c9d01"
  let ms := pairUp p q lid ++ [say p { op := .leave }] ++
    steps (.conn p) 3 (draw "9b1deb4d-3b7d-4bad-9bdd-2b0d7b3dcb6d")
  let test : HubSnapshot × List HubLabel → Bool := fun x =>
    ((x.1.world.hub.lobbies.lookup lid).any fun l => l.automatch && p ∈ l.member_ids) &&
      (x.1.pending (.conn p)).any (closesIn lid) && x.2.all (formsFree sampleServer)
  have h : ((hubMachine sampleServer).follow ms).any test := by decide +kernel
  obtain ⟨c, tr, r, ht, -⟩ := Machine.follow_reaches h
  obtain ⟨ht, free⟩ := (Bool.and_eq_true _ _).mp ht
  obtain ⟨room, closing⟩ := (Bool.and_eq_true _ _).mp ht
  obtain ⟨l, hl, hp⟩ := (Option.any_eq_true _ _).mp room
  obtain ⟨auto, hp⟩ := (Bool.and_eq_true _ _).mp hp
  obtain ⟨s, hs, hc⟩ := List.any_eq_true.mp closing
  refine ⟨c, tr, r, ⟨lid, l, p, hl, auto, of_decide_eq_true hp, ?_⟩, ?_⟩
  · cases s with
    | destroy_lobby lid' =>
      obtain rfl : lid' = lid := of_decide_eq_true hc
      exact hs
    | _ => cases hc
  · exact match_room_kept r fun l hl => formsFree_sound (List.all_eq_true.mp free l hl)

end RecompNet
