import RecompNet.Hub.LaunchGate
import RecompNet.Hub.RefusedJoin
import RecompNet.Hub.RoomEdit
import RecompNet.Hub.MatchRoom
import RecompNet.Hub.StartTask
import RecompNet.Hub.SeatOps

/-!
# Caps that a host sends

Three messages bring match caps and share one sanitizer. `set_match_caps` answers caps that it turns down
with an error; `create` and `start` do without them and say nothing, so that a room has none, or a match
launches with the caps of before.
-/

namespace RecompNet

open Section Interleave

/-- A frame that refuses a request. -/
def OutMsg.refusal : OutMsg → Bool
  | .error _ | .start_refused _ => true
  | _ => false

/-- The room of a player has the sanitized form of the caps that it sent. -/
def TakesCaps (g : HubInner) (p : String) (sent : Option Value) : Prop :=
  ∃ lid l caps, g.lobby_id_of p = some lid ∧ g.lobbies.lookup lid = some l ∧
    sanitize_match_caps sent = some caps ∧ l.match_caps = some caps

/-- A request was refused, and the rooms are as they were. -/
def RefusesCaps (w w' : World) (p : String) : Prop :=
  (∃ m ∈ heard w w' p, m.refusal) ∧ w'.hub.lobbies = w.hub.lobbies

/-- The sanitizer accepts the caps of a request, or the request is refused with them or without. -/
def HeedsCaps (w : World) (p : String) (msg : InMsg) : Prop :=
  (sanitize_match_caps msg.match_caps).isSome ∨
    match msg.op with
    | .create => (w.hub.lobby_id_of p).isSome ∨ MAX_LOBBIES ≤ w.hub.lobbies.size
    | .start => ∀ lid l transport, w.hub.lobby_id_of p = some lid →
        w.hub.lobbies.lookup lid = some l → l.host_player_id = p → 2 ≤ player_count l →
          start_transport w.now l l.match_caps true ≠ .ok transport
    | _ => True

/-- What a request with caps comes to. -/
def SettlesCaps (w : World) (p : String) (msg : InMsg) (w' : World) : Prop :=
  (TakesCaps w'.hub p msg.match_caps ∨ RefusesCaps w w' p) ↔ HeedsCaps w p msg

/-! ## The end of a request -/

/-- A section that announces what was done, and refuses nothing. -/
def Section.announces : Section → Bool
  | send_to _ m => !m.refusal
  | broadcast_list | emit_lobby_update _ => true
  | _ => false

/-- An announcement leaves the hub as it was, and leads to announcements. -/
lemma exec_announces {srv : Server} {s : Section} {o : Answer} {w : World} (h : s.announces) :
    (exec srv s o w).1.hub = w.hub ∧ (∀ s' ∈ (exec srv s o w).2, s'.announces) ∧
      ∃ fs, (exec srv s o w).1.sent = w.sent ++ fs ∧ ∀ x ∈ fs, !x.2.refusal := by
  cases s with
  | send_to q m =>
    simp only [exec]
    refine ⟨World.send_hub w q m, List.forall_mem_nil _, frameTo w.hub q m, send_sent w q m, ?_⟩
    intro x hx
    unfold frameTo at hx
    split at hx
    · exact List.mem_singleton.mp hx ▸ h
    · cases hx
  | broadcast_list =>
    simp only [exec]
    refine ⟨rfl, List.forall_mem_nil _, broadcastFrames srv w.hub, rfl, fun x hx => ?_⟩
    obtain ⟨id, -, rfl⟩ := List.mem_map.mp hx
    rfl
  | emit_lobby_update lid =>
    simp only [exec, World.lift, emit_lobby_update_step]
    split
    · exact ⟨rfl, List.forall_mem_nil _, [], (List.append_nil _).symm, List.forall_mem_nil _⟩
    · refine ⟨rfl, fun s' hs' => ?_, [], (List.append_nil _).symm, List.forall_mem_nil _⟩
      obtain ⟨m, -, rfl⟩ := List.mem_map.mp hs'
      rfl
  | _ => cases h

/-- What announcements leave: the hub as it was, and no refusal. -/
lemma ends_announced {srv : Server} {ss : List Section} {w w' : World}
    (calm : ∀ s ∈ ss, s.announces) (quiet : ∃ fs, w'.sent = w.sent ++ fs ∧ ∀ x ∈ fs, !x.2.refusal) :
    (hubMachine srv).Ends ss w' fun w'' =>
      w''.hub = w'.hub ∧ ∀ p, ∀ m ∈ heard w w'' p, !m.refusal := by
  intro os
  induction os generalizing ss w' with
  | nil =>
    intro
    refine ⟨rfl, fun p m hm => ?_⟩
    obtain ⟨fs, grows, hfs⟩ := quiet
    rw [Machine.solo, heard, grows, List.drop_left] at hm
    obtain ⟨x, hx, rfl⟩ := List.mem_map.mp hm
    exact hfs x (List.mem_filter.mp hx).1
  | cons o os ih =>
    cases ss with
    | nil =>
      intro
      refine ⟨rfl, fun p m hm => ?_⟩
      obtain ⟨fs, grows, hfs⟩ := quiet
      rw [Machine.solo, heard, grows, List.drop_left] at hm
      obtain ⟨x, hx, rfl⟩ := List.mem_map.mp hm
      exact hfs x (List.mem_filter.mp hx).1
    | cons s rest =>
      intro through
      obtain ⟨fs, grows, hfs⟩ := quiet
      obtain ⟨hub, next, fs', grows', hfs'⟩ := @exec_announces srv s o w' (calm s List.mem_cons_self)
      have rest_calm : ∀ s' ∈ (exec srv s o w').2 ++ rest, s'.announces := by
        intro s' hs'
        rcases List.mem_append.mp hs' with h | h
        · exact next s' h
        · exact calm s' (List.mem_cons_of_mem _ h)
      have longer : (exec srv s o w').1.sent = w.sent ++ (fs ++ fs') := by
        rw [grows', grows, List.append_assoc]
      obtain ⟨same, hears⟩ := ih rest_calm
        ⟨fs ++ fs', longer, fun x hx => (List.mem_append.mp hx).elim (hfs x) (hfs' x)⟩ through
      exact ⟨same.trans hub, hears⟩

/-- A handler that refuses, and does nothing else. -/
lemma ends_refused {srv : Server} {w w' : World} {p : String} {m : OutMsg} (hc : w'.hub.connected p)
    (same : w'.sent = w.sent) (hub : w'.hub.lobbies = w.hub.lobbies) (refuses : m.refusal) :
    (hubMachine srv).Ends [send_to p m] w' fun w'' => RefusesCaps w w'' p := by
  refine .step fun o => .done ?_
  refine ⟨⟨m, ?_, refuses⟩, ?_⟩
  · exact (heard_send hc same).symm ▸ List.mem_singleton_self m
  · exact (congrArg HubInner.lobbies (World.send_hub w' p m)).trans hub

/-! ## The three requests -/

section
variable {srv : Server} {w : World} {p ip : String} {msg : InMsg}

/-- A request that is refused settles the caps if they needed no taking. -/
lemma ends_settled {ss : List Section} {w' : World} (heeds : HeedsCaps w p msg)
    (h : (hubMachine srv).Ends ss w' fun w'' => RefusesCaps w w'' p) :
    (hubMachine srv).Ends ss w' (SettlesCaps w p msg) :=
  h.mono fun _ refused => iff_of_true (.inr refused) heeds

lemma ends_refuse {code : Code} (hc : w.hub.connected p) (heeds : HeedsCaps w p msg) :
    (hubMachine srv).Ends (refuse w.hub p code).2 w (SettlesCaps w p msg) :=
  ends_settled heeds (ends_refused hc rfl rfl rfl)

/-- A request that is announced: its caps are settled if the room has them, or has not and need not. -/
lemma ends_taken {ss : List Section} {w' : World} (calm : ∀ s ∈ ss, s.announces)
    (same : w'.sent = w.sent) (takes : TakesCaps w'.hub p msg.match_caps ↔ HeedsCaps w p msg) :
    (hubMachine srv).Ends ss w' (SettlesCaps w p msg) := by
  have quiet : ∃ fs, w'.sent = w.sent ++ fs ∧ ∀ x ∈ fs, !x.2.refusal :=
    ⟨[], by rw [same, List.append_nil], List.forall_mem_nil _⟩
  refine (ends_announced calm quiet).mono ?_
  rintro w'' ⟨hub, hears⟩
  refine Iff.trans ⟨fun h => h.elim id ?_, .inl⟩ (hub.symm ▸ takes)
  rintro ⟨⟨m, hm, refuses⟩, -⟩
  exact absurd refuses (by simpa using hears p m hm)

lemma set_match_caps_settles (hc : w.hub.connected p) (op : msg.op = .set_match_caps) :
    (hubMachine srv).Ends (handle_set_match_caps w.hub p msg).2
      (w.setHub (handle_set_match_caps w.hub p msg).1) (SettlesCaps w p msg) := by
  have heeds : HeedsCaps w p msg := by
    right
    rw [op]
    trivial
  unfold handle_set_match_caps
  split
  · exact ends_refuse hc heeds
  · rename_i caps hcaps
    split
    · exact ends_refuse hc heeds
    · rename_i lid noted
      split
      · exact ends_refuse hc heeds
      · rename_i l hl
        split
        · exact ends_refuse hc heeds
        · refine ends_taken (fun s hs => List.mem_singleton.mp hs ▸ rfl) rfl (iff_of_true ?_ heeds)
          refine ⟨lid, { l with match_caps := some caps }, caps, noted, ?_, hcaps, rfl⟩
          exact (Assoc.Map.lookup_modify_self ..).trans (congrArg _ hl)

/-- The room that a creation leaves. -/
lemma create_insert_settles {o : Answer} {w' : World} (hc : w'.hub.connected p)
    (same : w'.sent = w.sent) (op : msg.op = .create)
    (open' : ¬ ((w.hub.lobby_id_of p).isSome ∨ MAX_LOBBIES ≤ w.hub.lobbies.size)) :
    (hubMachine srv).Ends (create_insert_step srv o w'.hub p ip msg).2
      (w'.setHub (create_insert_step srv o w'.hub p ip msg).1) (SettlesCaps w p msg) := by
  refine ends_taken ?_ same ?_
  · intro s hs
    simp only [create_insert_step, List.mem_cons, List.not_mem_nil, or_false] at hs
    rcases hs with rfl | rfl <;> rfl
  · have noted : (create_insert_step srv o w'.hub p ip msg).1.lobby_id_of p = some o.uuid := by
      obtain ⟨c, hrow⟩ := connected_iff.mp hc
      simp only [create_insert_step, HubInner.lobby_id_of, HubInner.setClient]
      rw [Assoc.Map.lookup_modify_self, hrow]
      rfl
    have room : (create_insert_step srv o w'.hub p ip msg).1.lobbies.lookup o.uuid =
        some (createdLobby srv w'.hub o p ip msg) := AList.lookup_insert _
    have heeds : HeedsCaps w p msg ↔ (sanitize_match_caps msg.match_caps).isSome := by
      unfold HeedsCaps
      rw [op]
      exact or_iff_left open'
    rw [heeds]
    constructor
    · rintro ⟨-, -, caps, -, -, hcaps, -⟩
      rw [hcaps]
      rfl
    · intro some
      obtain ⟨caps, hcaps⟩ := Option.isSome_iff_exists.mp some
      exact ⟨o.uuid, _, caps, noted, room, hcaps, hcaps⟩

lemma create_settles (hc : w.hub.connected p) (op : msg.op = .create) :
    (hubMachine srv).Ends (handle_create w.hub p ip msg).2 (w.setHub (handle_create w.hub p ip msg).1)
      (SettlesCaps w p msg) := by
  have heeds : (w.hub.lobby_id_of p).isSome ∨ MAX_LOBBIES ≤ w.hub.lobbies.size →
      HeedsCaps w p msg := by
    intro shut
    right
    rw [op]
    exact shut
  unfold handle_create
  split
  · rename_i inside
    exact ends_refuse hc (heeds (.inl inside))
  · rename_i outside
    split
    · rename_i full
      exact ends_refuse hc (heeds (.inr full))
    · rename_i room
      have open' := not_or.mpr ⟨outside, room⟩
      cases Text.nonempty msg.display_name with
      | none =>
        refine .step fun o => ?_
        rw [List.append_nil]
        let w' := { w with issued := o.uuid :: w.issued }
        exact @create_insert_settles srv w p ip msg o w' hc rfl op open'
      | some name =>
        refine .step fun _ => .step fun o => ?_
        rw [List.append_nil]
        let w' : World :=
          { w with
            hub := (handle_set_display_name w.hub p name).1
            issued := o.uuid :: w.issued }
        have renamed : w'.hub.connected p := connected_rename.trans hc
        exact @create_insert_settles srv w p ip msg o w' renamed rfl op open'

/-- The gate of a start, and what follows. -/
lemma start_prepare_settles {lid : String} {l : Lobby} (hc : w.hub.connected p) (op : msg.op = .start)
    (noted : w.hub.lobby_id_of p = some lid) (hl : w.hub.lobbies.lookup lid = some l)
    (host : l.host_player_id = p) :
    (hubMachine srv).Ends [start_prepare (.host p msg.match_caps) lid
      (sanitize_match_caps msg.match_caps) true] w (SettlesCaps w p msg) := by
  -- The room is that of the sender, so what the gate asks is settled here.
  have bare : HeedsCaps w p msg ↔ (sanitize_match_caps msg.match_caps).isSome ∨
      (2 ≤ player_count l → ∀ transport, start_transport w.now l l.match_caps true ≠ .ok transport) := by
    unfold HeedsCaps
    rw [op]
    refine or_congr_right ⟨fun h two tr => h lid l tr noted hl host two, ?_⟩
    rintro h lid' l' tr noted' hl' - two
    obtain rfl := Option.some.inj (noted.symm.trans noted')
    obtain rfl := Option.some.inj (hl.symm.trans hl')
    exact h two tr
  refine .step fun o => ?_
  rw [List.append_nil]
  simp only [hubMachine, exec, World.lift, start_prepare_step, hl]
  split
  · -- too few players
    rename_i few
    have heeds : HeedsCaps w p msg := bare.mpr (.inr fun two => absurd few (by omega))
    exact .step fun _ => ends_settled heeds (ends_refused hc rfl rfl rfl)
  · rename_i two
    split
    · -- The gate refuses, so no caps were sent and the stored ones do not pass.
      rename_i why gate
      have heeds : HeedsCaps w p msg := by
        rw [bare]
        cases hcaps : sanitize_match_caps msg.match_caps with
        | some caps => exact .inl rfl
        | none =>
          refine .inr fun _ transport ok => ?_
          rw [hcaps, Option.none_or, ok] at gate
          cases gate
      refine .step fun _ => .step fun _ => ends_settled heeds ?_
      simp only [hubMachine, exec, World.lift, start_reason_step]
      split
      · exact ends_refused hc rfl rfl rfl
      · exact ends_refused hc rfl rfl rfl
    · -- The gate passes: the launch stores the caps that were sent.
      rename_i transport gate
      refine .step fun _ => ?_
      rw [List.append_nil]
      simp only [exec, World.lift, World.setHub, start_commit_step, hl]
      refine ends_taken ?_ rfl ?_
      · intro s hs
        obtain ⟨m, -, rfl⟩ := List.mem_map.mp hs
        rfl
      · rw [bare]
        cases hcaps : sanitize_match_caps msg.match_caps with
        | some caps =>
          refine iff_of_true ?_ (.inl rfl)
          refine ⟨lid, l.launch (some caps) w.hub.next_session, caps, noted, ?_, hcaps, rfl⟩
          exact (Assoc.Map.lookup_modify_self ..).trans (congrArg _ hl)
        | none =>
          refine iff_of_false ?_ ?_
          · rintro ⟨-, -, caps, -, -, some, -⟩
            rw [hcaps] at some
            cases some
          · rw [hcaps, Option.none_or] at gate
            rintro (some | shut)
            · cases some
            · exact shut (by omega) transport gate

lemma start_settles (hc : w.hub.connected p) (op : msg.op = .start) :
    (hubMachine srv).Ends (handle_start w.hub p msg).2 (w.setHub (handle_start w.hub p msg).1)
      (SettlesCaps w p msg) := by
  have heeds : (∀ lid l, w.hub.lobby_id_of p = some lid → w.hub.lobbies.lookup lid = some l →
      l.host_player_id ≠ p) → HeedsCaps w p msg := by
    intro nobody
    right
    rw [op]
    exact fun lid l _ noted hl host => absurd host (nobody lid l noted hl)
  unfold handle_start
  cases noted : w.hub.lobby_id_of p with
  | none => exact ends_refuse hc (heeds fun _ _ h => by rw [noted] at h; cases h)
  | some lid =>
    dsimp only
    cases hl : w.hub.lobbies.lookup lid with
    | none =>
      refine ends_refuse hc (heeds fun lid' l' h hl' => ?_)
      obtain rfl := Option.some.inj (noted.symm.trans h)
      rw [hl] at hl'
      cases hl'
    | some l =>
      dsimp only
      split
      · rename_i other
        refine ends_refuse hc (heeds fun lid' l' h hl' => ?_)
        obtain rfl := Option.some.inj (noted.symm.trans h)
        obtain rfl := Option.some.inj (hl.symm.trans hl')
        exact other
      · rename_i host
        exact start_prepare_settles hc op noted hl (not_not.mp host)

/-- A request with caps, run alone. -/
lemma dispatch_settles (hc : w.hub.connected p)
    (op : msg.op ∈ [ClientOp.create, .set_match_caps, .start]) :
    (hubMachine srv).Ends [dispatch p ip msg] w (SettlesCaps w p msg) := by
  simp only [List.mem_cons, List.not_mem_nil, or_false] at op
  refine .step fun o => ?_
  rw [List.append_nil]
  rcases op with op | op | op
  all_goals simp only [hubMachine, exec, World.lift, dispatch_step, op]
  · exact create_settles hc op
  · exact set_match_caps_settles hc op
  · exact start_settles hc op

end

/-! ## What a launch carries -/

/-- What a step that is not refused brings as the caps that the host of a room sends. A room starts with
those of its `create`, and a room of the server without. -/
def sentCaps (lid : String) : HubLabel → Option (Option Value)
  | .ran _ (create_insert _ _ msg) o _ => if o.uuid = lid then some msg.match_caps else none
  | .ran _ (form_match_room _) o _ => if o.uuid = lid then some none else none
  | .ran _ (dispatch p _ msg) _ pre =>
    if msg.op = .set_match_caps ∧ pre.world.hub.lobby_id_of p = some lid ∧
        (pre.world.hub.lobbies.lookup lid).any (·.host_player_id = p) ∧
        (sanitize_match_caps msg.match_caps).isSome then
      some msg.match_caps
    else none
  | .ran _ (start_commit starter lid' ..) _ pre =>
    if lid' = lid ∧ (pre.world.hub.lobbies.lookup lid).isSome then starter.sent_caps.map some
    else none
  | _ => none

/-- The last caps that the host of a room sent and that were not refused. -/
def lastSent (lid : String) (tr : List HubLabel) : Option Value := (tr.findSome? (sentCaps lid)).join

/-- Only `set_match_caps` and a start write the caps of a room. -/
lemma RoomEdit.match_caps {srv o w lid l s l'} (h : RoomEdit srv o w lid l s l') :
    l'.match_caps = l.match_caps ∨
    (∃ p ip msg, s = dispatch p ip msg ∧ msg.op = .set_match_caps ∧
      (sanitize_match_caps msg.match_caps).isSome ∧ w.hub.lobby_id_of p = some lid ∧
      l.host_player_id = p) ∨
    ∃ st caps sid sp tr ice, s = start_commit st lid caps sid sp tr ice ∧ l' = l.launch caps sid := by
  -- The caps are no part of the seats.
  have read : ∀ {m n : Lobby}, m.furniture = n → m.match_caps = n.match_caps :=
    fun e => (congrArg Lobby.match_caps e :)
  have kept : ∀ {m : Lobby}, m.furniture = l.furniture → m.match_caps = l.match_caps :=
    fun e => (read e).trans rfl
  cases h with
  | same | path_report | vacate => exact .inl rfl
  | rename | set_ready => exact .inl (kept Lobby.furniture_setMember)
  | set_match_caps op hcaps noted host =>
    exact .inr (.inl ⟨_, _, _, rfl, op, hcaps ▸ rfl, noted, host⟩)
  | set_host_endpoint _ _ _ paths =>
    rcases paths with ⟨rfl, -⟩ | rfl <;> exact .inl rfl
  | move | seat_move => exact .inl (kept Lobby.furniture_rearrange)
  | seat_swap_answer => exact .inl (kept Lobby.furniture_trade)
  | kick => exact .inl ((read Lobby.furniture_kick).trans rfl)
  | sit => exact .inl ((read Lobby.furniture_sit).trans rfl)
  | launch => exact .inr (.inr ⟨_, _, _, _, _, _, rfl, rfl⟩)

/-- A step that brings caps which the sanitizer accepts leaves them in the room. -/
lemma exec_caps_sent {srv t s o lid l' sent caps} {pre : HubSnapshot} (brings : s.bringsSentCaps)
    (hl' : (exec srv s o pre.world).1.hub.lobbies.lookup lid = some l')
    (hs : sentCaps lid (.ran t s o pre) = some sent) (hcaps : sanitize_match_caps sent = some caps) :
    l'.match_caps = some caps := by
  cases s with
  | create_insert p ip msg =>
    simp only [sentCaps] at hs
    split at hs
    · rename_i e
      cases hs
      have made : (exec srv (create_insert p ip msg) o pre.world).1.hub.lobbies.lookup o.uuid =
          some (createdLobby srv pre.world.hub o p ip msg) := AList.lookup_insert _
      obtain rfl := Option.some.inj (hl'.symm.trans (e ▸ made))
      exact hcaps
    · cases hs
  | form_match_room plan =>
    simp only [sentCaps] at hs
    split at hs
    · cases hs
      cases hcaps
    · cases hs
  | dispatch p ip msg =>
    simp only [sentCaps] at hs
    split at hs
    · rename_i taken
      obtain ⟨op, noted, host, -⟩ := taken
      cases hs
      obtain ⟨l, hl, host⟩ := (Option.any_eq_true _ _).mp host
      have mine : ¬ l.host_player_id ≠ p := not_not.mpr (of_decide_eq_true host)
      simp only [exec, World.lift, World.setHub, dispatch_step, op, handle_set_match_caps, hcaps, noted,
        hl, if_neg mine] at hl'
      obtain ⟨l0, -, ⟨other, -⟩ | ⟨-, rfl⟩⟩ := lookup_setLobby_back hl'
      · exact absurd rfl other
      · rfl
    · cases hs
  | start_commit st lid' fresh sid sp tr ice =>
    simp only [sentCaps] at hs
    split at hs
    · rename_i here
      obtain ⟨rfl, there⟩ := here
      obtain ⟨l, hl⟩ := Option.isSome_iff_exists.mp there
      obtain ⟨v, hv, rfl⟩ := Option.map_eq_some_iff.mp hs
      have fresh_eq : fresh = sanitize_match_caps st.sent_caps := brings
      rw [hv, hcaps] at fresh_eq
      simp only [exec, World.lift, World.setHub, start_commit_step, hl] at hl'
      obtain ⟨l0, -, ⟨other, -⟩ | ⟨-, rfl⟩⟩ := lookup_setLobby_back hl'
      · exact absurd rfl other
      · rw [fresh_eq]
        rfl
    · cases hs
  | _ => cases hs

/-- A step that brings no caps leaves those of a room as they are. -/
lemma exec_caps_kept {srv t s o lid l'} {pre : HubSnapshot} (brings : s.bringsSentCaps)
    (hl' : (exec srv s o pre.world).1.hub.lobbies.lookup lid = some l')
    (hs : sentCaps lid (.ran t s o pre) = none) :
    ∃ l, pre.world.hub.lobbies.lookup lid = some l ∧ l'.match_caps = l.match_caps := by
  rcases exec_room hl' with ⟨l, hl, edit⟩ | ⟨p, ip, msg, rfl, rfl, -⟩ | ⟨plan, rfl, rfl, -⟩
  · refine ⟨l, hl, ?_⟩
    rcases edit.match_caps with same | ⟨p, ip, msg, rfl, op, accepted, noted, host⟩ |
      ⟨st, fresh, sid, sp, tr, ice, rfl, rfl⟩
    · exact same
    · have taken : msg.op = .set_match_caps ∧ pre.world.hub.lobby_id_of p = some lid ∧
          (pre.world.hub.lobbies.lookup lid).any (·.host_player_id = p) ∧
          (sanitize_match_caps msg.match_caps).isSome :=
        ⟨op, noted, by rw [hl, Option.any_some, decide_eq_true host], accepted⟩
      simp only [sentCaps, if_pos taken, reduceCtorEq] at hs
    · have there : lid = lid ∧ (pre.world.hub.lobbies.lookup lid).isSome := ⟨rfl, hl ▸ rfl⟩
      rw [sentCaps, if_pos there, Option.map_eq_none_iff] at hs
      have fresh_eq : fresh = sanitize_match_caps st.sent_caps := brings
      rw [fresh_eq, hs]
      rfl
  · simp [sentCaps] at hs
  · simp [sentCaps] at hs

/-- The caps of a room are those that its host sent last, when the sanitizer accepts them. -/
def LastCaps (c : HubSnapshot) (tr : List HubLabel) : Prop :=
  ∀ lid l, c.world.hub.lobbies.lookup lid = some l → ∀ v caps, lastSent lid tr = some v →
    sanitize_match_caps (some v) = some caps → l.match_caps = some caps

lemma lastSent_sent {lid x tr sent} (h : sentCaps lid x = some sent) : lastSent lid (x :: tr) = sent := by
  rw [lastSent, List.findSome?_cons, h]
  rfl

lemma lastSent_later {lid x tr} (h : sentCaps lid x = none) : lastSent lid (x :: tr) = lastSent lid tr := by
  rw [lastSent, List.findSome?_cons, h]
  rfl

/-- A section keeps to the last caps. -/
lemma LastCaps.run {srv c tr t s o} (h : LastCaps c tr) (brings : s.bringsSentCaps) {c' : HubSnapshot}
    (hw : c'.world = (exec srv s o c.world).1) : LastCaps c' (.ran t s o c :: tr) := by
  intro lid l' hl' v caps last hcaps
  rw [hw] at hl'
  cases hs : sentCaps lid (.ran t s o c) with
  | some sent =>
    rw [lastSent_sent hs] at last
    exact exec_caps_sent brings hl' hs (last ▸ hcaps)
  | none =>
    rw [lastSent_later hs] at last
    obtain ⟨l, hl, same⟩ := exec_caps_kept brings hl' hs
    exact same.trans (h lid l hl v caps last hcaps)

theorem HubRun.last_caps {srv c tr} (r : HubRun srv c tr) : LastCaps c tr := by
  induction r with
  | start => intro lid l hl; simp [hubMachine] at hl
  | @step c tr x c' r st ih =>
    cases st with
    | @run t s rest o e ho =>
      have brings := HubRun.brings_sent_caps r t s (e ▸ List.mem_cons_self)
      exact ih.run brings rfl
    | @event e _ _ =>
      intro lid l hl v caps last hcaps
      have same : ((hubMachine srv).afterEvent c e).world.hub.lobbies = c.world.hub.lobbies :=
        apply_lobbies srv c.world e
      rw [same] at hl
      exact ih lid l hl v caps (lastSent_later (x := .came e c) rfl ▸ last) hcaps

/-- The room that a commit leaves. -/
lemma committed_room {srv o w lid l starter fresh sid sp transport ice}
    (hl : w.hub.lobbies.lookup lid = some l) :
    (exec srv (start_commit starter lid fresh sid sp transport ice) o w).1.hub.lobbies.lookup lid =
      some (l.launch fresh sid) := by
  simp only [exec, World.lift, World.setHub, start_commit_step, hl]
  exact (Assoc.Map.lookup_modify_self ..).trans (congrArg _ hl)

/-- **Caps that a host sends.** A request with caps stores their sanitized form, or is refused with an error
and leaves the rooms alone, exactly when the sanitizer accepts them or the request is refused at any rate;
and a launch carries the sanitized form of the last caps that were sent and not refused exactly when the
sanitizer accepts those. -/
theorem sent_caps_settle {srv c tr} (r : HubRun srv c tr) :
    (∀ p ip msg, c.world.hub.connected p → msg.op ∈ [ClientOp.create, .set_match_caps, .start] →
      msg.match_caps.isSome →
        (hubMachine srv).Ends [dispatch p ip msg] c.world fun w' =>
          (TakesCaps w'.hub p msg.match_caps ∨ RefusesCaps c.world w' p) ↔ HeedsCaps c.world p msg) ∧
    ∀ later t s o pre earlier, tr = later ++ .ran t s o pre :: earlier → ∀ q m v,
      send_to q (.launch m) ∈ (exec srv s o pre.world).2 →
      lastSent m.lobby_id (.ran t s o pre :: earlier) = some v →
        ((∃ caps, sanitize_match_caps (some v) = some caps ∧ m.match_caps = some caps) ↔
          (sanitize_match_caps (some v)).isSome) := by
  constructor
  · exact fun p ip msg hc op _ => dispatch_settles hc op
  · rintro later t s o pre earlier rfl q m v hs last
    obtain ⟨rpre, c', st⟩ := r.pre_reached _ later earlier rfl
    obtain ⟨starter, lid, fresh, sid, sp, transport, ice, l, rfl, hl, rfl⟩ := exec_launch hs
    have key : (l.launch fresh sid).lobby_id = lid := (HubRun.basic rpre).lobby_key lid l hl
    have room : c'.world.hub.lobbies.lookup lid = some (l.launch fresh sid) := by
      cases st with
      | run _ _ => exact @committed_room srv o pre.world lid l starter fresh sid sp transport ice hl
    have kept := HubRun.last_caps (rpre.step st) lid _ room v
    have last : lastSent (l.launch fresh sid).lobby_id _ = some v := last
    rw [key] at last
    constructor
    · rintro ⟨caps, hcaps, -⟩
      rw [hcaps]
      rfl
    · intro accepted
      obtain ⟨caps, hcaps⟩ := Option.isSome_iff_exists.mp accepted
      exact ⟨caps, hcaps, kept caps last hcaps⟩

/-- A host that sends caps which the sanitizer accepts. -/
def hostCaps : InMsg := { op := .set_match_caps, match_caps := some (.object []) }

/-- Is the last step a launch, in a room whose host sent caps that the sanitizer accepts? -/
def launchesCaps (srv : Server) : List HubLabel → Bool
  | .ran t s o pre :: earlier => (exec srv s o pre.world).2.any fun
    | send_to _ (.launch m) =>
      (sanitize_match_caps (lastSent m.lobby_id (.ran t s o pre :: earlier))).isSome
    | _ => false
  | _ => false

/-- The host of a match launches with the caps of its start, and its next ones are stored. -/
theorem sent_caps_settle_host : ∃ c p t s o pre earlier,
    HubRun sampleServer c (.ran t s o pre :: earlier) ∧
    (∃ os w', (hubMachine sampleServer).solo os [dispatch p "203.0.113.7" hostCaps] c.world =
        (w', []) ∧ (TakesCaps w'.hub p hostCaps.match_caps ∨ RefusesCaps c.world w' p)) ∧
    ∃ q m v caps, send_to q (.launch m) ∈ (exec sampleServer s o pre.world).2 ∧
      lastSent m.lobby_id (.ran t s o pre :: earlier) = some v ∧
      sanitize_match_caps (some v) = some caps ∧ m.match_caps = some caps := by
  let p := "6b0f1e52-3c1d-4a86-9a53-0d5f6f1c2a11"
  let q := "c4d1c1a0-5f0e-4a53-8d43-9f4b1f7f3b22"
  let os := List.replicate 5 (draw "9b1deb4d-3b7d-4bad-9bdd-2b0d7b3dcb6d")
  let after (w : World) :=
    (hubMachine sampleServer).solo os [dispatch p "203.0.113.7" hostCaps] w
  have h : ((hubMachine sampleServer).follow
      (startOnRelay p q "1f8a9f0e-7d2b-4b57-8f6f-2f6f2b0c9d01")).any fun x =>
        launchesCaps sampleServer x.2 && x.1.world.hub.connected p &&
          (after x.1.world).2.isEmpty := by decide +kernel
  obtain ⟨c, tr, r, ht, -⟩ := Machine.follow_reaches h
  simp only [Bool.and_eq_true, List.isEmpty_iff] at ht
  obtain ⟨⟨launches, here⟩, through⟩ := ht
  unfold launchesCaps at launches
  split at launches
  · rename_i t s o pre earlier
    obtain ⟨requests, launched⟩ := sent_caps_settle r
    obtain ⟨sent, hsent, last⟩ := List.any_eq_true.mp launches
    split at last
    · rename_i q' m
      cases hv : lastSent m.lobby_id (.ran t s o pre :: earlier) with
      | none =>
        rw [hv] at last
        cases last
      | some v =>
        rw [hv] at last
        obtain ⟨caps, hcaps, carried⟩ :=
          (launched [] t s o pre earlier rfl q' m v hsent hv).mpr last
        have stored := requests p "203.0.113.7" hostCaps here (by decide) rfl os through
        exact ⟨c, p, t, s, o, pre, earlier, r,
          ⟨os, (after c.world).1, Prod.ext rfl through, stored.mpr (.inl rfl)⟩,
          q', m, v, caps, hsent, hv, hcaps, carried⟩
    · cases last
  · cases launches

/-- A player opens a room with caps that are no object. -/
def oddCreate : InMsg := { op := .create, match_caps := some (.number (.posInt 5)) }

/-- Is a player free to open a room, and is its odd request through after so many answers? -/
def opensOddly (p : String) (os : List Answer) (w : World) : Bool :=
  w.hub.connected p && (w.hub.lobby_id_of p).isNone && w.hub.lobbies.size < MAX_LOBBIES &&
    ((hubMachine sampleServer).solo os [dispatch p "203.0.113.7" oddCreate] w).2.isEmpty

lemma oddCreate_run : ∃ c tr p os, HubRun sampleServer c tr ∧ opensOddly p os c.world := by
  let p := "6b0f1e52-3c1d-4a86-9a53-0d5f6f1c2a11"
  let o := draw "9b1deb4d-3b7d-4bad-9bdd-2b0d7b3dcb6d"
  have h : ((hubMachine sampleServer).follow
      ([.event (.connect p "203.0.113.7")] ++ steps (.conn p) 1 o)).any fun x =>
        opensOddly p (List.replicate 5 o) x.1.world := by decide +kernel
  obtain ⟨c, tr, r, ht, -⟩ := Machine.follow_reaches h
  exact ⟨c, tr, p, _, r, ht⟩

/-- The room is opened without caps, and nobody is told. -/
theorem odd_caps_dropped : ¬ ∀ c tr, HubRun sampleServer c tr → ∀ p ip msg,
    c.world.hub.connected p → msg.op ∈ [ClientOp.create, .set_match_caps, .start] →
      msg.match_caps.isSome → (hubMachine sampleServer).Ends [dispatch p ip msg] c.world fun w' =>
        TakesCaps w'.hub p msg.match_caps ∨ RefusesCaps c.world w' p := by
  intro all
  obtain ⟨c, tr, p, os, r, odd⟩ := oddCreate_run
  simp only [opensOddly, Bool.and_eq_true, Option.isNone_iff_eq_none, decide_eq_true_eq,
    List.isEmpty_iff] at odd
  obtain ⟨⟨⟨hc, free⟩, room⟩, through⟩ := odd
  have done := all c tr r p "203.0.113.7" oddCreate hc (by decide) rfl os through
  have heeds := (@dispatch_settles sampleServer _ p "203.0.113.7" oddCreate hc (by decide) os
    through).mp done
  rcases heeds with accepted | refused
  · cases accepted
  · rcases refused with inside | full
    · rw [free] at inside
      cases inside
    · omega

end RecompNet
