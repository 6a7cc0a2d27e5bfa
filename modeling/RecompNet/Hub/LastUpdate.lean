import RecompNet.Hub.Origin
import RecompNet.Hub.RoomView

/-!
# The last update

What the members of a room hold as the latest of it. A frame that shows the room is with a member, under way
to it, or still to be made (`UpToDate`). Every section keeps that, but for a path report, which tells
nobody, and a frame that arrives after the room has moved on (`InTime`).
-/

namespace RecompNet

open Section Interleave

/-- The latest `lobby_update` or `launch` of a room on a connection's channel. -/
def World.latest (w : World) (q lid : String) : Option OutMsg :=
  ((w.sent.filter fun x => x.1 = q ∧ x.2.room = some lid).getLast?).map Prod.snd

/-- An update of the room is still to be made, or a frame that shows it is under way to the member. -/
def Coming (pending : Tid → List Section) (lid q : String) (l : Lobby) : Prop :=
  ∃ t, ∃ s ∈ pending t, s.emits lid ∨ ∃ m, s = send_to q m ∧ m.room = some lid ∧ m.Shows l

/-- When a step leaves no member of a room behind: a frame of the room is put on the channel of a member,
which takes it, only as long as it shows the room, unless another is to follow; and a path report is taken
only if it is what the seat has already, an update is to follow, or nobody has been told of the room yet. -/
def InTime : HubLabel → Prop
  | .ran t (send_to q m) _ pre => ∀ lid l, m.room = some lid →
      pre.world.hub.lobbies.lookup lid = some l → q ∈ l.member_ids →
      pre.world.hub.connected q ∧ m.Shows l ∨
        Coming (Function.update pre.pending t (pre.pending t).tail) lid q l
  | .ran _ (dispatch p _ msg) _ pre => msg.op = .path_report → ∀ kind lid l s,
      msg.path.bind normalize_ice_path = some kind → pre.world.hub.lobby_id_of p = some lid →
      pre.world.hub.lobbies.lookup lid = some l → l.slots.find? (Lobby.holds p) = some (some s) →
      s.ice_path = some kind ∨ (∃ t, ∃ s ∈ pre.pending t, s.emits lid) ∨
        ∀ q ∈ l.member_ids, pre.world.latest q lid = none
  | _ => True

/-- The member has, or will have, a frame that shows the room, if it was sent any at all. -/
def UpToDate (c : HubSnapshot) (lid q : String) (l : Lobby) : Prop :=
  Coming c.pending lid q l ∨ ∀ m, c.world.latest q lid = some m → m.Shows l

lemma Coming.alike {pending lid q l l'} (h : Coming pending lid q l) (k : l.Alike l') :
    Coming pending lid q l' := by
  obtain ⟨t, s, hs, emits | ⟨m, e, room, shows⟩⟩ := h
  · exact ⟨t, s, hs, .inl emits⟩
  · exact ⟨t, s, hs, .inr ⟨m, e, room, shows.alike k⟩⟩

lemma UpToDate.alike {c lid q l l'} (h : UpToDate c lid q l) (k : l.Alike l') :
    UpToDate c lid q l' :=
  h.imp (·.alike k) fun h m hm => (h m hm).alike k

/-! ## The latest frame -/

lemma latest_append {w : World} {fs q lid} (h : ∀ x ∈ fs, x.1 = q → x.2.room ≠ some lid) :
    ({ w with sent := w.sent ++ fs } : World).latest q lid = w.latest q lid := by
  have none : fs.filter (fun x => x.1 = q ∧ x.2.room = some lid) = [] := by
    rw [List.filter_eq_nil_iff]
    intro x hx hit
    obtain ⟨own, room⟩ := of_decide_eq_true hit
    exact h x hx own room
  unfold World.latest
  rw [List.filter_append, none, List.append_nil]

lemma latest_last {w : World} {q lid m} (room : m.room = some lid) :
    ({ w with sent := w.sent ++ [(q, m)] } : World).latest q lid = some m := by
  unfold World.latest
  rw [List.filter_append, List.filter_cons_of_pos (by simp [room])]
  simp

/-- The latest frame is on the channel. -/
lemma latest_mem {w : World} {q lid m} (h : w.latest q lid = some m) :
    (q, m) ∈ w.sent ∧ m.room = some lid := by
  obtain ⟨⟨q', m'⟩, last, e⟩ := Option.map_eq_some_iff.mp h
  obtain ⟨mem, hit⟩ := List.mem_filter.mp (List.mem_of_getLast? last)
  obtain ⟨own, room⟩ := of_decide_eq_true hit
  cases e
  cases own
  exact ⟨mem, room⟩

/-- The steps that put a frame of a room on a channel are the sends of such a frame. -/
lemma room_frames {srv l q m lid} (h : (q, m) ∈ frames srv l) (room : m.room = some lid) :
    ∃ t o pre, l = .ran t (send_to q m) o pre := by
  rcases (mem_frames h).2 with sent | ⟨t, o, pre, -, all⟩ | rfl | ⟨rfl, -⟩
  · exact sent
  · obtain ⟨id, -, e⟩ := List.mem_map.mp all
    cases e
    cases room
  · cases room
  · cases room

/-- A step changes the latest frame of a room by a send of such a frame at most. -/
lemma step_latest {srv c l c'} (st : Step (hubMachine srv) c l c') {q lid}
    (h : ∀ t m o, l = .ran t (send_to q m) o c → m.room ≠ some lid) :
    c'.world.latest q lid = c.world.latest q lid := by
  have grows : c'.world.sent = c.world.sent ++ frames srv l := by
    cases st with
    | run _ _ => exact exec_sent
    | event _ _ => exact apply_sent
  have same : c'.world.latest q lid =
      ({ c.world with sent := c.world.sent ++ frames srv l } : World).latest q lid := by
    unfold World.latest
    rw [grows]
  rw [same]
  apply latest_append
  rintro ⟨q', m⟩ hx rfl room
  obtain ⟨t, o, pre, rfl⟩ := room_frames hx room
  obtain rfl : pre = c := st.label_pre
  exact h t m o rfl room

/-! ## Frames are about rooms that were made -/

/-- A section that starts a send of a frame of a room finds that room. -/
lemma room_started {srv s o w q m lid} (basic : w.Basic) (h : send_to q m ∈ (exec srv s o w).2)
    (room : m.room = some lid) : lid ∈ w.issued := by
  have kind : m.kind = .lobby_update ∨ m.kind = .launch := by
    cases m with
    | lobby_update => exact .inl rfl
    | launch => exact .inr rfl
    | _ => cases room
  have called := exec_calls _ h
  cases s with
  | emit_lobby_update lid0 =>
    obtain ⟨l, hl, here, -⟩ := emit_lobby_update_shows (basic.lobby_key lid0) h
    rw [room] at here
    cases here
    exact basic.lobby_issued lid l hl
  | start_commit st lid0 caps sid specs tr ice =>
    simp only [exec, World.lift, start_commit_step] at h
    split at h
    · simp at h
    · rename_i l hl
      obtain ⟨q', -, e⟩ := List.mem_map.mp h
      cases e
      cases room
      have made := basic.lobby_issued lid0 l hl
      rw [← basic.lobby_key lid0 l hl] at made
      exact made
  | dispatch p ip msg =>
    cases hop : msg.op <;> rcases kind with kind | kind <;> simp [hop, kind] at called
  | _ => rcases kind with kind | kind <;> simp [kind] at called

/-- Every frame of a room, sent or under way, is about a room that was made. -/
theorem HubRun.rooms_made {srv c tr} (r : HubRun srv c tr) :
    (∀ x ∈ c.world.sent, ∀ lid, x.2.room = some lid → lid ∈ c.world.issued) ∧
      Holds (fun w _ s => ∀ q m lid, s = send_to q m → m.room = some lid → lid ∈ w.issued) c := by
  refine r.induct (I := fun c _ =>
    (∀ x ∈ c.world.sent, ∀ lid, x.2.room = some lid → lid ∈ c.world.issued) ∧
      Holds (fun w _ s => ∀ q m lid, s = send_to q m → m.room = some lid → lid ∈ w.issued) c) ?_ ?_
  · refine ⟨fun x hx => ?_, Holds.start _⟩
    cases hx
  · rintro c tr l c' r ⟨sent, under⟩ st
    have basic := HubRun.basic r
    cases st with
    | @run t s rest o e _ =>
      have grows : c.world.issued ⊆ (exec srv s o c.world).1.issued := exec_issued
      refine ⟨?_, under.run e ?_ ?_⟩
      · intro x hx lid room
        have hx : x ∈ (exec srv s o c.world).1.sent := hx
        rw [exec_sent (t := t)] at hx
        rcases List.mem_append.mp hx with hx | hx
        · exact grows (sent x hx lid room)
        · obtain ⟨t', o', pre, lab⟩ := room_frames hx room
          cases lab
          exact grows (under t _ (e ▸ List.mem_cons_self) _ _ lid rfl room)
      · exact fun _ _ _ h q m lid hs room => grows (h q m lid hs room)
      · rintro s' hs' q m lid rfl room
        exact grows (room_started basic hs' room)
    | @event e _ _ =>
      have grows : c.world.issued ⊆ (e.apply srv c.world).issued := apply_issued
      refine ⟨?_, under.event ?_ ?_⟩
      · intro x hx lid room
        have hx : x ∈ (e.apply srv c.world).sent := hx
        rw [apply_sent] at hx
        rcases List.mem_append.mp hx with hx | hx
        · exact grows (sent x hx lid room)
        · obtain ⟨t', o', pre, lab⟩ := room_frames hx room
          cases lab
      · exact fun _ _ _ h q m lid hs room => grows (h q m lid hs room)
      · rintro s' hs' q m lid rfl room
        have inner := body_not_inner _ hs'
        exact absurd rfl inner

/-! ## Nobody is left behind -/

/-- Every member of every room is up to date. -/
def Snapshot.Current (c : HubSnapshot) : Prop := ∀ lid l, c.world.hub.lobbies.lookup lid = some l →
  ∀ q ∈ l.member_ids, UpToDate c lid q l

/-- What was coming is still coming after a section, or the section was it. -/
lemma coming_run {srv c t s rest o lid q l} (e : c.pending t = s :: rest)
    (h : Coming c.pending lid q l) :
    Coming ((hubMachine srv).afterRun c t s rest o).pending lid q l ∨ s.emits lid ∨
      ∃ m, s = send_to q m ∧ m.room = some lid ∧ m.Shows l := by
  obtain ⟨t', s', hs', h⟩ := h
  by_cases ht : t' = t
  · subst ht
    rw [e] at hs'
    rcases List.mem_cons.mp hs' with rfl | hs'
    · exact .inr h
    · refine .inl ⟨t', s', ?_, h⟩
      simp only [Machine.afterRun, Function.update_self]
      exact List.mem_append_right _ hs'
  · refine .inl ⟨t', s', ?_, h⟩
    simp only [Machine.afterRun, Function.update_of_ne ht]
    exact hs'

/-- What a section starts is coming. -/
lemma coming_started {srv c t s rest o lid q l n} (hs : n ∈ (exec srv s o c.world).2)
    (h : n.emits lid ∨ ∃ m, n = send_to q m ∧ m.room = some lid ∧ m.Shows l) :
    Coming ((hubMachine srv).afterRun c t s rest o).pending lid q l := by
  refine ⟨t, n, ?_, h⟩
  simp only [Machine.afterRun, Function.update_self]
  exact List.mem_append_left _ hs

/-- A section that is to bring an update about starts one, or sends it to every member. -/
lemma emits_run {srv c t s rest o lid q} {l : Lobby} (h : s.emits lid)
    (hl : c.world.hub.lobbies.lookup lid = some l) (hq : q ∈ l.member_ids) (basic : c.world.Basic) :
    Coming ((hubMachine srv).afterRun c t s rest o).pending lid q l := by
  rcases h with rfl | ⟨p, seated, rfl⟩
  · have started : ∃ m, send_to q m ∈ (emit_lobby_update_step c.world.now c.world.hub lid).2 := by
      simp only [emit_lobby_update_step, hl]
      exact ⟨_, List.mem_map.mpr ⟨q, hq, rfl⟩⟩
    obtain ⟨m, hm⟩ := started
    obtain ⟨l0, h0, room, shows⟩ := emit_lobby_update_shows (basic.lobby_key lid) hm
    cases Option.some.inj (hl.symm.trans h0)
    exact coming_started (n := send_to q m) hm (.inr ⟨m, rfl, room, shows⟩)
  · refine coming_started (n := emit_lobby_update lid) ?_ (.inl (.inl rfl))
    simp [exec, World.lift, join_ok_step]

/-- Who is up to date stays so while a section runs that leaves the room as it shows. -/
lemma up_to_date_run {srv c t s rest o lid q l} (r : HubRun srv c tr) (e : c.pending t = s :: rest)
    (ho : (hubMachine srv).answers o c.world) (keeps : InTime (.ran t s o c))
    (hl : c.world.hub.lobbies.lookup lid = some l) (hq : q ∈ l.member_ids)
    (old : UpToDate c lid q l) : UpToDate ((hubMachine srv).afterRun c t s rest o) lid q l := by
  by_cases sends : ∃ m, s = send_to q m ∧ m.room = some lid
  · obtain ⟨m, rfl, room⟩ := sends
    rcases keeps lid l room hl hq with ⟨conn, shows⟩ | coming
    · right
      intro m' hm'
      have sent : ((hubMachine srv).afterRun c t (send_to q m) rest o).world.latest q lid = some m := by
        simp only [Machine.afterRun, hubMachine, exec, World.send, if_pos conn]
        exact latest_last room
      cases Option.some.inj (sent.symm.trans hm')
      exact shows
    · left
      rw [e] at coming
      exact coming
  · have same := @step_latest srv _ _ _ (.run e ho) q lid (by
      rintro t' m o' lab room
      cases lab
      exact sends ⟨m, rfl, room⟩)
    rcases old with coming | shown
    · rcases @coming_run srv _ _ _ _ o _ _ _ e coming with coming | emits | ⟨m, rfl, room, -⟩
      · exact .inl coming
      · exact .inl (emits_run emits hl hq (HubRun.basic r))
      · exact absurd ⟨m, rfl, room⟩ sends
    · right
      rw [same]
      exact shown

/-- A path report changes the report of the first seat that its player has. -/
lemma handle_path_report_cases {now} {g : HubInner} {p msg lid l'}
    (h : (handle_path_report now g p msg).1.lobbies.lookup lid = some l') :
    g.lobbies.lookup lid = some l' ∨ ∃ kind l s, msg.path.bind normalize_ice_path = some kind ∧
      g.lobby_id_of p = some lid ∧ g.lobbies.lookup lid = some l ∧
      l.slots.find? (Lobby.holds p) = some (some s) ∧ l' = l.reportPath p kind now := by
  revert h
  unfold handle_path_report
  split
  · exact .inl
  · rename_i kind hkind
    split
    · exact .inl
    · rename_i lid0 hlid
      split
      · exact .inl
      · rename_i l hl
        split
        · rename_i seated
          intro h
          obtain ⟨l0, h0, ⟨-, rfl⟩ | ⟨rfl, rfl⟩⟩ := lookup_setLobby_back h
          · exact .inl h0
          · obtain rfl : l = l0 := Option.some.inj (hl.symm.trans h0)
            obtain ⟨cell, found⟩ := Option.isSome_iff_exists.mp (List.find?_isSome.mpr
              (List.any_eq_true.mp seated))
            obtain ⟨s, rfl, -⟩ := Lobby.holds_eq_true.mp (List.find?_some found)
            exact .inr ⟨kind, l, s, hkind, hlid, hl, found, rfl⟩
        · exact .inl

/-- A report of the path that the seat has already shows nothing new. -/
lemma reportPath_alike {l : Lobby} {p kind now s} (found : l.slots.find? (Lobby.holds p) = some (some s))
    (same : s.ice_path = some kind) : l.Alike (l.reportPath p kind now) := by
  refine Lobby.setPlayer_alike fun s' hs' => ?_
  cases found.symm.trans hs'
  simp [Slot.view, same]

/-- A section leaves no member behind. -/
lemma current_run {srv c tr t s rest o} (r : HubRun srv c tr) (e : c.pending t = s :: rest)
    (ho : (hubMachine srv).answers o c.world) (keeps : InTime (.ran t s o c))
    (old : Snapshot.Current c) : Snapshot.Current ((hubMachine srv).afterRun c t s rest o) := by
  intro lid l' hl' q hq
  have basic := HubRun.basic r
  have unsent : (∀ m, s ≠ send_to q m ∨ m.room ≠ some lid) →
      ((hubMachine srv).afterRun c t s rest o).world.latest q lid = c.world.latest q lid := by
    intro h
    apply step_latest (Step.run (M := hubMachine srv) e ho)
    rintro t' m o' lab room
    cases lab
    exact (h m).elim (· rfl) (· room)
  cases exec_told (s := s) basic (HubRun.all_known r).1 ho hl' with
  | @same l room alike =>
    rw [alike.members] at hq
    exact (up_to_date_run r e ho keeps room hq (old lid l room q hq)).alike alike
  | update mem emits => exact .inl (coming_started mem (.inl emits))
  | launch each =>
    obtain ⟨m, mem, room, shows⟩ := each q hq
    exact .inl (coming_started mem (.inr ⟨m, rfl, room, shows⟩))
  | fresh new =>
    right
    obtain ⟨sent, under⟩ := HubRun.rooms_made r
    intro m hm
    rw [unsent] at hm
    · obtain ⟨mem, room⟩ := latest_mem hm
      exact absurd (sent _ mem lid room) new
    · intro m
      by_cases hs : s = send_to q m
      · right
        intro room
        exact new (under t s (e ▸ List.mem_cons_self) q m lid hs room)
      · exact .inl hs
  | @report p ip msg call op =>
    subst call
    have hub : ((hubMachine srv).afterRun c t (dispatch p ip msg) rest o).world.hub =
        (handle_path_report c.world.now c.world.hub p msg).1 := by
      simp only [Machine.afterRun, hubMachine, exec, World.lift, World.setHub, dispatch_step, op]
    rw [hub] at hl'
    rcases handle_path_report_cases hl' with hl | ⟨kind, l, seat, hkind, hlid, hl, found, rfl⟩
    · exact up_to_date_run r e ho keeps hl hq (old lid l' hl q hq)
    · rw [Lobby.reportPath_members] at hq
      rcases keeps op kind lid l seat hkind hlid hl found with same | ⟨t', s', hs', emits⟩ | untold
      · exact (up_to_date_run r e ho keeps hl hq (old lid l hl q hq)).alike (reportPath_alike found same)
      · have coming : Coming c.pending lid q (l.reportPath p kind c.world.now) :=
          ⟨t', s', hs', .inl emits⟩
        rcases @coming_run srv _ _ _ _ o _ _ _ e coming with coming | emits | ⟨m, h, -⟩
        · exact .inl coming
        · rcases emits with h | ⟨p', seated, h⟩ <;> cases h
        · cases h
      · right
        intro m hm
        rw [unsent fun _ => .inl (by simp), untold q hq] at hm
        cases hm

/-- An event leaves no member behind. -/
lemma current_event {srv c e} (idle : c.pending ((hubMachine srv).task e) = [])
    (he : (hubMachine srv).enabled e c.world) (old : Snapshot.Current c) :
    Snapshot.Current ((hubMachine srv).afterEvent c e) := by
  intro lid l hl q hq
  have hl : (e.apply srv c.world).hub.lobbies.lookup lid = some l := hl
  rw [apply_lobbies] at hl
  rcases old lid l hl q hq with ⟨t, s, hs, h⟩ | shown
  · left
    refine ⟨t, s, ?_, h⟩
    by_cases ht : t = (hubMachine srv).task e
    · rw [ht, idle] at hs
      cases hs
    · simp only [Machine.afterEvent, Function.update_of_ne ht]
      exact hs
  · right
    have same := @step_latest srv _ _ _ (.event idle he) q lid (by
      rintro t m o lab
      cases lab)
    rw [same]
    exact shown

/-- In a run whose steps are all in time, every member of a room is up to date. -/
theorem HubRun.current {srv c tr} (r : HubRun srv c tr) (keeps : ∀ l ∈ tr, InTime l) :
    Snapshot.Current c := by
  refine r.invariant (P := InTime) (I := fun c _ => Snapshot.Current c) ?_ ?_ keeps
  · intro lid l hl
    cases hl
  · rintro c tr l c' r old keeps st
    cases st with
    | run e ho => exact current_run r e ho keeps old
    | event idle he => exact current_event idle he old

/-- **The last update or launch.** In every run whose steps are all in time, whenever nothing is in
flight, the latest frame of a room that a member was sent shows the room. -/
theorem last_update_shows {srv c tr} (r : HubRun srv c tr) (keeps : ∀ l ∈ tr, InTime l)
    (quiet : c.Quiet) : ∀ lid l, c.world.hub.lobbies.lookup lid = some l → ∀ q ∈ l.member_ids,
      ∀ m, c.world.latest q lid = some m → m.Shows l := by
  intro lid l hl q hq
  rcases HubRun.current r keeps lid l hl q hq with ⟨t, s, hs, -⟩ | shown
  · rw [quiet t] at hs
    cases hs
  · exact shown

/-- Nobody is told of a path report. -/
theorem path_report_untold : ¬ ∀ srv c tr, HubRun srv c tr → c.Quiet →
    ∀ lid l, c.world.hub.lobbies.lookup lid = some l → ∀ q ∈ l.member_ids,
      ∀ m, c.world.latest q lid = some m → m.Shows l := by
  intro all
  let p := "6b0f1e52-3c1d-4a86-9a53-0d5f6f1c2a11"
  let q := "c4d1c1a0-5f0e-4a53-8d43-9f4b1f7f3b22"
  let lid := "1f8a9f0e-7d2b-4b57-8f6f-2f6f2b0c9d01"
  let o := draw "9b1deb4d-3b7d-4bad-9bdd-2b0d7b3dcb6d"
  let ms := signIn p alice o ++ [say p { op := .create }] ++ steps (.conn p) 3 (draw lid) ++
    steps (.conn p) 2 o ++ signIn q bob o ++ [say q { op := .join, lobby_id := some lid }] ++
    steps (.conn q) 13 o ++ [say q { op := .path_report, path := some "direct" }] ++
    steps (.conn q) 3 o
  let test : HubSnapshot × List HubLabel → Bool := fun x =>
    (x.1.world.hub.lobbies.lookup lid).any fun l => p ∈ l.member_ids &&
      (x.1.world.latest p lid).any fun m =>
        match m with
        | .lobby_update u => u.view.slots ≠ l.view.slots
        | _ => false
  have movers : ∀ m ∈ ms, (hubMachine sampleServer).mover m ∈ [.conn p, .conn q] := by
    decide
  have h : ((hubMachine sampleServer).follow ms).any fun x =>
      test x && [.conn p, .conn q].all fun t => (x.1.pending t).isEmpty := by decide +kernel
  obtain ⟨c, tr, r, ht, quiet⟩ := Machine.follow_quiet _ movers h
  obtain ⟨l, hl, ht⟩ := (Option.any_eq_true _ _).mp ht
  obtain ⟨member, ht⟩ := (Bool.and_eq_true _ _).mp ht
  obtain ⟨m, last, ht⟩ := (Option.any_eq_true _ _).mp ht
  have shows := all _ c tr r quiet lid l hl p (of_decide_eq_true member) m last
  cases m with
  | lobby_update u => exact of_decide_eq_true ht (congrArg RoomView.slots shows.1)
  | _ => cases ht

/-- Does an update show a room that has no caps? -/
def showsPlain (l : Lobby) : OutMsg → Bool
  | .lobby_update u => u.session_id = l.session_id && u.host_endpoint = l.host_endpoint &&
      u.guest_endpoint = l.guest_endpoint && u.match_caps.isNone && l.match_caps.isNone &&
      u.view.slots = l.view.slots && u.view.spectators = l.view.spectators &&
      u.lan_endpoints = l.lan_endpoints
  | _ => false

/-- Is the step in time, without a path report and with nothing to follow? -/
def inTime : HubLabel → Bool
  | .ran _ (send_to q m) _ pre => m.room.all fun lid => pre.world.hub.connected q &&
      (pre.world.hub.lobbies.lookup lid).all (showsPlain · m)
  | .ran _ (dispatch _ _ msg) _ _ => msg.op ≠ .path_report
  | _ => true

lemma showsPlain_sound {l : Lobby} {m : OutMsg} (h : showsPlain l m) : m.Shows l := by
  cases m with
  | lobby_update u =>
    simp only [showsPlain, Bool.and_eq_true, decide_eq_true_eq, Option.isNone_iff_eq_none] at h
    obtain ⟨⟨⟨⟨⟨⟨⟨session, host⟩, guest⟩, caps⟩, bare⟩, slots⟩, spectators⟩, lan⟩ := h
    refine ⟨?_, lan⟩
    simp only [LobbyUpdate.view, Lobby.view] at slots spectators ⊢
    rw [session, host, guest, caps, bare, slots, spectators]
  | _ => cases h

lemma inTime_sound {l : HubLabel} (h : inTime l) : InTime l := by
  cases l with
  | came => trivial
  | ran t s o pre =>
    cases s with
    | send_to q m =>
      intro lid l room hl hq
      simp only [inTime, room, Option.all_some, hl, Bool.and_eq_true] at h
      exact .inl ⟨h.1, showsPlain_sound h.2⟩
    | dispatch p ip msg => exact fun op => absurd op (of_decide_eq_true h)
    | _ => trivial

/-- Bob joins Alice's room, and both are shown it. -/
theorem last_update_shows_join : ∃ c tr lid l p q m n, HubRun sampleServer c tr ∧
    c.world.hub.lobbies.lookup lid = some l ∧ p ∈ l.member_ids ∧ q ∈ l.member_ids ∧ p ≠ q ∧
    c.world.latest p lid = some m ∧ m.Shows l ∧ c.world.latest q lid = some n ∧ n.Shows l := by
  let p := "6b0f1e52-3c1d-4a86-9a53-0d5f6f1c2a11"
  let q := "c4d1c1a0-5f0e-4a53-8d43-9f4b1f7f3b22"
  let lid := "1f8a9f0e-7d2b-4b57-8f6f-2f6f2b0c9d01"
  let o := draw "9b1deb4d-3b7d-4bad-9bdd-2b0d7b3dcb6d"
  let ms := signIn p alice o ++ [say p { op := .create }] ++ steps (.conn p) 3 (draw lid) ++
    steps (.conn p) 2 o ++ signIn q bob o ++ [say q { op := .join, lobby_id := some lid }] ++
    steps (.conn q) 13 o
  let test : HubSnapshot × List HubLabel → Bool := fun x =>
    ((x.1.world.hub.lobbies.lookup lid).any fun l => p ∈ l.member_ids && q ∈ l.member_ids) &&
      (x.1.world.latest p lid).isSome && (x.1.world.latest q lid).isSome && x.2.all inTime
  have movers : ∀ m ∈ ms, (hubMachine sampleServer).mover m ∈ [.conn p, .conn q] := by
    decide
  have h : ((hubMachine sampleServer).follow ms).any fun x =>
      test x && [.conn p, .conn q].all fun t => (x.1.pending t).isEmpty := by decide +kernel
  obtain ⟨c, tr, r, ht, quiet⟩ := Machine.follow_quiet _ movers h
  simp only [test, Bool.and_eq_true, Option.any_eq_true, decide_eq_true_eq,
    Option.isSome_iff_exists] at ht
  obtain ⟨⟨⟨⟨l, hl, hp, hq⟩, m, hm⟩, n, hn⟩, keeps⟩ := ht
  have shows := last_update_shows r (fun l hl => inTime_sound (List.all_eq_true.mp keeps l hl))
    quiet lid l hl
  exact ⟨c, tr, lid, l, p, q, m, n, r, hl, hp, hq, by decide, hm, shows p hp m hm, hn,
    shows q hq n hn⟩

end RecompNet
