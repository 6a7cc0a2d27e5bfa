import RecompNet.Http.RoomApi

/-!
# Bootstraps of a session

What a room tells its members to start a match with. A session lives from the barrier until the room
is open again or gone. While it lives members only go, each keeps its slot, and what two of them
were told at different times fits together; a running room goes back to `Open` no more.
-/

namespace RecompNet

/-! ## What every room has -/

/-- A room is filed under its id, has a code exactly when it is private, and a session exactly when
it is not open. -/
structure Room.Filed (id : String) (r : Room) : Prop where
  id : r.room_id = id
  code : r.join_code.isSome = r.is_private
  session : r.session_id.isSome ↔ r.status ≠ .Open
  there : r.status ≠ .Closed

def RoomRegistry.Filed (g : RoomRegistry) : Prop :=
  ∀ id r, g.rooms.lookup id = some r → r.Filed id

namespace Room.Filed

/-- The members do not matter. -/
lemma members {r : Room} {id} (h : r.Filed id) (members : List Member) (t : Timestamp) :
    ({ r with members := members, updated_at := t } : Room).Filed id :=
  ⟨h.id, h.code, h.session, h.there⟩

lemma reopen {r : Room} {id} (h : r.Filed id) : r.reopen.Filed id := by
  unfold Room.reopen
  split
  · exact ⟨h.id, h.code, by simp, by simp⟩
  · exact h

lemma settle {r : Room} {id} (h : r.Filed id) (draw : Nat) : (r.settle draw).Filed id := by
  unfold Room.settle
  split
  · exact ⟨h.id, h.code, by simp, by simp⟩
  · exact h.reopen

/-- Starting and running are all there is besides open. -/
lemma live {r : Room} {id} (h : r.Filed id) (live : r.status ≠ .Open) :
    r.status = .Starting ∨ r.status = .Running := by
  have there := h.there
  cases s : r.status with
  | Open => exact absurd s live
  | Closed => exact absurd s there
  | Starting => exact .inl rfl
  | Running => exact .inr rfl

end Room.Filed

/-- A call keeps every room filed. -/
lemma RoomStep.filed {g op id r'} (h : RoomStep g op id r') (filed : g.Filed) : r'.Filed id := by
  cases h with
  | same old => exact filed id _ old
  | @create _ _ _ _ _ _ _ priv =>
    refine ⟨rfl, ?_, by simp [RoomRegistry.newRoom], by simp [RoomRegistry.newRoom]⟩
    cases priv <;> rfl
  | join old => exact (filed id _ old).members _ _
  | leave old => exact ((filed id _ old).members _ _).reopen
  | ready old => exact Room.Filed.settle ((filed id _ old).members _ _) _
  | beat old => exact (filed id _ old).members _ _
  | running old starting =>
    have room := filed id _ old
    have session := room.session.mpr (by simp [starting])
    exact ⟨room.id, room.code, by simpa using session, by simp⟩
  | purge _ _ old => exact (filed id _ old).members _ _

lemma registry_filed (ops : List RoomOp) : (RoomRegistry.after ops).Filed := by
  apply after_induct
  · intro id r h
    cases h
  · intro g op filed id r h
    exact (RoomOp.run_step h).filed filed

/-! ## While a session lives -/

/-- The session goes on: nothing of it changes, members may go, and nobody comes or moves. -/
structure Room.Continues (r r' : Room) : Prop where
  session : r'.session_id = r.session_id
  magic : r'.protocol_magic = r.protocol_magic
  count : r'.slot_count = r.slot_count
  delay : r'.input_delay = r.input_delay
  host : r'.host_player_id = r.host_player_id
  places : (r'.members.map Member.place).Sublist (r.members.map Member.place)

namespace Room.Continues

lemma refl (r : Room) : r.Continues r := ⟨rfl, rfl, rfl, rfl, rfl, .refl _⟩

lemma trans {a b c : Room} (h : a.Continues b) (k : b.Continues c) : a.Continues c :=
  ⟨k.session.trans h.session, k.magic.trans h.magic, k.count.trans h.count, k.delay.trans h.delay,
    k.host.trans h.host, k.places.trans h.places⟩

/-- Somebody in the room later was there before, at the same slot. -/
lemma member {r r' : Room} (h : r.Continues r') {m'} (hm : m' ∈ r'.members) :
    ∃ m ∈ r.members, m.player_id = m'.player_id ∧ m.local_slot = m'.local_slot := by
  have old := h.places.subset (List.mem_map_of_mem (f := Member.place) hm)
  obtain ⟨m, hm, same⟩ := List.mem_map.mp old
  exact ⟨m, hm, congrArg Prod.fst same, congrArg Prod.snd same⟩

end Room.Continues

/-- Going back leaves a room alone that it does not open. -/
lemma Room.reopen_live {r : Room} (h : r.reopen.status ≠ .Open) : r.reopen = r := by
  unfold Room.reopen at h ⊢
  split
  · rename_i starting
    rw [if_pos starting] at h
    exact absurd rfl h
  · rfl

/-- Settling keeps the session of a starting room, when it does not open it. -/
lemma Room.settle_live {r : Room} {draw : Nat} (starting : r.status = .Starting)
    (session : r.session_id.isSome) (h : (r.settle draw).status ≠ .Open) : r.settle draw = r := by
  unfold Room.settle at h ⊢
  split
  · obtain ⟨sid, hsid⟩ := Option.isSome_iff_exists.mp session
    obtain ⟨⟩ := r
    simp_all
  · rename_i waiting
    rw [if_neg waiting] at h
    exact Room.reopen_live h

/-- A call that makes a room draws its id. -/
def RoomOp.draws (id : String) : RoomOp → Prop
  | create _ _ _ _ _ _ _ _ _ room_id _ => room_id = id
  | _ => False

/-- A room that is live before and after a call goes on with its session. -/
lemma RoomStep.continues {g op id r r'} (h : RoomStep g op id r') (filed : g.Filed)
    (old : g.rooms.lookup id = some r) (new : ¬ op.draws id) (live : r.status ≠ .Open)
    (live' : r'.status ≠ .Open) : r.Continues r' := by
  cases h with
  | same old' =>
    cases old.symm.trans old'
    exact .refl _
  | create => exact absurd rfl new
  | join old' opened =>
    cases old.symm.trans old'
    exact absurd opened live
  | @leave _ p now r0 old' =>
    cases old.symm.trans old'
    rw [Room.reopen_live live']
    refine ⟨rfl, rfl, rfl, rfl, rfl, ?_⟩
    rw [unready_places]
    exact List.filter_sublist.map _
  | @ready _ p ready beat now draw r0 old' early =>
    cases old.symm.trans old'
    have starting := early.resolve_left live
    have session := (filed id r old).session.mpr live
    rw [Room.settle_live (r := r.mark p ready beat now) starting session live']
    have places := setMember_places r p (f := ({ · with ready := ready, last_heartbeat := beat }))
      fun _ => rfl
    exact ⟨rfl, rfl, rfl, rfl, rfl, places ▸ .refl _⟩
  | @beat _ p beat _ _ old' =>
    cases old.symm.trans old'
    have places := setMember_places r p (f := ({ · with last_heartbeat := beat })) fun _ => rfl
    exact ⟨rfl, rfl, rfl, rfl, rfl, places ▸ .refl _⟩
  | running old' =>
    cases old.symm.trans old'
    exact ⟨rfl, rfl, rfl, rfl, rfl, .refl _⟩
  | purge _ _ old' =>
    cases old.symm.trans old'
    exact ⟨rfl, rfl, rfl, rfl, rfl, List.filter_sublist.map _⟩

/-- A running room runs on. -/
lemma RoomStep.running_on {g op id r r'} (h : RoomStep g op id r')
    (old : g.rooms.lookup id = some r) (new : ¬ op.draws id) (running : r.status = .Running) :
    r'.status = .Running := by
  cases h with
  | same old' =>
    cases old.symm.trans old'
    exact running
  | create => exact absurd rfl new
  | join old' opened =>
    cases old.symm.trans old'
    cases running.symm.trans opened
  | leave old' =>
    cases old.symm.trans old'
    unfold Room.reopen
    split
    · rename_i starting
      cases running.symm.trans starting
    · exact running
  | ready old' early =>
    cases old.symm.trans old'
    rcases early with early | early <;> cases running.symm.trans early
  | running => rfl
  | beat old' | purge _ _ old' =>
    cases old.symm.trans old'
    exact running

/-- A room that nobody makes was there before. -/
lemma RoomStep.was_there {g op id r'} (h : RoomStep g op id r') (new : ¬ op.draws id) :
    ∃ r, g.rooms.lookup id = some r := by
  cases h with
  | create => exact absurd rfl new
  | same old | join old | leave old | ready old | beat old | running old | purge _ _ old =>
    exact ⟨_, old⟩

/-! ## Two bootstraps -/

/-- What two players were told fits together. -/
structure BootstrapsFit (p q host : String) (b b' : RnetBootstrap) : Prop where
  session : b'.session_id = b.session_id
  magic : b'.protocol_magic = b.protocol_magic
  count : b'.slot_count = b.slot_count
  delay : b'.input_delay = b.input_delay
  below : b.local_slot < b.slot_count ∧ b'.local_slot < b'.slot_count
  apart : b.local_slot = b'.local_slot ↔ p = q
  authority : (b.you_are_sim_authority ↔ p = host) ∧ (b'.you_are_sim_authority ↔ q = host)

/-- What a bootstrap says. -/
lemma bootstrap_tells {r : Room} {p b} (h : RoomRegistry.bootstrap_for r p = some b) :
    r.session_id = some b.session_id ∧ ∃ m ∈ r.members, m.player_id = p ∧
      b = ⟨b.session_id, r.protocol_magic, r.slot_count, r.input_delay, m.local_slot,
        m.local_slot = 0⟩ := by
  obtain ⟨sid, hsid, h⟩ := Option.bind_eq_some_iff.mp h
  obtain ⟨m, found, rfl⟩ := Option.map_eq_some_iff.mp h
  have own : m.player_id = p := by simpa using List.find?_some found
  exact ⟨hsid, m, List.mem_of_find?_eq_some found, own, rfl⟩

/-- A member of a sound room is told its own slot. -/
lemma bootstrap_member {r : Room} (sound : r.Sound) {m sid} (hm : m ∈ r.members)
    (session : r.session_id = some sid) :
    RoomRegistry.bootstrap_for r m.player_id = some ⟨sid, r.protocol_magic, r.slot_count,
      r.input_delay, m.local_slot, m.local_slot = 0⟩ := by
  have found : r.member m.player_id = some m := by
    cases h : r.member m.player_id with
    | none => simpa using List.find?_eq_none.mp h m hm
    | some m' =>
      have own : m'.player_id = m.player_id := by simpa using List.find?_some h
      have hm' := List.mem_of_find?_eq_some h
      rw [List.inj_on_of_nodup_map sound.ids hm' hm own]
  simp only [RoomRegistry.bootstrap_for, session, found, Option.bind_some, Option.map_some]

/-- Bootstraps from one room fit. -/
lemma bootstraps_of_room {r : Room} (sound : r.Sound) {p q b b'}
    (hb : RoomRegistry.bootstrap_for r p = some b)
    (hb' : RoomRegistry.bootstrap_for r q = some b') : BootstrapsFit p q r.host_player_id b b' := by
  have authority := And.intro (authority_host sound hb) (authority_host sound hb')
  obtain ⟨hsid, m, hm, rfl, e⟩ := bootstrap_tells hb
  obtain ⟨hsid', m', hm', rfl, e'⟩ := bootstrap_tells hb'
  have same : b'.session_id = b.session_id := Option.some.inj (hsid'.symm.trans hsid)
  rw [e, e'] at authority ⊢
  refine ⟨same, rfl, rfl, rfl, ⟨sound.below m hm, sound.below m' hm'⟩, ?_, authority⟩
  constructor
  · intro slot
    rw [List.inj_on_of_nodup_map sound.slots hm hm' slot]
  · intro own
    rw [List.inj_on_of_nodup_map sound.ids hm hm' own]

/-- What a member is told while the session goes on, it would have been told before. -/
lemma Room.Continues.bootstrap {r r' : Room} (h : r.Continues r') (sound : r.Sound) {p b}
    (hb : RoomRegistry.bootstrap_for r' p = some b) :
    RoomRegistry.bootstrap_for r p = some b := by
  obtain ⟨hsid, m', hm', rfl, e⟩ := bootstrap_tells hb
  obtain ⟨m, hm, own, slot⟩ := h.member hm'
  rw [e, ← own, bootstrap_member sound hm (h.session.symm.trans hsid), h.magic, h.count, h.delay,
    slot]

namespace Http

/-! ## Runs of requests -/

/-- An event makes a room with this id. -/
def RoomEvent.draws (id : String) : RoomEvent → Prop
  | request _ _ _ (.create_room _ room_id _) => room_id = id
  | _ => False

lemma RoomEvent.op_draws {cfg id} {e : RoomEvent} {op} (h : e.op cfg = some op)
    (new : ¬ e.draws id) : ¬ op.draws id := by
  cases e with
  | purge =>
    cases h
    exact not_false
  | request p beat now req =>
    cases req with
    | create_room body room_id draws =>
      simp only [RoomEvent.op] at h
      split at h
      · cases h
      · cases h
        exact new
    | list_rooms | get_room => cases h
    | _ =>
      cases h
      exact not_false

/-- A room after an event, by the call that it made. -/
lemma RoomEvent.serve_step {cfg g id r'} {e : RoomEvent}
    (h : (e.serve cfg g).2.rooms.lookup id = some r') (new : ¬ e.draws id) :
    ∃ op, ¬ op.draws id ∧ RoomStep g op id r' := by
  rw [e.serve_run] at h
  cases hop : e.op cfg with
  | none =>
    rw [hop] at h
    exact ⟨.heartbeat id "" 0 0, not_false, .same h⟩
  | some op =>
    rw [hop] at h
    exact ⟨op, e.op_draws hop new, RoomOp.run_step h⟩

lemma served_sound (cfg : RoomConfig) (evs : List RoomEvent) : (served cfg evs).Sound := by
  rw [served_after]
  exact registry_sound _

lemma served_filed (cfg : RoomConfig) (evs : List RoomEvent) : (served cfg evs).Filed := by
  rw [served_after]
  exact registry_filed _

/-- As long as a room does not open again its session goes on. -/
lemma session_runs {cfg pre id r} (here : (served cfg pre).rooms.lookup id = some r)
    {post : List RoomEvent} (fresh : ∀ e ∈ post, ¬ e.draws id)
    (kept : ∀ mid, mid <+: post → ∀ s, (served cfg (pre ++ mid)).rooms.lookup id = some s →
      s.status ≠ .Open) {r'} (there : (served cfg (pre ++ post)).rooms.lookup id = some r') :
    r.Continues r' := by
  induction post using List.reverseRecOn generalizing r' with
  | nil =>
    rw [List.append_nil] at there
    cases here.symm.trans there
    exact .refl r
  | append_singleton post e ih =>
    have before := List.prefix_append post [e]
    have live' := kept _ (List.prefix_refl _) r' there
    rw [← List.append_assoc, served_append] at there
    obtain ⟨op, new, step⟩ := RoomEvent.serve_step there (fresh e (by simp))
    obtain ⟨s, hs⟩ := step.was_there new
    have live := kept post before s hs
    have sofar := ih (fun e he => fresh e (List.mem_append_left _ he))
      (fun mid hmid => kept mid (hmid.trans before)) hs
    exact sofar.trans (step.continues (served_filed cfg _) hs new live live')

/-! ## What a reply shows -/

section
variable {g : RoomRegistry} {id p : String} {r : Room}

lemma lookup_put_self {room} (h : g.rooms.lookup id = some r) :
    (g.put id room).rooms.lookup id = some room := by
  simp [RoomRegistry.put, h]

/-- A room that a join answers with is the one that stands in the registry after it. -/
lemma join_stores {gid cv code now} (h : (g.join id p gid cv code now).1 = .ok r) :
    (g.join id p gid cv code now).2.rooms.lookup id = some r := by
  revert h
  unfold RoomRegistry.join
  split
  · intro h
    cases h
  · rename_i old hr
    dsimp only
    repeat' split
    all_goals intro h; cases h
    exact lookup_put_self hr

lemma set_ready_stores {ready beat now draw}
    (h : (g.set_ready id p ready beat now draw).1 = .ok r) :
    (g.set_ready id p ready beat now draw).2.rooms.lookup id = some r := by
  revert h
  unfold RoomRegistry.set_ready
  split
  · intro h
    cases h
  · rename_i old hr
    repeat' split
    all_goals intro h; cases h
    exact lookup_put_self hr

lemma mark_running_stores {now} (h : (g.mark_running id p now).1 = .ok r) :
    (g.mark_running id p now).2.rooms.lookup id = some r := by
  revert h
  unfold RoomRegistry.mark_running
  split
  · intro h
    cases h
  · rename_i old hr
    repeat' split
    all_goals intro h; cases h
    exact lookup_put_self hr

end

/-- A reply that carries the room of a call. -/
lemma RoomReply.of_view {p q x v} (h : (RoomReply.of q x).view.map (q, ·) = some (p, v)) :
    ∃ r, x = .ok r ∧ v = .from_room r p := by
  cases x with
  | error => cases h
  | ok r =>
    cases h
    exact ⟨r, rfl, rfl⟩

/-- An answer without a body shows nothing. -/
lemma RoomReply.done_view {α : Type} (x : Except RoomError α) : (RoomReply.done x).view = none := by
  cases x <;> rfl

lemma create_room_stores {cfg g p q body now room_id draws v}
    (h : (create_room cfg g q body now room_id draws).1.view.map (q, ·) = some (p, v)) :
    ∃ r, (create_room cfg g q body now room_id draws).2.rooms.lookup room_id = some r ∧
      v = .from_room r p := by
  revert h
  unfold create_room
  split
  · intro h
    cases h
  · split
    · rename_i made
      intro h
      cases h
      unfold RoomRegistry.create at made
      split at made
      · cases made
      · cases made
        exact ⟨_, AList.lookup_insert _, rfl⟩
    · intro h
      cases h

/-- What an event shows is the room that stands in the registry after it, as its caller may see it.
-/
lemma RoomEvent.shows_stored {cfg g p v} {e : RoomEvent} (filed : (e.serve cfg g).2.Filed)
    (h : e.shows cfg g = some (p, v)) :
    ∃ r, (e.serve cfg g).2.rooms.lookup v.room_id = some r ∧ v = .from_room r p := by
  have stored {id r} (hr : (e.serve cfg g).2.rooms.lookup id = some r) (hv : v = .from_room r p) :
      ∃ r, (e.serve cfg g).2.rooms.lookup v.room_id = some r ∧ v = .from_room r p := by
    refine ⟨r, ?_, hv⟩
    rw [hv, RoomView.from_room, (filed id r hr).id]
    exact hr
  cases e with
  | purge => cases h
  | request q beat now req =>
    cases req with
    | create_room body room_id draws =>
      obtain ⟨r, hr, hv⟩ := create_room_stores h
      exact stored hr hv
    | get_room room_id =>
      obtain ⟨r, hr, hv⟩ := RoomReply.of_view h
      exact stored (membership_ok hr) hv
    | join_room room_id body =>
      obtain ⟨r, hr, hv⟩ := RoomReply.of_view h
      exact stored (join_stores hr) hv
    | set_ready room_id ready draw =>
      obtain ⟨r, hr, hv⟩ := RoomReply.of_view h
      exact stored (set_ready_stores hr) hv
    | mark_running room_id =>
      obtain ⟨r, hr, hv⟩ := RoomReply.of_view h
      exact stored (mark_running_stores hr) hv
    | list_rooms => cases h
    | leave_room | heartbeat =>
      simp only [shows, RoomRequest.serve, Prod.map_fst, RoomReply.done_view] at h
      cases h

/-- **Bootstraps of one session fit.** -/
theorem bootstraps_fit {cfg pre e mid e' p v q v' b b'}
    (shown : RoomEvent.shows cfg (served cfg pre) e = some (p, v)) (hb : v.rnet = some b)
    (shown' : RoomEvent.shows cfg (served cfg (pre ++ e :: mid)) e' = some (q, v'))
    (hb' : v'.rnet = some b') (same : v'.room_id = v.room_id)
    (fresh : ∀ e ∈ mid ++ [e'], ¬ e.draws v.room_id)
    (kept : ∀ m, m <+: mid → ∀ s, (served cfg (pre ++ e :: m)).rooms.lookup v.room_id = some s →
      s.status ≠ .Open) :
    BootstrapsFit p q v.host_player_id b b' := by
  have filed := served_filed cfg (pre ++ [e])
  have filed' := served_filed cfg (pre ++ [e] ++ (mid ++ [e']))
  have split : pre ++ [e] ++ (mid ++ [e']) = (pre ++ e :: mid) ++ [e'] := by simp
  obtain ⟨r, hr, rfl⟩ := e.shows_stored (served_append cfg pre e ▸ filed) shown
  obtain ⟨r', hr', rfl⟩ := e'.shows_stored (served_append .. ▸ split ▸ filed') shown'
  rw [← served_append] at hr hr'
  rw [same, ← split] at hr'
  -- The room has a session after `e'`, so it is not open there either.
  have live' : r'.status ≠ .Open :=
    (filed' _ r' hr').session.mp (Option.isSome_of_eq_some (bootstrap_tells hb').1)
  have live : ∀ m, m <+: mid ++ [e'] → ∀ s,
      (served cfg (pre ++ [e] ++ m)).rooms.lookup (RoomView.from_room r p).room_id = some s →
        s.status ≠ .Open := by
    intro m hm s hs
    rcases List.prefix_concat_iff.mp hm with rfl | hm
    · cases hr'.symm.trans hs
      exact live'
    · exact kept m hm s (by simpa using hs)
  have goes := session_runs hr fresh live hr'
  have sound := served_sound cfg (pre ++ [e]) _ r hr
  exact bootstraps_of_room sound hb (goes.bootstrap sound hb')

/-- A room of two that is full and ready. -/
def readyRoom : List RoomEvent :=
  [.request "reimu" 0 0 (.create_room { game_id := "th06", client_version := "1" } "r1" []),
    .request "marisa" 1 1 (.join_room "r1" { game_id := "th06", client_version := "1" }),
    .request "reimu" 2 2 (.set_ready "r1" true 7), .request "marisa" 3 3 (.set_ready "r1" true 8)]

def starts : RoomEvent := .request "reimu" 4 4 (.mark_running "r1")

def looks (p : String) : RoomEvent := .request p 5 5 (.get_room "r1")

theorem bootstraps_fit_two :
    BootstrapsFit "reimu" "marisa" "reimu" ⟨8, 1, 2, 2, 0, true⟩ ⟨8, 1, 2, 2, 1, false⟩ := by
  refine @bootstraps_fit { protocol_magic := 1 } readyRoom (looks "reimu") [starts] (looks "marisa")
    _ _ _ _ _ _ rfl rfl rfl rfl rfl ?_ ?_
  · intro e he
    simp only [List.singleton_append, List.mem_cons, List.not_mem_nil, or_false] at he
    rcases he with rfl | rfl <;> exact not_false
  · intro m hm s hs
    rcases List.prefix_cons_iff.mp hm with rfl | ⟨rest, rfl, none⟩
    · cases hs
      decide
    · rw [List.prefix_nil.mp none] at hs
      cases hs
      decide

/-! ## Who goes -/

/-- An event takes a member out of a room: it leaves, or a purge finds its heartbeat too old. -/
inductive Departs (id : String) (m : Member) : RoomEvent → Prop where
  | left {beat now} : Departs id m (.request m.player_id beat now (.leave_room id))
  | stale {hb idle now b} (timeout : duration_seconds (as_i64 hb) = some b)
      (late : b < now - m.last_heartbeat) : Departs id m (.purge hb idle now)

/-- An event takes a room away: its host leaves, or a purge finds the host gone or nothing stirring.
-/
inductive Dissolves (id : String) (r : Room) : RoomEvent → Prop where
  | left {beat now} : Dissolves id r (.request r.host_player_id beat now (.leave_room id))
  | stale {hb idle now b m} (timeout : duration_seconds (as_i64 hb) = some b) (hm : m ∈ r.members)
      (host : m.player_id = r.host_player_id) (late : b < now - m.last_heartbeat) :
      Dissolves id r (.purge hb idle now)
  | idle {hb idle now i} (timeout : duration_seconds (as_i64 idle) = some i)
      (late : i < now - r.updated_at) : Dissolves id r (.purge hb idle now)

lemma RoomEvent.op_leave {cfg id p now} {e : RoomEvent} (h : e.op cfg = some (.leave id p now)) :
    ∃ beat, e = .request p beat now (.leave_room id) := by
  cases e with
  | purge => cases h
  | request q beat t req =>
    cases req with
    | leave_room =>
      cases h
      exact ⟨beat, rfl⟩
    | create_room =>
      simp only [RoomEvent.op] at h
      split at h <;> cases h
    | _ => cases h

lemma RoomEvent.op_purge {cfg hb idle now} {e : RoomEvent}
    (h : e.op cfg = some (.purge_stale hb idle now)) : e = .purge hb idle now := by
  cases e with
  | purge =>
    cases h
    rfl
  | request q beat t req =>
    cases req with
    | create_room =>
      simp only [RoomEvent.op] at h
      split at h <;> cases h
    | _ => cases h

/-- Who is no longer in a room left it or stayed silent. -/
lemma RoomEvent.departs {cfg g id r r' m} {e : RoomEvent} (old : g.rooms.lookup id = some r)
    (h : (e.serve cfg g).2.rooms.lookup id = some r') (new : ¬ e.draws id) (hm : m ∈ r.members)
    (gone : m.player_id ∉ r'.members.map (·.player_id)) : Departs id m e := by
  have here {places : List Member}
      (same : places.map (·.player_id) = r.members.map (·.player_id))
      (out : m.player_id ∉ places.map (·.player_id)) : False :=
    out (same ▸ List.mem_map_of_mem hm)
  rw [e.serve_run] at h
  cases hop : e.op cfg with
  | none =>
    rw [hop] at h
    cases old.symm.trans h
    exact (here rfl gone).elim
  | some op =>
    rw [hop] at h
    have fresh := e.op_draws hop new
    cases RoomOp.run_step h with
    | same old' | running old' =>
      cases old.symm.trans old'
      exact (here rfl gone).elim
    | create => exact absurd rfl fresh
    | join old' =>
      cases old.symm.trans old'
      rw [List.map_append] at gone
      exact absurd (List.mem_append_left _ (List.mem_map_of_mem hm)) gone
    | @leave _ p now _ old' =>
      cases old.symm.trans old'
      obtain ⟨beat, rfl⟩ := e.op_leave hop
      by_cases own : m.player_id = p
      · subst own
        exact .left
      · -- The others stay, though nobody is ready any more.
        rw [reopen_members] at gone
        refine absurd ?_ gone
        have stays : m ∈ r.members.filter (·.player_id ≠ p) :=
          List.mem_filter.mpr ⟨hm, by simpa using own⟩
        simp only [Room.unready, List.map_map, Function.comp_def]
        exact List.mem_map_of_mem stays
    | @ready _ p ready beat now draw _ old' =>
      cases old.symm.trans old'
      have ids := r.setMember_ids p (f := ({ · with ready := ready, last_heartbeat := beat }))
        fun _ => rfl
      refine (here ?_ gone).elim
      unfold Room.settle
      split
      · exact ids
      · rw [reopen_members]
        exact ids
    | @beat _ p beat _ _ old' =>
      cases old.symm.trans old'
      have ids := r.setMember_ids p (f := ({ · with last_heartbeat := beat })) fun _ => rfl
      exact (here ids gone).elim
    | @purge _ _ now b _ _ _ hhb _ old' =>
      cases old.symm.trans old'
      obtain rfl := e.op_purge hop
      refine .stale hhb (not_le.mp fun young => gone ?_)
      exact List.mem_map_of_mem (List.mem_filter.mpr ⟨hm, decide_eq_true young⟩)

lemma put_keeps {g : RoomRegistry} {id id' : String} {r room}
    (old : g.rooms.lookup id = some r) : (g.put id' room).rooms.lookup id ≠ none := by
  rw [RoomRegistry.put, Assoc.Map.lookup_modify, old]
  split <;> simp

lemma purge_dissolves {g : RoomRegistry} {id r hb idle now} (sound : g.Sound)
    (old : g.rooms.lookup id = some r)
    (h : ((g.purge_stale hb idle now).getD g).rooms.lookup id = none) :
    Dissolves id r (.purge hb idle now) := by
  unfold RoomRegistry.purge_stale at h
  cases hhb : duration_seconds (as_i64 hb) with
  | none =>
    rw [hhb] at h
    cases old.symm.trans h
  | some b =>
    cases hidle : duration_seconds (as_i64 idle) with
    | none =>
      rw [hhb, hidle] at h
      cases old.symm.trans h
    | some i =>
      simp only [hhb, hidle, Option.bind_some, Option.map_some, Option.getD_some] at h
      by_cases late : i < now - r.updated_at
      · exact .idle hidle late
      · obtain ⟨m, hm, host, -⟩ := (sound id r old).host
        refine .stale hhb hm host (not_le.mp fun young => ?_)
        -- With its host heard of and something stirring the sweep keeps the room.
        have stays : m ∈ (r.purge now b).members := List.mem_filter.mpr ⟨hm, decide_eq_true young⟩
        have kept : (r.purge now b).expired now i = false := by
          have some_one : (r.purge now b).members.isEmpty = false := by
            rw [List.isEmpty_eq_false_iff]
            exact List.ne_nil_of_mem stays
          have hosted : (r.purge now b).members.any
              (·.player_id = (r.purge now b).host_player_id) = true :=
            List.any_eq_true.mpr ⟨m, stays, decide_eq_true host⟩
          have calm : decide (now - (r.purge now b).updated_at > i) = false :=
            decide_eq_false late
          simp only [Room.expired, some_one, hosted, calm, Bool.not_true, Bool.or_self]
        have found :
            (g.rooms.mapVal fun _ r => r.purge now b).lookup id = some (r.purge now b) := by
          rw [Assoc.Map.lookup_mapVal, old]
          rfl
        have there := Assoc.Map.lookup_retain (p := fun _ r => !r.expired now i).mpr
          ⟨found, by simpa using kept⟩
        cases there.symm.trans h

/-- A room is taken away by its host leaving or by a purge. -/
lemma RoomEvent.dissolves {cfg g id r} {e : RoomEvent} (sound : g.Sound)
    (old : g.rooms.lookup id = some r) (h : (e.serve cfg g).2.rooms.lookup id = none) :
    Dissolves id r e := by
  rw [e.serve_run] at h
  cases hop : e.op cfg with
  | none =>
    rw [hop] at h
    cases old.symm.trans h
  | some op =>
    rw [hop] at h
    simp only [Option.map_some, Option.getD_some] at h
    cases op with
    | create host gid cv dn sc d pm priv now id0 draws =>
      simp only [RoomOp.run, outcome, RoomRegistry.create] at h
      split at h
      · cases old.symm.trans h
      · by_cases same : id = id0
        · subst same
          rw [AList.lookup_insert] at h
          cases h
        · rw [AList.lookup_insert_ne same] at h
          cases old.symm.trans h
    | leave id0 p now =>
      obtain ⟨beat, rfl⟩ := e.op_leave hop
      simp only [RoomOp.run, outcome, RoomRegistry.leave] at h
      repeat' split at h
      · cases old.symm.trans h
      · cases old.symm.trans h
      · rename_i r0 h0 _ host
        by_cases same : id = id0
        · subst same
          cases old.symm.trans h0
          subst host
          exact .left
        · rw [AList.lookup_erase_ne same] at h
          cases old.symm.trans h
      · exact absurd h (put_keeps old)
    | purge_stale hb idle now =>
      obtain rfl := e.op_purge hop
      exact purge_dissolves sound old h
    | join | set_ready | heartbeat | mark_running =>
      simp only [RoomOp.run, outcome, RoomRegistry.join, RoomRegistry.set_ready,
        RoomRegistry.heartbeat, RoomRegistry.mark_running] at h
      repeat' split at h
      all_goals first
        | exact absurd h (put_keeps old)
        | cases old.symm.trans h

/-- In some event of the run a room that was still there then meets what `P` says of them. -/
def Met (cfg : RoomConfig) (pre post : List RoomEvent) (id : String)
    (P : Room → RoomEvent → Prop) : Prop :=
  ∃ a e b, post = a ++ e :: b ∧ ∃ s, (served cfg (pre ++ a)).rooms.lookup id = some s ∧ P s e

lemma Met.later {cfg pre post id P} (h : Met cfg pre post id P) (e : RoomEvent) :
    Met cfg pre (post ++ [e]) id P := by
  obtain ⟨a, e0, b, rfl, s, hs, hP⟩ := h
  exact ⟨a, e0, b ++ [e], by simp, s, hs, hP⟩

/-- **A running room.** It runs on as long as it is there, its session goes on, and nobody joins it.
A member is gone only by leaving or by its silence, and the room only by its host or by a purge. -/
theorem running_kept {cfg pre post id r} (here : (served cfg pre).rooms.lookup id = some r)
    (running : r.status = .Running) (fresh : ∀ e ∈ post, ¬ RoomEvent.draws id e) :
    (∀ r', (served cfg (pre ++ post)).rooms.lookup id = some r' →
      r'.status = .Running ∧ r.Continues r' ∧
      ∀ m ∈ r.members, m.player_id ∉ r'.members.map (·.player_id) →
        Met cfg pre post id fun s e => ∃ m' ∈ s.members, m'.player_id = m.player_id ∧
          Departs id m' e) ∧
    ((served cfg (pre ++ post)).rooms.lookup id = none →
      Met cfg pre post id fun s e => s.status = .Running ∧ Dissolves id s e) := by
  induction post using List.reverseRecOn with
  | nil =>
    rw [List.append_nil]
    constructor
    · intro r' h
      cases here.symm.trans h
      exact ⟨running, .refl r, fun m hm gone => absurd (List.mem_map_of_mem hm) gone⟩
    · intro h
      cases here.symm.trans h
  | append_singleton post e ih =>
    obtain ⟨stays, goes⟩ := ih fun e he => fresh e (List.mem_append_left _ he)
    have new := fresh e (by simp)
    rw [← List.append_assoc, served_append]
    constructor
    · intro r' h
      obtain ⟨op, fresh', step⟩ := RoomEvent.serve_step h new
      obtain ⟨s, hs⟩ := step.was_there fresh'
      obtain ⟨runs, sofar, gone⟩ := stays s hs
      have on := step.running_on hs fresh' runs
      have next := step.continues (served_filed cfg _) hs fresh' (by simp [runs]) (by simp [on])
      refine ⟨on, sofar.trans next, fun m hm out => ?_⟩
      by_cases still : m.player_id ∈ s.members.map (·.player_id)
      · obtain ⟨m', hm', same⟩ := List.mem_map.mp still
        have departs := RoomEvent.departs hs h new hm' (same ▸ out)
        exact ⟨post, e, [], rfl, s, hs, m', hm', same, departs⟩
      · exact (gone m hm still).later e
    · intro h
      cases hs : (served cfg (pre ++ post)).rooms.lookup id with
      | none => exact (goes hs).later e
      | some s =>
        exact ⟨post, e, [], rfl, s, hs, (stays s hs).1,
          RoomEvent.dissolves (served_sound cfg _) hs h⟩

theorem running_kept_two : Met { protocol_magic := 1 } (readyRoom ++ [starts])
    [.request "marisa" 6 6 (.leave_room "r1")] "r1"
    fun s e => ∃ m' ∈ s.members, m'.player_id = "marisa" ∧ Departs "r1" m' e := by
  have kept := @running_kept { protocol_magic := 1 } (readyRoom ++ [starts])
    [.request "marisa" 6 6 (.leave_room "r1")] "r1" _ rfl rfl (by
      intro e he
      rw [List.mem_singleton.mp he]
      exact not_false)
  exact (kept.1 _ rfl).2.2 ⟨"marisa", 1, true, 3⟩ (by decide) (by decide)

end Http

end RecompNet
