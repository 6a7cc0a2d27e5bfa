import RecompNet.Registry

/-!
# The ready barrier

A room of the registry is `Starting` when it is full and everybody is ready (`Room.Barrier`), and whoever
goes takes the others' readiness along (`Resets`). Every operation keeps that but a purge, which takes
members out and leaves the readiness of the others as it is; `RoomOp.Careful` says when that shows.
-/

namespace RecompNet

/-- A room that is starting is full and ready, and a session goes with starting and running. -/
structure Room.Barrier (r : Room) : Prop where
  full : r.status = .Starting → r.members.length = r.slot_count ∧ ∀ m ∈ r.members, m.ready
  session : r.session_id.isSome ↔ r.status = .Starting ∨ r.status = .Running

/-- A room that lost a member other than its host, and stays, has nobody ready and is not starting. -/
def Resets (g g' : RoomRegistry) : Prop := ∀ id r r' m, g.rooms.lookup id = some r →
  g'.rooms.lookup id = some r' → m ∈ r.members → m.player_id ≠ r.host_player_id →
  m.player_id ∉ r'.members.map (·.player_id) →
  (∀ m' ∈ r'.members, m'.ready = false) ∧ r'.status ≠ .Starting

/-- A purge takes members out of a room that it keeps only when nobody who stays is ready. -/
def RoomOp.Careful (g : RoomRegistry) : RoomOp → Prop
  | .purge_stale hb idle now => ∀ b i id r, duration_seconds (as_i64 hb) = some b →
      duration_seconds (as_i64 idle) = some i → g.rooms.lookup id = some r →
      (r.purge now b).expired now i = false → (∃ m ∈ r.members, b < now - m.last_heartbeat) →
      ∀ m ∈ r.members, now - m.last_heartbeat ≤ b → m.ready = false
  | _ => True

namespace Room

lemma reopen_status (r : Room) : r.reopen.status ≠ .Starting := by
  unfold reopen
  split
  · exact nofun
  · assumption

/-- Rewriting a member keeps who is there. -/
lemma setMember_ids (r : Room) (p : String) {f : Member → Member}
    (h : ∀ m, (f m).player_id = m.player_id) :
    (r.setMember p f).members.map (·.player_id) = r.members.map (·.player_id) :=
  map_updateFirst _ _ _ h _

/-- A room that goes back to `Open` keeps the barrier, whatever became of its members. -/
lemma reopen_barrier {r : Room}
    (session : r.session_id.isSome ↔ r.status = .Starting ∨ r.status = .Running) :
    r.reopen.Barrier := by
  refine ⟨fun h => absurd h r.reopen_status, ?_⟩
  unfold reopen
  split
  · simp
  · exact session

lemma settle_barrier {r : Room} {draw : Nat}
    (session : r.session_id.isSome ↔ r.status = .Starting ∨ r.status = .Running) :
    (r.settle draw).Barrier := by
  unfold settle
  split
  · rename_i all
    obtain ⟨full, ready⟩ := (Bool.and_eq_true _ _).mp all
    refine ⟨fun _ => ⟨of_decide_eq_true full, List.all_eq_true.mp ready⟩, by simp⟩
  · exact reopen_barrier session

/-- A purge of nobody. -/
lemma purge_all_fresh {r : Room} {now hb} (fresh : ¬ ∃ m ∈ r.members, hb < now - m.last_heartbeat) :
    r.purge now hb = r := by
  have all : r.members.filter (fun m => now - m.last_heartbeat ≤ hb) = r.members := by
    rw [List.filter_eq_self]
    intro m hm
    exact decide_eq_true (not_lt.mp fun late => fresh ⟨m, hm, late⟩)
  unfold purge
  rw [all]

/-- A room that a careful purge takes members out of was not starting. -/
lemma purge_not_starting {r : Room} {now hb idle} (barrier : r.Barrier)
    (kept : (r.purge now hb).expired now idle = false)
    (idlers : ∀ m ∈ r.members, now - m.last_heartbeat ≤ hb → m.ready = false) :
    r.status ≠ .Starting := by
  intro starting
  obtain ⟨m, hm, fresh, -⟩ := host_kept kept
  have ready := (barrier.full starting).2 m hm
  rw [idlers m hm fresh] at ready
  cases ready

end Room

/-- A careful call keeps the barrier of every room. -/
lemma RoomStep.barrier {g op id r'} (h : RoomStep g op id r') (careful : op.Careful g)
    (old : ∀ id r, g.rooms.lookup id = some r → r.Barrier) : r'.Barrier := by
  cases h with
  | same room => exact old id r' room
  | create => exact ⟨nofun, by simp [RoomRegistry.newRoom]⟩
  | join room opened =>
    refine ⟨fun h => ?_, (old id _ room).session⟩
    cases opened.symm.trans h
  | leave room => exact Room.reopen_barrier (old id _ room).session
  | ready room => exact Room.settle_barrier (old id _ room).session
  | @beat _ p beat now r room =>
    have same : (r.setMember p ({ · with last_heartbeat := beat })).members.map (·.ready) =
        r.members.map (·.ready) := by
      refine map_updateFirst _ _ Member.ready ?_ _
      exact fun _ => rfl
    refine ⟨fun starting => ?_, (old id _ room).session⟩
    obtain ⟨full, ready⟩ := (old id _ room).full starting
    have count := congrArg List.length same
    rw [List.length_map, List.length_map] at count
    refine ⟨count.trans full, fun m hm => ?_⟩
    obtain ⟨m0, h0, e⟩ := List.mem_map.mp (same ▸ List.mem_map_of_mem hm)
    rw [← e]
    exact ready m0 h0
  | running room starting =>
    refine ⟨nofun, ?_⟩
    have running := (old id _ room).session.mpr (.inl starting)
    simpa using running
  | @purge hb idle now b i _ r hhb hidle room kept =>
    by_cases late : ∃ m ∈ r.members, b < now - m.last_heartbeat
    · have idlers := careful b i id r hhb hidle room kept late
      refine ⟨fun starting => ?_, (old id r room).session⟩
      have steady := Room.purge_not_starting (old id r room) kept idlers
      exact absurd starting steady
    · rw [Room.purge_all_fresh late]
      exact old id r room

/-- A careful call resets the readiness of a room that somebody left. -/
lemma RoomOp.run_resets {g : RoomRegistry} {op : RoomOp} (careful : op.Careful g)
    (old : ∀ id r, g.rooms.lookup id = some r → r.Barrier) : Resets g (op.run g).2 := by
  intro id r r' m hr hr' hm guest gone
  have stays : ∀ {ms : List Member}, ms.map (·.player_id) = r.members.map (·.player_id) →
      m.player_id ∈ ms.map (·.player_id) := fun e => e ▸ List.mem_map_of_mem hm
  cases RoomOp.run_step hr' with
  | same room =>
    cases hr.symm.trans room
    exact absurd (stays rfl) gone
  | create =>
    refine ⟨fun m' hm' => ?_, nofun⟩
    rw [List.mem_singleton.mp hm']
  | join room =>
    cases hr.symm.trans room
    rw [List.map_append] at gone
    exact absurd (List.mem_append_left _ (stays rfl)) gone
  | leave room =>
    refine ⟨fun m' hm' => ?_, Room.reopen_status _⟩
    rw [reopen_members] at hm'
    obtain ⟨m0, -, rfl⟩ := List.mem_map.mp hm'
    rfl
  | @ready _ p ready beat now draw r0 room =>
    cases hr.symm.trans room
    have kept : ((r.mark p ready beat now).settle draw).members = (r.mark p ready beat now).members := by
      unfold Room.settle
      split
      · rfl
      · exact reopen_members _
    rw [kept] at gone
    refine absurd (stays ?_) gone
    exact r.setMember_ids p fun _ => rfl
  | @beat _ p beat now r0 room =>
    cases hr.symm.trans room
    refine absurd (stays ?_) gone
    exact r.setMember_ids p fun _ => rfl
  | running room =>
    cases hr.symm.trans room
    exact absurd (stays rfl) gone
  | @purge hb idle now b i _ r0 hhb hidle room kept =>
    cases hr.symm.trans room
    have late : b < now - m.last_heartbeat := by
      by_contra fresh
      refine gone (List.mem_map_of_mem (List.mem_filter.mpr ⟨hm, ?_⟩))
      exact decide_eq_true (not_lt.mp fresh)
    have idlers := careful b i id r hhb hidle room kept ⟨m, hm, late⟩
    have steady := Room.purge_not_starting (old id r room) kept idlers
    refine ⟨fun m' hm' => ?_, steady⟩
    obtain ⟨hm', fresh⟩ := List.mem_filter.mp hm'
    exact idlers m' hm' (of_decide_eq_true fresh)

/-- A purge that resets the readiness of every room that somebody left is careful. -/
lemma Resets.careful {g : RoomRegistry} {op : RoomOp} (resets : Resets g (op.run g).2)
    (sound : g.Sound) : op.Careful g := by
  cases op with
  | purge_stale hb idle now =>
    rintro b i id r hhb hidle hr kept ⟨m, hm, late⟩
    have after : (RoomOp.run g (.purge_stale hb idle now)).2.rooms.lookup id =
        some (r.purge now b) := by
      simp only [RoomOp.run, RoomRegistry.purge_stale, hhb, hidle, Option.bind_some,
        Option.map_some, Option.getD_some]
      refine Assoc.Map.lookup_retain.mpr ⟨?_, by simpa using kept⟩
      rw [Assoc.Map.lookup_mapVal, hr]
      rfl
    have once := (sound id r hr).ids
    have removed : ∀ m' ∈ r.members, now - m'.last_heartbeat ≤ b → m.player_id ≠ m'.player_id := by
      intro m' hm' fresh e
      cases List.inj_on_of_nodup_map once hm hm' e
      exact absurd fresh (not_le.mpr late)
    obtain ⟨m0, h0, fresh0, own0⟩ := Room.host_kept kept
    have others := (resets id r _ m hr after hm (own0 ▸ removed m0 h0 fresh0) (by
      intro stays
      obtain ⟨m', hm', e⟩ := List.mem_map.mp stays
      obtain ⟨hm', fresh⟩ := List.mem_filter.mp hm'
      exact removed m' hm' (of_decide_eq_true fresh) e.symm)).1
    intro m' hm' fresh
    exact others m' (List.mem_filter.mpr ⟨hm', decide_eq_true fresh⟩)
  | _ => trivial

lemma after_append (pre : List RoomOp) (op : RoomOp) :
    RoomRegistry.after (pre ++ [op]) = (op.run (RoomRegistry.after pre)).2 := by
  simp [RoomRegistry.after, List.foldl_append]

/-- Careful calls keep the barrier of every room. -/
lemma after_barrier {ops : List RoomOp}
    (careful : ∀ pre op post, ops = pre ++ op :: post → op.Careful (RoomRegistry.after pre)) :
    ∀ pre post, ops = pre ++ post → ∀ id r, (RoomRegistry.after pre).rooms.lookup id = some r →
      r.Barrier := by
  intro pre
  induction pre using List.reverseRecOn with
  | nil =>
    intro post e id r h
    cases h
  | append_singleton pre op ih =>
    intro post e id r h
    have e : ops = pre ++ op :: post := by simpa using e
    rw [after_append] at h
    exact (RoomOp.run_step h).barrier (careful pre op post e) (ih (op :: post) e)

/-- **The ready barrier.** It holds all along a sequence of calls, and every call resets what it has to,
exactly when the purges of the sequence are careful. -/
theorem ready_barrier (ops : List RoomOp) :
    ((∀ pre post, ops = pre ++ post → ∀ id r, (RoomRegistry.after pre).rooms.lookup id = some r →
        r.Barrier) ∧
      ∀ pre op post, ops = pre ++ op :: post →
        Resets (RoomRegistry.after pre) (RoomOp.run (RoomRegistry.after pre) op).2) ↔
    ∀ pre op post, ops = pre ++ op :: post → RoomOp.Careful (RoomRegistry.after pre) op := by
  constructor
  · rintro ⟨-, resets⟩ pre op post e
    exact (resets pre op post e).careful (registry_sound pre)
  · intro careful
    have barrier := after_barrier careful
    exact ⟨barrier, fun pre op post e => RoomOp.run_resets (careful pre op post e) (barrier pre _ e)⟩

/-- A purge leaves a room starting with one of two players. -/
theorem ready_barrier_purged : ¬ ∀ ops : List RoomOp,
    (∀ pre post, ops = pre ++ post → ∀ id r, (RoomRegistry.after pre).rooms.lookup id = some r →
        r.Barrier) ∧
      ∀ pre op post, ops = pre ++ op :: post →
        Resets (RoomRegistry.after pre) (RoomOp.run (RoomRegistry.after pre) op).2 := by
  intro all
  let s : Int := 10 ^ 9
  let ops : List RoomOp :=
    [.create "host" "game" "1" "Room" 2 2 0 false 0 "room" [],
      .join "room" "guest" "game" "1" none 0,
      .set_ready "room" "host" true s s 7, .set_ready "room" "guest" true s s 7,
      .heartbeat "room" "host" (40 * s) (40 * s), .purge_stale 30 3600 (50 * s)]
  have barrier := (all ops).1 ops [] (List.append_nil _).symm "room"
  have left : ((RoomRegistry.after ops).rooms.lookup "room").any fun r =>
      r.status = .Starting && r.members.length < r.slot_count := by decide
  obtain ⟨r, hr, h⟩ := (Option.any_eq_true _ _).mp left
  obtain ⟨starting, few⟩ := (Bool.and_eq_true _ _).mp h
  have full := ((barrier r hr).full (of_decide_eq_true starting)).1
  exact absurd (of_decide_eq_true few) (by omega)

end RecompNet
