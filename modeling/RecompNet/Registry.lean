import RecompNet.Lib.Assoc
import RecompNet.Automatch.Queue
import Mathlib.Data.List.Nodup
import Mathlib.Data.List.Range

/-!
# The room registry

The in-memory rooms of the HTTP interface (`rooms.rs`). Every operation is one call under the registry's
lock. What it draws (uuids, session ids, join codes) and the clock readings it takes are arguments; a
timestamp counts nanoseconds and may go backwards.
-/

namespace RecompNet

abbrev Timestamp := Int

inductive RoomStatus where
  | Open | Starting | Running | Closed
  deriving DecidableEq

structure Member where
  player_id : String
  local_slot : Nat
  ready : Bool
  last_heartbeat : Timestamp
  deriving DecidableEq

structure RnetBootstrap where
  session_id : Nat
  protocol_magic : Nat
  slot_count : Nat
  input_delay : Nat
  local_slot : Nat
  you_are_sim_authority : Bool
  deriving DecidableEq

structure Room where
  room_id : String
  game_id : String
  client_version : String
  display_name : String
  slot_count : Nat
  input_delay : Nat
  protocol_magic : Nat
  session_id : Option Nat
  is_private : Bool
  join_code : Option String
  status : RoomStatus
  host_player_id : String
  members : List Member
  created_at : Timestamp
  updated_at : Timestamp
  deriving DecidableEq

inductive RoomError where
  | NotFound | Full | NotJoinable | BadJoinCode | GameMismatch | VersionMismatch | AlreadyJoined
  | NotMember | NotHost | BadSlotCount
  deriving DecidableEq

structure RoomRegistry where
  rooms : Assoc.Map String Room := ∅

def JOIN_CODE_ALPHABET : List Char := "ABCDEFGHJKLMNPQRSTUVWXYZ23456789".toList

/-- Six characters, one for each number drawn. -/
def generate_join_code (draws : List Nat) : String :=
  String.ofList ((draws.take 6).map fun n =>
    JOIN_CODE_ALPHABET.getD (n % JOIN_CODE_ALPHABET.length) 'A')

/-- `u64 as i64`. -/
def as_i64 (n : Nat) : Int :=
  if n % 2 ^ 64 < 2 ^ 63 then (n % 2 ^ 64 : Nat) else (n % 2 ^ 64 : Nat) - 2 ^ 64

/-- `chrono::Duration::seconds`, in nanoseconds; it panics on what is no duration. -/
def duration_seconds (secs : Int) : Option Int :=
  if -9223372036854775 ≤ secs ∧ secs ≤ 9223372036854775 then some (secs * 10 ^ 9) else none

/-! ## The operations -/

namespace Room

def member (r : Room) (player_id : String) : Option Member :=
  r.members.find? (·.player_id = player_id)

/-- Rewrite the first member with an id. -/
def setMember (r : Room) (player_id : String) (f : Member → Member) : Room :=
  { r with members := updateFirst (·.player_id = player_id) f r.members }

/-- Nobody is ready. -/
def unready (r : Room) : Room := { r with members := r.members.map ({ · with ready := false }) }

/-- Back from `Starting` to `Open`. -/
def reopen (r : Room) : Room :=
  if r.status = .Starting then { r with status := .Open, session_id := none } else r

/-- Does a join pass the code of a private room? -/
def admits (r : Room) (join_code : Option String) : Bool :=
  !r.is_private || match r.join_code, join_code with
    | some code, some provided => code = provided
    | _, _ => false

/-- Is everybody there and ready? -/
def all_ready (r : Room) : Bool := r.members.length = r.slot_count && r.members.all (·.ready)

/-- Note what a member says about itself. -/
def mark (r : Room) (player_id : String) (ready : Bool) (beat now : Timestamp) : Room :=
  { r.setMember player_id ({ · with ready := ready, last_heartbeat := beat }) with updated_at := now }

/-- Start when everybody is there and ready, else go back. -/
def settle (r : Room) (draw : Nat) : Room :=
  if r.all_ready then { r with session_id := some (r.session_id.getD draw), status := .Starting }
  else r.reopen

/-- The members whose heartbeat is recent enough. -/
def purge (r : Room) (now : Timestamp) (hb : Int) : Room :=
  { r with members := r.members.filter fun m => now - m.last_heartbeat ≤ hb }

/-- Is the room to be removed by a purge? -/
def expired (r : Room) (now : Timestamp) (idle : Int) : Bool :=
  r.members.isEmpty || now - r.updated_at > idle ||
    !r.members.any (·.player_id = r.host_player_id)

end Room

namespace RoomRegistry

/-- `rooms.get_mut`: write a room back. -/
def put (g : RoomRegistry) (room_id : String) (room : Room) : RoomRegistry :=
  { g with rooms := g.rooms.modify room_id fun _ => room }

/-- The room that `create` makes. -/
def newRoom (host game_id client_version display_name : String)
    (slot_count input_delay protocol_magic : Nat) (is_private : Bool) (now : Timestamp)
    (room_id : String) (draws : List Nat) : Room :=
  { room_id, game_id, client_version, display_name, slot_count, input_delay, protocol_magic
    session_id := none
    is_private
    join_code := if is_private then some (generate_join_code draws) else none
    status := .Open
    host_player_id := host
    members := [{ player_id := host, local_slot := 0, ready := false, last_heartbeat := now }]
    created_at := now
    updated_at := now }

def create (g : RoomRegistry) (host game_id client_version display_name : String)
    (slot_count input_delay protocol_magic : Nat) (is_private : Bool) (now : Timestamp)
    (room_id : String) (draws : List Nat) : Except RoomError Room × RoomRegistry :=
  if ¬ (2 ≤ slot_count ∧ slot_count ≤ 8) then (.error .BadSlotCount, g)
  else
    let room := newRoom host game_id client_version display_name slot_count input_delay
      protocol_magic is_private now room_id draws
    (.ok room, { g with rooms := g.rooms.insert room_id room })

def join (g : RoomRegistry) (room_id player_id game_id client_version : String)
    (join_code : Option String) (now : Timestamp) : Except RoomError Room × RoomRegistry :=
  match g.rooms.lookup room_id with
  | none => (.error .NotFound, g)
  | some room =>
    if room.status ≠ .Open then (.error .NotJoinable, g)
    else if room.game_id ≠ game_id then (.error .GameMismatch, g)
    else if room.client_version ≠ client_version then (.error .VersionMismatch, g)
    else if !room.admits join_code then (.error .BadJoinCode, g)
    else if room.members.any (·.player_id = player_id) then (.error .AlreadyJoined, g)
    else if room.slot_count ≤ room.members.length then (.error .Full, g)
    else
      let used := room.members.map (·.local_slot)
      match (List.range room.slot_count).find? (· ∉ used) with
      | none => (.error .Full, g)
      | some local_slot =>
        let m : Member := { player_id, local_slot, ready := false, last_heartbeat := now }
        let room := { room with members := room.members ++ [m], updated_at := now }
        (.ok room, g.put room_id room)

def leave (g : RoomRegistry) (room_id player_id : String) (now : Timestamp) :
    Except RoomError Room × RoomRegistry :=
  match g.rooms.lookup room_id with
  | none => (.error .NotFound, g)
  | some room =>
    if !room.members.any (·.player_id = player_id) then (.error .NotMember, g)
    else if room.host_player_id = player_id then
      (.ok { room with status := .Closed }, { g with rooms := g.rooms.erase room_id })
    else
      let room := { room with
        members := room.members.filter (·.player_id ≠ player_id)
        updated_at := now }
      let room := room.unready.reopen
      (.ok room, g.put room_id room)

def set_ready (g : RoomRegistry) (room_id player_id : String) (ready : Bool)
    (beat now : Timestamp) (draw : Nat) : Except RoomError Room × RoomRegistry :=
  match g.rooms.lookup room_id with
  | none => (.error .NotFound, g)
  | some room =>
    if room.status ≠ .Open ∧ room.status ≠ .Starting then (.error .NotJoinable, g)
    else
      match room.member player_id with
      | none => (.error .NotMember, g)
      | some _ =>
        let room := (room.mark player_id ready beat now).settle draw
        (.ok room, g.put room_id room)

def heartbeat (g : RoomRegistry) (room_id player_id : String) (beat now : Timestamp) :
    Except RoomError Unit × RoomRegistry :=
  match g.rooms.lookup room_id with
  | none => (.error .NotFound, g)
  | some room =>
    match room.member player_id with
    | none => (.error .NotMember, g)
    | some _ =>
      (.ok (), g.put room_id
        { room.setMember player_id ({ · with last_heartbeat := beat }) with updated_at := now })

def mark_running (g : RoomRegistry) (room_id player_id : String) (now : Timestamp) :
    Except RoomError Room × RoomRegistry :=
  match g.rooms.lookup room_id with
  | none => (.error .NotFound, g)
  | some room =>
    if room.host_player_id ≠ player_id then (.error .NotHost, g)
    else if room.status ≠ .Starting then (.error .NotJoinable, g)
    else
      let room := { room with status := .Running, updated_at := now }
      (.ok room, g.put room_id room)

def bootstrap_for (room : Room) (player_id : String) : Option RnetBootstrap :=
  room.session_id.bind fun session_id =>
    (room.member player_id).map fun m =>
      { session_id
        protocol_magic := room.protocol_magic
        slot_count := room.slot_count
        input_delay := room.input_delay
        local_slot := m.local_slot
        you_are_sim_authority := m.local_slot = 0 }

/-- `none` when a timeout is no duration, before anything is touched. -/
def purge_stale (g : RoomRegistry) (heartbeat_timeout_secs idle_secs : Nat) (now : Timestamp) :
    Option RoomRegistry :=
  (duration_seconds (as_i64 heartbeat_timeout_secs)).bind fun hb =>
    (duration_seconds (as_i64 idle_secs)).map fun idle =>
      { g with rooms :=
          (g.rooms.mapVal fun _ r => r.purge now hb).retain fun _ r => !r.expired now idle }

end RoomRegistry

/-! ## Runs -/

/-- A call of the registry. -/
inductive RoomOp where
  | create (host game_id client_version display_name : String)
      (slot_count input_delay protocol_magic : Nat) (is_private : Bool) (now : Timestamp)
      (room_id : String) (draws : List Nat)
  | join (room_id player_id game_id client_version : String) (join_code : Option String)
      (now : Timestamp)
  | leave (room_id player_id : String) (now : Timestamp)
  | set_ready (room_id player_id : String) (ready : Bool) (beat now : Timestamp) (draw : Nat)
  | heartbeat (room_id player_id : String) (beat now : Timestamp)
  | mark_running (room_id player_id : String) (now : Timestamp)
  | purge_stale (heartbeat_timeout_secs idle_secs : Nat) (now : Timestamp)

/-- Forget what a call hands back. -/
def outcome {α : Type} (x : Except RoomError α × RoomRegistry) :
    Except RoomError Unit × RoomRegistry :=
  (x.1.map fun _ => (), x.2)

/-- Whether a call succeeds, and the registry after it. A purge that panics touched nothing. -/
def RoomOp.run (g : RoomRegistry) : RoomOp → Except RoomError Unit × RoomRegistry
  | create h gid cv dn sc d pm priv now id draws =>
    outcome (g.create h gid cv dn sc d pm priv now id draws)
  | join id p gid cv code now => outcome (g.join id p gid cv code now)
  | leave id p now => outcome (g.leave id p now)
  | set_ready id p ready beat now draw => outcome (g.set_ready id p ready beat now draw)
  | heartbeat id p beat now => outcome (g.heartbeat id p beat now)
  | mark_running id p now => outcome (g.mark_running id p now)
  | purge_stale hb idle now => (.ok (), (g.purge_stale hb idle now).getD g)

/-- The registry after a sequence of calls. -/
def RoomRegistry.after (ops : List RoomOp) : RoomRegistry :=
  ops.foldl (fun g op => (op.run g).2) {}

/-! ## What a call does to one room -/

/-- Where a room after a call comes from: it is an old one, untouched or changed by the call, or it was
just made. -/
inductive RoomStep (g : RoomRegistry) : RoomOp → String → Room → Prop where
  | same {op id r} (old : g.rooms.lookup id = some r) : RoomStep g op id r
  | create {h gid cv dn sc d pm priv now id draws} (two : 2 ≤ sc) (eight : sc ≤ 8) :
    RoomStep g (.create h gid cv dn sc d pm priv now id draws) id
      (RoomRegistry.newRoom h gid cv dn sc d pm priv now id draws)
  | join {id p gid cv code now r s} (old : g.rooms.lookup id = some r) (opened : r.status = .Open)
      (out : r.members.any (·.player_id = p) = false) (below : s < r.slot_count)
      (free : s ∉ r.members.map (·.local_slot)) :
    RoomStep g (.join id p gid cv code now) id { r with
      members := r.members ++ [{ player_id := p, local_slot := s, ready := false, last_heartbeat := now }]
      updated_at := now }
  | leave {id p now r} (old : g.rooms.lookup id = some r) (guest : r.host_player_id ≠ p) :
    RoomStep g (.leave id p now) id ({ r with
      members := r.members.filter (·.player_id ≠ p), updated_at := now } : Room).unready.reopen
  | ready {id p ready beat now draw r} (old : g.rooms.lookup id = some r)
      (early : r.status = .Open ∨ r.status = .Starting) :
    RoomStep g (.set_ready id p ready beat now draw) id ((r.mark p ready beat now).settle draw)
  | beat {id p beat now r} (old : g.rooms.lookup id = some r) :
    RoomStep g (.heartbeat id p beat now) id
      { r.setMember p ({ · with last_heartbeat := beat }) with updated_at := now }
  | running {id p now r} (old : g.rooms.lookup id = some r) (starting : r.status = .Starting) :
    RoomStep g (.mark_running id p now) id { r with status := .Running, updated_at := now }
  | purge {hb idle now b i id r} (hhb : duration_seconds (as_i64 hb) = some b)
      (hidle : duration_seconds (as_i64 idle) = some i) (old : g.rooms.lookup id = some r)
      (kept : (r.purge now b).expired now i = false) :
    RoomStep g (.purge_stale hb idle now) id (r.purge now b)

/-- A room written back is in its place, and the others stay. -/
lemma lookup_put {g : RoomRegistry} {id id' : String} {room r'}
    (h : (g.put id room).rooms.lookup id' = some r') :
    g.rooms.lookup id' = some r' ∨ id' = id ∧ r' = room := by
  rw [RoomRegistry.put, Assoc.Map.lookup_modify] at h
  split at h
  · rename_i e
    obtain ⟨r, -, rfl⟩ := Option.map_eq_some_iff.mp h
    exact .inr ⟨e, rfl⟩
  · exact .inl h

/-- **What a call does.** -/
theorem RoomOp.run_step {g : RoomRegistry} {op : RoomOp} {id r'}
    (h : (op.run g).2.rooms.lookup id = some r') : RoomStep g op id r' := by
  cases op with
  | create host gid cv dn sc d pm priv now id0 draws =>
    simp only [run, outcome, RoomRegistry.create] at h
    split at h
    · exact .same h
    · rename_i size
      by_cases here : id = id0
      · subst here
        rw [AList.lookup_insert] at h
        cases h
        obtain ⟨two, eight⟩ := not_not.mp size
        exact .create two eight
      · rw [AList.lookup_insert_ne here] at h
        exact .same h
  | join id0 p gid cv code now =>
    simp only [run, outcome, RoomRegistry.join] at h
    split at h
    · exact .same h
    · rename_i r hr
      split_ifs at h with status game version code member full
      all_goals try exact .same h
      split at h
      · exact .same h
      · rename_i s hs
        rcases lookup_put h with old | ⟨rfl, rfl⟩
        · exact .same old
        · -- `find?` took the first number that no member has.
          have free : s ∉ r.members.map (·.local_slot) := by
            simpa using List.find?_some hs
          exact .join hr (not_not.mp status) (by simpa using member)
            (List.mem_range.mp (List.mem_of_find?_eq_some hs)) free
  | leave id0 p now =>
    simp only [run, outcome, RoomRegistry.leave] at h
    split at h
    · exact .same h
    · rename_i r hr
      split_ifs at h with member host
      · exact .same h
      · -- The host takes its room with it.
        by_cases here : id = id0
        · subst here
          rw [AList.lookup_erase] at h
          cases h
        · rw [AList.lookup_erase_ne here] at h
          exact .same h
      · rcases lookup_put h with old | ⟨rfl, rfl⟩
        · exact .same old
        · exact .leave hr host
  | set_ready id0 p ready beat now draw =>
    simp only [run, outcome, RoomRegistry.set_ready] at h
    split at h
    · exact .same h
    · rename_i r hr
      split_ifs at h with status
      · exact .same h
      · split at h
        · exact .same h
        · rcases lookup_put h with old | ⟨rfl, rfl⟩
          · exact .same old
          · exact .ready hr (by tauto)
  | heartbeat id0 p beat now =>
    simp only [run, RoomRegistry.heartbeat] at h
    split at h
    · exact .same h
    · rename_i r hr
      split at h
      · exact .same h
      · rcases lookup_put h with old | ⟨rfl, rfl⟩
        · exact .same old
        · exact .beat hr
  | mark_running id0 p now =>
    simp only [run, outcome, RoomRegistry.mark_running] at h
    split at h
    · exact .same h
    · rename_i r hr
      split_ifs at h with host status
      · exact .same h
      · exact .same h
      · rcases lookup_put h with old | ⟨rfl, rfl⟩
        · exact .same old
        · exact .running hr (not_not.mp status)
  | purge_stale hb idle now =>
    simp only [run, RoomRegistry.purge_stale] at h
    cases hhb : duration_seconds (as_i64 hb) with
    | none =>
      rw [hhb] at h
      exact .same h
    | some b =>
      cases hidle : duration_seconds (as_i64 idle) with
      | none =>
        rw [hhb, hidle] at h
        exact .same h
      | some i =>
        simp only [hhb, hidle, Option.bind_some, Option.map_some, Option.getD_some] at h
        -- The sweep rewrites every room first, and then keeps those that are not stale.
        obtain ⟨found, kept⟩ := Assoc.Map.lookup_retain.mp h
        rw [Assoc.Map.lookup_mapVal] at found
        obtain ⟨r, hr, rfl⟩ := Option.map_eq_some_iff.mp found
        exact .purge hhb hidle hr (by simpa using kept)

/-- A call that fails changes nothing. -/
lemma RoomOp.run_error {g : RoomRegistry} {op : RoomOp} {e} (h : (op.run g).1 = .error e) :
    (op.run g).2 = g := by
  revert h
  cases op with
  | purge_stale => exact nofun
  | create | join | leave | set_ready | heartbeat | mark_running =>
    simp only [run, outcome, RoomRegistry.create, RoomRegistry.join, RoomRegistry.leave,
      RoomRegistry.set_ready, RoomRegistry.heartbeat, RoomRegistry.mark_running]
    repeat' split
    all_goals first
      | exact fun _ => rfl
      | exact nofun

/-! ## Members and slots -/

/-- Nobody is a member twice, no slot is taken twice, and the host sits at slot 0. -/
structure Room.Sound (r : Room) : Prop where
  ids : (r.members.map (·.player_id)).Nodup
  slots : (r.members.map (·.local_slot)).Nodup
  below : ∀ m ∈ r.members, m.local_slot < r.slot_count
  host : ∃ m ∈ r.members, m.player_id = r.host_player_id ∧ m.local_slot = 0

/-- Who sits where. -/
def Member.place (m : Member) : String × Nat := (m.player_id, m.local_slot)

namespace Room.Sound

/-- A room has no more members than slots. -/
lemma size {r : Room} (h : r.Sound) : r.members.length ≤ r.slot_count := by
  have sub : r.members.map (·.local_slot) ⊆ List.range r.slot_count := by
    intro s hs
    obtain ⟨m, hm, rfl⟩ := List.mem_map.mp hs
    exact List.mem_range.mpr (h.below m hm)
  have few := (List.subperm_of_subset h.slots sub).length_le
  rwa [List.length_map, List.length_range] at few

/-- Only the places matter. -/
lemma congr {r r' : Room} (h : r.Sound) (places : r'.members.map Member.place = r.members.map Member.place)
    (count : r'.slot_count = r.slot_count) (host : r'.host_player_id = r.host_player_id) :
    r'.Sound := by
  have read : ∀ {β : Type} (f : String × Nat → β),
      r'.members.map (fun m => f m.place) = r.members.map (fun m => f m.place) := by
    intro β f
    have both := congrArg (List.map f) places
    rwa [List.map_map, List.map_map] at both
  have mem : ∀ x, x ∈ r'.members.map Member.place ↔ x ∈ r.members.map Member.place := by
    rw [places]
    exact fun _ => .rfl
  constructor
  · exact (read Prod.fst) ▸ h.ids
  · exact (read Prod.snd) ▸ h.slots
  · intro m' hm'
    obtain ⟨m, hm, e⟩ := List.mem_map.mp ((mem _).mp (List.mem_map_of_mem hm'))
    have slot : m.local_slot = m'.local_slot := congrArg Prod.snd e
    rw [count, ← slot]
    exact h.below m hm
  · obtain ⟨m, hm, own, zero⟩ := h.host
    obtain ⟨m', hm', e⟩ := List.mem_map.mp ((mem _).mpr (List.mem_map_of_mem hm))
    refine ⟨m', hm', ?_, ?_⟩
    · rw [host, ← own]
      exact congrArg Prod.fst e
    · rw [← zero]
      exact congrArg Prod.snd e

/-- Members may go, the host apart. -/
lemma filter {r : Room} (h : r.Sound) (p : Member → Bool)
    (host : ∃ m ∈ r.members, p m ∧ m.player_id = r.host_player_id) :
    ({ r with members := r.members.filter p } : Room).Sound := by
  have sub : (r.members.filter p).Sublist r.members := List.filter_sublist
  refine ⟨h.ids.sublist (sub.map _), h.slots.sublist (sub.map _),
    fun m hm => h.below m (List.mem_of_mem_filter hm), ?_⟩
  obtain ⟨m, hm, stays, own⟩ := host
  obtain ⟨m0, h0, own0, zero⟩ := h.host
  have same : m = m0 := List.inj_on_of_nodup_map h.ids hm h0 (own.trans own0.symm)
  exact ⟨m0, List.mem_filter.mpr ⟨h0, same ▸ stays⟩, own0, zero⟩

/-- Somebody new takes a free slot. -/
lemma add {r : Room} (h : r.Sound) {m : Member} (out : m.player_id ∉ r.members.map (·.player_id))
    (free : m.local_slot ∉ r.members.map (·.local_slot)) (below : m.local_slot < r.slot_count) :
    ({ r with members := r.members ++ [m] } : Room).Sound := by
  have once : ∀ {β : Type} (f : Member → β), (r.members.map f).Nodup → f m ∉ r.members.map f →
      ((r.members ++ [m]).map f).Nodup := by
    intro β f nd new
    rw [List.map_append, List.map_singleton]
    exact List.nodup_append'.mpr ⟨nd, List.nodup_singleton _, by simpa using new⟩
  refine ⟨once _ h.ids out, once _ h.slots free, ?_, ?_⟩
  · intro m' hm'
    rcases List.mem_append.mp hm' with hm' | hm'
    · exact h.below m' hm'
    · rw [List.mem_singleton.mp hm']
      exact below
  · obtain ⟨m0, h0, own⟩ := h.host
    exact ⟨m0, List.mem_append_left _ h0, own⟩

end Room.Sound

/-- Every room of the registry is sound. -/
def RoomRegistry.Sound (g : RoomRegistry) : Prop := ∀ id r, g.rooms.lookup id = some r → r.Sound

lemma setMember_places (r : Room) (p : String) {f : Member → Member}
    (h : ∀ m, (f m).place = m.place) :
    (r.setMember p f).members.map Member.place = r.members.map Member.place :=
  map_updateFirst _ _ _ h _

lemma unready_places (r : Room) :
    r.unready.members.map Member.place = r.members.map Member.place := by
  simp [Room.unready, Member.place, Function.comp_def]

@[simp] lemma reopen_members (r : Room) : r.reopen.members = r.members := by
  unfold Room.reopen
  split <;> rfl

@[simp] lemma reopen_slot_count (r : Room) : r.reopen.slot_count = r.slot_count := by
  unfold Room.reopen
  split <;> rfl

@[simp] lemma reopen_host (r : Room) : r.reopen.host_player_id = r.host_player_id := by
  unfold Room.reopen
  split <;> rfl

lemma Room.Sound.reopen {r : Room} (h : r.Sound) : r.reopen.Sound :=
  h.congr (by simp) (by simp) (by simp)

lemma Room.Sound.settle {r : Room} (h : r.Sound) (draw : Nat) : (r.settle draw).Sound := by
  unfold Room.settle
  split
  · exact h.congr rfl rfl rfl
  · exact h.reopen

/-- A room that a purge keeps has its host still in it. -/
lemma Room.host_kept {r : Room} {now hb idle} (kept : (r.purge now hb).expired now idle = false) :
    ∃ m ∈ r.members, now - m.last_heartbeat ≤ hb ∧ m.player_id = r.host_player_id := by
  have host : (r.purge now hb).members.any (·.player_id = r.host_player_id) := by
    cases hm : (r.purge now hb).members.any (·.player_id = r.host_player_id) with
    | true => rfl
    | false =>
      have gone : (r.purge now hb).members.any
          (·.player_id = (r.purge now hb).host_player_id) = false := hm
      simp [Room.expired, gone] at kept
  obtain ⟨m, hm, own⟩ := List.any_eq_true.mp host
  obtain ⟨hm, fresh⟩ := List.mem_filter.mp hm
  exact ⟨m, hm, of_decide_eq_true fresh, of_decide_eq_true own⟩

/-- A call keeps every room sound. -/
lemma RoomStep.sound {g op id r'} (h : RoomStep g op id r') (sound : g.Sound) : r'.Sound := by
  cases h with
  | same old => exact sound id r' old
  | create two eight =>
    constructor
    · exact List.nodup_singleton _
    · exact List.nodup_singleton _
    · intro m hm
      rw [List.mem_singleton.mp hm]
      exact Nat.lt_of_lt_of_le Nat.zero_lt_two two
    · exact ⟨_, List.mem_singleton_self _, rfl, rfl⟩
  | @join _ p gid cv code now r s old opened out below free =>
    have absent : p ∉ r.members.map (·.player_id) := by
      intro hp
      obtain ⟨m, hm, own⟩ := List.mem_map.mp hp
      have hit := List.any_eq_false.mp out m hm
      simp [own] at hit
    exact ((sound id r old).add (m := ⟨p, s, false, now⟩) absent free below).congr rfl rfl rfl
  | @leave _ p now r old guest =>
    have stays := (sound id r old).filter (·.player_id ≠ p) (by
      obtain ⟨m, hm, own, -⟩ := (sound id r old).host
      refine ⟨m, hm, ?_, own⟩
      simpa [own] using guest)
    have left : ({ r with
        members := r.members.filter (·.player_id ≠ p), updated_at := now } : Room).Sound :=
      stays.congr rfl rfl rfl
    exact (left.congr (unready_places _) rfl rfl).reopen
  | @ready _ p ready beat now draw r old early =>
    have marked : (r.mark p ready beat now).Sound :=
      (sound id r old).congr (setMember_places r p fun _ => rfl) rfl rfl
    exact marked.settle draw
  | @beat _ p beat now r old =>
    exact (sound id r old).congr (setMember_places r p fun _ => rfl) rfl rfl
  | running old starting => exact (sound id _ old).congr rfl rfl rfl
  | @purge hb idle now b i _ r hhb hidle old kept =>
    obtain ⟨m, hm, fresh, own⟩ := Room.host_kept kept
    exact (sound id r old).filter _ ⟨m, hm, decide_eq_true fresh, own⟩

/-- A property that every call keeps holds after every sequence of calls. -/
lemma after_induct {P : RoomRegistry → Prop} (start : P {})
    (step : ∀ g op, P g → P (RoomOp.run g op).2) (ops : List RoomOp) : P (RoomRegistry.after ops) := by
  unfold RoomRegistry.after
  generalize ({} : RoomRegistry) = g at start ⊢
  induction ops generalizing g with
  | nil => exact start
  | cons op ops ih =>
    apply ih
    exact step g op start

/-- Every room of every reachable registry is sound. -/
theorem registry_sound (ops : List RoomOp) : (RoomRegistry.after ops).Sound := by
  apply after_induct
  · intro id r h
    cases h
  · intro g op sound id r h
    exact (RoomOp.run_step h).sound sound

/-- The host alone is told that it is the authority. -/
lemma authority_host {r : Room} (sound : r.Sound) {p b}
    (h : RoomRegistry.bootstrap_for r p = some b) :
    b.you_are_sim_authority ↔ p = r.host_player_id := by
  obtain ⟨sid, -, h⟩ := Option.bind_eq_some_iff.mp h
  obtain ⟨m, found, rfl⟩ := Option.map_eq_some_iff.mp h
  have own : m.player_id = p := by simpa using List.find?_some found
  have hm := List.mem_of_find?_eq_some found
  obtain ⟨m0, h0, own0, zero⟩ := sound.host
  have same : m.local_slot = 0 ↔ m = m0 := by
    constructor
    · intro e
      exact List.inj_on_of_nodup_map sound.slots hm h0 (e.trans zero.symm)
    · rintro rfl
      exact zero
  have host : m = m0 ↔ p = r.host_player_id := by
    constructor
    · rintro rfl
      exact own.symm.trans own0
    · intro e
      exact List.inj_on_of_nodup_map sound.ids hm h0 (own.trans (e.trans own0.symm))
  simpa using same.trans host

/-- A room that is not full has a least free slot. -/
lemma exists_free_slot {r : Room} (room : r.members.length < r.slot_count) :
    ∃ s, s < r.slot_count ∧ s ∉ r.members.map (·.local_slot) ∧
      (∀ k < s, k ∈ r.members.map (·.local_slot)) ∧
      (List.range r.slot_count).find? (· ∉ r.members.map (·.local_slot)) = some s := by
  have free : ∃ s ∈ List.range r.slot_count, s ∉ r.members.map (·.local_slot) := by
    by_contra none
    simp only [not_exists, not_and, not_not] at none
    have few := (List.subperm_of_subset List.nodup_range none).length_le
    rw [List.length_range, List.length_map] at few
    omega
  obtain ⟨s0, h0, free0⟩ := free
  have found : ((List.range r.slot_count).find?
      (· ∉ r.members.map (·.local_slot))).isSome := by
    rw [List.find?_isSome]
    exact ⟨s0, h0, by simpa using free0⟩
  obtain ⟨s, hs⟩ := Option.isSome_iff_exists.mp found
  obtain ⟨free, least⟩ := List.find?_range_eq_some.mp hs
  refine ⟨s, List.mem_range.mp (List.mem_of_find?_eq_some hs), by simpa using free, ?_, hs⟩
  intro k hk
  simpa using least.2 k hk

/-- **Seats of the registry.** -/
theorem registry_seats (ops : List RoomOp) :
    (∀ id r, (RoomRegistry.after ops).rooms.lookup id = some r →
      r.members.length ≤ r.slot_count ∧ (r.members.map (·.player_id)).Nodup ∧
      (r.members.map (·.local_slot)).Nodup ∧ (∀ m ∈ r.members, m.local_slot < r.slot_count) ∧
      (∃ m ∈ r.members, m.player_id = r.host_player_id ∧ m.local_slot = 0) ∧
      ∀ p b, RoomRegistry.bootstrap_for r p = some b →
        (b.you_are_sim_authority ↔ p = r.host_player_id)) ∧
    (∀ id r p code now, (RoomRegistry.after ops).rooms.lookup id = some r → r.status = .Open →
      (r.is_private → ∃ c, r.join_code = some c ∧ code = some c) →
      p ∉ r.members.map (·.player_id) → r.members.length < r.slot_count →
      ∃ s, s ∉ r.members.map (·.local_slot) ∧ (∀ k < s, k ∈ r.members.map (·.local_slot)) ∧
        let r' := { r with
          members := r.members ++
            [{ player_id := p, local_slot := s, ready := false, last_heartbeat := now }]
          updated_at := now }
        (RoomRegistry.after ops).join id p r.game_id r.client_version code now =
          (.ok r', (RoomRegistry.after ops).put id r')) ∧
    ∀ (op : RoomOp) e, (op.run (RoomRegistry.after ops)).1 = .error e →
      (op.run (RoomRegistry.after ops)).2 = RoomRegistry.after ops := by
  refine ⟨?_, ?_, fun op e h => op.run_error h⟩
  · intro id r h
    have sound := registry_sound ops id r h
    exact ⟨sound.size, sound.ids, sound.slots, sound.below, sound.host,
      fun p b hb => authority_host sound hb⟩
  · intro id r p code now h opened admitted out room
    obtain ⟨s, -, free, least, found⟩ := exists_free_slot room
    refine ⟨s, free, least, ?_⟩
    have passes : r.admits code := by
      unfold Room.admits
      cases hp : r.is_private with
      | false => rfl
      | true =>
        obtain ⟨c, hc, rfl⟩ := admitted hp
        simp [hc]
    have absent : r.members.any (·.player_id = p) = false := by
      rw [List.any_eq_false]
      intro m hm hit
      exact out (List.mem_map.mpr ⟨m, hm, of_decide_eq_true hit⟩)
    simp only [RoomRegistry.join, h, opened, passes, absent, found, if_neg (not_le.mpr room),
      ne_eq, not_true_eq_false, if_false, Bool.not_true, Bool.false_eq_true]

end RecompNet
