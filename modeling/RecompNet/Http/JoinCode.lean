import RecompNet.Http.Bootstraps
import Mathlib.Logic.Equiv.Basic

/-!
# The code of a private room

The code of a private room is a name to the server and no more: rename the codes of every room, and
the codes that joins offer along with them, and every answer stays the same but for the code that
the host is shown. So whoever is not the host, and hits the code with no guess, is answered the same
whatever the code is.
-/

namespace RecompNet

/-- A test that comes out alike splits both sides alike. -/
lemma map_ite {α β : Type} (f : α → β) {c : Prop} {d d' : Decidable c} {x y x' y'}
    (yes : x' = f x) (no : y' = f y) : @ite _ c d' x' y' = f (@ite _ c d x y) := by
  by_cases h : c
  · rw [if_pos h, if_pos h, yes]
  · rw [if_neg h, if_neg h, no]

/-! ## Renaming the codes -/

/-- Rename the code of a room. -/
def Room.recode (r : Room) (f : String → String) : Room := { r with join_code := r.join_code.map f }

section
variable (r : Room) (f : String → String)

@[simp] lemma recode_id : r.recode id = r := by
  cases r
  simp [Room.recode]

@[simp] lemma recode_status : (r.recode f).status = r.status := rfl
@[simp] lemma recode_members : (r.recode f).members = r.members := rfl
@[simp] lemma recode_slot_count : (r.recode f).slot_count = r.slot_count := rfl
@[simp] lemma recode_game : (r.recode f).game_id = r.game_id := rfl
@[simp] lemma recode_version : (r.recode f).client_version = r.client_version := rfl
@[simp] lemma recode_host : (r.recode f).host_player_id = r.host_player_id := rfl
@[simp] lemma recode_session : (r.recode f).session_id = r.session_id := rfl
@[simp] lemma recode_code : (r.recode f).join_code = r.join_code.map f := rfl
@[simp] lemma recode_private : (r.recode f).is_private = r.is_private := rfl

lemma recode_member (p : String) : (r.recode f).member p = r.member p := rfl

lemma recode_free :
    (List.range (r.recode f).slot_count).find? (· ∉ (r.recode f).members.map (·.local_slot)) =
      (List.range r.slot_count).find? (· ∉ r.members.map (·.local_slot)) := rfl

lemma recode_reopen : (r.recode f).reopen = r.reopen.recode f := by
  unfold Room.reopen
  rw [recode_status]
  split <;> rfl

lemma recode_settle (draw : Nat) : (r.recode f).settle draw = (r.settle draw).recode f := by
  unfold Room.settle
  have same : (r.recode f).all_ready = r.all_ready := rfl
  rw [same]
  split
  · rfl
  · exact recode_reopen r f

lemma recode_admits {f : String → String} (inj : Function.Injective f) (code : Option String) :
    (r.recode f).admits (code.map f) = r.admits code := by
  unfold Room.admits
  rw [recode_private, recode_code]
  cases r.join_code <;> cases code <;> simp [inj.eq_iff]

end

/-- Rename the codes of all rooms; the renaming may differ from room to room. -/
def RoomRegistry.recode (g : RoomRegistry) (s : String → String → String) : RoomRegistry :=
  { g with rooms := g.rooms.mapVal fun id r => r.recode (s id) }

section
variable (g : RoomRegistry) (s : String → String → String)

lemma lookup_recode (id : String) :
    (g.recode s).rooms.lookup id = (g.rooms.lookup id).map (·.recode (s id)) :=
  Assoc.Map.lookup_mapVal _ _ _

lemma recode_put (id : String) (room : Room) :
    (g.recode s).put id (room.recode (s id)) = (g.put id room).recode s := by
  simp only [RoomRegistry.put, RoomRegistry.recode, Assoc.Map.modify, Assoc.Map.mapVal_mapVal]
  congr 2
  funext k r
  split
  · rename_i h
    rw [h]
  · rfl

/-- Rename the codes of an answer of the registry, and of the registry after it. -/
def recoded (s : String → String → String) (id : String)
    (x : Except RoomError Room × RoomRegistry) : Except RoomError Room × RoomRegistry :=
  (x.1.map (·.recode (s id)), x.2.recode s)

/-- Writing back a room that was changed alike. -/
lemma recoded_put {id : String} {room room' : Room} (same : room' = room.recode (s id)) :
    ((.ok room', (g.recode s).put id room') : Except RoomError Room × RoomRegistry) =
      recoded s id (.ok room, g.put id room) := by
  rw [same, recode_put]
  rfl

lemma recode_join (inj : ∀ id, Function.Injective (s id)) (id p gid cv : String)
    (code : Option String) (now : Timestamp) :
    (g.recode s).join id p gid cv (code.map (s id)) now =
      recoded s id (g.join id p gid cv code now) := by
  unfold RoomRegistry.join
  rw [lookup_recode]
  cases g.rooms.lookup id with
  | none => rfl
  | some r =>
    rw [Option.map_some]
    dsimp only
    rw [recode_admits r (inj id)]
    refine map_ite (recoded s id) rfl (map_ite _ rfl (map_ite _ rfl (map_ite _ rfl (map_ite _ rfl
      (map_ite _ rfl ?_)))))
    rw [recode_free]
    cases (List.range r.slot_count).find? (· ∉ r.members.map (·.local_slot)) with
    | none => rfl
    | some local_slot => exact recoded_put g s rfl

lemma recode_leave (id p : String) (now : Timestamp) :
    (g.recode s).leave id p now = recoded s id (g.leave id p now) := by
  unfold RoomRegistry.leave
  rw [lookup_recode]
  cases g.rooms.lookup id with
  | none => rfl
  | some r =>
    refine map_ite (recoded s id) rfl (map_ite _ ?_ (recoded_put g s ?_))
    · exact Prod.ext rfl (congrArg RoomRegistry.mk (Assoc.Map.mapVal_erase g.rooms _ id).symm)
    · exact recode_reopen ({ r with
        members := r.members.filter (·.player_id ≠ p), updated_at := now } : Room).unready (s id)

lemma recode_set_ready (id p : String) (ready : Bool) (beat now : Timestamp) (draw : Nat) :
    (g.recode s).set_ready id p ready beat now draw =
      recoded s id (g.set_ready id p ready beat now draw) := by
  unfold RoomRegistry.set_ready
  rw [lookup_recode]
  cases g.rooms.lookup id with
  | none => rfl
  | some r =>
    refine map_ite (recoded s id) rfl ?_
    rw [recode_member]
    cases r.member p with
    | none => rfl
    | some _ => exact recoded_put g s (recode_settle (r.mark p ready beat now) (s id) draw)

lemma recode_heartbeat (id p : String) (beat now : Timestamp) :
    (g.recode s).heartbeat id p beat now =
      ((g.heartbeat id p beat now).1, (g.heartbeat id p beat now).2.recode s) := by
  unfold RoomRegistry.heartbeat
  rw [lookup_recode]
  cases g.rooms.lookup id with
  | none => rfl
  | some r =>
    rw [Option.map_some]
    dsimp only
    rw [recode_member]
    cases r.member p with
    | none => rfl
    | some _ =>
      exact congrArg (Prod.mk _) (recode_put g s id
        { r.setMember p ({ · with last_heartbeat := beat }) with updated_at := now })

lemma recode_mark_running (id p : String) (now : Timestamp) :
    (g.recode s).mark_running id p now = recoded s id (g.mark_running id p now) := by
  unfold RoomRegistry.mark_running
  rw [lookup_recode]
  cases g.rooms.lookup id with
  | none => rfl
  | some r => exact map_ite (recoded s id) rfl (map_ite _ rfl (recoded_put g s rfl))

lemma recode_purge (hb idle : Nat) (now : Timestamp) :
    (g.recode s).purge_stale hb idle now = (g.purge_stale hb idle now).map (·.recode s) := by
  unfold RoomRegistry.purge_stale
  cases duration_seconds (as_i64 hb) with
  | none => rfl
  | some b =>
    cases duration_seconds (as_i64 idle) with
    | none => rfl
    | some i =>
      simp only [Option.bind_some, Option.map_some]
      refine congrArg (some ∘ RoomRegistry.mk) ?_
      refine Eq.trans ?_ (Assoc.Map.mapVal_retain (g.rooms.mapVal fun _ r => r.purge now b)
        (fun id (r : Room) => r.recode (s id)) (fun _ r => !r.expired now i) fun _ _ => rfl)
      simp only [RoomRegistry.recode, Assoc.Map.mapVal_mapVal]
      rfl

end

namespace Http

/-! ## Requests -/

/-- A view as it is with the codes renamed. -/
def RoomView.recode (v : RoomView) (s : String → String → String) : RoomView :=
  { v with join_code := v.join_code.map (s v.room_id) }

def RoomReply.recode (s : String → String → String) : RoomReply → RoomReply
  | created v => .created (v.recode s)
  | room v => .room (v.recode s)
  | r => r

/-- An event with the codes renamed: the host draws the renamed code, and joins offer it. -/
def RoomEvent.recode (s : String → String → String) (draw : String → List Nat → List Nat) :
    RoomEvent → RoomEvent
  | request p beat now (.create_room body id draws) =>
    request p beat now (.create_room body id (draw id draws))
  | request p beat now (.join_room id body) =>
    request p beat now (.join_room id { body with join_code := body.join_code.map (s id) })
  | e => e

section
variable {g : RoomRegistry} {s : String → String → String}

lemma from_room_recode {id : String} {r : Room} (filed : r.room_id = id) (viewer : String) :
    RoomView.from_room (r.recode (s id)) viewer = (RoomView.from_room r viewer).recode s := by
  unfold RoomView.from_room RoomView.recode
  rw [recode_host, recode_code]
  subst filed
  split <;> rfl

lemma of_recode {id p : String} {x : Except RoomError Room}
    (filed : ∀ r, x = .ok r → r.room_id = id) :
    RoomReply.of p (x.map (·.recode (s id))) = (RoomReply.of p x).recode s := by
  cases x with
  | error => rfl
  | ok r => exact congrArg RoomReply.room (from_room_recode (filed r rfl) p)

lemma done_recode (id : String) {x : Except RoomError Room} :
    RoomReply.done (x.map (·.recode (s id))) = (RoomReply.done x).recode s := by
  cases x <;> rfl

lemma list_public_recode (game_id : String) (client_version : Option String) :
    list_public (g.recode s) game_id client_version = list_public g game_id client_version := by
  simp only [list_public, RoomRegistry.recode, Assoc.Map.values, Assoc.Map.mapVal, List.filter_map,
    List.map_map]
  rfl

lemma membership_recode {id p : String} :
    membership (g.recode s) p id = (membership g p id).map (·.recode (s id)) := by
  unfold membership
  rw [lookup_recode]
  cases g.rooms.lookup id with
  | none => rfl
  | some r => exact map_ite (Except.map fun r : Room => r.recode (s id)) rfl rfl

lemma create_room_recode {cfg p body now id d} {draw : String → List Nat → List Nat}
    (drawn : ∀ id d, generate_join_code (draw id d) = s id (generate_join_code d)) :
    create_room cfg (g.recode s) p body now id (draw id d) =
      (create_room cfg g p body now id d).map (·.recode s) (·.recode s) := by
  unfold create_room
  cases create_refused cfg body with
  | some => rfl
  | none =>
    unfold RoomRegistry.create
    dsimp only
    split_ifs
    · have made : RoomRegistry.newRoom p body.game_id body.client_version body.name
          (body.slot_count.getD cfg.default_slot_count)
          (body.input_delay.getD cfg.default_input_delay) cfg.protocol_magic body.is_private now id
          (draw id d) =
          (RoomRegistry.newRoom p body.game_id body.client_version body.name
            (body.slot_count.getD cfg.default_slot_count)
            (body.input_delay.getD cfg.default_input_delay) cfg.protocol_magic body.is_private now id
            d).recode (s id) := by
        unfold RoomRegistry.newRoom Room.recode
        rw [drawn]
        cases body.is_private <;> rfl
      rw [made]
      refine Prod.ext (congrArg RoomReply.created (from_room_recode rfl p)) ?_
      exact congrArg RoomRegistry.mk
        (Assoc.Map.mapVal_insert g.rooms (fun id (r : Room) => r.recode (s id)) id _).symm
    · rfl

/-- **One event.** Renamed codes rename the answer and the registry after it, and nothing else. -/
lemma serve_recode (cfg) {draw : String → List Nat → List Nat}
    (inj : ∀ id, Function.Injective (s id))
    (drawn : ∀ id d, generate_join_code (draw id d) = s id (generate_join_code d))
    {e : RoomEvent} (filed : g.Filed) (after : (e.serve cfg g).2.Filed) :
    (e.recode s draw).serve cfg (g.recode s) =
      ((e.serve cfg g).1.map (·.recode s), (e.serve cfg g).2.recode s) := by
  cases e with
  | purge hb idle now =>
    simp only [RoomEvent.recode, RoomEvent.serve, recode_purge, Option.map_none]
    cases g.purge_stale hb idle now <;> rfl
  | request p beat now req =>
    cases req with
    | list_rooms gid cv =>
      simp only [RoomEvent.recode, RoomEvent.serve, RoomRequest.serve, list_public_recode]
      rfl
    | get_room id =>
      simp only [RoomEvent.recode, RoomEvent.serve, RoomRequest.serve, membership_recode]
      refine Prod.ext (congrArg some (of_recode fun r hr => ?_)) rfl
      exact (filed id r (membership_ok hr)).id
    | create_room body id d =>
      simp only [RoomEvent.recode, RoomEvent.serve, RoomRequest.serve, create_room_recode drawn]
      rfl
    | join_room id body =>
      simp only [RoomEvent.recode, RoomEvent.serve, RoomRequest.serve, recode_join g s inj]
      refine Prod.ext (congrArg some (of_recode fun r hr => ?_)) rfl
      exact (after id r (join_stores hr)).id
    | leave_room id =>
      simp only [RoomEvent.recode, RoomEvent.serve, RoomRequest.serve, recode_leave]
      exact Prod.ext (congrArg some (done_recode id)) rfl
    | set_ready id ready draw =>
      simp only [RoomEvent.recode, RoomEvent.serve, RoomRequest.serve, recode_set_ready]
      refine Prod.ext (congrArg some (of_recode fun r hr => ?_)) rfl
      exact (after id r (set_ready_stores hr)).id
    | heartbeat id =>
      simp only [RoomEvent.recode, RoomEvent.serve, RoomRequest.serve, recode_heartbeat]
      refine Prod.ext (congrArg some ?_) rfl
      change RoomReply.done (g.heartbeat id p beat now).1 =
        (RoomReply.done (g.heartbeat id p beat now).1).recode s
      cases (g.heartbeat id p beat now).1 <;> rfl
    | mark_running id =>
      simp only [RoomEvent.recode, RoomEvent.serve, RoomRequest.serve, recode_mark_running]
      refine Prod.ext (congrArg some (of_recode fun r hr => ?_)) rfl
      exact (after id r (mark_running_stores hr)).id

end

/-- **A run.** -/
lemma served_recode {cfg} {s : String → String → String} {draw : String → List Nat → List Nat}
    (inj : ∀ id, Function.Injective (s id))
    (drawn : ∀ id d, generate_join_code (draw id d) = s id (generate_join_code d))
    (evs : List RoomEvent) :
    served cfg (evs.map (·.recode s draw)) = (served cfg evs).recode s := by
  induction evs using List.reverseRecOn with
  | nil => rfl
  | append_singleton evs e ih =>
    have filed := served_filed cfg (evs ++ [e])
    rw [served_append] at filed
    rw [List.map_append, List.map_singleton, served_append, served_append, ih,
      serve_recode cfg inj drawn (served_filed cfg evs) filed]

/-! ## Two worlds -/

/-- Exchange the codes of two draws, in one room. -/
def exchange (room_id : String) (d d' : List Nat) (id : String) : String → String :=
  if id = room_id then Equiv.swap (generate_join_code d) (generate_join_code d') else fun c => c

/-- Exchange two draws, in one room. -/
def redraw (room_id : String) (d d' : List Nat) (id : String) (x : List Nat) : List Nat :=
  if id = room_id then
    if generate_join_code x = generate_join_code d then d'
    else if generate_join_code x = generate_join_code d' then d else x
  else x

/-- The world in which the room drew `d'` where it drew `d`, and whoever was told its code was told
that one. -/
def otherWorld (room_id : String) (d d' : List Nat) : List RoomEvent → List RoomEvent :=
  List.map (·.recode (exchange room_id d d') (redraw room_id d d'))

lemma exchange_injective (room_id : String) (d d' : List Nat) (id : String) :
    Function.Injective (exchange room_id d d' id) := by
  unfold exchange
  split
  · exact Equiv.injective _
  · exact Function.injective_id

lemma redraw_code (room_id : String) (d d' : List Nat) (id : String) (x : List Nat) :
    generate_join_code (redraw room_id d d' id x) =
      exchange room_id d d' id (generate_join_code x) := by
  unfold redraw exchange
  split
  · split_ifs with h h'
    · rw [h, Equiv.swap_apply_left]
    · rw [h', Equiv.swap_apply_right]
    · rw [Equiv.swap_apply_of_ne_of_ne h h']
  · rfl

/-- An event of somebody whom the code is kept from: it does not make the room, offers neither of
the two codes to it, and is not shown the room as its host. -/
structure Stranger (cfg : RoomConfig) (g : RoomRegistry) (room_id : String) (d d' : List Nat)
    (e : RoomEvent) : Prop where
  old : ¬ e.draws room_id
  misses : ∀ p beat now body, e = .request p beat now (.join_room room_id body) →
    body.join_code ≠ some (generate_join_code d) ∧ body.join_code ≠ some (generate_join_code d')
  guest : ∀ p v, e.shows cfg g = some (p, v) → v.room_id = room_id → v.host_player_id ≠ p

/-- A stranger does the same in both worlds. -/
lemma Stranger.same {cfg g room_id d d' e} (h : Stranger cfg g room_id d d' e) :
    e.recode (exchange room_id d d') (redraw room_id d d') = e := by
  cases e with
  | purge => rfl
  | request p beat now req =>
    cases req with
    | create_room body id x =>
      have other : id ≠ room_id := h.old
      simp only [RoomEvent.recode, redraw, if_neg other]
    | join_room id body =>
      have kept : body.join_code.map (exchange room_id d d' id) = body.join_code := by
        by_cases here : id = room_id
        · subst here
          obtain ⟨first, second⟩ := h.misses p beat now body rfl
          cases code : body.join_code with
          | none => rfl
          | some c =>
            rw [code] at first second
            have first : c ≠ generate_join_code d := fun e => first (congrArg some e)
            have second : c ≠ generate_join_code d' := fun e => second (congrArg some e)
            simp [exchange, Equiv.swap_apply_of_ne_of_ne first second]
        · simp [exchange, if_neg here]
      simp only [RoomEvent.recode, kept]
    | _ => rfl

/-- A view without the code of the room is the same in both worlds. -/
lemma view_same {room_id d d'} {r : Room} {p : String}
    (other : r.room_id = room_id → r.host_player_id ≠ p) :
    (RoomView.from_room r p).recode (exchange room_id d d') = RoomView.from_room r p := by
  unfold RoomView.from_room RoomView.recode
  dsimp only
  split
  · rename_i host
    have away : r.room_id ≠ room_id := fun e => other e host
    simp [exchange, if_neg away]
  · rfl

/-- **The code stays a secret.** Whoever the code is kept from is answered the same whichever code
the room drew. -/
theorem join_code_secret {cfg room_id d d' evs e}
    (stranger : Stranger cfg (served cfg evs) room_id d d' e) :
    (e.serve cfg (served cfg (otherWorld room_id d d' evs))).1 =
      (e.serve cfg (served cfg evs)).1 := by
  have filed := served_filed cfg (evs ++ [e])
  rw [served_append] at filed
  have one := serve_recode cfg (exchange_injective room_id d d') (redraw_code room_id d d')
    (served_filed cfg evs) filed
  rw [otherWorld, served_recode (exchange_injective room_id d d') (redraw_code room_id d d')]
  rw [stranger.same] at one
  rw [one]
  have seen {p v} (h : e.shows cfg (served cfg evs) = some (p, v)) :
      v.recode (exchange room_id d d') = v := by
    obtain ⟨r, -, rfl⟩ := e.shows_stored filed h
    exact view_same (stranger.guest p _ h)
  cases e with
  | purge => rfl
  | request p beat now req =>
    simp only [RoomEvent.serve, RoomEvent.shows, Prod.map_fst, Option.map_some] at seen ⊢
    refine congrArg some ?_
    cases reply : (req.serve cfg (served cfg evs) p beat now).1 with
    | created v => exact congrArg RoomReply.created (seen (by rw [reply]; rfl))
    | room v => exact congrArg RoomReply.room (seen (by rw [reply]; rfl))
    | rooms | no_content | error => rfl

/-- A private room, and somebody who was told its code. -/
def privateRoom : List RoomEvent :=
  [.request "reimu" 0 0
      (.create_room { game_id := "th06", client_version := "1", is_private := true } "r1" [0]),
    .request "marisa" 1 1 (.join_room "r1"
      { game_id := "th06", client_version := "1", join_code := some (generate_join_code [0]) })]

theorem join_code_secret_two :
    ((looks "marisa").serve { protocol_magic := 1 }
      (served { protocol_magic := 1 } (otherWorld "r1" [0] [1] privateRoom))).1 =
    ((looks "marisa").serve { protocol_magic := 1 }
      (served { protocol_magic := 1 } privateRoom)).1 := by
  apply join_code_secret
  constructor
  · exact not_false
  · intro p beat now body h
    cases h
  · intro p v h _
    cases h
    decide

end Http

end RecompNet
