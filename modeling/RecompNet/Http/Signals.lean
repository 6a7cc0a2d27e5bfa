import RecompNet.Lib.Interleave
import RecompNet.Lib.Mailbox
import RecompNet.Registry

/-!
# Signals of the HTTP interface

The mailboxes of `signal.rs` and the requests that touch them (`routes/mod.rs`). A player has one
mailbox for all rooms. A request checks the membership under the lock of the rooms and goes to the
mailboxes under theirs; between the two every other request may run. Who a request is from is
settled before, by `require_auth`, whose result comes with the request.
-/

namespace RecompNet.Http

open Interleave

def MAX_QUEUED_PER_PLAYER : Nat := 64

structure SignalEnvelope where
  from_player_id : String
  room_id : String
  signal_type : Nat
  flag : Nat
  text : String
  created_at : Timestamp
  deriving DecidableEq

/-- The inbound queue of each player, oldest first. -/
abbrev SignalStore := Assoc.Map String (List SignalEnvelope)

namespace SignalStore

def push_to (g : SignalStore) (player_id : String) (msg : SignalEnvelope) : SignalStore :=
  let q := (g.lookup player_id).getD []
  g.insert player_id ((if MAX_QUEUED_PER_PLAYER ≤ q.length then q.drop 1 else q) ++ [msg])

def drain (g : SignalStore) (player_id : String) : List SignalEnvelope × SignalStore :=
  ((g.lookup player_id).getD [], g.erase player_id)

def clear_player (g : SignalStore) (player_id : String) : SignalStore := g.erase player_id

end SignalStore

/-! ## Requests -/

/-- `ApiError`, with the number of its status. -/
structure ApiError where
  status : Nat
  message : String
  deriving DecidableEq

/-- The text of an error of the rooms. -/
def RoomError.message : RoomError → String
  | .NotFound => "room not found"
  | .Full => "room is full"
  | .NotJoinable => "room is not joinable"
  | .BadJoinCode => "invalid join code"
  | .GameMismatch => "game_id mismatch"
  | .VersionMismatch => "client_version mismatch"
  | .AlreadyJoined => "player already in room"
  | .NotMember => "player not in room"
  | .NotHost => "not room host"
  | .BadSlotCount => "invalid slot_count"

/-- `From<RoomError>`. -/
def ApiError.of (e : RoomError) : ApiError where
  status := match e with
    | .NotFound => 404
    | .BadJoinCode | .NotMember | .NotHost => 403
    | .Full | .NotJoinable | .GameMismatch | .VersionMismatch | .AlreadyJoined => 409
    | .BadSlotCount => 400
  message := RoomError.message e

structure SignalBody where
  target_player_id : Option String := none
  signal_type : Nat
  flag : Nat := 0
  text : String
  deriving DecidableEq

/-- What a request is answered with; the view of a room is left out. -/
inductive Reply where
  | no_content
  | room
  | signals (for_room : List SignalEnvelope)
  | error (e : ApiError)
  deriving DecidableEq

/-- What the requests share, and the replies with the number of their request, the oldest first. -/
structure HttpWorld where
  rooms : RoomRegistry := {}
  signals : SignalStore := ∅
  replies : List (Nat × Reply) := []

/-- A critical section of request number `id`, with the locals it carries. -/
inductive HttpSection where
  | room_op (id : Nat) (op : RoomOp)
  | leave_rooms (id : Nat) (player_id room_id : String)
  | clear_signals (id : Nat) (player_id room_id : String)
  | post_rooms (id : Nat) (player_id room_id : String) (body : SignalBody)
  | post_signals (id : Nat) (targets : List String) (envelope : SignalEnvelope)
  | get_rooms (id : Nat) (player_id room_id : String)
  | get_signals (id : Nat) (player_id room_id : String)
  | purge (heartbeat_timeout_secs idle_secs : Nat)
  | respond (id : Nat) (reply : Reply)

open HttpSection

def HttpWorld.reply (w : HttpWorld) (id : Nat) (r : Reply) : HttpWorld :=
  { w with replies := w.replies ++ [(id, r)] }

/-- Is a player a member of the room? The error if not. -/
def membership (rooms : RoomRegistry) (player_id room_id : String) : Except RoomError Room :=
  match rooms.rooms.lookup room_id with
  | none => .error .NotFound
  | some room =>
    if !room.members.any (·.player_id = player_id) then .error .NotMember else .ok room

/-- Whom a signal goes to. -/
def signal_targets (room : Room) (player_id : String) (target_player_id : Option String) :
    Except ApiError (List String) :=
  match target_player_id with
  | some t =>
    if !room.members.any (·.player_id = t) then .error ⟨400, "target not in room"⟩ else .ok [t]
  | none => .ok ((room.members.map (·.player_id)).filter (· ≠ player_id))

/-- Take the envelopes of a room out of a player's mailbox, and put the others back. -/
def take_room (g : SignalStore) (player_id room_id : String) : List SignalEnvelope × SignalStore :=
  let (drained, g) := SignalStore.drain g player_id
  let for_room := drained.filter (·.room_id = room_id)
  let other := drained.filter (·.room_id ≠ room_id)
  (for_room, other.foldl (fun g s => SignalStore.push_to g player_id s) g)

/-- The world after a section, and what its request runs next. -/
abbrev HttpStep := HttpWorld × List HttpSection

def post_rooms_step (now : Timestamp) (w : HttpWorld) (id : Nat) (player_id room_id : String)
    (body : SignalBody) : HttpStep :=
  match membership w.rooms player_id room_id with
  | .error e => (w.reply id (.error (.of e)), [])
  | .ok room =>
    match signal_targets room player_id body.target_player_id with
    | .error e => (w.reply id (.error e), [])
    | .ok targets =>
      let envelope : SignalEnvelope :=
        { from_player_id := player_id
          room_id
          signal_type := body.signal_type
          flag := body.flag
          text := body.text
          created_at := now }
      (w, [post_signals id targets envelope])

/-- Run a critical section at a time. -/
def exec (s : HttpSection) (now : Timestamp) (w : HttpWorld) : HttpStep :=
  match s with
  | room_op id op =>
    let (result, rooms) := op.run w.rooms
    match result with
    | .ok _ => ({ w with rooms }.reply id .room, [])
    | .error e => ({ w with rooms }.reply id (.error (.of e)), [])
  | leave_rooms id p room_id =>
    let (result, rooms) := w.rooms.leave room_id p now
    match result with
    | .ok _ => ({ w with rooms }, [clear_signals id p room_id])
    | .error e => ({ w with rooms }.reply id (.error (.of e)), [])
  | clear_signals id p _ =>
    ({ w with signals := SignalStore.clear_player w.signals p }.reply id .no_content, [])
  | post_rooms id p room_id body => post_rooms_step now w id p room_id body
  | post_signals id targets envelope =>
    let signals := targets.foldl (fun g t => SignalStore.push_to g t envelope) w.signals
    ({ w with signals }.reply id .no_content, [])
  | get_rooms id p room_id =>
    match membership w.rooms p room_id with
    | .error e => (w.reply id (.error (.of e)), [])
    | .ok _ => (w, [get_signals id p room_id])
  | get_signals id p room_id =>
    let (for_room, signals) := take_room w.signals p room_id
    ({ w with signals }.reply id (.signals for_room), [])
  | purge hb idle => ({ w with rooms := (w.rooms.purge_stale hb idle now).getD w.rooms }, [])
  | respond id r => (w.reply id r, [])

/-- A request, with what `require_auth` made of its headers. -/
inductive HttpRequest where
  /-- Another request for a room: create, join, set ready, heartbeat and mark running. -/
  | room_op (op : RoomOp)
  /-- The purge, which goes on by itself. -/
  | purge (heartbeat_timeout_secs idle_secs : Nat)
  | leave_room (auth : Except ApiError String) (room_id : String)
  | post_signal (auth : Except ApiError String) (room_id : String) (body : SignalBody)
  | get_signals (auth : Except ApiError String) (room_id : String)

/-- The first section of a request. -/
def HttpRequest.body (id : Nat) : HttpRequest → List HttpSection
  | room_op op => [.room_op id op]
  | purge hb idle => [.purge hb idle]
  | leave_room (.ok p) room_id => [leave_rooms id p room_id]
  | post_signal (.ok p) room_id body =>
    if 2047 < Text.byte_len body.text then
      [respond id (.error ⟨400, "signal text exceeds 2047 characters"⟩)]
    else [post_rooms id p room_id body]
  | get_signals (.ok p) room_id => [get_rooms id p room_id]
  | leave_room (.error e) _ | post_signal (.error e) .. | get_signals (.error e) _ =>
    [respond id (.error e)]

/-- Players leave by `leave_room` only, and rooms are purged by no request. -/
def HttpRequest.served : HttpRequest → Bool
  | room_op (.leave ..) | room_op (.purge_stale ..) => false
  | _ => true

/-- The server of the HTTP interface; a request is an event of the task with its number. -/
def httpMachine : Machine HttpWorld HttpSection Nat Timestamp (Nat × HttpRequest) where
  start := {}
  exec := exec
  answers := fun _ _ => True
  task := fun e => e.1
  enabled := fun e _ => e.2.served
  apply := fun _ w => w
  body := fun e _ => e.2.body e.1

instance (o : Timestamp) (w : HttpWorld) : Decidable (httpMachine.answers o w) :=
  inferInstanceAs (Decidable True)

instance (e : Nat × HttpRequest) (w : HttpWorld) : Decidable (httpMachine.enabled e w) :=
  inferInstanceAs (Decidable (e.2.served = true))

abbrev HttpSnapshot := Snapshot HttpWorld HttpSection Nat
abbrev HttpLabel := Label HttpWorld HttpSection Nat Timestamp (Nat × HttpRequest)
abbrev HttpRun := Run httpMachine

/-! ## Mailboxes -/

namespace SignalStore

/-- What waits for a player. -/
def mail (g : SignalStore) (player_id : String) : List SignalEnvelope :=
  (g.lookup player_id).getD []

variable {g : SignalStore} {p q : String}

lemma mail_insert {m : List SignalEnvelope} :
    mail (AList.insert q m g) p = if p = q then m else mail g p := by
  unfold mail
  split
  · rename_i e
    rw [e, AList.lookup_insert, Option.getD_some]
  · rename_i ne
    rw [AList.lookup_insert_ne ne]

lemma mail_erase : mail (AList.erase q g) p = if p = q then [] else mail g p := by
  unfold mail
  split
  · rename_i e
    rw [e, AList.lookup_erase]
    rfl
  · rename_i ne
    rw [AList.lookup_erase_ne ne]

lemma mail_push_to {e : SignalEnvelope} : mail (push_to g q e) p =
    if p = q then Mailbox.push MAX_QUEUED_PER_PLAYER (mail g p) e else mail g p := by
  unfold push_to
  rw [mail_insert]
  split
  · rename_i e
    rw [e]
    rfl
  · rfl

/-- One envelope to several players. -/
lemma mail_push_all {targets : List String} (distinct : targets.Nodup) {e : SignalEnvelope} :
    mail (targets.foldl (fun g t => push_to g t e) g) p =
      if p ∈ targets then Mailbox.push MAX_QUEUED_PER_PLAYER (mail g p) e else mail g p := by
  induction targets generalizing g with
  | nil => rfl
  | cons t rest ih =>
    obtain ⟨out, distinct⟩ := List.nodup_cons.mp distinct
    rw [List.foldl_cons, ih distinct, mail_push_to]
    by_cases first : p = t
    · subst first
      simp [out]
    · simp [first]

/-- Putting envelopes back into the mailbox of a player. -/
lemma mail_put_back {xs : List SignalEnvelope} : mail (xs.foldl (fun g s => push_to g q s) g) p =
    if p = q then xs.foldl (Mailbox.push MAX_QUEUED_PER_PLAYER) (mail g p) else mail g p := by
  induction xs generalizing g with
  | nil => simp
  | cons x xs ih =>
    rw [List.foldl_cons, ih, mail_push_to]
    split <;> rfl

/-- Taking the envelopes of a room out of a mailbox leaves the others there, in their order. -/
lemma take_room_spec {room_id : String} (few : (mail g q).length ≤ MAX_QUEUED_PER_PLAYER) :
    (take_room g q room_id).1 = (mail g q).filter (·.room_id = room_id) ∧
      mail (take_room g q room_id).2 p =
        if p = q then (mail g q).filter (·.room_id ≠ room_id) else mail g p := by
  refine ⟨rfl, ?_⟩
  show mail (((mail g q).filter (·.room_id ≠ room_id)).foldl (fun g s => push_to g q s)
    (AList.erase q g)) p = _
  rw [mail_put_back]
  split
  · rename_i e
    subst e
    have empty : mail (AList.erase p g) p = [] := by rw [mail_erase, if_pos rfl]
    rw [empty, Mailbox.foldl_push, List.nil_append]
    rw [List.length_nil, Nat.zero_add]
    exact (List.length_filter_le _ _).trans few
  · rename_i ne
    rw [mail_erase, if_neg ne]

end SignalStore

/-! ## The account of a mailbox -/

/-- The envelope that a step puts into the mailbox of a player. -/
def postsTo (p : String) : HttpLabel → Option SignalEnvelope
  | .ran _ (post_signals _ targets envelope) _ _ => if p ∈ targets then some envelope else none
  | _ => none

/-- The room of which a step reads the mailbox of a player. -/
def readsOf (p : String) : HttpLabel → Option String
  | .ran _ (get_signals _ q room_id) _ _ => if q = p then some room_id else none
  | _ => none

/-- Does a step clear the mailbox of a player? -/
def clearsOf (p : String) : HttpLabel → Bool
  | .ran _ (clear_signals _ q _) _ _ => q = p
  | _ => false

/-- What a step does to the account of a mailbox. -/
def note (p : String) (b : Mailbox.Ledger SignalEnvelope) (l : HttpLabel) :
    Mailbox.Ledger SignalEnvelope :=
  match postsTo p l, readsOf p l, clearsOf p l with
  | some envelope, _, _ => b.post MAX_QUEUED_PER_PLAYER envelope
  | none, some room_id, _ => b.take (·.room_id) room_id
  | none, none, true => b.clear
  | none, none, false => b

/-- The account of a mailbox: what was posted to it in a run, and where that is. -/
def ledger (p : String) : List HttpLabel → Mailbox.Ledger SignalEnvelope
  | [] => {}
  | l :: tr => note p (ledger p tr) l

/-- What is known of a mailbox in a run. -/
structure Delivery (p : String) (c : HttpSnapshot) (tr : List HttpLabel) : Prop where
  /-- The mailbox holds what waits by the account. -/
  mailbox : c.world.signals.mail p = (ledger p tr).waiting.map (·.1)
  /-- Every posted envelope is in one place, and delivered in its order. -/
  accounts : (ledger p tr).Sound (·.room_id) MAX_QUEUED_PER_PLAYER
  posted : (ledger p tr).posted = tr.reverse.filterMap (postsTo p)
  /-- A request for signals is answered with what waits of the room, and leaves the rest. -/
  reads : ∀ later t id room_id now pre earlier,
    tr = later ++ .ran t (get_signals id p room_id) now pre :: earlier →
    let w := (exec (get_signals id p room_id) now pre.world).1
    let waiting := (ledger p earlier).waiting
    w.replies = pre.world.replies ++
      [(id, .signals ((waiting.filter (·.1.room_id = room_id)).map (·.1)))] ∧
    w.signals.mail p = (waiting.filter (·.1.room_id ≠ room_id)).map (·.1)
  /-- An envelope is lost only when another is posted to a full mailbox, and then it is the oldest.
  -/
  losses : ∀ later l earlier, tr = later ++ l :: earlier →
    (ledger p (l :: earlier)).dropped = (ledger p earlier).dropped ∨
      (postsTo p l).isSome ∧ MAX_QUEUED_PER_PLAYER ≤ (ledger p earlier).waiting.length ∧
        ∃ oldest, (ledger p earlier).waiting.head? = some oldest ∧
          (ledger p (l :: earlier)).dropped = (ledger p earlier).dropped ++ [oldest]
  /-- Only leaving a room clears a mailbox. -/
  kept : (∀ l ∈ tr, clearsOf p l = false) → (ledger p tr).cleared = []

/-! ## Runs -/

/-- What the sections that are pending carry: the players a signal goes to are different. -/
def Addressed (_ : HttpWorld) (_ : Nat) : HttpSection → Prop
  | post_signals _ targets _ => targets.Nodup
  | _ => True

lemma membership_ok {rooms : RoomRegistry} {p room_id room}
    (h : membership rooms p room_id = .ok room) : rooms.rooms.lookup room_id = some room := by
  unfold membership at h
  split at h
  · cases h
  · rename_i found
    split at h
    · cases h
    · cases h
      exact found

lemma signal_targets_nodup {room : Room} (sound : room.Sound) {p t targets}
    (h : signal_targets room p t = .ok targets) : targets.Nodup := by
  unfold signal_targets at h
  split at h
  · split at h
    · cases h
    · cases h
      exact List.nodup_singleton _
  · cases h
    exact sound.ids.filter _

/-- What a section does to the rooms, it does by calls of the registry. -/
lemma exec_rooms {s : HttpSection} {now : Timestamp} {w : HttpWorld} (sound : w.rooms.Sound) :
    (exec s now w).1.rooms.Sound := by
  have called : ∀ op : RoomOp, (op.run w.rooms).2.Sound := fun op id r h =>
    (RoomOp.run_step h).sound sound
  cases s with
  | room_op id op =>
    simp only [exec]
    split <;> exact called op
  | leave_rooms id p room_id =>
    simp only [exec]
    split <;> exact called (.leave room_id p now)
  | purge hb idle => exact called (.purge_stale hb idle now)
  | post_rooms id p room_id body =>
    simp only [exec, post_rooms_step]
    split
    · exact sound
    · split <;> exact sound
  | get_rooms id p room_id =>
    simp only [exec]
    split <;> exact sound
  | clear_signals | post_signals | get_signals | respond => exact sound

/-- A section starts sections that carry different players. -/
lemma exec_addressed {s : HttpSection} {now : Timestamp} {w : HttpWorld} (sound : w.rooms.Sound)
    (t : Nat) : ∀ s' ∈ (exec s now w).2, Addressed (exec s now w).1 t s' := by
  intro s' hs'
  cases s with
  | room_op id op =>
    simp only [exec] at hs'
    split at hs' <;> cases hs'
  | leave_rooms id p room_id =>
    simp only [exec] at hs'
    split at hs'
    · cases List.mem_singleton.mp hs'
      trivial
    · cases hs'
  | post_rooms id p room_id body =>
    simp only [exec, post_rooms_step] at hs'
    split at hs'
    · cases hs'
    · rename_i room found
      split at hs'
      · cases hs'
      · rename_i targets named
        cases List.mem_singleton.mp hs'
        exact signal_targets_nodup (sound room_id room (membership_ok found)) named
  | get_rooms id p room_id =>
    simp only [exec] at hs'
    split at hs'
    · cases hs'
    · cases List.mem_singleton.mp hs'
      trivial
  | clear_signals | post_signals | get_signals | purge | respond => cases hs'

lemma run_addressed {c tr} (r : HttpRun c tr) : c.world.rooms.Sound ∧ Holds Addressed c := by
  apply r.induct (I := fun c _ => c.world.rooms.Sound ∧ Holds Addressed c)
  · refine ⟨?_, Holds.start _⟩
    intro id room h
    cases h
  · intro c tr l c' r ⟨sound, addressed⟩ st
    cases st with
    | run e _ =>
      exact ⟨exec_rooms sound, addressed.run e (fun _ _ _ h => h) (exec_addressed sound _)⟩
    | @event e _ _ =>
      refine ⟨sound, addressed.event (fun _ _ _ h => h) ?_⟩
      obtain ⟨id, req⟩ := e
      intro s hs
      cases req with
      | leave_room auth | post_signal auth | get_signals auth =>
        cases auth with
        | error => cases List.mem_singleton.mp hs; trivial
        | ok =>
          simp only [httpMachine, HttpRequest.body] at hs
          try split at hs
          all_goals cases List.mem_singleton.mp hs; trivial
      | room_op | purge => cases List.mem_singleton.mp hs; trivial

/-- What a section does to the mailbox of a player. -/
lemma exec_mail {t s now pre p}
    (few : ∀ q, (pre.world.signals.mail q).length ≤ MAX_QUEUED_PER_PLAYER)
    (addressed : Addressed pre.world t s) : (exec s now pre.world).1.signals.mail p =
      match postsTo p (.ran t s now pre), readsOf p (.ran t s now pre),
        clearsOf p (.ran t s now pre) with
      | some e, _, _ => Mailbox.push MAX_QUEUED_PER_PLAYER (pre.world.signals.mail p) e
      | none, some room_id, _ => (pre.world.signals.mail p).filter (·.room_id ≠ room_id)
      | none, none, true => []
      | none, none, false => pre.world.signals.mail p := by
  cases s with
  | post_signals id targets e =>
    simp only [postsTo, readsOf, clearsOf]
    refine (SignalStore.mail_push_all addressed).trans ?_
    split <;> rfl
  | get_signals id q room_id =>
    simp only [postsTo, readsOf, clearsOf]
    refine (SignalStore.take_room_spec (few q)).2.trans ?_
    by_cases e : q = p
    · subst e
      simp
    · simp [e, Ne.symm e]
  | clear_signals id q room_id =>
    simp only [postsTo, readsOf, clearsOf]
    refine SignalStore.mail_erase.trans ?_
    by_cases e : q = p
    · subst e
      simp
    · simp [e, Ne.symm e]
  | room_op id op =>
    simp only [exec, postsTo, readsOf, clearsOf]
    split <;> rfl
  | leave_rooms id q room_id =>
    simp only [exec, postsTo, readsOf, clearsOf]
    split <;> rfl
  | post_rooms id q room_id body =>
    simp only [exec, post_rooms_step, postsTo, readsOf, clearsOf]
    split
    · rfl
    · split <;> rfl
  | get_rooms id q room_id =>
    simp only [exec, postsTo, readsOf, clearsOf]
    split <;> rfl
  | purge | respond => rfl

/-- The mailboxes are what their accounts say. -/
lemma run_accounts {c tr} (r : HttpRun c tr) : ∀ p,
    c.world.signals.mail p = (ledger p tr).waiting.map (·.1) ∧
      (ledger p tr).Sound (·.room_id) MAX_QUEUED_PER_PLAYER := by
  apply r.induct (I := fun c tr => ∀ p, c.world.signals.mail p = (ledger p tr).waiting.map (·.1) ∧
    (ledger p tr).Sound (·.room_id) MAX_QUEUED_PER_PLAYER)
  · exact fun p => ⟨rfl, Mailbox.Ledger.sound_nil⟩
  · intro c tr l c' r ih st p
    cases st with
    | @event e _ _ => exact ih p
    | @run t s rest now e _ =>
      have few : ∀ q, (c.world.signals.mail q).length ≤ MAX_QUEUED_PER_PLAYER := by
        intro q
        rw [(ih q).1, List.length_map]
        exact (ih q).2.few
      have addressed := (run_addressed r).2 t s (e ▸ List.mem_cons_self)
      obtain ⟨mail, sound⟩ := ih p
      have done := @exec_mail t s now _ p few addressed
      show (exec s now c.world).1.signals.mail p = (note p (ledger p tr) _).waiting.map _ ∧
        (note p (ledger p tr) _).Sound _ _
      rw [done, mail]
      generalize ledger p tr = b at sound ⊢
      unfold note
      split
      · refine ⟨?_, sound.post (by decide) _⟩
        exact (Mailbox.map_push (f := Prod.fst) (x := (_, b.posted.length))).symm
      · refine ⟨?_, sound.take _⟩
        rw [List.filter_map]
        rfl
      · exact ⟨rfl, sound.clear⟩
      · exact ⟨rfl, sound⟩

lemma ledger_posted (p : String) (tr : List HttpLabel) :
    (ledger p tr).posted = tr.reverse.filterMap (postsTo p) := by
  induction tr with
  | nil => rfl
  | cons l tr ih =>
    rw [List.reverse_cons, List.filterMap_append, ← ih]
    show (note p (ledger p tr) l).posted = _
    unfold note
    split
    · rename_i posts
      simp [Mailbox.Ledger.post, posts]
    · rename_i posts _
      simp [Mailbox.Ledger.take, posts]
    · rename_i posts _ _
      simp [Mailbox.Ledger.clear, posts]
    · rename_i posts _ _
      simp [posts]

lemma ledger_cleared {p : String} {tr : List HttpLabel} (kept : ∀ l ∈ tr, clearsOf p l = false) :
    (ledger p tr).cleared = [] := by
  induction tr with
  | nil => rfl
  | cons l tr ih =>
    obtain ⟨here, kept⟩ := List.forall_mem_cons.mp kept
    show (note p (ledger p tr) l).cleared = _
    unfold note
    split
    · exact ih kept
    · exact ih kept
    · rename_i clears
      exact absurd (here.symm.trans clears) nofun
    · exact ih kept

/-- A step loses the oldest envelope of a full mailbox, when it posts another. -/
lemma note_dropped (p : String) (b : Mailbox.Ledger SignalEnvelope) (l : HttpLabel) :
    (note p b l).dropped = b.dropped ∨
      (postsTo p l).isSome ∧ MAX_QUEUED_PER_PLAYER ≤ b.waiting.length ∧
        ∃ oldest, b.waiting.head? = some oldest ∧ (note p b l).dropped = b.dropped ++ [oldest] := by
  unfold note
  split
  · rename_i posts
    by_cases full : MAX_QUEUED_PER_PLAYER ≤ b.waiting.length
    · obtain ⟨oldest, first⟩ : ∃ oldest, b.waiting.head? = some oldest := by
        cases e : b.waiting with
        | nil =>
          rw [e] at full
          exact absurd full (by decide)
        | cons oldest rest => exact ⟨oldest, rfl⟩
      refine .inr ⟨posts ▸ rfl, full, oldest, first, ?_⟩
      rw [Mailbox.Ledger.post, if_pos full, List.take_one, first]
      rfl
    · left
      rw [Mailbox.Ledger.post, if_neg full, List.append_nil]
  · exact .inl rfl
  · exact .inl rfl
  · exact .inl rfl

/-- **Signals.** In every run, whatever the requests and however they overlap, a request for the
signals of a room is answered with the player's undelivered envelopes of the room, in the order in
which they were posted, and leaves those of other rooms; no envelope is delivered twice; and none is
lost but the oldest of a full mailbox, as long as the player does not leave a room. -/
theorem signals_delivered {c tr} (r : HttpRun c tr) (p : String) : Delivery p c tr := by
  obtain ⟨mailbox, accounts⟩ := run_accounts r p
  refine ⟨mailbox, accounts, ledger_posted p tr, ?_, ?_, ledger_cleared⟩
  · rintro later t id room_id now pre earlier rfl
    obtain ⟨reached, -⟩ := r.pre_reached _ _ _ rfl
    obtain ⟨mail, sound⟩ := run_accounts reached p
    have few : (pre.world.signals.mail p).length ≤ MAX_QUEUED_PER_PLAYER := by
      rw [show pre.world.signals.mail p = _ from mail, List.length_map]
      exact sound.few
    obtain ⟨answer, rest⟩ := @SignalStore.take_room_spec _ p p room_id few
    dsimp only
    constructor
    · show pre.world.replies ++ [(id, .signals (take_room pre.world.signals p room_id).1)] = _
      rw [answer, show pre.world.signals.mail p = _ from mail, List.filter_map]
      rfl
    · refine rest.trans ?_
      rw [if_pos rfl, show pre.world.signals.mail p = _ from mail, List.filter_map]
      rfl
  · rintro later l earlier -
    exact note_dropped p (ledger p earlier) l

/-- The rooms of two players: the first opens "a" and the second "b", and each joins the other's. -/
def twoRooms (p q : String) : List (Interleave.Move Nat Timestamp (Nat × HttpRequest)) :=
  [.event (0, .room_op (.create p "game" "1" "A" 2 2 0 false 0 "a" [])), .run 0 0,
    .event (0, .room_op (.create q "game" "1" "B" 2 2 0 false 0 "b" [])), .run 0 0,
    .event (0, .room_op (.join "a" q "game" "1" none 0)), .run 0 0,
    .event (0, .room_op (.join "b" p "game" "1" none 0)), .run 0 0]

/-- A request that is served alone. -/
def serve (n : Nat) (req : HttpRequest) : List (Interleave.Move Nat Timestamp (Nat × HttpRequest)) :=
  .event (0, req) :: List.replicate n (.run 0 0)

/-- A signal of a player to whoever else is in the room. -/
def signal (p room_id text : String) : HttpRequest :=
  .post_signal (.ok p) room_id { signal_type := 1, text := text }

/-- Signals of two rooms come to a player, and one of the rooms is read. -/
theorem signals_delivered_two : ∃ c tr, HttpRun c tr ∧ Delivery "q" c tr ∧
    (c.world.replies.getLast?.map fun x => match x.2 with
      | .signals es => es.map (·.text)
      | _ => []) = some ["offer", "candidate"] ∧
    (c.world.signals.mail "q").map (·.text) = ["elsewhere"] := by
  let ms := twoRooms "p" "q" ++ serve 2 (signal "p" "a" "offer") ++
    serve 2 (signal "p" "b" "elsewhere") ++ serve 2 (signal "p" "a" "candidate") ++
    serve 2 (.get_signals (.ok "q") "a")
  have h : (httpMachine.follow ms).any fun x =>
      (x.1.world.replies.getLast?.map fun x => match x.2 with
        | .signals es => es.map (·.text)
        | _ => []) = some ["offer", "candidate"] &&
      (x.1.world.signals.mail "q").map (·.text) = ["elsewhere"] := by
    decide +kernel
  obtain ⟨c, tr, r, ht, -⟩ := Machine.follow_reaches h
  obtain ⟨answer, rest⟩ := (Bool.and_eq_true _ _).mp ht
  exact ⟨c, tr, r, signals_delivered r "q", of_decide_eq_true answer, of_decide_eq_true rest⟩

end RecompNet.Http
