import RecompNet.Hub.MatchLaunch
import RecompNet.Hub.RoomEdit

/-!
# How a seat is lost

A room that a client hosts is closed by nobody but its host: the server gives up the starts of match
rooms only. So a member keeps its seat there until it leaves or goes, until the host kicks it, or
until the host leaves, goes or closes the room. No other client, and no task of the server, takes it
away.
-/

namespace RecompNet

open Section Interleave

/-! ## No start task for a hosted room -/

/-- Nothing starts the room but its host. -/
structure Unplanned (lid : String) (c : HubSnapshot) : Prop where
  asleep : c.world.spawned.lookup lid = none
  idle : c.pending (.start lid) = []
  unspawned : ∀ t, ∀ s ∈ c.pending t, s.spawns lid = false

section
variable {srv : Server} {c : HubSnapshot} {tr : List HubLabel} {t : Tid} {s : Section}
  {rest : List Section} {o : Answer} {lid : String}

lemma Unplanned.run (h : Unplanned lid c) (r : HubRun srv c tr) (e : c.pending t = s :: rest)
    (other : ∀ plan, s = form_match_room plan → lid ≠ o.uuid) :
    Unplanned lid ((hubMachine srv).afterRun c t s rest o) := by
  have here : s ∈ c.pending t := e ▸ List.mem_cons_self
  have apart : t ≠ .start lid := by
    rintro rfl
    rw [h.idle] at e
    cases e
  refine ⟨?_, ?_, ?_⟩
  · refine (not_start_spawned ?_ (h.unspawned t s here)).trans h.asleep
    exact fun start => apart (HubRun.start_task r t s here lid start)
  · exact (Function.update_of_ne apart.symm _ _).trans h.idle
  · intro t' s' hs'
    by_cases ht : t' = t
    · subst ht
      simp only [Machine.afterRun, Function.update_self, List.mem_append] at hs'
      rcases hs' with hs' | hs'
      · by_contra spawns
        obtain ⟨plan, form, drawn, -⟩ := exec_spawns hs' ((Bool.not_eq_false _).mp spawns)
        exact other plan form drawn
      · exact h.unspawned t' s' (e ▸ List.mem_cons_of_mem _ hs')
    · simp only [Machine.afterRun, Function.update_of_ne ht] at hs'
      exact h.unspawned t' s' hs'

lemma Unplanned.event {e : Event} (h : Unplanned lid c)
    (idle : c.pending ((hubMachine srv).task e) = []) (enabled : e.enabled c.world) :
    Unplanned lid ((hubMachine srv).afterEvent c e) := by
  have asleep : e ≠ .wake lid := by
    rintro rfl
    have awake : (c.world.spawned.lookup lid).any (·.wake_at ≤ c.world.now) := enabled
    rw [h.asleep] at awake
    cases awake
  have apart := apart_event idle asleep
  refine ⟨apart.spawned.trans h.asleep, apart.pending.trans h.idle, fun t s hs => ?_⟩
  by_contra spawns
  have spawns := (Bool.not_eq_false _).mp spawns
  exact absurd (h.unspawned t s (apart.kept t s hs spawns)) (by simp [spawns])

/-- A room of a client has no start task. -/
theorem HubRun.unplanned (r : HubRun srv c tr) : ∀ lid l, c.world.hub.lobbies.lookup lid = some l →
    l.automatch = false → Unplanned lid c := by
  apply r.induct (I := fun c _ => ∀ lid l, c.world.hub.lobbies.lookup lid = some l →
    l.automatch = false → Unplanned lid c)
  · intro lid l hl
    cases hl
  · intro c tr l c' r ih st lid l' hl' hosted
    have basic := HubRun.basic r
    cases st with
    | @run t s rest o e ho =>
      rcases (exec_change srv s o basic.sized).lobby_back hl' with
        ⟨l, hl, frame⟩ | ⟨p, ip, msg, rfl, rfl, -⟩ | ⟨plan, -, -, -, -, -, rfl⟩
      · refine (ih lid l hl (frame.automatch ▸ hosted)).run r e fun _ _ => ?_
        rintro rfl
        exact ho.2.1 (basic.lobby_issued _ l hl)
      · -- The room is new: nothing is known of it yet, and its making starts nothing.
        obtain ⟨un, none⟩ := HubRun.unstarted r o.uuid ho.2.1
        have fresh : Unplanned o.uuid c := by
          refine ⟨un.asleep, un.idle, fun t s hs => ?_⟩
          simpa using List.countP_eq_zero.mp (none t) s hs
        exact fresh.run r e fun plan form => by cases form
      · cases hosted
    | event idle enabled =>
      exact (ih lid l' ((apply_lobbies srv c.world _) ▸ hl') hosted).event idle enabled

end

/-! ## Who closes a hosted room -/

/-- Where a room is about to be destroyed: its host closes it, somebody leaves, or its start task
works. -/
lemma exec_closes {srv s o w lid} (hs : destroy_lobby lid ∈ (exec srv s o w).2) :
    (∃ p ip msg, s = dispatch p ip msg ∧ msg.op = .close ∧ w.hub.lobby_id_of p = some lid ∧
      ∀ l, w.hub.lobbies.lookup lid = some l → l.host_player_id = p) ∨
    (∃ p, s = client_leave p ∧ w.hub.lobby_id_of p = some lid ∧
      ∀ l, w.hub.lobbies.lookup lid = some l → l.automatch = false → l.host_player_id = p) ∨
    s.startOf = some lid := by
  have called : ¬ ∀ k ∈ s.calls, k ≠ .destroy_lobby := fun none => none _ (exec_calls _ hs) rfl
  cases s with
  | dispatch p ip msg =>
    cases hop : msg.op with
    | close =>
      left
      simp only [exec, World.lift, dispatch_step, hop, handle_close] at hs
      split at hs
      · cases hs
      · rename_i lid0 hlid
        split_ifs at hs with host
        · cases List.mem_singleton.mp hs
          refine ⟨p, ip, msg, rfl, hop, hlid, fun l hl => ?_⟩
          rw [hl] at host
          exact of_decide_eq_true host
        · cases hs
    | _ => exact absurd (by simp [hop]) called
  | client_leave p =>
    right; left
    simp only [exec, World.lift, client_leave_step] at hs
    split at hs
    · cases hs
    · rename_i lid0 hlid
      split at hs
      · cases hs
      · rename_i l hl
        split_ifs at hs with closes
        · cases List.mem_singleton.mp hs
          refine ⟨p, rfl, hlid, fun l' hl' hosted => ?_⟩
          replace hl : w.hub.lobbies.lookup lid = some l := hl
          obtain rfl := Option.some.inj (hl.symm.trans hl')
          exact closes.resolve_right (by simp [hosted])
        · simp at hs
        · simp at hs
  | start_failed st lid0 ice code =>
    right; right
    cases st with
    | host p caps =>
      simp only [exec, start_failed_step] at hs
      split_ifs at hs <;> cases List.mem_singleton.mp hs
    | server task =>
      simp only [exec, start_failed_step] at hs
      split_ifs at hs
      · cases List.mem_singleton.mp hs
      · simp only [List.mem_cons, List.not_mem_nil, or_false, reduceCtorEq] at hs
        cases hs
        rfl
      · cases hs
      · cases List.mem_singleton.mp hs
  | start_abort lid0 code =>
    right; right
    simp only [exec, World.lift, start_abort_step, List.mem_append, List.mem_map,
      List.mem_singleton, reduceCtorEq, and_false, exists_false, false_or] at hs
    cases hs
    rfl
  | _ => exact absurd (by simp) called

/-- A client asked to leave, or its socket closed. -/
def Departed (tr : List HubLabel) (p : String) : Prop :=
  (∃ ip msg o pre, .ran (.conn p) (dispatch p ip msg) o pre ∈ tr ∧ msg.op = .leave) ∨
    ∃ pre, .came (.disconnect p) pre ∈ tr

lemma Departed.later {tr l p} (h : Departed tr p) : Departed (l :: tr) p := by
  rcases h with ⟨ip, msg, o, pre, ran, op⟩ | ⟨pre, came⟩
  · exact .inl ⟨ip, msg, o, pre, List.mem_cons_of_mem _ ran, op⟩
  · exact .inr ⟨pre, List.mem_cons_of_mem _ came⟩

/-- A client is about to leave only after it departed. -/
lemma HubRun.leave_departed {srv c tr} (r : HubRun srv c tr) {t p}
    (here : client_leave p ∈ c.pending t) : t = .conn p ∧ Departed tr p := by
  obtain rfl := HubRun.actor_task r t _ here p rfl
  refine ⟨rfl, ?_⟩
  rcases r.pending_started _ _ here with ⟨e, pre', came, -, hb⟩ | ⟨s', o', pre', ran', h⟩
  · cases e <;> simp [hubMachine, Event.body] at hb
    case disconnect => exact .inr ⟨pre', hb ▸ came⟩
  · cases exec_emits _ h with
    | plain hp => cases hp
    | @leave p ip msg =>
      refine .inl ⟨ip, msg, o', pre', ran', ?_⟩
      have called := exec_calls _ h
      cases hop : msg.op <;> simp [hop] at called
      rfl

/-- The task of the host asked for the end of the room. -/
def ClosedByHost (tr : List HubLabel) (host lid : String) : Prop :=
  ∃ s o pre, .ran (.conn host) s o pre ∈ tr ∧ pre.world.hub.lobby_id_of host = some lid ∧
    (s = client_leave host ∧ Departed tr host ∨
      ∃ ip msg, s = dispatch host ip msg ∧ msg.op = .close)

lemma ClosedByHost.later {tr l host lid} (h : ClosedByHost tr host lid) :
    ClosedByHost (l :: tr) host lid := by
  obtain ⟨s, o, pre, ran, note, why⟩ := h
  refine ⟨s, o, pre, List.mem_cons_of_mem _ ran, note, ?_⟩
  rcases why with ⟨e, departed⟩ | closes
  · exact .inl ⟨e, departed.later⟩
  · exact .inr closes

/-- A hosted room is about to be destroyed only by the task of its host, which asked for it. -/
theorem HubRun.hosted_closed {srv c tr} (r : HubRun srv c tr) :
    Holds (fun w t s => ∀ lid l, s = destroy_lobby lid → w.hub.lobbies.lookup lid = some l →
      l.automatch = false →
        t = .conn l.host_player_id ∧ ClosedByHost tr l.host_player_id lid) c := by
  apply r.induct (I := fun c tr => Holds (fun w t s => ∀ lid l, s = destroy_lobby lid →
    w.hub.lobbies.lookup lid = some l → l.automatch = false →
      t = .conn l.host_player_id ∧ ClosedByHost tr l.host_player_id lid) c)
  · exact Holds.start _
  · intro c tr l0 c' r ih st
    have basic := HubRun.basic r
    have issued := HubRun.destroys_issued r
    have old : Holds (fun w t s => ∀ lid l, s = destroy_lobby lid →
        w.hub.lobbies.lookup lid = some l → l.automatch = false →
          t = .conn l.host_player_id ∧ ClosedByHost (l0 :: tr) l.host_player_id lid) c :=
      fun t s hs lid l e hl hosted =>
        ⟨(ih t s hs lid l e hl hosted).1, (ih t s hs lid l e hl hosted).2.later⟩
    cases st with
    | @run t s rest o e ho =>
      -- A room of that id was there before, with the same host.
      have back : ∀ {lid l'}, lid ∈ c.world.issued →
          (exec srv s o c.world).1.hub.lobbies.lookup lid = some l' → l'.automatch = false →
          ∃ l, c.world.hub.lobbies.lookup lid = some l ∧ l.automatch = false ∧
            l'.host_player_id = l.host_player_id := by
        intro lid l' drawn hl' hosted
        rcases (exec_change srv s o basic.sized).lobby_back hl' with
          ⟨l, hl, frame⟩ | ⟨_, _, _, -, rfl, -⟩ | ⟨_, -, -, -, -, rfl, -⟩
        · exact ⟨l, hl, frame.automatch ▸ hosted, frame.host⟩
        · exact absurd drawn ho.2.1
        · exact absurd drawn ho.2.1
      apply old.run e
      · rintro t' s' hs' h lid l' rfl hl' hosted
        obtain ⟨l, hl, hosted, host⟩ := back (issued t' _ hs' lid rfl) hl' hosted
        rw [host]
        exact h lid l rfl hl hosted
      · rintro s' hs' lid l' rfl hl' hosted
        have ran : Label.ran t s o c ∈ Label.ran t s o c :: tr := List.mem_cons_self
        have here : s ∈ c.pending t := e ▸ List.mem_cons_self
        rcases exec_closes hs' with ⟨p, ip, msg, rfl, op, note, own⟩ | ⟨p, rfl, note, own⟩ | start
        · obtain ⟨l, hl, -, host⟩ := back (HubRun.noted_issued r p lid note) hl' hosted
          obtain rfl := HubRun.actor_task r t _ here p rfl
          rw [host, own l hl]
          exact ⟨rfl, _, o, c, ran, note, .inr ⟨ip, msg, rfl, op⟩⟩
        · obtain ⟨l, hl, hosted, host⟩ := back (HubRun.noted_issued r p lid note) hl' hosted
          obtain ⟨rfl, departed⟩ := HubRun.leave_departed r here
          rw [host, own l hl hosted]
          exact ⟨rfl, _, o, c, ran, note, .inl ⟨rfl, departed.later⟩⟩
        · -- The start task of the room has nothing to run.
          obtain rfl := HubRun.start_task r t s here lid start
          have idle : c.pending (.start lid) = [] := by
            by_cases drawn : lid ∈ c.world.issued
            · obtain ⟨l, hl, hosted, -⟩ := back drawn hl' hosted
              exact (HubRun.unplanned r lid l hl hosted).idle
            · exact (HubRun.unstarted r lid drawn).1.idle
          rw [idle] at e
          cases e
    | @event e _ _ =>
      apply old.event
      · intro t' s' _ h lid l e hl hosted
        exact h lid l e ((apply_lobbies srv c.world _) ▸ hl) hosted
      · rintro s' hs' lid l rfl
        have kind := body_kinds hs'
        simp at kind

/-! ## How a member loses its seat -/

section
variable {srv : Server} {o : Answer} {w : World} {s : Section} {lid p : String} {l l' : Lobby}

/-- A member that is gone after a step left, or the host kicked somebody. -/
lemma RoomEdit.unseats (h : RoomEdit srv o w lid l s l')
    (small : l.slots.length ≤ SPECTATOR_SLOT_BASE) (sits : p ∈ l.member_ids)
    (gone : p ∉ l'.member_ids) :
    s = client_leave p ∧ w.hub.lobby_id_of p = some lid ∨
      ∃ ip msg, s = dispatch l.host_player_id ip msg ∧ msg.op = .kick := by
  have stays : ∀ {l' : Lobby}, l'.member_ids.Perm l.member_ids → p ∈ l'.member_ids :=
    fun same => same.mem_iff.mpr sits
  cases h with
  | kick op _ host =>
    subst host
    exact .inr ⟨_, _, rfl, op⟩
  | @vacate q note =>
    left
    rw [Lobby.vacate_members, List.mem_filter, not_and] at gone
    obtain rfl : p = q := by simpa using gone sits
    exact ⟨rfl, note⟩
  | same => exact absurd sits gone
  | rename =>
    refine absurd (stays (Lobby.setMember_shuffles l _ fun s => ?_).members) gone
    rfl
  | set_ready _ _ hf =>
    refine absurd (stays (Lobby.setMember_shuffles l _ fun s => ?_).members) gone
    obtain ⟨_, _, _, _, e⟩ := hf s
    rw [e]
    rfl
  | set_match_caps => exact absurd sits gone
  | set_host_endpoint _ _ _ hl0 =>
    rcases hl0 with ⟨rfl, -⟩ | rfl
    · exact absurd sits gone
    · exact absurd (stays (Lobby.clearPlayerPaths_shuffles l).members) gone
  | path_report => exact absurd (stays (.of_eq (Lobby.reportPath_members l _ _ _))) gone
  | move _ _ _ ne hi hj => exact absurd (stays (Lobby.rearrange_shuffles hi hj ne).members) gone
  | seat_move _ _ hi ne hj =>
    obtain ⟨_, hi, -⟩ := Lobby.seat_of_eq_some small hi
    exact absurd (stays (Lobby.rearrange_shuffles hi hj ne).members) gone
  | seat_swap_answer _ _ _ _ hi hj ne =>
    obtain ⟨_, hi, -⟩ := Lobby.seat_of_eq_some small hi
    obtain ⟨_, hj, -⟩ := Lobby.seat_of_eq_some small hj
    exact absurd (stays (Lobby.trade_shuffles hi hj ne).members) gone
  | sit _ free =>
    have seated := Lobby.sit_members (Lobby.seat_freeSeat small free)
    exact absurd ((seated _ _).mem_iff.mpr (List.mem_cons_of_mem _ sits)) gone
  | launch => exact absurd (stays (Lobby.launch_shuffles l _ _).members) gone

end

/-- Whoever is gone after a kick sat in the seat that the host named. -/
lemma kick_unseats {g : HubInner} {host lid p : String} {msg : InMsg} {l l' : Lobby}
    (hl : g.lobbies.lookup lid = some l)
    (hl' : (handle_kick g host msg).1.lobbies.lookup lid = some l') (sits : p ∈ l.member_ids)
    (gone : p ∉ l'.member_ids) : ∃ i s, Kicks g host msg lid l i s ∧ s.player_id = p := by
  have ends := kick_ends g host msg
  generalize (handle_kick g host msg).1 = g' at ends hl'
  cases ends with
  | refused =>
    obtain rfl := Option.some.inj (hl.symm.trans hl')
    exact absurd sits gone
  | @kicked lid0 l0 i s k =>
    obtain ⟨l1, hl1, ⟨-, rfl⟩ | ⟨rfl, rfl⟩⟩ := lookup_setLobby_back hl'
    · obtain rfl := Option.some.inj (hl.symm.trans hl1)
      exact absurd sits gone
    · obtain rfl := Option.some.inj (hl.symm.trans hl1)
      obtain rfl := Option.some.inj (hl.symm.trans k.room)
      refine ⟨i, s, k, ?_⟩
      have split := (Lobby.kick_members k.held).mem_iff.mpr sits
      exact ((List.mem_cons.mp split).resolve_right gone).symm

/-- How the member `p` of the room `l` loses its seat. -/
inductive SeatLost (l : Lobby) (lid p : String) (earlier : List HubLabel) : HubLabel → Prop where
  | left {o pre} :
    pre.world.hub.lobby_id_of p = some lid →
    Departed earlier p →
    SeatLost l lid p earlier (.ran (.conn p) (client_leave p) o pre)
  | kicked {ip msg i s o pre} :
    msg.op = .kick →
    Kicks pre.world.hub l.host_player_id msg lid l i s →
    s.player_id = p →
    SeatLost l lid p earlier
      (.ran (.conn l.host_player_id) (dispatch l.host_player_id ip msg) o pre)
  | closed {o pre} :
    ClosedByHost earlier l.host_player_id lid →
    SeatLost l lid p earlier (.ran (.conn l.host_player_id) (destroy_lobby lid) o pre)

/-- The room is there, hosted by `host`, and `p` sits in it. -/
def SitsAt (c : HubSnapshot) (lid host p : String) : Prop :=
  ∃ l, c.world.hub.lobbies.lookup lid = some l ∧ l.automatch = false ∧ l.host_player_id = host ∧
    p ∈ l.member_ids

/-- One step keeps a member of a hosted room in its seat, or takes it in one of these ways. -/
lemma SitsAt.step {srv c tr l0 c' lid host p} (r : HubRun srv c tr)
    (st : Step (hubMachine srv) c l0 c') (h : SitsAt c lid host p) : SitsAt c' lid host p ∨
      ∃ l, c.world.hub.lobbies.lookup lid = some l ∧ l.host_player_id = host ∧
        p ∈ l.member_ids ∧ SeatLost l lid p tr l0 := by
  obtain ⟨l, hl, hosted, rfl, sits⟩ := h
  have basic := HubRun.basic r
  cases st with
  | @run t s rest o e ho =>
    have here : s ∈ c.pending t := e ▸ List.mem_cons_self
    have change := exec_change srv s o basic.sized
    by_cases destroyed : s = destroy_lobby lid
    · subst destroyed
      right
      obtain ⟨rfl, why⟩ := HubRun.hosted_closed r t _ here lid l rfl hl hosted
      exact ⟨l, hl, rfl, sits, .closed why⟩
    · obtain ⟨l', hl'⟩ := change.lobby_stays hl destroyed
      have fresh : lid ≠ o.uuid := by
        rintro rfl
        exact ho.2.1 (basic.lobby_issued _ l hl)
      have frame : l.Frame l' := by
        rcases change.lobby_back hl' with ⟨l0, hl0, frame⟩ | ⟨_, _, _, -, same, -⟩ |
          ⟨_, -, -, -, -, same, -⟩
        · obtain rfl := Option.some.inj (hl.symm.trans hl0)
          exact frame
        · exact absurd same fresh
        · exact absurd same fresh
      by_cases stays : p ∈ l'.member_ids
      · exact .inl ⟨l', hl', frame.automatch.trans hosted, frame.host, stays⟩
      right
      refine ⟨l, hl, rfl, sits, ?_⟩
      have edit : RoomEdit srv o c.world lid l s l' := by
        rcases exec_room hl' with ⟨l0, hl0, edit⟩ | ⟨_, _, _, -, same, -⟩ | ⟨_, -, same, -⟩
        · obtain rfl := Option.some.inj (hl.symm.trans hl0)
          exact edit
        · exact absurd same fresh
        · exact absurd same fresh
      rcases edit.unseats (basic.sized lid l hl) sits stays with ⟨rfl, note⟩ | ⟨ip, msg, rfl, op⟩
      · obtain ⟨rfl, departed⟩ := HubRun.leave_departed r here
        exact .left note departed
      · obtain rfl := HubRun.actor_task r t _ here _ rfl
        simp only [exec, World.lift, World.setHub, dispatch_step, op] at hl'
        obtain ⟨i, slot, kicks, own⟩ := kick_unseats hl hl' sits stays
        exact .kicked op kicks own
  | event =>
    exact .inl ⟨l, (apply_lobbies srv c.world _).symm ▸ hl, hosted, rfl, sits⟩

/-- **A seat in a hosted room is lost only by its own client or the host.** Whoever sat in a hosted
room at some point of a run still sits there, in the room of the same host, or lost the seat at one
of the steps since: it left or went, the host kicked it, or the room was closed for the host. -/
theorem hosted_seat_kept {srv c tr} (r : HubRun srv c tr) {later l earlier lid host p}
    (at_ : tr = later ++ l :: earlier) (sat : SitsAt l.pre lid host p) :
    SitsAt c lid host p ∨ ∃ later' l' earlier' room, tr = later' ++ l' :: earlier' ∧
      earlier <:+ earlier' ∧ l'.pre.world.hub.lobbies.lookup lid = some room ∧
      room.host_player_id = host ∧ p ∈ room.member_ids ∧ SeatLost room lid p earlier' l' := by
  induction later generalizing c tr with
  | nil =>
    subst at_
    cases r with
    | @step c0 _ _ _ r st =>
      rw [st.label_pre] at sat
      refine (sat.step r st).imp id ?_
      rintro ⟨room, hroom, host, sits, lost⟩
      rw [← st.label_pre] at hroom
      exact ⟨[], l, earlier, room, rfl, List.suffix_rfl, hroom, host, sits, lost⟩
  | cons l1 later ih =>
    subst at_
    cases r with
    | @step c0 _ _ _ r st =>
      rcases ih r rfl with sat | ⟨later', l', earlier', room, e, since, rest⟩
      · refine (sat.step r st).imp id ?_
        rintro ⟨room, hroom, host, sits, lost⟩
        rw [← st.label_pre] at hroom
        refine ⟨[], l1, later ++ l :: earlier, room, rfl, ?_, hroom, host, sits, lost⟩
        exact (List.suffix_cons l earlier).trans (List.suffix_append _ _)
      · exact .inr ⟨l1 :: later', l', earlier', room, congrArg (l1 :: ·) e, since, rest⟩

/-- Does `p` sit in the room of `host`? -/
def sitsAt (c : HubSnapshot) (lid host p : String) : Bool :=
  (c.world.hub.lobbies.lookup lid).any fun l =>
    l.automatch = false && l.host_player_id = host && p ∈ l.member_ids

lemma sitsAt_iff {c lid host p} : sitsAt c lid host p ↔ SitsAt c lid host p := by
  simp [sitsAt, SitsAt, Option.any_eq_true, and_assoc]

/-- Two guests are in a room, and the first kicks the second. -/
def kickedOut (p q : String) : List Move :=
  let o := draw "9b1deb4d-3b7d-4bad-9bdd-2b0d7b3dcb6d"
  roomOfTwo p q "1f8a9f0e-7d2b-4b57-8f6f-2f6f2b0c9d01" o ++
    [say p { op := .kick, slot := some 1 }] ++ steps (.conn p) 2 o

/-- The second guest loses its seat to the host. -/
theorem hosted_seat_kept_kicked : ∃ c tr lid host p later l earlier later' l' earlier' room,
    HubRun sampleServer c tr ∧ tr = later ++ l :: earlier ∧ SitsAt l.pre lid host p ∧
    ¬ SitsAt c lid host p ∧ tr = later' ++ l' :: earlier' ∧ earlier <:+ earlier' ∧
    l'.pre.world.hub.lobbies.lookup lid = some room ∧ p ∈ room.member_ids ∧
    SeatLost room lid p earlier' l' := by
  let p := "6b0f1e52-3c1d-4a86-9a53-0d5f6f1c2a11"
  let q := "c4d1c1a0-5f0e-4a53-8d43-9f4b1f7f3b22"
  let lid := "1f8a9f0e-7d2b-4b57-8f6f-2f6f2b0c9d01"
  have h : ((hubMachine sampleServer).follow (kickedOut p q)).any fun x =>
      x.2.any (fun l => sitsAt l.pre lid p q) && !sitsAt x.1 lid p q := by
    decide +kernel
  obtain ⟨c, tr, r, ht, -⟩ := Machine.follow_reaches h
  obtain ⟨sat, gone⟩ := (Bool.and_eq_true _ _).mp ht
  obtain ⟨l, hl, sat⟩ := List.any_eq_true.mp sat
  obtain ⟨later, earlier, at_⟩ := List.append_of_mem hl
  have sat := sitsAt_iff.mp sat
  have gone : ¬ SitsAt c lid p q := by
    intro sits
    rw [sitsAt_iff.mpr sits] at gone
    cases gone
  obtain ⟨later', l', earlier', room, e, since, hroom, -, sits, lost⟩ :=
    (hosted_seat_kept r at_ sat).resolve_left gone
  exact ⟨c, tr, lid, p, q, later, l, earlier, later', l', earlier', room, r, at_, sat, gone, e,
    since, hroom, sits, lost⟩

end RecompNet
