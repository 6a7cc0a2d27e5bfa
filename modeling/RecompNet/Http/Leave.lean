import RecompNet.Http.Signals

/-!
# Leaving a room of the HTTP interface

A player has one mailbox for all rooms, and `leave_room` clears it. What that does to the signals of
the other rooms that the player is in.
-/

namespace RecompNet.Http

open Interleave HttpSection

/-- A mailbox before and after its player leaves a room: nothing of another room is removed, and the
next request for the signals of another room returns what was there of it. -/
structure SparesOthers (before after : SignalStore) (player_id room_id : String) : Prop where
  kept : (after.mail player_id).filter (·.room_id ≠ room_id) =
    (before.mail player_id).filter (·.room_id ≠ room_id)
  returned : ∀ other, other ≠ room_id →
    (take_room after player_id other).1 = (before.mail player_id).filter (·.room_id = other)

/-- Nobody leaves but whom the rooms let go. -/
lemma run_left {c tr t id p room_id} (r : HttpRun c tr)
    (hs : clear_signals id p room_id ∈ c.pending t) :
    ∃ now pre room, .ran t (leave_rooms id p room_id) now pre ∈ tr ∧
      (pre.world.rooms.leave room_id p now).1 = .ok room := by
  rcases r.pending_started t _ hs with ⟨⟨n, req⟩, pre, -, -, hb⟩ | ⟨s', now, pre, ran, hx⟩
  · cases req with
    | leave_room auth | post_signal auth | get_signals auth =>
      cases auth with
      | error => cases List.mem_singleton.mp hb
      | ok =>
        simp only [httpMachine, HttpRequest.body] at hb
        try split at hb
        all_goals cases List.mem_singleton.mp hb
    | room_op | purge => cases List.mem_singleton.mp hb
  · cases s' with
    | leave_rooms id' p' room_id' =>
      simp only [httpMachine, exec] at hx
      split at hx
      · rename_i room left
        cases List.mem_singleton.mp hx
        exact ⟨now, pre, room, ran, left⟩
      · cases hx
    | post_rooms =>
      simp only [httpMachine, exec, post_rooms_step] at hx
      split at hx
      · cases hx
      · split at hx
        · cases hx
        · cases List.mem_singleton.mp hx
    | get_rooms =>
      simp only [httpMachine, exec] at hx
      split at hx
      · cases hx
      · cases List.mem_singleton.mp hx
    | room_op =>
      simp only [httpMachine, exec] at hx
      split at hx <;> cases hx
    | _ => cases hx

/-- Clearing a mailbox spares the signals of other rooms if there are none. -/
lemma clear_spares_iff {g : SignalStore} {p room_id : String} :
    SparesOthers g (SignalStore.clear_player g p) p room_id ↔
      ∀ e ∈ g.mail p, e.room_id = room_id := by
  have cleared : (SignalStore.clear_player g p).mail p = [] :=
    SignalStore.mail_erase.trans (if_pos rfl)
  constructor
  · intro spared e he
    by_contra other
    have kept := spared.kept
    rw [cleared, List.filter_nil] at kept
    exact List.filter_eq_nil_iff.mp kept.symm e he (decide_eq_true other)
  · intro own
    constructor
    · rw [cleared, List.filter_nil]
      refine (List.filter_eq_nil_iff.mpr fun e he => ?_).symm
      simp [own e he]
    · intro other ne
      show ((SignalStore.clear_player g p).mail p).filter _ = _
      rw [cleared, List.filter_nil]
      refine (List.filter_eq_nil_iff.mpr fun e he => ?_).symm
      simp [own e he, Ne.symm ne]

/-- **Leaving.** In every state of a run in which the mailbox of a player is about to be cleared,
the player has left a room, and the signals of its other rooms are spared if and only if none of
them waits. -/
theorem leave_spares_iff {c tr} (r : HttpRun c tr) {t id p room_id rest}
    (e : c.pending t = clear_signals id p room_id :: rest) (now : Timestamp) :
    (∃ now pre room, .ran t (leave_rooms id p room_id) now pre ∈ tr ∧
      (pre.world.rooms.leave room_id p now).1 = .ok room) ∧
    (SparesOthers c.world.signals (exec (clear_signals id p room_id) now c.world).1.signals
        p room_id ↔
      ∀ x ∈ (ledger p tr).waiting, x.1.room_id = room_id) := by
  refine ⟨run_left r (e ▸ List.mem_cons_self), clear_spares_iff.trans ?_⟩
  rw [(run_accounts r p).1]
  exact List.forall_mem_map

/-- A signal comes to a player, who then leaves a room. -/
def leavesWith (room_id : String) : List (Interleave.Move Nat Timestamp (Nat × HttpRequest)) :=
  twoRooms "p" "q" ++ serve 2 (signal "p" room_id "offer") ++
    serve 1 (.leave_room (.ok "q") "a")

/-- Is a mailbox with signals of these rooms about to be cleared? -/
def aboutToClear (rooms : List String) (c : HttpSnapshot) : Bool :=
  (match c.pending 0 with
    | [clear_signals 0 "q" "a"] => true
    | _ => false) &&
  (c.world.signals.mail "q").map (·.room_id) = rooms

lemma leavesWith_run {room_id : String}
    (h : (httpMachine.follow (leavesWith room_id)).any fun x => aboutToClear [room_id] x.1) :
    ∃ c tr, HttpRun c tr ∧ c.pending 0 = [clear_signals 0 "q" "a"] ∧
      (c.world.signals.mail "q").map (·.room_id) = [room_id] := by
  obtain ⟨c, tr, r, ht, -⟩ := Machine.follow_reaches h
  obtain ⟨pending, mail⟩ := (Bool.and_eq_true _ _).mp ht
  refine ⟨c, tr, r, ?_, of_decide_eq_true mail⟩
  split at pending
  · assumption
  · cases pending

/-- With signals of the room alone the mailbox may be cleared. -/
theorem leave_spares_iff_own : ∃ c tr, HttpRun c tr ∧ c.world.signals.mail "q" ≠ [] ∧
    SparesOthers c.world.signals (exec (clear_signals 0 "q" "a") 0 c.world).1.signals "q" "a" := by
  obtain ⟨c, tr, r, pending, mail⟩ := @leavesWith_run "a" (by decide +kernel)
  refine ⟨c, tr, r, ?_, (leave_spares_iff r pending 0).2.mpr fun x hx => ?_⟩
  · intro none
    rw [none] at mail
    cases mail
  · have waits : x.1 ∈ c.world.signals.mail "q" :=
      (run_accounts r "q").1 ▸ List.mem_map_of_mem hx
    exact List.mem_singleton.mp (mail ▸ List.mem_map_of_mem waits)

/-- A signal of another room is cleared away. -/
theorem leave_clears_other : ¬ ∀ c tr t id p room_id rest now, HttpRun c tr →
    c.pending t = clear_signals id p room_id :: rest →
    SparesOthers c.world.signals (exec (clear_signals id p room_id) now c.world).1.signals
      p room_id := by
  intro all
  obtain ⟨c, tr, r, pending, mail⟩ := @leavesWith_run "b" (by decide +kernel)
  have own := clear_spares_iff.mp (all c tr 0 0 "q" "a" [] 0 r pending)
  have other : "b" ∈ (c.world.signals.mail "q").map (·.room_id) :=
    mail ▸ List.mem_singleton_self _
  obtain ⟨e, he, room⟩ := List.mem_map.mp other
  exact absurd (room.symm.trans (own e he)) (by decide)

end RecompNet.Http
