import RecompNet.Hub.Tasks

/-!
# Requests under way

A create and a join are checked in the section that dispatches the message and carried out in another, with
the rename that they may ask for between the two; a request to queue passes six sections from its check to
the push of its ticket. `exec_enters` says what the check of the first two found; from a message to the
section that it leads to, the task of its client has nothing else to run.
-/

namespace RecompNet

open Section Interleave

/-- The client that a section puts into the room that it creates or joins. -/
def Section.enters : Section → Option String
  | create_insert p .. | join_seat p .. => some p
  | _ => none

/-- A create or a join of the client has passed its check and is still to be carried out. -/
def Entering (c : HubSnapshot) (p : String) : Prop :=
  ∃ s ∈ c.pending (.conn p), s.enters = some p

lemma Section.enters_actor {s : Section} {p} (h : s.enters = some p) : s.actor = some p := by
  cases s with
  | create_insert | join_seat => exact h
  | _ => cases h

/-! ## What the checks found -/

/-- A create is refused, or passes on to its insertion, after the rename that it may ask for. -/
lemma handle_create_cases (g : HubInner) (p ip : String) (msg : InMsg) :
    (∃ m, (handle_create g p ip msg).2 = [send_to p m]) ∨
      g.lobby_id_of p = none ∧ g.lobbies.size < MAX_LOBBIES ∧ ∃ front,
        (handle_create g p ip msg).2 = front ++ [create_insert p ip msg] ∧
          ∀ x ∈ front, x.kind = .set_display_name := by
  unfold handle_create
  split_ifs with seated full
  · exact .inl ⟨_, rfl⟩
  · exact .inl ⟨_, rfl⟩
  · refine .inr ⟨by simpa using seated, not_le.mp full, _, rfl, ?_⟩
    cases Text.nonempty msg.display_name with
    | none => exact List.forall_mem_nil _
    | some dn => exact List.forall_mem_singleton.mpr rfl

/-- A join is refused, or passes on to its seat, after the rename that it may ask for. -/
lemma handle_join_cases (g : HubInner) (p ip : String) (msg : InMsg) :
    (∃ m, (handle_join g p ip msg).2 = [send_to p m]) ∨
      g.lobby_id_of p = none ∧ ∃ lid front,
        (handle_join g p ip msg).2 = front ++ [join_seat p ip lid msg] ∧
          ∀ x ∈ front, x.kind = .set_display_name := by
  unfold handle_join
  split
  · exact .inl ⟨_, rfl⟩
  · split_ifs with seated
    · exact .inl ⟨_, rfl⟩
    · refine .inr ⟨by simpa using seated, _, _, rfl, ?_⟩
      cases Text.nonempty msg.display_name with
      | none => exact List.forall_mem_nil _
      | some dn => exact List.forall_mem_singleton.mpr rfl

/-- What enters a room is none of the renames before it. -/
lemma enters_last {front : List Section} {s s' : Section} {p}
    (renames : ∀ x ∈ front, x.kind = .set_display_name) (hs : s' ∈ front ++ [s])
    (h : s'.enters = some p) : s' = s := by
  rcases List.mem_append.mp hs with hs | hs
  · have kind := renames s' hs
    cases s' with
    | set_display_name => cases h
    | _ => cases kind
  · exact List.mem_singleton.mp hs

/-- Where a create or a join comes from: the dispatch of its message, which found the client in no room and,
for a create, the table below the limit. It comes last of what the dispatch starts. -/
theorem exec_enters {srv s o w s' p} (hs : s' ∈ (exec srv s o w).2) (h : s'.enters = some p) :
    ∃ ip msg front, s = dispatch p ip msg ∧ w.hub.lobby_id_of p = none ∧
      (s'.kind = .create_insert → s' = create_insert p ip msg ∧
        w.hub.lobbies.size < MAX_LOBBIES) ∧
      (exec srv s o w).2 = front ++ [s'] ∧ ∀ x ∈ front, x.kind = .set_display_name := by
  have from_dispatch : ∃ ip msg, s = dispatch p ip msg := by
    have em := exec_emits _ hs
    cases em with
    | plain hp =>
      cases s' with
      | create_insert | join_seat => cases hp
      | _ => cases h
    | create | join =>
      cases h
      exact ⟨_, _, rfl⟩
    | _ => cases h
  obtain ⟨ip, msg, rfl⟩ := from_dispatch
  have called : ¬ ∀ k ∈ (dispatch p ip msg).calls, k ∉ [.create_insert, .join_seat] := by
    intro none
    refine none _ (exec_calls _ hs) ?_
    cases s' with
    | create_insert | join_seat => simp
    | _ => cases h
  have unsent : ∀ {m}, s' ∉ [send_to p m] := by
    intro m hr
    rw [List.mem_singleton.mp hr] at h
    cases h
  cases hop : msg.op with
  | create =>
    have run : (exec srv (dispatch p ip msg) o w).2 = (handle_create w.hub p ip msg).2 := by
      simp only [exec, World.lift, dispatch_step, hop]
    rw [run] at hs ⊢
    rcases handle_create_cases w.hub p ip msg with ⟨m, e⟩ | ⟨outside, below, front, e, renames⟩
    · exact absurd (e ▸ hs) unsent
    · obtain rfl := enters_last renames (e ▸ hs) h
      exact ⟨ip, msg, front, rfl, outside, fun _ => ⟨rfl, below⟩, e, renames⟩
  | join =>
    have run : (exec srv (dispatch p ip msg) o w).2 = (handle_join w.hub p ip msg).2 := by
      simp only [exec, World.lift, dispatch_step, hop]
    rw [run] at hs ⊢
    rcases handle_join_cases w.hub p ip msg with ⟨m, e⟩ | ⟨outside, lid, front, e, renames⟩
    · exact absurd (e ▸ hs) unsent
    · obtain rfl := enters_last renames (e ▸ hs) h
      refine ⟨ip, msg, front, rfl, outside, fun created => ?_, e, renames⟩
      cases created
  | _ => exact absurd (by simp [hop]) called

/-! ## The task of the client -/

/-- The sections from the check of a request to queue to the push of its ticket. -/
def queueingKinds : List SectionKind :=
  [.queue_account, .queue_game, .queue_cooldown, .queue_waiting, .queue_blocks, .queue_ticket,
    .queue_push]

/-- The sections from a message to the create, the join or the push of a ticket that it leads to. -/
def openingKinds : List SectionKind :=
  [.handle_text, .dispatch, .create_insert, .join_seat] ++ queueingKinds

/-- Nothing is left after such a section, and nothing but a rename before it. -/
def OpensLast (ss : List Section) : Prop :=
  ∀ s ∈ ss, s.kind ∈ openingKinds →
    ∃ front, ss = front ++ [s] ∧ ∀ x ∈ front, x.kind = .set_display_name

lemma OpensLast.head {s rest} (h : OpensLast (s :: rest)) (hk : s.kind ∈ openingKinds) :
    rest = [] := by
  obtain ⟨front, e, renames⟩ := h s List.mem_cons_self hk
  cases front with
  | nil => exact (List.cons.inj e).2
  | cons x front =>
    obtain rfl := (List.cons.inj e).1
    rw [renames s List.mem_cons_self] at hk
    simp [openingKinds, queueingKinds] at hk

/-- A section that comes before one of them is the rename. -/
lemma OpensLast.before {s s' rest} (h : OpensLast (s :: rest)) (hs : s' ∈ rest)
    (hk : s'.kind ∈ openingKinds) : s.kind = .set_display_name := by
  obtain ⟨front, e, renames⟩ := h s' (List.mem_cons_of_mem _ hs) hk
  cases front with
  | nil =>
    rw [(List.cons.inj e).2] at hs
    cases hs
  | cons x front =>
    obtain rfl := (List.cons.inj e).1
    exact renames s List.mem_cons_self

lemma Section.enters_opening {s : Section} {p} (h : s.enters = some p) : s.kind ∈ openingKinds := by
  cases s with
  | create_insert | join_seat => simp [openingKinds]
  | _ => cases h

lemma Section.queueing_opening {s : Section} (h : s.kind ∈ queueingKinds) :
    s.kind ∈ openingKinds :=
  List.mem_append_right _ h

/-- A section that starts one at most starts nothing else. -/
lemma started_alone {ss : List Section} {s : Section} (hs : s ∈ ss) (few : ss.length ≤ 1) :
    ss = [s] := by
  obtain ⟨x, rfl⟩ := List.length_eq_one_iff.mp (le_antisymm few (List.length_pos_of_mem hs))
  rw [List.mem_singleton.mp hs]

/-- The gates on a request answer it or pass it on. -/
lemma queueTitles_alone (srv : Server) (req : QueueRequest) (titles : List InTitle) :
    (queueTitles srv req titles).length ≤ 1 := by
  unfold queueTitles
  split <;> exact le_rfl

/-- A request to queue is answered or passed on, by a section that starts nothing else. -/
lemma exec_queueing {srv s o w s'} (hs : s' ∈ (exec srv s o w).2) (hk : s'.kind ∈ queueingKinds) :
    s.kind ∈ openingKinds ∧ (exec srv s o w).2 = [s'] := by
  have called : ¬ ∀ k ∈ s.calls, k ∉ queueingKinds := fun none => none _ (exec_calls _ hs) hk
  have titles := queueTitles_alone srv
  cases s with
  | dispatch p ip msg =>
    cases hop : msg.op with
    | automatch_queue =>
      refine ⟨by simp [openingKinds], started_alone hs ?_⟩
      simp only [exec, World.lift, dispatch_step, hop]
      unfold handle_automatch_queue
      repeat' split
      all_goals simp [refuse]
    | _ => exact absurd (by simp [hop, queueingKinds]) called
  | queue_account req =>
    refine ⟨by simp [openingKinds, queueingKinds], started_alone hs ?_⟩
    simp only [exec, queue_account_step]
    repeat' split
    all_goals first
      | exact titles _ _
      | exact le_rfl
  | queue_game req =>
    refine ⟨by simp [openingKinds, queueingKinds], started_alone hs ?_⟩
    simp only [exec, queue_game_step]
    exact titles _ _
  | queue_cooldown | queue_waiting | queue_ticket =>
    refine ⟨by simp [openingKinds, queueingKinds], started_alone hs ?_⟩
    simp only [exec, queue_cooldown_step, queue_waiting_step, queue_ticket_step]
    split <;> exact le_rfl
  | queue_blocks => exact ⟨by simp [openingKinds, queueingKinds], started_alone hs le_rfl⟩
  | _ => exact absurd (by simp [queueingKinds]) called

/-- Only a message's handler starts one of them, and starts it last. -/
lemma exec_opening {srv s o w s'} (hs : s' ∈ (exec srv s o w).2) (hk : s'.kind ∈ openingKinds) :
    s.kind ∈ openingKinds ∧
      ∃ front, (exec srv s o w).2 = front ++ [s'] ∧ ∀ x ∈ front, x.kind = .set_display_name := by
  by_cases queueing : s'.kind ∈ queueingKinds
  · obtain ⟨opening, alone⟩ := exec_queueing hs queueing
    exact ⟨opening, [], alone, List.forall_mem_nil _⟩
  by_cases enters : ∃ p, s'.enters = some p
  · obtain ⟨p, hp⟩ := enters
    obtain ⟨ip, msg, front, rfl, -, -, e, renames⟩ := exec_enters hs hp
    exact ⟨by simp [openingKinds], front, e, renames⟩
  have first : s'.kind ∈ [.handle_text, .dispatch, .create_insert, .join_seat] :=
    (List.mem_append.mp hk).resolve_right queueing
  have em := exec_emits _ hs
  cases s' with
  | create_insert p | join_seat p => exact absurd ⟨p, rfl⟩ enters
  | dispatch p ip msg =>
    have called : ¬ ∀ k ∈ s.calls, k ≠ .dispatch := fun none => none _ (exec_calls _ hs) rfl
    cases s with
    | handle_text q ip' text =>
      refine ⟨by simp [openingKinds], [], started_alone hs ?_, List.forall_mem_nil _⟩
      simp only [exec, World.lift, handle_text_step]
      repeat' split
      all_goals first
        | exact le_rfl
        | exact Nat.zero_le 1
    | dispatch q ip' msg' =>
      cases em with
      | plain hp => cases hp
    | _ => exact absurd (by simp) called
  | handle_text p ip text =>
    cases em with
    | plain hp => cases hp
  | _ => simp at first

/-- What a connection's message leads to is all that its task has left to run. -/
theorem HubRun.opens_last {srv c tr} (r : HubRun srv c tr) : ∀ t, OpensLast (c.pending t) := by
  apply Run.tasks (M := hubMachine srv) (A := fun _ ss => OpensLast ss) ?_ ?_ ?_ r
  · intro t s hs
    cases hs
  · intro t s rest o w h s' hs' hk
    rcases List.mem_append.mp hs' with new | old
    · obtain ⟨opening, front, e, renames⟩ := exec_opening new hk
      rw [h.head opening, List.append_nil]
      exact ⟨front, e, renames⟩
    · -- The rename before it starts nothing.
      have silent : ((hubMachine srv).exec s o w).2 = [] := by
        have hx := h.before old hk
        cases s with
        | set_display_name => rfl
        | _ => cases hx
      obtain ⟨front, e, renames⟩ := h s' (List.mem_cons_of_mem _ old) hk
      rw [silent]
      cases front with
      | nil =>
        rw [(List.cons.inj e).2] at old
        cases old
      | cons x front =>
        exact ⟨front, (List.cons.inj e).2, fun y hy => renames y (List.mem_cons_of_mem _ hy)⟩
  · intro e w s hs hk
    cases e <;> simp only [hubMachine, Event.body, List.mem_cons, List.mem_map, List.not_mem_nil,
      or_false] at hs
    case text =>
      subst hs
      exact ⟨[], rfl, List.forall_mem_nil _⟩
    case connect | list_tick =>
      subst hs
      simp [openingKinds, queueingKinds] at hk
    case disconnect | automatch_tick =>
      rcases hs with rfl | rfl | rfl <;> simp [openingKinds, queueingKinds] at hk
    case wake =>
      obtain ⟨task, -, rfl⟩ := hs
      simp [openingKinds, queueingKinds] at hk

/-- A connection that is being taken apart is not on its way into a room. -/
lemma HubRun.entering_stays {srv c tr} (r : HubRun srv c tr) {p} (h : Entering c p) :
    clients_remove p ∉ c.pending (.conn p) := by
  obtain ⟨s, hs, hp⟩ := h
  intro hr
  have kind : s.kind ∈ partingKinds := HubRun.parting r _ p hr s hs
  cases s with
  | create_insert | join_seat => simp [partingKinds] at kind
  | _ => cases hp

end RecompNet
