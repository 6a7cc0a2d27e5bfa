import RecompNet.Hub.Basics
import RecompNet.Hub.Calls
import RecompNet.Hub.Origin

/-!
# The task of a connection

What the task of a connection can have left to run. A connection is registered as long as its task has
anything to do; the welcome comes first and alone, the removal of the row comes last, and in between the
sections of a queue request run for the connection that asked. Once the connection is being taken apart,
only the sections that a departure starts are left.
-/

namespace RecompNet

open Section Interleave

/-- The sections that only an event starts, the last ones of their tasks. -/
def Section.final (s : Section) : Prop := s.kind ∈ [.welcome, .clients_remove]

/-- No section starts one of them. -/
lemma exec_not_final {srv s o w} : ∀ s' ∈ (exec srv s o w).2, ¬ s'.final := by
  intro s' hs
  have none : ∀ k ∈ s.calls, k ∉ [SectionKind.welcome, .clients_remove] := by
    cases s with
    | dispatch p ip msg => cases hop : msg.op <;> simp [hop]
    | _ => simp
  exact none _ (exec_calls _ hs)

/-- Nothing comes after a welcome and after the removal of a row, and a welcome comes first. -/
structure WellEnded (ss : List Section) : Prop where
  last : ∀ s ∈ ss.dropLast, ¬ s.final
  first : ∀ p, welcome p ∈ ss → ss = [welcome p]

lemma WellEnded.run {srv s o w rest} (h : WellEnded (s :: rest)) :
    WellEnded ((exec srv s o w).2 ++ rest) := by
  have fresh := @exec_not_final srv s o w
  constructor
  · intro s' hs
    cases rest with
    | nil =>
      rw [List.append_nil] at hs
      exact fresh s' (List.dropLast_subset _ hs)
    | cons r rest =>
      rw [List.dropLast_append_of_ne_nil (List.cons_ne_nil _ _), List.mem_append] at hs
      rcases hs with hs | hs
      · exact fresh s' hs
      · apply h.last
        rw [List.dropLast_cons_of_ne_nil (List.cons_ne_nil _ _)]
        exact List.mem_cons_of_mem _ hs
  · intro p hp
    rcases List.mem_append.mp hp with hp | hp
    · exact absurd (by simp [final]) (fresh _ hp)
    · have only := h.first p (List.mem_cons_of_mem _ hp)
      obtain ⟨-, none⟩ := List.cons.inj only
      rw [none] at hp
      cases hp

lemma body_wellEnded {e : Event} {w : World} : WellEnded (e.body w) := by
  cases e with
  | wake lid =>
    constructor
    · intro s hs
      obtain ⟨task, -, rfl⟩ := List.mem_map.mp (List.dropLast_subset _ hs)
      simp [final]
    · intro p hp
      obtain ⟨task, -, e⟩ := List.mem_map.mp hp
      cases e
  | _ => constructor <;> simp [Event.body, final]

/-- Every task is well ended. -/
theorem HubRun.wellEnded {srv c tr} (r : HubRun srv c tr) : ∀ t, WellEnded (c.pending t) :=
  Run.tasks (M := hubMachine srv) (A := fun _ ss => WellEnded ss)
    (fun _ => ⟨by simp, by simp⟩) WellEnded.run body_wellEnded r

/-- The removal of a row is the last section of its task. -/
lemma HubRun.removed_last {srv c tr} (r : HubRun srv c tr) {t s rest}
    (e : c.pending t = s :: rest) (hs : s.final) : rest = [] := by
  have ended := HubRun.wellEnded r t
  rw [e] at ended
  cases rest with
  | nil => rfl
  | cons s' rest =>
    refine absurd hs (ended.last s ?_)
    rw [List.dropLast_cons_of_ne_nil (List.cons_ne_nil _ _)]
    exact List.mem_cons_self

/-! ## Registered connections -/

/-- The row of a connection is only removed in its own task. -/
lemma HubRun.removes_own {srv c tr} (r : HubRun srv c tr) {t s rest q} (e : c.pending t = s :: rest)
    (hs : s = clients_remove q ∨ s = welcome q) : t = .conn q := by
  refine HubRun.actor_task r t s (e ▸ List.mem_cons_self) q ?_
  rcases hs with rfl | rfl <;> rfl

/-- An event keeps every connection. -/
lemma connected_apply {srv : Server} {w : World} {e : Event} {q} (hq : w.hub.connected q) :
    (e.apply srv w).hub.connected q := by
  cases e with
  | connect p ip =>
    show ((w.hub.clients.insert p (freshClient srv p ip)).lookup q).isSome
    by_cases h : q = p
    · rw [h, AList.lookup_insert]
      rfl
    · rw [AList.lookup_insert_ne h]
      exact hq
  | ws_ping p => exact (World.send_hub w p .empty).symm ▸ hq
  | _ => exact hq

/-- A connection whose task has anything left to run is registered. -/
theorem HubRun.alive {srv c tr} (r : HubRun srv c tr) :
    ∀ q, c.pending (.conn q) ≠ [] → c.world.hub.connected q := by
  apply r.induct (I := fun c _ => ∀ q, c.pending (.conn q) ≠ [] → c.world.hub.connected q)
  · intro q h
    exact absurd rfl h
  · intro c tr l c' r ih st q h
    cases st with
    | @run t s rest o e _ =>
      have before : c.pending (.conn q) ≠ [] := by
        by_cases ht : t = .conn q
        · rw [← ht, e]
          exact List.cons_ne_nil _ _
        · simpa only [Machine.afterRun, Function.update_of_ne (Ne.symm ht)] using h
      have spared : ¬ (s = clients_remove q ∨ s = welcome q) := by
        intro hs
        obtain rfl := HubRun.removes_own r e hs
        have done : rest = [] :=
          HubRun.removed_last r e (by rcases hs with rfl | rfl <;> simp [Section.final])
        apply h
        rcases hs with rfl | rfl <;> simp [Machine.afterRun, hubMachine, exec, done]
      obtain ⟨hr, hw⟩ := not_or.mp spared
      exact (exec_change srv s o (HubRun.basic r).sized).client_stays (ih q before) hr hw
    | @event e idle enabled =>
      by_cases ht : Event.task e = .conn q
      · cases e with
        | connect p ip =>
          obtain rfl := Tid.conn.inj ht
          show ((c.world.hub.clients.insert p (freshClient srv p ip)).lookup p).isSome
          rw [AList.lookup_insert]
          rfl
        | text | ws_ping | disconnect =>
          obtain rfl := Tid.conn.inj ht
          exact connected_apply (e := _) enabled
        | _ => cases ht
      · apply connected_apply
        apply ih
        simpa only [Machine.afterEvent, hubMachine, Function.update_of_ne (Ne.symm ht)] using h

/-! ## Departures -/

/-- The kinds of sections that a departure consists of. -/
def partingKinds : List SectionKind :=
  [.queue_remove, .settle_declined, .settle_notify, .requeue_if_here, .requeue_front, .client_leave,
    .destroy_lobby, .emit_lobby_update, .broadcast_list, .chat_system, .clients_remove,
    .send_to .lobby_update, .send_to .other]

/-- A departure starts nothing else. -/
lemma parting_calls {s : Section} (h : s.kind ∈ partingKinds) : ∀ k ∈ s.calls, k ∈ partingKinds := by
  unfold partingKinds at *
  cases s <;> simp at h ⊢

/-- When the removal of a row is pending, the rest of its task is the departure. -/
theorem HubRun.parting {srv c tr} (r : HubRun srv c tr) : ∀ t q, clients_remove q ∈ c.pending t →
    ∀ s ∈ c.pending t, s.kind ∈ partingKinds := by
  apply Run.tasks (M := hubMachine srv)
    (A := fun _ ss => ∀ q, clients_remove q ∈ ss → ∀ s ∈ ss, s.kind ∈ partingKinds) ?_ ?_ ?_ r
  · intro t q hq
    cases hq
  · intro t s rest o w h q hq s' hs'
    rcases List.mem_append.mp hq with hq | hq
    · exact absurd (by simp [final]) (exec_not_final _ hq)
    · have old := h q (List.mem_cons_of_mem _ hq)
      rcases List.mem_append.mp hs' with hs' | hs'
      · exact parting_calls (old s List.mem_cons_self) _ (exec_calls _ hs')
      · exact old s' (List.mem_cons_of_mem _ hs')
  · intro e w q hq s hs
    cases e <;> simp only [hubMachine, Event.body, List.mem_cons, List.mem_map, List.not_mem_nil,
      or_false, reduceCtorEq, and_false, exists_false, false_or] at hq hs
    case disconnect => rcases hs with rfl | rfl | rfl <;> simp [partingKinds]

/-! ## Queue requests -/

/-- The connection that a message comes from, up to the push of its ticket. -/
def Section.asker : Section → Option String
  | handle_text p .. | dispatch p .. => some p
  | queue_account req | queue_game req | queue_cooldown req _ | queue_waiting req _
  | queue_blocks req _ | queue_ticket req .. => some req.player_id
  | queue_push _ ticket => some ticket.player_id
  | _ => none

lemma queueTitles_asker {srv req titles s' p} (hs : s' ∈ queueTitles srv req titles)
    (h : s'.asker = some p) : req.player_id = p := by
  unfold queueTitles at hs
  split at hs <;> cases List.mem_singleton.mp hs
  · cases h
  · cases h
  · exact Option.some.inj h

/-- The kinds of sections that come from a message, up to the push of its ticket. -/
def askerKinds : List SectionKind :=
  [.handle_text, .dispatch, .queue_account, .queue_game, .queue_cooldown, .queue_waiting,
    .queue_blocks, .queue_ticket, .queue_push]

lemma asker_kind {s : Section} {p} (h : s.asker = some p) : s.kind ∈ askerKinds := by
  cases s with
  | handle_text | dispatch | queue_account | queue_game | queue_cooldown | queue_waiting
  | queue_blocks | queue_ticket | queue_push => simp [askerKinds]
  | _ => cases h

/-- A section of a request is started by one of the same request. -/
lemma exec_asker {srv s o w s' p} (hs : s' ∈ (exec srv s o w).2) (h : s'.asker = some p) :
    s.asker = some p := by
  have called : ¬ ∀ k ∈ s.calls, k ∉ askerKinds :=
    fun none => none _ (exec_calls _ hs) (asker_kind h)
  cases s with
  | handle_text q ip text =>
    simp only [exec, World.lift, handle_text_step] at hs
    split at hs
    · cases List.mem_singleton.mp hs
      cases h
    · split at hs
      · cases List.mem_singleton.mp hs
        cases h
      · split at hs
        · cases hs
        · cases List.mem_singleton.mp hs
          exact h
  | dispatch q ip msg =>
    cases hop : msg.op with
    | automatch_queue =>
      simp only [exec, World.lift, dispatch_step, hop] at hs
      unfold handle_automatch_queue at hs
      repeat' split at hs
      all_goals first
        | cases hs; done
        | cases List.mem_singleton.mp hs
      all_goals first
        | exact h
        | cases h
    | _ => exact absurd (by simp [hop, askerKinds]) called
  | queue_account req =>
    simp only [exec, queue_account_step] at hs
    split_ifs at hs
    · cases List.mem_singleton.mp hs
      cases h
    · cases List.mem_singleton.mp hs
      cases h
    · split at hs
      · cases List.mem_singleton.mp hs
        exact h
      · exact congrArg some (queueTitles_asker hs h)
  | queue_game req =>
    simp only [exec, queue_game_step] at hs
    exact congrArg some (queueTitles_asker hs h)
  | queue_cooldown | queue_waiting =>
    simp only [exec, queue_cooldown_step, queue_waiting_step] at hs
    split at hs <;> cases List.mem_singleton.mp hs
    · cases h
    · exact h
  | queue_ticket req keys blocks =>
    simp only [exec, queue_ticket_step] at hs
    split at hs
    · cases List.mem_singleton.mp hs
      cases h
    · rename_i t ht
      cases List.mem_singleton.mp hs
      obtain ⟨e, -, rfl⟩ := Option.map_eq_some_iff.mp ht
      exact h
  | queue_blocks req keys =>
    cases List.mem_singleton.mp hs
    exact h
  | _ => exact absurd (by simp [askerKinds]) called

/-- The sections of a request run in the task of the connection that asked. -/
theorem HubRun.asker_task {srv c tr} (r : HubRun srv c tr) :
    ∀ t, ∀ s ∈ c.pending t, ∀ p, s.asker = some p → t = .conn p := by
  apply Run.tasks (M := hubMachine srv)
    (A := fun t ss => ∀ s ∈ ss, ∀ p, s.asker = some p → t = .conn p) ?_ ?_ ?_ r
  · intro t s hs
    cases hs
  · intro t s rest o w h s' hs p hp
    rcases List.mem_append.mp hs with hs | hs
    · exact h s List.mem_cons_self p (exec_asker hs hp)
    · exact h s' (List.mem_cons_of_mem _ hs) p hp
  · intro e w s hs p hp
    cases e <;> simp only [hubMachine, Event.body, List.mem_cons, List.mem_map, List.not_mem_nil,
      or_false] at hs
    case text =>
      subst hs
      cases hp
      rfl
    case connect | list_tick =>
      subst hs
      cases hp
    case disconnect | automatch_tick => rcases hs with rfl | rfl | rfl <;> cases hp
    case wake =>
      obtain ⟨task, -, rfl⟩ := hs
      cases hp

end RecompNet
