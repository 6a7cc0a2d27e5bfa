import RecompNet.Automatch.Settling
import RecompNet.Hub.Basics
import RecompNet.Hub.Calls

/-!
# Tickets under way

A ticket is made when a connection queues and then travels: through the queue, in the sections that
settle an offer or form its match, and in the start task of the match, which may put it back.
`HubRun.tickets_keep` is the rule for what holds of every ticket wherever it is.
-/

namespace RecompNet

open Section Interleave

/-- The tickets that the start of a match carries. -/
def Starter.tickets : Starter → List Ticket
  | .host _ _ => []
  | .server task => [task.a, task.b]

/-- The tickets that a section carries. -/
def Section.tickets : Section → List Ticket
  | queue_push _ t | requeue_if_here t _ | requeue_front t => [t]
  | settle_declined p _ _ | settle_notify p _ _ | form_match p | form_match_gone p => [p.a, p.b]
  | form_match_room plan => [plan.p.a, plan.p.b]
  | form_match_spawn task => [task.a, task.b]
  | start_prepare st .. | start_commit st .. | start_failed st .. => st.tickets
  | _ => []

/-- The kinds of sections that carry tickets. -/
def carrierKinds : List SectionKind :=
  [.queue_push, .requeue_if_here, .requeue_front, .settle_declined, .settle_notify, .form_match,
    .form_match_gone, .form_match_room, .form_match_spawn, .start_prepare, .start_commit,
    .start_failed]

lemma carrier_kind {s : Section} {x} (h : x ∈ s.tickets) : s.kind ∈ carrierKinds := by
  cases s with
  | queue_push | requeue_if_here | requeue_front | settle_declined | settle_notify | form_match
  | form_match_gone | form_match_room | form_match_spawn | start_prepare | start_commit
  | start_failed => simp [carrierKinds]
  | _ => cases h

/-- Both sides of an offer of the queue are in it. -/
lemma QueueInner.every_side (g : QueueInner) : g.Every (· ∈ g.sides) where
  tickets := fun _ ht => List.mem_append_left _ ht
  pending := by
    intro p hp x
    apply List.mem_append_right
    refine List.mem_flatMap.mpr ⟨p, hp, ?_⟩
    cases x
    · exact List.mem_cons_of_mem _ List.mem_cons_self
    · exact List.mem_cons_self

/-- The offers that a step takes out of the queue. -/
def taken (srv : Server) : HubLabel → List Pending
  | .ran _ (queue_answer p accept id) _ pre =>
    (pre.world.automatch.answer_for p accept id).2.toList
  | .ran _ (queue_remove p) _ pre => (pre.world.automatch.remove_player p).2.toList
  | .ran _ take_expired _ pre =>
    (pre.world.automatch.take_expired srv.automatch_accept_secs pre.world.now).2
  | _ => []

/-- A ticket of a pair is that of a side. -/
lemma Pending.mem_pair {p : Pending} {x : Ticket} (h : x ∈ [p.a, p.b]) : ∃ y, x = p.ticket y := by
  rcases List.mem_pair.mp h with rfl | rfl
  · exact ⟨true, rfl⟩
  · exact ⟨false, rfl⟩

/-- The sides of an offer that is taken out were in the queue. -/
lemma taken_sides {srv t s o x} {pre : HubSnapshot} {p : Pending}
    (hp : p ∈ taken srv (.ran t s o pre)) (hx : x ∈ [p.a, p.b]) : x ∈ pre.world.automatch.sides := by
  have every := pre.world.automatch.every_side
  obtain ⟨y, rfl⟩ := Pending.mem_pair hx
  cases s with
  | queue_answer q accept id => exact (every.answer_for q accept id).2 p (Option.mem_toList.mp hp) y
  | queue_remove q => exact (every.remove_player q).2 p (Option.mem_toList.mp hp) y
  | take_expired => exact (every.take_expired srv.automatch_accept_secs pre.world.now).2 p hp y
  | _ => cases hp

/-- A ticket that a section hands on is one that it carries, one of an offer that it takes out of the queue,
or the one that a connection has just asked for. -/
lemma exec_tickets {srv t s o s' x} {pre : HubSnapshot} (hs : s' ∈ (exec srv s o pre.world).2)
    (h : x ∈ s'.tickets) :
    x ∈ s.tickets ∨ (∃ p ∈ taken srv (.ran t s o pre), x ∈ [p.a, p.b]) ∨
      ∃ req keys blocks, s = queue_ticket req keys blocks ∧
        ticketOf srv pre.world req keys blocks = some x := by
  have called : ¬ ∀ k ∈ s.calls, k ∉ carrierKinds :=
    fun none => none _ (exec_calls _ hs) (carrier_kind h)
  cases s with
  | dispatch p ip msg =>
    cases hop : msg.op with
    | start =>
      simp only [exec, World.lift, dispatch_step, hop] at hs
      unfold handle_start at hs
      repeat' split at hs
      all_goals cases List.mem_singleton.mp hs
      all_goals cases h
    | _ => exact absurd (by simp [hop, carrierKinds]) called
  | queue_ticket req keys blocks =>
    refine .inr (.inr ⟨req, keys, blocks, rfl, ?_⟩)
    simp only [exec, queue_ticket_step] at hs
    split at hs
    · cases List.mem_singleton.mp hs
      cases h
    · rename_i t ht
      cases List.mem_singleton.mp hs
      rw [List.mem_singleton.mp h]
      exact ht
  | queue_remove p =>
    simp only [exec, queue_remove_step] at hs
    split at hs
    · cases hs
    · rename_i g' pd hpd
      cases List.mem_singleton.mp hs
      exact .inr (.inl ⟨pd, by simp [taken, hpd], h⟩)
  | queue_answer p accept id =>
    simp only [exec, queue_answer_step] at hs
    split at hs
    · cases hs
    · rename_i g' pd hpd
      split at hs <;> cases List.mem_singleton.mp hs
      all_goals exact .inr (.inl ⟨pd, by simp [taken, hpd], h⟩)
  | take_expired =>
    simp only [exec, take_expired_step, settle_expired, List.mem_flatMap] at hs
    obtain ⟨pd, hpd, hs⟩ := hs
    split at hs
    · simp only [List.mem_flatMap, List.mem_cons, List.not_mem_nil, or_false] at hs
      obtain ⟨t, -, rfl | rfl⟩ := hs <;> cases h
    · cases List.mem_singleton.mp hs
      exact .inr (.inl ⟨pd, hpd, h⟩)
  | settle_declined p loser kind =>
    cases List.mem_singleton.mp hs
    exact .inl h
  | settle_notify p loser kind =>
    simp only [exec, settle_notify_step, Pending.loserFirst, List.mem_cons, List.not_mem_nil,
      or_false] at hs
    rcases hs with rfl | rfl
    · cases h
    · left
      split at h <;> cases List.mem_singleton.mp h <;> simp [tickets]
  | requeue_if_here t reason =>
    simp only [exec, requeue_if_here_step] at hs
    split at hs
    · simp only [List.mem_cons, List.not_mem_nil, or_false] at hs
      rcases hs with rfl | rfl
      · exact .inl h
      · cases h
    · cases hs
  | form_match p =>
    simp only [exec, form_match_step] at hs
    split at hs
    · cases hs
    · split at hs
      · cases hs
      · cases List.mem_singleton.mp hs
        exact .inl h
  | form_match_room plan =>
    simp only [exec, form_match_room_step] at hs
    split_ifs at hs
    · simp only [List.map_cons, List.map_nil, List.mem_cons, List.not_mem_nil, or_false] at hs
      rcases hs with rfl | rfl <;> cases h
    · cases List.mem_singleton.mp hs
      exact .inl h
    · simp only [List.mem_cons, List.not_mem_nil, or_false] at hs
      rcases hs with rfl | rfl | rfl | rfl
      · cases h
      · cases h
      · cases h
      · exact .inl h
  | form_match_gone p =>
    cases List.mem_singleton.mp hs
    left
    cases List.mem_singleton.mp h
    split_ifs <;> simp [tickets]
  | start_prepare st lid caps ice =>
    simp only [exec, World.lift, start_prepare_step] at hs
    repeat' split at hs
    all_goals
      cases List.mem_singleton.mp hs
      exact .inl h
  | start_commit st lid caps sid specs tr ice =>
    simp only [exec, World.lift, start_commit_step] at hs
    split at hs
    · cases List.mem_singleton.mp hs
      exact .inl h
    · obtain ⟨m, -, rfl⟩ := List.mem_map.mp hs
      cases h
  | start_failed st lid ice code =>
    simp only [exec, start_failed_step] at hs
    split at hs
    · split_ifs at hs <;> cases List.mem_singleton.mp hs <;> cases h
    · split_ifs at hs
      · cases List.mem_singleton.mp hs
        cases h
      · simp only [List.mem_cons, List.not_mem_nil, or_false] at hs
        rcases hs with rfl | rfl | rfl
        · cases h
        · cases List.mem_singleton.mp h
          simp [tickets, Starter.tickets]
        · cases List.mem_singleton.mp h
          simp [tickets, Starter.tickets]
      · cases hs
      · cases List.mem_singleton.mp hs
        exact .inl h
  | _ => exact absurd (by simp [carrierKinds]) called

/-! ## What holds of every ticket -/

/-- The tickets of a snapshot all have a property. -/
structure TicketsKeep (P : Ticket → Prop) (c : HubSnapshot) : Prop where
  queue : c.world.automatch.Every P
  pending : Holds (fun _ _ s => ∀ x ∈ s.tickets, P x) c
  spawned : ∀ lid task, c.world.spawned.lookup lid = some task → P task.a ∧ P task.b

/-- What holds of every ticket that is asked for in a run, and does not depend on its measurement and its
time, holds of every ticket. -/
theorem HubRun.asked_tickets_keep {P : Ticket → Prop} {srv c tr} (r : HubRun srv c tr)
    (asked : ∀ t req keys blocks o pre x, .ran t (queue_ticket req keys blocks) o pre ∈ tr →
      ticketOf srv pre.world req keys blocks = some x → P x)
    (queued : ∀ x now, P x → P { x with queued_at := now })
    (measured : ∀ x rtt, P x → P { x with rtt_ms := rtt }) : TicketsKeep P c := by
  revert asked
  apply r.induct (I := fun c tr => (∀ t req keys blocks o pre x,
    .ran t (queue_ticket req keys blocks) o pre ∈ tr →
      ticketOf srv pre.world req keys blocks = some x → P x) → TicketsKeep P c)
  · intro _
    refine ⟨⟨?_, ?_⟩, Holds.start _, ?_⟩
    · exact fun x hx => (List.not_mem_nil hx).elim
    · exact fun p hp => (List.not_mem_nil hp).elim
    · intro lid task asleep
      cases asleep
  · intro c tr l c' r ih st asked
    have ih := ih fun t req keys blocks o pre x h => asked t req keys blocks o pre x
      (List.mem_cons_of_mem _ h)
    cases st with
    | @run t s rest o e _ =>
      have own : ∀ x ∈ s.tickets, P x := ih.pending t s (e ▸ List.mem_cons_self)
      have side : ∀ x ∈ c.world.automatch.sides, P x := by
        intro x hx
        rcases List.mem_append.mp hx with hx | hx
        · exact ih.queue.tickets x hx
        · obtain ⟨p, hp, hx⟩ := List.mem_flatMap.mp hx
          obtain ⟨y, rfl⟩ := Pending.mem_pair hx
          exact ih.queue.pending p hp y
      refine ⟨?_, ih.pending.run e (fun _ _ _ h => h) ?_, ?_⟩
      · -- the queue
        show (exec srv s o c.world).1.automatch.Every P
        rw [exec_automatch]
        cases s with
        | queue_push req x => exact ih.queue.push (own x List.mem_cons_self)
        | queue_set_rtt p rtt => exact ih.queue.set_rtt fun x hx => measured x rtt hx
        | queue_remove p => exact (ih.queue.remove_player p).1
        | queue_answer p accept id => exact (ih.queue.answer_for p accept id).1
        | requeue_front x => exact ih.queue.requeue_front (queued x _ (own x List.mem_cons_self))
        | take_expired => exact (ih.queue.take_expired srv.automatch_accept_secs c.world.now).1
        | run_pairing => exact ih.queue.pair _ _ _
        | form_match p => exact ih.queue.note_pairing
        | _ => exact ih.queue
      · -- the sections that it starts
        intro s' hs' x hx
        rcases exec_tickets (t := t) hs' hx with hx | hx | ⟨req, keys, blocks, rfl, made⟩
        · exact own x hx
        · obtain ⟨p, hp, hx⟩ := hx
          exact side x (taken_sides hp hx)
        · exact asked t req keys blocks o c x List.mem_cons_self made
      · -- the start tasks that sleep
        intro lid task ht
        rcases spawned_exec ht with ht | ⟨old, hs, ha, hb⟩
        · exact ih.spawned lid task ht
        · rw [ha, hb]
          rcases hs with rfl | ⟨lid', ice, code, rfl⟩
          · exact ⟨own _ List.mem_cons_self, own _ (List.mem_cons_of_mem _ List.mem_cons_self)⟩
          · exact ⟨own _ List.mem_cons_self, own _ (List.mem_cons_of_mem _ List.mem_cons_self)⟩
    | @event e _ _ =>
      refine ⟨?_, ih.pending.event (fun _ _ _ h => h) ?_, ?_⟩
      · exact (apply_automatch srv c.world e) ▸ ih.queue
      · intro s hs x hx
        rcases body_cases hs with kind | ⟨lid, task, rfl, ht, rfl⟩
        · have none : ∀ k ∈ eventKinds, k ∉ carrierKinds := by decide
          exact absurd (carrier_kind hx) (none _ kind)
        · obtain ⟨ha, hb⟩ := ih.spawned lid task ht
          rcases List.mem_pair.mp hx with rfl | rfl
          · exact ha
          · exact hb
      · intro lid task ht
        apply ih.spawned lid task
        cases e with
        | wake lid' => exact (lookup_erase_back ht).2
        | ws_ping p => exact World.send_spawned c.world p .empty ▸ ht
        | _ => exact ht

/-- What holds of every ticket that can be asked for holds of every ticket. -/
theorem HubRun.tickets_keep {P : Ticket → Prop} {srv c tr} (r : HubRun srv c tr)
    (asked : ∀ w req keys blocks x, ticketOf srv w req keys blocks = some x → P x)
    (queued : ∀ x now, P x → P { x with queued_at := now })
    (measured : ∀ x rtt, P x → P { x with rtt_ms := rtt }) : TicketsKeep P c :=
  r.asked_tickets_keep (fun _ req keys blocks _ pre x _ => asked pre.world req keys blocks x) queued
    measured

end RecompNet
