import RecompNet.Hub.Passes
import RecompNet.Hub.Tasks
import RecompNet.Hub.Tickets

/-!
# Tickets and their sockets

A ticket must not outlive its socket. The cleanup of a disconnect takes a connection out of the queue
once, before its row goes; the paths that put a ticket back look for the row in one section and insert
in a later one. `Section.carries` follows the tickets under way, and the run keeps every ticket on a
registered connection when no insertion comes after the cleanup and the cleanup finds no second offer.
-/

namespace RecompNet

open Section Interleave

/-- The connections whose tickets the start of a match carries. -/
def Starter.carries : Starter → List String
  | .host _ _ => []
  | .server task => [task.a.player_id, task.b.player_id]

/-- The connections whose tickets a section carries. -/
def Section.carries : Section → List String
  | queue_push _ t | requeue_if_here t _ | requeue_front t => [t.player_id]
  | settle_declined p _ _ | settle_notify p _ _ | form_match p | form_match_gone p =>
    [p.a.player_id, p.b.player_id]
  | form_match_room plan => [plan.p.a.player_id, plan.p.b.player_id]
  | form_match_spawn task => [task.a.player_id, task.b.player_id]
  | start_prepare st .. | start_commit st .. | start_failed st .. => st.carries
  | _ => []

/-- They are those of its tickets. -/
lemma Section.carries_eq (s : Section) : s.carries = s.tickets.map (·.player_id) := by
  cases s with
  | start_prepare st | start_commit st | start_failed st => cases st <;> rfl
  | _ => rfl

/-- The connections in the queue. -/
def QueueInner.players (g : QueueInner) : List String := g.sides.map (·.player_id)

lemma QueueInner.players_eq_roll (g : QueueInner) : g.players = g.roll.map Prod.snd := by
  simp only [players, roll, List.map_map]
  rfl

/-- A ticket that a section hands on is one that it carries, one from the queue, or the one that a
connection has just asked for. -/
lemma exec_carries {srv s o s' q} {pre : HubSnapshot} (hs : s' ∈ (exec srv s o pre.world).2)
    (h : q ∈ s'.carries) : q ∈ s.carries ∨ q ∈ pre.world.automatch.players ∨
      ∃ req keys blocks, s = queue_ticket req keys blocks ∧ q = req.player_id := by
  rw [Section.carries_eq] at h ⊢
  obtain ⟨x, hx, rfl⟩ := List.mem_map.mp h
  rcases exec_tickets (t := .clock) hs hx with hx | ⟨p, hp, hx⟩ | ⟨req, keys, blocks, rfl, made⟩
  · exact .inl (List.mem_map_of_mem hx)
  · exact .inr (.inl (List.mem_map_of_mem (taken_sides hp hx)))
  · obtain ⟨e, -, rfl⟩ := Option.map_eq_some_iff.mp made
    exact .inr (.inr ⟨req, keys, blocks, rfl, rfl⟩)

/-- Whoever is in the queue after a section was there before, or the section put its ticket in. -/
lemma players_exec {srv s o w q} (h : q ∈ (exec srv s o w).1.automatch.players) :
    q ∈ w.automatch.players ∨
      ∃ t, (s = requeue_front t ∨ ∃ req, s = queue_push req t) ∧ q = t.player_id := by
  rw [QueueInner.players_eq_roll] at h ⊢
  obtain ⟨x, hx, rfl⟩ := List.mem_map.mp h
  rcases mem_roll_exec hx with hx | ⟨t, hs, rfl⟩
  · exact .inl (List.mem_map_of_mem hx)
  · exact .inr ⟨t, hs, rfl⟩

/-! ## New connections -/

/-- No ticket of the connection is anywhere. -/
structure Untracked (c : HubSnapshot) (q : String) : Prop where
  queue : q ∉ c.world.automatch.players
  pending : ∀ t, ∀ s ∈ c.pending t, q ∉ s.carries
  spawned : ∀ lid task, c.world.spawned.lookup lid = some task →
    q ≠ task.a.player_id ∧ q ≠ task.b.player_id

/-- The tickets that a section carries are known. -/
lemma carries_known {strict : Prop} {srv w} {s : Section} {q} (h : s.known strict srv w)
    (hq : q ∈ s.carries) : Known srv w q := by
  have pair : ∀ {a b : String}, q ∈ [a, b] → Known srv w a ∧ Known srv w b → Known srv w q := by
    intro a b hq hk
    rcases List.mem_pair.mp hq with rfl | rfl
    · exact hk.1
    · exact hk.2
  cases s with
  | queue_push | requeue_if_here | requeue_front =>
    cases List.mem_singleton.mp hq
    exact h
  | settle_declined | settle_notify | form_match | form_match_gone | form_match_room
  | form_match_spawn => exact pair hq h
  | start_prepare st | start_commit st | start_failed st =>
    cases st with
    | host => cases hq
    | server task => exact pair hq h
  | _ => cases hq

/-- An id that was never drawn has no ticket anywhere. -/
lemma HubRun.untracked {srv c tr} (r : HubRun srv c tr) {q} (hne : q ≠ "")
    (new : q ∉ c.world.issued) : Untracked c q := by
  obtain ⟨hub, pend⟩ := HubRun.all_known r
  have unknown : ¬ Known srv c.world q := fun h => h.1.elim hne new
  constructor
  · intro h
    rw [QueueInner.players_eq_roll] at h
    obtain ⟨x, hx, rfl⟩ := List.mem_map.mp h
    exact unknown (hub.queue x hx)
  · intro t s hs hq
    exact unknown (carries_known (pend t s hs) hq)
  · intro lid task ht
    obtain ⟨ha, hb⟩ := hub.spawned lid task ht
    constructor
    · rintro rfl
      exact unknown ha
    · rintro rfl
      exact unknown hb

/-- A section of another task starts no ticket of a connection that has none. -/
lemma Untracked.run {srv c t s rest o q} (h : Untracked c q) (e : c.pending t = s :: rest)
    (other : ∀ req keys blocks, s = queue_ticket req keys blocks → q ≠ req.player_id) :
    Untracked ((hubMachine srv).afterRun c t s rest o) q := by
  have here : q ∉ s.carries := h.pending t s (e ▸ List.mem_cons_self)
  constructor
  · intro hq
    rcases players_exec hq with hq | ⟨tk, rfl | ⟨req, rfl⟩, rfl⟩
    · exact h.queue hq
    · exact here (List.mem_singleton_self _)
    · exact here (List.mem_singleton_self _)
  · intro t' s' hs' hq
    by_cases ht : t' = t
    · subst ht
      simp only [Machine.afterRun, Function.update_self, List.mem_append] at hs'
      rcases hs' with hs' | hs'
      · rcases exec_carries hs' hq with hq | hq | ⟨req, keys, blocks, hs, hq⟩
        · exact here hq
        · exact h.queue hq
        · exact other req keys blocks hs hq
      · exact h.pending t' s' (e ▸ List.mem_cons_of_mem _ hs') hq
    · simp only [Machine.afterRun, Function.update_of_ne ht] at hs'
      exact h.pending t' s' hs' hq
  · intro lid task ht
    rcases spawned_exec ht with ht | ⟨old, hs, ha, hb⟩
    · exact h.spawned lid task ht
    · rw [ha, hb]
      have carried : old.a.player_id ∈ s.carries ∧ old.b.player_id ∈ s.carries := by
        rcases hs with rfl | ⟨lid', ice, code, rfl⟩ <;>
          simp [Section.carries, Starter.carries]
      constructor
      · rintro rfl
        exact here carried.1
      · rintro rfl
        exact here carried.2

/-- An event starts no ticket of a connection that has none. -/
lemma Untracked.event {srv c e q} (h : Untracked c q) :
    Untracked ((hubMachine srv).afterEvent c e) q := by
  constructor
  · intro hq
    have same := apply_automatch srv c.world e
    exact h.queue (same ▸ hq)
  · intro t s hs hq
    by_cases ht : t = (hubMachine srv).task e
    · subst ht
      simp only [Machine.afterEvent, Function.update_self, hubMachine] at hs
      cases e <;> simp only [Event.body, List.mem_cons, List.mem_map, List.not_mem_nil,
        or_false] at hs
      case wake lid =>
        obtain ⟨task, htask, rfl⟩ := hs
        obtain ⟨ha, hb⟩ := h.spawned lid task (Option.mem_toList.mp htask)
        rcases List.mem_pair.mp hq with hq | hq
        · exact ha hq
        · exact hb hq
      case disconnect | automatch_tick => rcases hs with rfl | rfl | rfl <;> cases hq
      all_goals
        subst hs
        cases hq
    · simp only [Machine.afterEvent, Function.update_of_ne ht] at hs
      exact h.pending t s hs hq
  · intro lid task ht
    cases e with
    | wake lid' => exact h.spawned lid task (lookup_erase_back ht).2
    | ws_ping p =>
      have same := World.send_spawned c.world p .empty
      exact h.spawned lid task (same ▸ ht)
    | _ => exact h.spawned lid task ht

/-- A connection that has not been welcomed has no ticket. -/
theorem HubRun.unwelcomed {srv c tr} (r : HubRun srv c tr) :
    ∀ q, welcome q ∈ c.pending (.conn q) → Untracked c q := by
  apply r.induct (I := fun c _ => ∀ q, welcome q ∈ c.pending (.conn q) → Untracked c q)
  · intro q hq
    cases hq
  · intro c tr l c' r ih st q hq
    cases st with
    | @run t s rest o e _ =>
      have elsewhere : t ≠ .conn q := by
        rintro rfl
        simp only [Machine.afterRun, Function.update_self, List.mem_append] at hq
        rcases hq with hq | hq
        · exact exec_not_final _ hq (by simp [Section.final])
        · have only := (HubRun.wellEnded r (.conn q)).first q (e ▸ List.mem_cons_of_mem _ hq)
          rw [e] at only
          rw [(List.cons.inj only).2] at hq
          cases hq
      simp only [Machine.afterRun, Function.update_of_ne (Ne.symm elsewhere)] at hq
      refine (ih q hq).run e ?_
      rintro req keys blocks rfl rfl
      exact elsewhere (HubRun.asker_task r t _ (e ▸ List.mem_cons_self) _ rfl)
    | @event e idle enabled =>
      by_cases ht : Event.task e = .conn q
      · cases e with
        | connect p ip =>
          obtain rfl := Tid.conn.inj ht
          exact (HubRun.untracked r enabled.1 enabled.2).event
        | text | ws_ping | disconnect =>
          obtain rfl := Tid.conn.inj ht
          simp [Machine.afterEvent, hubMachine, Event.task, Event.body] at hq
        | _ => cases ht
      · simp only [Machine.afterEvent, hubMachine, Function.update_of_ne (Ne.symm ht)] at hq
        exact (ih q hq).event

/-! ## Tickets at their sockets -/

/-- An offer that a connection is no half of has no ticket of it. -/
lemma Pending.players_of_side {p : Pending} {q : String} (h : (p.side q).isSome = false) :
    q ≠ p.a.player_id ∧ q ≠ p.b.player_id := by
  unfold Pending.side at h
  split_ifs at h with ha hb
  · cases h
  · cases h
  · exact ⟨Ne.symm ha, Ne.symm hb⟩

/-- Nothing of a connection is left in the queue when it is no half of any offer and its tickets go. -/
lemma players_filtered {g : QueueInner} {q : String} {pending : List Pending}
    (h : ∀ p ∈ pending, (p.side q).isSome = false) :
    q ∉ QueueInner.players { g with tickets := g.tickets.filter (·.player_id ≠ q), pending } := by
  intro hq
  obtain ⟨t, ht, rfl⟩ := List.mem_map.mp hq
  rcases List.mem_append.mp ht with ht | ht
  · simpa using List.of_mem_filter ht
  · obtain ⟨p, hp, ht⟩ := List.mem_flatMap.mp ht
    obtain ⟨ha, hb⟩ := Pending.players_of_side (h p hp)
    rcases List.mem_pair.mp ht with rfl | rfl
    · exact ha rfl
    · exact hb rfl

/-- A connection that is half of one offer at most is gone after `remove_player`. -/
lemma removed_absent {g : QueueInner} {q : String}
    (one : (g.pending.filter fun p => (p.side q).isSome).length ≤ 1) :
    q ∉ (g.remove_player q).1.players := by
  cases hoff : g.offer_of q with
  | none =>
    rw [QueueInner.remove_player_none hoff]
    exact players_filtered (QueueInner.offer_of_none hoff)
  | some p =>
    obtain ⟨before, after, first⟩ := QueueInner.offer_of_some hoff
    rw [QueueInner.remove_player_first first]
    apply players_filtered
    intro p' hp'
    rcases List.mem_append.mp hp' with hp' | hp'
    · exact first.others p' hp'
    · by_contra hside
      have sub : [p, p'].Sublist g.pending := by
        rw [first.pending]
        apply List.Sublist.trans _ (List.sublist_append_right _ _)
        exact (List.singleton_sublist.mpr hp').cons_cons p
      have both : [p, p'].filter (fun p => (p.side q).isSome) = [p, p'] := by
        apply List.filter_eq_self.mpr
        simp [first.side, Bool.not_eq_false _ ▸ hside]
      have two : [p, p'].Sublist (g.pending.filter fun p => (p.side q).isSome) :=
        both ▸ sub.filter _
      have := two.length_le
      simp only [List.length_cons, List.length_nil] at this
      omega

/-- The connection is registered, and when it is being taken apart, its cleanup of the queue is still to
come. -/
def AtSocket (c : HubSnapshot) (q : String) : Prop :=
  c.world.hub.connected q ∧
    (clients_remove q ∈ c.pending (.conn q) → queue_remove q ∈ c.pending (.conn q))

/-- A ticket goes back in time for the cleanup of its connection: the cleanup was not over when the
connection was looked for, and it does not run before the ticket is in the queue again. -/
structure BackInTime (q : String) (chk : HubSnapshot) (since : List HubLabel) : Prop where
  due : clients_remove q ∈ chk.pending (.conn q) → queue_remove q ∈ chk.pending (.conn q)
  waits : ∀ t o mid, .ran t (queue_remove q) o mid ∈ since →
    clients_remove q ∉ mid.pending (.conn q)

/-- Tickets go back in time, and the cleanup of a disconnect finds one offer of its connection at most. -/
structure TicketsLive (srv : Server) (tr : List HubLabel) : Prop where
  back : ∀ task t reason chk since pre,
    Between (hubMachine srv) tr task (requeue_if_here t reason) chk since (requeue_front t) pre →
    BackInTime t.player_id chk since
  one : ∀ task q o pre, .ran task (queue_remove q) o pre ∈ tr →
    clients_remove q ∈ pre.pending (.conn q) →
    (pre.world.automatch.pending.filter fun p => (p.side q).isSome).length ≤ 1

lemma TicketsLive.earlier {srv l tr} (h : TicketsLive srv (l :: tr)) : TicketsLive srv tr where
  back _ _ _ _ _ _ b := h.back _ _ _ _ _ _ (b.later [l])
  one _ _ _ _ hm := h.one _ _ _ _ (List.mem_cons_of_mem _ hm)

/-- Whoever is in the queue is at its socket. -/
def NoneStale (c : HubSnapshot) : Prop := ∀ q ∈ c.world.automatch.players, AtSocket c q

/-- A section that leaves a connection in the queue leaves it at its socket. -/
lemma AtSocket.run {srv c tr t s rest o q} (r : HubRun srv c tr) (h : AtSocket c q)
    (e : c.pending t = s :: rest) (welcomed : s ≠ welcome q)
    (stays : s = queue_remove q → clients_remove q ∉ c.pending (.conn q)) :
    AtSocket ((hubMachine srv).afterRun c t s rest o) q := by
  constructor
  · refine (exec_change srv s o (HubRun.basic r).sized).client_stays h.1 ?_ welcomed
    rintro rfl
    obtain rfl := HubRun.removes_own r e (.inl rfl)
    have done := HubRun.removed_last r e (by simp [Section.final])
    have cleanup := h.2 (e ▸ List.mem_cons_self)
    rw [e, done] at cleanup
    cases List.mem_singleton.mp cleanup
  · intro going
    by_cases ht : t = .conn q
    · subst ht
      simp only [Machine.afterRun, Function.update_self, List.mem_append] at going ⊢
      rcases going with going | going
      · exact absurd (by simp [Section.final]) (exec_not_final _ going)
      · have before : clients_remove q ∈ c.pending (.conn q) := e ▸ List.mem_cons_of_mem _ going
        have cleanup := h.2 before
        rw [e] at cleanup
        rcases List.mem_cons.mp cleanup with cleanup | cleanup
        · exact absurd before (stays cleanup.symm)
        · exact .inr cleanup
    · simp only [Machine.afterRun, Function.update_of_ne (Ne.symm ht)] at going ⊢
      exact h.2 going

/-- An event leaves a connection at its socket. -/
lemma AtSocket.event {srv c e q} (h : AtSocket c q) :
    AtSocket ((hubMachine srv).afterEvent c e) q := by
  refine ⟨connected_apply h.1, fun going => ?_⟩
  by_cases ht : Event.task e = .conn q
  · cases e with
    | connect | text | ws_ping =>
      obtain rfl := Tid.conn.inj ht
      simp [Machine.afterEvent, hubMachine, Event.task, Event.body] at going
    | disconnect =>
      obtain rfl := Tid.conn.inj ht
      simp [Machine.afterEvent, hubMachine, Event.task, Event.body]
    | _ => cases ht
  · simp only [Machine.afterEvent, hubMachine, Function.update_of_ne (Ne.symm ht)] at going ⊢
    exact h.2 going

/-- A ticket goes back after its connection was found. -/
lemma exec_requeue {srv s o w t} (hs : requeue_front t ∈ (exec srv s o w).2) :
    ∃ reason, s = requeue_if_here t reason ∧ w.hub.connected t.player_id := by
  have called : ¬ ∀ k ∈ s.calls, k ≠ .requeue_front := fun none => none _ (exec_calls _ hs) rfl
  cases s with
  | requeue_if_here t' reason =>
    simp only [exec, requeue_if_here_step] at hs
    split at hs
    · rename_i here
      simp only [List.mem_cons, List.not_mem_nil, or_false, reduceCtorEq] at hs
      cases hs
      exact ⟨reason, rfl, here⟩
    · cases hs
  | dispatch p ip msg => cases hop : msg.op <;> exact absurd (by simp [hop]) called
  | _ => exact absurd (by simp) called

/-- A ticket that goes back in time finds its connection at its socket: it was there when it was looked for,
and nothing that ran since took it away. -/
lemma HubRun.back_at_socket {srv c tr task t reason chk since pre} (r : HubRun srv c tr)
    (h : Between (hubMachine srv) tr task (requeue_if_here t reason) chk since (requeue_front t) pre)
    (time : BackInTime t.player_id chk since) : AtSocket pre t.player_id := by
  obtain ⟨o, o', earlier, -, r', starts⟩ := h.reached r
  obtain ⟨-, -, here⟩ := exec_requeue starts
  have run := Run.since (M := hubMachine srv) (I := fun c since =>
    (∀ l ∈ since, requeue_front t ∈ l.pre.pending task) →
    (∀ t' o mid, .ran t' (queue_remove t.player_id) o mid ∈ since →
      clients_remove t.player_id ∉ mid.pending (.conn t.player_id)) →
    AtSocket c t.player_id) ?_ ?_ r'
  · exact run h.waits time.waits
  · -- right after it was looked for
    intro c st _ _
    obtain ⟨rchk, -⟩ := r'.pre_reached _ _ _ rfl
    cases st with
    | run e _ => exact AtSocket.run rchk ⟨here, time.due⟩ e (by simp) (by simp)
  · intro c since l c' r ih st waits spared
    have at_socket := ih (fun l hl => waits l (List.mem_cons_of_mem _ hl))
      fun t' o mid hm => spared t' o mid (List.mem_cons_of_mem _ hm)
    cases st with
    | @run t' s rest o e _ =>
      refine at_socket.run r e ?_ ?_
      · -- the ticket under way is one of a connection that was welcomed
        rintro rfl
        obtain rfl := HubRun.removes_own r e (.inr rfl)
        have none := HubRun.unwelcomed r _ (e ▸ List.mem_cons_self)
        exact none.pending task _ (waits _ List.mem_cons_self) (List.mem_singleton_self _)
      · rintro rfl
        exact spared t' o c List.mem_cons_self
    | event _ _ => exact at_socket.event

/-- One step leaves everybody in the queue at its socket. -/
lemma NoneStale.step {srv c tr l c'} (r : HubRun srv c tr) (h : NoneStale c)
    (live : TicketsLive srv (l :: tr)) (st : Step (hubMachine srv) c l c') : NoneStale c' := by
  intro q hq
  have r' := r.step st
  cases st with
  | @event e _ _ =>
    have same := apply_automatch srv c.world e
    exact (h q (same ▸ hq)).event
  | @run t s rest o e _ =>
    have welcomed : s ≠ welcome q := by
      rintro rfl
      obtain rfl := HubRun.removes_own r e (.inr rfl)
      have none := HubRun.unwelcomed r q (e ▸ List.mem_cons_self)
      rcases players_exec hq with hq | ⟨tk, hs | ⟨req, hs⟩, -⟩
      · exact none.queue hq
      · cases hs
      · cases hs
    have here : AtSocket c q := by
      rcases players_exec hq with hq | ⟨tk, rfl | ⟨req, rfl⟩, rfl⟩
      · exact h q hq
      · obtain ⟨k, chk, since, b⟩ := r.between e (fun e w hb => body_not_inner _ hb rfl) o
        obtain ⟨_, _, _, -, -, starts⟩ := b.reached r'
        obtain ⟨reason, rfl, -⟩ := exec_requeue starts
        exact HubRun.back_at_socket r' b (live.back _ _ _ _ _ _ b)
      · obtain rfl := HubRun.asker_task r t _ (e ▸ List.mem_cons_self) _ rfl
        refine ⟨HubRun.alive r _ (e ▸ List.cons_ne_nil _ _), fun going => ?_⟩
        have parting := HubRun.parting r _ _ going _ (e ▸ List.mem_cons_self)
        simp [partingKinds] at parting
    refine here.run r e welcomed ?_
    rintro rfl going
    refine removed_absent (live.one t q o c List.mem_cons_self going) ?_
    have after := exec_automatch srv (queue_remove q) o c.world
    exact (congrArg QueueInner.players after) ▸ hq

/-- In a run in which tickets go back in time and every disconnect finds one offer of its connection at
most, everybody waiting or on offer is a registered connection. -/
theorem tickets_live {srv c tr} (r : HubRun srv c tr) (live : TicketsLive srv tr) :
    ∀ x ∈ c.world.automatch.sides, c.world.hub.connected x.player_id := by
  have none : NoneStale c := by
    revert live
    refine r.induct (I := fun c tr => TicketsLive srv tr → NoneStale c) ?_ ?_
    · intro _ q hq
      cases hq
    · exact fun r ih st live => (ih live.earlier).step r live st
  exact fun x hx => (none _ (List.mem_map_of_mem hx)).1

/-- Does every ticket go back with its connection in no cleanup, and every cleanup find one offer at most?
-/
def ticketsLive (tr : List HubLabel) : Bool :=
  (cuts tr).all fun c => match c.2.1 with
    | .ran _ (requeue_front t) _ _ => (cuts c.2.2).all fun c => match c.2.1 with
      | .ran _ (requeue_if_here ..) _ chk =>
        (chk.pending (.conn t.player_id)).all (·.kind ≠ .clients_remove) && c.1.all fun
          | .ran _ (queue_remove q) _ _ => q ≠ t.player_id
          | _ => true
      | _ => true
    | .ran _ (queue_remove q) _ pre =>
      (pre.world.automatch.pending.filter fun p => (p.side q).isSome).length ≤ 1
    | _ => true

lemma ticketsLive_sound {srv tr} (h : ticketsLive tr) : TicketsLive srv tr := by
  constructor
  · rintro task t reason chk since pre ⟨⟨o, o', later, earlier, e, -⟩, -⟩
    have checks := List.all_eq_true.mp h _ (mem_cuts e)
    obtain ⟨stays, quiet⟩ := (Bool.and_eq_true _ _).mp (List.all_eq_true.mp checks _ (mem_cuts rfl))
    constructor
    · intro going
      have kind := List.all_eq_true.mp stays _ going
      simp at kind
    · intro t' o mid hm
      have other := List.all_eq_true.mp quiet _ hm
      simp at other
  · intro task q o pre hm _
    obtain ⟨later, earlier, rfl⟩ := List.append_of_mem hm
    exact of_decide_eq_true (List.all_eq_true.mp h _ (mem_cuts rfl))

/-- Alice declines; while Bob's ticket goes back, he pings. Then Alice disconnects. -/
def declinesInTime (p q : String) : List Move :=
  let o := draw "1f8a9f0e-7d2b-4b57-8f6f-2f6f2b0c9d01"
  signIn p alice (draw o.uuid ["m1"]) ++ [say p queueUp] ++
    steps (.conn p) 12 (draw o.uuid ["m1"]) ++ signIn q bob (draw o.uuid ["m2"]) ++
    [say q queueUp] ++ steps (.conn q) 12 (draw o.uuid ["m2"]) ++ steps (.conn q) 2 o ++
    [say p { op := .automatch_accept, accept := some false }] ++ steps (.conn p) 8 o ++
    [say q { op := .ping }] ++ steps (.conn q) 3 o ++ steps (.conn p) 2 (draw o.uuid ["m3"]) ++
    [.event (.disconnect p)] ++ steps (.conn p) 3 (draw o.uuid ["m3"])

/-- Is the step the cleanup of the queue for a connection that is being taken apart? -/
def cleansQueue : HubLabel → Bool
  | .ran (.conn p) (queue_remove p') _ pre =>
    p = p' && (pre.pending (.conn p)).any (·.kind = .clients_remove)
  | _ => false

/-- Bob's ticket goes back, Alice is cleaned up, and whoever waits is at its socket. -/
theorem tickets_live_declined : ∃ c tr, HubRun sampleServer c tr ∧
    (∃ task t o pre, .ran task (requeue_front t) o pre ∈ tr) ∧
    (∃ p o pre, .ran (.conn p) (queue_remove p) o pre ∈ tr ∧
      clients_remove p ∈ pre.pending (.conn p)) ∧
    c.world.automatch.sides ≠ [] ∧
    ∀ x ∈ c.world.automatch.sides, c.world.hub.connected x.player_id := by
  let p := "6b0f1e52-3c1d-4a86-9a53-0d5f6f1c2a11"
  let q := "c4d1c1a0-5f0e-4a53-8d43-9f4b1f7f3b22"
  have h : ((hubMachine sampleServer).follow (declinesInTime p q)).any fun x =>
      (x.2.any (runsKind .requeue_front) && x.2.any cleansQueue && !x.1.world.automatch.sides.isEmpty) &&
        ticketsLive x.2 := by
    decide +kernel
  obtain ⟨c, tr, r, ht, -⟩ := Machine.follow_reaches h
  obtain ⟨ht, live⟩ := (Bool.and_eq_true _ _).mp ht
  obtain ⟨ht, waits⟩ := (Bool.and_eq_true _ _).mp ht
  obtain ⟨back, clean⟩ := (Bool.and_eq_true _ _).mp ht
  refine ⟨c, tr, r, ?_, ?_, by simpa using waits, tickets_live r (ticketsLive_sound live)⟩
  · obtain ⟨x, hx, hr⟩ := List.any_eq_true.mp back
    obtain ⟨task, s, o, pre, rfl, kind⟩ := runsKind_ran hr
    cases s with
    | requeue_front t => exact ⟨task, t, o, pre, hx⟩
    | _ => cases kind
  · obtain ⟨x, hx, hc⟩ := List.any_eq_true.mp clean
    unfold cleansQueue at hc
    split at hc
    · rename_i p p' o pre
      obtain ⟨same, going⟩ := (Bool.and_eq_true _ _).mp hc
      obtain rfl : p = p' := of_decide_eq_true same
      obtain ⟨s, hs, kind⟩ := List.any_eq_true.mp going
      refine ⟨p, o, pre, hx, ?_⟩
      cases s with
      | clients_remove p'' =>
        obtain ⟨rest, earlier, r', -, -⟩ := Run.ran_pending r hx
        obtain rfl := Tid.conn.inj (HubRun.actor_task r' _ _ hs p'' rfl)
        exact hs
      | _ => simp at kind
    · cases hc

/-- A player declines; between the check for the other one and the insertion of its ticket, that one
disconnects. -/
def declinesLate (p q : String) : List Move :=
  let o := draw "1f8a9f0e-7d2b-4b57-8f6f-2f6f2b0c9d01"
  signIn p alice (draw o.uuid ["m1"]) ++ [say p queueUp] ++
    steps (.conn p) 12 (draw o.uuid ["m1"]) ++ signIn q bob (draw o.uuid ["m2"]) ++
    [say q queueUp] ++ steps (.conn q) 12 (draw o.uuid ["m2"]) ++ steps (.conn q) 2 o ++
    [say p { op := .automatch_accept, accept := some false }] ++ steps (.conn p) 8 o ++
    [.event (.disconnect q)] ++ steps (.conn q) 3 o ++ steps (.conn p) 2 (draw o.uuid ["m3"])

/-- Every handler has finished, and the ticket of a closed socket waits. -/
theorem declines_late_stale :
    ¬ ∀ c tr, HubRun sampleServer c tr → c.Quiet → ∀ q, ¬ c.world.hub.connected q →
      ∀ x ∈ c.world.automatch.sides, x.player_id ≠ q := by
  intro all
  let p := "6b0f1e52-3c1d-4a86-9a53-0d5f6f1c2a11"
  let q := "c4d1c1a0-5f0e-4a53-8d43-9f4b1f7f3b22"
  let test : HubSnapshot × List HubLabel → Bool := fun x =>
    x.1.world.automatch.sides.any fun t => !x.1.world.hub.connected t.player_id
  have movers : ∀ m ∈ declinesLate p q, (hubMachine sampleServer).mover m ∈ [.conn p, .conn q] := by
    decide
  have h : ((hubMachine sampleServer).follow (declinesLate p q)).any fun x =>
      test x && [.conn p, .conn q].all fun t => (x.1.pending t).isEmpty := by decide +kernel
  obtain ⟨c, tr, r, ht, quiet⟩ := Machine.follow_quiet (f := test) _ movers h
  obtain ⟨x, hx, gone⟩ := List.any_eq_true.mp ht
  exact all c tr r quiet x.player_id (by simpa using gone) x hx rfl

end RecompNet
