import RecompNet.Hub.Entering
import RecompNet.Hub.Offers
import RecompNet.Hub.Stale

/-!
# One ticket each

How often an account or a connection can be in the queue. The check of `handle_automatch_queue` and the
push that it guards are different critical sections, and the paths that put a ticket back check nothing.
What the check found holds until somebody else puts the account in, and so does that a ticket is out of the
queue with its offer: everybody is in the queue once exactly when every ticket goes in alone.
-/

namespace RecompNet

open Section Interleave

open scoped List

/-- Everybody is in the queue once, by account and by connection. -/
def OneEach (g : QueueInner) : Prop :=
  (g.sides.map (·.account_id)).Nodup ∧ (g.sides.map (·.player_id)).Nodup

/-- The roll decides `OneEach`. -/
lemma oneEach_iff_roll {g : QueueInner} :
    OneEach g ↔ (g.roll.map Prod.fst).Nodup ∧ (g.roll.map Prod.snd).Nodup := by
  simp only [OneEach, QueueInner.roll, List.map_map]
  rfl

/-- Dropping elements of a list and moving them about repeats no image. -/
lemma nodup_of_subperm {α β : Type} {xs ys : List α} {f : α → β} (sub : xs.Subperm ys)
    (once : (ys.map f).Nodup) : (xs.map f).Nodup := by
  obtain ⟨l, perm, sub⟩ := sub
  exact (perm.map f).nodup_iff.mp (once.sublist (sub.map f))

/-- Dropping entries of the roll and moving them about keeps everybody once. -/
lemma OneEach.of_subperm {g g' : QueueInner} (h : OneEach g) (sub : g'.roll.Subperm g.roll) :
    OneEach g' := by
  rw [oneEach_iff_roll] at h ⊢
  exact ⟨nodup_of_subperm sub h.1, nodup_of_subperm sub h.2⟩

/-- A ticket may go in exactly when neither its account nor its connection is in the queue. -/
lemma oneEach_cons {g g' : QueueInner} {t : Ticket} (add : g'.roll.Perm (t.who :: g.roll)) :
    OneEach g' ↔
      OneEach g ∧ ∀ x ∈ g.sides, x.account_id ≠ t.account_id ∧ x.player_id ≠ t.player_id := by
  rw [oneEach_iff_roll, oneEach_iff_roll, (add.map _).nodup_iff, (add.map _).nodup_iff]
  simp only [List.map_cons, List.nodup_cons, QueueInner.roll, List.map_map, List.mem_map,
    Function.comp_apply, Ticket.who, not_exists, not_and]
  constructor
  · rintro ⟨⟨ha, na⟩, hp, np⟩
    exact ⟨⟨na, np⟩, fun x hx => ⟨ha x hx, hp x hx⟩⟩
  · rintro ⟨⟨na, np⟩, h⟩
    exact ⟨⟨fun x hx => (h x hx).1, na⟩, fun x hx => (h x hx).2, np⟩

/-- A step that puts a ticket into the queue finds neither its account nor its connection there. -/
def AddsFresh : HubLabel → Prop
  | .ran _ (queue_push _ t) _ pre | .ran _ (requeue_front t) _ pre =>
    ∀ x ∈ pre.world.automatch.sides, x.account_id ≠ t.account_id ∧ x.player_id ≠ t.player_id
  | _ => True

/-- One section keeps everybody in the queue once exactly when it adds only what is not there. -/
lemma oneEach_exec {srv : Server} {t s o} {pre : HubSnapshot} (h : OneEach pre.world.automatch) :
    OneEach (exec srv s o pre.world).1.automatch ↔ AddsFresh (.ran t s o pre) := by
  rw [exec_automatch]
  have keep : ∀ {g'}, List.Subperm g'.roll pre.world.automatch.roll → (OneEach g' ↔ True) :=
    fun sub => iff_true_intro (h.of_subperm sub)
  cases s with
  | queue_push req t => exact (oneEach_cons (QueueInner.roll_push _ t)).trans (and_iff_right h)
  | requeue_front t =>
    have add := (QueueInner.roll_requeue_front pre.world.automatch t pre.world.now)
    exact (oneEach_cons (add ▸ .refl _)).trans (and_iff_right h)
  | queue_set_rtt p rtt => exact keep (List.Perm.of_eq (QueueInner.roll_set_rtt _ p rtt)).subperm
  | queue_remove p => exact keep (QueueInner.roll_remove_player _ p).subperm
  | queue_answer p accept id => exact keep (QueueInner.roll_answer_for _ p accept id).subperm
  | take_expired => exact keep (QueueInner.roll_take_expired _ _ _).subperm
  | run_pairing => exact keep (QueueInner.roll_pair _ _ _ _).subperm
  | _ => exact keep (List.Subperm.refl _)

/-- One step of a run keeps everybody in the queue once exactly when it adds only what is not there. -/
lemma oneEach_step {srv c l c'} (st : Step (hubMachine srv) c l c')
    (h : OneEach c.world.automatch) : OneEach c'.world.automatch ↔ AddsFresh l := by
  cases st with
  | run _ _ => exact oneEach_exec h
  | event _ _ =>
    rename_i e _ _
    refine iff_of_true ?_ trivial
    have same := apply_automatch srv c.world e
    exact same.symm ▸ h

/-! ## What was put in since

A request looks for its account in the queue, and its ticket goes in six sections later; a ticket goes back
some sections after its offer was taken out. In between, it is enough to know what others put in. -/

/-- The accounts in the queue. -/
def QueueInner.accounts (g : QueueInner) : List String := g.sides.map (·.account_id)

/-- The ticket that a step puts into the queue. -/
def putsIn : HubLabel → Option Ticket
  | .ran _ (queue_push _ t) _ _ | .ran _ (requeue_front t) _ _ => some t
  | _ => none

/-- Does the step look in the queue for an account that a task asks for? -/
def looksFor (task : Tid) (account : String) : HubLabel → Bool
  | .ran task' (queue_account req) _ _ => task' = task && req.account_id = account
  | _ => false

/-- Does the step take an offer out of the queue that the ticket is a side of? -/
def takesOut (srv : Server) (t : Ticket) (l : HubLabel) : Bool :=
  (taken srv l).any fun p => p.sides.any fun x => x.who = t.who

/-- A ticket goes in when nobody else has put its account in, and left it there, since its task looked for
the account or since its offer was taken out. The connection has no ticket of another account, or,
for a ticket that goes back, was not put in either. -/
def GoesInAlone (srv : Server) : HubLabel → List HubLabel → Prop
  | .ran task (queue_push _ t) _ pre, earlier =>
    (∀ l ∈ sinceLast (looksFor task t.account_id) earlier, ∀ x, putsIn l = some x →
      x.account_id = t.account_id → t.account_id ∉ pre.world.automatch.accounts) ∧
    ∀ x ∈ pre.world.automatch.sides, x.player_id = t.player_id → x.account_id = t.account_id
  | .ran _ (requeue_front t) _ pre, earlier =>
    ∀ l ∈ sinceLast (takesOut srv t) earlier, ∀ x, putsIn l = some x →
      (x.account_id = t.account_id → t.account_id ∉ pre.world.automatch.accounts) ∧
      (x.player_id = t.player_id → ∀ y ∈ pre.world.automatch.sides, y.player_id ≠ t.player_id)
  | _, _ => True

lemma QueueInner.accounts_eq_roll (g : QueueInner) : g.accounts = g.roll.map Prod.fst := by
  simp only [accounts, roll, List.map_map]
  rfl

/-- `is_queued_account` looks through the accounts of the queue. -/
lemma is_queued_account_iff {g : QueueInner} {a : String} :
    g.is_queued_account a ↔ a ∈ g.accounts := by
  have pending : (g.pending.any fun p => p.a.account_id = a || p.b.account_id = a) ↔
      a ∈ (g.pending.flatMap Pending.sides).map (·.account_id) := by
    simp [Pending.sides, List.map_flatMap, List.mem_flatMap, eq_comm (b := a)]
  rw [QueueInner.is_queued_account, Bool.or_eq_true, pending, QueueInner.accounts,
    QueueInner.sides, List.map_append, List.mem_append]
  simp

/-- Whoever is in the queue after a step was there before, or the step put its ticket in. -/
lemma step_roll {srv c l c' x} (st : Step (hubMachine srv) c l c')
    (h : x ∈ c'.world.automatch.roll) :
    x ∈ c.world.automatch.roll ∨ ∃ t, putsIn l = some t ∧ x = t.who := by
  cases st with
  | run _ _ =>
    rcases mem_roll_exec h with h | ⟨t, rfl | ⟨req, rfl⟩, rfl⟩
    · exact .inl h
    · exact .inr ⟨t, rfl, rfl⟩
    · exact .inr ⟨t, rfl, rfl⟩
  | @event e _ _ => exact .inl ((apply_automatch srv c.world e) ▸ h)

/-! ### Requests -/

/-- The account of a request that has passed the look for it. -/
def Section.queues : Section → Option String
  | queue_game req | queue_cooldown req _ | queue_waiting req _ | queue_blocks req _
  | queue_ticket req _ _ => some req.account_id
  | queue_push _ t => some t.account_id
  | _ => none

lemma Section.queues_kind {s : Section} {a} (h : s.queues = some a) :
    s.kind ∈ queueingKinds.tail := by
  cases s with
  | queue_game | queue_cooldown | queue_waiting | queue_blocks | queue_ticket | queue_push =>
    simp [queueingKinds]
  | _ => cases h

/-- The gates on a request pass it on with its account. -/
lemma queueTitles_queues {srv : Server} {req : QueueRequest} {titles : List InTitle} {s a}
    (hs : s ∈ queueTitles srv req titles) (h : s.queues = some a) : req.account_id = a := by
  unfold queueTitles at hs
  split at hs <;> cases List.mem_singleton.mp hs
  · cases h
  · cases h
  · exact Option.some.inj h

/-- A request under way was passed on with its account, from the section that did not find the account in
the queue. -/
lemma exec_queues {srv s o w s' a} (hs : s' ∈ (exec srv s o w).2) (h : s'.queues = some a) :
    s.queues = some a ∨ ∃ req, s = queue_account req ∧ req.account_id = a ∧
      a ∉ w.automatch.accounts := by
  have called : ¬ ∀ k ∈ s.calls, k ∉ queueingKinds.tail :=
    fun none => none _ (exec_calls _ hs) (Section.queues_kind h)
  cases s with
  | queue_account req =>
    refine .inr ⟨req, rfl, ?_⟩
    simp only [exec, queue_account_step] at hs
    split at hs
    · cases List.mem_singleton.mp hs
      cases h
    · rename_i absent
      have own : req.account_id = a := by
        split at hs
        · cases List.mem_singleton.mp hs
          cases h
        · split at hs
          · cases List.mem_singleton.mp hs
            exact Option.some.inj h
          · exact queueTitles_queues hs h
      exact ⟨own, fun inside => absent (is_queued_account_iff.mpr (own.symm ▸ inside))⟩
  | queue_game req =>
    simp only [exec, queue_game_step] at hs
    exact .inl (congrArg some (queueTitles_queues hs h))
  | queue_cooldown req keys =>
    simp only [exec, queue_cooldown_step] at hs
    split at hs <;> cases List.mem_singleton.mp hs
    · cases h
    · exact .inl h
  | queue_waiting req keys =>
    simp only [exec, queue_waiting_step] at hs
    split at hs <;> cases List.mem_singleton.mp hs
    · cases h
    · exact .inl h
  | queue_blocks req keys =>
    cases List.mem_singleton.mp hs
    exact .inl h
  | queue_ticket req keys blocks =>
    simp only [exec, queue_ticket_step] at hs
    split at hs <;> cases List.mem_singleton.mp hs
    · cases h
    · rename_i t made
      obtain ⟨e, -, rfl⟩ := Option.map_eq_some_iff.mp made
      exact .inl h
  | dispatch p ip msg =>
    cases hop : msg.op <;> exact absurd (by simp [hop, queueingKinds]) called
  | _ => exact absurd (by simp [queueingKinds]) called

/-- The account of a request under way is not in the queue, unless somebody put it in since its task looked
for it. -/
theorem HubRun.request_out {srv c tr} (r : HubRun srv c tr) : ∀ t, ∀ s ∈ c.pending t, ∀ a,
    s.queues = some a → (∀ l ∈ sinceLast (looksFor t a) tr, ∀ x, putsIn l = some x →
      x.account_id ≠ a) → a ∉ c.world.automatch.accounts := by
  apply r.induct (I := fun c tr => ∀ t, ∀ s ∈ c.pending t, ∀ a, s.queues = some a →
    (∀ l ∈ sinceLast (looksFor t a) tr, ∀ x, putsIn l = some x → x.account_id ≠ a) →
    a ∉ c.world.automatch.accounts)
  · intro t s hs
    cases hs
  · intro c tr l c' r ih st t s hs a ha alone
    -- a step that does not look for the account, after which the request was under way already
    have later : ∀ {s0}, looksFor t a l = false → s0 ∈ c.pending t → s0.queues = some a →
        a ∉ c'.world.automatch.accounts := by
      intro s0 miss h0 ha0 inside
      rw [sinceLast_miss miss] at alone
      have before := ih t s0 h0 a ha0 fun l hl => alone l (List.mem_cons_of_mem _ hl)
      rw [QueueInner.accounts_eq_roll] at inside before
      obtain ⟨y, hy, rfl⟩ := List.mem_map.mp inside
      rcases step_roll st hy with hy | ⟨x, put, rfl⟩
      · exact before (List.mem_map_of_mem hy)
      · exact alone l List.mem_cons_self x put rfl
    cases st with
    | @run t' s' rest o e ho =>
      by_cases ht : t' = t
      · subst ht
        simp only [Machine.afterRun, Function.update_self, List.mem_append] at hs
        rcases hs with new | old
        · rcases exec_queues new ha with ha' | ⟨req, rfl, own, absent⟩
          · refine later ?_ (e ▸ List.mem_cons_self) ha'
            cases s' with
            | queue_account => cases ha'
            | _ => rfl
          · have same : (exec srv (queue_account req) o c.world).1.automatch = c.world.automatch :=
              exec_automatch srv (queue_account req) o c.world
            exact same.symm ▸ absent
        · have last : OpensLast (s' :: rest) := e ▸ HubRun.opens_last r t'
          have queueing := List.mem_of_mem_tail (Section.queues_kind ha)
          have rename := last.before old (Section.queueing_opening queueing)
          refine later ?_ (e ▸ List.mem_cons_of_mem _ old) ha
          cases s' with
          | queue_account => cases rename
          | _ => rfl
      · simp only [Machine.afterRun, Function.update_of_ne (Ne.symm ht)] at hs
        refine later ?_ hs ha
        cases s' with
        | queue_account => simp [looksFor, ht]
        | _ => rfl
    | @event e _ _ =>
      by_cases ht : (hubMachine srv).task e = t
      · subst ht
        simp only [Machine.afterEvent, Function.update_self] at hs
        have none : ∀ k ∈ eventKinds, k ∉ queueingKinds.tail := by decide
        rcases body_cases hs with kind | ⟨lid, task, rfl, -, rfl⟩
        · exact absurd (Section.queues_kind ha) (none _ kind)
        · cases ha
      · simp only [Machine.afterEvent, Function.update_of_ne (Ne.symm ht)] at hs
        exact later rfl hs ha

/-! ### Tickets that were taken out -/

/-- Taking offers out of the queue takes their sides off the roll. -/
lemma roll_taken {g g' : QueueInner} {out : List Pending} (ht : g'.tickets.Sublist g.tickets)
    (hp : (out ++ g'.pending).map Pending.sides ~ g.pending.map Pending.sides) :
    ((out.flatMap Pending.sides).map Ticket.who ++ g'.roll).Subperm g.roll := by
  have pending : out.flatMap Pending.sides ++ g'.pending.flatMap Pending.sides ~
      g.pending.flatMap Pending.sides := by
    rw [← List.flatMap_append]
    simpa only [List.flatMap_def] using hp.flatten
  have all : out.flatMap Pending.sides ++ g'.sides ~
      g'.tickets ++ g.pending.flatMap Pending.sides :=
    (List.perm_append_comm_assoc ..).trans (pending.append_left _)
  rw [QueueInner.roll, ← List.map_append]
  exact ((all.map _).subperm).trans ((ht.append_right _).map _).subperm

/-- A departure takes the tickets of the connection along, and nothing else touches the tickets. -/
lemma remove_player_tickets (g : QueueInner) (q : String) :
    (g.remove_player q).1.tickets = g.tickets.filter (·.player_id ≠ q) := by
  cases hoff : g.offer_of q with
  | none => rw [QueueInner.remove_player_none hoff]
  | some p =>
    obtain ⟨before, after, first⟩ := QueueInner.offer_of_some hoff
    rw [QueueInner.remove_player_first first]

lemma answer_for_tickets (g : QueueInner) (q : String) (accept : Bool) (id : Option String) :
    (g.answer_for q accept id).1.tickets = g.tickets := by
  cases hoff : g.offer_of q with
  | none => rw [QueueInner.answer_for_none hoff]
  | some p =>
    obtain ⟨before, after, first⟩ := QueueInner.offer_of_some hoff
    rw [QueueInner.answer_for_first first]
    split_ifs <;> rfl

/-- What a step takes out of the queue is off the roll. -/
lemma step_taken {srv c l c'} (st : Step (hubMachine srv) c l c') (some_ : taken srv l ≠ []) :
    (((taken srv l).flatMap Pending.sides).map Ticket.who ++ c'.world.automatch.roll).Subperm
      c.world.automatch.roll := by
  have change := step_offers st
  have pending : ((taken srv l) ++ c'.world.automatch.pending).map Pending.sides ~
      c.world.automatch.pending.map Pending.sides := by
    generalize c.world.automatch.pending = ps at change
    generalize c'.world.automatch.pending = ps' at change
    cases change with
    | keep _ none _ | make none _ => exact absurd none some_
    | drop _ perm _ => exact (List.perm_append_comm.trans perm).map _
    | @answer before p after p' player accept _ e _ out =>
      subst e
      rw [out] at some_ ⊢
      split_ifs at some_ ⊢ with done
      · have mid : (QueueInner.recordAnswer p player accept :: (before ++ after)).map Pending.sides ~
            (before ++ p :: after).map Pending.sides := by
          rw [List.map_cons, QueueInner.sides_recordAnswer, ← List.map_cons]
          exact List.perm_middle.symm.map _
        exact mid
      · exact absurd rfl some_
  refine roll_taken ?_ pending
  cases st with
  | event _ _ => exact absurd rfl some_
  | @run t s rest o e _ =>
    show (exec srv s o c.world).1.automatch.tickets.Sublist _
    rw [exec_automatch]
    cases s with
    | queue_remove p => exact (remove_player_tickets ..) ▸ List.filter_sublist
    | queue_answer p accept id => exact (answer_for_tickets ..).symm ▸ .refl _
    | take_expired => exact .refl _
    | _ => exact absurd rfl some_

/-- The tickets of offers that a section holds on to. -/
def Section.held : Section → List Ticket
  | queue_push .. => []
  | s => s.tickets

lemma Section.tickets_of_held {s : Section} {x} (h : x ∈ s.held) : x ∈ s.tickets := by
  cases s with
  | queue_push => cases h
  | _ => exact h

/-- A ticket that a section holds on to was held before, or its offer is taken out by the section. -/
lemma exec_held {srv t s o s' x} {pre : HubSnapshot} (hs : s' ∈ (exec srv s o pre.world).2)
    (h : x ∈ s'.held) : x ∈ s.held ∨ takesOut srv x (.ran t s o pre) := by
  rcases exec_tickets (t := t) hs (Section.tickets_of_held h) with
    hx | ⟨p, hp, hx⟩ | ⟨req, keys, blocks, rfl, -⟩
  · cases s with
    | queue_push req y =>
      cases List.mem_singleton.mp hs
      cases h
    | _ => exact .inl hx
  · right
    refine List.any_eq_true.mpr ⟨p, hp, List.any_eq_true.mpr ⟨x, hx, decide_eq_true rfl⟩⟩
  · simp only [exec, queue_ticket_step] at hs
    split at hs <;> cases List.mem_singleton.mp hs <;> cases h

/-- A ticket is not in the queue, by its account or by its connection, unless one was put in for it since
its offer was taken out. -/
def IsOut (srv : Server) (f : String × String → String) (c : HubSnapshot) (tr : List HubLabel)
    (x : Ticket) : Prop :=
  (∀ l ∈ sinceLast (takesOut srv x) tr, ∀ y, putsIn l = some y → f y.who ≠ f x.who) →
    f x.who ∉ c.world.automatch.roll.map f

/-- A ticket that is taken out of a queue where everybody is once is out, and then stays out. -/
lemma IsOut.step {srv f c l c' tr x} (st : Step (hubMachine srv) c l c')
    (once : (c.world.automatch.roll.map f).Nodup) (h : takesOut srv x l ∨ IsOut srv f c tr x) :
    IsOut srv f c' (l :: tr) x := by
  intro alone inside
  cases takes : takesOut srv x l with
  | true =>
    obtain ⟨p, hp, side⟩ := List.any_eq_true.mp takes
    obtain ⟨y, hy, own⟩ := List.any_eq_true.mp side
    have own : y.who = x.who := of_decide_eq_true own
    have apart := nodup_of_subperm (step_taken st (List.ne_nil_of_mem hp)) once
    rw [List.map_append] at apart
    have here : f x.who ∈ (((taken srv l).flatMap Pending.sides).map Ticket.who).map f := by
      rw [← own]
      exact List.mem_map_of_mem (List.mem_map_of_mem (List.mem_flatMap.mpr ⟨p, hp, hy⟩))
    exact (List.disjoint_of_nodup_append apart) here inside
  | false =>
    rw [sinceLast_miss takes] at alone
    have before := (h.resolve_left (by simp [takes])) fun l hl => alone l (List.mem_cons_of_mem _ hl)
    obtain ⟨w, hw, e⟩ := List.mem_map.mp inside
    rcases step_roll st hw with hw | ⟨y, put, rfl⟩
    · exact before (e ▸ List.mem_map_of_mem hw)
    · exact alone l List.mem_cons_self y put e

/-- Every ticket that was taken out is out. -/
structure TicketsOut (srv : Server) (f : String × String → String) (c : HubSnapshot)
    (tr : List HubLabel) : Prop where
  pending : ∀ t, ∀ s ∈ c.pending t, ∀ x ∈ s.held, IsOut srv f c tr x
  spawned : ∀ lid task, c.world.spawned.lookup lid = some task →
    IsOut srv f c tr task.a ∧ IsOut srv f c tr task.b

/-- In a run in which everybody was in the queue once, every ticket that was taken out is out. -/
theorem HubRun.tickets_out {srv f c tr} (r : HubRun srv c tr)
    (once : ∀ s ∈ visited c tr, (s.world.automatch.roll.map f).Nodup) : TicketsOut srv f c tr := by
  revert once
  apply r.induct (I := fun c tr => (∀ s ∈ visited c tr, (s.world.automatch.roll.map f).Nodup) →
    TicketsOut srv f c tr)
  · intro _
    constructor
    · intro t s hs
      cases hs
    · intro lid task asleep
      cases asleep
  · intro c tr l c' r ih st once
    rw [st.visited_cons] at once
    have ih := ih fun s hs => once s (List.mem_cons_of_mem _ hs)
    have here := once c (List.mem_cons_of_mem _ List.mem_cons_self)
    have stays : ∀ {x}, IsOut srv f c tr x → IsOut srv f c' (l :: tr) x :=
      fun h => IsOut.step st here (.inr h)
    cases st with
    | @run t s rest o e ho =>
      have st : Step (hubMachine srv) c (.ran t s o c) _ := .run e ho
      have own : ∀ x ∈ s.held, IsOut srv f c tr x := ih.pending t s (e ▸ List.mem_cons_self)
      constructor
      · intro t' s' hs' x hx
        by_cases ht : t' = t
        · subst ht
          simp only [Machine.afterRun, Function.update_self, List.mem_append] at hs'
          rcases hs' with new | old
          · rcases exec_held (t := t') new hx with held | takes
            · exact stays (own x held)
            · exact IsOut.step st here (.inl takes)
          · exact stays (ih.pending t' s' (e ▸ List.mem_cons_of_mem _ old) x hx)
        · simp only [Machine.afterRun, Function.update_of_ne ht] at hs'
          exact stays (ih.pending t' s' hs' x hx)
      · intro lid task ht
        rcases spawned_exec ht with ht | ⟨old, hs, ha, hb⟩
        · exact ⟨stays (ih.spawned lid task ht).1, stays (ih.spawned lid task ht).2⟩
        · have both : old.a ∈ s.held ∧ old.b ∈ s.held := by
            rcases hs with rfl | ⟨lid', ice, code, rfl⟩ <;>
              simp [Section.held, Section.tickets, Starter.tickets]
          rw [ha, hb]
          exact ⟨stays (own _ both.1), stays (own _ both.2)⟩
    | @event e _ _ =>
      constructor
      · intro t s hs x hx
        by_cases ht : t = (hubMachine srv).task e
        · subst ht
          simp only [Machine.afterEvent, Function.update_self] at hs
          rcases body_cases hs with kind | ⟨lid, task, rfl, ht, rfl⟩
          · have none : ∀ k ∈ eventKinds, k ∉ carrierKinds := by decide
            exact absurd (carrier_kind (Section.tickets_of_held hx)) (none _ kind)
          · rcases List.mem_pair.mp hx with rfl | rfl
            · exact stays (ih.spawned lid task ht).1
            · exact stays (ih.spawned lid task ht).2
        · simp only [Machine.afterEvent, Function.update_of_ne ht] at hs
          exact stays (ih.pending t s hs x hx)
      · intro lid task ht
        have before : c.world.spawned.lookup lid = some task := by
          cases e with
          | wake lid' => exact (lookup_erase_back ht).2
          | ws_ping p => exact World.send_spawned c.world p .empty ▸ ht
          | _ => exact ht
        exact ⟨stays (ih.spawned lid task before).1, stays (ih.spawned lid task before).2⟩

/-! ### The condition -/

/-- A ticket that goes in alone finds neither its account nor its connection in the queue. -/
lemma HubRun.adds_fresh {srv c tr l c'} (r : HubRun srv c tr)
    (once : ∀ s ∈ visited c tr, OneEach s.world.automatch) (st : Step (hubMachine srv) c l c')
    (alone : GoesInAlone srv l tr) : AddsFresh l := by
  cases st with
  | event _ _ => trivial
  | @run t s rest o e _ =>
    cases s with
    | queue_push req x =>
      obtain ⟨account, player⟩ := alone
      have absent : x.account_id ∉ c.world.automatch.accounts := by
        by_cases put : ∃ l ∈ sinceLast (looksFor t x.account_id) tr, ∃ y, putsIn l = some y ∧
            y.account_id = x.account_id
        · obtain ⟨l, hl, y, hy, own⟩ := put
          exact account l hl y hy own
        · refine HubRun.request_out r t _ (e ▸ List.mem_cons_self) _ rfl fun l hl y hy own => ?_
          exact put ⟨l, hl, y, hy, own⟩
      intro y hy
      have other : y.account_id ≠ x.account_id := fun own => absent (own ▸ List.mem_map_of_mem hy)
      exact ⟨other, fun own => other (player y hy own)⟩
    | requeue_front x =>
      have held : x ∈ (requeue_front x).held := List.mem_singleton_self _
      have out : ∀ f, (∀ s ∈ visited c tr, (s.world.automatch.roll.map f).Nodup) →
          IsOut srv f c tr x := fun f nodup =>
        (HubRun.tickets_out r nodup).pending t _ (e ▸ List.mem_cons_self) x held
      have accounts := out Prod.fst fun s hs => (oneEach_iff_roll.mp (once s hs)).1
      have players := out Prod.snd fun s hs => (oneEach_iff_roll.mp (once s hs)).2
      intro y hy
      constructor
      · by_cases put : ∃ l ∈ sinceLast (takesOut srv x) tr, ∃ z, putsIn l = some z ∧
            z.account_id = x.account_id
        · obtain ⟨l, hl, z, hz, own⟩ := put
          exact fun own' => (alone l hl z hz).1 own (own' ▸ List.mem_map_of_mem hy)
        · intro own'
          refine accounts (fun l hl z hz own => put ⟨l, hl, z, hz, own⟩) ?_
          exact List.mem_map.mpr ⟨y.who, List.mem_map_of_mem hy, own'⟩
      · by_cases put : ∃ l ∈ sinceLast (takesOut srv x) tr, ∃ z, putsIn l = some z ∧
            z.player_id = x.player_id
        · obtain ⟨l, hl, z, hz, own⟩ := put
          exact (alone l hl z hz).2 own y hy
        · intro own'
          refine players (fun l hl z hz own => put ⟨l, hl, z, hz, own⟩) ?_
          exact List.mem_map.mpr ⟨y.who, List.mem_map_of_mem hy, own'⟩
    | _ => trivial

/-- A ticket whose account and connection are not in the queue goes in alone. -/
lemma AddsFresh.alone {srv l tr} (h : AddsFresh l) : GoesInAlone srv l tr := by
  cases l with
  | came => trivial
  | ran t s o pre =>
    have absent : ∀ {x : Ticket}, (∀ y ∈ pre.world.automatch.sides, y.account_id ≠ x.account_id ∧
        y.player_id ≠ x.player_id) → x.account_id ∉ pre.world.automatch.accounts := by
      intro x h inside
      obtain ⟨y, hy, own⟩ := List.mem_map.mp inside
      exact (h y hy).1 own
    cases s with
    | queue_push req x =>
      exact ⟨fun _ _ _ _ _ => absent h, fun y hy own => absurd own (h y hy).2⟩
    | requeue_front x => exact fun _ _ _ _ => ⟨fun _ => absent h, fun _ y hy => (h y hy).2⟩
    | _ => trivial

/-- In a run, everybody is in the queue once in every snapshot if and only if every ticket goes in
alone. -/
theorem one_ticket_iff {srv c tr} (r : HubRun srv c tr) :
    (∀ s ∈ visited c tr, OneEach s.world.automatch) ↔
      ∀ later l earlier, tr = later ++ l :: earlier → GoesInAlone srv l earlier := by
  induction r with
  | start => simp [visited, OneEach, QueueInner.sides, hubMachine]
  | @step c tr l c' r st ih =>
    rw [st.visited_cons, List.forall_mem_cons, ih]
    constructor
    · rintro ⟨h', h⟩ later x earlier e
      cases later with
      | nil =>
        obtain ⟨rfl, rfl⟩ := List.cons.inj e
        have here := ih.mpr h c List.mem_cons_self
        exact ((oneEach_step st here).mp h').alone
      | cons y later => exact h later x earlier (List.cons.inj e).2
    · intro h
      have before : ∀ later x earlier, tr = later ++ x :: earlier → GoesInAlone srv x earlier :=
        fun later x earlier e => h (l :: later) x earlier (congrArg (l :: ·) e)
      have once := ih.mpr before
      have fresh := HubRun.adds_fresh r once st (h [] l tr rfl)
      exact ⟨(oneEach_step st (once c List.mem_cons_self)).mpr fresh, before⟩

/-- Bob's ticket goes back and everybody is in the queue once, so it went in alone. -/
theorem one_ticket_declined : ∃ c tr, HubRun sampleServer c tr ∧
    (∃ task t o pre, .ran task (requeue_front t) o pre ∈ tr) ∧
    (∀ s ∈ visited c tr, OneEach s.world.automatch) ∧
    ∀ later l earlier, tr = later ++ l :: earlier → GoesInAlone sampleServer l earlier := by
  let p := "6b0f1e52-3c1d-4a86-9a53-0d5f6f1c2a11"
  let q := "c4d1c1a0-5f0e-4a53-8d43-9f4b1f7f3b22"
  let once : HubSnapshot → Bool := fun s =>
    (s.world.automatch.sides.map (·.account_id)).Nodup &&
      (s.world.automatch.sides.map (·.player_id)).Nodup
  have h : ((hubMachine sampleServer).follow (declinesInTime p q)).any fun x =>
      x.2.any (runsKind .requeue_front) && (visited x.1 x.2).all once := by decide +kernel
  obtain ⟨c, tr, r, ht, -⟩ := Machine.follow_reaches h
  obtain ⟨back, each⟩ := (Bool.and_eq_true _ _).mp ht
  have each : ∀ s ∈ visited c tr, OneEach s.world.automatch := by
    intro s hs
    obtain ⟨accounts, players⟩ := (Bool.and_eq_true _ _).mp (List.all_eq_true.mp each s hs)
    exact ⟨of_decide_eq_true accounts, of_decide_eq_true players⟩
  refine ⟨c, tr, r, ?_, each, (one_ticket_iff r).mp each⟩
  obtain ⟨l, hl, hr⟩ := List.any_eq_true.mp back
  obtain ⟨task, s, o, pre, rfl, kind⟩ := runsKind_ran hr
  cases s with
  | requeue_front t => exact ⟨task, t, o, pre, hl⟩
  | _ => cases kind

/-- The run of that schedule. -/
lemma two_hellos_run : ∃ c tr, HubRun sampleServer c tr ∧
    ∃ p ∈ c.world.automatch.pending, p.a.player_id = p.b.player_id := by
  let test : HubSnapshot × List HubLabel → Bool := fun x =>
    x.1.world.automatch.pending.any fun p => p.a.player_id = p.b.player_id
  have h : ((hubMachine sampleServer).follow twoHellos).any test := by decide +kernel
  obtain ⟨c, tr, r, ht, -⟩ := Machine.follow_reaches h
  obtain ⟨p, hp, same⟩ := List.any_eq_true.mp ht
  exact ⟨c, tr, r, p, hp, of_decide_eq_true same⟩

/-- A connection is offered a match against itself. -/
theorem two_hellos_pair_with_themselves :
    ∃ c tr, HubRun sampleServer c tr ∧ ¬ OneEach c.world.automatch ∧
      ∃ p ∈ c.world.automatch.pending, p.a.player_id = p.b.player_id := by
  obtain ⟨c, tr, r, p, hp, same⟩ := two_hellos_run
  refine ⟨c, tr, r, ?_, p, hp, same⟩
  rintro ⟨-, nd⟩
  -- Both sides of the offer are in the list of connections.
  have sub : [p.a, p.b].Sublist c.world.automatch.sides := by
    apply List.Sublist.trans _ (List.sublist_append_right _ _)
    exact (List.singleton_sublist.mpr hp).flatMap Pending.sides
  have two := nd.sublist (sub.map _)
  simp [same] at two

end RecompNet
