import RecompNet.Hub.MatchRoom
import RecompNet.Hub.Tickets

/-!
# The start task of a match room

Who works for the start of a match: the section that spawns the start task of a room, the task asleep,
and the sections it runs once it is awake. All of them belong to one task, `Tid.start`, and a step that
is not one of theirs is `Apart` from the start: it changes nothing of it.
-/

namespace RecompNet

open Section Interleave

/-- The launch of the room that a step broadcasts. -/
def broadcastOf (srv : Server) (lid : String) : HubLabel → Option Launch
  | .ran _ s o pre => (exec srv s o pre.world).2.findSome? fun
    | send_to _ (.launch m) => if m.lobby_id = lid then some m else none
    | _ => none
  | .came .. => none

/-- The launches of the room that a trace broadcasts, the latest first. -/
def broadcasts (srv : Server) (lid : String) (tr : List HubLabel) : List Launch :=
  tr.filterMap (broadcastOf srv lid)

/-- When the start task of the room wakes up. -/
def wakeOf (lid : String) : HubLabel → Option Instant
  | .came (.wake lid') pre => if lid' = lid then some pre.world.now else none
  | _ => none

/-- When the start task of the room woke up, the latest first. -/
def wakes (lid : String) (tr : List HubLabel) : List Instant := tr.filterMap (wakeOf lid)

/-- The gate of `start_lobby` for the room, and whether it allows ICE. -/
def gateOf (lid : String) : HubLabel → Option (HubSnapshot × Bool)
  | .ran _ (start_prepare _ lid' _ allow_ice) _ pre =>
    if lid' = lid then some (pre, allow_ice) else none
  | _ => none

/-- The last gate that the room was taken through. -/
def lastGate (lid : String) (tr : List HubLabel) : Option (HubSnapshot × Bool) :=
  tr.findSome? (gateOf lid)

/-! ## Whose sections they are -/

/-- The room whose start task the section is part of. -/
def Section.startOf : Section → Option String
  | start_prepare (.server _) lid .. | start_commit (.server _) lid ..
  | start_failed (.server _) lid .. | start_abort lid _ => some lid
  | _ => none

/-- The kinds of these sections. -/
def startKinds : List SectionKind := [.start_prepare, .start_commit, .start_failed, .start_abort]

lemma start_kind {s : Section} {lid} (h : s.startOf = some lid) : s.kind ∈ startKinds := by
  cases s with
  | start_prepare | start_commit | start_failed | start_abort => simp [startKinds]
  | _ => cases h

/-- Such a section is started by one of the same start task. -/
lemma exec_startOf {srv s o w s' lid} (hs : s' ∈ (exec srv s o w).2) (h : s'.startOf = some lid) :
    s.startOf = some lid := by
  have called : ¬ ∀ k ∈ s.calls, k ∉ startKinds :=
    fun none => none _ (exec_calls _ hs) (start_kind h)
  cases s with
  | dispatch p ip msg =>
    cases hop : msg.op with
    | start =>
      simp only [exec, World.lift, dispatch_step, hop, handle_start, refuse] at hs
      repeat' split at hs
      all_goals
        cases List.mem_singleton.mp hs
        cases h
    | _ => exact absurd (by simp [hop, startKinds]) called
  | start_prepare st lid' caps ice =>
    simp only [exec, World.lift, start_prepare_step] at hs
    repeat' split at hs
    all_goals
      cases List.mem_singleton.mp hs
      cases st <;> exact h
  | start_commit st lid' caps sid sp tr ice =>
    simp only [exec, World.lift, start_commit_step] at hs
    split at hs
    · cases List.mem_singleton.mp hs
      cases st <;> exact h
    · obtain ⟨m, -, rfl⟩ := List.mem_map.mp hs
      cases h
  | start_failed st lid' ice code =>
    cases st with
    | host p caps =>
      simp only [exec, start_failed_step] at hs
      split_ifs at hs <;> cases List.mem_singleton.mp hs <;> cases h
    | server task =>
      simp only [exec, start_failed_step] at hs
      split_ifs at hs
      · cases List.mem_singleton.mp hs
        exact h
      · simp only [List.mem_cons, List.not_mem_nil, or_false] at hs
        rcases hs with rfl | rfl | rfl <;> cases h
      · cases hs
      · cases List.mem_singleton.mp hs
        exact h
  | _ => exact absurd (by simp [startKinds]) called

/-- The sections of a start task run in that task. -/
theorem HubRun.start_task {srv c tr} (r : HubRun srv c tr) :
    ∀ t, ∀ s ∈ c.pending t, ∀ lid, s.startOf = some lid → t = .start lid := by
  apply Run.tasks (M := hubMachine srv)
    (A := fun t ss => ∀ s ∈ ss, ∀ lid, s.startOf = some lid → t = .start lid) ?_ ?_ ?_ r
  · intro t s hs
    cases hs
  · intro t s rest o w h s' hs lid hl
    rcases List.mem_append.mp hs with hs | hs
    · exact h s List.mem_cons_self lid (exec_startOf hs hl)
    · exact h s' (List.mem_cons_of_mem _ hs) lid hl
  · intro e w s hs lid hl
    rcases body_cases hs with kind | ⟨lid', task, rfl, -, rfl⟩
    · have none : ∀ k ∈ eventKinds, k ∉ startKinds := by decide
      exact absurd (start_kind hl) (none _ kind)
    · cases hl
      rfl

/-- The section spawns the start task of the room. -/
def Section.spawns (lid : String) : Section → Bool
  | form_match_spawn task => task.lobby_id = lid
  | _ => false

lemma Section.spawns_kind {lid : String} {s : Section} (h : s.spawns lid) :
    s.kind = .form_match_spawn := by
  cases s with
  | form_match_spawn task => rfl
  | _ => cases h

/-- The start task of a room is spawned where the room is formed. -/
lemma exec_spawns {srv s o w s' lid} (hs : s' ∈ (exec srv s o w).2) (h : s'.spawns lid) :
    ∃ plan, s = form_match_room plan ∧ lid = o.uuid ∧ lid ∈ (exec srv s o w).1.issued := by
  have called : ¬ ∀ k ∈ s.calls, k ≠ .form_match_spawn :=
    fun none => none _ (exec_calls _ hs) (Section.spawns_kind h)
  cases s with
  | form_match_room plan =>
    refine ⟨plan, rfl, ?_⟩
    simp only [exec, form_match_room_step] at hs ⊢
    split_ifs at hs ⊢
    · simp only [List.map_cons, List.map_nil, List.mem_cons, List.not_mem_nil, or_false] at hs
      rcases hs with rfl | rfl <;> cases h
    · cases List.mem_singleton.mp hs
      cases h
    · simp only [List.mem_cons, List.not_mem_nil, or_false] at hs
      rcases hs with rfl | rfl | rfl | rfl
      · cases h
      · cases h
      · cases h
      · obtain rfl : o.uuid = lid := of_decide_eq_true h
        exact ⟨rfl, List.mem_cons_self⟩
  | dispatch p ip msg => cases hop : msg.op <;> exact absurd (by simp [hop]) called
  | _ => exact absurd (by simp) called

/-- A launch is broadcast by the commit of a start, to the members of the room. -/
lemma exec_launch {srv s o w q m} (hs : send_to q (.launch m) ∈ (exec srv s o w).2) :
    ∃ st lid caps sid sp tr ice l, s = start_commit st lid caps sid sp tr ice ∧
      w.hub.lobbies.lookup lid = some l ∧ m = launchOf w.now w.hub (l.launch caps sid) sp tr := by
  have called : ¬ ∀ k ∈ s.calls, k ≠ .send_to .launch :=
    fun none => none _ (exec_calls _ hs) rfl
  cases s with
  | start_commit st lid caps sid sp tr ice =>
    simp only [exec, World.lift, start_commit_step] at hs
    split at hs
    · cases List.mem_singleton.mp hs
    · rename_i l hl
      obtain ⟨q', -, e⟩ := List.mem_map.mp hs
      cases e
      exact ⟨st, lid, caps, sid, sp, tr, ice, l, rfl, hl, rfl⟩
  | dispatch p ip msg => cases hop : msg.op <;> exact absurd (by simp [hop]) called
  | _ => exact absurd (by simp) called

/-- A step that broadcasts a launch of a room commits a start of that room. -/
lemma broadcast_commits {srv t s o lid m} {pre : HubSnapshot} (basic : pre.world.Basic)
    (h : broadcastOf srv lid (.ran t s o pre) = some m) :
    ∃ st caps sid sp tr ice l, s = start_commit st lid caps sid sp tr ice ∧
      pre.world.hub.lobbies.lookup lid = some l ∧
      m = launchOf pre.world.now pre.world.hub (l.launch caps sid) sp tr := by
  obtain ⟨s', hs', hm⟩ := List.exists_of_findSome?_eq_some h
  split at hm
  · rename_i q m'
    split_ifs at hm with here
    obtain rfl := Option.some.inj hm
    obtain ⟨st, lid', caps, sid, sp, tr, ice, l, rfl, hl, rfl⟩ := exec_launch hs'
    have key : l.lobby_id = lid' := basic.lobby_key lid' l hl
    obtain rfl : lid' = lid := key.symm.trans here
    exact ⟨st, caps, sid, sp, tr, ice, l, rfl, hl, rfl⟩
  · cases hm

/-! ## Steps apart from a start -/

/-- A step changes nothing of the start of a room. -/
structure Apart (srv : Server) (lid : String) (l : HubLabel) (c c' : HubSnapshot) : Prop where
  pending : c'.pending (.start lid) = c.pending (.start lid)
  spawned : c'.world.spawned.lookup lid = c.world.spawned.lookup lid
  spawns : ∀ t, (c'.pending t).countP (Section.spawns lid) =
    (c.pending t).countP (Section.spawns lid)
  kept : ∀ t, ∀ s ∈ c'.pending t, s.spawns lid → s ∈ c.pending t
  wake : wakeOf lid l = none
  gate : gateOf lid l = none
  broadcast : broadcastOf srv lid l = none
  now : c.world.now ≤ c'.world.now

/-- A section that is not about the start of a room leaves the gate and the launches of it alone. -/
lemma not_start_silent {srv t s o lid} {pre : HubSnapshot} (basic : pre.world.Basic)
    (server : s.startOf ≠ some lid) (host : ∀ p, s.hostStart ≠ some (p, lid)) :
    gateOf lid (.ran t s o pre) = none ∧ broadcastOf srv lid (.ran t s o pre) = none := by
  constructor
  · cases s with
    | start_prepare st lid' caps ice =>
      simp only [gateOf]
      split_ifs with here
      · subst here
        cases st with
        | host p caps => exact absurd rfl (host p)
        | server task => exact absurd rfl server
      · rfl
    | _ => rfl
  · cases hb : broadcastOf srv lid (.ran t s o pre) with
    | none => rfl
    | some m =>
      obtain ⟨st, caps, sid, sp, tr, ice, l, rfl, -, -⟩ := broadcast_commits basic hb
      cases st with
      | host p caps => exact absurd rfl (host p)
      | server task => exact absurd rfl server

/-- A section that is not about the start of a room keeps its start task asleep. -/
lemma not_start_spawned {srv s o w lid} (server : s.startOf ≠ some lid)
    (spawn : s.spawns lid = false) :
    (exec srv s o w).1.spawned.lookup lid = w.spawned.lookup lid := by
  by_cases hs : ∃ task, s = form_match_spawn task
  · obtain ⟨task, rfl⟩ := hs
    have other : lid ≠ task.lobby_id := fun same => of_decide_eq_false spawn same.symm
    exact AList.lookup_insert_ne other
  · by_cases hf : ∃ st lid' ice code, s = start_failed st lid' ice code
    · obtain ⟨st, lid', ice, code, rfl⟩ := hf
      simp only [exec, start_failed_step]
      cases st with
      | host p caps =>
        dsimp only
        split <;> rfl
      | server task =>
        have other : lid ≠ lid' := fun same => server (congrArg some same.symm)
        dsimp only
        split_ifs
        · rfl
        · rfl
        · exact AList.lookup_insert_ne other
        · rfl
    · rw [exec_spawned (fun t e => hs ⟨t, e⟩) fun st l i c e => hf ⟨st, l, i, c, e⟩]

/-- A section of another task is apart from the start of a room, if no host starts it and it is not
spawned now. -/
lemma apart_run {srv c tr t s rest o lid} (r : HubRun srv c tr) (e : c.pending t = s :: rest)
    (other : t ≠ .start lid) (host : ∀ p, s.hostStart ≠ some (p, lid))
    (spawn : s.spawns lid = false) (none : ∀ s' ∈ (exec srv s o c.world).2, ¬ s'.spawns lid) :
    Apart srv lid (.ran t s o c) c ((hubMachine srv).afterRun c t s rest o) := by
  have server : s.startOf ≠ some lid :=
    fun h => other (HubRun.start_task r t s (e ▸ List.mem_cons_self) lid h)
  obtain ⟨gate, broadcast⟩ := @not_start_silent srv t s o lid c (HubRun.basic r)
    server host
  refine ⟨?_, not_start_spawned server spawn, ?_, ?_, rfl, gate, broadcast, ?_⟩
  · exact Function.update_of_ne (Ne.symm other) _ _
  · intro t'
    by_cases ht : t' = t
    · subst ht
      simp only [Machine.afterRun, Function.update_self, e, List.countP_append, List.countP_cons,
        spawn, Bool.false_eq_true, if_false, Nat.add_zero]
      have none : ((hubMachine srv).exec s o c.world).2.countP (Section.spawns lid) = 0 :=
        List.countP_eq_zero.mpr none
      omega
    · simp only [Machine.afterRun, Function.update_of_ne ht]
  · intro t' s' hs' h
    by_cases ht : t' = t
    · subst ht
      simp only [Machine.afterRun, Function.update_self] at hs'
      rcases List.mem_append.mp hs' with hs' | hs'
      · exact absurd h (none s' hs')
      · exact e ▸ List.mem_cons_of_mem _ hs'
    · simpa only [Machine.afterRun, Function.update_of_ne ht] using hs'
  · exact exec_now.ge

/-- An event that does not wake the start task of a room is apart from its start. -/
lemma apart_event {srv c e lid} (idle : c.pending ((hubMachine srv).task e) = [])
    (asleep : e ≠ .wake lid) :
    Apart srv lid (.came e c) c ((hubMachine srv).afterEvent c e) := by
  have other : Tid.start lid ≠ (hubMachine srv).task e := by
    intro same
    cases e with
    | wake lid' => exact asleep (congrArg Event.wake (Tid.start.inj same).symm)
    | _ => cases same
  have none : ∀ s ∈ (hubMachine srv).body e c.world, ¬ s.spawns lid := by
    intro s hs h
    have kind := body_kinds hs
    rw [Section.spawns_kind h] at kind
    simp at kind
  refine ⟨Function.update_of_ne other _ _, ?_, ?_, ?_, ?_, rfl, rfl, ?_⟩
  · cases e with
    | wake lid' =>
      have ne : lid ≠ lid' := fun same => asleep (congrArg Event.wake same.symm)
      exact AList.lookup_erase_ne ne
    | ws_ping p => exact congrArg (·.lookup lid) (World.send_spawned c.world p .empty)
    | _ => rfl
  · intro t
    by_cases ht : t = (hubMachine srv).task e
    · subst ht
      simp only [Machine.afterEvent, Function.update_self, List.countP_eq_zero.mpr none, idle,
        List.countP_nil]
    · simp only [Machine.afterEvent, Function.update_of_ne ht]
  · intro t s hs h
    by_cases ht : t = (hubMachine srv).task e
    · subst ht
      simp only [Machine.afterEvent, Function.update_self] at hs
      exact absurd h (none s hs)
    · simpa only [Machine.afterEvent, Function.update_of_ne ht] using hs
  · cases e with
    | wake lid' => exact if_neg fun same => asleep (congrArg Event.wake same)
    | _ => rfl
  · exact apply_now

/-! ## Rooms that were not made -/

/-- Nothing of the start of a room happened. -/
structure Unstarted (srv : Server) (lid : String) (c : HubSnapshot) (tr : List HubLabel) :
    Prop where
  asleep : c.world.spawned.lookup lid = none
  idle : c.pending (.start lid) = []
  unwoken : wakes lid tr = []
  silent : broadcasts srv lid tr = []

/-- A step that is apart from a start leaves it as it is. -/
lemma Unstarted.apart {srv lid c tr l c'} (h : Unstarted srv lid c tr)
    (apart : Apart srv lid l c c') : Unstarted srv lid c' (l :: tr) where
  asleep := apart.spawned.trans h.asleep
  idle := apart.pending.trans h.idle
  unwoken := (List.filterMap_cons_none apart.wake).trans h.unwoken
  silent := (List.filterMap_cons_none apart.broadcast).trans h.silent

/-- No room that was not made is started. -/
theorem HubRun.unstarted {srv c tr} (r : HubRun srv c tr) : ∀ lid ∉ c.world.issued,
    Unstarted srv lid c tr ∧ ∀ t, (c.pending t).countP (Section.spawns lid) = 0 := by
  apply r.induct (I := fun c tr => ∀ lid ∉ c.world.issued,
    Unstarted srv lid c tr ∧ ∀ t, (c.pending t).countP (Section.spawns lid) = 0)
  · exact fun lid _ => ⟨⟨rfl, rfl, rfl, rfl⟩, fun _ => rfl⟩
  · intro c tr l c' r ih st lid new
    cases st with
    | @run t s rest o e _ =>
      obtain ⟨un, none⟩ := ih lid fun drawn => new (exec_issued drawn)
      have here : s ∈ c.pending t := e ▸ List.mem_cons_self
      have apart : Apart srv lid (.ran t s o c) c ((hubMachine srv).afterRun c t s rest o) := by
        apply apart_run r e
        · rintro rfl
          rw [un.idle] at e
          cases e
        · exact fun p h => new (exec_issued (HubRun.host_starts r t s here p lid h).2.1)
        · simpa using List.countP_eq_zero.mp (none t) s here
        · intro s' hs' spawn
          obtain ⟨plan, rfl, -, drawn⟩ := exec_spawns hs' spawn
          exact new drawn
      exact ⟨un.apart apart, fun t => (apart.spawns t).trans (none t)⟩
    | @event e idle enabled =>
      obtain ⟨un, none⟩ := ih lid fun drawn => new (apply_issued drawn)
      have apart : Apart srv lid (.came e c) c ((hubMachine srv).afterEvent c e) := by
        apply apart_event idle
        rintro rfl
        have awake : (c.world.spawned.lookup lid).any (·.wake_at ≤ c.world.now) := enabled
        rw [un.asleep] at awake
        cases awake
      exact ⟨un.apart apart, fun t => (apart.spawns t).trans (none t)⟩

end RecompNet
