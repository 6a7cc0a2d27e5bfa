import RecompNet.Hub.MatchStart

/-!
# The launch of a match

The start of a match from the section that forms its room to the launch. Whatever else the hub does,
while both players stay in the room the start task tries the gate every second, commits once and is
done.
-/

open scoped List

namespace RecompNet

open Section Interleave

/-- Whoever is noted in a room is noted under an id that was issued. -/
theorem HubRun.noted_issued {srv c tr} (r : HubRun srv c tr) :
    ∀ p lid, c.world.hub.lobby_id_of p = some lid → lid ∈ c.world.issued := by
  apply r.induct (I := fun c _ => ∀ p lid, c.world.hub.lobby_id_of p = some lid →
    lid ∈ c.world.issued)
  · intro p lid hp
    cases hp
  · intro c tr l c' r ih st p lid hp
    have basic := HubRun.basic r
    obtain ⟨row', hrow', note⟩ := Option.bind_eq_some_iff.mp hp
    cases st with
    | @run t s rest o e ho =>
      obtain ⟨row, hrow, edit⟩ := exec_row p row' hrow'
      have same : row'.lobby_id = row.lobby_id → lid ∈ (exec srv s o c.world).1.issued :=
        fun e => exec_issued (ih p lid (Option.bind_eq_some_iff.mpr ⟨row, hrow, e ▸ note⟩))
      cases edit with
      | create =>
        cases note
        exact List.mem_cons_self
      | sit hl =>
        cases note
        exact exec_issued (basic.lobby_issued _ _ hl)
      | @form plan among =>
        cases note
        replace hrow' : (form_match_room_step srv o c.world plan).1.hub.clients.lookup p =
            some _ := hrow'
        show o.uuid ∈ (form_match_room_step srv o c.world plan).1.issued
        unfold form_match_room_step at hrow' ⊢
        dsimp only at hrow' ⊢
        split_ifs at hrow' ⊢
        · exact ih p _ (Option.bind_eq_some_iff.mpr ⟨_, hrow', rfl⟩)
        · exact ih p _ (Option.bind_eq_some_iff.mpr ⟨_, hrow', rfl⟩)
        · exact List.mem_cons_self
      | kicked | leave | destroy => cases note
      | _ => exact same rfl
    | @event e _ _ =>
      rcases apply_client_back hrow' with old | ⟨ip, -, rfl⟩
      · exact apply_issued (ih p lid (Option.bind_eq_some_iff.mpr ⟨row', old, note⟩))
      · cases note

/-- The start of a room is given up in its start task. -/
lemma Section.GivesUp.start {s : Section} {lid : String} (h : s.GivesUp lid) :
    s.startOf = some lid := by
  rcases h with ⟨task, ice, code, rfl⟩ | ⟨code, rfl⟩ <;> rfl

/-- What is about to be destroyed has an id that was issued. -/
theorem HubRun.destroys_issued {srv c tr} (r : HubRun srv c tr) :
    Holds (fun w _ s => ∀ lid, s = destroy_lobby lid → lid ∈ w.issued) c := by
  apply r.induct
    (I := fun c _ => Holds (fun w _ s => ∀ lid, s = destroy_lobby lid → lid ∈ w.issued) c)
  · exact Holds.start _
  · intro c tr l c' r ih st
    cases st with
    | @run t s rest o e ho =>
      apply ih.run e
      · exact fun _ _ _ h lid hd => exec_issued (h lid hd)
      · rintro s' hs' lid rfl
        apply exec_issued
        rcases exec_destroys hs' with ⟨p, l, -, hl, -⟩ | ⟨p, -, hp⟩ | gives
        · exact (HubRun.basic r).lobby_issued _ l hl
        · exact HubRun.noted_issued r p lid hp
        · by_contra new
          have here : s ∈ c.pending t := e ▸ List.mem_cons_self
          obtain rfl := HubRun.start_task r t s here lid gives.start
          rw [(HubRun.unstarted r lid new).1.idle] at e
          cases e
    | @event e _ _ =>
      apply ih.event
      · exact fun _ _ _ h lid hd => apply_issued (h lid hd)
      · rintro s hs lid rfl
        have kind := body_kinds hs
        simp at kind

section
variable {srv : Server} {g : HubInner} {plan : MatchPlan} {lid : String} {c : HubSnapshot}
  {tr : List HubLabel}

/-- What the start task of a match runs while both players stay: it never gives the start up after
the gate that allows ICE, nor for another reason than a missing proof. -/
inductive RunsStart (lid : String) : Section → Prop where
  | gate {task allow_ice} : RunsStart lid (start_prepare (.server task) lid none allow_ice)
  | refused {task} : RunsStart lid (start_failed (.server task) lid false .relay_unavailable)
  | commit {task sid sp transport allow_ice} :
    RunsStart lid (start_commit (.server task) lid none sid sp transport allow_ice)
  | launch {q m} : RunsStart lid (send_to q (.launch m))

lemma StartStage.runs {s rest} (h : StartStage srv plan lid c tr)
    (e : c.pending (.start lid) = s :: rest) : RunsStart lid s := by
  have here : s ∈ c.pending (.start lid) := e ▸ List.mem_cons_self
  cases h with
  | spawning un =>
    rw [un.idle] at here
    cases here
  | asleep _ _ idle =>
    rw [idle] at here
    cases here
  | awake awake atWork =>
    rw [awake.works, List.mem_singleton] at here
    subst here
    cases atWork with
    | gate => exact .gate
    | refused => exact .refused
    | commit => exact .commit
  | launched _ _ sends =>
    obtain ⟨q, m, rfl⟩ := sends s here
    exact .launch

/-- The start task runs one of its sections. -/
lemma StartStage.work {s rest o} (h : StartStage srv plan lid c tr) (r : HubRun srv c tr)
    (held : MatchHeld srv g plan lid c) (e : c.pending (.start lid) = s :: rest) :
    StartStage srv plan lid ((hubMachine srv).afterRun c (.start lid) s rest o)
      (.ran (.start lid) s o c :: tr) ∧ destroy_lobby lid ∉ (exec srv s o c.world).2 := by
  have here : s ∈ c.pending (.start lid) := e ▸ List.mem_cons_self
  cases h with
  | spawning un =>
    rw [un.idle] at here
    cases here
  | asleep _ _ idle =>
    rw [idle] at here
    cases here
  | awake awake atWork =>
    obtain ⟨rfl, rfl⟩ := List.cons.inj (awake.works.symm.trans e)
    exact awake.work r held atWork
  | @launched later l0 earlier m gone once sends none_asleep few split hit decided =>
    obtain ⟨q, m', rfl⟩ := sends s here
    have starts : (exec srv (send_to q (.launch m')) o c.world).2 = [] := rfl
    have split' : .ran (.start lid) (send_to q (.launch m')) o c :: tr =
        (.ran (.start lid) (send_to q (.launch m')) o c :: later) ++ l0 :: earlier := by
      rw [split, List.cons_append]
    refine ⟨.launched (unspawned_run gone e (by simp)) ?_ ?_ ?_ few split' hit decided, ?_⟩
    · exact (List.filterMap_cons_none (broadcast_none r (by simp))).trans once
    · intro s' hs'
      simp only [Machine.afterRun, Function.update_self] at hs'
      exact sends s' (e ▸ List.mem_cons_of_mem _ hs')
    · exact (congrArg (·.lookup lid) (World.send_spawned c.world q _)).trans none_asleep
    · rw [starts]
      exact List.not_mem_nil

/-- A step of the hub keeps the room and takes its start on, if no matched player leaves. -/
lemma StartStage.step {l c'} (h : StartStage srv plan lid c tr) (r : HubRun srv c tr)
    (held : MatchHeld srv g plan lid c) (st : Step (hubMachine srv) c l c')
    (stays : ¬ LeavesMatch plan lid l) :
    MatchHeld srv g plan lid c' ∧ StartStage srv plan lid c' (l :: tr) := by
  cases st with
  | @run t s rest o e ho =>
    have here : s ∈ c.pending t := e ▸ List.mem_cons_self
    by_cases ht : t = .start lid
    · subst ht
      obtain ⟨stage, calm⟩ := h.work (o := o) r held e
      exact ⟨held.run r e ho stays fun _ => calm, stage⟩
    · have held' : MatchHeld srv g plan lid ((hubMachine srv).afterRun c t s rest o) := by
        refine held.run r e ho stays fun gives => ?_
        exact absurd (HubRun.start_task r t s here lid gives.start) ht
      refine ⟨held', ?_⟩
      cases spawns : s.spawns lid with
      | true =>
        cases s with
        | form_match_spawn task => exact h.spawn e (of_decide_eq_true spawns)
        | _ => cases spawns
      | false =>
        obtain ⟨room, hl, match_room⟩ := held.room
        refine h.apart (apart_run r e ht ?_ spawns ?_)
        · intro p host
          obtain ⟨named, -, own⟩ := HubRun.host_starts r t s here p lid host
          exact named ((own room hl).symm.trans match_room.same.host)
        · intro s' hs' spawn
          obtain ⟨plan', -, rfl, -⟩ := exec_spawns hs' spawn
          exact ho.2.1 ((HubRun.basic r).lobby_issued _ room hl)
  | @event e idle enabled =>
    refine ⟨held.event, ?_⟩
    by_cases wakes : e = .wake lid
    · subst wakes
      exact h.wake enabled
    · exact h.apart (apart_event idle wakes)

end

/-! ## From the formation on -/

/-- The step forms the room of a match. -/
def FormsMatch (srv : Server) (plan : MatchPlan) (lid : String) : HubLabel → Prop
  | .ran _ (form_match_room plan') o pre => plan' = plan ∧ o.uuid = lid ∧
      ((exec srv (form_match_room plan) o pre.world).1.hub.lobbies.lookup lid).isSome
  | _ => False

section
variable {srv : Server} {plan : MatchPlan} {c : HubSnapshot} {tr : List HubLabel} {t : Tid}
  {rest : List Section} {o : Answer}

/-- What the section that forms a room leaves, when it does. -/
lemma form_match_room_made {w : World} (fresh : w.hub.lobbies.lookup o.uuid = none)
    (made : ((exec srv (form_match_room plan) o w).1.hub.lobbies.lookup o.uuid).isSome) :
    (exec srv (form_match_room plan) o w).1.hub.lobbies.lookup o.uuid =
      some (matchLobby srv w.hub plan o.uuid) ∧
    ∃ (sid : Nat) (task : StartTask), task.lobby_id = o.uuid ∧ task.ice_pair = plan.p.is_ice ∧
      task.deadline = none ∧
      (exec srv (form_match_room plan) o w).2 =
        [form_match_joined plan o.uuid sid 0, form_match_joined plan o.uuid sid 1,
          emit_lobby_update o.uuid, form_match_spawn task] := by
  simp only [exec, form_match_room_step] at made ⊢
  split_ifs at made ⊢
  · rw [fresh] at made
    cases made
  · rw [fresh] at made
    cases made
  · exact ⟨AList.lookup_insert _, _, _, rfl, rfl, rfl, rfl⟩

/-- The room of a match is held from its formation on. -/
lemma MatchHeld.formed (r : HubRun srv c tr) (e : c.pending t = form_match_room plan :: rest)
    (ho : o.possible c.world)
    (made : ((exec srv (form_match_room plan) o c.world).1.hub.lobbies.lookup o.uuid).isSome) :
    MatchHeld srv c.world.hub plan o.uuid
      ((hubMachine srv).afterRun c t (form_match_room plan) rest o) := by
  have new : o.uuid ∉ c.world.issued := ho.2.1
  have fresh : c.world.hub.lobbies.lookup o.uuid = none :=
    Option.eq_none_iff_forall_not_mem.mpr fun l hl => new ((HubRun.basic r).lobby_issued _ l hl)
  obtain ⟨room, sid, task, -, -, -, starts⟩ := form_match_room_made fresh made
  obtain ⟨caps, dial⟩ := HubRun.plan_ready (r.step (.run e ho)) List.mem_cons_self
  refine ⟨⟨_, room, Lobby.SameMatch.refl _, caps, dial⟩, ?_, ?_⟩
  · intro p hp
    obtain ⟨row', hrow', note⟩ := Option.bind_eq_some_iff.mp hp
    obtain ⟨row, hrow, edit⟩ := exec_row p row' hrow'
    cases edit with
    | same =>
      have noted := Option.bind_eq_some_iff.mpr ⟨_, hrow, note⟩
      exact absurd (HubRun.noted_issued r p _ noted) new
    | form among => exact among
  · intro t' hd
    have old : destroy_lobby o.uuid ∉ c.pending t' :=
      fun hd => new (HubRun.destroys_issued r t' _ hd _ rfl)
    by_cases ht : t' = t
    · subst ht
      simp only [Machine.afterRun, Function.update_self, hubMachine, starts] at hd
      rcases List.mem_append.mp hd with hd | hd
      · simp at hd
      · exact old (e ▸ List.mem_cons_of_mem _ hd)
    · simp only [Machine.afterRun, Function.update_of_ne ht] at hd
      exact old hd

/-- Its start task is about to be spawned. -/
lemma StartStage.formed (r : HubRun srv c tr) (e : c.pending t = form_match_room plan :: rest)
    (ho : o.possible c.world)
    (made : ((exec srv (form_match_room plan) o c.world).1.hub.lobbies.lookup o.uuid).isSome) :
    StartStage srv plan o.uuid ((hubMachine srv).afterRun c t (form_match_room plan) rest o)
      (.ran t (form_match_room plan) o c :: tr) := by
  have new : o.uuid ∉ c.world.issued := ho.2.1
  have fresh : c.world.hub.lobbies.lookup o.uuid = none :=
    Option.eq_none_iff_forall_not_mem.mpr fun l hl => new ((HubRun.basic r).lobby_issued _ l hl)
  obtain ⟨-, sid, task, own, pair, open_ended, starts⟩ := form_match_room_made fresh made
  obtain ⟨un, none⟩ := HubRun.unstarted r o.uuid new
  have spawned := @exec_spawned srv (form_match_room plan) o c.world (by simp) (by simp)
  have other : Tid.start o.uuid ≠ t := by
    rintro rfl
    rw [un.idle] at e
    cases e
  have here : ((hubMachine srv).afterRun c t (form_match_room plan) rest o).pending t =
      [form_match_joined plan o.uuid sid 0, form_match_joined plan o.uuid sid 1,
        emit_lobby_update o.uuid, form_match_spawn task] ++ rest := by
    simp only [Machine.afterRun, Function.update_self, hubMachine, starts]
  have there : ∀ t' ≠ t, ((hubMachine srv).afterRun c t (form_match_room plan) rest o).pending t' =
      c.pending t' := fun t' ht => Function.update_of_ne ht _ _
  have behind : rest.countP (Section.spawns o.uuid) = 0 := by
    have all := none t
    rw [e, List.countP_cons] at all
    omega
  have un' : Unstarted srv o.uuid ((hubMachine srv).afterRun c t (form_match_room plan) rest o)
      (.ran t (form_match_room plan) o c :: tr) :=
    { asleep := (congrArg (·.lookup o.uuid) spawned).trans un.asleep
      idle := (there _ other).trans un.idle
      unwoken := un.unwoken
      silent := (List.filterMap_cons_none (broadcast_none r (by simp))).trans un.silent }
  have one : (((hubMachine srv).afterRun c t (form_match_room plan) rest o).pending t).countP
      (Section.spawns o.uuid) = 1 := by
    rw [here, List.countP_append, behind]
    simp [Section.spawns, own]
  refine .spawning un' one (fun t' ht => (congrArg _ (there t' ht)).trans (none t')) ?_
  intro t' task' hs' own'
  have spawns : Section.spawns o.uuid (form_match_spawn task') = true := decide_eq_true own'
  by_cases ht : t' = t
  · subst ht
    rw [here] at hs'
    rcases List.mem_append.mp hs' with hs' | hs'
    · simp only [List.mem_cons, List.not_mem_nil, or_false, reduceCtorEq, false_or,
        form_match_spawn.injEq] at hs'
      subst hs'
      exact ⟨pair, open_ended⟩
    · exact absurd spawns (List.countP_eq_zero.mp behind _ hs')
  · rw [there t' ht] at hs'
    exact absurd spawns (List.countP_eq_zero.mp (none t') _ hs')

end

/-- Nothing of the start of a room is left to do. -/
structure StartDone (lid : String) (c : HubSnapshot) : Prop where
  unspawned : ∀ t, (c.pending t).countP (Section.spawns lid) = 0
  up : c.world.spawned.lookup lid = none
  idle : c.pending (.start lid) = []

/-- The start of a match, from the formation of its room until now. -/
structure MatchStarts (srv : Server) (plan : MatchPlan) (lid : String) (c : HubSnapshot)
    (tr later : List HubLabel) : Prop where
  /-- The room stands, and nobody is about to destroy it. -/
  stands : (c.world.hub.lobbies.lookup lid).isSome ∧ ∀ t, destroy_lobby lid ∉ c.pending t
  /-- The start task goes through the gate, waits and commits, and does nothing else. -/
  runs : ∀ s o pre, .ran (.start lid) s o pre ∈ later → RunsStart lid s
  /-- It tries the gate at most this often. -/
  few : (wakes lid tr).length ≤ 31
  /-- It broadcasts one launch at most, and has broadcast one when it is done. -/
  once : (broadcasts srv lid tr).length ≤ 1
  launched : StartDone lid c → (broadcasts srv lid tr).length = 1
  /-- The transport is the one that the last gate found. -/
  decided : ∀ m ∈ broadcasts srv lid tr, ∃ later l earlier, tr = later ++ l :: earlier ∧
    broadcastOf srv lid l = some m ∧ Decided plan lid earlier m.transport

section
variable {srv : Server} {plan : MatchPlan} {lid : String} {c : HubSnapshot} {tr : List HubLabel}

/-- The window of the proof is at most thirty seconds long. -/
lemma wakes_le {n : Nat} (h : n * NANOS ≤ proofWindow plan.p) : n ≤ 30 := by
  obtain ⟨k, hk, secs⟩ := proofWindow_secs plan.p
  rw [secs] at h
  exact (Nat.le_of_mul_le_mul_right h (by decide)).trans hk

/-- What a stage says of the launch. -/
lemma StartStage.starts {g : HubInner} {later : List HubLabel} (h : StartStage srv plan lid c tr)
    (held : MatchHeld srv g plan lid c)
    (runs : ∀ s o pre, .ran (.start lid) s o pre ∈ later → RunsStart lid s) :
    MatchStarts srv plan lid c tr later := by
  obtain ⟨room, hl, -⟩ := held.room
  have stands : (c.world.hub.lobbies.lookup lid).isSome ∧ ∀ t, destroy_lobby lid ∉ c.pending t :=
    ⟨by rw [hl]; rfl, held.standing⟩
  -- Before the launch the start is not done.
  have before : broadcasts srv lid tr = [] → (wakes lid tr).length ≤ 31 → ¬ StartDone lid c →
      MatchStarts srv plan lid c tr later := by
    intro silent few busy
    refine ⟨stands, runs, few, ?_, fun done => absurd done busy, ?_⟩
    · rw [silent]
      exact Nat.zero_le _
    · rw [silent]
      exact fun m hm => by cases hm
  cases h with
  | @spawning t un one =>
    refine before un.silent ?_ fun done => ?_
    · rw [un.unwoken]
      exact Nat.zero_le _
    · rw [done.unspawned t] at one
      cases one
  | asleep _ silent _ sleeps _ asleep =>
    refine before silent ?_ fun done => ?_
    · cases asleep with
      | settle unwoken =>
        rw [unwoken]
        exact Nat.zero_le _
      | retry _ _ _ few => exact (wakes_le few).trans (by decide)
    · rw [done.up] at sleeps
      cases sleeps
  | awake awake =>
    refine before awake.silent ?_ fun done => ?_
    · have few := wakes_le awake.few
      omega
    · have works := awake.works
      rw [done.idle] at works
      cases works
  | @launched later' l earlier m _ once _ _ few split hit decided =>
    refine ⟨stands, runs, ?_, ?_, fun _ => ?_, ?_⟩
    · have few := wakes_le few
      omega
    · rw [once]
      exact le_rfl
    · rw [once]
      rfl
    · intro m' hm'
      rw [once, List.mem_singleton] at hm'
      subst hm'
      exact ⟨later', l, earlier, split, hit, decided⟩

/-- The room is held and its start goes on, however long the run goes on. -/
lemma FormsMatch.held {formed : HubLabel} {earlier : List HubLabel}
    (forms : FormsMatch srv plan lid formed) (later : List HubLabel) (r : HubRun srv c tr)
    (split : tr = later ++ formed :: earlier) (stays : ∀ l ∈ later, ¬ LeavesMatch plan lid l) :
    MatchHeld srv formed.pre.world.hub plan lid c ∧ StartStage srv plan lid c tr ∧
      ∀ s o pre, .ran (.start lid) s o pre ∈ later → RunsStart lid s := by
  induction later generalizing c tr with
  | nil =>
    subst split
    cases r with
    | step r st =>
      cases st with
      | @run t s rest o e ho =>
        cases s with
        | form_match_room plan' =>
          obtain ⟨rfl, rfl, made⟩ := forms
          exact ⟨.formed r e ho made, .formed r e ho made, fun _ _ _ h => by cases h⟩
        | _ => cases forms
      | event => cases forms
  | cons l later ih =>
    subst split
    cases r with
    | @step c _ _ c' r st =>
      obtain ⟨stay, stays⟩ := List.forall_mem_cons.mp stays
      obtain ⟨held, stage, runs⟩ := ih r rfl stays
      obtain ⟨held', stage'⟩ := stage.step r held st stay
      refine ⟨held', stage', fun s o pre h => ?_⟩
      rcases List.mem_cons.mp h with rfl | h
      · cases st with
        | run e => exact stage.runs e
      · exact runs s o pre h

end

/-- **A match starts.** As long as both players stay in the room that was formed for them, it
stands, its start task broadcasts one launch and never gives up, and the launch runs over the host
relay iff the gate found every other seat proven, else over ICE after the window of the proof. -/
theorem match_starts {srv : Server} {plan : MatchPlan} {lid : String} {c : HubSnapshot}
    {tr later earlier : List HubLabel} {formed : HubLabel} (r : HubRun srv c tr)
    (split : tr = later ++ formed :: earlier) (forms : FormsMatch srv plan lid formed)
    (stays : ∀ l ∈ later, ¬ LeavesMatch plan lid l) : MatchStarts srv plan lid c tr later := by
  obtain ⟨held, stage, runs⟩ := forms.held later r split stays
  exact stage.starts held runs

/-- Alice and Bob queue and both accept; nobody proves that the relay is reached, and half a minute
after the first refusal the start task tries again. -/
def matchOverIce (p q lid : String) : List Move :=
  let o := draw "9b1deb4d-3b7d-4bad-9bdd-2b0d7b3dcb6d"
  let m1 := draw o.uuid ["m1"]
  let m2 := draw o.uuid ["m2"]
  let yes : InMsg := { op := .automatch_accept, accept := some true }
  signIn p alice m1 ++ [say p queueUp] ++ steps (.conn p) 12 m1 ++
    signIn q bob m2 ++ [say q queueUp] ++ steps (.conn q) 12 m2 ++ steps (.conn q) 2 o ++
    [say p yes] ++ steps (.conn p) 4 o ++ [say q yes] ++
    steps (.conn q) 6 (draw lid) ++ steps (.conn q) 8 o ++
    [.event (.pass (3 * NANOS) 3), .event (.wake lid)] ++ steps (.start lid) 2 o ++
    [.event (.pass (30 * NANOS) 30), .event (.wake lid)] ++ steps (.start lid) 6 o

/-- Does the step form a match in the room? -/
def formsIn (lid : String) : HubLabel → Bool
  | .ran _ (form_match_room plan) o pre => o.uuid = lid &&
      ((exec sampleServer (form_match_room plan) o pre.world).1.hub.lobbies.lookup lid).isSome
  | _ => false

/-- Does somebody leave in the step? -/
def leaves : HubLabel → Bool
  | .ran _ (client_leave _) _ _ => true
  | _ => false

/-- The match of Alice and Bob is launched over ICE. -/
theorem match_starts_ice : ∃ plan lid c tr later earlier formed, HubRun sampleServer c tr ∧
    tr = later ++ formed :: earlier ∧ FormsMatch sampleServer plan lid formed ∧
    MatchStarts sampleServer plan lid c tr later ∧ (broadcasts sampleServer lid tr).length = 1 := by
  let p := "6b0f1e52-3c1d-4a86-9a53-0d5f6f1c2a11"
  let q := "c4d1c1a0-5f0e-4a53-8d43-9f4b1f7f3b22"
  let lid := "1f8a9f0e-7d2b-4b57-8f6f-2f6f2b0c9d01"
  let test : HubSnapshot × List HubLabel → Bool := fun x =>
    (x.2[20]?).any (formsIn lid) && (x.2.take 20).all (! leaves ·) &&
      (x.1.world.spawned.lookup lid).isNone
  have h : ((hubMachine sampleServer).follow (matchOverIce p q lid)).any fun x =>
      test x && [Tid.conn p, .conn q, .start lid, .clock].all fun t => (x.1.pending t).isEmpty := by
    decide
  obtain ⟨c, tr, r, ht, quiet⟩ := Machine.follow_quiet _ (by decide) h
  obtain ⟨ht, up⟩ := (Bool.and_eq_true _ _).mp ht
  obtain ⟨made, stays⟩ := (Bool.and_eq_true _ _).mp ht
  obtain ⟨formed, here, made⟩ := (Option.any_eq_true _ _).mp made
  obtain ⟨long, rfl⟩ := List.getElem?_eq_some_iff.mp here
  have split : tr = tr.take 20 ++ tr[20] :: tr.drop 21 := by
    rw [← List.drop_eq_getElem_cons, List.take_append_drop]
  obtain ⟨plan, made⟩ : ∃ plan, FormsMatch sampleServer plan lid tr[20] := by
    generalize tr[20] = l at made
    cases l with
    | came => cases made
    | ran t s o pre =>
      cases s with
      | form_match_room plan =>
        obtain ⟨drawn, some⟩ := (Bool.and_eq_true _ _).mp made
        exact ⟨plan, rfl, of_decide_eq_true drawn, some⟩
      | _ => cases made
  have starts := match_starts r split made fun l hl leave => by
    have stay := List.all_eq_true.mp stays l hl
    cases l with
    | came => exact leave
    | ran t s o pre =>
      cases s with
      | client_leave => cases stay
      | _ => exact leave
  refine ⟨plan, lid, c, tr, _, _, _, r, split, made, starts, starts.launched ⟨?_, ?_, quiet _⟩⟩
  · intro t
    rw [quiet t]
    rfl
  · exact Option.isNone_iff_eq_none.mp up

end RecompNet
