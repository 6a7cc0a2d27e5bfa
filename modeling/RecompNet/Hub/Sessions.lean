import RecompNet.Hub.ChatRing
import RecompNet.Hub.RoomEdit
import RecompNet.Hub.StartTask

/-!
# Session ids

The session ids of the matches come from one counter, which `create`, `form_match` and the gate of
`start_lobby` take them from. A start takes its id in one section and commits it in a later one, and
whatever runs in between, the id is nobody else's as long as the counter has not come to its end.
-/

open scoped List

namespace RecompNet

open Section Interleave

/-- The last id that the counter holds: it stays there. -/
def lastSession : Nat := 2 ^ 32 - 1

/-- The session id that started sections carry away from the counter. -/
def takenBy (ss : List Section) : Option Nat :=
  ss.findSome? fun
    | send_to _ (.created x) => some x.session_id
    | form_match_joined _ _ sid _ => some sid
    | start_commit _ _ _ sid .. => some sid
    | _ => none

/-- The session id that a step takes from the counter. -/
def allocated (srv : Server) : HubLabel → Option Nat
  | .ran _ s o pre => takenBy (exec srv s o pre.world).2
  | .came .. => none

/-- The session ids that a trace took from the counter, the latest first. -/
def allocations (srv : Server) (tr : List HubLabel) : List Nat := tr.filterMap (allocated srv)

/-- The session id of the launch that a step broadcasts. -/
def launched (srv : Server) : HubLabel → Option Nat
  | .ran _ s o pre => (exec srv s o pre.world).2.findSome? fun
    | send_to _ (.launch m) => some m.session_id
    | _ => none
  | .came .. => none

/-- The session ids that a step gives in a `created` or a `joined`. -/
def given (srv : Server) : HubLabel → List Nat
  | .ran _ s o pre => (exec srv s o pre.world).2.filterMap fun
    | send_to _ (.created x) => some x.session_id
    | send_to _ (.joined j) => some j.session_id
    | _ => none
  | .came .. => []

/-- No launch carries the session id of an earlier launch, or one that was given earlier. -/
def SessionsFresh (srv : Server) (tr : List HubLabel) : Prop :=
  tr.Pairwise fun l e => ∀ sid, launched srv l = some sid →
    launched srv e ≠ some sid ∧ sid ∉ given srv e

/-- Does the section make a room? -/
def Section.opens : Section → Bool
  | create_insert .. | form_match_room .. => true
  | _ => false

/-! ## The counter -/

@[simp] lemma remember_chat_session {g : HubInner} {a n t sc l gm : String} :
    (g.remember_chat a n t sc l gm).1.next_session = g.next_session := by
  simp only [HubInner.remember_chat]

@[simp] lemma recordTitle_session {g : HubInner} {p : String} {game : Option String} :
    (g.recordTitle p game).next_session = g.next_session :=
  congrArg Prod.snd (HubInner.registers_recordTitle g p game)

@[simp] lemma setClient_session {g : HubInner} {p : String} {f : ClientMeta → ClientMeta} :
    (g.setClient p f).next_session = g.next_session := rfl

/-- The handlers leave the counter alone. -/
lemma dispatch_session {srv o now g p ip msg} :
    (dispatch_step srv o now g p ip msg).1.next_session = g.next_session := by
  by_cases hc : msg.op = .chat
  · simp only [dispatch_step, hc, handle_chat, refuse]
    repeat' split
    all_goals simp only [remember_chat_session]
  · by_cases hs : msg.op = .server_chat
    · simp only [dispatch_step, hs, handle_server_chat, refuse]
      repeat' split
      all_goals simp only [remember_chat_session, setClient_session, recordTitle_session]
    · exact congrArg Prod.snd (dispatch_registers hc hs)

section
variable {srv : Server} {s : Section} {o : Answer} {w : World}

/-- A `created` gives the id that its section takes. -/
lemma exec_created {q x} (hs : send_to q (.created x) ∈ (exec srv s o w).2) :
    s.opens ∧ takenBy (exec srv s o w).2 = some x.session_id ∧ x.session_id = w.hub.next_session := by
  have called : ¬ ∀ k ∈ s.calls, k ≠ .send_to .created := fun none => none _ (exec_calls _ hs) rfl
  cases s with
  | create_insert p ip msg =>
    simp only [exec, World.lift, create_insert_step, List.mem_cons, List.not_mem_nil, or_false,
      send_to.injEq, OutMsg.created.injEq, reduceCtorEq] at hs
    obtain ⟨-, rfl⟩ := hs
    exact ⟨rfl, rfl, rfl⟩
  | dispatch p ip msg => cases hop : msg.op <;> exact absurd (by simp [hop]) called
  | _ => exact absurd (by simp) called

/-- A `joined` gives the id that its section brought along. -/
lemma exec_joined {q j} (hs : send_to q (.joined j) ∈ (exec srv s o w).2) :
    (∃ p lid seated, s = join_ok p lid seated ∧ j.session_id = seated.session_id) ∨
    ∃ plan lid sid seat, s = form_match_joined plan lid sid seat ∧ j.session_id = sid := by
  have called : ¬ ∀ k ∈ s.calls, k ≠ .send_to .joined := fun none => none _ (exec_calls _ hs) rfl
  cases s with
  | join_ok p lid seated =>
    simp only [exec, World.lift, join_ok_step, List.mem_cons, List.not_mem_nil, or_false,
      send_to.injEq, OutMsg.joined.injEq, reduceCtorEq] at hs
    obtain ⟨-, rfl⟩ := hs
    exact .inl ⟨p, lid, seated, rfl, rfl⟩
  | form_match_joined plan lid sid seat =>
    simp only [exec, World.lift, form_match_joined_step, List.mem_singleton, send_to.injEq,
      OutMsg.joined.injEq] at hs
    obtain ⟨-, rfl⟩ := hs
    exact .inr ⟨plan, lid, sid, seat, rfl, rfl⟩
  | dispatch p ip msg => cases hop : msg.op <;> exact absurd (by simp [hop]) called
  | _ => exact absurd (by simp) called

/-- Whoever is seated is told the id of the room. -/
lemma joinOutcome_session {g p ip lid msg seated}
    (h : (joinOutcome srv o g p ip lid msg).2 = .Ok seated) :
    ∃ l, g.lobbies.lookup lid = some l ∧ seated.session_id = l.session_id := by
  have ends := join_ends srv o g p ip lid msg
  generalize joinOutcome srv o g p ip lid msg = out at ends h
  cases ends with
  | refused no => exact absurd h (no seated)
  | seated hl free =>
    cases h
    exact ⟨_, hl, rfl⟩

/-- A join goes on with the id of its room. -/
lemma exec_join_ok {p lid seated} (hs : join_ok p lid seated ∈ (exec srv s o w).2) :
    ∃ l, w.hub.lobbies.lookup lid = some l ∧ seated.session_id = l.session_id := by
  have called : ¬ ∀ k ∈ s.calls, k ≠ .join_ok := fun none => none _ (exec_calls _ hs) rfl
  cases s with
  | join_seat p' ip lid' msg =>
    simp only [exec, World.lift, join_seat_step] at hs
    split at hs
    · cases List.mem_singleton.mp hs
    · cases List.mem_singleton.mp hs
    · rename_i e
      cases List.mem_singleton.mp hs
      exact joinOutcome_session (congrArg Prod.snd e)
  | dispatch p ip msg => cases hop : msg.op <;> exact absurd (by simp [hop]) called
  | _ => exact absurd (by simp) called

/-- A match room takes an id and tells it to its seats, or is not made. -/
lemma form_match_room_cases (srv : Server) (o : Answer) (w : World) (plan : MatchPlan) :
    ((form_match_room_step srv o w plan).1 = w ∧ takenBy (form_match_room_step srv o w plan).2 = none ∧
      ∀ plan' lid sid seat, form_match_joined plan' lid sid seat ∉
        (form_match_room_step srv o w plan).2) ∨
    takenBy (form_match_room_step srv o w plan).2 = some w.hub.next_session ∧
      (form_match_room_step srv o w plan).1.hub.next_session = nextSession w.hub.next_session ∧
      ∀ plan' lid sid seat, form_match_joined plan' lid sid seat ∈
        (form_match_room_step srv o w plan).2 → sid = w.hub.next_session := by
  unfold form_match_room_step
  dsimp only
  split_ifs
  · exact .inl ⟨rfl, rfl, by simp⟩
  · exact .inl ⟨rfl, rfl, by simp⟩
  · refine .inr ⟨rfl, rfl, fun plan' lid sid seat hs => ?_⟩
    simp only [List.mem_cons, List.not_mem_nil, or_false, form_match_joined.injEq,
      reduceCtorEq] at hs
    rcases hs with ⟨-, -, rfl, -⟩ | ⟨-, -, rfl, -⟩ <;> rfl

/-- The seats of a match room are told the id that its section takes. -/
lemma exec_form_joined {plan lid sid seat}
    (hs : form_match_joined plan lid sid seat ∈ (exec srv s o w).2) :
    s.opens ∧ takenBy (exec srv s o w).2 = some sid := by
  have called : ¬ ∀ k ∈ s.calls, k ≠ .form_match_joined :=
    fun none => none _ (exec_calls _ hs) rfl
  cases s with
  | form_match_room plan' =>
    rcases form_match_room_cases srv o w plan' with ⟨-, -, none⟩ | ⟨taken, -, all⟩
    · exact absurd hs (none _ _ _ _)
    · exact ⟨rfl, taken.trans (congrArg some (all _ _ _ _ hs).symm)⟩
  | dispatch p ip msg => cases hop : msg.op <;> exact absurd (by simp [hop]) called
  | _ => exact absurd (by simp) called

/-- The gate refuses, or takes an id and goes on to its commit. -/
lemma start_prepare_cases (now : Instant) (g : HubInner) (st : Starter) (lid : String)
    (caps : Option Value) (ice : Bool) :
    (∃ code, start_prepare_step now g st lid caps ice = (g, [start_failed st lid ice code])) ∨
    ∃ sp tr, start_prepare_step now g st lid caps ice =
      ({ g with next_session := nextSession g.next_session },
        [start_commit st lid caps g.next_session sp tr ice]) := by
  unfold start_prepare_step
  split
  · exact .inl ⟨_, rfl⟩
  · split_ifs
    · exact .inl ⟨_, rfl⟩
    · split
      · exact .inl ⟨_, rfl⟩
      · exact .inr ⟨_, _, rfl⟩

/-- A commit goes on with the id that the gate took, and is all that the gate starts. -/
lemma exec_start_commit {st lid caps sid sp tr ice}
    (hs : start_commit st lid caps sid sp tr ice ∈ (exec srv s o w).2) :
    s = start_prepare st lid caps ice ∧ sid = w.hub.next_session ∧
      (exec srv s o w).2 = [start_commit st lid caps sid sp tr ice] := by
  have called : ¬ ∀ k ∈ s.calls, k ≠ .start_commit := fun none => none _ (exec_calls _ hs) rfl
  cases s with
  | start_prepare st' lid' caps' ice' =>
    simp only [exec, World.lift] at hs ⊢
    rcases start_prepare_cases w.now w.hub st' lid' caps' ice' with ⟨code, e⟩ | ⟨sp', tr', e⟩
    · rw [e] at hs
      cases List.mem_singleton.mp hs
    · rw [e] at hs ⊢
      cases List.mem_singleton.mp hs
      exact ⟨rfl, rfl, rfl⟩
  | dispatch p ip msg => cases hop : msg.op <;> exact absurd (by simp [hop]) called
  | _ => exact absurd (by simp) called

/-- A launch carries the id that its commit brought along. -/
lemma exec_launch_session {q m} (hs : send_to q (.launch m) ∈ (exec srv s o w).2) :
    ∃ st lid caps sp tr ice, s = start_commit st lid caps m.session_id sp tr ice := by
  obtain ⟨st, lid, caps, sid, sp, tr, ice, l, rfl, -, rfl⟩ := exec_launch hs
  exact ⟨st, lid, caps, sp, tr, ice, rfl⟩

/-- A room has the id it had, the one that its section took, or the one that was committed. -/
lemma exec_room_session {lid l'} (hl' : (exec srv s o w).1.hub.lobbies.lookup lid = some l') :
    (∃ l, w.hub.lobbies.lookup lid = some l ∧ l'.session_id = l.session_id) ∨
    (s.opens ∧ takenBy (exec srv s o w).2 = some l'.session_id) ∨
    ∃ st caps sp tr ice, s = start_commit st lid caps l'.session_id sp tr ice := by
  rcases exec_room hl' with ⟨l, hl, edit⟩ | ⟨p, ip, msg, rfl, -, rfl⟩ | ⟨plan, rfl, -, rfl⟩
  · have read : ∀ {m n : Lobby}, m.furniture = n → m.session_id = n.session_id :=
      fun e => (congrArg Lobby.session_id e :)
    have kept : ∀ {m : Lobby}, m.furniture = l.furniture → m.session_id = l.session_id :=
      fun e => (read e).trans rfl
    cases edit with
    | @launch st caps sid sp tr ice => exact .inr (.inr ⟨st, caps, sp, tr, ice, rfl⟩)
    | set_host_endpoint _ _ _ same =>
      refine .inl ⟨_, hl, ?_⟩
      rcases same with ⟨rfl, -⟩ | rfl <;> rfl
    | rename | set_ready => exact .inl ⟨_, hl, kept Lobby.furniture_setMember⟩
    | move | seat_move => exact .inl ⟨_, hl, kept Lobby.furniture_rearrange⟩
    | seat_swap_answer => exact .inl ⟨_, hl, kept Lobby.furniture_trade⟩
    | kick => exact .inl ⟨_, hl, (read Lobby.furniture_kick).trans rfl⟩
    | sit => exact .inl ⟨_, hl, (read Lobby.furniture_sit).trans rfl⟩
    | _ => exact .inl ⟨_, hl, rfl⟩
  · exact .inr (.inl ⟨rfl, rfl⟩)
  · rcases form_match_room_cases srv o w plan with ⟨same, -, -⟩ | ⟨taken, -, -⟩
    · exact .inl ⟨_, (congrArg (·.hub.lobbies.lookup lid) same).symm.trans hl', rfl⟩
    · exact .inr (.inl ⟨rfl, taken⟩)

/-- A section that takes an id takes the one on the counter, which goes on to the next. -/
lemma takenBy_spec {sid} (h : takenBy (exec srv s o w).2 = some sid) :
    s.allocates ∧ sid = w.hub.next_session ∧
      (exec srv s o w).1.hub.next_session = nextSession w.hub.next_session := by
  obtain ⟨s', hs', taken⟩ := List.exists_of_findSome?_eq_some h
  split at taken
  · obtain ⟨opens, -, e⟩ := exec_created hs'
    cases taken
    cases s with
    | create_insert => exact ⟨rfl, e, rfl⟩
    | form_match_room plan =>
      rcases form_match_room_cases srv o w plan with ⟨-, none, -⟩ | ⟨-, next, -⟩
      · cases none.symm.trans h
      · exact ⟨rfl, e, next⟩
    | _ => cases opens
  · obtain ⟨opens, took⟩ := exec_form_joined hs'
    cases s with
    | create_insert => simp [exec, World.lift, create_insert_step] at hs'
    | form_match_room plan =>
      rcases form_match_room_cases srv o w plan with ⟨-, none, -⟩ | ⟨some, next, -⟩
      · cases none.symm.trans h
      · exact ⟨rfl, Option.some.inj (h.symm.trans some), next⟩
    | _ => cases opens
  · rename_i st lid caps sid' sp tr ice
    obtain ⟨rfl, e, -⟩ := exec_start_commit hs'
    cases taken
    refine ⟨rfl, e, ?_⟩
    simp only [exec, World.lift] at hs' ⊢
    rcases start_prepare_cases w.now w.hub st lid caps ice with ⟨code, e⟩ | ⟨sp, tr, e⟩
    · rw [e] at hs'
      cases List.mem_singleton.mp hs'
    · rw [e]
      rfl
  · cases taken

/-- A section that takes no id leaves the counter alone. -/
lemma takenBy_none (h : takenBy (exec srv s o w).2 = none) :
    (exec srv s o w).1.hub.next_session = w.hub.next_session := by
  cases takes : s.allocates with
  | false =>
    by_cases hd : ∃ p ip msg, s = dispatch p ip msg
    · obtain ⟨p, ip, msg, rfl⟩ := hd
      exact dispatch_session
    · exact congrArg Prod.snd (exec_registers (fun p ip msg e => absurd ⟨p, ip, msg, e⟩ hd) takes)
  | true =>
    cases s with
    | create_insert => cases h
    | start_prepare st lid caps ice =>
      simp only [exec, World.lift] at h ⊢
      rcases start_prepare_cases w.now w.hub st lid caps ice with ⟨code, e⟩ | ⟨sp, tr, e⟩
      · rw [e]
        rfl
      · rw [e] at h
        cases h
    | form_match_room plan =>
      rcases form_match_room_cases srv o w plan with ⟨same, -, -⟩ | ⟨some, -, -⟩
      · exact congrArg (·.hub.next_session) same
      · cases h.symm.trans some
    | _ => cases takes

end

/-- The first `n` ids that the counter gives, the latest first. -/
def sessionIds (n : Nat) : List Nat := ((List.range n).map fun i => min (i + 1) lastSession).reverse

@[simp] lemma length_sessionIds (n : Nat) : (sessionIds n).length = n := by simp [sessionIds]

lemma sessionIds_succ (n : Nat) : sessionIds (n + 1) = min (n + 1) lastSession :: sessionIds n := by
  simp [sessionIds, List.range_succ]

/-- An event leaves the counter alone. -/
lemma apply_session {srv : Server} {e : Event} {w : World} :
    (e.apply srv w).hub.next_session = w.hub.next_session := by
  cases e with
  | ws_ping p => exact congrArg HubInner.next_session (World.send_hub w p .empty)
  | _ => rfl

/-- What a run took from the counter, and where the counter then is. -/
theorem HubRun.counter {srv c tr} (r : HubRun srv c tr) :
    allocations srv tr = sessionIds (allocations srv tr).length ∧
      c.world.hub.next_session = min ((allocations srv tr).length + 1) lastSession := by
  apply r.induct (I := fun c tr => allocations srv tr = sessionIds (allocations srv tr).length ∧
    c.world.hub.next_session = min ((allocations srv tr).length + 1) lastSession)
  · exact ⟨rfl, rfl⟩
  · rintro c tr l c' - ⟨ids, next⟩ st
    cases st with
    | @run t s rest o e _ =>
      cases took : takenBy (exec srv s o c.world).2 with
      | none =>
        have same : allocations srv (.ran t s o c :: tr) = allocations srv tr :=
          List.filterMap_cons_none took
        rw [same]
        exact ⟨ids, (takenBy_none took).trans next⟩
      | some sid =>
        obtain ⟨-, rfl, after⟩ := takenBy_spec took
        have more : allocations srv (.ran t s o c :: tr) =
            c.world.hub.next_session :: allocations srv tr := List.filterMap_cons_some took
        rw [more, List.length_cons, sessionIds_succ, ← ids, ← next]
        refine ⟨rfl, after.trans ?_⟩
        rw [next]
        simp only [nextSession, lastSession]
        omega
    | @event e _ _ =>
      have same : allocations srv (.came e c :: tr) = allocations srv tr :=
        List.filterMap_cons_none rfl
      rw [same]
      exact ⟨ids, apply_session.trans next⟩

/-! ## An id on its way -/

/-- The section is about to tell a player that its room has this session id. -/
def Section.brings (sid : Nat) : Section → Bool
  | join_ok _ _ seated => seated.session_id = sid
  | form_match_joined _ _ sid' _ => sid' = sid
  | _ => false

/-- The section is about to start a match with this session id. -/
def Section.commits (sid : Nat) : Section → Bool
  | start_commit _ _ _ sid' .. => sid' = sid
  | _ => false

lemma Section.commits_kind {sid : Nat} {s : Section} (h : s.commits sid) :
    s.kind = .start_commit := by
  cases s with
  | start_commit => rfl
  | _ => cases h

lemma Section.brings_kind {sid : Nat} {s : Section} (h : s.brings sid) :
    s.kind ∈ [.join_ok, .form_match_joined] := by
  cases s with
  | join_ok | form_match_joined => simp
  | _ => cases h

/-- Nobody was told of a session id, no room has it, and nobody is about to be told. -/
structure Unused (srv : Server) (sid : Nat) (c : HubSnapshot) (tr : List HubLabel) : Prop where
  unlaunched : ∀ l ∈ tr, launched srv l ≠ some sid
  ungiven : ∀ l ∈ tr, sid ∉ given srv l
  rooms : ∀ lid l, c.world.hub.lobbies.lookup lid = some l → l.session_id ≠ sid
  brings : ∀ t, ∀ s ∈ c.pending t, ¬ s.brings sid

/-- A step that launches an id runs its commit. -/
lemma launched_commits {srv t s o pre sid} (h : launched srv (.ran t s o pre) = some sid) :
    s.commits sid := by
  obtain ⟨s', hs', hm⟩ := List.exists_of_findSome?_eq_some h
  split at hm
  · cases hm
    obtain ⟨st, lid, caps, sp, tr, ice, rfl⟩ := exec_launch_session hs'
    exact decide_eq_true rfl
  · cases hm

/-- A step that gives an id makes a room with it, or was about to tell it. -/
lemma given_brought {srv t s o pre sid} (h : sid ∈ given srv (.ran t s o pre)) :
    (s.opens ∧ takenBy (exec srv s o pre.world).2 = some sid) ∨ s.brings sid := by
  obtain ⟨s', hs', hm⟩ := List.mem_filterMap.mp h
  split at hm
  · cases hm
    obtain ⟨opens, took, -⟩ := exec_created hs'
    exact .inl ⟨opens, took⟩
  · cases hm
    rcases exec_joined hs' with ⟨p, lid, seated, rfl, e⟩ | ⟨plan, lid, sid, seat, rfl, e⟩
    · exact .inr (decide_eq_true e.symm)
    · exact .inr (decide_eq_true e.symm)
  · cases hm

/-- What is about to tell an id was started where a room has it or is made with it. -/
lemma exec_brings {srv s o w s' sid} (hs : s' ∈ (exec srv s o w).2) (h : s'.brings sid) :
    (∃ lid l, w.hub.lobbies.lookup lid = some l ∧ l.session_id = sid) ∨
      (s.opens ∧ takenBy (exec srv s o w).2 = some sid) := by
  cases s' with
  | join_ok p lid seated =>
    obtain ⟨l, hl, e⟩ := exec_join_ok hs
    exact .inl ⟨lid, l, hl, e.symm.trans (of_decide_eq_true h)⟩
  | form_match_joined plan lid sid' seat =>
    obtain rfl : sid' = sid := of_decide_eq_true h
    exact .inr (exec_form_joined hs)
  | _ => cases h

/-- An id stays unused while nobody commits it and no room is made with it. -/
lemma Unused.run {srv sid c tr t s rest o} (h : Unused srv sid c tr)
    (e : c.pending t = s :: rest) (commits : ¬ s.commits sid)
    (opens : s.opens → takenBy (exec srv s o c.world).2 ≠ some sid) :
    Unused srv sid ((hubMachine srv).afterRun c t s rest o) (.ran t s o c :: tr) := by
  have brings : ¬ s.brings sid := h.brings t s (e ▸ List.mem_cons_self)
  constructor
  · intro l hl
    rcases List.mem_cons.mp hl with rfl | hl
    · exact fun launch => commits (launched_commits launch)
    · exact h.unlaunched l hl
  · intro l hl
    rcases List.mem_cons.mp hl with rfl | hl
    · intro told
      rcases given_brought told with ⟨made, took⟩ | brought
      · exact opens made took
      · exact brings brought
    · exact h.ungiven l hl
  · rintro lid l' hl' rfl
    rcases exec_room_session hl' with ⟨l, hl, same⟩ | ⟨made, took⟩ | ⟨st, caps, sp, tr, ice, rfl⟩
    · exact h.rooms lid l hl same.symm
    · exact opens made took
    · exact commits (decide_eq_true rfl)
  · intro t' s' hs' told
    by_cases ht : t' = t
    · subst ht
      simp only [Machine.afterRun, Function.update_self] at hs'
      rcases List.mem_append.mp hs' with new | old
      · rcases exec_brings new told with ⟨lid, l, hl, same⟩ | ⟨made, took⟩
        · exact h.rooms lid l hl same
        · exact opens made took
      · exact h.brings t' s' (e ▸ List.mem_cons_of_mem _ old) told
    · simp only [Machine.afterRun, Function.update_of_ne ht] at hs'
      exact h.brings t' s' hs' told

/-- No event uses an id. -/
lemma Unused.event {srv sid c tr e} (h : Unused srv sid c tr) :
    Unused srv sid ((hubMachine srv).afterEvent c e) (.came e c :: tr) := by
  constructor
  · intro l hl
    rcases List.mem_cons.mp hl with rfl | hl
    · simp [launched]
    · exact h.unlaunched l hl
  · intro l hl
    rcases List.mem_cons.mp hl with rfl | hl
    · simp [given]
    · exact h.ungiven l hl
  · intro lid l hl
    exact h.rooms lid l ((congrArg (·.lookup lid) (apply_lobbies srv c.world e)).symm.trans hl)
  · intro t s hs told
    by_cases ht : t = (hubMachine srv).task e
    · subst ht
      simp only [Machine.afterEvent, Function.update_self] at hs
      have kind := body_kinds hs
      have told := Section.brings_kind told
      revert kind told
      cases s.kind <;> simp
    · simp only [Machine.afterEvent, Function.update_of_ne ht] at hs
      exact h.brings t s hs told

/-! ## From the counter to the launch -/

/-- How often an id is about to be committed. -/
def pendingCommits (sid : Nat) (c : HubSnapshot) (t : Tid) : Nat :=
  (c.pending t).countP (Section.commits sid)

/-- A commit is started by the gate that takes its id, which starts nothing else. -/
lemma exec_commits {srv s o w s' sid} (hs : s' ∈ (exec srv s o w).2) (h : s'.commits sid) :
    takenBy (exec srv s o w).2 = some sid ∧ s.opens = false ∧ (exec srv s o w).2 = [s'] := by
  cases s' with
  | start_commit st lid caps sid' sp tr ice =>
    obtain rfl : sid' = sid := of_decide_eq_true h
    obtain ⟨rfl, -, all⟩ := exec_start_commit hs
    exact ⟨by rw [all]; rfl, rfl, all⟩
  | _ => cases h

/-- No commit of an id is started where it is not taken. -/
lemma exec_no_commits {srv s o w sid}
    (h : takenBy (exec srv s o w).2 = some sid → s.opens = true) :
    (exec srv s o w).2.countP (Section.commits sid) = 0 := by
  rw [List.countP_eq_zero]
  intro s' hs' commits
  obtain ⟨took, shut, -⟩ := exec_commits hs' commits
  exact absurd (h took) (shut ▸ Bool.false_ne_true)

/-- The gate starts one commit of the id that it takes. -/
lemma exec_one_commit {srv s o w sid} (h : takenBy (exec srv s o w).2 = some sid)
    (shut : s.opens = false) : (exec srv s o w).2.countP (Section.commits sid) = 1 := by
  obtain ⟨s', hs', took⟩ := List.exists_of_findSome?_eq_some h
  split at took
  · obtain ⟨opens, -, -⟩ := exec_created hs'
    exact absurd opens (shut ▸ Bool.false_ne_true)
  · obtain ⟨opens, -⟩ := exec_form_joined hs'
    exact absurd opens (shut ▸ Bool.false_ne_true)
  · obtain ⟨-, -, all⟩ := exec_start_commit hs'
    cases took
    rw [all]
    exact List.countP_cons_of_pos (decide_eq_true rfl)
  · cases took

/-- What running a section does to the number of commits. -/
lemma pendingCommits_run (srv : Server) (sid : Nat) (o : Answer) {t s rest} {c : HubSnapshot}
    (e : c.pending t = s :: rest) (t' : Tid) :
    pendingCommits sid ((hubMachine srv).afterRun c t s rest o) t' +
        (if t' = t ∧ s.commits sid then 1 else 0) =
      pendingCommits sid c t' +
        (if t' = t then (exec srv s o c.world).2.countP (Section.commits sid) else 0) := by
  unfold pendingCommits
  by_cases ht : t' = t
  · subst ht
    simp only [Machine.afterRun, Function.update_self, e, List.countP_append, List.countP_cons,
      true_and, if_true]
    show (exec srv s o c.world).2.countP _ + _ + _ = _
    omega
  · simp only [Machine.afterRun, Function.update_of_ne ht, ht, false_and, if_false]

/-- An event leaves the number of commits as it is. -/
lemma pendingCommits_event {srv sid e} {c : HubSnapshot}
    (idle : c.pending ((hubMachine srv).task e) = []) (t : Tid) :
    pendingCommits sid ((hubMachine srv).afterEvent c e) t = pendingCommits sid c t := by
  unfold pendingCommits
  by_cases ht : t = (hubMachine srv).task e
  · subst ht
    have none : ((hubMachine srv).body e c.world).countP (Section.commits sid) = 0 := by
      rw [List.countP_eq_zero]
      intro s hs commits
      have kind := body_kinds hs
      rw [Section.commits_kind commits] at kind
      simp at kind
    simp only [Machine.afterEvent, Function.update_self, idle, none, List.countP_nil]
  · simp only [Machine.afterEvent, Function.update_of_ne ht]

/-- How far a session id has come: it is still to be taken, a start holds it, or it was told. -/
inductive SessionStage (srv : Server) (sid : Nat) (c : HubSnapshot) (tr : List HubLabel) : Prop where
  | fresh :
    (allocations srv tr).length < sid →
    Unused srv sid c tr →
    (∀ t, pendingCommits sid c t = 0) →
    SessionStage srv sid c tr
  | held {t} :
    sid ≤ (allocations srv tr).length →
    Unused srv sid c tr →
    pendingCommits sid c t = 1 →
    (∀ t' ≠ t, pendingCommits sid c t' = 0) →
    SessionStage srv sid c tr
  | used :
    sid ≤ (allocations srv tr).length →
    (∀ t, pendingCommits sid c t = 0) →
    SessionStage srv sid c tr

/-- Whoever commits an id holds it. -/
lemma SessionStage.unused {srv sid c tr t s} (h : SessionStage srv sid c tr)
    (hs : s ∈ c.pending t) (commits : s.commits sid) : Unused srv sid c tr := by
  have pos : 0 < pendingCommits sid c t := List.countP_pos_iff.mpr ⟨s, hs, commits⟩
  cases h with
  | fresh _ un _ | held _ un _ _ => exact un
  | used _ none => exact absurd (none t) pos.ne'

/-- What a section adds to the ids that were taken. -/
lemma allocations_run {srv t s o pre} (tr : List HubLabel) :
    allocations srv (.ran t s o pre :: tr) =
      (takenBy (exec srv s o pre.world).2).toList ++ allocations srv tr := by
  cases took : takenBy (exec srv s o pre.world).2 with
  | none => exact List.filterMap_cons_none took
  | some sid => exact List.filterMap_cons_some took

/-- An id that is taken while there are enough was still to be taken. -/
lemma taken_fresh {srv c tr t s o sid} (r : HubRun srv c tr)
    (few : (allocations srv (.ran t s o c :: tr)).length ≤ lastSession)
    (took : takenBy (exec srv s o c.world).2 = some sid) :
    sid = (allocations srv tr).length + 1 := by
  obtain ⟨-, rfl, -⟩ := takenBy_spec took
  rw [allocations_run, took] at few
  rw [(HubRun.counter r).2]
  simp only [Option.toList_some, List.cons_append, List.nil_append, List.length_cons] at few
  omega

/-- Taking an id makes a room with it, or one start holds it. -/
lemma SessionStage.take {srv c tr t s rest o sid} (h : SessionStage srv sid c tr)
    (r : HubRun srv c tr) (e : c.pending t = s :: rest)
    (few : (allocations srv (.ran t s o c :: tr)).length ≤ lastSession)
    (took : takenBy (exec srv s o c.world).2 = some sid) :
    SessionStage srv sid ((hubMachine srv).afterRun c t s rest o) (.ran t s o c :: tr) := by
  have next := taken_fresh r few took
  have gone : sid ≤ (allocations srv (.ran t s o c :: tr)).length := by
    rw [allocations_run, took]
    exact next.le
  cases h with
  | fresh _ un none =>
    have commits : ¬ s.commits sid := List.countP_eq_zero.mp (none t) s (e ▸ List.mem_cons_self)
    cases opens : s.opens with
    | true =>
      refine .used gone fun t' => ?_
      have count := pendingCommits_run srv sid o e t'
      rw [none t', exec_no_commits fun _ => opens] at count
      simp only [ite_self] at count
      omega
    | false =>
      have one := exec_one_commit took opens
      refine .held (t := t) gone (un.run e commits fun made => ?_) ?_ fun t' ht => ?_
      · exact absurd (opens.symm.trans made) Bool.false_ne_true
      · have count := pendingCommits_run srv sid o e t
        rw [none t, if_neg (fun h => commits h.2), if_pos rfl, one] at count
        omega
      · have count := pendingCommits_run srv sid o e t'
        rw [none t', if_neg (fun h => ht h.1), if_neg ht] at count
        omega
  | held old _ _ _ | used old _ => omega

/-- A section that does not take an id commits it, if it was held, and else leaves it where it is. -/
lemma SessionStage.pass {srv c tr t s rest o sid} (h : SessionStage srv sid c tr)
    (r : HubRun srv c tr) (e : c.pending t = s :: rest)
    (few : (allocations srv (.ran t s o c :: tr)).length ≤ lastSession)
    (took : takenBy (exec srv s o c.world).2 ≠ some sid) :
    SessionStage srv sid ((hubMachine srv).afterRun c t s rest o) (.ran t s o c :: tr) := by
  have grows : (allocations srv tr).length ≤ (allocations srv (.ran t s o c :: tr)).length := by
    rw [allocations_run, List.length_append]
    omega
  have count (t' : Tid) := pendingCommits_run srv sid o e t'
  simp only [exec_no_commits fun h => absurd h took, ite_self, Nat.add_zero] at count
  by_cases commits : s.commits sid
  · -- whoever holds the id commits it now
    have here : 0 < pendingCommits sid c t :=
      List.countP_pos_iff.mpr ⟨s, e ▸ List.mem_cons_self, commits⟩
    cases h with
    | fresh _ _ none | used _ none => exact absurd (none t) here.ne'
    | @held t₀ old _ one none =>
      refine .used (old.trans grows) fun t' => ?_
      have count := count t'
      by_cases ht : t' = t
      · subst ht
        rw [if_pos ⟨rfl, commits⟩] at count
        have : t' = t₀ := by
          by_contra other
          exact absurd (none t' other) here.ne'
        subst this
        omega
      · rw [if_neg fun h => ht h.1] at count
        have : t₀ = t := by
          by_contra other
          exact absurd (none t (Ne.symm other)) here.ne'
        rw [none t' (this ▸ ht)] at count
        omega
  · have same (t' : Tid) :
        pendingCommits sid ((hubMachine srv).afterRun c t s rest o) t' = pendingCommits sid c t' := by
      have count := count t'
      rwa [if_neg fun h => commits h.2] at count
    cases h with
    | fresh new un none =>
      refine .fresh ?_ (un.run e commits fun _ => took) fun t' => (same t').trans (none t')
      rw [allocations_run]
      cases other : takenBy (exec srv s o c.world).2 with
      | none => exact new
      | some sid' =>
        have next := taken_fresh r few other
        have ne : sid' ≠ sid := fun h => took (h ▸ other)
        show (allocations srv tr).length + 1 < sid
        omega
    | held old un one none =>
      exact .held (old.trans grows) (un.run e commits fun _ => took) ((same _).trans one)
        fun t' ht => (same t').trans (none t' ht)
    | used old none => exact .used (old.trans grows) fun t' => (same t').trans (none t')

/-- No event moves an id on. -/
lemma SessionStage.event {srv c tr e sid} (h : SessionStage srv sid c tr)
    (idle : c.pending ((hubMachine srv).task e) = []) :
    SessionStage srv sid ((hubMachine srv).afterEvent c e) (.came e c :: tr) := by
  cases h with
  | fresh new un none =>
    exact .fresh new un.event fun t => (pendingCommits_event idle t).trans (none t)
  | held old un one none =>
    exact .held old un.event ((pendingCommits_event idle _).trans one)
      fun t ht => (pendingCommits_event idle t).trans (none t ht)
  | used old none => exact .used old fun t => (pendingCommits_event idle t).trans (none t)

/-- Where every session id is, while there are enough of them. -/
theorem HubRun.session_stage {srv c tr} (r : HubRun srv c tr) :
    (allocations srv tr).length ≤ lastSession → ∀ sid, SessionStage srv sid c tr := by
  apply r.induct (I := fun c tr => (allocations srv tr).length ≤ lastSession →
    ∀ sid, SessionStage srv sid c tr)
  · intro _ sid
    have un : Unused srv sid ⟨{}, fun _ => []⟩ [] := by
      refine ⟨?_, ?_, ?_, ?_⟩
      · intro l hl
        cases hl
      · intro l hl
        cases hl
      · intro lid l hl
        cases hl
      · intro t s hs
        cases hs
    rcases Nat.eq_zero_or_pos sid with rfl | pos
    · exact .used (Nat.zero_le _) fun _ => rfl
    · exact .fresh pos un fun _ => rfl
  · intro c tr l c' r ih st few sid
    cases st with
    | @run t s rest o e _ =>
      have h := ih ((by rw [allocations_run, List.length_append]; omega :
        _ ≤ (allocations srv (.ran t s o c :: tr)).length).trans few) sid
      by_cases took : takenBy (exec srv s o c.world).2 = some sid
      · exact h.take r e few took
      · exact h.pass r e few took
    | event idle _ => exact (ih few sid).event idle

/-- As long as a run takes no more ids than there are, every launch has a session id of its own: none
that was launched before, and none that a `created` or a `joined` gave. -/
theorem sessions_fresh {srv c tr} (r : HubRun srv c tr)
    (few : (allocations srv tr).length ≤ lastSession) : SessionsFresh srv tr := by
  revert few
  apply r.induct (I := fun _ tr => (allocations srv tr).length ≤ lastSession → SessionsFresh srv tr)
  · exact fun _ => .nil
  · intro c tr l c' r ih st few
    have old : (allocations srv tr).length ≤ lastSession :=
      ((List.sublist_cons_self l tr).filterMap _).length_le.trans few
    refine List.pairwise_cons.mpr ⟨fun e he sid launch => ?_, ih old⟩
    cases st with
    | @run t s rest o pending _ =>
      have un := (HubRun.session_stage r old sid).unused (pending ▸ List.mem_cons_self)
        (launched_commits launch)
      exact ⟨un.unlaunched e he, un.ungiven e he⟩
    | event _ _ => cases launch

/-- The two of a room play a match and then a rematch. -/
def playTwice (p q room : String) : List Move :=
  let o := draw "9b1deb4d-3b7d-4bad-9bdd-2b0d7b3dcb6d"
  let round := [say p { op := .start }] ++ steps (.conn p) 6 o
  roomOfTwo p q room o ++ round ++ round

/-- The room has the first id, the match the second and the rematch the third. -/
theorem sessions_fresh_rematch : ∃ c tr, HubRun sampleServer c tr ∧
    tr.filterMap (launched sampleServer) = [3, 2] ∧ SessionsFresh sampleServer tr := by
  let p := "6b0f1e52-3c1d-4a86-9a53-0d5f6f1c2a11"
  let q := "c4d1c1a0-5f0e-4a53-8d43-9f4b1f7f3b22"
  let room := "1f8a9f0e-7d2b-4b57-8f6f-2f6f2b0c9d01"
  let test : HubSnapshot × List HubLabel → Bool := fun x =>
    x.2.filterMap (launched sampleServer) = [3, 2] && allocations sampleServer x.2 = [3, 2, 1]
  have h : ((hubMachine sampleServer).follow (playTwice p q room)).any test := by decide +kernel
  obtain ⟨c, tr, r, ht, -⟩ := Machine.follow_reaches h
  obtain ⟨launches, ids⟩ := (Bool.and_eq_true _ _).mp ht
  refine ⟨c, tr, r, of_decide_eq_true launches, sessions_fresh r ?_⟩
  rw [of_decide_eq_true ids]
  decide

/-! ## The end of the counter -/

/-- A connection that has nothing to run and hosts a full room of two, which may start over ICE. -/
structure MayRematch (p lid : String) (o : Answer) (c : HubSnapshot) : Prop where
  idle : c.pending (.conn p) = []
  possible : o.possible c.world
  noted : c.world.hub.lobby_id_of p = some lid
  room : ∃ l, c.world.hub.lobbies.lookup lid = some l ∧ l.host_player_id = p ∧
    player_count l = 2 ∧ l.spectator_count = 0 ∧ l.match_caps = none

section
variable {srv : Server} {p lid : String} {o : Answer}

/-- Frames that a handler still has to send go out. -/
lemma drain {t} (m : OutMsg) : ∀ (ms : List String) {c tr}, HubRun srv c tr →
    c.pending t = ms.map (send_to · m) → o.possible c.world →
    ∃ c' tr', HubRun srv c' (tr' ++ tr) ∧ c'.pending t = [] ∧ o.possible c'.world ∧
      c'.world.hub = c.world.hub := by
  intro ms
  induction ms with
  | nil => exact fun {c tr} r e ho => ⟨c, [], r, e, ho, rfl⟩
  | cons q ms ih =>
    intro c tr r e ho
    obtain ⟨r, e⟩ := Run.run_next r e ho
    have same : o.possible (c.world.send q m) := by
      unfold World.send
      split
      · exact ho
      · exact ho
    obtain ⟨c', tr', r', e', ho', hub⟩ := ih r e same
    refine ⟨c', tr' ++ [.ran t (send_to q m) o c], ?_, e', ho', ?_⟩
    · rwa [List.append_assoc]
    · exact hub.trans (World.send_hub _ _ _)

/-- The message that starts a match. -/
def startMsg : InMsg := { op := .start }

/-- A room of two without caps and without a gallery starts over ICE. -/
lemma start_transport_ice {now : Instant} {l : Lobby} (two : player_count l = 2)
    (gallery : l.spectator_count = 0) : start_transport now l none true = .ok .Ice := by
  simp [start_transport, host_relay_decision, wants_host, two, gallery]

/-- Pressing Play leads to the commit of the id that is on the counter. -/
lemma start_sections (o : Answer) (ip : String) {w : World} {l} (anyone : srv.require_login = false)
    (noted : w.hub.lobby_id_of p = some lid) (hl : w.hub.lobbies.lookup lid = some l)
    (host : l.host_player_id = p) (two : player_count l = 2) (gallery : l.spectator_count = 0)
    (caps : l.match_caps = none) :
    exec srv (handle_text p ip (.ok startMsg)) o w = (w, [dispatch p ip startMsg]) ∧
    exec srv (dispatch p ip startMsg) o w = (w, [start_prepare (.host p none) lid none true]) ∧
    ∃ sp, exec srv (start_prepare (.host p none) lid none true) o w =
      (w.setHub { w.hub with next_session := nextSession w.hub.next_session },
        [start_commit (.host p none) lid none w.hub.next_session sp .Ice true]) := by
  refine ⟨?_, ?_, ?_⟩
  · have clean : sanitize_in_place srv startMsg = .ok startMsg := rfl
    simp only [exec, World.lift, handle_text_step, clean, anyone, Bool.false_eq_true, false_and,
      if_false]
    rfl
  · simp only [exec, World.lift, dispatch_step, startMsg, handle_start, noted, hl, host,
      ne_eq, not_true, if_false]
    rfl
  · refine ⟨((Starter.host p none).initiator.bind l.seat_of).any is_spectator_seat, ?_⟩
    simp only [exec, World.lift, start_prepare_step, hl, two, caps, Option.or_none,
      start_transport_ice two gallery, lt_irrefl, if_false]

/-- A commit in a room launches the match to its members. -/
lemma commit_sections (srv : Server) (o : Answer) {w : World} {l st caps sid sp tr ice}
    (hl : w.hub.lobbies.lookup lid = some l) :
    exec srv (start_commit st lid caps sid sp tr ice) o w =
      (w.setHub (w.hub.setLobby lid fun _ => l.launch caps sid),
        (l.launch caps sid).member_ids.map
          (send_to · (.launch (launchOf w.now w.hub (l.launch caps sid) sp tr)))) := by
  simp only [exec, World.lift, start_commit_step, hl]

/-- It is a launch with the committed id, if there are members. -/
lemma commit_launched {c : HubSnapshot} {t l st caps sid sp tr ice}
    (hl : c.world.hub.lobbies.lookup lid = some l) (members : l.member_ids ≠ []) :
    launched srv (.ran t (start_commit st lid caps sid sp tr ice) o c) = some sid := by
  have same : (l.launch caps sid).member_ids = l.member_ids :=
    Lobby.mapPlayers_members l _ fun _ => rfl
  obtain ⟨q, qs, e⟩ := List.exists_cons_of_ne_nil members
  simp only [launched, commit_sections srv o hl, same, e, List.map_cons, List.findSome?_cons]
  rfl

/-- A room with players has members. -/
lemma members_of_players {l : Lobby} (h : 0 < player_count l) : l.member_ids ≠ [] := by
  obtain ⟨s, hs, here⟩ := List.countP_pos_iff.mp h
  obtain ⟨slot, rfl⟩ := Option.isSome_iff_exists.mp here
  have seated : slot ∈ l.everyone := by
    rw [Lobby.everyone_eq_cells]
    exact List.mem_filterMap.mpr ⟨some slot, List.mem_append_left _ hs, rfl⟩
  exact List.ne_nil_of_mem (Lobby.mem_member_ids.mpr ⟨slot, seated, rfl⟩)

/-- The host presses Play once more: the match is launched with the id that is on the counter, and
may be started again. -/
lemma MayRematch.again {c tr} (h : MayRematch p lid o c) (anyone : srv.require_login = false)
    (r : HubRun srv c tr) :
    ∃ c' tr', HubRun srv c' (tr' ++ tr) ∧ MayRematch p lid o c' ∧
      c'.world.hub.next_session = nextSession c.world.hub.next_session ∧
      ∃ e ∈ tr', launched srv e = some c.world.hub.next_session := by
  obtain ⟨idle, ho, noted, l, hl, host, two, gallery, caps⟩ := h
  have here : c.world.hub.connected p := by
    obtain ⟨row, hrow, -⟩ := Option.bind_eq_some_iff.mp noted
    exact Option.isSome_of_eq_some hrow
  obtain ⟨text, called, sp, gate⟩ :=
    start_sections o (((c.world.hub.clients.lookup p).map (·.peer_ip)).getD "") anyone noted hl host
      two gallery caps
  -- The task of the host runs alone: the text, the message, the gate and the launch.
  obtain ⟨c₁, r₁, w₁, e₁⟩ :=
    Run.event_to (M := hubMachine srv) (e := .text p (.ok startMsg)) r rfl idle here
  obtain ⟨c₂, r₂, w₂, e₂⟩ := Run.run_to (M := hubMachine srv) r₁ w₁ e₁ ho text
  obtain ⟨c₃, r₃, w₃, e₃⟩ := Run.run_to (M := hubMachine srv) r₂ w₂ e₂ ho called
  obtain ⟨c₄, r₄, w₄, e₄⟩ := Run.run_to (M := hubMachine srv) r₃ w₃ e₃ ho gate
  have hl₄ : c₄.world.hub.lobbies.lookup lid = some l := w₄ ▸ hl
  have told : launched srv (.ran (.conn p)
      (start_commit (.host p none) lid none c.world.hub.next_session sp .Ice true) o c₄) =
      some c.world.hub.next_session :=
    commit_launched hl₄ (members_of_players (two ▸ Nat.two_pos))
  have ho₄ : o.possible c₄.world := by
    rw [w₄]
    exact ho
  obtain ⟨c₅, r₅, w₅, e₅⟩ :=
    Run.run_to (M := hubMachine srv) r₄ rfl e₄ ho₄ (commit_sections srv o hl₄)
  have ho₅ : o.possible c₅.world := by
    rw [w₅]
    exact ho₄
  obtain ⟨c₆, tr₆, r₆, e₆, ho₆, hub⟩ :=
    drain (t := .conn p) _ _ r₅ (e₅.trans (List.append_nil _)) ho₅
  rw [w₅] at hub
  have next : c₄.world.hub.next_session = nextSession c.world.hub.next_session := by
    rw [w₄]
    rfl
  have noted₄ : c₄.world.hub.lobby_id_of p = some lid := by
    rw [w₄]
    exact noted
  refine ⟨c₆, tr₆ ++ [_, _, _, _, _], by simpa using r₆, ⟨e₆, ho₆, ?_, ?_⟩, ?_, ?_⟩
  · rw [hub]
    exact noted₄
  · refine ⟨l.launch none c.world.hub.next_session, ?_, host, ?_, gallery, caps⟩
    · rw [hub]
      exact (Assoc.Map.lookup_modify_self ..).trans (congrArg _ hl₄)
    · rw [← two]
      show (l.slots.map _).countP _ = l.slots.countP _
      rw [List.countP_map]
      congr 1
      funext s
      cases s <;> rfl
  · rw [hub]
    exact next
  · exact ⟨_, List.mem_append_right _ List.mem_cons_self, told⟩

/-- The host presses Play again and again, until the counter has come to its end. -/
lemma MayRematch.to_the_end (anyone : srv.require_login = false) {c tr} (r : HubRun srv c tr)
    (h : MayRematch p lid o c) : ∃ c' tr', HubRun srv c' tr' ∧ MayRematch p lid o c' ∧
      c'.world.hub.next_session = lastSession := by
  have after : ∀ n : Nat, ∃ c' tr', HubRun srv c' tr' ∧ MayRematch p lid o c' ∧
      min n lastSession ≤ c'.world.hub.next_session := by
    intro n
    induction n with
    | zero => exact ⟨c, tr, r, h, Nat.zero_le _⟩
    | succ n ih =>
      obtain ⟨c', tr', r', h', far⟩ := ih
      obtain ⟨c'', tr'', r'', h'', next, -⟩ := h'.again anyone r'
      refine ⟨c'', _, r'', h'', ?_⟩
      rw [next]
      simp only [nextSession, lastSession] at far ⊢
      omega
  obtain ⟨c', tr', r', h', far⟩ := after lastSession
  have bound := (HubRun.counter r').2
  refine ⟨c', tr', r', h', ?_⟩
  omega

end

/-- Once the counter has come to its end, a rematch is launched with the session id of the match. -/
theorem session_reused : ¬ ∀ c tr, HubRun sampleServer c tr → SessionsFresh sampleServer tr := by
  intro all
  let p := "6b0f1e52-3c1d-4a86-9a53-0d5f6f1c2a11"
  let q := "c4d1c1a0-5f0e-4a53-8d43-9f4b1f7f3b22"
  let room := "1f8a9f0e-7d2b-4b57-8f6f-2f6f2b0c9d01"
  let o := draw "9b1deb4d-3b7d-4bad-9bdd-2b0d7b3dcb6d"
  let test : HubSnapshot × List HubLabel → Bool := fun x =>
    (x.1.pending (.conn p)).isEmpty && decide (o.possible x.1.world) &&
      (x.1.world.hub.lobby_id_of p == some room) &&
      (x.1.world.hub.lobbies.lookup room).any fun l =>
        l.host_player_id == p && player_count l == 2 && l.spectator_count == 0 &&
          l.match_caps.isNone
  have h : ((hubMachine sampleServer).follow (roomOfTwo p q room o)).any test := by decide +kernel
  obtain ⟨c, tr, r, ht, -⟩ := Machine.follow_reaches h
  simp only [test, Bool.and_eq_true, List.isEmpty_iff, decide_eq_true_eq, beq_iff_eq,
    Option.any_eq_true, Option.isNone_iff_eq_none] at ht
  obtain ⟨⟨⟨idle, ho⟩, noted⟩, l, hl, ⟨⟨host, two⟩, gallery⟩, caps⟩ := ht
  have may : MayRematch p room o c := ⟨idle, ho, noted, l, hl, host, two, gallery, caps⟩
  obtain ⟨c₀, tr₀, r₀, may₀, last⟩ := may.to_the_end rfl r
  obtain ⟨c₁, tr₁, r₁, may₁, next, e₁, he₁, launch₁⟩ := may₀.again rfl r₀
  obtain ⟨c₂, tr₂, r₂, -, -, e₂, he₂, launch₂⟩ := may₁.again rfl r₁
  have stuck : c₁.world.hub.next_session = c₀.world.hub.next_session := by
    rw [next, last]
    rfl
  obtain ⟨-, -, fresh⟩ := List.pairwise_append.mp (all _ _ r₂)
  exact (fresh e₂ he₂ e₁ (List.mem_append_left _ he₁) _ launch₂).1 (stuck ▸ launch₁)

end RecompNet
