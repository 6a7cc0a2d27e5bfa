import RecompNet.Hub.Entering
import Mathlib.Data.Fintype.EquivFin

/-!
# The limit on rooms

`MAX_LOBBIES` is checked in one section and a created room inserted in another (`handle_create`);
the room of a matched pair is checked for and inserted in one (`form_match`). The table stays within
the limit exactly as long as the rooms that others make between the check of a create and its insertion
find place in what the check left and others close, and any number of creators may find it empty first.
-/

namespace RecompNet

open Section Interleave

/-- The step makes a room. -/
def makesRoom : HubLabel → Bool
  | .ran _ (create_insert ..) _ _ => true
  | .ran _ (form_match_room plan) _ pre =>
    let g := pre.world.hub
    g.lobbies.size < MAX_LOBBIES && g.connected plan.p.a.player_id && g.connected plan.p.b.player_id
  | _ => false

/-- The step closes a room. -/
def closesRoom : HubLabel → Bool
  | .ran _ (destroy_lobby lid) _ pre => (pre.world.hub.lobbies.lookup lid).isSome
  | _ => false

/-- Between the check of a create and its insertion, no more rooms are made than are closed and than the
check left places for beside its own. -/
def CreatesFit (srv : Server) (tr : List HubLabel) : Prop :=
  ∀ p ip msg chk since pre,
    Between (hubMachine srv) tr (.conn p) (dispatch p ip msg) chk since (create_insert p ip msg) pre →
    since.countP makesRoom ≤
      since.countP closesRoom + (MAX_LOBBIES - 1 - chk.world.hub.lobbies.size)

/-! ## Counting rooms -/

lemma size_eq_keys (m : Assoc.Map String Lobby) : m.size = m.keys.length :=
  (List.length_map _).symm

/-- Tables with the same rooms have the same size. -/
lemma size_congr {m m' : Assoc.Map String Lobby} (h : ∀ lid, lid ∈ m' ↔ lid ∈ m) :
    m'.size = m.size := by
  rw [size_eq_keys, size_eq_keys]
  refine ((List.perm_ext_iff_of_nodup m'.keys_nodup m.keys_nodup).mpr fun lid => ?_).length_eq
  rw [← AList.mem_keys, ← AList.mem_keys]
  exact h lid

/-- A new room is one more. -/
lemma size_insert {m : Assoc.Map String Lobby} {lid : String} {l : Lobby} (new : lid ∉ m) :
    Assoc.Map.size (m.insert lid l) = m.size + 1 := by
  show (m.insert lid l).entries.length = _
  rw [AList.entries_insert_of_notMem new]
  rfl

/-- A room that goes is one less. -/
lemma size_erase {m : Assoc.Map String Lobby} {lid : String} (old : lid ∈ m) :
    Assoc.Map.size (m.erase lid) + 1 = m.size := by
  rw [size_eq_keys, size_eq_keys, AList.keys_erase]
  exact List.length_erase_add_one (AList.mem_keys.mp old)

/-- What a section does to the number of rooms. -/
lemma exec_size {srv t s o} {pre : HubSnapshot} (basic : pre.world.Basic) (ho : o.possible pre.world) :
    (exec srv s o pre.world).1.hub.lobbies.size + (if closesRoom (.ran t s o pre) then 1 else 0) =
      pre.world.hub.lobbies.size + (if makesRoom (.ran t s o pre) then 1 else 0) := by
  have new : o.uuid ∉ pre.world.hub.lobbies := by
    intro old
    obtain ⟨l, hl⟩ := Assoc.Map.mem_iff.mp old
    exact ho.2.1 (basic.lobby_issued _ l hl)
  have change := exec_change srv s o basic.sized
  have same : (∀ p ip msg, s ≠ create_insert p ip msg) → (∀ plan, s ≠ form_match_room plan) →
      (∀ lid, s ≠ destroy_lobby lid) →
      (exec srv s o pre.world).1.hub.lobbies.size = pre.world.hub.lobbies.size := by
    intro uncreated unformed stays
    refine size_congr fun lid => ?_
    rw [Assoc.Map.mem_iff, Assoc.Map.mem_iff]
    constructor
    · rintro ⟨l', hl'⟩
      rcases change.lobby_back hl' with ⟨l, hl, -⟩ | ⟨_, _, _, e, -⟩ | ⟨_, e, -⟩
      · exact ⟨l, hl⟩
      · exact absurd e (uncreated _ _ _)
      · exact absurd e (unformed _)
    · rintro ⟨l, hl⟩
      exact change.lobby_stays hl (stays lid)
  cases s with
  | create_insert p ip msg => exact size_insert (l := createdLobby srv pre.world.hub o p ip msg) new
  | form_match_room plan =>
    have table : (exec srv (form_match_room plan) o pre.world).1.hub.lobbies =
        if makesRoom (.ran t (form_match_room plan) o pre) then
          pre.world.hub.lobbies.insert o.uuid (matchLobby srv pre.world.hub plan o.uuid)
        else pre.world.hub.lobbies := by
      simp only [exec, form_match_room_step, makesRoom]
      by_cases full : MAX_LOBBIES ≤ pre.world.hub.lobbies.size
      · simp [full, not_lt.mpr full]
      · by_cases first : pre.world.hub.connected plan.p.a.player_id <;>
          by_cases second : pre.world.hub.connected plan.p.b.player_id <;>
          simp [full, not_le.mp full, first, second]
    rw [table]
    split
    · exact size_insert (l := matchLobby srv pre.world.hub plan o.uuid) new
    · rfl
  | destroy_lobby lid =>
    simp only [exec, World.lift, World.setHub, destroy_lobby_step, closesRoom, makesRoom]
    split
    · rename_i none
      simp [none]
    · rename_i l hl
      simpa [hl] using size_erase (Assoc.Map.mem_iff.mpr ⟨l, hl⟩)
  | _ =>
    refine congrArg (· + 0) (same ?_ ?_ ?_)
    all_goals
      intros
      simp

/-- Since a step, the rooms there were and the rooms made are the rooms there are and the rooms closed. -/
theorem HubRun.rooms_since {srv l earlier c since} (r : HubRun srv c (since ++ l :: earlier))
    (quiet : ∀ {c'}, Step (hubMachine srv) l.pre l c' →
      c'.world.hub.lobbies.size = l.pre.world.hub.lobbies.size) :
    c.world.hub.lobbies.size + since.countP closesRoom =
      l.pre.world.hub.lobbies.size + since.countP makesRoom := by
  refine Run.since (I := fun c since => c.world.hub.lobbies.size + since.countP closesRoom =
    l.pre.world.hub.lobbies.size + since.countP makesRoom) quiet ?_ r
  intro c since l' c' r' ih st
  rw [List.countP_cons, List.countP_cons]
  cases st with
  | @run t s rest o e ho =>
    have step := @exec_size srv t s o c (HubRun.basic r') ho
    show (exec srv s o c.world).1.hub.lobbies.size + _ = _
    omega
  | @event e _ _ =>
    have same : ((hubMachine srv).afterEvent c e).world.hub.lobbies = c.world.hub.lobbies :=
      apply_lobbies srv c.world e
    rw [same]
    exact congrArg (· + 0) ih

/-! ## The limit -/

/-- A created room is inserted after a check that found the table below the limit, and whatever was made
and closed since. -/
lemma HubRun.rooms_at_insert {srv c tr p ip msg chk since pre} (r : HubRun srv c tr)
    (h : Between (hubMachine srv) tr (.conn p) (dispatch p ip msg) chk since
      (create_insert p ip msg) pre) : chk.world.hub.lobbies.size < MAX_LOBBIES ∧
      pre.world.hub.lobbies.size + since.countP closesRoom =
        chk.world.hub.lobbies.size + since.countP makesRoom := by
  obtain ⟨o, o', earlier, -, r', starts⟩ := h.reached r
  obtain ⟨_, _, _, -, -, check, -⟩ := exec_enters starts rfl
  refine ⟨(check rfl).2, HubRun.rooms_since r' ?_⟩
  intro c' st
  obtain ⟨r0, -⟩ := r'.pre_reached _ _ _ rfl
  cases st with
  | run e ho =>
    have step := @exec_size srv (.conn p) (dispatch p ip msg) o' chk (HubRun.basic r0) ho
    exact step

/-- When the states of a run are within the limit, an insertion finds the table below it. -/
lemma HubRun.inserted_within {srv c tr p ip msg chk since pre} (r : HubRun srv c tr)
    (h : Between (hubMachine srv) tr (.conn p) (dispatch p ip msg) chk since
      (create_insert p ip msg) pre)
    (within : ∀ s ∈ visited c tr, s.world.hub.lobbies.size ≤ MAX_LOBBIES) :
    pre.world.hub.lobbies.size < MAX_LOBBIES := by
  obtain ⟨⟨o, o', later, earlier, rfl, -⟩, -⟩ := h
  obtain ⟨c', hc, st⟩ := r.post_visited _ _ _ rfl
  obtain ⟨r', -⟩ := r.pre_reached _ _ _ rfl
  have after := within c' hc
  cases st with
  | run e ho =>
    have step := @exec_size srv (.conn p) (create_insert p ip msg) o pre (HubRun.basic r') ho
    simp only [closesRoom, makesRoom] at step
    exact Nat.lt_of_succ_le (step.symm.le.trans after)

/-- Where the rooms made while a create is under way find place, every room that is made does. -/
lemma CreatesFit.below {srv c tr t s rest o} (r : HubRun srv c tr) (e : c.pending t = s :: rest)
    (ho : o.possible c.world) (fit : CreatesFit srv (.ran t s o c :: tr))
    (makes : makesRoom (.ran t s o c)) : c.world.hub.lobbies.size < MAX_LOBBIES := by
  cases s with
  | create_insert p ip msg =>
    have r' : HubRun srv _ (.ran t (create_insert p ip msg) o c :: tr) := r.step (.run e ho)
    obtain rfl := HubRun.actor_task r t _ (e ▸ List.mem_cons_self) p rfl
    obtain ⟨k, chk, since, h⟩ := r.between e (fun e w hs => body_not_inner _ hs rfl) o
    obtain ⟨_, _, _, -, -, starts⟩ := h.reached r'
    obtain ⟨ip', msg', -, rfl, -, check, -⟩ := exec_enters starts rfl
    cases (check rfl).1
    obtain ⟨below, count⟩ := HubRun.rooms_at_insert r' h
    have room := fit p ip msg chk since c h
    omega
  | form_match_room plan =>
    simp only [makesRoom, Bool.and_eq_true, decide_eq_true_eq] at makes
    exact makes.1.1
  | _ => cases makes

/-- **The limit on rooms.** All along a run the table stays within the limit exactly when the rooms
made while a create is under way find place. -/
theorem lobby_limit {srv c tr} (r : HubRun srv c tr) :
    (∀ s ∈ visited c tr, s.world.hub.lobbies.size ≤ MAX_LOBBIES) ↔ CreatesFit srv tr := by
  constructor
  · intro within p ip msg chk since pre h
    obtain ⟨below, count⟩ := HubRun.rooms_at_insert r h
    have place := HubRun.inserted_within r h within
    omega
  · intro fit
    induction r with
    | start =>
      intro s hs
      rw [List.mem_singleton.mp hs]
      exact Nat.zero_le _
    | @step c tr l c' r st ih =>
      have before := ih fun p ip msg chk since pre h => fit p ip msg chk since pre (h.later [l])
      rw [st.visited_cons]
      refine List.forall_mem_cons.mpr ⟨?_, before⟩
      have old : c.world.hub.lobbies.size ≤ MAX_LOBBIES := before c List.mem_cons_self
      cases st with
      | @run t s rest o e ho =>
        have step := @exec_size srv t s o c (HubRun.basic r) ho
        show (exec srv s o c.world).1.hub.lobbies.size ≤ MAX_LOBBIES
        by_cases makes : makesRoom (.ran t s o c)
        · have below := CreatesFit.below r e ho fit makes
          rw [if_pos makes] at step
          omega
        · rw [if_neg makes] at step
          omega
      | @event e _ _ =>
        have same : ((hubMachine srv).afterEvent c e).world.hub.lobbies = c.world.hub.lobbies :=
          apply_lobbies srv c.world e
        rw [same]
        exact old

/-- Carol has a room. Alice and Bob pass the check, Carol closes her room, and both insert theirs. -/
def creatorsOverlap (p q r : String) : List Move :=
  let o := draw "9b1deb4d-3b7d-4bad-9bdd-2b0d7b3dcb6d"
  let create : InMsg := { op := .create }
  [.event (.connect p "203.0.113.7")] ++ steps (.conn p) 1 o ++
    [.event (.connect q "198.51.100.4")] ++ steps (.conn q) 1 o ++
    [.event (.connect r "192.0.2.9")] ++ steps (.conn r) 1 o ++
    [say r create] ++ steps (.conn r) 3 (draw "2a7d4c11-0b9e-47a5-9f0c-6d8e3b5a1c44") ++
    steps (.conn r) 2 o ++ [say p create] ++ steps (.conn p) 2 o ++
    [say q create] ++ steps (.conn q) 2 o ++ [say r { op := .close }] ++ steps (.conn r) 3 o ++
    steps (.conn p) 1 (draw "1f8a9f0e-7d2b-4b57-8f6f-2f6f2b0c9d01") ++
    steps (.conn q) 1 (draw "7c9e6679-7425-40de-944b-e07fc1f90ae7")

/-- Two creates whose checks and insertions overlap find place. -/
theorem lobby_limit_overlap : ∃ c tr, HubRun sampleServer c tr ∧ tr.countP makesRoom = 3 ∧
    tr.countP closesRoom = 1 ∧ (∀ s ∈ visited c tr, s.world.hub.lobbies.size ≤ MAX_LOBBIES) ∧
    CreatesFit sampleServer tr := by
  let ms := creatorsOverlap "6b0f1e52-3c1d-4a86-9a53-0d5f6f1c2a11"
    "c4d1c1a0-5f0e-4a53-8d43-9f4b1f7f3b22" "5e2c7f3a-9a41-4c0e-8b64-7a1f0d3c9b33"
  let test : HubSnapshot × List HubLabel → Bool := fun x =>
    x.2.countP makesRoom = 3 && x.2.countP closesRoom = 1 &&
      (visited x.1 x.2).all fun s => s.world.hub.lobbies.size ≤ MAX_LOBBIES
  have h : ((hubMachine sampleServer).follow ms).any test := by decide +kernel
  obtain ⟨c, tr, r, ht, -⟩ := Machine.follow_reaches h
  obtain ⟨counts, sizes⟩ := (Bool.and_eq_true _ _).mp ht
  obtain ⟨made, closed⟩ := (Bool.and_eq_true _ _).mp counts
  have within : ∀ s ∈ visited c tr, s.world.hub.lobbies.size ≤ MAX_LOBBIES :=
    fun s hs => of_decide_eq_true (List.all_eq_true.mp sizes s hs)
  exact ⟨c, tr, r, of_decide_eq_true made, of_decide_eq_true closed, within,
    (lobby_limit r).mp within⟩

/-! ## Many creators -/

/-- There is always another uuid. -/
lemma exists_fresh (used : List String) : ∃ u : String, u ≠ "" ∧ u ∉ used := by
  let xs : Nat → String := fun n => String.ofList (List.replicate n 'x')
  have : Infinite String := Infinite.of_injective xs (by
    intro n k e
    have lengths := congrArg (fun s : String => s.toList.length) e
    simpa [xs] using lengths)
  obtain ⟨u, hu⟩ := Infinite.exists_notMem_finset ("" :: used).toFinset
  rw [List.mem_toFinset, List.mem_cons, not_or] at hu
  exact ⟨u, hu⟩

/-- A connection `p` has come, and has `ss` left to do; everything else is as it was. -/
structure Newcomer (c c' : HubSnapshot) (p : String) (ss : List Section) : Prop where
  others : ∀ t ≠ .conn p, c'.pending t = c.pending t
  todo : c'.pending (.conn p) = ss
  rooms : c'.world.hub.lobbies = c.world.hub.lobbies
  queue : c'.world.automatch.tickets = []
  row : c'.world.hub.clients.lookup p = some (freshClient sampleServer p "203.0.113.7")

/-- The newcomer's next section, when it touches neither rooms nor queue nor the newcomer's row. -/
lemma Newcomer.next {c c' tr' p s ss rest} (h : Newcomer c c' p (s :: rest))
    (r : HubRun sampleServer c' tr')
    (keeps : ∀ u, (exec sampleServer s (draw u) c'.world).1.hub = c'.world.hub ∧
      (exec sampleServer s (draw u) c'.world).1.automatch = c'.world.automatch ∧
      (exec sampleServer s (draw u) c'.world).2 = ss) :
    ∃ c'' tr'', HubRun sampleServer c'' tr'' ∧ Newcomer c c'' p (ss ++ rest) := by
  obtain ⟨u, ne, new⟩ := exists_fresh c'.world.issued
  have ho : (draw u).possible c'.world := by
    refine ⟨ne, new, List.not_mem_nil, List.nodup_nil, nofun, ?_⟩
    rw [h.queue]
    exact Nat.zero_le _
  obtain ⟨hub, queue, started⟩ := keeps u
  obtain ⟨r', todo⟩ := Run.run_next r h.todo ho
  refine ⟨_, _, r', ?_, ?_, ?_, ?_, ?_⟩
  · intro t ht
    rw [← h.others t ht]
    exact Function.update_of_ne ht _ _
  · rw [← started]
    exact todo
  · exact (congrArg HubInner.lobbies hub).trans h.rooms
  · exact (congrArg QueueInner.tickets queue).trans h.queue
  · exact (congrArg (fun g => g.clients.lookup p) hub).trans h.row

/-- The newcomer asks for a room. -/
lemma Newcomer.asks {c c' tr' p} (h : Newcomer c c' p []) (r : HubRun sampleServer c' tr') :
    ∃ c'' tr'', HubRun sampleServer c'' tr'' ∧
      Newcomer c c'' p [handle_text p "203.0.113.7" (.ok { op := .create })] := by
  let e : Event := .text p (.ok { op := .create })
  have st : Step (hubMachine sampleServer) c' (.came e c')
      ((hubMachine sampleServer).afterEvent c' e) :=
    .event h.todo (connected_iff.mpr ⟨_, h.row⟩)
  refine ⟨_, _, r.step st, ?_, ?_, h.rooms, h.queue, h.row⟩
  · intro t ht
    rw [← h.others t ht]
    exact Function.update_of_ne ht _ _
  · refine (Function.update_self _ _ _).trans ?_
    show [handle_text p (((c'.world.hub.clients.lookup p).map (·.peer_ip)).getD "") _] = _
    rw [h.row]
    rfl

/-- Another creator passes the check, as long as the table is below the limit. -/
lemma another_creator {c tr} {ps : List String} (r : HubRun sampleServer c tr)
    (queue : c.world.automatch.tickets = []) (below : c.world.hub.lobbies.size < MAX_LOBBIES)
    (idle : ∀ p ∉ ps, c.pending (.conn p) = []) :
    ∃ c' tr' p, HubRun sampleServer c' tr' ∧ p ∉ ps ∧
      Newcomer c c' p [create_insert p "203.0.113.7" { op := .create }] := by
  obtain ⟨p, ne, new⟩ := exists_fresh (c.world.issued ++ ps)
  rw [List.mem_append, not_or] at new
  have st : Step (hubMachine sampleServer) c (.came (.connect p "203.0.113.7") c)
      ((hubMachine sampleServer).afterEvent c (.connect p "203.0.113.7")) :=
    .event (idle p new.2) ⟨ne, new.1⟩
  have n1 : Newcomer c ((hubMachine sampleServer).afterEvent c (.connect p "203.0.113.7")) p
      [welcome p] := by
    refine ⟨fun t ht => Function.update_of_ne ht _ _, Function.update_self _ _ _, rfl, queue, ?_⟩
    exact AList.lookup_insert _
  obtain ⟨c2, tr2, r2, n2⟩ := @n1.next _ _ _ _ _ [] _ (r.step st) fun u =>
    ⟨World.send_hub _ _ _, World.send_automatch _ _ _, rfl⟩
  obtain ⟨c3, tr3, r3, n3⟩ := n2.asks r2
  obtain ⟨c4, tr4, r4, n4⟩ := @n3.next _ _ _ _ _
    [dispatch p "203.0.113.7" { op := .create }] _ r3 fun u => ⟨rfl, rfl, rfl⟩
  have created : handle_create c4.world.hub p "203.0.113.7" { op := .create } =
      (c4.world.hub, [create_insert p "203.0.113.7" { op := .create }]) := by
    have standing : c4.world.hub.lobby_id_of p = none := by
      rw [HubInner.lobby_id_of, n4.row]
      rfl
    unfold handle_create
    rw [standing, n4.rooms, if_neg (by simp), if_neg (not_le.mpr below)]
    rfl
  obtain ⟨c5, tr5, r5, n5⟩ := @n4.next _ _ _ _ _
    [create_insert p "203.0.113.7" { op := .create }] _ r4 fun u =>
      ⟨congrArg Prod.fst created, rfl, congrArg Prod.snd created⟩
  exact ⟨c5, tr5, p, r5, new.2, n5⟩

/-- Any number of creators may pass the check of an empty table. -/
lemma many_creators (n : Nat) : ∃ c tr, ∃ ps : List String, HubRun sampleServer c tr ∧
    c.world.automatch.tickets = [] ∧ c.world.hub.lobbies.size = 0 ∧ ps.Nodup ∧ ps.length = n ∧
    (∀ p ∉ ps, c.pending (.conn p) = []) ∧
    ∀ p ∈ ps, c.pending (.conn p) = [create_insert p "203.0.113.7" { op := .create }] := by
  induction n with
  | zero =>
    refine ⟨_, _, [], .start, rfl, rfl, List.nodup_nil, rfl, fun _ _ => rfl, ?_⟩
    intro p hp
    cases hp
  | succ n ih =>
    obtain ⟨c, tr, ps, r, queue, none, once, count, idle, waiting⟩ := ih
    have below : c.world.hub.lobbies.size < MAX_LOBBIES := by
      rw [none]
      decide
    obtain ⟨c', tr', p, r', new, came⟩ := another_creator r queue below idle
    refine ⟨c', tr', p :: ps, r', came.queue, came.rooms ▸ none, List.nodup_cons.mpr ⟨new, once⟩,
      congrArg (· + 1) count, ?_, ?_⟩
    · intro q hq
      rw [List.mem_cons, not_or] at hq
      rw [came.others _ fun e => hq.1 (Tid.conn.inj e)]
      exact idle q hq.2
    · intro q hq
      rcases List.mem_cons.mp hq with rfl | hq
      · exact came.todo
      · have ne : Tid.conn q ≠ .conn p := fun e => new (Tid.conn.inj e ▸ hq)
        rw [came.others _ ne]
        exact waiting q hq

/-- Creators that passed the check all insert their rooms. -/
lemma creators_insert {ps : List String} : ∀ {c tr}, HubRun sampleServer c tr →
    c.world.automatch.tickets = [] → ps.Nodup →
    (∀ p ∈ ps, c.pending (.conn p) = [create_insert p "203.0.113.7" { op := .create }]) →
    ∃ c' tr', HubRun sampleServer c' tr' ∧
      c'.world.hub.lobbies.size = c.world.hub.lobbies.size + ps.length := by
  induction ps with
  | nil => exact fun r _ _ _ => ⟨_, _, r, rfl⟩
  | cons p ps ih =>
    intro c tr r queue once waiting
    obtain ⟨new, once⟩ := List.nodup_cons.mp once
    obtain ⟨u, ne, fresh⟩ := exists_fresh c.world.issued
    have ho : (draw u).possible c.world := by
      refine ⟨ne, fresh, List.not_mem_nil, List.nodup_nil, nofun, ?_⟩
      rw [queue]
      exact Nat.zero_le _
    obtain ⟨r', -⟩ := Run.run_next r (waiting p List.mem_cons_self) ho
    obtain ⟨c', tr', r'', size⟩ := ih r' queue once (by
      intro q hq
      have other : Tid.conn q ≠ .conn p := fun e => new (Tid.conn.inj e ▸ hq)
      rw [← waiting q (List.mem_cons_of_mem _ hq)]
      exact Function.update_of_ne other _ _)
    refine ⟨c', tr', r'', size.trans ?_⟩
    have one : ((hubMachine sampleServer).afterRun c (.conn p)
        (create_insert p "203.0.113.7" { op := .create }) [] (draw u)).world.hub.lobbies.size =
        c.world.hub.lobbies.size + 1 :=
      @exec_size sampleServer (.conn p) (create_insert p "203.0.113.7" { op := .create }) _ c
        (HubRun.basic r) ho
    rw [one, List.length_cons]
    omega

/-- Sixty-five clients check first and create afterwards. -/
theorem lobby_limit_passed : ¬ ∀ srv c tr, HubRun srv c tr →
    ∀ s ∈ visited c tr, s.world.hub.lobbies.size ≤ MAX_LOBBIES := by
  intro all
  obtain ⟨c, tr, ps, r, queue, none, once, count, -, waiting⟩ := many_creators (MAX_LOBBIES + 1)
  obtain ⟨c', tr', r', size⟩ := creators_insert r queue once waiting
  have within := all _ c' tr' r' c' List.mem_cons_self
  rw [size, none, count] at within
  exact absurd within (by decide)

end RecompNet
