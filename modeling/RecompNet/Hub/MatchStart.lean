import RecompNet.Hub.RelayChoice
import RecompNet.Hub.RowEdit
import RecompNet.Hub.StartTask

/-!
# The start of a match

The start task of a match room waits for the proof that the relay is reached and takes the room
through the gate of `start_lobby` again and again, without ICE until the window of the proof is over
and with it once more after that. While both players stay, the room has two seats for the pair and
the caps of the match, so the only refusal is a missing proof, and the last gate refuses nothing.
-/

open scoped List

namespace RecompNet

open Section Interleave

/-- Every seat but that of the relay host has proven, recently enough, that it reaches it directly.
-/
def Lobby.Proven (now : Instant) (l : Lobby) : Prop :=
  ∀ s, some s ∈ l.slots → s.player_id ≠ l.relay_host →
    s.ice_path = some .direct ∧ s.path_fresh now

lemma Lobby.proven_iff {now : Instant} {l : Lobby} :
    l.Proven now ↔ (l.slots.filterMap id).any (l.unproven now) = false := by
  simp only [Lobby.Proven, Lobby.unproven, List.any_eq_false, List.mem_filterMap, id_eq,
    exists_eq_right, Bool.and_eq_true, Bool.or_eq_true, decide_eq_true_eq, not_and, not_or, ne_eq,
    not_not, Bool.not_eq_true', Bool.not_eq_false]

instance (now : Instant) (l : Lobby) : Decidable (l.Proven now) :=
  decidable_of_iff _ Lobby.proven_iff.symm

/-- How long the start task waits for the proof. -/
def proofWindow (p : Pending) : Nat :=
  if p.is_ice then AUTOMATCH_PROOF_WAIT_ICE else AUTOMATCH_PROOF_WAIT

/-! ## The gate of a match room -/

/-- An endpoint that is advertised is not blank. -/
lemma advertised_ne {raw ep : String} (h : parse_advertise_endpoint raw = some ep) : ep ≠ "" := by
  unfold parse_advertise_endpoint at h
  dsimp only at h
  split_ifs at h
  split at h
  · cases h
  · split_ifs at h
    split at h
    · cases h
    · split_ifs at h
      rename_i host port_s _ _ _ port _ _
      obtain rfl := Option.some.inj h
      intro blank
      have long := congrArg String.length blank
      simp at long

/-- No ticket offers to relay at a blank endpoint. -/
lemma HubRun.dialable {srv c tr} (r : HubRun srv c tr) :
    TicketsKeep (fun x => x.relay_endpoint ≠ some "") c := by
  apply HubRun.tickets_keep r
  · intro w req keys blocks x made
    obtain ⟨ep, hep, rfl⟩ := Option.map_eq_some_iff.mp made
    rintro rfl
    split at hep
    · cases hep
    · obtain ⟨e, he, same⟩ := Option.map_eq_some_iff.mp hep
      obtain rfl := Option.some.inj same
      exact advertised_ne (Option.filter_eq_some_iff.mp he).1 rfl
  · exact fun _ _ h => h
  · exact fun _ _ h => h

/-- The caps of a match ask for the host relay, over ICE when both sides offered it. -/
lemma matchCaps_relay {rs : Ruleset} {p : Pending} : wants_host (some (matchCaps rs p)) ∧
    (p.is_ice → caps_relay_via_ice (some (matchCaps rs p))) := by
  have object : ∀ caps floor, ∃ fs, caps_with_floor caps floor = .object fs := by
    intro caps floor
    unfold caps_with_floor
    dsimp only
    split <;> split <;> cases caps <;> simp_all [Value.insert, Value.is_object]
  obtain ⟨fs, hfs⟩ :=
    object rs.match_caps (delay_floor rs.match_caps p.a.rtt_ms p.b.rtt_ms rs.frame_ms)
  simp only [caps_relay_via_ice, matchCaps, wants_host, hfs, Value.insert]
  split
  · simp [Value.get, Value.as_str, Value.lookup_insertField_ne]
  · rename_i apart
    simp [Value.get, Value.as_str, apart]

/-- The members of a room are those at the table and those in the gallery. -/
lemma Lobby.member_count (l : Lobby) :
    l.member_ids.length = player_count l + l.spectator_count := by
  simp [Lobby.member_ids, Lobby.everyone, player_count, Lobby.spectator_count,
    List.length_filterMap_eq_countP]

/-- What a room needs for its match: it is as it was formed, and was formed for a pair that can
relay. -/
structure MatchRoom (srv : Server) (g : HubInner) (plan : MatchPlan) (lid : String) (l : Lobby) :
    Prop where
  same : (matchLobby srv g plan lid).SameMatch l
  caps : plan.caps = matchCaps plan.rs plan.p
  dial : plan.p.is_ice = false → plan.relay_ticket.relay_endpoint.getD "" ≠ ""

/-- A match room has two players, and the gate refuses nothing but a missing proof. -/
lemma MatchRoom.gate {srv g plan lid l} (h : MatchRoom srv g plan lid l) (now : Instant)
    (ice : Bool) : player_count l = 2 ∧ start_transport now l l.match_caps ice =
      if l.Proven now then .ok .Host
      else if ice then .ok .Ice else .error .host_relay_unproven := by
  obtain ⟨wants, via⟩ := @matchCaps_relay plan.rs plan.p
  have gallery : l.spectators = [] := List.length_eq_zero_iff.mp h.same.spectators_length
  have nobody : l.spectator_count = 0 := by simp [Lobby.spectator_count, gallery]
  have two : player_count l = 2 := by
    have members := h.same.members.length_eq
    rw [matchLobby_members, l.member_count, nobody] at members
    exact members
  have caps : l.match_caps = some (matchCaps plan.rs plan.p) :=
    h.same.caps.trans (congrArg some h.caps)
  have endpoint : ¬ (l.host_endpoint = "" ∧ !caps_relay_via_ice l.match_caps) := by
    rintro ⟨blank, apart⟩
    rw [h.same.endpoint] at blank
    cases hice : plan.p.is_ice with
    | true =>
      rw [caps, via hice] at apart
      cases apart
    | false =>
      simp only [matchLobby, hice, Bool.false_eq_true, if_false] at blank
      exact h.dial hice blank
  have decision : host_relay_decision now l l.match_caps =
      if l.Proven now then .ok () else .error .host_relay_unproven := by
    unfold host_relay_decision
    rw [if_neg (by simp [caps, wants]), if_neg endpoint, if_neg (by omega), if_neg (by omega)]
    by_cases proven : l.Proven now
    · rw [if_pos proven, Lobby.proven_iff.mp proven]
      rfl
    · rw [if_neg proven, Bool.eq_true_of_not_eq_false (fun h => proven (Lobby.proven_iff.mpr h))]
      rfl
  refine ⟨two, ?_⟩
  unfold start_transport
  rw [decision]
  by_cases proven : l.Proven now
  · simp [proven]
  · cases ice <;> simp [proven, nobody, two]

/-- The plan of a match has its caps, and a side that can be dialled when the match is not over ICE.
-/
lemma HubRun.plan_ready {srv c tr} (r : HubRun srv c tr) {t plan o pre}
    (h : .ran t (form_match_room plan) o pre ∈ tr) : plan.caps = matchCaps plan.rs plan.p ∧
      (plan.p.is_ice = false → plan.relay_ticket.relay_endpoint.getD "" ≠ "") := by
  constructor
  · obtain ⟨s', o', pre', hm, hs, hk⟩ := HubRun.ran_called r h fun e w hb => by
      simpa using body_kinds hb
    cases s' with
    | form_match p =>
      simp only [exec, form_match_step] at hs
      split at hs
      · cases hs
      · split at hs
        · cases hs
        · cases List.mem_singleton.mp hs
          rfl
    | dispatch p ip msg => cases hop : msg.op <;> simp [hop] at hk
    | _ => simp at hk
  · intro apart blank
    obtain ⟨-, settled, -⟩ := (relay_agreed r).room t plan o pre h
    obtain ⟨ep, hep⟩ := Option.isSome_iff_exists.mp (settled.able apart)
    obtain ⟨rest, earlier, r', -, e⟩ := Run.ran_pending r h
    have keep := (HubRun.dialable r').pending t _ (e ▸ List.mem_cons_self)
    have chosen : plan.relay_ticket = plan.p.ticket plan.a_hosts := by
      unfold MatchPlan.relay_ticket Pending.ticket
      cases plan.a_hosts <;> rfl
    rw [chosen, hep] at blank
    obtain rfl : ep = "" := blank
    refine keep (plan.p.ticket plan.a_hosts) ?_ hep
    cases plan.a_hosts
    · exact List.mem_cons_of_mem _ List.mem_cons_self
    · exact List.mem_cons_self

/-! ## The room while both players stay -/

/-- A matched player leaves the room of its match. -/
def LeavesMatch (plan : MatchPlan) (lid : String) : HubLabel → Prop
  | .ran _ (client_leave p) _ pre =>
    p ∈ [plan.p.a.player_id, plan.p.b.player_id] ∧ pre.world.hub.lobby_id_of p = some lid
  | _ => False

/-- The room of a match stands, and is noted by the pair only. -/
structure MatchHeld (srv : Server) (g : HubInner) (plan : MatchPlan) (lid : String)
    (c : HubSnapshot) : Prop where
  room : ∃ l, c.world.hub.lobbies.lookup lid = some l ∧ MatchRoom srv g plan lid l
  noted : ∀ p, c.world.hub.lobby_id_of p = some lid →
    p ∈ [plan.p.a.player_id, plan.p.b.player_id]
  standing : ∀ t, destroy_lobby lid ∉ c.pending t

section
variable {srv : Server} {g : HubInner} {plan : MatchPlan} {lid : String} {c : HubSnapshot}
  {tr : List HubLabel}

/-- Nobody finds a seat in a match room. -/
lemma MatchRoom.full {l} (h : MatchRoom srv g plan lid l)
    (small : l.slots.length ≤ SPECTATOR_SLOT_BASE) : freeSeat l = none := by
  cases hf : freeSeat l with
  | none => rfl
  | some seat =>
    have empty := Lobby.seat_freeSeat small hf
    have more := (Lobby.sit_members empty (matchSlot g plan.p.a) "").length_eq
    have frame := Lobby.sit_frame l seat (matchSlot g plan.p.a) ""
    have seats := Lobby.members_le_seats (l.sit seat (matchSlot g plan.p.a) "")
    have pair := h.same.members.length_eq
    have two := h.same.slots_length
    have gallery : l.spectators.length = 0 := h.same.spectators_length
    rw [frame.slots_length, frame.spectators_length, gallery] at seats
    rw [matchLobby_members] at pair
    rw [matchLobby_two] at two
    simp only [List.length_cons, List.length_nil] at more pair
    omega

/-- Who is in the room of a match after a section was there before. -/
lemma MatchHeld.noted_run {s o} (h : MatchHeld srv g plan lid c) (r : HubRun srv c tr)
    (fresh : lid ≠ o.uuid) {p}
    (hp : (exec srv s o c.world).1.hub.lobby_id_of p = some lid) :
    c.world.hub.lobby_id_of p = some lid := by
  obtain ⟨l, hl, room⟩ := h.room
  obtain ⟨row', hrow', hnote⟩ := Option.bind_eq_some_iff.mp hp
  obtain ⟨row, hrow, edit⟩ := exec_row p row' hrow'
  have same : row'.lobby_id = row.lobby_id → c.world.hub.lobby_id_of p = some lid :=
    fun e => Option.bind_eq_some_iff.mpr ⟨row, hrow, e ▸ hnote⟩
  cases edit with
  | create | form => exact absurd (Option.some.inj hnote).symm fresh
  | kicked | leave | destroy => cases hnote
  | @sit ip lid' msg =>
    obtain rfl : lid' = lid := Option.some.inj hnote
    have full := room.full ((HubRun.basic r).sized _ _ hl)
    have kept : (joinOutcome srv o c.world.hub p ip lid' msg).1 = c.world.hub := by
      have ends := join_ends srv o c.world.hub p ip lid' msg
      generalize joinOutcome srv o c.world.hub p ip lid' msg = out at ends ⊢
      cases ends with
      | refused => rfl
      | seated hl0 free =>
        obtain rfl := Option.some.inj (hl.symm.trans hl0)
        cases full.symm.trans free
    rw [← kept, ← join_seat_step_hub]
    exact hp
  | _ => exact same rfl

/-- A section keeps the room of a match, if no matched player leaves it and its start is not given
up. -/
lemma MatchHeld.run {t s rest o} (h : MatchHeld srv g plan lid c) (r : HubRun srv c tr)
    (e : c.pending t = s :: rest) (ho : o.possible c.world)
    (stays : ¬ LeavesMatch plan lid (.ran t s o c))
    (calm : s.GivesUp lid → destroy_lobby lid ∉ (exec srv s o c.world).2) :
    MatchHeld srv g plan lid ((hubMachine srv).afterRun c t s rest o) := by
  obtain ⟨l, hl, room⟩ := h.room
  have here : s ∈ c.pending t := e ▸ List.mem_cons_self
  have auto : l.automatch := room.same.automatch
  have host : l.host_player_id = "" := room.same.host
  have fresh : lid ≠ o.uuid := by
    rintro rfl
    exact ho.2.1 ((HubRun.basic r).lobby_issued _ l hl)
  refine ⟨?_, fun p hp => h.noted p (h.noted_run r fresh hp), ?_⟩
  · have change := exec_change srv s o (HubRun.basic r).sized
    obtain ⟨l', hl'⟩ := change.lobby_stays hl fun d => h.standing t (d ▸ here)
    have formed := HubRun.formed_as r lid l hl auto
    have same := (FormedAs.step r e formed hl hl' auto fresh).1
    exact ⟨l', hl', room.same.trans same, room.caps, room.dial⟩
  · have quiet : destroy_lobby lid ∉ (exec srv s o c.world).2 := by
      intro hd
      rcases exec_destroys hd with ⟨p, l0, hp, hl0, own⟩ | ⟨p, rfl, hp⟩ | gives
      · obtain rfl := Option.some.inj (hl.symm.trans hl0)
        obtain ⟨row, hrow, -⟩ := Option.bind_eq_some_iff.mp hp
        have named := ((HubRun.basic r).client_issued p (connected_iff.mpr ⟨row, hrow⟩)).1
        exact named (own.symm.trans host)
      · exact stays ⟨h.noted p hp, hp⟩
      · exact calm gives hd
    intro t' hd
    by_cases ht : t' = t
    · subst ht
      simp only [Machine.afterRun, Function.update_self] at hd
      rcases List.mem_append.mp hd with hd | hd
      · exact quiet hd
      · exact h.standing t' (e ▸ List.mem_cons_of_mem _ hd)
    · simp only [Machine.afterRun, Function.update_of_ne ht] at hd
      exact h.standing t' hd

/-- An event keeps it. -/
lemma MatchHeld.event {e} (h : MatchHeld srv g plan lid c) :
    MatchHeld srv g plan lid ((hubMachine srv).afterEvent c e) := by
  obtain ⟨l, hl, room⟩ := h.room
  refine ⟨⟨l, (apply_lobbies srv c.world e).symm ▸ hl, room⟩, ?_, ?_⟩
  · intro p hp
    obtain ⟨row, hrow, hnote⟩ := Option.bind_eq_some_iff.mp hp
    rcases apply_client_back hrow with old | ⟨ip, -, rfl⟩
    · exact h.noted p (Option.bind_eq_some_iff.mpr ⟨row, old, hnote⟩)
    · cases hnote
  · intro t hd
    by_cases ht : t = (hubMachine srv).task e
    · subst ht
      simp only [Machine.afterEvent, Function.update_self] at hd
      have kind := body_kinds hd
      simp at kind
    · simp only [Machine.afterEvent, Function.update_of_ne ht] at hd
      exact h.standing t hd

end

/-! ## The stages of a start -/

/-- The transport of a launch is the one that the last gate decided on: the host relay if every
other seat had its proof, else ICE, and then the window of the proof was over. -/
def Decided (plan : MatchPlan) (lid : String) (tr : List HubLabel) (transport : StartTransport) :
    Prop :=
  ∃ pre allow_ice l, lastGate lid tr = some (pre, allow_ice) ∧
    pre.world.hub.lobbies.lookup lid = some l ∧
    transport = (if l.Proven pre.world.now then .Host else .Ice) ∧
    (transport = .Ice → ∃ first, (wakes lid tr).getLast? = some first ∧
      first + proofWindow plan.p ≤ pre.world.now)

/-- The start task is asleep: for the first time, or until it tries the gate again. -/
inductive Asleep (plan : MatchPlan) (lid : String) (tr : List HubLabel) (task : StartTask) :
    Prop where
  | settle :
    wakes lid tr = [] →
    task.deadline = none →
    Asleep plan lid tr task
  | retry {first} :
    (wakes lid tr).getLast? = some first →
    task.deadline = some (first + proofWindow plan.p) →
    first + (wakes lid tr).length * NANOS ≤ task.wake_at →
    (wakes lid tr).length * NANOS ≤ proofWindow plan.p →
    Asleep plan lid tr task

/-- The start task is awake with one section to run, and knows when the window of the proof is over.
-/
structure Awake (srv : Server) (plan : MatchPlan) (lid : String) (c : HubSnapshot)
    (tr : List HubLabel) (task : StartTask) (first : Instant) (s : Section) : Prop where
  unspawned : ∀ t, (c.pending t).countP (Section.spawns lid) = 0
  silent : broadcasts srv lid tr = []
  works : c.pending (.start lid) = [s]
  up : c.world.spawned.lookup lid = none
  pair : task.ice_pair = plan.p.is_ice
  woken : (wakes lid tr).getLast? = some first
  deadline : task.deadline = some (first + proofWindow plan.p)
  since : first + ((wakes lid tr).length - 1) * NANOS ≤ c.world.now
  few : ((wakes lid tr).length - 1) * NANOS ≤ proofWindow plan.p

/-- What a start task that is awake has to run. -/
inductive AtWork (plan : MatchPlan) (lid : String) (c : HubSnapshot) (tr : List HubLabel)
    (task : StartTask) (first : Instant) : Section → Prop where
  | gate {allow_ice : Bool} :
    (allow_ice → first + proofWindow plan.p ≤ c.world.now) →
    AtWork plan lid c tr task first (start_prepare (.server task) lid none allow_ice)
  | refused :
    AtWork plan lid c tr task first (start_failed (.server task) lid false .relay_unavailable)
  | commit {sid sp transport allow_ice} :
    Decided plan lid tr transport →
    AtWork plan lid c tr task first
      (start_commit (.server task) lid none sid sp transport allow_ice)

/-- How far the start of a match is. -/
inductive StartStage (srv : Server) (plan : MatchPlan) (lid : String) (c : HubSnapshot)
    (tr : List HubLabel) : Prop where
  | spawning {t} :
    Unstarted srv lid c tr →
    (c.pending t).countP (Section.spawns lid) = 1 →
    (∀ t' ≠ t, (c.pending t').countP (Section.spawns lid) = 0) →
    (∀ t task, form_match_spawn task ∈ c.pending t → task.lobby_id = lid →
      task.ice_pair = plan.p.is_ice ∧ task.deadline = none) →
    StartStage srv plan lid c tr
  | asleep {task} :
    (∀ t, (c.pending t).countP (Section.spawns lid) = 0) →
    broadcasts srv lid tr = [] →
    c.pending (.start lid) = [] →
    c.world.spawned.lookup lid = some task →
    task.ice_pair = plan.p.is_ice →
    Asleep plan lid tr task →
    StartStage srv plan lid c tr
  | awake {task first s} :
    Awake srv plan lid c tr task first s →
    AtWork plan lid c tr task first s →
    StartStage srv plan lid c tr
  | launched {later l earlier m} :
    (∀ t, (c.pending t).countP (Section.spawns lid) = 0) →
    broadcasts srv lid tr = [m] →
    (∀ s ∈ c.pending (.start lid), ∃ q m, s = send_to q (.launch m)) →
    c.world.spawned.lookup lid = none →
    ((wakes lid tr).length - 1) * NANOS ≤ proofWindow plan.p →
    tr = later ++ l :: earlier →
    broadcastOf srv lid l = some m →
    Decided plan lid earlier m.transport →
    StartStage srv plan lid c tr

section
variable {srv : Server} {plan : MatchPlan} {lid : String} {c c' : HubSnapshot} {tr : List HubLabel}
  {l : HubLabel}

/-- A step that is apart from a start keeps its stage. -/
lemma StartStage.apart (h : StartStage srv plan lid c tr) (apart : Apart srv lid l c c') :
    StartStage srv plan lid c' (l :: tr) := by
  have woken : wakes lid (l :: tr) = wakes lid tr := List.filterMap_cons_none apart.wake
  have silent : broadcasts srv lid (l :: tr) = broadcasts srv lid tr :=
    List.filterMap_cons_none apart.broadcast
  have gate : lastGate lid (l :: tr) = lastGate lid tr := by
    rw [lastGate, List.findSome?_cons, apart.gate]
    rfl
  have none : (∀ t, (c.pending t).countP (Section.spawns lid) = 0) →
      ∀ t, (c'.pending t).countP (Section.spawns lid) = 0 :=
    fun none t => (apart.spawns t).trans (none t)
  cases h with
  | @spawning t un one others plain =>
    refine .spawning (un.apart apart) ((apart.spawns t).trans one)
      (fun t' ht => (apart.spawns t').trans (others t' ht)) ?_
    intro t task ht here
    exact plain t task (apart.kept t _ ht (decide_eq_true here)) here
  | asleep gone quiet idle sleeps pair asleep =>
    refine .asleep (none gone) (silent.trans quiet) (apart.pending.trans idle)
      (apart.spawned.trans sleeps) pair ?_
    cases asleep with
    | settle unwoken fresh => exact .settle (woken.trans unwoken) fresh
    | retry first deadline since few =>
      exact .retry (woken ▸ first) deadline (woken ▸ since) (woken ▸ few)
  | @awake task first s awake atWork =>
    have later : Awake srv plan lid c' (l :: tr) task first s :=
      { awake with
        unspawned := none awake.unspawned
        silent := silent.trans awake.silent
        works := apart.pending.trans awake.works
        up := apart.spawned.trans awake.up
        woken := woken ▸ awake.woken
        since := woken ▸ awake.since.trans apart.now
        few := woken ▸ awake.few }
    refine .awake later ?_
    cases atWork with
    | gate closed => exact .gate fun ice => (closed ice).trans apart.now
    | refused => exact .refused
    | commit decided =>
      refine .commit ?_
      unfold Decided
      rw [gate, woken]
      exact decided
  | @launched later l0 earlier m gone once sends none_asleep few split hit decided =>
    have split : l :: tr = (l :: later) ++ l0 :: earlier := by rw [split, List.cons_append]
    exact .launched (none gone) (silent.trans once) (apart.pending ▸ sends)
      (apart.spawned.trans none_asleep) (woken ▸ few) split hit decided

/-- The start task falls asleep. -/
lemma StartStage.spawn {t rest o task} (h : StartStage srv plan lid c tr)
    (e : c.pending t = form_match_spawn task :: rest) (own : task.lobby_id = lid) :
    StartStage srv plan lid ((hubMachine srv).afterRun c t (form_match_spawn task) rest o)
      (.ran t (form_match_spawn task) o c :: tr) := by
  have spawns : Section.spawns lid (form_match_spawn task) = true := decide_eq_true own
  have some : (c.pending t).countP (Section.spawns lid) ≠ 0 := by
    simp [e, spawns]
  cases h with
  | @spawning t0 un one others plain =>
    obtain rfl : t = t0 := not_not.mp fun ne => some (others t ne)
    obtain ⟨pair, fresh⟩ := plain t task (e ▸ List.mem_cons_self) own
    have other : Tid.start lid ≠ t := by
      rintro rfl
      rw [un.idle] at e
      cases e
    have sleeps :
        ((hubMachine srv).afterRun c t (form_match_spawn task) rest o).world.spawned.lookup lid =
        Option.some { task with
          wake_at := c.world.now + srv.automatch_start_delay_secs * NANOS } := by
      subst own
      exact AList.lookup_insert _
    refine .asleep ?_ un.silent ?_ sleeps pair (.settle un.unwoken fresh)
    · intro t'
      by_cases ht : t' = t
      · subst ht
        rw [e, List.countP_cons_of_pos spawns] at one
        have none : rest.countP (Section.spawns lid) = 0 := Nat.succ.inj one
        exact (congrArg _ (Function.update_self ..)).trans none
      · simp only [Machine.afterRun, Function.update_of_ne ht]
        exact others t' ht
    · exact (Function.update_of_ne other _ _).trans un.idle
  | asleep none | launched none => exact absurd (none t) some
  | awake awake => exact absurd (awake.unspawned t) some

/-- The window of the proof, in whole seconds. -/
lemma proofWindow_secs (p : Pending) : ∃ k ≤ 30, proofWindow p = k * NANOS := by
  unfold proofWindow
  split
  · exact ⟨30, le_refl _, rfl⟩
  · exact ⟨20, by decide, rfl⟩

/-- The start task wakes up. -/
lemma StartStage.wake (h : StartStage srv plan lid c tr)
    (enabled : (Event.wake lid).enabled c.world) :
    StartStage srv plan lid ((hubMachine srv).afterEvent c (.wake lid))
      (.came (.wake lid) c :: tr) := by
  have due : (c.world.spawned.lookup lid).any (·.wake_at ≤ c.world.now) := enabled
  have woken : wakes lid (.came (.wake lid) c :: tr) = c.world.now :: wakes lid tr :=
    List.filterMap_cons_some (if_pos rfl)
  cases h with
  -- Only a task that sleeps can wake.
  | spawning un =>
    rw [un.asleep] at due
    cases due
  | awake awake =>
    rw [awake.up] at due
    cases due
  | launched _ _ _ none =>
    rw [none] at due
    cases due
  | @asleep task none silent idle sleeps pair asleep =>
    rw [sleeps] at due
    have due : task.wake_at ≤ c.world.now := of_decide_eq_true due
    let task' := Event.awake c.world.now task
    let s := start_prepare (.server task') lid Option.none false
    have window : ∃ first, (wakes lid (.came (.wake lid) c :: tr)).getLast? = some first ∧
        task'.deadline = some (first + proofWindow plan.p) ∧
        first + (wakes lid tr).length * NANOS ≤ c.world.now ∧
        (wakes lid tr).length * NANOS ≤ proofWindow plan.p := by
      cases asleep with
      -- The first time it wakes, the proof window opens.
      | settle unwoken fresh =>
        refine ⟨c.world.now, ?_, ?_, ?_, ?_⟩
        · rw [woken, unwoken]
          rfl
        · simp only [task', Event.awake, fresh, pair, proofWindow, Option.getD_none]
        · simp [unwoken]
        · simp [unwoken]
      -- Later the window is that of the first time.
      | @retry first last deadline since few =>
        refine ⟨first, ?_, ?_, since.trans due, few⟩
        · rw [woken, List.getLast?_cons, last]
          rfl
        · simp only [task', Event.awake, deadline, Option.getD_some]
    have works : ((hubMachine srv).afterEvent c (.wake lid)).pending (.start lid) = [s] := by
      simp only [Machine.afterEvent, hubMachine, Event.task, Function.update_self, Event.body,
        sleeps]
      rfl
    obtain ⟨first, last, deadline, since, few⟩ := window
    have begun : Awake srv plan lid ((hubMachine srv).afterEvent c (.wake lid))
        (.came (.wake lid) c :: tr) task' first s := by
      refine ⟨?_, silent, works, AList.lookup_erase _ _, pair, last, deadline, ?_, ?_⟩
      · intro t
        by_cases ht : t = .start lid
        · rw [ht, works]
          rfl
        · simp only [Machine.afterEvent, hubMachine, Event.task, Function.update_of_ne ht]
          exact none t
      · rw [woken]
        exact since
      · rw [woken]
        exact few
    exact .awake begun (.gate fun ice => absurd ice (by decide))

/-- The gate of a match room lets the match begin, or refuses it for now when ICE is not allowed. -/
lemma MatchRoom.prepares {g : HubInner} {room} (h : MatchRoom srv g plan lid room)
    (hl : c.world.hub.lobbies.lookup lid = some room) (task : StartTask) (allow_ice : Bool)
    (o : Answer) :
    (∃ sid sp, (exec srv (start_prepare (.server task) lid none allow_ice) o c.world).2 =
      [start_commit (.server task) lid none sid sp
        (if room.Proven c.world.now then .Host else .Ice) allow_ice] ∧
      (¬ room.Proven c.world.now → allow_ice)) ∨
    (exec srv (start_prepare (.server task) lid none allow_ice) o c.world).2 =
      [start_failed (.server task) lid false .relay_unavailable] := by
  obtain ⟨two, gate⟩ := h.gate c.world.now allow_ice
  simp only [exec, World.lift, start_prepare_step, hl, two, Nat.lt_irrefl, if_false,
    Option.none_or, gate]
  by_cases proven : room.Proven c.world.now
  · left
    simp only [proven, if_true]
    exact ⟨_, _, rfl, fun no => absurd trivial no⟩
  · cases allow_ice with
    | true =>
      left
      simp only [proven, if_true, if_false]
      exact ⟨_, _, rfl, fun _ => trivial⟩
    | false =>
      right
      simp only [proven, Bool.false_eq_true, if_false]

/-- A section that forms no room leaves no start task to spawn. -/
lemma unspawned_run {t s rest o} (gone : ∀ t, (c.pending t).countP (Section.spawns lid) = 0)
    (e : c.pending t = s :: rest) (other : s.kind ≠ .form_match_room) (t' : Tid) :
    (((hubMachine srv).afterRun c t s rest o).pending t').countP (Section.spawns lid) = 0 := by
  by_cases ht : t' = t
  · subst ht
    have old := gone t'
    rw [e, List.countP_cons] at old
    simp only [Machine.afterRun, Function.update_self, List.countP_append]
    have none : ((hubMachine srv).exec s o c.world).2.countP (Section.spawns lid) = 0 := by
      refine List.countP_eq_zero.mpr fun s' hs' h => ?_
      obtain ⟨plan, made, -⟩ := exec_spawns hs' h
      exact other (made ▸ rfl)
    omega
  · simp only [Machine.afterRun, Function.update_of_ne ht]
    exact gone t'

/-- Only a commit broadcasts a launch. -/
lemma broadcast_none {t s o} (r : HubRun srv c tr) (other : s.kind ≠ .start_commit) :
    broadcastOf srv lid (.ran t s o c) = none := by
  cases hb : broadcastOf srv lid (.ran t s o c) with
  | none => rfl
  | some m =>
    obtain ⟨st, caps, sid, sp, transport, ice, l, e, -⟩ := broadcast_commits (HubRun.basic r) hb
    exact absurd (congrArg Section.kind e) other

/-- A section of the start task that starts one other, and neither puts the task to sleep nor
commits. -/
lemma Awake.next {task first s s' o} (h : Awake srv plan lid c tr task first s)
    (r : HubRun srv c tr) (spawn : s.kind ≠ .form_match_room) (commit : s.kind ≠ .start_commit)
    (starts : (exec srv s o c.world).2 = [s'])
    (up : (exec srv s o c.world).1.spawned = c.world.spawned) :
    Awake srv plan lid ((hubMachine srv).afterRun c (.start lid) s [] o)
      (.ran (.start lid) s o c :: tr) task first s' :=
  { h with
    unspawned := unspawned_run h.unspawned h.works spawn
    silent := (List.filterMap_cons_none (broadcast_none r commit)).trans h.silent
    works := by
      simp only [Machine.afterRun, Function.update_self, List.append_nil]
      exact starts
    up := (congrArg (·.lookup lid) up).trans h.up
    since := h.since.trans exec_now.ge }

/-- A task that woke up every second of a window that is still open may wake up once more. -/
lemma seconds_within {first now n k : Nat} (many : n ≠ 0) (since : first + (n - 1) * NANOS ≤ now)
    (open_window : now < first + k * NANOS) :
    first + n * NANOS ≤ now + NANOS ∧ n * NANOS ≤ k * NANOS := by
  have again : n * NANOS = (n - 1) * NANOS + NANOS := by
    rw [← Nat.succ_mul]
    congr 1
    omega
  have within : n - 1 < k := by
    have lt : (n - 1) * NANOS < k * NANOS := by omega
    exact lt_of_mul_lt_mul_right lt (Nat.zero_le _)
  exact ⟨by omega, Nat.mul_le_mul_right _ (by omega)⟩

/-- A start task that was refused while the window of the proof is open sleeps for a second. -/
lemma Awake.retry {task first o} (h : Awake srv plan lid c tr task first
      (start_failed (.server task) lid false .relay_unavailable)) (r : HubRun srv c tr)
    (open_window : c.world.now < first + proofWindow plan.p) :
    StartStage srv plan lid ((hubMachine srv).afterRun c (.start lid)
        (start_failed (.server task) lid false .relay_unavailable) [] o)
      (.ran (.start lid) (start_failed (.server task) lid false .relay_unavailable) o c :: tr) ∧
    (exec srv (start_failed (.server task) lid false .relay_unavailable) o c.world).2 = [] := by
  have starts : exec srv (start_failed (.server task) lid false .relay_unavailable) o c.world =
      ({ c.world with
        spawned := c.world.spawned.insert lid { task with wake_at := c.world.now + NANOS } }, []) := by
    simp [exec, start_failed_step, h.deadline, open_window]
  refine ⟨?_, congrArg Prod.snd starts⟩
  have idle : ((hubMachine srv).afterRun c (.start lid)
      (start_failed (.server task) lid false .relay_unavailable) [] o).pending (.start lid) = [] := by
    simp only [Machine.afterRun, Function.update_self, List.append_nil]
    exact congrArg Prod.snd starts
  have sleeps : ((hubMachine srv).afterRun c (.start lid)
      (start_failed (.server task) lid false .relay_unavailable) [] o).world.spawned.lookup lid =
      some { task with wake_at := c.world.now + NANOS } := by
    refine (congrArg (fun x => x.1.spawned.lookup lid) starts).trans ?_
    exact AList.lookup_insert _
  have many : (wakes lid tr).length ≠ 0 := by
    intro none
    have woken := h.woken
    rw [List.length_eq_zero_iff.mp none] at woken
    cases woken
  obtain ⟨k, -, secs⟩ := proofWindow_secs plan.p
  rw [secs] at open_window
  obtain ⟨later, few⟩ := seconds_within many h.since open_window
  rw [← secs] at few
  refine .asleep (unspawned_run h.unspawned h.works (by simp))
    ((List.filterMap_cons_none (broadcast_none r (by simp))).trans h.silent) idle sleeps h.pair ?_
  exact .retry h.woken h.deadline later few

/-- The commit of a start broadcasts the launch of the room, which stands. -/
lemma MatchRoom.commits {g : HubInner} {room} (h : MatchRoom srv g plan lid room)
    (r : HubRun srv c tr) (hl : c.world.hub.lobbies.lookup lid = some room) (st : Starter)
    (caps : Option Value) (sid : Nat) (sp : Bool) (transport : StartTransport) (ice : Bool)
    (t : Tid) (o : Answer) :
    ∃ m : Launch, m.transport = transport ∧
      broadcastOf srv lid (.ran t (start_commit st lid caps sid sp transport ice) o c) = some m ∧
      (exec srv (start_commit st lid caps sid sp transport ice) o c.world).2 =
        room.member_ids.map fun q => send_to q (.launch m) := by
  let m := launchOf c.world.now c.world.hub (room.launch caps sid) sp transport
  have members : (room.launch caps sid).member_ids = room.member_ids :=
    Lobby.mapPlayers_members room _ fun _ => rfl
  have starts : (exec srv (start_commit st lid caps sid sp transport ice) o c.world).2 =
      room.member_ids.map fun q => send_to q (.launch m) := by
    simp only [exec, World.lift, start_commit_step, hl, members, m]
  have key : m.lobby_id = lid := (HubRun.basic r).lobby_key lid room hl
  refine ⟨m, rfl, ?_, starts⟩
  have pair := h.same.members
  rw [matchLobby_members] at pair
  obtain ⟨q, qs, hq⟩ := List.exists_cons_of_length_pos (l := room.member_ids) (by
    rw [pair.length_eq]
    exact Nat.zero_lt_two)
  simp only [broadcastOf, starts, hq, List.map_cons, List.findSome?_cons, key, if_true]

/-- The start task runs a section that it has to run. -/
lemma Awake.work {g : HubInner} {task first s o} (h : Awake srv plan lid c tr task first s)
    (r : HubRun srv c tr) (held : MatchHeld srv g plan lid c)
    (atWork : AtWork plan lid c tr task first s) :
    StartStage srv plan lid ((hubMachine srv).afterRun c (.start lid) s [] o)
      (.ran (.start lid) s o c :: tr) ∧ destroy_lobby lid ∉ (exec srv s o c.world).2 := by
  obtain ⟨room, hl, match_room⟩ := held.room
  cases atWork with
  | @gate allow_ice closed =>
    have up := @exec_spawned srv (start_prepare (.server task) lid none allow_ice) o c.world
      (by simp) (by simp)
    rcases match_room.prepares hl task allow_ice o with ⟨sid, sp, starts, proven⟩ | starts
    · constructor
      · refine .awake (h.next r (by simp) (by simp) starts up) (.commit ?_)
        refine ⟨c, allow_ice, room, by simp [lastGate, gateOf], hl, rfl, fun ice => ?_⟩
        refine ⟨first, h.woken, closed (proven fun yes => ?_)⟩
        rw [if_pos yes] at ice
        cases ice
      · rw [starts]
        simp
    · constructor
      · exact .awake (h.next r (by simp) (by simp) starts up) .refused
      · rw [starts]
        simp
  | refused =>
    by_cases open_window : c.world.now < first + proofWindow plan.p
    · -- The window is open: the task sleeps for another second.
      obtain ⟨stage, starts⟩ := h.retry (o := o) r open_window
      constructor
      · exact stage
      · rw [starts]
        exact List.not_mem_nil
    · -- The window is over: the gate is tried once more, with ICE.
      have starts : exec srv (start_failed (.server task) lid false .relay_unavailable) o c.world =
          (c.world, [start_prepare (.server task) lid none true]) := by
        simp [exec, start_failed_step, h.deadline, open_window]
      have next := h.next (o := o) r (by simp) (by simp) (congrArg Prod.snd starts)
        (congrArg (fun x => x.1.spawned) starts)
      constructor
      · refine .awake next (.gate fun _ => ?_)
        exact (not_lt.mp open_window).trans exec_now.ge
      · rw [starts]
        simp
  | @commit sid sp transport allow_ice decided =>
    obtain ⟨m, hm, hit, starts⟩ := match_room.commits r hl (.server task) none sid sp
      transport allow_ice (.start lid) o
    have up := @exec_spawned srv (start_commit (.server task) lid none sid sp transport allow_ice)
      o c.world (by simp) (by simp)
    constructor
    · refine .launched (unspawned_run h.unspawned h.works (by simp)) ?_ ?_
        ((congrArg (·.lookup lid) up).trans h.up) h.few (List.nil_append _).symm hit
        (hm ▸ decided)
      · rw [broadcasts, List.filterMap_cons_some hit]
        exact congrArg (m :: ·) h.silent
      · intro s hs
        simp only [Machine.afterRun, Function.update_self, List.append_nil] at hs
        obtain ⟨q, -, rfl⟩ := List.mem_map.mp (starts ▸ hs : s ∈ _)
        exact ⟨q, m, rfl⟩
    · rw [starts]
      simp

end

end RecompNet
