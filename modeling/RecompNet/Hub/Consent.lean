import RecompNet.Hub.JoinGate

/-!
# Seat exchanges

Two members of a room trade seats when one asks and the other accepts. The room keeps no note of what
was asked: an answer that accepts exchanges the two seats whoever asked. `exchanges_asked_iff` says what
the players have to keep to for every exchange to be one that was asked for.
-/

namespace RecompNet

open Section Interleave

/-- Who sits at an index of a room. -/
def Lobby.sitter (l : Lobby) (i : Nat) : Option (Option String) :=
  (l.seat i).map (Option.map (·.player_id))

/-- A member of the room asks another one for its seat. -/
def asksFor (lid p q : String) : HubLabel → Bool
  | .ran _ (dispatch q' _ msg) _ pre =>
    q' = q && msg.op = .seat_swap_request && pre.world.hub.lobby_id_of q = some lid &&
      ((pre.world.hub.lobbies.lookup lid).bind fun l =>
        (msg.target_slot.or msg.to_slot).bind l.sitter).any (· = some p)
  | _ => false

/-- A player answers another one that would have asked for its seat. -/
def answersAsker (p q : String) : HubLabel → Bool
  | .ran _ (dispatch p' _ msg) _ _ =>
    p' = p && msg.op = .seat_swap_answer && msg.asker_player_id = some q
  | _ => false

/-- Is there, the latest step first, a request of `q` for the seat of `p` that `p` has not answered? -/
def outstanding (lid p q : String) : List HubLabel → Bool
  | [] => false
  | l :: earlier =>
    asksFor lid p q l || (!answersAsker p q l && outstanding lid p q earlier)

/-- An answer of `p` that names `q` changes who sits where in a room. -/
inductive Exchanges (srv : Server) (p q lid : String) : HubLabel → Prop where
  | intro {t ip msg o l l' i} {pre : HubSnapshot} :
    msg.op = .seat_swap_answer →
    msg.asker_player_id = some q →
    pre.world.hub.lobbies.lookup lid = some l →
    (exec srv (dispatch p ip msg) o pre.world).1.hub.lobbies.lookup lid = some l' →
    l'.sitter i ≠ l.sitter i →
    Exchanges srv p q lid (.ran t (dispatch p ip msg) o pre)

/-- An answer of `p` accepts, and names `q`, who sits elsewhere in the room of `p`. -/
inductive Accepts (p q lid : String) : HubLabel → Prop where
  | intro {t ip msg o l i j} {pre : HubSnapshot} :
    msg.op = .seat_swap_answer →
    msg.accept = some true →
    msg.asker_player_id = some q →
    q ≠ "" →
    pre.world.hub.lobby_id_of p = some lid →
    pre.world.hub.lobbies.lookup lid = some l →
    l.seat_of p = some i →
    l.seat_of q = some j →
    i ≠ j →
    Accepts p q lid (.ran t (dispatch p ip msg) o pre)

/-! ## What an exchange does -/

namespace Lobby

lemma sitter_unready (l : Lobby) (k : Nat) : l.unready.sitter k = l.sitter k :=
  owner_mapPlayers l (f := ({ · with ready := false })) (fun _ => rfl) k

lemma sitter_clear_paths (l : Lobby) (k : Nat) : (clear_lobby_ice_paths l).sitter k = l.sitter k := by
  unfold sitter clear_lobby_ice_paths
  rw [seat_mapSeats, Option.map_map]
  congr 1
  funext c
  cases c <;> rfl

/-- Exchanging two seats exchanges who sits there, and nobody else moves. -/
lemma sitter_swapSeats {l : Lobby} {i j x y} (hi : l.seat i = some x) (hj : l.seat j = some y)
    (hne : i ≠ j) (k : Nat) : (l.swapSeats i j).sitter k =
      if k = i then l.sitter j else if k = j then l.sitter i else l.sitter k := by
  have hj1 : (l.setSeat i none).seat j = some y := (seat_setSeat_ne hne _).trans hj
  have hj2 := seat_setSeat_self hj1 none
  have hi1 := seat_setSeat_self hi none
  have hi2 := (seat_setSeat_ne hne.symm none).trans hi1
  have hi3 := (seat_setSeat_ne hne.symm x).trans hi2
  unfold sitter
  rw [swapSeats_eq hi hj hne]
  by_cases ki : k = i
  · subst ki
    rw [if_pos rfl, seat_setSeat_self hi3, hj]
  · rw [if_neg ki, seat_setSeat_ne (Ne.symm ki)]
    by_cases kj : k = j
    · subst kj
      rw [if_pos rfl, seat_setSeat_self hj2, hi]
    · rw [if_neg kj, seat_setSeat_ne (Ne.symm kj), seat_setSeat_ne (Ne.symm kj),
        seat_setSeat_ne (Ne.symm ki)]

lemma sitter_trade {l : Lobby} {i j x y} (hi : l.seat i = some x) (hj : l.seat j = some y)
    (hne : i ≠ j) (k : Nat) : (l.trade i j).sitter k =
      if k = i then l.sitter j else if k = j then l.sitter i else l.sitter k := by
  rw [← sitter_swapSeats hi hj hne]
  unfold trade
  dsimp only
  split
  · rw [sitter_clear_paths, sitter_unready]
  · exact sitter_unready _ k

/-- Whoever has a seat sits there. -/
lemma sitter_seat_of {l : Lobby} {p i} (small : l.slots.length ≤ SPECTATOR_SLOT_BASE)
    (h : l.seat_of p = some i) : l.sitter i = some (some p) := by
  obtain ⟨s, hs, rfl⟩ := seat_of_eq_some small h
  unfold sitter
  rw [hs]
  rfl

end Lobby

/-- An answer that accepts exchanges the two seats. -/
lemma answer_accepted {g : HubInner} {p q lid l i j} {msg : InMsg} (accept : msg.accept = some true)
    (asker : msg.asker_player_id = some q) (named : q ≠ "") (noted : g.lobby_id_of p = some lid)
    (hl : g.lobbies.lookup lid = some l) (hi : l.seat_of p = some i) (hj : l.seat_of q = some j)
    (hne : i ≠ j) :
    (handle_seat_swap_answer g p msg).1.lobbies.lookup lid = some (l.trade i j) := by
  have on : ¬ ((!true) = true ∨ i = j) := by simp [hne]
  simp only [handle_seat_swap_answer, accept, asker, Option.getD_some, if_neg named, noted, hl, hi,
    hj, if_neg on]
  exact (Assoc.Map.lookup_modify_self ..).trans (congrArg _ hl)

/-- Any other answer leaves the rooms alone. -/
lemma answer_cases (g : HubInner) (p : String) (msg : InMsg) :
    (handle_seat_swap_answer g p msg).1 = g ∨
    ∃ q lid l i j, msg.accept = some true ∧ msg.asker_player_id = some q ∧ q ≠ "" ∧
      g.lobby_id_of p = some lid ∧ g.lobbies.lookup lid = some l ∧ l.seat_of p = some i ∧
      l.seat_of q = some j ∧ i ≠ j ∧
      (handle_seat_swap_answer g p msg).1 = g.setLobby lid (·.trade i j) := by
  unfold handle_seat_swap_answer
  dsimp only
  repeat' split
  all_goals first
    | exact .inl rfl
    | skip
  rename_i named _ lid noted _ l hl _ _ i j hi hj on
  right
  obtain ⟨accept, hne⟩ := not_or.mp on
  obtain ⟨q, asker⟩ : ∃ q, msg.asker_player_id = some q := by
    cases h : msg.asker_player_id with
    | none => exact absurd (by rw [h]; rfl) named
    | some q => exact ⟨q, rfl⟩
  rw [asker] at named hj
  have accepted : msg.accept = some true := by
    cases h : msg.accept with
    | none => simp [h] at accept
    | some b => simpa [h] using accept
  exact ⟨q, lid, l, i, j, accepted, asker, named, noted, hl, hi, hj, hne, rfl⟩

/-- An answer exchanges seats exactly if it accepts and names somebody else in the room. -/
lemma exchanges_iff_accepts {srv p q lid} {l : HubLabel} (sized : l.pre.world.hub.Sized) :
    Exchanges srv p q lid l ↔ Accepts p q lid l := by
  constructor
  · intro h
    cases h with
    | @intro t ip msg o l l' i pre op asker hl hl' moved =>
      simp only [exec, World.lift, dispatch_step, op, World.setHub] at hl'
      rcases answer_cases pre.world.hub p msg with
        same | ⟨q', lid', l0, i', j, accept, asker', named, noted, hl0, hi, hj, hne, e⟩
      · rw [same] at hl'
        exact absurd (congrArg (·.sitter i) (Option.some.inj (hl'.symm.trans hl))) moved
      · obtain rfl := Option.some.inj (asker.symm.trans asker')
        rw [e] at hl'
        obtain ⟨l1, hl1, ⟨-, rfl⟩ | ⟨rfl, -⟩⟩ := lookup_setLobby_back hl'
        · obtain rfl := Option.some.inj (hl.symm.trans hl1)
          exact absurd rfl moved
        · exact .intro op accept asker named noted hl0 hi hj hne
  · intro h
    cases h with
    | @intro t ip msg o l i j pre op accept asker named noted hl hi hj hne =>
      have small := (show pre.world.hub.Sized from sized) lid l hl
      obtain ⟨x, hx, -⟩ := Lobby.seat_of_eq_some small hi
      obtain ⟨y, hy, -⟩ := Lobby.seat_of_eq_some small hj
      have traded := answer_accepted accept asker named noted hl hi hj hne
      refine @Exchanges.intro _ _ _ _ _ _ _ _ _ (l.trade i j) i _ op asker hl ?_ ?_
      · simpa only [exec, World.lift, World.setHub, dispatch_step, op] using traded
      · rw [Lobby.sitter_trade hx hy hne, if_pos rfl, Lobby.sitter_seat_of small hi,
          Lobby.sitter_seat_of small hj]
        intro same
        simp only [Option.some.injEq] at same
        subst same
        exact hne (Option.some.inj (hi.symm.trans hj))

/-- The steps of a run that exchange seats are the answers that accept, and the exchanges were all asked
for exactly in the runs whose players accept nothing but what they were asked. -/
theorem exchanges_asked_iff {srv c tr} (r : HubRun srv c tr) :
    (∀ l ∈ tr, ∀ p q lid, Exchanges srv p q lid l ↔ Accepts p q lid l) ∧
    ((∀ later l earlier, tr = later ++ l :: earlier → ∀ p q lid, Exchanges srv p q lid l →
        outstanding lid p q earlier) ↔
      ∀ later l earlier, tr = later ++ l :: earlier → ∀ p q lid, Accepts p q lid l →
        outstanding lid p q earlier) := by
  have same : ∀ later l earlier, tr = later ++ l :: earlier → ∀ p q lid,
      Exchanges srv p q lid l ↔ Accepts p q lid l := by
    intro later l earlier e p q lid
    exact exchanges_iff_accepts (HubRun.basic (r.pre_reached _ _ _ e).1).sized
  constructor
  · intro l hl
    obtain ⟨later, earlier, e⟩ := List.append_of_mem hl
    exact same later l earlier e
  · constructor
    · exact fun asked later l earlier e p q lid h =>
        asked later l earlier e p q lid ((same later l earlier e p q lid).mpr h)
    · exact fun asked later l earlier e p q lid h =>
        asked later l earlier e p q lid ((same later l earlier e p q lid).mp h)

/-! ## With and without being asked -/

/-- Does the last step accept, and was it asked for? -/
def lastAccepts (lid p q : String) (asked : Bool) : List HubLabel → Bool
  | .ran _ (dispatch p' _ msg) _ pre :: earlier =>
    p' = p && msg.op = .seat_swap_answer && msg.accept = some true &&
      msg.asker_player_id = some q && q ≠ "" && pre.world.hub.lobby_id_of p = some lid &&
      ((pre.world.hub.lobbies.lookup lid).any fun l =>
        (l.seat_of p).any fun i => (l.seat_of q).any fun j => i ≠ j) &&
      outstanding lid p q earlier = asked
  | _ => false

lemma lastAccepts_sound {lid p q asked tr} (h : lastAccepts lid p q asked tr) :
    ∃ l earlier, tr = l :: earlier ∧ Accepts p q lid l ∧ outstanding lid p q earlier = asked := by
  cases tr with
  | nil => cases h
  | cons l earlier =>
    cases l with
    | came => cases h
    | ran t s o pre =>
      cases s with
      | dispatch p' ip msg =>
        simp only [lastAccepts, Bool.and_eq_true, decide_eq_true_eq, Option.any_eq_true] at h
        obtain ⟨⟨⟨⟨⟨⟨⟨rfl, op⟩, accept⟩, asker⟩, named⟩, noted⟩, l, hl, i, hi, j, hj, hne⟩, ask⟩ := h
        exact ⟨_, earlier, rfl, .intro op accept asker named noted hl hi hj hne, ask⟩
      | _ => cases h

/-- The guest of a room answers the host, who asked it for its seat, or did not. -/
def answersHost (p q room : String) (asks : Bool) : List Move :=
  let o := draw "9b1deb4d-3b7d-4bad-9bdd-2b0d7b3dcb6d"
  roomOfTwo p q room o ++
    (if asks then [say p { op := .seat_swap_request, target_slot := some 1 }] ++ steps (.conn p) 3 o
      else []) ++
    [say q { op := .seat_swap_answer, accept := some true, asker_player_id := some p }] ++
    steps (.conn q) 2 o

/-- The host asks, and the guest accepts. -/
theorem exchanges_asked_iff_request : ∃ c tr, HubRun sampleServer c tr ∧
    (∃ l earlier p q lid, tr = l :: earlier ∧ Exchanges sampleServer p q lid l ∧
      outstanding lid p q earlier) ∧
    ((∀ later l earlier, tr = later ++ l :: earlier → ∀ p q lid, Exchanges sampleServer p q lid l →
        outstanding lid p q earlier) ↔
      ∀ later l earlier, tr = later ++ l :: earlier → ∀ p q lid, Accepts p q lid l →
        outstanding lid p q earlier) := by
  let p := "6b0f1e52-3c1d-4a86-9a53-0d5f6f1c2a11"
  let q := "c4d1c1a0-5f0e-4a53-8d43-9f4b1f7f3b22"
  let room := "1f8a9f0e-7d2b-4b57-8f6f-2f6f2b0c9d01"
  have h : ((hubMachine sampleServer).follow (answersHost p q room true)).any fun x =>
      lastAccepts room q p true x.2 := by decide +kernel
  obtain ⟨c, tr, r, ht, -⟩ := Machine.follow_reaches h
  obtain ⟨l, earlier, rfl, accepts, asked⟩ := lastAccepts_sound ht
  obtain ⟨same, iff⟩ := exchanges_asked_iff r
  exact ⟨c, _, r, ⟨l, earlier, q, p, room, rfl, (same l List.mem_cons_self q p room).mpr accepts,
    asked⟩, iff⟩

/-- The guest accepts what nobody asked for, and sits in the seat of the host. -/
theorem exchange_unasked : ¬ ∀ c tr, HubRun sampleServer c tr → ∀ later l earlier,
    tr = later ++ l :: earlier → ∀ p q lid, Exchanges sampleServer p q lid l →
      outstanding lid p q earlier := by
  intro all
  let p := "6b0f1e52-3c1d-4a86-9a53-0d5f6f1c2a11"
  let q := "c4d1c1a0-5f0e-4a53-8d43-9f4b1f7f3b22"
  let room := "1f8a9f0e-7d2b-4b57-8f6f-2f6f2b0c9d01"
  have h : ((hubMachine sampleServer).follow (answersHost p q room false)).any fun x =>
      lastAccepts room q p false x.2 := by decide +kernel
  obtain ⟨c, tr, r, ht, -⟩ := Machine.follow_reaches h
  obtain ⟨l, earlier, rfl, accepts, unasked⟩ := lastAccepts_sound ht
  obtain ⟨rpre, -⟩ := r.pre_reached l [] earlier rfl
  have exchanges : Exchanges sampleServer q p room l :=
    (exchanges_iff_accepts (HubRun.basic rpre).sized).mpr accepts
  exact absurd (all c _ r [] l earlier rfl q p room exchanges) (unasked ▸ Bool.false_ne_true)

end RecompNet
