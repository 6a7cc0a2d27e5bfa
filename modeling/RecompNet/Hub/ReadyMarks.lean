import RecompNet.Hub.SeatOps
import RecompNet.Hub.Consent

/-!
# Ready marks

A change of who sits where is meant to take every ready mark back, so that the players confirm anew.
`client_leave` takes none back, and the others un-ready the player table alone, whereas a player who is
sent to the gallery takes its mark along. `ready_cleared_iff` says which marks outlive the change.
-/

namespace RecompNet

open Section Interleave

namespace Lobby

variable {l l' : Lobby} {i j k : Nat} {x y : Option Slot}

/-- Is the occupant of a seat marked ready? -/
def readyAt (l : Lobby) (k : Nat) : Bool := ((l.seat k).join).any (·.ready)

/-- Nobody in either table is marked ready. -/
def NoneReady (l : Lobby) : Prop := ∀ s ∈ l.everyone, s.ready = false

/-- The seats of a room whose ready marks a section leaves on their occupants when it changes who sits
where. -/
def Spares (l : Lobby) : Section → Nat → Prop
  | client_leave p, k => l.sitter k ≠ some (some p)
  | join_seat .., k => is_spectator_seat k
  | dispatch p _ msg, k =>
    match msg.op with
    | .kick => is_spectator_seat k ∧ msg.slot ≠ some k
    | .move | .seat_move | .seat_swap_answer =>
      ∃ i j, l.Asked p msg i j ∧ is_spectator_seat (Equiv.swap i j k)
    | _ => False
  | _, _ => False

/-! ## Reading the marks -/

/-- Every occupant has a seat in the index namespace. -/
lemma seat_of_mem_everyone (small : l.slots.length ≤ SPECTATOR_SLOT_BASE) {s : Slot}
    (h : s ∈ l.everyone) : ∃ k, l.seat k = some (some s) := by
  rw [everyone_eq_cells] at h
  obtain ⟨c, hc, rfl⟩ := List.mem_filterMap.mp h
  rcases List.mem_append.mp hc with hc | hc
  · obtain ⟨k, hk⟩ := List.getElem?_of_mem hc
    have lt := (List.getElem?_eq_some_iff.mp hk).1
    exact ⟨k, (seat_player (by omega)).trans hk⟩
  · obtain ⟨k, hk⟩ := List.getElem?_of_mem hc
    exact ⟨spectator_seat k, (seat_spectator l k).trans hk⟩

lemma NoneReady.readyAt (h : l.NoneReady) (k : Nat) : l.readyAt k = false := by
  unfold Lobby.readyAt
  cases hk : l.seat k with
  | none => rfl
  | some c =>
    cases c with
    | none => rfl
    | some s =>
      refine h s ?_
      rw [everyone_eq_cells]
      exact List.mem_filterMap.mpr ⟨some s, List.mem_of_getElem? (cells_place hk), rfl⟩

lemma noneReady_iff (small : l.slots.length ≤ SPECTATOR_SLOT_BASE) :
    l.NoneReady ↔ ∀ k, l.readyAt k = false := by
  constructor
  · exact NoneReady.readyAt
  · intro h s hs
    obtain ⟨k, hk⟩ := seat_of_mem_everyone small hs
    have := h k
    rwa [readyAt, hk] at this

lemma readyAt_unready : l.unready.readyAt k = (is_spectator_seat k && l.readyAt k) := by
  unfold readyAt unready mapPlayers seat
  split
  · rename_i h
    rw [h, Bool.true_and]
  · rename_i h
    rw [Bool.eq_false_of_not_eq_true h, Bool.false_and]
    cases hk : l.slots[k]? with
    | none => simp [hk]
    | some c => cases c <;> simp [hk]

lemma readyAt_clear_paths : (clear_lobby_ice_paths l).readyAt k = l.readyAt k := by
  unfold readyAt clear_lobby_ice_paths
  rw [seat_mapSeats]
  cases l.seat k with
  | none => rfl
  | some c => cases c <;> rfl

lemma readyAt_swapSeats (hi : l.seat i = some x) (hj : l.seat j = some y) (hne : i ≠ j) :
    (l.swapSeats i j).readyAt k = l.readyAt (Equiv.swap i j k) := by
  rw [readyAt, seat_swapSeats hi hj hne]
  rfl

lemma readyAt_setSeat (hi : l.seat i = some x) :
    (l.setSeat i y).readyAt k = if k = i then y.any (·.ready) else l.readyAt k := by
  unfold readyAt
  split
  · rename_i h
    rw [h, seat_setSeat_self hi]
    rfl
  · rename_i h
    rw [seat_setSeat_ne (Ne.symm h)]

/-- The occupants of a room that is told from the owners of its seats. -/
lemma sitter_congr (players : l'.slots.map (Option.map (·.player_id)) =
      l.slots.map (Option.map (·.player_id)))
    (gallery : l'.spectators.map (Option.map (·.player_id)) =
      l.spectators.map (Option.map (·.player_id))) : l'.sitter k = l.sitter k := by
  unfold sitter seat
  split
  · rw [← List.getElem?_map, ← List.getElem?_map, gallery]
  · rw [← List.getElem?_map, ← List.getElem?_map, players]

/-- Rewriting a member's seat, when it keeps the owner, moves nobody. -/
lemma sitter_setMember {p : String} {f : Slot → Slot} (h : ∀ s, (f s).player_id = s.player_id) :
    (l.setMember p f).sitter k = l.sitter k := by
  have kept : ∀ (c : Option Slot → Bool) (xs : List (Option Slot)),
      (updateFirst c (Option.map f) xs).map (Option.map (·.player_id)) =
        xs.map (Option.map (·.player_id)) := fun c xs =>
    map_updateFirst c _ _ (fun s => by cases s <;> simp [h]) xs
  unfold setMember
  split
  · exact sitter_congr (kept _ _) rfl
  · exact sitter_congr rfl (kept _ _)

lemma sitter_reportPath {p : String} {kind : IcePath} {now : Instant} :
    (l.reportPath p kind now).sitter k = l.sitter k := by
  refine sitter_congr ?_ rfl
  simp only [reportPath, setPlayer]
  rw [map_updateFirst]
  rintro (_ | s) <;> rfl

/-! ## What each operation leaves -/

lemma readyAt_sit {s : Slot} {ep : String} (free : l.seat i = some none) (fresh : s.ready = false) :
    (l.sit i s ep).readyAt k = (is_spectator_seat k && l.readyAt k) := by
  have fields : (l.sit i s ep).readyAt k =
      (clear_lobby_ice_paths (l.setSeat i (some s)).unready).readyAt k := rfl
  rw [fields, readyAt_clear_paths, readyAt_unready, readyAt_setSeat free]
  split
  · rename_i h
    rw [h, readyAt, free, Option.any_some, fresh]
    rfl
  · rfl

lemma readyAt_kick {s : Slot} (held : l.seat i = some (some s)) :
    (l.kick i).readyAt k = (is_spectator_seat k && (k ≠ i && l.readyAt k)) := by
  have fields : (l.kick i).readyAt k =
      (clear_lobby_ice_paths (l.setSeat i none).unready).readyAt k := rfl
  rw [fields, readyAt_clear_paths, readyAt_unready, readyAt_setSeat held]
  split <;> simp_all

lemma readyAt_rearrange (hi : l.seat i = some x) (hj : l.seat j = some y) (hne : i ≠ j) :
    (l.rearrange i j).readyAt k = (is_spectator_seat k && l.readyAt (Equiv.swap i j k)) := by
  rw [rearrange, readyAt_clear_paths, readyAt_unready, readyAt_swapSeats hi hj hne]

lemma readyAt_trade (hi : l.seat i = some x) (hj : l.seat j = some y) (hne : i ≠ j) :
    (l.trade i j).readyAt k = (is_spectator_seat k && l.readyAt (Equiv.swap i j k)) := by
  unfold trade
  dsimp only
  split
  · exact readyAt_rearrange hi hj hne
  · rw [readyAt_unready, readyAt_swapSeats hi hj hne]

lemma seat_vacate {p : String} : (l.vacate p).seat k =
    (l.seat k).map fun c => (if holds p c then none else c).map Slot.clearPath := by
  unfold vacate clear_lobby_ice_paths
  rw [seat_mapSeats]
  unfold seat
  split <;> simp [Function.comp_def]

lemma readyAt_vacate {p : String} :
    (l.vacate p).readyAt k = (l.sitter k ≠ some (some p) && l.readyAt k) := by
  unfold readyAt sitter
  rw [seat_vacate]
  cases l.seat k with
  | none => rfl
  | some c =>
    cases c with
    | none => rfl
    | some s => by_cases mine : s.player_id = p <;> simp [holds, mine, Slot.clearPath]

/-- A message names two seats at most. -/
lemma Asked.unique {p : String} {msg : InMsg} {i' j' : Nat} (h : l.Asked p msg i j)
    (h' : l.Asked p msg i' j') : i = i' ∧ j = j' := by
  unfold Asked at h h'
  have same : ∀ {a b : Option Nat} {m n m' n' : Nat}, a = some m ∧ b = some n →
      a = some m' ∧ b = some n' → m = m' ∧ n = n' := by
    rintro _ _ m n m' n' ⟨rfl, rfl⟩ ⟨hm, hn⟩
    exact ⟨Option.some.inj hm, Option.some.inj hn⟩
  cases op : msg.op
  case move =>
    rw [op] at h h'
    exact same h h'
  case seat_move | seat_swap_answer =>
    rw [op] at h h'
    exact same ⟨h.1, h.2.1⟩ ⟨h'.1, h'.2.1⟩
  all_goals
    rw [op] at h
    exact h.elim

/-- What outlives an exchange are the marks of those who end up in the gallery. -/
lemma marks_after_swap {s : Section} (asked : ∀ k, l.Spares s k ↔ is_spectator_seat (Equiv.swap i j k))
    (after : ∀ k, l'.readyAt k = (is_spectator_seat k && l.readyAt (Equiv.swap i j k))) :
    (∀ k, l'.readyAt k = false) ↔ ∀ k, l.Spares s k → l.readyAt k = false := by
  constructor
  · intro h k hk
    have there := h (Equiv.swap i j k)
    rw [after, Equiv.swap_apply_self, (asked k).mp hk] at there
    exact there
  · intro h k
    rw [after]
    cases hs : is_spectator_seat k with
    | false => rfl
    | true =>
      refine h _ ((asked _).mpr ?_)
      rw [Equiv.swap_apply_self]
      exact hs

end Lobby

open Lobby

section
variable {srv : Server} {o : Answer} {w : World} {p ip lid : String} {msg : InMsg} {l l' : Lobby}

/-- The marks after a message about seats that exchanges two. -/
lemma marks_after_seats (sized : w.hub.Sized)
    (op : msg.op ∈ [ClientOp.move, .seat_move, .seat_swap_answer])
    (hl : w.hub.lobbies.lookup lid = some l)
    (hl' : (exec srv (dispatch p ip msg) o w).1.hub.lobbies.lookup lid = some l')
    (moved : ∃ k, l'.sitter k ≠ l.sitter k) :
    (∀ k, l'.readyAt k = false) ↔
      ∀ k, l.Spares (dispatch p ip msg) k → l.readyAt k = false := by
  have done := @dispatch_seats p msg srv o w ip sized op
  generalize hg : (exec srv (dispatch p ip msg) o w).1.hub = g' at done hl'
  cases done with
  | refused =>
    obtain ⟨k, hk⟩ := moved
    exact absurd (congrArg (·.sitter k) (Option.some.inj (hl'.symm.trans hl))) hk
  | @swapped lid0 l0 l1 i j x y ss noted hl0 asked hi hj hne e told =>
    obtain ⟨l2, hl2, ⟨-, rfl⟩ | ⟨rfl, rfl⟩⟩ := lookup_setLobby_back hl'
    · obtain ⟨k, hk⟩ := moved
      exact absurd (congrArg (·.sitter k) (Option.some.inj (hl2.symm.trans hl))) hk
    · obtain rfl := Option.some.inj (hl.symm.trans hl0)
      have spares : ∀ k, l.Spares (dispatch p ip msg) k ↔ is_spectator_seat (Equiv.swap i j k) := by
        intro k
        have named : l.Spares (dispatch p ip msg) k ↔
            ∃ i j, l.Asked p msg i j ∧ is_spectator_seat (Equiv.swap i j k) := by
          simp only [List.mem_cons, List.not_mem_nil, or_false] at op
          simp only [Spares]
          rcases op with op | op | op <;> simp only [op]
        rw [named]
        constructor
        · rintro ⟨i', j', asked', h⟩
          obtain ⟨rfl, rfl⟩ := asked.unique asked'
          exact h
        · exact fun h => ⟨i, j, asked, h⟩
      refine marks_after_swap spares fun k => ?_
      rcases e with rfl | rfl
      · exact readyAt_rearrange hi hj hne
      · exact readyAt_trade hi hj hne

/-- What a join does to a room. -/
lemma join_seat_room {lid' : String}
    (hl' : (exec srv (join_seat p ip lid' msg) o w).1.hub.lobbies.lookup lid = some l') :
    w.hub.lobbies.lookup lid = some l' ∨ ∃ l seat slot ep, w.hub.lobbies.lookup lid = some l ∧
      freeSeat l = some seat ∧ slot.ready = false ∧ l' = l.sit seat slot ep := by
  simp only [exec, World.lift, World.setHub, join_seat_step_hub] at hl'
  have ends := join_ends srv o w.hub p ip lid' msg
  generalize joinOutcome srv o w.hub p ip lid' msg = out at ends hl'
  cases ends with
  | refused => exact .inl hl'
  | @seated l seat hl free =>
    obtain ⟨l0, hl0, ⟨-, rfl⟩ | ⟨rfl, rfl⟩⟩ := lookup_setLobby_back hl'
    · exact .inl hl0
    · exact .inr ⟨l, seat, _, _, hl, free, rfl, rfl⟩

end

/-- **Ready marks.** When a step of a run changes who sits where in a room, the marks that are left are
those of the seats that the operation spares. -/
theorem ready_cleared_iff {srv c tr} (r : HubRun srv c tr) {t s o pre lid l l'}
    (ran : .ran t s o pre ∈ tr) (hl : pre.world.hub.lobbies.lookup lid = some l)
    (hl' : (exec srv s o pre.world).1.hub.lobbies.lookup lid = some l')
    (moved : ∃ k, l'.sitter k ≠ l.sitter k) :
    l'.NoneReady ↔ ∀ k, l.Spares s k → l.readyAt k = false := by
  obtain ⟨rest, earlier, before, -, -⟩ := r.ran_pending ran
  have basic := HubRun.basic before
  have small := basic.sized lid l hl
  have still : ∀ {P : Prop}, (∀ k, l'.sitter k = l.sitter k) → P := by
    intro P same
    obtain ⟨k, hk⟩ := moved
    exact absurd (same k) hk
  have new : lid ≠ o.uuid := by
    rintro rfl
    exact (r.ran_answers ran).2.1 (basic.lobby_issued _ l hl)
  rcases exec_room hl' with ⟨l0, hl0, edit⟩ | ⟨p, ip, msg, -, e, -⟩ | ⟨plan, -, e, -⟩
  · obtain rfl := Option.some.inj (hl.symm.trans hl0)
    have small' : l'.slots.length ≤ SPECTATOR_SLOT_BASE :=
      (congrArg (·.2.1) edit.fixed : l'.slots.length = l.slots.length) ▸ small
    rw [noneReady_iff small']
    cases edit with
    | same => exact still fun _ => rfl
    | rename => exact still fun _ => sitter_setMember fun _ => rfl
    | set_ready op noted hf =>
      refine still fun _ => sitter_setMember fun s => ?_
      obtain ⟨_, _, _, _, e⟩ := hf s
      rw [e]
    | set_match_caps => exact still fun _ => rfl
    | set_host_endpoint op noted host paths =>
      rcases paths with ⟨rfl, -⟩ | rfl
      · exact still fun _ => rfl
      · exact still fun k => @owner_mapPlayers l Slot.clearPath (fun _ => rfl) k
    | path_report => exact still fun _ => sitter_reportPath
    | launch => exact still fun k => sitter_unready l k
    | move op | seat_move op | seat_swap_answer op =>
      exact marks_after_seats basic.sized (by simp [op]) hl hl' moved
    | @kick p ip msg j _ op =>
      simp only [exec, World.lift, World.setHub, dispatch_step, op] at hl'
      have same : ∀ l0, pre.world.hub.lobbies.lookup lid = some l0 → l.kick j = l0 →
          ∀ k, (l.kick j).sitter k = l.sitter k :=
        fun l0 hl0 e k => e ▸ congrArg (·.sitter k) (Option.some.inj (hl0.symm.trans hl))
      have ends := kick_ends pre.world.hub p msg
      generalize (handle_kick pre.world.hub p msg).1 = g' at ends hl'
      cases ends with
      | refused => exact still (same _ hl' rfl)
      | @kicked lid0 l1 i s kicks =>
        obtain ⟨l0, hl0, ⟨-, e⟩ | ⟨rfl, e⟩⟩ := lookup_setLobby_back hl'
        · exact still (same l0 hl0 e)
        · obtain rfl := Option.some.inj (hl.symm.trans hl0)
          obtain rfl := Option.some.inj (hl.symm.trans kicks.room)
          rw [e]
          refine forall_congr' fun k => ?_
          rw [readyAt_kick kicks.held]
          simp only [Spares, op, kicks.slot]
          grind
    | sit =>
      rcases join_seat_room hl' with same | ⟨l0, seat, slot, ep, hl0, free, fresh, e⟩
      · exact still fun k => congrArg (·.sitter k) (Option.some.inj (same.symm.trans hl))
      · obtain rfl := Option.some.inj (hl.symm.trans hl0)
        rw [e]
        refine forall_congr' fun k => ?_
        rw [readyAt_sit (seat_freeSeat small free) fresh]
        simp only [Spares]
        grind
    | vacate =>
      refine forall_congr' fun k => ?_
      rw [readyAt_vacate]
      simp only [Spares]
      grind
  · exact absurd e new
  · exact absurd e new

/-- The host is ready, and the guest leaves. -/
def readyThenLeft (p q room : String) : List Move :=
  let o := draw "9b1deb4d-3b7d-4bad-9bdd-2b0d7b3dcb6d"
  roomOfTwo p q room o ++ [say p { op := .set_ready, ready := some true }] ++ steps (.conn p) 4 o ++
    [say q { op := .leave }] ++ steps (.conn q) 3 o

/-- Has the last step of a trace emptied the second seat of a room, with the first one ready? -/
def leftReady (lid : String) : List HubLabel → Bool
  | .ran _ s o pre :: _ =>
    (pre.world.hub.lobbies.lookup lid).any fun l =>
      ((exec sampleServer s o pre.world).1.hub.lobbies.lookup lid).any fun l' =>
        l'.sitter 1 ≠ l.sitter 1 && l'.readyAt 0
  | _ => false

lemma leftReady_sound {lid tr} (h : leftReady lid tr) : ∃ t s o pre l l', .ran t s o pre ∈ tr ∧
    pre.world.hub.lobbies.lookup lid = some l ∧
    (exec sampleServer s o pre.world).1.hub.lobbies.lookup lid = some l' ∧
    (∃ k, l'.sitter k ≠ l.sitter k) ∧ l'.readyAt 0 := by
  cases tr with
  | nil => cases h
  | cons x earlier =>
    cases x with
    | came => cases h
    | ran t s o pre =>
      simp only [leftReady, Option.any_eq_true, Bool.and_eq_true, decide_eq_true_eq] at h
      obtain ⟨l, hl, l', hl', moved, ready⟩ := h
      exact ⟨t, s, o, pre, l, l', List.mem_cons_self, hl, hl', ⟨1, moved⟩, ready⟩

lemma leftReady_run : ∃ c tr room, HubRun sampleServer c tr ∧ leftReady room tr := by
  let p := "6b0f1e52-3c1d-4a86-9a53-0d5f6f1c2a11"
  let q := "c4d1c1a0-5f0e-4a53-8d43-9f4b1f7f3b22"
  let room := "1f8a9f0e-7d2b-4b57-8f6f-2f6f2b0c9d01"
  have h : ((hubMachine sampleServer).follow (readyThenLeft p q room)).any fun x =>
      leftReady room x.2 := by decide +kernel
  obtain ⟨c, tr, r, left, -⟩ := Machine.follow_reaches h
  exact ⟨c, tr, room, r, left⟩

/-- The host is still ready after the guest has left. -/
theorem ready_cleared_iff_left : ∃ c tr t s o pre lid l l', HubRun sampleServer c tr ∧
    .ran t s o pre ∈ tr ∧ pre.world.hub.lobbies.lookup lid = some l ∧
    (exec sampleServer s o pre.world).1.hub.lobbies.lookup lid = some l' ∧
    (∃ k, l'.sitter k ≠ l.sitter k) ∧
    (l'.NoneReady ↔ ∀ k, l.Spares s k → l.readyAt k = false) := by
  obtain ⟨c, tr, room, r, left⟩ := leftReady_run
  obtain ⟨t, s, o, pre, l, l', ran, hl, hl', moved, -⟩ := leftReady_sound left
  exact ⟨c, tr, t, s, o, pre, room, l, l', r, ran, hl, hl', moved,
    ready_cleared_iff r ran hl hl' moved⟩

/-- A ready mark outlives a departure. -/
theorem ready_outlives_leave : ¬ ∀ c tr t s o pre lid l l', HubRun sampleServer c tr →
    .ran t s o pre ∈ tr → pre.world.hub.lobbies.lookup lid = some l →
    (exec sampleServer s o pre.world).1.hub.lobbies.lookup lid = some l' →
    (∃ k, l'.sitter k ≠ l.sitter k) → l'.NoneReady := by
  intro all
  obtain ⟨c, tr, room, r, left⟩ := leftReady_run
  obtain ⟨t, s, o, pre, l, l', ran, hl, hl', moved, ready⟩ := leftReady_sound left
  have none := all c tr t s o pre room l l' r ran hl hl' moved
  exact absurd ready (none.readyAt 0 ▸ Bool.false_ne_true)

end RecompNet
