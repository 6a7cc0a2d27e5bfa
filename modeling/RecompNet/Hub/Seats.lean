import RecompNet.Hub.Launch
import Mathlib.Data.List.Perm.Basic

/-!
# Seats

What the room operations do to the seats: who is seated (`member_ids`, up to order) and which path
reports the players' seats carry (`proofs`). The two tables are read as one list of cells, in which a
seat has its `place`.
-/

open scoped List

namespace RecompNet

/-- The parts of a seat that the gate and the roster read: whose it is, and its path report. -/
def Slot.core (s : Slot) : String × Option IcePath × Option Instant :=
  (s.player_id, s.ice_path, s.ice_path_at)

namespace Lobby

/-- Both seat tables, the players' first. -/
def cells (l : Lobby) : List (Option Slot) := l.slots ++ l.spectators

/-- Where a seat is among the cells. -/
def place (l : Lobby) (seat : Nat) : Nat :=
  if is_spectator_seat seat then l.slots.length + (seat - SPECTATOR_SLOT_BASE) else seat

/-- The owners and the path reports of the occupied player seats. -/
def proofs (l : Lobby) : List (String × Option IcePath × Option Instant) :=
  (l.slots.filterMap id).map Slot.core

lemma everyone_eq_cells (l : Lobby) : l.everyone = l.cells.filterMap id := by
  simp [everyone, cells, List.filterMap_append]

lemma member_ids_eq_cells (l : Lobby) :
    l.member_ids = (l.cells.filterMap id).map (·.player_id) := by
  rw [member_ids, everyone_eq_cells]

/-- Reading occupied cells through a map of the cells. -/
lemma filterMap_id_map {α β : Type} (f : α → β) (xs : List (Option α)) :
    (xs.map (Option.map f)).filterMap id = (xs.filterMap id).map f := by
  rw [List.filterMap_map, List.map_filterMap]
  rfl

/-- The members are read off the owners of the cells. -/
lemma member_ids_congr {l l' : Lobby}
    (h : l'.cells.map (Option.map (·.player_id)) = l.cells.map (Option.map (·.player_id))) :
    l'.member_ids = l.member_ids := by
  rw [member_ids_eq_cells, member_ids_eq_cells, ← filterMap_id_map, h, filterMap_id_map]

/-- A room has no more members than seats. -/
lemma members_le_seats (l : Lobby) :
    l.member_ids.length ≤ l.slots.length + l.spectators.length := by
  rw [member_ids_eq_cells, List.length_map]
  refine (List.length_filterMap_le _ _).trans ?_
  rw [cells, List.length_append]

/-- The reports are read off the cores of the player seats. -/
lemma proofs_congr {l l' : Lobby}
    (h : l'.slots.map (Option.map Slot.core) = l.slots.map (Option.map Slot.core)) :
    l'.proofs = l.proofs := by
  rw [proofs, proofs, ← filterMap_id_map, h, filterMap_id_map]

/-! ## Reading and writing one seat -/

/-- A seat that exists is read at its place. -/
lemma cells_place {l : Lobby} {i x} (h : l.seat i = some x) : l.cells[l.place i]? = some x := by
  unfold seat at h
  unfold cells place
  split at h
  · rename_i hs
    rw [if_pos hs, List.getElem?_append_right (by omega), Nat.add_sub_cancel_left]
    exact h
  · rename_i hs
    rw [if_neg hs, List.getElem?_append_left (List.getElem?_eq_some_iff.mp h).1]
    exact h

/-- A seat that exists is written at its place. -/
lemma cells_setSeat {l : Lobby} {i x} (h : l.seat i = some x) (v : Option Slot) :
    (l.setSeat i v).cells = l.cells.set (l.place i) v := by
  unfold seat at h
  unfold setSeat cells place
  split at h
  · rename_i hs
    rw [if_pos hs, if_pos hs, List.set_append_right _ _ (by omega), Nat.add_sub_cancel_left]
  · rename_i hs
    rw [if_neg hs, if_neg hs, List.set_append_left _ _ (List.getElem?_eq_some_iff.mp h).1]

/-- Two seats that exist are at different places. -/
lemma place_ne {l : Lobby} {i j x y} (hi : l.seat i = some x) (hj : l.seat j = some y)
    (hne : i ≠ j) : l.place i ≠ l.place j := by
  unfold seat at hi hj
  unfold place
  by_cases si : is_spectator_seat i <;> by_cases sj : is_spectator_seat j
  all_goals
    simp only [si, sj, if_true, if_false, Bool.false_eq_true] at hi hj ⊢
    simp only [is_spectator_seat, decide_eq_true_eq, not_le] at si sj
  · omega
  · have := (List.getElem?_eq_some_iff.mp hj).1
    omega
  · have := (List.getElem?_eq_some_iff.mp hi).1
    omega
  · exact hne

@[simp] lemma slots_length_setSeat (l : Lobby) (i : Nat) (v : Option Slot) :
    (l.setSeat i v).slots.length = l.slots.length := by
  unfold setSeat
  split <;> simp

@[simp] lemma spectators_length_setSeat (l : Lobby) (i : Nat) (v : Option Slot) :
    (l.setSeat i v).spectators.length = l.spectators.length := by
  unfold setSeat
  split <;> simp

@[simp] lemma place_setSeat (l : Lobby) (i j : Nat) (v : Option Slot) :
    (l.setSeat i v).place j = l.place j := by
  simp [place]

/-- A written seat holds what was written. -/
lemma seat_setSeat_self {l : Lobby} {i x} (h : l.seat i = some x) (v : Option Slot) :
    (l.setSeat i v).seat i = some v := by
  unfold seat at h ⊢
  unfold setSeat
  split at h
  · rename_i hs
    simp only [hs, if_true]
    exact List.getElem?_set_self (List.getElem?_eq_some_iff.mp h).1
  · rename_i hs
    simp only [hs]
    exact List.getElem?_set_self (List.getElem?_eq_some_iff.mp h).1

/-- Writing a seat leaves the others alone. -/
lemma seat_setSeat_ne {l : Lobby} {i j} (hne : i ≠ j) (v : Option Slot) :
    (l.setSeat i v).seat j = l.seat j := by
  unfold seat setSeat
  by_cases si : is_spectator_seat i <;> by_cases sj : is_spectator_seat j
  all_goals simp only [si, sj, if_true, if_false, Bool.false_eq_true]
  · simp only [is_spectator_seat, decide_eq_true_eq] at si sj
    exact List.getElem?_set_ne (by omega)
  · exact List.getElem?_set_ne hne

/-- Filling an empty seat adds its owner. -/
lemma member_ids_fill {l : Lobby} {i} (h : l.seat i = some none) (s : Slot) :
    (l.setSeat i (some s)).member_ids ~ s.player_id :: l.member_ids := by
  obtain ⟨hlt, hget⟩ := List.getElem?_eq_some_iff.mp (cells_place h)
  have split := List.getElem_cons_eraseIdx_perm hlt
  rw [member_ids_eq_cells, member_ids_eq_cells, cells_setSeat h]
  have hset := (List.set_perm_cons_eraseIdx hlt (some s)).filterMap id
  have hold := split.filterMap id
  rw [hget] at hold
  simp only [List.filterMap_cons, id_eq] at hset hold
  exact (hset.map Slot.player_id).trans ((hold.map Slot.player_id).cons s.player_id)

/-- Emptying a seat takes its owner away. -/
lemma member_ids_empty {l : Lobby} {i s} (h : l.seat i = some (some s)) :
    s.player_id :: (l.setSeat i none).member_ids ~ l.member_ids := by
  obtain ⟨hlt, hget⟩ := List.getElem?_eq_some_iff.mp (cells_place h)
  have split := List.getElem_cons_eraseIdx_perm hlt
  rw [member_ids_eq_cells, member_ids_eq_cells, cells_setSeat h]
  have hset := (List.set_perm_cons_eraseIdx hlt none).filterMap id
  have hold := split.filterMap id
  rw [hget] at hold
  simp only [List.filterMap_cons, id_eq] at hset hold
  exact ((hset.map Slot.player_id).cons s.player_id).trans (hold.map Slot.player_id)

/-! ## Exchanging two seats -/

/-- `swapSeats` exchanges two different seats. -/
lemma swapSeats_eq {l : Lobby} {i j x y} (hi : l.seat i = some x) (hj : l.seat j = some y)
    (hne : i ≠ j) :
    l.swapSeats i j = ((((l.setSeat i none).setSeat j none).setSeat j x).setSeat i y) := by
  unfold swapSeats
  simp only [hi, seat_setSeat_ne hne, hj, Option.join_some]

lemma cells_swapSeats {l : Lobby} {i j x y} (hi : l.seat i = some x) (hj : l.seat j = some y)
    (hne : i ≠ j) : (l.swapSeats i j).cells ~ l.cells := by
  have hj1 : (l.setSeat i none).seat j = some y := (seat_setSeat_ne hne _).trans hj
  have hj2 := seat_setSeat_self hj1 none
  have hi1 := seat_setSeat_self hi none
  have hi2 := (seat_setSeat_ne hne.symm none).trans hi1
  have hi3 := (seat_setSeat_ne hne.symm x).trans hi2
  rw [swapSeats_eq hi hj hne, cells_setSeat hi3, cells_setSeat hj2, cells_setSeat hj1,
    cells_setSeat hi]
  simp only [place_setSeat]
  obtain ⟨hpi, rfl⟩ := List.getElem?_eq_some_iff.mp (cells_place hi)
  obtain ⟨hpj, rfl⟩ := List.getElem?_eq_some_iff.mp (cells_place hj)
  have hp := place_ne hi hj hne
  rw [List.set_set, List.set_comm _ _ hp, List.set_set]
  exact List.set_set_perm hpj hpi

/-- Exchanging two player seats permutes the player seats. -/
lemma slots_swapSeats {l : Lobby} {i j x y} (hi : l.seat i = some x) (hj : l.seat j = some y)
    (hne : i ≠ j) (same : is_spectator_seat i = is_spectator_seat j) :
    (l.swapSeats i j).slots ~ l.slots := by
  rw [swapSeats_eq hi hj hne]
  cases si : is_spectator_seat i with
  | true =>
    simp [setSeat, si, ← same]
  | false =>
    simp only [seat, si, ← same, Bool.false_eq_true, if_false] at hi hj
    simp only [setSeat, si, ← same, Bool.false_eq_true, if_false]
    obtain ⟨hpi, rfl⟩ := List.getElem?_eq_some_iff.mp hi
    obtain ⟨hpj, rfl⟩ := List.getElem?_eq_some_iff.mp hj
    rw [List.set_set, List.set_comm _ _ hne, List.set_set]
    exact List.set_set_perm hpj hpi

/-! ## Finding a player's seat -/

/-- A seat that `holds` a player is occupied by it. -/
lemma holds_eq_true {p : String} {c : Option Slot} :
    holds p c = true ↔ ∃ s, c = some s ∧ s.player_id = p := by
  cases c <;> simp [holds]

/-- A low index is a player seat. -/
lemma seat_player {l : Lobby} {i} (h : i < SPECTATOR_SLOT_BASE) : l.seat i = l.slots[i]? := by
  have hns : ¬ is_spectator_seat i := by
    simpa [is_spectator_seat] using h
  rw [seat, if_neg hns]

lemma seat_spectator (l : Lobby) (k : Nat) : l.seat (spectator_seat k) = l.spectators[k]? := by
  have hsp : is_spectator_seat (spectator_seat k) := by
    simp [is_spectator_seat, spectator_seat]
  rw [seat, if_pos hsp, spectator_seat, Nat.add_sub_cancel_left]

/-- The seat that `seat_of` finds exists and is the player's. -/
lemma seat_of_eq_some {l : Lobby} {p i} (small : l.slots.length ≤ SPECTATOR_SLOT_BASE)
    (h : l.seat_of p = some i) : ∃ s, l.seat i = some (some s) ∧ s.player_id = p := by
  unfold seat_of at h
  split at h
  · rename_i k hk
    cases h
    obtain ⟨hlt, hp, -⟩ := List.findIdx?_eq_some_iff_getElem.mp hk
    obtain ⟨s, hs, hid⟩ := holds_eq_true.mp hp
    refine ⟨s, ?_, hid⟩
    rw [seat_player (by omega), List.getElem?_eq_getElem hlt, hs]
  · obtain ⟨k, hk, rfl⟩ := Option.map_eq_some_iff.mp h
    obtain ⟨hlt, hp, -⟩ := List.findIdx?_eq_some_iff_getElem.mp hk
    obtain ⟨s, hs, hid⟩ := holds_eq_true.mp hp
    refine ⟨s, ?_, hid⟩
    rw [seat_spectator, List.getElem?_eq_getElem hlt, hs]

/-- A player with a seat is a member. -/
lemma mem_member_ids {l : Lobby} {p : String} :
    p ∈ l.member_ids ↔ ∃ s ∈ l.everyone, s.player_id = p := by
  simp [member_ids]

/-- The owner of an occupied seat is a member. -/
lemma mem_of_seat {l : Lobby} {i s} (h : l.seat i = some (some s)) :
    s.player_id ∈ l.member_ids := by
  rw [mem_member_ids, everyone_eq_cells]
  refine ⟨s, ?_, rfl⟩
  exact List.mem_filterMap.mpr ⟨some s, List.mem_of_getElem? (cells_place h), rfl⟩

/-- The seat that a joiner gets is empty. -/
lemma seat_freeSeat {l : Lobby} {i} (small : l.slots.length ≤ SPECTATOR_SLOT_BASE)
    (h : freeSeat l = some i) : l.seat i = some none := by
  unfold freeSeat at h
  split at h
  · obtain ⟨k, hk, rfl⟩ := Option.map_eq_some_iff.mp h
    obtain ⟨hlt, hp, -⟩ := List.findIdx?_eq_some_iff_getElem.mp hk
    rw [seat_spectator, List.getElem?_eq_getElem hlt]
    simpa using hp
  · obtain ⟨hlt, hp, -⟩ := List.findIdx?_eq_some_iff_getElem.mp h
    rw [seat_player (by omega), List.getElem?_eq_getElem hlt]
    simpa using hp

/-! ## The room operations -/

/-- The room itself stays: its ids, its host and relay, and how many seats it has. -/
structure Frame (l l' : Lobby) : Prop where
  lobby_id : l'.lobby_id = l.lobby_id
  host : l'.host_player_id = l.host_player_id
  relay : l'.relay_host_player_id = l.relay_host_player_id
  automatch : l'.automatch = l.automatch
  slots_length : l'.slots.length = l.slots.length
  spectators_length : l'.spectators.length = l.spectators.length

/-- Nobody comes or goes, and no player seat gains a path report. -/
structure Shuffles (l l' : Lobby) : Prop extends Frame l l' where
  members : l'.member_ids ~ l.member_ids
  proofs : ∀ x ∈ l'.proofs, x.2.1 ≠ none → x ∈ l.proofs

/-- No player seat carries a path report. -/
def Pathless (l : Lobby) : Prop := ∀ x ∈ l.proofs, x.2.1 = none

lemma Frame.trans {a b c : Lobby} (h : Frame a b) (k : Frame b c) : Frame a c where
  lobby_id := k.lobby_id.trans h.lobby_id
  host := k.host.trans h.host
  relay := k.relay.trans h.relay
  automatch := k.automatch.trans h.automatch
  slots_length := k.slots_length.trans h.slots_length
  spectators_length := k.spectators_length.trans h.spectators_length

lemma Shuffles.refl (l : Lobby) : Shuffles l l where
  lobby_id := rfl
  host := rfl
  relay := rfl
  automatch := rfl
  slots_length := rfl
  spectators_length := rfl
  members := .refl _
  proofs := fun _ h _ => h

lemma Shuffles.trans {a b c : Lobby} (h : Shuffles a b) (k : Shuffles b c) : Shuffles a c where
  toFrame := h.toFrame.trans k.toFrame
  members := k.members.trans h.members
  proofs := fun x hx hne => h.proofs x (k.proofs x hx hne) hne

/-- Rewriting the players' seats keeps the room and, when it keeps the owners, the members. -/
lemma mapPlayers_frame (l : Lobby) (f : Slot → Slot) : Frame l (l.mapPlayers f) where
  lobby_id := rfl
  host := rfl
  relay := rfl
  automatch := rfl
  slots_length := List.length_map _
  spectators_length := rfl

lemma mapPlayers_members (l : Lobby) (f : Slot → Slot) (h : ∀ s, (f s).player_id = s.player_id) :
    (l.mapPlayers f).member_ids = l.member_ids := by
  apply member_ids_congr
  simp [cells, mapPlayers, Function.comp_def, h]

lemma mapPlayers_proofs (l : Lobby) (f : Slot → Slot) :
    (l.mapPlayers f).proofs = (l.slots.filterMap id).map fun s => (f s).core := by
  rw [proofs, mapPlayers, filterMap_id_map, List.map_map]
  rfl

lemma unready_shuffles (l : Lobby) : Shuffles l l.unready where
  toFrame := mapPlayers_frame l _
  members := .of_eq (mapPlayers_members l _ fun _ => rfl)
  proofs := fun x hx _ => by
    rw [unready, mapPlayers_proofs] at hx
    exact hx

lemma clearPlayerPaths_pathless (l : Lobby) : l.clearPlayerPaths.Pathless := by
  intro x hx
  rw [clearPlayerPaths, mapPlayers_proofs] at hx
  obtain ⟨s, -, rfl⟩ := List.mem_map.mp hx
  rfl

lemma clearPlayerPaths_shuffles (l : Lobby) : Shuffles l l.clearPlayerPaths where
  toFrame := mapPlayers_frame l _
  members := .of_eq (mapPlayers_members l _ fun _ => rfl)
  proofs := fun x hx hne => absurd (clearPlayerPaths_pathless l x hx) hne

lemma clear_paths_pathless (l : Lobby) : (clear_lobby_ice_paths l).Pathless :=
  clearPlayerPaths_pathless l

lemma clear_paths_members (l : Lobby) : (clear_lobby_ice_paths l).member_ids = l.member_ids := by
  apply member_ids_congr
  simp [cells, clear_lobby_ice_paths, mapSeats, Slot.clearPath, Function.comp_def]

lemma clear_paths_shuffles (l : Lobby) : Shuffles l (clear_lobby_ice_paths l) where
  lobby_id := rfl
  host := rfl
  relay := rfl
  automatch := rfl
  slots_length := List.length_map _
  spectators_length := List.length_map _
  members := .of_eq (clear_paths_members l)
  proofs := fun x hx hne => absurd (clear_paths_pathless l x hx) hne

lemma setSeat_frame (l : Lobby) (i : Nat) (v : Option Slot) : Frame l (l.setSeat i v) := by
  unfold setSeat
  split <;> constructor <;> simp

lemma swapSeats_frame (l : Lobby) (i j : Nat) : Frame l (l.swapSeats i j) :=
  (((setSeat_frame l i _).trans (setSeat_frame _ j _)).trans (setSeat_frame _ j _)).trans
    (setSeat_frame _ i _)

lemma swapSeats_members {l : Lobby} {i j x y} (hi : l.seat i = some x) (hj : l.seat j = some y)
    (hne : i ≠ j) : (l.swapSeats i j).member_ids ~ l.member_ids := by
  rw [member_ids_eq_cells, member_ids_eq_cells]
  exact ((cells_swapSeats hi hj hne).filterMap id).map _

lemma rearrange_shuffles {l : Lobby} {i j x y} (hi : l.seat i = some x) (hj : l.seat j = some y)
    (hne : i ≠ j) : Shuffles l (l.rearrange i j) where
  toFrame := ((swapSeats_frame l i j).trans (unready_shuffles _).toFrame).trans
    (clear_paths_shuffles _).toFrame
  members := by
    rw [rearrange, clear_paths_members]
    exact (unready_shuffles _).members.trans (swapSeats_members hi hj hne)
  proofs := fun x hx hp => absurd (clear_paths_pathless _ x hx) hp

lemma trade_shuffles {l : Lobby} {i j x y} (hi : l.seat i = some x) (hj : l.seat j = some y)
    (hne : i ≠ j) : Shuffles l (l.trade i j) := by
  have swapped : Frame l (l.swapSeats i j).unready :=
    (swapSeats_frame l i j).trans (unready_shuffles _).toFrame
  have members : (l.swapSeats i j).unready.member_ids ~ l.member_ids :=
    (unready_shuffles _).members.trans (swapSeats_members hi hj hne)
  unfold trade
  dsimp only
  split
  · exact
      { toFrame := swapped.trans (clear_paths_shuffles _).toFrame
        members := (clear_paths_members _).symm ▸ members
        proofs := fun x hx hp => absurd (clear_paths_pathless _ x hx) hp }
  · rename_i same
    refine { toFrame := swapped, members := members, proofs := ?_ }
    intro x hx hp
    have hperm := ((slots_swapSeats hi hj hne (not_not.mp same)).filterMap id).map Slot.core
    exact hperm.subset ((unready_shuffles _).proofs x hx hp)

/-- Rewriting one element does not change how many there are. -/
lemma length_updateFirst {α : Type} (c : α → Bool) (f : α → α) (xs : List α) :
    (updateFirst c f xs).length = xs.length := by
  have hm := congrArg List.length (map_updateFirst c f (fun _ => ()) (fun _ => rfl) xs)
  simpa using hm

/-- A path report changes one player seat, not whose it is. -/
lemma reportPath_frame (l : Lobby) (p : String) (kind : IcePath) (now : Instant) :
    Frame l (l.reportPath p kind now) where
  lobby_id := rfl
  host := rfl
  relay := rfl
  automatch := rfl
  slots_length := length_updateFirst _ _ _
  spectators_length := rfl

/-- A path report changes no seat's owner. -/
lemma reportPath_members (l : Lobby) (p : String) (kind : IcePath) (now : Instant) :
    (l.reportPath p kind now).member_ids = l.member_ids := by
  apply member_ids_congr
  simp only [cells, reportPath, setPlayer, List.map_append]
  rw [map_updateFirst]
  rintro (_ | s) <;> rfl

/-- Rewriting one member's seat, when it keeps the owner and the path report. -/
lemma setMember_shuffles (l : Lobby) (p : String) {f : Slot → Slot}
    (h : ∀ s, (f s).core = s.core) : Shuffles l (l.setMember p f) := by
  have hid : ∀ s, (f s).player_id = s.player_id := fun s => congrArg Prod.fst (h s)
  have hown : ∀ (c : Option Slot → Bool) (xs : List (Option Slot)),
      (updateFirst c (Option.map f) xs).map (Option.map (·.player_id)) =
        xs.map (Option.map (·.player_id)) := fun c xs =>
    map_updateFirst c _ _ (fun s => by cases s <;> simp [hid]) xs
  have hcore : ∀ (c : Option Slot → Bool) (xs : List (Option Slot)),
      (updateFirst c (Option.map f) xs).map (Option.map Slot.core) =
        xs.map (Option.map Slot.core) := fun c xs =>
    map_updateFirst c _ _ (fun s => by cases s <;> simp [h]) xs
  unfold setMember
  split
  · exact
      { lobby_id := rfl
        host := rfl
        relay := rfl
        automatch := rfl
        slots_length := length_updateFirst _ _ _
        spectators_length := rfl
        members := .of_eq (member_ids_congr (by simp [cells, setPlayer, hown]))
        proofs := fun x hx _ => (proofs_congr (hcore _ _) : (l.setPlayer p f).proofs = l.proofs) ▸ hx }
  · exact
      { lobby_id := rfl
        host := rfl
        relay := rfl
        automatch := rfl
        slots_length := rfl
        spectators_length := length_updateFirst _ _ _
        members := .of_eq (member_ids_congr (by simp [cells, hown]))
        proofs := fun x hx _ => hx }

lemma launch_shuffles (l : Lobby) (caps : Option Value) (sid : Nat) :
    Shuffles l (l.launch caps sid) := by
  have h := unready_shuffles l
  exact
    { lobby_id := rfl
      host := rfl
      relay := rfl
      automatch := rfl
      slots_length := h.slots_length
      spectators_length := rfl
      members := h.members
      proofs := h.proofs }

/-! ## Coming and going -/

lemma sit_frame (l : Lobby) (i : Nat) (s : Slot) (ep : String) : Frame l (l.sit i s ep) := by
  have h := ((setSeat_frame l i (some s)).trans (unready_shuffles _).toFrame).trans
    (clear_paths_shuffles _).toFrame
  exact ⟨h.lobby_id, h.host, h.relay, h.automatch, h.slots_length, h.spectators_length⟩

lemma sit_members {l : Lobby} {i} (h : l.seat i = some none) (s : Slot) (ep : String) :
    (l.sit i s ep).member_ids ~ s.player_id :: l.member_ids := by
  have hc := clear_paths_members (l.setSeat i (some s)).unready
  exact (List.Perm.of_eq hc).trans ((unready_shuffles _).members.trans (member_ids_fill h s))

lemma sit_pathless (l : Lobby) (i : Nat) (s : Slot) (ep : String) : (l.sit i s ep).Pathless :=
  clear_paths_pathless (l.setSeat i (some s)).unready

lemma kick_frame (l : Lobby) (i : Nat) : Frame l (l.kick i) := by
  have h := (setSeat_frame l i none).trans (unready_shuffles _).toFrame
  exact ⟨h.lobby_id, h.host, h.relay, h.automatch,
    (List.length_map _).trans h.slots_length, (List.length_map _).trans h.spectators_length⟩

lemma kick_members {l : Lobby} {i s} (h : l.seat i = some (some s)) :
    s.player_id :: (l.kick i).member_ids ~ l.member_ids := by
  have hc := clear_paths_members { (l.setSeat i none).unready with guest_endpoint := "" }
  have hm : (l.kick i).member_ids ~ (l.setSeat i none).member_ids :=
    (List.Perm.of_eq hc).trans (unready_shuffles (l.setSeat i none)).members
  exact (hm.cons _).trans (member_ids_empty h)

lemma kick_pathless (l : Lobby) (i : Nat) : (l.kick i).Pathless :=
  clear_paths_pathless { (l.setSeat i none).unready with guest_endpoint := "" }

lemma vacate_frame (l : Lobby) (p : String) : Frame l (l.vacate p) := by
  constructor <;> simp [vacate, clear_lobby_ice_paths, mapSeats]

/-- Emptying the seats of a player takes it off the list of members. -/
lemma vacate_members (l : Lobby) (p : String) :
    (l.vacate p).member_ids = l.member_ids.filter (· ≠ p) := by
  have cut : ∀ xs : List (Option Slot),
      ((xs.map fun s => if holds p s then none else s).filterMap id).map Slot.player_id =
        ((xs.filterMap id).map Slot.player_id).filter (· ≠ p) := by
    intro xs
    induction xs with
    | nil => rfl
    | cons x xs ih =>
      cases x with
      | none => simpa [holds] using ih
      | some s => by_cases hs : s.player_id = p <;> simpa [holds, hs] using ih
  unfold vacate
  rw [clear_paths_members]
  unfold member_ids everyone
  rw [List.map_append, List.map_append, List.filter_append]
  exact congrArg₂ (· ++ ·) (cut _) (cut _)

lemma vacate_pathless (l : Lobby) (p : String) : (l.vacate p).Pathless :=
  clear_paths_pathless _

/-! ## The room without its seats -/

/-- The room without its seats. -/
def furniture (l : Lobby) : Lobby := { l with slots := [], spectators := [] }

variable {l : Lobby} {i j : Nat} {x : Option Slot}

@[simp] lemma furniture_setSeat : (l.setSeat i x).furniture = l.furniture := by
  unfold setSeat
  split <;> rfl

@[simp] lemma furniture_setMember {p : String} {f : Slot → Slot} :
    (l.setMember p f).furniture = l.furniture := by
  unfold setMember
  split <;> rfl

@[simp] lemma furniture_swapSeats : (l.swapSeats i j).furniture = l.furniture := by
  simp only [swapSeats, furniture_setSeat]

@[simp] lemma furniture_unready : l.unready.furniture = l.furniture := rfl

@[simp] lemma furniture_clear_paths : (clear_lobby_ice_paths l).furniture = l.furniture := rfl

@[simp] lemma furniture_rearrange : (l.rearrange i j).furniture = l.furniture := by
  rw [rearrange, furniture_clear_paths, furniture_unready, furniture_swapSeats]

@[simp] lemma furniture_trade : (l.trade i j).furniture = l.furniture := by
  unfold trade
  dsimp only
  split
  · exact furniture_rearrange
  · rw [furniture_unready, furniture_swapSeats]

/-- A kick forgets the endpoint of the guest. -/
@[simp] lemma furniture_kick : (l.kick i).furniture = { l.furniture with guest_endpoint := "" } := by
  unfold kick setSeat
  split <;> rfl

/-- A newcomer brings its endpoint. -/
@[simp] lemma furniture_sit {s : Slot} {ep : String} :
    (l.sit i s ep).furniture = { l.furniture with guest_endpoint := ep } := by
  unfold sit setSeat
  split <;> rfl

end Lobby

end RecompNet
