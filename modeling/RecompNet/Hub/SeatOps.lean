import RecompNet.Hub.Basics
import Mathlib.Logic.Equiv.Basic

/-!
# Rearranging seats

`move`, `seat_move` and an accepted swap exchange two seats of the shared index namespace, be they in one
table or in two. What a seat holds goes along, but for the ready mark and the path report.
-/

namespace RecompNet

open Section Interleave
open scoped List

/-- What a seat holds, but for its ready mark and its path report. -/
def Slot.content (s : Slot) : Slot := { s with ready := false, ice_path := none, ice_path_at := none }

namespace Lobby

/-- What the seat at an index holds, when there is a seat. -/
def contents (l : Lobby) (k : Nat) : Option (Option Slot) := (l.seat k).map (Option.map Slot.content)

/-- The rooms before and after an exchange of two seats: both are there, each holds what the other held,
every other seat holds what it held, and nothing else of the room but the seats is another. -/
structure Exchanged (l l' : Lobby) (i j : Nat) : Prop where
  apart : i ≠ j
  left : (l.seat i).isSome
  right : (l.seat j).isSome
  contents : ∀ k, l'.contents k = l.contents (Equiv.swap i j k)
  occupants : l'.everyone.map Slot.content ~ l.everyone.map Slot.content
  rest : l'.furniture = l.furniture

variable {l : Lobby} {i j k : Nat} {x y : Option Slot}

/-- Exchanging two seats, read at any seat. -/
lemma seat_swapSeats (hi : l.seat i = some x) (hj : l.seat j = some y) (hne : i ≠ j) :
    (l.swapSeats i j).seat k = l.seat (Equiv.swap i j k) := by
  have hj1 : (l.setSeat i none).seat j = some y := (seat_setSeat_ne hne _).trans hj
  have hj2 := seat_setSeat_self hj1 none
  have hi1 := seat_setSeat_self hi none
  have hi2 := (seat_setSeat_ne hne.symm none).trans hi1
  have hi3 := (seat_setSeat_ne hne.symm x).trans hi2
  rw [swapSeats_eq hi hj hne]
  by_cases ki : k = i
  · rw [ki, Equiv.swap_apply_left, seat_setSeat_self hi3, hj]
  · rw [seat_setSeat_ne (Ne.symm ki)]
    by_cases kj : k = j
    · rw [kj, Equiv.swap_apply_right, seat_setSeat_self hj2, hi]
    · rw [seat_setSeat_ne (Ne.symm kj), seat_setSeat_ne (Ne.symm kj), seat_setSeat_ne (Ne.symm ki),
        Equiv.swap_apply_of_ne_of_ne ki kj]

/-- Rewriting every seat by a function that keeps what it holds. -/
lemma contents_map {m : Lobby} {f g : Slot → Slot} (hf : ∀ s, (f s).content = s.content)
    (hg : ∀ s, (g s).content = s.content)
    (players : m.slots = l.slots.map (Option.map f))
    (gallery : m.spectators = l.spectators.map (Option.map g)) :
    (∀ k, m.contents k = l.contents k) ∧ m.everyone.map Slot.content = l.everyone.map Slot.content := by
  have maps : ∀ {h : Slot → Slot} (xs : List (Option Slot)), (∀ s, (h s).content = s.content) →
      (xs.map (Option.map h)).map (Option.map Slot.content) = xs.map (Option.map Slot.content) := by
    intro h xs hh
    rw [List.map_map]
    refine List.map_congr_left fun s _ => ?_
    cases s with
    | none => rfl
    | some s => exact congrArg some (hh s)
  constructor
  · intro k
    unfold contents seat
    split
    · rw [gallery, ← List.getElem?_map, ← List.getElem?_map, maps _ hg]
    · rw [players, ← List.getElem?_map, ← List.getElem?_map, maps _ hf]
  · simp only [everyone, List.map_append, ← filterMap_id_map, players, gallery, maps _ hf, maps _ hg]

lemma occupants_swapSeats (hi : l.seat i = some x) (hj : l.seat j = some y) (hne : i ≠ j) :
    (l.swapSeats i j).everyone ~ l.everyone := by
  rw [everyone_eq_cells, everyone_eq_cells]
  exact (cells_swapSeats hi hj hne).filterMap id

/-- An exchange of two seats with any rewriting of marks and reports after it. -/
lemma exchanged_of_swap {m : Lobby} {f g : Slot → Slot} (hi : l.seat i = some x)
    (hj : l.seat j = some y) (hne : i ≠ j) (hf : ∀ s, (f s).content = s.content)
    (hg : ∀ s, (g s).content = s.content)
    (players : m.slots = (l.swapSeats i j).slots.map (Option.map f))
    (gallery : m.spectators = (l.swapSeats i j).spectators.map (Option.map g))
    (rest : m.furniture = l.furniture) : Exchanged l m i j := by
  obtain ⟨contents, everyone⟩ := contents_map hf hg players gallery
  constructor
  · exact hne
  · rw [hi]
    rfl
  · rw [hj]
    rfl
  · intro k
    rw [contents, Lobby.contents, seat_swapSeats hi hj hne]
    rfl
  · rw [everyone]
    exact (occupants_swapSeats hi hj hne).map _
  · exact rest

lemma rearrange_exchanged (hi : l.seat i = some x) (hj : l.seat j = some y) (hne : i ≠ j) :
    Exchanged l (l.rearrange i j) i j := by
  refine @exchanged_of_swap l i j x y _ (fun s => Slot.clearPath { s with ready := false })
    Slot.clearPath hi hj hne (fun _ => rfl) (fun _ => rfl) ?_ rfl furniture_rearrange
  simp only [rearrange, clear_lobby_ice_paths, mapSeats, unready, mapPlayers, List.map_map]
  congr 1
  funext s
  cases s <;> rfl

lemma trade_exchanged (hi : l.seat i = some x) (hj : l.seat j = some y) (hne : i ≠ j) :
    Exchanged l (l.trade i j) i j := by
  unfold trade
  dsimp only
  split
  · exact rearrange_exchanged hi hj hne
  · refine @exchanged_of_swap l i j x y _ ({ · with ready := false }) id hi hj hne (fun _ => rfl)
      (fun _ => rfl) rfl ?_ ?_
    · rw [Option.map_id_fun, List.map_id_fun]
      rfl
    · rw [furniture_unready, furniture_swapSeats]

/-- The two seats that a message asks to exchange: the host names both, a player its own with a free one,
and an accepted swap is between the seats of the two players. -/
def Asked (l : Lobby) (p : String) (msg : InMsg) (i j : Nat) : Prop :=
  match msg.op with
  | .move => msg.from_slot.or msg.slot = some i ∧ msg.to_slot = some j
  | .seat_move => l.seat_of p = some i ∧ msg.to_slot.or msg.target_slot = some j ∧ l.seat j = some none
  | .seat_swap_answer => l.seat_of p = some i ∧ (msg.asker_player_id.bind l.seat_of) = some j ∧
      msg.accept = some true
  | _ => False

end Lobby

open Lobby

/-- What a message about seats comes to: an exchange that the room is told of, or nothing at all. -/
inductive SeatsMoved (g : HubInner) (p : String) (msg : InMsg) : HubStep → Prop where
  | exchanged {lid l l' i j ss} :
    g.lobby_id_of p = some lid →
    g.lobbies.lookup lid = some l →
    l.Asked p msg i j →
    Exchanged l l' i j →
    emit_lobby_update lid ∈ ss →
    SeatsMoved g p msg (g.setLobby lid fun _ => l', ss)
  | refused {ss} :
    (∀ lid, emit_lobby_update lid ∉ ss) →
    SeatsMoved g p msg (g, ss)

/-- What the handler of a message about seats does to the room, as the handler does it. -/
inductive SeatsRewritten (g : HubInner) (p : String) (msg : InMsg) : HubStep → Prop where
  | swapped {lid l l' i j x y ss} :
    g.lobby_id_of p = some lid →
    g.lobbies.lookup lid = some l →
    l.Asked p msg i j →
    l.seat i = some x →
    l.seat j = some y →
    i ≠ j →
    l' = l.rearrange i j ∨ l' = l.trade i j →
    emit_lobby_update lid ∈ ss →
    SeatsRewritten g p msg (g.setLobby lid fun _ => l', ss)
  | refused {ss} :
    (∀ lid, emit_lobby_update lid ∉ ss) →
    SeatsRewritten g p msg (g, ss)

section
variable {g : HubInner} {p : String} {msg : InMsg}

lemma SeatsRewritten.moved {st : HubStep} (h : SeatsRewritten g p msg st) : SeatsMoved g p msg st := by
  cases h with
  | refused silent => exact .refused silent
  | swapped noted hl asked si sj hne e told =>
    refine .exchanged noted hl asked ?_ told
    rcases e with rfl | rfl
    · exact rearrange_exchanged si sj hne
    · exact trade_exchanged si sj hne

lemma SeatsRewritten.refuse (code : Code) : SeatsRewritten g p msg (refuse g p code) :=
  .refused fun lid h => by simp at h

lemma SeatsRewritten.silent : SeatsRewritten g p msg (g, []) := .refused nofun

/-- The room that is rewritten is the one that is there. -/
lemma setLobby_const {lid : String} {l : Lobby} {f : Lobby → Lobby}
    (hl : g.lobbies.lookup lid = some l) : g.setLobby lid f = g.setLobby lid fun _ => f l := by
  unfold HubInner.setLobby
  rw [Assoc.Map.modify_congr fun l' hl' => congrArg f (Option.some.inj (hl'.symm.trans hl))]

lemma handle_move_seats (op : msg.op = .move) : SeatsRewritten g p msg (handle_move g p msg) := by
  unfold handle_move
  split
  · rename_i i j hi hj
    split
    · exact .silent
    · rename_i hne
      split
      · exact .refuse _
      · rename_i lid hlid
        split
        · exact .refuse _
        · rename_i l hl
          split
          · exact .refuse _
          · split
            · rename_i s c si sj
              rw [setLobby_const hl]
              refine .swapped hlid hl ?_ si sj hne (.inl rfl) List.mem_cons_self
              unfold Asked
              rw [op]
              exact ⟨hi, hj⟩
            · exact .refuse _
            · exact .refuse _
  · exact .refuse _

lemma handle_seat_move_seats (sized : g.Sized) (op : msg.op = .seat_move) :
    SeatsRewritten g p msg (handle_seat_move g p msg) := by
  unfold handle_seat_move
  split
  · exact .refuse _
  · rename_i j hj
    split
    · exact .refuse _
    · rename_i lid hlid
      split
      · exact .refuse _
      · rename_i l hl
        split
        · exact .refuse _
        · rename_i i hi
          obtain ⟨s, si, -⟩ := seat_of_eq_some (sized _ _ hl) hi
          split
          · exact .refuse _
          · rename_i c sj
            split
            · exact .refuse _
            · rename_i hne
              split
              · exact .refuse _
              · rename_i free
                have sj' : l.seat j = some none := by
                  cases c with
                  | none => exact sj
                  | some t => exact absurd rfl free
                rw [setLobby_const hl]
                refine .swapped hlid hl ?_ si sj hne (.inl rfl) List.mem_cons_self
                unfold Asked
                rw [op]
                exact ⟨hi, hj, sj'⟩

lemma handle_seat_swap_answer_seats (sized : g.Sized) (op : msg.op = .seat_swap_answer) :
    SeatsRewritten g p msg (handle_seat_swap_answer g p msg) := by
  unfold handle_seat_swap_answer
  dsimp only
  split
  · exact .silent
  · rename_i named
    split
    · exact .silent
    · rename_i lid hlid
      split
      · exact .silent
      · rename_i l hl
        split
        · rename_i i j hi hj
          split
          · exact .refused fun _ h => by simp at h
          · rename_i accepted
            obtain ⟨accept, hne⟩ := not_or.mp accepted
            obtain ⟨s, si, -⟩ := seat_of_eq_some (sized _ _ hl) hi
            obtain ⟨t, sj, -⟩ := seat_of_eq_some (sized _ _ hl) hj
            rw [setLobby_const hl]
            refine .swapped hlid hl ?_ si sj hne (.inr rfl)
              (List.mem_cons_of_mem _ List.mem_cons_self)
            unfold Asked
            rw [op]
            refine ⟨hi, ?_, ?_⟩
            · cases hask : msg.asker_player_id with
              | none => simp [hask] at named
              | some asker =>
                rw [hask] at hj
                exact hj
            · cases hacc : msg.accept with
              | none => simp [hacc] at accept
              | some b =>
                rw [hacc] at accept
                simpa using accept
        · exact .refused fun _ h => by simp at h

/-- The three messages about seats. -/
lemma dispatch_seats {srv : Server} {o : Answer} {w : World} {ip : String} (sized : w.hub.Sized)
    (op : msg.op ∈ [ClientOp.move, .seat_move, .seat_swap_answer]) :
    SeatsRewritten w.hub p msg
      ((exec srv (dispatch p ip msg) o w).1.hub, (exec srv (dispatch p ip msg) o w).2) := by
  simp only [List.mem_cons, List.not_mem_nil, or_false] at op
  rcases op with op | op | op
  · simp only [exec, World.lift, World.setHub, dispatch_step, op]
    exact handle_move_seats op
  · simp only [exec, World.lift, World.setHub, dispatch_step, op]
    exact handle_seat_move_seats sized op
  · simp only [exec, World.lift, World.setHub, dispatch_step, op]
    exact handle_seat_swap_answer_seats sized op

end

/-- **Moving and swapping seats.** In every state of the hub a host's move, a seat move and an answer to a
swap either exchange the two seats they name and announce the room, or leave the hub as it was. -/
theorem seats_moved {srv c tr} (r : HubRun srv c tr) {p ip : String} {msg : InMsg} {o : Answer}
    (op : msg.op ∈ [ClientOp.move, .seat_move, .seat_swap_answer]) :
    SeatsMoved c.world.hub p msg
      ((exec srv (dispatch p ip msg) o c.world).1.hub, (exec srv (dispatch p ip msg) o c.world).2) :=
  (dispatch_seats (HubRun.basic r).sized op).moved

/-- Is a room all that is announced? -/
def announces (lid : String) : List Section → Bool
  | [emit_lobby_update lid'] => lid' = lid
  | _ => false

lemma mem_of_announces {lid : String} {ss : List Section} (h : announces lid ss) :
    emit_lobby_update lid ∈ ss := by
  unfold announces at h
  split at h
  · exact of_decide_eq_true h ▸ List.mem_cons_self
  · cases h

/-- The host of a room trades seats with its guest. -/
theorem seats_moved_host : ∃ c tr p room, HubRun sampleServer c tr ∧
    (let msg : InMsg := { op := .move, from_slot := some 1, to_slot := some 0 }
      let done := exec sampleServer (dispatch p "203.0.113.7" msg) (draw "") c.world
      emit_lobby_update room ∈ done.2 ∧ SeatsMoved c.world.hub p msg (done.1.hub, done.2)) := by
  let p := "6b0f1e52-3c1d-4a86-9a53-0d5f6f1c2a11"
  let q := "c4d1c1a0-5f0e-4a53-8d43-9f4b1f7f3b22"
  let room := "1f8a9f0e-7d2b-4b57-8f6f-2f6f2b0c9d01"
  let msg : InMsg := { op := .move, from_slot := some 1, to_slot := some 0 }
  let o := draw "9b1deb4d-3b7d-4bad-9bdd-2b0d7b3dcb6d"
  have h : ((hubMachine sampleServer).follow (roomOfTwo p q room o)).any fun x =>
      announces room (exec sampleServer (dispatch p "203.0.113.7" msg) (draw "") x.1.world).2 := by
    decide +kernel
  obtain ⟨c, tr, r, told, -⟩ := Machine.follow_reaches h
  exact ⟨c, tr, p, room, r, mem_of_announces told, seats_moved r (by decide)⟩

end RecompNet
