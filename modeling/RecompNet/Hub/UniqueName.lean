import RecompNet.Hub.Seats
import Mathlib.Data.List.Perm.Subperm

/-!
# Unique names

`unique_display_name` tries the name that is asked for, then the name with each of 63 numbers, and
in the end a random suffix. A room has fewer occupants than there are numbers, so that the suffix is
never needed: `unique_display_name_spec` says which name it gives.
-/

namespace RecompNet

/-- A name with a number. -/
def numbered (base : String) (n : Nat) : String := base ++ " (" ++ toString n ++ ")"

/-- The name that a room starts from. -/
def baseName (requested : String) : String :=
  let t := Text.trim requested
  if t = "" then "Guest" else t

/-- An occupant other than the one to skip holds the name. -/
def Lobby.HeldByOther (l : Lobby) (skip_player_id : Option String) (name : String) : Prop :=
  ∃ s ∈ l.everyone, some s.player_id ≠ skip_player_id ∧ s.display_name = name

/-- The first number from two on whose name nobody else in the room has. -/
def Lobby.FirstFree (l : Lobby) (skip_player_id : Option String) (base : String) (n : Nat) : Prop :=
  2 ≤ n ∧ ¬ l.HeldByOther skip_player_id (numbered base n) ∧
    ∀ k, 2 ≤ k → k < n → l.HeldByOther skip_player_id (numbered base k)

/-- The candidates for a base name are all different. -/
lemma candidates_nodup (base : String) :
    ((List.range 63).map fun n => numbered base (n + 2)).Nodup := by
  have numbers : ((List.range 63).map fun n : Nat => toString (n + 2)).Nodup := by decide
  have parts : ((List.range 63).map fun n => numbered base (n + 2)) =
      ((List.range 63).map fun n : Nat => toString (n + 2)).map (base ++ " (" ++ · ++ ")") := by
    rw [List.map_map]
    rfl
  rw [parts]
  refine numbers.map fun a b e => ?_
  exact (String.append_right_inj (base ++ " (")).mp ((String.append_left_inj ")").mp e)

/-- In a room with few seats one of the candidates is free. -/
lemma candidate_free {l : Lobby} (base : String) (few : l.member_ids.length < 63)
    (skip : Option String) : ∃ n < 63, ¬ l.HeldByOther skip (numbered base (n + 2)) := by
  by_contra all
  simp only [not_exists, not_and, not_not] at all
  have sub : ((List.range 63).map fun n => numbered base (n + 2)) ⊆
      l.everyone.map (·.display_name) := by
    intro name hn
    obtain ⟨n, below, rfl⟩ := List.mem_map.mp hn
    obtain ⟨s, hs, -, e⟩ := all n (List.mem_range.mp below)
    exact List.mem_map.mpr ⟨s, hs, e⟩
  have long := ((candidates_nodup base).subperm sub).length_le
  simp only [List.length_map, List.length_range] at long
  rw [Lobby.member_ids, List.length_map] at few
  omega

/-- What `unique_display_name` gives in a room with few seats: the name that it starts from when nobody
else holds that, and otherwise that name with the first number that is free. -/
theorem unique_display_name_spec {l : Lobby} {requested : String} {skip : Option String}
    (few : l.member_ids.length < 63) :
    ¬ l.HeldByOther skip (baseName requested) ∧
        (∀ fallback, unique_display_name l requested skip fallback = baseName requested) ∨
      l.HeldByOther skip (baseName requested) ∧ ∃ n ≤ 64, l.FirstFree skip (baseName requested) n ∧
        ∀ fallback, unique_display_name l requested skip fallback =
          numbered (baseName requested) n := by
  -- the test that the source makes of a candidate
  let taken : String → Bool := fun name =>
    l.everyone.any fun s => some s.player_id ≠ skip && s.display_name = name
  have taken_iff : ∀ name, taken name = true ↔ l.HeldByOther skip name := by
    intro name
    simp [taken, Lobby.HeldByOther]
  have result : ∀ fallback, unique_display_name l requested skip fallback =
      if !taken (baseName requested) then baseName requested
      else (((List.range 63).map fun n => numbered (baseName requested) (n + 2)).find?
        (!taken ·)).getD (baseName requested ++ " (" ++ String.ofList (fallback.toList.take 8) ++ ")") := by
    intro fallback
    by_cases free : !taken (baseName requested)
    · rw [if_pos free]
      exact if_pos free
    · rw [if_neg free]
      refine (if_neg free).trans ?_
      split
      all_goals
        rename_i found
        exact (congrArg (Option.getD · _) found).symm
  by_cases held : l.HeldByOther skip (baseName requested)
  · refine .inr ⟨held, ?_⟩
    have busy : ¬ !taken (baseName requested) := by simp [(taken_iff _).mpr held]
    obtain ⟨k, below, free⟩ := @candidate_free l (baseName requested) few skip
    cases found : ((List.range 63).map fun n => numbered (baseName requested) (n + 2)).find?
        (!taken ·) with
    | none =>
      have all := List.find?_eq_none.mp found _
        (List.mem_map_of_mem (List.mem_range.mpr below))
      exact absurd ((taken_iff _).mp (by simpa using all)) free
    | some candidate =>
      obtain ⟨ok, i, hi, e, before⟩ := List.find?_eq_some_iff_getElem.mp found
      rw [List.getElem_map, List.getElem_range] at e
      subst e
      rw [List.length_map, List.length_range] at hi
      refine ⟨i + 2, by omega, ⟨by omega, ?_, ?_⟩, fun fallback => ?_⟩
      · intro h
        rw [(taken_iff _).mpr h] at ok
        cases ok
      · intro m two lower
        obtain ⟨j, rfl⟩ := Nat.exists_eq_add_of_le' two
        have earlier := before j (by omega)
        rw [List.getElem_map, List.getElem_range] at earlier
        exact (taken_iff _).mp (by simpa using earlier)
      · rw [result, if_neg busy, found, Option.getD_some]
  · refine .inl ⟨held, fun fallback => (result fallback).trans (if_pos ?_)⟩
    simpa using fun h => held ((taken_iff _).mp h)

/-- **Unique names.** In a room with no more occupants than it has places for, a name is made
unique: no other occupant holds it, it is the name that was asked for when nobody else holds that,
and it does not depend on the random draw, since one of the numbers 2 to 64 is free. -/
theorem unique_display_name_sound (l : Lobby) (requested : String) (skip_player_id : Option String)
    (few : l.everyone.length ≤ MAX_SLOTS + MAX_SPECTATORS) :
    ∃ name, (∀ fallback, unique_display_name l requested skip_player_id fallback = name) ∧
      ¬ l.HeldByOther skip_player_id name ∧
      (¬ l.HeldByOther skip_player_id (baseName requested) → name = baseName requested) ∧
      (name = baseName requested ∨
        ∃ n, 2 ≤ n ∧ n ≤ 64 ∧ name = baseName requested ++ " (" ++ toString n ++ ")") := by
  have small : l.member_ids.length < 63 := by
    have places : MAX_SLOTS + MAX_SPECTATORS = 12 := rfl
    rw [Lobby.member_ids, List.length_map]
    omega
  rcases @unique_display_name_spec l requested skip_player_id small with
    ⟨unheld, e⟩ | ⟨held, n, le, first, e⟩
  · exact ⟨_, e, unheld, fun _ => rfl, .inl rfl⟩
  · exact ⟨_, e, first.2.1, fun none => absurd held none, .inr ⟨n, first.1, le, rfl⟩⟩

/-- A room with two players of one name, told apart. -/
def roomOfAlexes : Lobby where
  lobby_id := "1f8a9f0e-7d2b-4b57-8f6f-2f6f2b0c9d01"
  name := "Open Lobby"
  game_name := "Example Game"
  game_version := ""
  disc_fp := ""
  host_player_id := "6b0f1e52-3c1d-4a86-9a53-0d5f6f1c2a11"
  host_endpoint := ""
  max_slots := 4
  session_id := 1
  slots :=
    [some { player_id := "6b0f1e52-3c1d-4a86-9a53-0d5f6f1c2a11", display_name := "Alex" },
      some { player_id := "c4d1c1a0-5f0e-4a53-8d43-9f4b1f7f3b22", display_name := "Alex (2)" },
      none, none]

/-- The third Alex. -/
theorem unique_display_name_sound_third :
    (∀ fallback, unique_display_name roomOfAlexes " Alex " none fallback = "Alex (3)") ∧
      ¬ roomOfAlexes.HeldByOther none "Alex (3)" := by
  obtain ⟨name, same, unheld, -⟩ :=
    unique_display_name_sound roomOfAlexes " Alex " none (by decide)
  have third : name = "Alex (3)" := (same "").symm.trans (by decide)
  exact third ▸ ⟨same, unheld⟩

end RecompNet
