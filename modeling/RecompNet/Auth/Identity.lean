import RecompNet.Names

/-!
# Handles

The handle that an account keeps in the database (`identity.rs`). Each write passes the name gate or is
the fallback, and neither is ever empty or has white space at its ends.
-/

namespace RecompNet.Identity

/-- What Discord says about a player. Its id is a snowflake. -/
structure DiscordProfile where
  id : String
  username : String
  global_name : Option String := none

/-- The handle a freshly linked account starts with. -/
def default_handle_for (apply : String → String) (p : DiscordProfile) : String :=
  match Names.acceptable apply p.global_name with
  | some n => n
  | none =>
    match Names.acceptable apply (some p.username) with
    | some n => n
    | none =>
      let tail := String.ofList (p.id.toList.reverse.take 4).reverse
      "Player-" ++ tail

/-- `link_discord`, as far as `netplay_handle` goes: a stored handle is left alone. -/
def link_discord (apply : String → String) (netplay_handle : Option String) (p : DiscordProfile) :
    Option String :=
  match Text.nonempty netplay_handle with
  | some h => some h
  | none => some (default_handle_for apply p)

/-- `set_handle`: a refused handle leaves the old one standing. -/
def set_handle (apply : String → String) (netplay_handle : Option String) (requested : String) :
    Option String :=
  (Names.acceptable apply (some requested)).or netplay_handle

/-- The handle that `load_player` hands out. -/
def load_player (netplay_handle : Option String) : Option String := Text.nonempty netplay_handle

/-! ## What a handle looks like -/

/-- Not empty, and no white space at either end. -/
def Tidy (h : String) : Prop := h ≠ "" ∧ Text.Trimmed h.toList

instance (h : String) : Decidable (Tidy h) :=
  inferInstanceAs (Decidable (h ≠ "" ∧ Text.Trimmed h.toList))

/-- The name gate passes tidy names only. -/
lemma acceptable_tidy {apply s n} (h : Names.acceptable apply s = some n) : Tidy n := by
  obtain ⟨m, hm, hn⟩ := Option.bind_eq_some_iff.mp h
  split_ifs at hn
  cases hn
  obtain ⟨t, -, ht⟩ := Option.bind_eq_some_iff.mp hm
  dsimp only at ht
  split_ifs at ht with some
  cases ht
  refine ⟨fun e => some ?_, ?_⟩
  · have empty := congrArg String.toList e
    rwa [String.toList_ofList] at empty
  · rw [String.toList_ofList]
    exact Text.trimChars_trimmed _

/-- A tidy name before a tail that has no white space is tidy. -/
lemma Tidy.append {h t} (tidy : Tidy h) (plain : ∀ c ∈ t.toList.getLast?, Text.is_whitespace c = false) :
    Tidy (h ++ t) := by
  have start : h.toList ≠ [] := fun e => tidy.1 (String.toList_injective e)
  refine ⟨fun e => start ?_, ?_, ?_⟩
  · have empty := congrArg String.toList e
    rw [String.toList_append] at empty
    exact (List.append_eq_nil_iff.mp empty).1
  · intro c hc
    rw [String.toList_append, List.head?_append_of_ne_nil _ start] at hc
    exact tidy.2.1 c hc
  · intro c hc
    rw [String.toList_append, List.getLast?_append] at hc
    cases ht : t.toList.getLast? with
    | none =>
      rw [ht, Option.none_or] at hc
      exact tidy.2.2 c hc
    | some d =>
      rw [ht, Option.some_or] at hc
      exact plain c (ht.trans hc)

/-- Trimming leaves a tidy name alone. -/
lemma Tidy.trim {h} (tidy : Tidy h) : Text.trim h = h := by
  unfold Text.trim
  rw [Text.trimChars_of_trimmed tidy.2, String.ofList_toList]

/-- A new account has a tidy handle. -/
lemma default_handle_tidy {apply p} (snowflake : ∀ c ∈ p.id.toList, Text.is_whitespace c = false) :
    Tidy (default_handle_for apply p) := by
  unfold default_handle_for
  split
  · rename_i n hn
    exact acceptable_tidy hn
  · split
    · rename_i n hn
      exact acceptable_tidy hn
    · have base : Tidy "Player-" := by decide
      apply base.append
      intro c hc
      rw [String.toList_ofList] at hc
      have last := List.mem_of_mem_take (List.mem_reverse.mp (List.mem_of_getLast? hc))
      exact snowflake c (List.mem_reverse.mp last)

/-- The writes of `netplay_handle`. -/
inductive HandleWrite where
  | link (p : DiscordProfile)
  | set (requested : String)

def HandleWrite.run (apply : String → String) (netplay_handle : Option String) :
    HandleWrite → Option String
  | link p => link_discord apply netplay_handle p
  | set requested => set_handle apply netplay_handle requested

end RecompNet.Identity
