import RecompNet.Auth.Identity
import Mathlib.Algebra.Order.BigOperators.Group.List
import Mathlib.Algebra.Order.Group.Nat
import Mathlib.Algebra.Ring.Nat

/-!
# How long a name may be

A name fits the field that every client stores it in when it has at most 32 characters, at most 63
bytes and no control character (`Names.Storable`). The name gate cuts what it passes to that size,
and so is every handle that an account is loaded with.
-/

namespace RecompNet

namespace Text

/-- A character of the printable part of ASCII. -/
def printable (c : Char) : Bool := 32 ≤ c.toNat && c.toNat < 127

/-- Such a character takes one byte and is no control character. -/
lemma printable_size {c : Char} (h : printable c) : c.utf8Size = 1 ∧ is_control c = false := by
  simp only [printable, Bool.and_eq_true, decide_eq_true_eq] at h
  constructor
  · unfold Char.utf8Size
    rw [if_pos]
    rw [UInt32.le_iff_toNat_le]
    change c.toNat ≤ 127
    omega
  · simp only [is_control, Bool.or_eq_false_iff, Bool.and_eq_false_iff, decide_eq_false_iff_not]
    omega

/-- The bytes of a list of characters. -/
def bytes (cs : List Char) : Nat := (cs.map Char.utf8Size).sum

lemma byte_len_ofList (cs : List Char) : byte_len (String.ofList cs) = bytes cs := by
  unfold byte_len
  induction cs with
  | nil => rfl
  | cons c cs ih =>
    rw [String.ofList_cons, String.utf8ByteSize_append, String.utf8ByteSize_singleton, ih]
    rfl

lemma byte_len_eq (s : String) : byte_len s = bytes s.toList := by
  rw [← byte_len_ofList, String.ofList_toList]

lemma bytes_printable {cs : List Char} (h : ∀ c ∈ cs, printable c) : bytes cs = cs.length := by
  induction cs with
  | nil => rfl
  | cons c cs ih =>
    have one := (printable_size (h c List.mem_cons_self)).1
    have rest := ih fun d hd => h d (List.mem_cons_of_mem _ hd)
    simp only [bytes, List.map_cons, List.sum_cons, List.length_cons] at rest ⊢
    omega

lemma bytes_sublist {cs ds : List Char} (h : cs.Sublist ds) : bytes cs ≤ bytes ds :=
  (h.map Char.utf8Size).sum_le_sum fun _ _ => Nat.zero_le _

lemma trimChars_sublist (cs : List Char) : (trimChars cs).Sublist cs := by
  unfold trimChars
  rw [← List.reverse_sublist, List.reverse_reverse]
  exact (List.dropWhile_sublist _).trans (List.reverse_sublist.mpr (List.dropWhile_sublist _))

end Text

namespace Names

/-- A name that fits the field of a client. -/
structure Storable (n : String) : Prop where
  chars : n.toList.length ≤ NAME_MAX_CHARS
  bytes : Text.byte_len n ≤ NAME_MAX_BYTES
  plain : ∀ c ∈ n.toList, Text.is_control c = false

instance (n : String) : Decidable (Storable n) :=
  -- The test runs over the characters of the name, not over all characters.
  decidable_of_iff (n.toList.length ≤ NAME_MAX_CHARS ∧ Text.byte_len n ≤ NAME_MAX_BYTES ∧
      n.toList.all fun c => Text.is_control c = false)
    ⟨fun ⟨a, b, c⟩ => ⟨a, b, by simpa using c⟩, fun ⟨a, b, c⟩ => ⟨a, b, by simpa using c⟩⟩

/-- What is left of a name when characters are taken out. -/
lemma Storable.sublist {n : String} {cs : List Char} (h : Storable n) (sub : cs.Sublist n.toList) :
    Storable (String.ofList cs) where
  chars := by
    rw [String.toList_ofList]
    exact sub.length_le.trans h.chars
  bytes := by
    rw [Text.byte_len_ofList]
    exact (Text.bytes_sublist sub).trans (Text.byte_len_eq n ▸ h.bytes)
  plain := by
    intro c hc
    rw [String.toList_ofList] at hc
    exact h.plain c (sub.subset hc)

lemma Storable.trim {n} (h : Storable n) : Storable (Text.trim n) :=
  h.sublist (Text.trimChars_sublist _)

lemma fit_sublist (budget : Nat) (cs : List Char) : (fit budget cs).Sublist cs := by
  induction cs generalizing budget with
  | nil => exact .slnil
  | cons c cs ih =>
    simp only [fit]
    split
    · exact (ih _).cons_cons c
    · exact List.nil_sublist _

/-- What is kept fits the budget. -/
lemma fit_bytes (budget : Nat) (cs : List Char) : Text.bytes (fit budget cs) ≤ budget := by
  induction cs generalizing budget with
  | nil => exact Nat.zero_le _
  | cons c cs ih =>
    simp only [fit]
    split
    · have rest := ih (budget - c.utf8Size)
      simp only [Text.bytes, List.map_cons, List.sum_cons] at rest ⊢
      omega
    · exact Nat.zero_le _

/-- The hygiene cuts a name to its size. -/
lemma sanitize_storable {s n} (h : sanitize s = some n) : Storable n := by
  obtain ⟨t, -, ht⟩ := Option.bind_eq_some_iff.mp h
  dsimp only at ht
  split_ifs at ht
  cases ht
  have cut := Text.trimChars_sublist
    (fit NAME_MAX_BYTES ((t.toList.filter (!Text.is_control ·)).take NAME_MAX_CHARS))
  have kept := cut.trans (fit_sublist _ _)
  constructor
  · rw [String.toList_ofList]
    exact kept.length_le.trans (List.length_take_le _ _)
  · rw [Text.byte_len_ofList]
    exact (Text.bytes_sublist cut).trans (fit_bytes _ _)
  · intro c hc
    rw [String.toList_ofList] at hc
    have shown := (List.mem_filter.mp (List.mem_of_mem_take (kept.subset hc))).2
    simpa using shown

/-- What fits the budget is kept. -/
lemma fit_of_bytes_le {budget : Nat} {cs : List Char} (h : Text.bytes cs ≤ budget) :
    fit budget cs = cs := by
  induction cs generalizing budget with
  | nil => rfl
  | cons c cs ih =>
    simp only [Text.bytes, List.map_cons, List.sum_cons] at h ih
    rw [fit, if_pos (by omega), ih (by omega)]

/-- The hygiene leaves a name alone iff it fits, is trimmed and is not empty. -/
lemma sanitize_self_iff {n : String} :
    sanitize (some n) = some n ↔ Storable n ∧ Text.Trimmed n.toList ∧ n ≠ "" := by
  constructor
  · intro h
    refine ⟨sanitize_storable h, ?_⟩
    unfold sanitize at h
    rw [Option.bind_some] at h
    dsimp only at h
    split_ifs at h with empty
    have out := congrArg String.toList (Option.some.inj h)
    rw [String.toList_ofList] at out
    refine ⟨out ▸ Text.trimChars_trimmed _, fun e => empty ?_⟩
    rw [out, e]
    rfl
  · rintro ⟨fits, trimmed, full⟩
    have shown : n.toList.filter (!Text.is_control ·) = n.toList :=
      List.filter_eq_self.mpr fun c hc => by simpa using fits.plain c hc
    have short : n.toList.take NAME_MAX_CHARS = n.toList := List.take_of_length_le fits.chars
    have kept : fit NAME_MAX_BYTES n.toList = n.toList :=
      fit_of_bytes_le (Text.byte_len_eq n ▸ fits.bytes)
    have some_char : n.toList ≠ [] := fun e => full (String.toList_eq_nil_iff.mp e)
    unfold sanitize
    rw [Option.bind_some]
    dsimp only
    rw [shown, short, kept, Text.trimChars_of_trimmed trimmed, if_neg some_char, String.ofList_toList]

lemma acceptable_storable {apply s n} (h : acceptable apply s = some n) : Storable n := by
  obtain ⟨m, hm, hn⟩ := Option.bind_eq_some_iff.mp h
  split_ifs at hn
  cases hn
  exact sanitize_storable hm

/-- A name before a printable tail: only the sizes count. -/
lemma storable_append_iff {n t : String} (h : Storable n)
    (shown : ∀ c ∈ t.toList, Text.printable c) :
    Storable (n ++ t) ↔ n.toList.length + t.toList.length ≤ NAME_MAX_CHARS ∧
      Text.byte_len n + t.toList.length ≤ NAME_MAX_BYTES := by
  have tail : Text.byte_len (n ++ t) = Text.byte_len n + t.toList.length := by
    rw [← Text.bytes_printable shown, ← Text.byte_len_eq]
    exact String.utf8ByteSize_append
  constructor
  · rintro ⟨chars, bytes, -⟩
    rw [String.toList_append, List.length_append] at chars
    exact ⟨chars, tail ▸ bytes⟩
  · rintro ⟨chars, bytes⟩
    refine ⟨?_, tail.symm ▸ bytes, ?_⟩
    · rw [String.toList_append, List.length_append]
      exact chars
    · intro c hc
      rw [String.toList_append] at hc
      rcases List.mem_append.mp hc with hc | hc
      · exact h.plain c hc
      · exact (Text.printable_size (shown c hc)).2

end Names

namespace Identity

open Names

/-- A snowflake is a decimal number. -/
def Snowflake (id : String) : Prop := ∀ c ∈ id.toList, c.isDigit

lemma digit_printable {c : Char} (h : c.isDigit) : Text.printable c := by
  simp only [Char.isDigit, Bool.and_eq_true, decide_eq_true_eq] at h
  simp only [Text.printable, Bool.and_eq_true, decide_eq_true_eq]
  have low : 48 ≤ c.toNat := h.1
  have high : c.toNat ≤ 57 := h.2
  omega

/-- A new account has a handle of that size. -/
lemma default_handle_storable {apply p} (snowflake : Snowflake p.id) :
    Storable (default_handle_for apply p) := by
  unfold default_handle_for
  split
  · rename_i n hn
    exact acceptable_storable hn
  · split
    · rename_i n hn
      exact acceptable_storable hn
    · have base : Storable "Player-" := by decide
      refine (storable_append_iff base ?_).mpr ?_
      · intro c hc
        rw [String.toList_ofList] at hc
        have last := List.mem_of_mem_take (List.mem_reverse.mp hc)
        exact digit_printable (snowflake c (List.mem_reverse.mp last))
      · have four : (String.ofList (p.id.toList.reverse.take 4).reverse).toList.length ≤ 4 := by
          rw [String.toList_ofList, List.length_reverse]
          exact List.length_take_le _ _
        have chars : "Player-".toList.length = 7 := by decide
        have bytes : Text.byte_len "Player-" = 7 := by decide
        rw [chars, bytes]
        unfold NAME_MAX_CHARS NAME_MAX_BYTES
        omega

/-- A write keeps the stored handle to its size. -/
lemma HandleWrite.run_storable {apply stored h} {x : HandleWrite}
    (old : ∀ h, stored = some h → Storable h) (snowflake : ∀ p, x = link p → Snowflake p.id)
    (new : x.run apply stored = some h) : Storable h := by
  cases x with
  | link p =>
    simp only [HandleWrite.run, link_discord] at new
    split at new
    · rename_i k hk
      cases new
      exact old _ (Text.nonempty_eq_some.mp hk).1
    · cases new
      exact default_handle_storable (snowflake p rfl)
  | set requested =>
    rcases Option.or_eq_some_iff.mp new with fresh | ⟨-, kept⟩
    · exact acceptable_storable fresh
    · exact old h kept

/-- Whatever was written to an account before, the handle it is loaded with has that size. -/
theorem load_player_storable {apply : String → String} {writes : List HandleWrite} {h : String}
    (snowflakes : ∀ p, .link p ∈ writes → Snowflake p.id)
    (loaded : load_player (writes.foldl (HandleWrite.run apply) none) = some h) : Storable h := by
  have all : ∀ stored : Option String, (∀ h, stored = some h → Storable h) →
      ∀ h, writes.foldl (HandleWrite.run apply) stored = some h → Storable h := by
    clear loaded
    induction writes with
    | nil => exact fun _ old => old
    | cons w ws ih =>
      intro stored old
      apply ih fun p hp => snowflakes p (List.mem_cons_of_mem _ hp)
      intro h new
      apply HandleWrite.run_storable old _ new
      rintro p rfl
      exact snowflakes p List.mem_cons_self
  exact all none (fun _ e => by cases e) h (Text.nonempty_eq_some.mp loaded).1

end Identity

end RecompNet
