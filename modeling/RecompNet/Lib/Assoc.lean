import Mathlib.Data.List.AList
import Mathlib.Tactic.Common

/-!
# Finite maps

Finite maps over Mathlib's association lists `AList`, with one type of values: the three operations a
mutable map offers beside lookup, insertion and erasure. `modify` rewrites the value under one key in
place, `modifyEach` does so for a list of keys, `retain` drops the entries that fail a test. Each comes
with the one equation on `lookup` that later proofs use; the order of the entries, which an iteration
over the map sees, is kept by all three.
-/

namespace Assoc

universe u v

/-- A finite map whose values all have type `α`, in the order an iteration over it meets them. -/
abbrev Map (κ : Type u) (α : Type v) := AList (fun _ : κ => α)

variable {κ : Type u} {α : Type v} [DecidableEq κ]

/-- The values, in iteration order. -/
def Map.values (m : Map κ α) : List α := m.entries.map (·.2)

/-- The number of entries. -/
def Map.size (m : Map κ α) : Nat := m.entries.length

omit [DecidableEq κ] in
/-- Rewriting values in place leaves the keys as they are. -/
private lemma keys_map_update (l : List (Sigma fun _ : κ => α)) (g : κ → α → α) :
    (l.map fun e => (⟨e.1, g e.1 e.2⟩ : Sigma fun _ : κ => α)).keys = l.keys := by
  simp [List.keys, Function.comp_def]

/-- Rewrite every value by a function of its key. -/
def Map.mapVal (m : Map κ α) (g : κ → α → α) : Map κ α :=
  ⟨m.entries.map fun e => ⟨e.1, g e.1 e.2⟩, by
    have nd := m.nodupKeys
    unfold List.NodupKeys at nd ⊢
    rwa [keys_map_update]⟩

/-- Rewrite the value under `k`, when there is one. -/
def Map.modify (m : Map κ α) (k : κ) (f : α → α) : Map κ α :=
  m.mapVal fun k' a => if k' = k then f a else a

/-- Rewrite the value under each key of `ks`. -/
def Map.modifyEach (m : Map κ α) (ks : List κ) (f : α → α) : Map κ α :=
  m.mapVal fun k' a => if k' ∈ ks then f a else a

/-- Keep the entries that pass the test `p`. -/
def Map.retain (m : Map κ α) (p : κ → α → Bool) : Map κ α :=
  ⟨m.entries.filter fun e => p e.1 e.2, m.nodupKeys.sublist List.filter_sublist⟩

/-- Looking up a rewritten map. -/
@[simp] lemma Map.lookup_mapVal (m : Map κ α) (g : κ → α → α) (k : κ) :
    (m.mapVal g).lookup k = (m.lookup k).map (g k) := by
  obtain ⟨l, nd⟩ := m
  simp only [AList.lookup, Map.mapVal]
  clear nd
  induction l with
  | nil => rfl
  | cons e l ih =>
    obtain ⟨k', a⟩ := e
    by_cases h : k = k'
    · subst h
      simp
    · rw [List.map_cons, List.dlookup_cons_ne _ _ h, List.dlookup_cons_ne _ _ h, ih]

/-- Rewriting one value changes the lookup of that key only. -/
lemma Map.lookup_modify (m : Map κ α) (k k' : κ) (f : α → α) :
    (m.modify k f).lookup k' = if k' = k then (m.lookup k').map f else m.lookup k' := by
  by_cases h : k' = k <;> simp [Map.modify, h]

@[simp] lemma Map.lookup_modify_self (m : Map κ α) (k : κ) (f : α → α) :
    (m.modify k f).lookup k = (m.lookup k).map f := by
  simp [Map.lookup_modify]

lemma Map.lookup_modify_ne {m : Map κ α} {k k' : κ} {f : α → α} (h : k' ≠ k) :
    (m.modify k f).lookup k' = m.lookup k' := by
  simp [Map.lookup_modify, h]

/-- Two rewritings that agree on the value under the key are one. -/
lemma Map.modify_congr {m : Map κ α} {k : κ} {f g : α → α}
    (h : ∀ a, m.lookup k = some a → f a = g a) : m.modify k f = m.modify k g := by
  unfold Map.modify Map.mapVal
  congr 1
  refine List.map_congr_left fun e he => ?_
  by_cases hk : e.1 = k
  · have found : m.lookup k = some e.2 := by
      rw [← hk]
      exact AList.mem_lookup_iff.mpr he
    simp only [if_pos hk, h e.2 found]
  · simp only [if_neg hk]

/-- Rewriting a value to itself. -/
lemma Map.modify_eq_self {m : Map κ α} {k : κ} {f : α → α}
    (h : ∀ a, m.lookup k = some a → f a = a) : m.modify k f = m := by
  have same : m.modify k id = m := by
    cases m
    simp [Map.modify, Map.mapVal]
  exact (Map.modify_congr h).trans same

/-- Rewriting under a list of keys. -/
lemma Map.lookup_modifyEach (m : Map κ α) (ks : List κ) (f : α → α) (k : κ) :
    (m.modifyEach ks f).lookup k = if k ∈ ks then (m.lookup k).map f else m.lookup k := by
  by_cases h : k ∈ ks <;> simp [Map.modifyEach, h]

/-- A value is met by an iteration iff some key looks it up. -/
lemma Map.mem_values {m : Map κ α} {a : α} : a ∈ m.values ↔ ∃ k, m.lookup k = some a := by
  simp only [Map.values, List.mem_map]
  constructor
  · rintro ⟨⟨k, b⟩, he, rfl⟩
    exact ⟨k, AList.mem_lookup_iff.mpr he⟩
  · rintro ⟨k, h⟩
    exact ⟨⟨k, a⟩, AList.mem_lookup_iff.mp h, rfl⟩

/-- A key is present iff it looks something up. -/
lemma Map.mem_iff {m : Map κ α} {k : κ} : k ∈ m ↔ ∃ a, m.lookup k = some a := by
  rw [← AList.lookup_isSome, Option.isSome_iff_exists]

@[simp] lemma Map.mem_modify {m : Map κ α} {k k' : κ} {f : α → α} :
    k' ∈ m.modify k f ↔ k' ∈ m := by
  rw [← AList.lookup_isSome, ← AList.lookup_isSome, Map.lookup_modify]
  split <;> simp

@[simp] lemma Map.mem_modifyEach {m : Map κ α} {ks : List κ} {k' : κ} {f : α → α} :
    k' ∈ m.modifyEach ks f ↔ k' ∈ m := by
  rw [← AList.lookup_isSome, ← AList.lookup_isSome, Map.lookup_modifyEach]
  split <;> simp

/-- An entry survives `retain` exactly when it passes the test. -/
lemma Map.lookup_retain {m : Map κ α} {p : κ → α → Bool} {k : κ} {a : α} :
    (m.retain p).lookup k = some a ↔ m.lookup k = some a ∧ p k a := by
  have h1 : (m.retain p).lookup k = some a ↔ (⟨k, a⟩ : Sigma fun _ : κ => α) ∈
      (m.retain p).entries := AList.mem_lookup_iff
  have h2 : m.lookup k = some a ↔ (⟨k, a⟩ : Sigma fun _ : κ => α) ∈ m.entries :=
    AList.mem_lookup_iff
  rw [h1, h2]
  simp [Map.retain]

omit [DecidableEq κ] in
/-- Two rewritings one after the other. -/
lemma Map.mapVal_mapVal (m : Map κ α) (f g : κ → α → α) :
    (m.mapVal f).mapVal g = m.mapVal fun k a => g k (f k a) := by
  apply AList.ext
  simp only [Map.mapVal, List.map_map, Function.comp_def]

/-- Rewriting values in place leaves it to the key what is dropped. -/
private lemma kerase_map_update (l : List (Sigma fun _ : κ => α)) (f : κ → α → α) (k : κ) :
    (l.map fun e => (⟨e.1, f e.1 e.2⟩ : Sigma fun _ : κ => α)).kerase k =
      (l.kerase k).map fun e => ⟨e.1, f e.1 e.2⟩ := by
  induction l with
  | nil => rfl
  | cons e l ih =>
    obtain ⟨k', a⟩ := e
    by_cases h : k = k'
    · subst h
      simp
    · have ne (b : α) : k ≠ (⟨k', b⟩ : Sigma fun _ : κ => α).1 := h
      rw [List.map_cons, List.kerase_cons_ne (ne a), List.map_cons, ← ih]
      exact List.kerase_cons_ne (ne (f k' a))

lemma Map.mapVal_erase (m : Map κ α) (f : κ → α → α) (k : κ) :
    Map.mapVal (AList.erase k m) f = AList.erase k (m.mapVal f) :=
  AList.ext (kerase_map_update m.entries f k).symm

lemma Map.mapVal_insert (m : Map κ α) (f : κ → α → α) (k : κ) (a : α) :
    Map.mapVal (m.insert k a) f = (m.mapVal f).insert k (f k a) := by
  apply AList.ext
  simp only [Map.mapVal, AList.entries_insert, List.map_cons, kerase_map_update]

omit [DecidableEq κ] in
/-- Rewriting commutes with a test that does not see it. -/
lemma Map.mapVal_retain (m : Map κ α) (f : κ → α → α) (p : κ → α → Bool)
    (h : ∀ k a, p k (f k a) = p k a) : (m.mapVal f).retain p = (m.retain p).mapVal f := by
  apply AList.ext
  simp only [Map.mapVal, Map.retain, List.filter_map, Function.comp_def, h]

end Assoc
