import RecompNet.IpCountry.Lookup

/-!
# The search in the country table

The entries of a table as ranges, whatever bytes they are read from, and what the two binary
searches find in them: what a scan of all entries would, if the entries are in order and apart.
-/

namespace RecompNet.IpCountry

open Ranges Bytes

/-- An entry of a table, with the country it gives. -/
abbrev Row : Type := Range Nat (Option String)

namespace Table

/-- The entries for IPv4. -/
def entries_v4 (t : Table) : List Row :=
  (List.range t.v4_count).map fun i => {
    start := u32le t.v4 (i * V4_ENTRY)
    stop := u32le t.v4 (i * V4_ENTRY + 4)
    tag := t.code (u16le t.v4 (i * V4_ENTRY + 8)) }

/-- The entries for IPv6. What is written as the end is still in the range. -/
def entries_v6 (t : Table) : List Row :=
  (List.range t.v6_count).map fun i => {
    start := u64le t.v6 (i * V6_ENTRY)
    stop := u64le t.v6 (i * V6_ENTRY + 8) + 1
    tag := t.code (u16le t.v6 (i * V6_ENTRY + 16)) }

end Table

section
variable {t : Table} {rs : List Row} {k : Nat} {answer : Option String}

/-- An answer is that of the only entry around a position, or none if there is no such entry; and it
is what a scan of the entries gives. -/
structure Exact (rs : List Row) (k : Nat) (answer : Option String) : Prop where
  inside : ∀ (i : Nat) (r : Row), rs[i]? = some r → r.Covers k →
    answer = r.tag ∧ ∀ (j : Nat) (s : Row), rs[j]? = some s → s.Covers k → j = i
  none_around : (∀ r ∈ rs, ¬ r.Covers k) → answer = none
  scanned : answer = (scan rs k).join

lemma entry_eq {f : Nat → Row} {n i : Nat} {r : Row}
    (here : ((List.range n).map f)[i]? = some r) : r = f i := by
  rw [List.getElem?_map] at here
  obtain ⟨j, hj, rfl⟩ := Option.map_eq_some_iff.mp here
  obtain ⟨small, rfl⟩ := List.getElem?_eq_some_iff.mp hj
  rw [List.getElem_range]

lemma entries_length {f : Nat → Row} {n : Nat} :
    ((List.range n).map f).length = n := by
  rw [List.length_map, List.length_range]

/-- A lookup of IPv4 looks in the last entry that starts at or before the key. -/
lemma lookup_v4_find (sorted : t.entries_v4.Pairwise fun r s => r.start ≤ s.start) :
    t.lookup_v4 k = (find t.entries_v4 k).join := by
  rw [← @find_bisect _ _ _ t.entries_v4 k (fun mid => u32le t.v4 (mid * V4_ENTRY) ≤ k)
    (fun mid => u32le t.v4 (mid * V4_ENTRY) ≤ k ∧ k < u32le t.v4 (mid * V4_ENTRY + 4)) _
    (fun mid => some (t.code (u16le t.v4 (mid * V4_ENTRY + 8)))) sorted fun i r here => ?_]
  · unfold Table.lookup_v4
    rw [Table.entries_v4, entries_length]
    simp only
    split_ifs <;> rfl
  · obtain rfl := entry_eq here
    exact ⟨decide_eq_true_iff, Iff.rfl, rfl⟩

/-- And so does one of IPv6. -/
lemma lookup_v6_find (sorted : t.entries_v6.Pairwise fun r s => r.start ≤ s.start) :
    t.lookup_v6 k = (find t.entries_v6 k).join := by
  rw [← @find_bisect _ _ _ t.entries_v6 k (fun mid => u64le t.v6 (mid * V6_ENTRY) ≤ k)
    (fun mid => u64le t.v6 (mid * V6_ENTRY) ≤ k ∧ k ≤ u64le t.v6 (mid * V6_ENTRY + 8)) _
    (fun mid => some (t.code (u16le t.v6 (mid * V6_ENTRY + 16)))) sorted fun i r here => ?_]
  · unfold Table.lookup_v6
    rw [Table.entries_v6, entries_length]
    simp only
    split_ifs <;> rfl
  · obtain rfl := entry_eq here
    exact ⟨decide_eq_true_iff, and_congr_right' Nat.lt_succ_iff.symm, rfl⟩

/-- What is found in tidy entries is exact. -/
lemma exact_find (tidy : Tidy rs) : Exact rs k (find rs k).join where
  inside i r here covers := by
    refine ⟨?_, fun j s there covers' => tidy.unique here there covers covers'⟩
    rw [tidy.find_covers (List.mem_of_getElem? here) covers, Option.join_some]
  none_around out := by rw [find_none out, Option.join_none]
  scanned := by rw [tidy.find_eq_scan]

end

/-- For every table, if its entries for IPv4 are sorted and disjoint, an empty one lying outside of
those before it, then each lookup of IPv4 gives the country of the only entry around the key, or
nothing if there is none; and so for IPv6. An IPv4-mapped address has the answer of the address of
IPv4 in it.
-/
theorem lookup_exact (t : Table) :
    (Tidy t.entries_v4 → ∀ key, Exact t.entries_v4 key (t.lookup_v4 key)) ∧
    (Tidy t.entries_v6 → ∀ key_hi, Exact t.entries_v6 key_hi (t.lookup_v6 key_hi)) ∧
    ∀ a < 2 ^ 32, lookup t (.V6 (0xFFFF * 2 ^ 32 + a)) = lookup t (.V4 a) := by
  refine ⟨fun tidy key => ?_, fun tidy key_hi => ?_, fun a small => ?_⟩
  · rw [lookup_v4_find tidy.sorted]
    exact exact_find tidy
  · rw [lookup_v6_find tidy.sorted]
    exact exact_find tidy
  · have high : (0xFFFF * 2 ^ 32 + a) / 2 ^ 32 = 0xFFFF := by omega
    have low : (0xFFFF * 2 ^ 32 + a) % 2 ^ 32 = a := by omega
    simp only [lookup, if_pos high, low]

/-- A table of two countries, with two entries of IPv4 and two of IPv6 that touch. -/
def touchingTable : Table where
  codes := [85, 83, 67, 65]
  v4 := to_le 4 10 ++ to_le 4 20 ++ to_le 2 0 ++ (to_le 4 20 ++ to_le 4 30 ++ to_le 2 1)
  v6 := to_le 8 1 ++ to_le 8 1 ++ to_le 2 0 ++ (to_le 8 2 ++ to_le 8 (2 ^ 64 - 1) ++ to_le 2 1)
  v4_count := 2
  v6_count := 2

theorem lookup_exact_touching :
    (∀ key, Exact touchingTable.entries_v4 key (touchingTable.lookup_v4 key)) ∧
    (∀ key_hi, Exact touchingTable.entries_v6 key_hi (touchingTable.lookup_v6 key_hi)) ∧
    lookup touchingTable (.V6 (0xFFFF * 2 ^ 32 + 20)) = lookup touchingTable (.V4 20) := by
  obtain ⟨v4, v6, mapped⟩ := lookup_exact touchingTable
  exact ⟨v4 (tidy_iff.mpr (by decide)), v6 (tidy_iff.mpr (by decide)), mapped 20 (by decide)⟩

/-! ## An empty entry inside another -/

/-- The file of a table with an entry from 10 to before 20 and one from 15 to before 15. -/
def hollowBlob : List Nat :=
  MAGIC ++ to_le 4 2 ++ to_le 4 0 ++ to_le 2 1 ++ [85, 83] ++
    (to_le 4 10 ++ to_le 4 20 ++ to_le 2 0) ++ (to_le 4 15 ++ to_le 4 15 ++ to_le 2 0)

/-- No key is in two entries, and one of the keys in the first is not found. -/
theorem lookup_misses_behind_empty : ¬ ∀ (blob : List Nat) (t : Table), table blob = some t →
    (t.entries_v4.Pairwise fun r s => r.start ≤ s.start) →
    (t.entries_v4.Pairwise fun r s => ∀ k, ¬ (r.Covers k ∧ s.Covers k)) →
    ∀ key < 2 ^ 32, t.lookup_v4 key = (scan t.entries_v4 key).join := by
  intro exact_v4
  have read : (table hollowBlob).isSome := by decide
  obtain ⟨t, ht⟩ := Option.isSome_iff_exists.mp read
  have entries : t.entries_v4 = [⟨10, 20, some "US"⟩, ⟨15, 15, some "US"⟩] := by
    have all : (table hollowBlob).map (·.entries_v4) =
        some [⟨10, 20, some "US"⟩, ⟨15, 15, some "US"⟩] := by decide
    rw [ht] at all
    exact Option.some.inj all
  have sorted : t.entries_v4.Pairwise fun r s => r.start ≤ s.start := by
    rw [entries]
    decide
  have found := exact_v4 hollowBlob t ht sorted ?_ 17 (by decide)
  · rw [lookup_v4_find sorted, entries] at found
    revert found
    decide
  · rw [entries]
    simp only [List.pairwise_cons, List.mem_singleton, forall_eq, List.not_mem_nil, false_imp_iff,
      implies_true, List.Pairwise.nil, and_true, Range.Covers]
    omega

end RecompNet.IpCountry
