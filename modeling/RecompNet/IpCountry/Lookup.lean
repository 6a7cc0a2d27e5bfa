import RecompNet.IpCountry.Generate

/-!
# The country table

The lookup in the table that is compiled into the server (`ip_country.rs`). What the generator
writes is read back entry by entry; and an address gets a country if a range of the country is
around it and no range of another country follows that in the table's order before the address.
-/

namespace RecompNet.IpCountry

open Ranges Bytes

def HDR : Nat := 8 + 4 + 4 + 2
def V4_ENTRY : Nat := 4 + 4 + 2
def V6_ENTRY : Nat := 8 + 8 + 2

/-- The parts of the table, as bytes, and how many ranges there are. -/
structure Table where
  codes : List Nat
  v4 : List Nat
  v6 : List Nat
  v4_count : Nat
  v6_count : Nat

def u16le (b : List Nat) (o : Nat) : Nat := read 2 b o
def u32le (b : List Nat) (o : Nat) : Nat := read 4 b o
def u64le (b : List Nat) (o : Nat) : Nat := read 8 b o

/-- Read the header. -/
def table (blob : List Nat) : Option Table :=
  if blob.length < HDR ∨ blob.take 8 ≠ MAGIC then none
  else
    let v4_count := u32le blob 8
    let v6_count := u32le blob 12
    let cc_count := u16le blob 16
    let codes_end := HDR + cc_count * 2
    let v4_end := codes_end + v4_count * V4_ENTRY
    let v6_end := v4_end + v6_count * V6_ENTRY
    if blob.length < v6_end then none
    else some {
      codes := (blob.take codes_end).drop HDR
      v4 := (blob.take v4_end).drop codes_end
      v6 := (blob.take v6_end).drop v4_end
      v4_count := v4_count
      v6_count := v6_count }

/-- `str::from_utf8` on two bytes. -/
def from_utf8 : List Nat → Option String
  | [a, b] =>
    if a < 128 ∧ b < 128 then some (String.ofList [Char.ofNat a, Char.ofNat b])
    else if 0xC2 ≤ a ∧ a ≤ 0xDF ∧ 0x80 ≤ b ∧ b ≤ 0xBF then
      some (String.ofList [Char.ofNat ((a - 0xC0) * 64 + (b - 0x80))])
    else none
  | _ => none

namespace Table

def code (t : Table) (idx : Nat) : Option String :=
  let o := idx * 2
  if t.codes.length < o + 2 then none
  else (from_utf8 ((t.codes.drop o).take 2)).map fun s => String.ofList (s.toList.map ascii_upper)

/-- The last range whose start is at most the key, then a containment check. The end is exclusive.
-/
def lookup_v4 (t : Table) (key : Nat) : Option String :=
  let lo := bisect (fun mid => u32le t.v4 (mid * V4_ENTRY) ≤ key) 0 t.v4_count
  if lo = 0 then none
  else
    let o := (lo - 1) * V4_ENTRY
    if u32le t.v4 o ≤ key ∧ key < u32le t.v4 (o + 4) then t.code (u16le t.v4 (o + 8)) else none

/-- The same on the top 64 bits of an address. The end is inclusive. -/
def lookup_v6 (t : Table) (key_hi : Nat) : Option String :=
  let lo := bisect (fun mid => u64le t.v6 (mid * V6_ENTRY) ≤ key_hi) 0 t.v6_count
  if lo = 0 then none
  else
    let o := (lo - 1) * V6_ENTRY
    if u64le t.v6 o ≤ key_hi ∧ key_hi ≤ u64le t.v6 (o + 8) then t.code (u16le t.v6 (o + 16))
    else none

end Table

/-- An address, as the source's `lookup` is given it. -/
inductive IpAddr where
  | V4 (a : Nat)
  | V6 (a : Nat)

/-- The country of an address. An IPv4-mapped address is looked up as the IPv4 address it is. -/
def lookup (t : Table) : IpAddr → Option String
  | .V4 a => t.lookup_v4 a
  | .V6 a =>
    if a / 2 ^ 32 = 0xFFFF then t.lookup_v4 (a % 2 ^ 32) else t.lookup_v6 (a / 2 ^ 64)

/-! ## What is written is read back -/

section
variable {v4 v6 : List Delegation} {blob : List Nat}

/-- A country as the generator writes it. -/
def name_bytes (s : String) : List Nat := s.toList.map Char.toNat

/-- A range of IPv4 as the generator writes it. -/
def row_v4 (codes : List String) (d : Delegation) : List Nat :=
  to_le 4 d.start.toNat ++ (to_le 4 d.stop.toNat ++ to_le 2 (codes.idxOf d.tag))

/-- A range of IPv6 as the generator writes it. -/
def row_v6 (codes : List String) (d : Delegation) : List Nat :=
  to_le 8 (d.start / 2 ^ 64).toNat ++
    (to_le 8 ((d.stop - 1) / 2 ^ 64).toNat ++ to_le 2 (codes.idxOf d.tag))

/-- A list is written if every member is. -/
lemma mapM_written {ι : Type*} {f : ι → Option (List Nat)} {g : ι → List Nat} {P : ι → Prop}
    (one : ∀ x r, f x = some r → r = g x ∧ P x) {xs : List ι} {rs : List (List Nat)}
    (all : xs.mapM f = some rs) : rs.flatten = xs.flatMap g ∧ ∀ x ∈ xs, P x := by
  induction xs generalizing rs with
  | nil =>
    cases all
    exact ⟨rfl, nofun⟩
  | cons x xs ih =>
    rw [List.mapM_cons] at all
    obtain ⟨r, hr, all⟩ := Option.bind_eq_some_iff.mp all
    obtain ⟨rs, hrs, all⟩ := Option.bind_eq_some_iff.mp all
    cases all
    obtain ⟨e, here⟩ := one x r hr
    obtain ⟨es, rest⟩ := ih hrs
    refine ⟨?_, List.forall_mem_cons.mpr ⟨here, rest⟩⟩
    rw [List.flatten_cons, List.flatMap_cons, e, es]

lemma pack_written {w : Nat} {n : Int} {r : List Nat} (h : pack w n = some r) :
    r = to_le w n.toNat ∧ 0 ≤ n ∧ n.toNat < 256 ^ w := by
  unfold pack at h
  split_ifs at h with fits
  cases h
  exact ⟨rfl, fits.1, (Int.toNat_lt fits.1).mpr (by exact_mod_cast fits.2)⟩

lemma encode_written {s : String} {r : List Nat} (h : encode_ascii s = some r) :
    r = name_bytes s ∧ ∀ c ∈ s.toList, c.toNat < 128 := by
  unfold encode_ascii at h
  unfold name_bytes
  generalize s.toList = cs at h ⊢
  induction cs generalizing r with
  | nil =>
    cases h
    exact ⟨rfl, nofun⟩
  | cons c cs ih =>
    rw [List.mapM_cons] at h
    obtain ⟨b, hb, h⟩ := Option.bind_eq_some_iff.mp h
    obtain ⟨bs, hbs, h⟩ := Option.bind_eq_some_iff.mp h
    cases h
    split_ifs at hb with small
    cases hb
    obtain ⟨rfl, rest⟩ := ih hbs
    exact ⟨rfl, List.forall_mem_cons.mpr ⟨small, rest⟩⟩

/-- The numbers of a range of IPv4 fit their fields. -/
def FitsV4 (d : Delegation) : Prop :=
  (0 ≤ d.start ∧ d.start.toNat < 256 ^ 4) ∧ 0 ≤ d.stop ∧ d.stop.toNat < 256 ^ 4

/-- And so do those of a range of IPv6. -/
def FitsV6 (d : Delegation) : Prop :=
  (0 ≤ d.start / 2 ^ 64 ∧ (d.start / 2 ^ 64).toNat < 256 ^ 8) ∧
    0 ≤ (d.stop - 1) / 2 ^ 64 ∧ ((d.stop - 1) / 2 ^ 64).toNat < 256 ^ 8

lemma pack_v4_written {codes : List String} {d : Delegation} {r : List Nat}
    (h : pack_v4 codes d = some r) : r = row_v4 codes d ∧ FitsV4 d := by
  unfold pack_v4 at h
  obtain ⟨a, ha, h⟩ := Option.bind_eq_some_iff.mp h
  obtain ⟨b, hb, h⟩ := Option.bind_eq_some_iff.mp h
  obtain ⟨i, hi, h⟩ := Option.bind_eq_some_iff.mp h
  cases h
  obtain ⟨rfl, start⟩ := pack_written ha
  obtain ⟨rfl, stop⟩ := pack_written hb
  obtain ⟨rfl, -⟩ := pack_written hi
  exact ⟨by rw [row_v4, List.append_assoc, Int.toNat_natCast], start, stop⟩

lemma pack_v6_written {codes : List String} {d : Delegation} {r : List Nat}
    (h : pack_v6 codes d = some r) : r = row_v6 codes d ∧ FitsV6 d := by
  unfold pack_v6 at h
  obtain ⟨a, ha, h⟩ := Option.bind_eq_some_iff.mp h
  obtain ⟨b, hb, h⟩ := Option.bind_eq_some_iff.mp h
  obtain ⟨i, hi, h⟩ := Option.bind_eq_some_iff.mp h
  cases h
  obtain ⟨rfl, start⟩ := pack_written ha
  obtain ⟨rfl, stop⟩ := pack_written hb
  obtain ⟨rfl, -⟩ := pack_written hi
  exact ⟨by rw [row_v6, List.append_assoc, Int.toNat_natCast], start, stop⟩

/-- The table that is written, and what is known of the lists when it is. -/
structure Written (v4 v6 : List Delegation) (codes : List String) (blob : List Nat) : Prop where
  bytes : blob = MAGIC ++ (to_le 4 v4.length ++ (to_le 4 v6.length ++ (to_le 2 codes.length ++
    (codes.flatMap name_bytes ++ (v4.flatMap (row_v4 codes) ++ v6.flatMap (row_v6 codes))))))
  few : codes.length < 256 ^ 2
  v4_few : v4.length < 256 ^ 4
  v6_few : v6.length < 256 ^ 4
  ascii : ∀ cc ∈ codes, ∀ c ∈ cc.toList, c.toNat < 128
  v4_fits : ∀ d ∈ v4, FitsV4 d
  v6_fits : ∀ d ∈ v6, FitsV6 d

lemma write_written (h : write v4 v6 = some blob) :
    Written (merge v4) (merge v6) (country_codes (merge v4) (merge v6)) blob := by
  unfold write at h
  simp only at h
  generalize merge v4 = v4 at h
  generalize merge v6 = v6 at h
  generalize country_codes v4 v6 = codes at h
  split_ifs at h with many
  · cases h
  obtain ⟨n4, h4, h⟩ := Option.bind_eq_some_iff.mp h
  obtain ⟨n6, h6, h⟩ := Option.bind_eq_some_iff.mp h
  obtain ⟨nc, hc, h⟩ := Option.bind_eq_some_iff.mp h
  obtain ⟨names, hnames, h⟩ := Option.bind_eq_some_iff.mp h
  obtain ⟨rows4, hrows4, h⟩ := Option.bind_eq_some_iff.mp h
  obtain ⟨rows6, hrows6, h⟩ := Option.bind_eq_some_iff.mp h
  cases h
  obtain ⟨rfl, -, v4_few⟩ := pack_written h4
  obtain ⟨rfl, -, v6_few⟩ := pack_written h6
  obtain ⟨rfl, -, few⟩ := pack_written hc
  obtain ⟨e, ascii⟩ := mapM_written (fun _ _ => encode_written) hnames
  obtain ⟨e4, v4_fits⟩ := mapM_written (fun _ _ => pack_v4_written) hrows4
  obtain ⟨e6, v6_fits⟩ := mapM_written (fun _ _ => pack_v6_written) hrows6
  simp only [Int.toNat_natCast] at v4_few v6_few few ⊢
  exact ⟨by rw [e, e4, e6]; simp only [List.append_assoc], few, v4_few, v6_few, ascii, v4_fits,
    v6_fits⟩

/-- The table as it is read back. -/
def read_back (v4 v6 : List Delegation) (codes : List String) : Table where
  codes := codes.flatMap name_bytes
  v4 := v4.flatMap (row_v4 codes)
  v6 := v6.flatMap (row_v6 codes)
  v4_count := v4.length
  v6_count := v6.length

lemma row_v4_length (codes : List String) (d : Delegation) :
    (row_v4 codes d).length = V4_ENTRY := by
  simp [row_v4, V4_ENTRY]

lemma row_v6_length (codes : List String) (d : Delegation) :
    (row_v6 codes d).length = V6_ENTRY := by
  simp [row_v6, V6_ENTRY]

variable {codes : List String}

/-- What is written is a table, with the parts that were written. -/
lemma Written.table (h : Written v4 v6 codes blob)
    (two : ∀ cc ∈ codes, (name_bytes cc).length = 2) : table blob = some (read_back v4 v6 codes) := by
  obtain ⟨rfl, few, v4_few, v6_few, -, -, -⟩ := h
  have names := records_length two
  have rows4 := @records_length _ (row_v4 codes) V4_ENTRY v4 fun d _ => row_v4_length codes d
  have rows6 := @records_length _ (row_v6 codes) V6_ENTRY v6 fun d _ => row_v6_length codes d
  unfold read_back
  generalize codes.flatMap name_bytes = ns at *
  generalize v4.flatMap (row_v4 codes) = r4 at *
  generalize v6.flatMap (row_v6 codes) = r6 at *
  generalize hblob : MAGIC ++ (to_le 4 v4.length ++ (to_le 4 v6.length ++
    (to_le 2 codes.length ++ (ns ++ (r4 ++ r6))))) = blob
  have head : blob = (MAGIC ++ (to_le 4 v4.length ++ (to_le 4 v6.length ++
      to_le 2 codes.length))) ++ (ns ++ (r4 ++ r6)) := by
    rw [← hblob]
    simp only [List.append_assoc]
  have head_length : (MAGIC ++ (to_le 4 v4.length ++ (to_le 4 v6.length ++
      to_le 2 codes.length))).length = HDR := by
    simp [MAGIC, HDR]
  have length : blob.length = HDR + ns.length + r4.length + r6.length := by
    rw [head, List.length_append, head_length, List.length_append, List.length_append]
    omega
  have magic : blob.take 8 = MAGIC := by
    rw [← hblob]
    exact List.take_left' rfl
  -- The three counts stand behind the magic number.
  have count4 : u32le blob 8 = v4.length := by
    rw [← hblob]
    exact (@read_behind 4 0 MAGIC _).trans (read_front v4_few)
  have count6 : u32le blob 12 = v6.length := by
    rw [← hblob]
    refine (@read_behind 4 4 MAGIC _).trans ?_
    have skip := @read_behind 4 0 (to_le 4 v4.length) (to_le 4 v6.length ++
      (to_le 2 codes.length ++ (ns ++ (r4 ++ r6))))
    rw [to_le_length] at skip
    exact skip.trans (read_front v6_few)
  have count_codes : u16le blob 16 = codes.length := by
    rw [← hblob]
    refine (@read_behind 2 8 MAGIC _).trans ?_
    have skip := @read_behind 2 4 (to_le 4 v4.length) (to_le 4 v6.length ++
      (to_le 2 codes.length ++ (ns ++ (r4 ++ r6))))
    have skip' := @read_behind 2 0 (to_le 4 v6.length) (to_le 2 codes.length ++ (ns ++ (r4 ++ r6)))
    rw [to_le_length] at skip skip'
    exact skip.trans (skip'.trans (read_front few))
  -- Behind them the three parts follow each other.
  have codes_slice : (blob.take (HDR + codes.length * 2)).drop HDR = ns := by
    rw [head]
    exact slice head_length (by rw [names])
  have v4_slice : (blob.take (HDR + codes.length * 2 + v4.length * V4_ENTRY)).drop
      (HDR + codes.length * 2) = r4 := by
    rw [head, ← List.append_assoc]
    refine slice ?_ (by rw [rows4])
    rw [List.length_append, head_length, names]
  have v6_slice : (blob.take (HDR + codes.length * 2 + v4.length * V4_ENTRY +
      v6.length * V6_ENTRY)).drop (HDR + codes.length * 2 + v4.length * V4_ENTRY) = r6 := by
    have front : ((MAGIC ++ (to_le 4 v4.length ++ (to_le 4 v6.length ++ to_le 2 codes.length))) ++
        ns ++ r4).length = HDR + codes.length * 2 + v4.length * V4_ENTRY := by
      rw [List.length_append, List.length_append, head_length, names, rows4]
    have part := @slice _ r6 [] _ _ front (congrArg _ rows6)
    rw [List.append_nil] at part
    rw [head, ← List.append_assoc, ← List.append_assoc]
    exact part
  have whole : ¬ blob.length < HDR + codes.length * 2 + v4.length * V4_ENTRY +
      v6.length * V6_ENTRY := by
    rw [length, names, rows4, rows6]
    exact lt_irrefl _
  have long : ¬ (blob.length < HDR ∨ blob.take 8 ≠ MAGIC) := by
    rintro (short | other)
    · omega
    · exact other magic
  simp only [IpCountry.table, if_neg long, count4, count6, count_codes, if_neg whole, codes_slice,
    v4_slice, v6_slice]

/-- A country is read back. -/
lemma Written.code (h : Written v4 v6 codes blob) (two : ∀ cc ∈ codes, (name_bytes cc).length = 2)
    (upper : ∀ cc ∈ codes, ∀ c ∈ cc.toList, ascii_upper c = c) {cc : String} (hcc : cc ∈ codes) :
    (read_back v4 v6 codes).code (codes.idxOf cc) = some cc := by
  have small := List.idxOf_lt_length_of_mem hcc
  have here : codes[codes.idxOf cc]? = some cc := by
    rw [List.getElem?_eq_getElem small, List.getElem_idxOf]
  have room : ¬ (codes.flatMap name_bytes).length < codes.idxOf cc * 2 + 2 := by
    rw [records_length two]
    omega
  have part : ((codes.flatMap name_bytes).drop (codes.idxOf cc * 2)).take 2 = name_bytes cc := by
    rw [drop_record two here]
    exact List.take_left' (two cc hcc)
  have read : from_utf8 (name_bytes cc) = some cc := by
    have ascii := h.ascii cc hcc
    have length := two cc hcc
    unfold name_bytes at length ⊢
    rw [List.length_map] at length
    obtain ⟨a, b, hab⟩ := List.length_eq_two.mp length
    rw [hab] at ascii ⊢
    simp only [List.map_cons, List.map_nil, from_utf8]
    rw [if_pos ⟨ascii a (by simp), ascii b (by simp)⟩, Char.ofNat_toNat, Char.ofNat_toNat, ← hab,
      String.ofList_toList]
  have kept : cc.toList.map ascii_upper = cc.toList :=
    (List.map_congr_left (upper cc hcc)).trans (List.map_id _)
  unfold Table.code read_back
  simp only [if_neg room, part, read, Option.map_some, kept, String.ofList_toList]

/-- A lookup of IPv4 in the table is one in the ranges that were written. -/
lemma Written.lookup_v4 (h : Written v4 v6 codes blob)
    (two : ∀ cc ∈ codes, (name_bytes cc).length = 2)
    (upper : ∀ cc ∈ codes, ∀ c ∈ cc.toList, ascii_upper c = c)
    (known : ∀ d ∈ v4, d.tag ∈ codes) (sorted : v4.Pairwise fun r s => r.start ≤ s.start)
    (key : Nat) : (read_back v4 v6 codes).lookup_v4 key = find v4 (key : Int) := by
  refine @find_bisect _ _ _ v4 (key : Int)
    (fun mid => u32le (read_back v4 v6 codes).v4 (mid * V4_ENTRY) ≤ key)
    (fun mid => u32le (read_back v4 v6 codes).v4 (mid * V4_ENTRY) ≤ key ∧
      key < u32le (read_back v4 v6 codes).v4 (mid * V4_ENTRY + 4)) _
    (fun mid => (read_back v4 v6 codes).code
      (u16le (read_back v4 v6 codes).v4 (mid * V4_ENTRY + 8))) sorted fun i d here => ?_
  have mem := List.mem_of_getElem? here
  obtain ⟨start, stop⟩ := h.v4_fits d mem
  have idx : codes.idxOf d.tag < 256 ^ 2 :=
    (List.idxOf_lt_length_of_mem (known d mem)).trans h.few
  have width : ∀ x ∈ v4, (row_v4 codes x).length = V4_ENTRY := fun x _ => row_v4_length codes x
  have at_row (v o : Nat) := @read_record _ (row_v4 codes) V4_ENTRY v4 width i o v d here
  obtain ⟨first, second, third⟩ := @read_fields 4 ((v4.drop (i + 1)).flatMap (row_v4 codes)) _ _ _
    start.2 stop.2 idx
  have first : u32le (read_back v4 v6 codes).v4 (i * V4_ENTRY) = d.start.toNat :=
    (at_row 4 0).trans first
  have second : u32le (read_back v4 v6 codes).v4 (i * V4_ENTRY + 4) = d.stop.toNat :=
    (at_row 4 4).trans second
  have third : u16le (read_back v4 v6 codes).v4 (i * V4_ENTRY + 8) = codes.idxOf d.tag :=
    (at_row 2 8).trans third
  rw [first, second, third, decide_eq_true_iff]
  refine ⟨Int.toNat_le, ?_, h.code two upper (known d mem)⟩
  unfold Range.Covers
  omega

/-- A range of IPv6 as its top 64 bits are written, with an exclusive end. -/
def top64 (d : Delegation) : Delegation := ⟨d.start / 2 ^ 64, (d.stop - 1) / 2 ^ 64 + 1, d.tag⟩

/-- A lookup of IPv6 in the table is one in the top 64 bits of the ranges that were written. -/
lemma Written.lookup_v6 (h : Written v4 v6 codes blob)
    (two : ∀ cc ∈ codes, (name_bytes cc).length = 2)
    (upper : ∀ cc ∈ codes, ∀ c ∈ cc.toList, ascii_upper c = c)
    (known : ∀ d ∈ v6, d.tag ∈ codes) (sorted : v6.Pairwise fun r s => r.start ≤ s.start)
    (key_hi : Nat) :
    (read_back v4 v6 codes).lookup_v6 key_hi = find (v6.map top64) (key_hi : Int) := by
  have sorted_top : (v6.map top64).Pairwise fun r s => r.start ≤ s.start :=
    List.pairwise_map.mpr (sorted.imp fun le => Int.ediv_le_ediv (by decide) le)
  have count : (v6.map top64).length = v6.length := List.length_map _
  have found := @find_bisect _ _ _ (v6.map top64) (key_hi : Int)
    (fun mid => u64le (read_back v4 v6 codes).v6 (mid * V6_ENTRY) ≤ key_hi)
    (fun mid => u64le (read_back v4 v6 codes).v6 (mid * V6_ENTRY) ≤ key_hi ∧
      key_hi ≤ u64le (read_back v4 v6 codes).v6 (mid * V6_ENTRY + 8)) _
    (fun mid => (read_back v4 v6 codes).code
      (u16le (read_back v4 v6 codes).v6 (mid * V6_ENTRY + 16))) sorted_top fun i r here => ?_
  · rw [count] at found
    exact found
  rw [List.getElem?_map] at here
  obtain ⟨d, at_i, rfl⟩ := Option.map_eq_some_iff.mp here
  have mem := List.mem_of_getElem? at_i
  obtain ⟨start, stop⟩ := h.v6_fits d mem
  have idx : codes.idxOf d.tag < 256 ^ 2 :=
    (List.idxOf_lt_length_of_mem (known d mem)).trans h.few
  have width : ∀ x ∈ v6, (row_v6 codes x).length = V6_ENTRY := fun x _ => row_v6_length codes x
  have at_row (v o : Nat) := @read_record _ (row_v6 codes) V6_ENTRY v6 width i o v d at_i
  obtain ⟨first, second, third⟩ := @read_fields 8 ((v6.drop (i + 1)).flatMap (row_v6 codes)) _ _ _
    start.2 stop.2 idx
  have first : u64le (read_back v4 v6 codes).v6 (i * V6_ENTRY) = (d.start / 2 ^ 64).toNat :=
    (at_row 8 0).trans first
  have second : u64le (read_back v4 v6 codes).v6 (i * V6_ENTRY + 8) =
      ((d.stop - 1) / 2 ^ 64).toNat := (at_row 8 8).trans second
  have third : u16le (read_back v4 v6 codes).v6 (i * V6_ENTRY + 16) = codes.idxOf d.tag :=
    (at_row 2 16).trans third
  rw [first, second, third, decide_eq_true_iff]
  refine ⟨Int.toNat_le, ?_, h.code two upper (known d mem)⟩
  unfold Range.Covers top64
  simp only
  omega

end

/-! ## What the table answers -/

section
variable {ds v4 v6 : List Delegation} {blob : List Nat} {k : Int} {answer : Option String}

/-- A position has an answer if and only if a delegation covers it, and the answer is the country of
one. -/
def Answers (ds : List Delegation) (k : Int) (answer : Option String) : Prop :=
  (answer.isSome ↔ ∃ d ∈ ds, d.Covers k) ∧
    ∀ cc, answer = some cc → ∃ d ∈ ds, d.Covers k ∧ d.tag = cc

/-- If a delegation covers a position, then one does that no delegation of another country follows
in the order of the table before the position. -/
def Unshadowed (ds : List Delegation) (k : Int) : Prop := (∃ d ∈ ds, d.Covers k) →
  ∃ d ∈ ds, d.Covers k ∧ ∀ e ∈ ds, d.rank < e.rank → e.start ≤ k → e.tag = d.tag

/-- A network whose prefix has at most 64 bits. -/
def IsShort (d : Delegation) : Prop :=
  ∃ p ≤ 64, (2 : Int) ^ (128 - p) ∣ d.start ∧ d.stop = d.start + 2 ^ (128 - p)

lemma answers_iff (found : ∀ cc, answer = some cc ↔ ∃ d ∈ ds, d.Covers k ∧ d.tag = cc ∧
    ∀ e ∈ ds, d.rank < e.rank → e.start ≤ k → e.tag = cc) :
    Answers ds k answer ↔ Unshadowed ds k := by
  constructor
  · rintro ⟨some_iff, -⟩ covered
    obtain ⟨cc, hcc⟩ := Option.isSome_iff_exists.mp (some_iff.mpr covered)
    obtain ⟨d, hd, covers, rfl, last⟩ := (found cc).mp hcc
    exact ⟨d, hd, covers, last⟩
  · intro unshadowed
    refine ⟨⟨fun h => ?_, fun covered => ?_⟩, fun cc hcc => ?_⟩
    · obtain ⟨cc, hcc⟩ := Option.isSome_iff_exists.mp h
      obtain ⟨d, hd, covers, -⟩ := (found cc).mp hcc
      exact ⟨d, hd, covers⟩
    · obtain ⟨d, hd, covers, last⟩ := unshadowed covered
      exact Option.isSome_iff_exists.mpr ⟨d.tag, (found _).mpr ⟨d, hd, covers, rfl, last⟩⟩
    · obtain ⟨d, hd, covers, tag, -⟩ := (found cc).mp hcc
      exact ⟨d, hd, covers, tag⟩

/-- A country as `parse` takes it: two characters, in upper case. -/
def IsCountry (cc : String) : Prop := cc.toList.length = 2 ∧ ∀ c ∈ cc.toList, ascii_upper c = c

/-- What `parse` takes has a country. -/
lemma parse_country {py : Python} {files : List (List String)}
    (parsed : parse py files = some (v4, v6)) :
    (∀ d ∈ v4, IsCountry d.tag) ∧ ∀ d ∈ v6, IsCountry d.tag := by
  have one : ∀ line d, parse_line py line = .v4 d ∨ parse_line py line = .v6 d →
      IsCountry d.tag := by
    intro line d h
    unfold parse_line at h
    split at h
    · simp only at h
      split_ifs at h with none status bad v4 v6
      all_goals first
        | (rcases h with h | h <;> cases h)
        | skip
      all_goals
        rw [not_or, not_not] at bad
        split at h
        · rcases h with h | h
          all_goals cases h
          exact ⟨bad.1, py.upper_ascii _⟩
        · rcases h with h | h <;> cases h
    · rcases h with h | h <;> cases h
  unfold parse at parsed
  split_ifs at parsed
  cases parsed
  constructor
  · intro d hd
    obtain ⟨e, he, hd⟩ := List.mem_filterMap.mp hd
    obtain ⟨line, -, rfl⟩ := List.mem_map.mp he
    split at hd
    · rename_i d' h
      cases hd
      exact one line d (.inl h)
    · cases hd
  · intro d hd
    obtain ⟨e, he, hd⟩ := List.mem_filterMap.mp hd
    obtain ⟨line, -, rfl⟩ := List.mem_map.mp he
    split at hd
    · rename_i d' h
      cases hd
      exact one line d (.inr h)
    · cases hd

/-- The table that is written is read, and an address is looked up in what the generator merged. -/
lemma written_lookups (two4 : ∀ d ∈ v4, IsCountry d.tag) (two6 : ∀ d ∈ v6, IsCountry d.tag)
    (written : write v4 v6 = some blob) : ∃ t, table blob = some t ∧
      (∀ key : Nat, t.lookup_v4 key = find (merge v4) (key : Int)) ∧
      ∀ key_hi : Nat, t.lookup_v6 key_hi = find ((merge v6).map top64) (key_hi : Int) := by
  have w := write_written written
  have countries : ∀ cc ∈ country_codes (merge v4) (merge v6), IsCountry cc := by
    intro cc hcc
    unfold country_codes at hcc
    rw [List.mem_insertionSort, List.mem_dedup, List.mem_append] at hcc
    rcases hcc with hcc | hcc
    · obtain ⟨r, hr, rfl⟩ := List.mem_map.mp hcc
      obtain ⟨⟨a, ha, -, tag⟩, -⟩ := merge_ends hr
      exact tag ▸ two4 a ha
    · obtain ⟨r, hr, rfl⟩ := List.mem_map.mp hcc
      obtain ⟨⟨a, ha, -, tag⟩, -⟩ := merge_ends hr
      exact tag ▸ two6 a ha
  have two : ∀ cc ∈ country_codes (merge v4) (merge v6), (name_bytes cc).length = 2 :=
    fun cc hcc => (List.length_map _).trans (countries cc hcc).1
  have upper := fun cc hcc => (countries cc hcc).2
  have known : ∀ d, d ∈ merge v4 ∨ d ∈ merge v6 → d.tag ∈ country_codes (merge v4) (merge v6) := by
    intro d hd
    unfold country_codes
    rw [List.mem_insertionSort, List.mem_dedup, List.mem_append]
    exact hd.imp List.mem_map_of_mem List.mem_map_of_mem
  refine ⟨_, w.table two, fun key => ?_, fun key_hi => ?_⟩
  · exact w.lookup_v4 two upper (fun d hd => known d (.inl hd)) (merge_sorted v4) key
  · exact w.lookup_v6 two upper (fun d hd => known d (.inr hd)) (merge_sorted v6) key_hi

/-- On the top 64 bits a short network covers an address if and only if it covers all that share
them. -/
lemma short_top64 {d : Delegation} (short : 2 ^ 64 ∣ d.start ∧ 2 ^ 64 ∣ d.stop) (a : Int) :
    ((top64 d).start ≤ a / 2 ^ 64 ↔ d.start ≤ a) ∧ (a / 2 ^ 64 < (top64 d).stop ↔ a < d.stop) := by
  obtain ⟨⟨m, hm⟩, n, hn⟩ := short
  unfold top64
  simp only [hm, hn]
  omega

/-- A short network starts and ends at a multiple of `2 ^ 64`. -/
lemma IsShort.multiples {d : Delegation} (h : IsShort d) :
    (2 : Int) ^ 64 ∣ d.start ∧ 2 ^ 64 ∣ d.stop := by
  obtain ⟨p, le, start, stop⟩ := h
  have block : (2 : Int) ^ 64 ∣ 2 ^ (128 - p) := pow_dvd_pow 2 (by omega)
  rw [stop]
  exact ⟨block.trans start, Int.dvd_add (block.trans start) block⟩

/-- For the delegations that `parse` takes from any files, if the generator writes a table then the
server reads it; and an address of IPv4 has the answer that the delegations give if and only if no
delegation of another country shadows the ones that cover it; and so has one of IPv6, looked up by
its top 64 bits, if every delegation is a network of at most 64 bits.
-/
theorem country_lookup {py : Python} {files : List (List String)}
    (parsed : parse py files = some (v4, v6)) (written : write v4 v6 = some blob) :
    ∃ t, table blob = some t ∧
      (∀ key : Nat, Answers v4 key (t.lookup_v4 key) ↔ Unshadowed v4 key) ∧
      ((∀ d ∈ v6, IsShort d) → ∀ a : Nat,
        Answers v6 a (t.lookup_v6 (a / 2 ^ 64)) ↔ Unshadowed v6 a) := by
  obtain ⟨two4, two6⟩ := parse_country parsed
  obtain ⟨t, read, look4, look6⟩ := written_lookups two4 two6 written
  refine ⟨t, read, fun key => answers_iff fun cc => ?_, fun short a => answers_iff fun cc => ?_⟩
  · rw [look4]
    exact find_merge
  · have mapped : find ((merge v6).map top64) ((a / 2 ^ 64 : Nat) : Int) =
        find (merge v6) (a : Int) := by
      refine find_map fun r hr => ?_
      obtain ⟨⟨b, hb, start, -⟩, e, he, stop⟩ := merge_ends hr
      have ends : (2 : Int) ^ 64 ∣ r.start ∧ 2 ^ 64 ∣ r.stop := by
        rw [start, stop]
        exact ⟨(short b hb).multiples.1, (short e he).multiples.2⟩
      have covers := short_top64 ends a
      rw [Int.natCast_ediv]
      exact ⟨covers.1, covers.2, rfl⟩
    rw [look6, mapped]
    exact find_merge

end

/-! ## A range inside another -/

lemma ascii_upper_idem (c : Char) : ascii_upper (ascii_upper c) = ascii_upper c := by
  unfold ascii_upper
  by_cases lower : (97 ≤ c.toNat && c.toNat ≤ 122) = true
  · have letters : ∀ n < 26, (97 ≤ (Char.ofNat (65 + n)).toNat &&
        (Char.ofNat (65 + n)).toNat ≤ 122) = false := by decide
    simp only [Bool.and_eq_true, decide_eq_true_eq] at lower
    have h := letters (c.toNat - 97) (by omega)
    have shift : 65 + (c.toNat - 97) = c.toNat - 32 := by omega
    rw [shift] at h
    simp only [Bool.and_eq_true, decide_eq_true_eq, lower, and_self, if_true, h, Bool.false_eq_true,
      if_false]
  · simp [lower]

/-- Python's library on the lines of the example. -/
def pythonExample : Python where
  upper s := String.ofList (s.toList.map ascii_upper)
  isalpha s := s.toList.all fun c =>
    (65 ≤ c.toNat && c.toNat ≤ 90) || (97 ≤ c.toNat && c.toNat ≤ 122)
  ipv4 s := [("0.0.0.0", 0), ("0.0.0.10", 10)].lookup s
  int s := [("100", 100), ("10", 10)].lookup s
  ipv6 s := [("2600::/24", (0x2600 * 2 ^ 112, 0x2600 * 2 ^ 112 + 2 ^ 104 - 1)),
    ("2607:f8b0::/32", (0x2607f8b0 * 2 ^ 96, 0x2607f8b0 * 2 ^ 96 + 2 ^ 96 - 1))].lookup s
  upper_ascii s c hc := by
    rw [String.toList_ofList] at hc
    obtain ⟨d, -, rfl⟩ := List.mem_map.mp hc
    exact ascii_upper_idem d

/-- A file with a range of one country and one inside it of another. -/
def nestedFile : List String :=
  ["arin|US|ipv4|0.0.0.0|100|20200101|allocated", "arin|CA|ipv4|0.0.0.10|10|20200101|allocated"]

def nestedRanges : List Delegation := [⟨0, 100, "US"⟩, ⟨10, 20, "CA"⟩]

/-- A file with a network of each country. -/
def networksFile : List String :=
  ["arin|US|ipv6|2600::|24|20200101|allocated", "arin|ca|ipv6|2607:f8b0::|32|20200101|assigned"]

def networks : List Delegation :=
  [⟨0x2600 * 2 ^ 112, 0x2600 * 2 ^ 112 + 2 ^ 104, "US"⟩,
   ⟨0x2607f8b0 * 2 ^ 96, 0x2607f8b0 * 2 ^ 96 + 2 ^ 96, "CA"⟩]

lemma nested_parsed :
    parse pythonExample [nestedFile, networksFile] = some (nestedRanges, networks) := by
  decide +kernel

lemma nested_written : (write nestedRanges networks).isSome := by decide +kernel

lemma networks_short : ∀ d ∈ networks, IsShort d := by
  have one : IsShort ⟨0x2600 * 2 ^ 112, 0x2600 * 2 ^ 112 + 2 ^ 104, "US"⟩ :=
    ⟨24, by decide, by decide, by decide⟩
  have two : IsShort ⟨0x2607f8b0 * 2 ^ 96, 0x2607f8b0 * 2 ^ 96 + 2 ^ 96, "CA"⟩ :=
    ⟨32, by decide, by decide, by decide⟩
  intro d hd
  simp only [networks, List.mem_cons, List.not_mem_nil, or_false] at hd
  rcases hd with rfl | rfl
  · exact one
  · exact two

/-- The delegations of the files are answered for where neither of two shadows the other. In front of the
inner range the outer one is found, and an address of either network finds its country. -/
theorem country_lookup_nested :
    ∃ t, table ((write nestedRanges networks).get nested_written) = some t ∧
      (∀ key : Nat, Answers nestedRanges key (t.lookup_v4 key) ↔ Unshadowed nestedRanges key) ∧
      Answers nestedRanges 5 (t.lookup_v4 5) ∧
      ∀ a ∈ ([0x2600 * 2 ^ 112 + 1, 0x2607f8b0 * 2 ^ 96 + 1] : List Nat),
        Answers networks a (t.lookup_v6 (a / 2 ^ 64)) := by
  obtain ⟨t, read, look4, look6⟩ :=
    country_lookup nested_parsed (Option.some_get nested_written).symm
  have before : Unshadowed nestedRanges 5 := by
    unfold Unshadowed
    decide
  have apart : ∀ a ∈ ([0x2600 * 2 ^ 112 + 1, 0x2607f8b0 * 2 ^ 96 + 1] : List Nat),
      Unshadowed networks a := by
    unfold Unshadowed
    decide +kernel
  exact ⟨t, read, look4, (look4 5).mpr before,
    fun a ha => (look6 networks_short a).mpr (apart a ha)⟩

/-- Behind the inner range the outer one is not found. -/
theorem country_lookup_shadowed : ¬ ∀ (py : Python) (files : List (List String))
    (v4 v6 : List Delegation) (blob : List Nat) (t : Table), parse py files = some (v4, v6) →
    write v4 v6 = some blob → table blob = some t →
    ∀ key : Nat, key < 2 ^ 32 → Answers v4 key (t.lookup_v4 key) := by
  intro answers
  obtain ⟨blob, written⟩ := Option.isSome_iff_exists.mp nested_written
  obtain ⟨two4, two6⟩ := parse_country nested_parsed
  obtain ⟨t, read, look4, -⟩ := written_lookups two4 two6 written
  have found := (answers _ _ _ _ _ _ nested_parsed written read 50 (by decide)).1.mpr
    ⟨⟨0, 100, "US"⟩, by decide, by decide⟩
  rw [look4] at found
  revert found
  decide

end RecompNet.IpCountry
