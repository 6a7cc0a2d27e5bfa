import RecompNet.IpCountry.Lookup
import RecompNet.Lib.Faults

/-!
# The country table without faults

The functions of `ip_country.rs` once more, with every sum, product and access to a slice checked as
the program checks it, on words of 64 bits, and the search as a loop. Whatever bytes the table is
made of, they do what `Lookup` says: no access is out of range, and the loop ends.
-/

namespace RecompNet.IpCountry.Checked

open Bytes Faults

/-- The width of `usize`. -/
def USIZE : Nat := 64

def u16le (b : List Nat) (o : Nat) : Except Fault Nat := do
  let b0 ← index b o
  let b1 ← index b (← add USIZE o 1)
  return from_le [b0, b1]

def u32le (b : List Nat) (o : Nat) : Except Fault Nat := do
  let b0 ← index b o
  let b1 ← index b (← add USIZE o 1)
  let b2 ← index b (← add USIZE o 2)
  let b3 ← index b (← add USIZE o 3)
  return from_le [b0, b1, b2, b3]

/-- `copy_from_slice` into eight bytes wants eight. -/
def u64le (b : List Nat) (o : Nat) : Except Fault Nat := do
  let v ← slice b o (← add USIZE o 8)
  if v.length = 8 then return from_le v else throw .index

/-- Read the header. -/
def table (blob : List Nat) : Except Fault (Option Table) := do
  if blob.length < HDR then return none
  else
    let magic ← slice blob 0 8
    if magic ≠ MAGIC then return none
    else
      let v4_count ← u32le blob 8
      let v6_count ← u32le blob 12
      let cc_count ← u16le blob 16
      let codes_end ← add USIZE HDR (← mul USIZE cc_count 2)
      let v4_end ← add USIZE codes_end (← mul USIZE v4_count V4_ENTRY)
      let v6_end ← add USIZE v4_end (← mul USIZE v6_count V6_ENTRY)
      if blob.length < v6_end then return none
      else
        let codes ← slice blob HDR codes_end
        let v4 ← slice blob codes_end v4_end
        let v6 ← slice blob v4_end v6_end
        return some { codes, v4, v6, v4_count, v6_count }

def code (t : Table) (idx : Nat) : Except Fault (Option String) := do
  let o ← mul USIZE idx 2
  let stop ← add USIZE o 2
  if t.codes.length < stop then return none
  else
    let cc ← slice t.codes o stop
    return (from_utf8 cc).map fun s => String.ofList (s.toList.map ascii_upper)

/-- A lookup among entries of two numbers and the index of a country. Those of IPv4 and of IPv6
differ in the width of a number, how it is read and whether the end is in the range. The loop of the
search has some rounds. -/
def lookup_entry (width : Nat) (num : List Nat → Nat → Except Fault Nat)
    (before_end : Nat → Nat → Bool) (entries : List Nat) (count rounds : Nat) (t : Table)
    (key : Nat) : Except Fault (Option String) := do
  let size := width + width + 2
  let starts_before (mid : Nat) : Except Fault Bool := do
    let start ← num entries (← mul USIZE mid size)
    return start ≤ key
  let lo ← search USIZE starts_before rounds 0 count
  if lo = 0 then return none
  else
    let o ← mul USIZE (← sub lo 1) size
    let start ← num entries o
    if start ≤ key then
      let stop ← num entries (← add USIZE o width)
      if before_end key stop then code t (← u16le entries (← add USIZE o (2 * width)))
      else return none
    else return none

def lookup_v4 (rounds : Nat) (t : Table) (key : Nat) : Except Fault (Option String) :=
  lookup_entry 4 u32le (fun key stop => key < stop) t.v4 t.v4_count rounds t key

def lookup_v6 (rounds : Nat) (t : Table) (key_hi : Nat) : Except Fault (Option String) :=
  lookup_entry 8 u64le (fun key stop => key ≤ stop) t.v6 t.v6_count rounds t key_hi

def lookup (rounds : Nat) (t : Table) : IpAddr → Except Fault (Option String)
  | .V4 a => lookup_v4 rounds t a
  | .V6 a =>
    if a / 2 ^ 32 = 0xFFFF then lookup_v4 rounds t (a % 2 ^ 32)
    else lookup_v6 rounds t (a / 2 ^ 64)

section
variable {b : List Nat} {o : Nat}

lemma read_two (inside : o + 1 < b.length) : IpCountry.u16le b o = from_le [b[o], b[o + 1]] := by
  unfold IpCountry.u16le Bytes.read
  rw [List.drop_eq_getElem_cons (by omega), List.drop_eq_getElem_cons inside]
  rfl

lemma read_four (inside : o + 3 < b.length) :
    IpCountry.u32le b o = from_le [b[o], b[o + 1], b[o + 2], b[o + 3]] := by
  unfold IpCountry.u32le Bytes.read
  rw [List.drop_eq_getElem_cons (by omega), List.drop_eq_getElem_cons (by omega),
    List.drop_eq_getElem_cons (by omega), List.drop_eq_getElem_cons inside]
  rfl

lemma u16le_ok (inside : o + 2 ≤ b.length) (small : o + 1 < 2 ^ USIZE) :
    u16le b o = .ok (IpCountry.u16le b o) := by
  rw [u16le, index_ok (by omega), go_on, add_ok small, go_on, index_ok (by omega), go_on,
    read_two (by omega)]
  rfl

lemma u32le_ok (inside : o + 4 ≤ b.length) (small : o + 3 < 2 ^ USIZE) :
    u32le b o = .ok (IpCountry.u32le b o) := by
  rw [u32le, index_ok (by omega), go_on, add_ok (by omega), go_on, index_ok (by omega), go_on,
    add_ok (by omega), go_on, index_ok (by omega), go_on, add_ok small, go_on, index_ok (by omega),
    go_on, read_four (by omega)]
  rfl

lemma u64le_ok (inside : o + 8 ≤ b.length) (small : o + 8 < 2 ^ USIZE) :
    u64le b o = .ok (IpCountry.u64le b o) := by
  have eight : ((b.take (o + 8)).drop o).length = 8 := by
    rw [List.length_drop, List.length_take]
    omega
  rw [u64le, add_ok small, go_on, slice_ok (by omega) inside, go_on, if_pos eight]
  unfold IpCountry.u64le Bytes.read
  rw [List.drop_take, Nat.add_sub_cancel_left]
  rfl

end

section
variable {blob : List Nat} {t : Table} {key rounds : Nat}

/-- What the header says of the parts of a table that is accepted. -/
structure Fits (t : Table) : Prop where
  v4_length : t.v4.length = t.v4_count * V4_ENTRY
  v6_length : t.v6.length = t.v6_count * V6_ENTRY
  v4_few : t.v4_count < 2 ^ 32
  v6_few : t.v6_count < 2 ^ 32
  v4_bytes : ∀ b ∈ t.v4, b < 256
  v6_bytes : ∀ b ∈ t.v6, b < 256

/-- Reading the header meets no fault, and a table that is accepted has the parts that its counts
say. -/
lemma table_ok (bytes : ∀ b ∈ blob, b < 256) : table blob = .ok (IpCountry.table blob) ∧
    ∀ t, IpCountry.table blob = some t → Fits t := by
  unfold table IpCountry.table
  by_cases short : blob.length < HDR
  · rw [if_pos short, if_pos (.inl short)]
    exact ⟨rfl, nofun⟩
  · have room : 18 ≤ blob.length := not_lt.mp short
    have front : slice blob 0 8 = .ok (blob.take 8) := slice_ok (by omega) (by omega)
    rw [if_neg short, front, go_on]
    by_cases magic : blob.take 8 ≠ MAGIC
    · rw [if_pos magic, if_pos (.inr magic)]
      exact ⟨rfl, nofun⟩
    · rw [if_neg magic, if_neg (not_or.mpr ⟨short, magic⟩)]
      have count4 : u32le blob 8 = .ok (IpCountry.u32le blob 8) := u32le_ok (by omega) (by decide)
      have count6 : u32le blob 12 = .ok (IpCountry.u32le blob 12) :=
        u32le_ok (by omega) (by decide)
      have countc : u16le blob 16 = .ok (IpCountry.u16le blob 16) :=
        u16le_ok (by omega) (by decide)
      have few4 : IpCountry.u32le blob 8 < 2 ^ 32 := read_lt bytes
      have few6 : IpCountry.u32le blob 12 < 2 ^ 32 := read_lt bytes
      have fewc : IpCountry.u16le blob 16 < 2 ^ 16 := read_lt bytes
      rw [count4, go_on, count6, go_on, countc, go_on]
      generalize IpCountry.u32le blob 8 = n4 at *
      generalize IpCountry.u32le blob 12 = n6 at *
      generalize IpCountry.u16le blob 16 = nc at *
      have word : 2 ^ USIZE = 18446744073709551616 := rfl
      have hdr : HDR = 18 := rfl
      have size4 : n4 * V4_ENTRY = n4 * 10 := rfl
      have size6 : n6 * V6_ENTRY = n6 * 18 := rfl
      rw [mul_ok (by omega), go_on, add_ok (by omega), go_on, mul_ok (by omega), go_on,
        add_ok (by omega), go_on, mul_ok (by omega), go_on, add_ok (by omega), go_on]
      simp only
      by_cases cut : blob.length < HDR + nc * 2 + n4 * V4_ENTRY + n6 * V6_ENTRY
      · rw [if_pos cut, if_pos cut]
        exact ⟨rfl, nofun⟩
      · rw [if_neg cut, if_neg cut, slice_ok (by omega) (by omega), go_on,
          slice_ok (by omega) (by omega), go_on, slice_ok (by omega) (by omega), go_on]
        refine ⟨rfl, fun t accepted => ?_⟩
        cases accepted
        constructor
        · simp only [List.length_drop, List.length_take]
          omega
        · simp only [List.length_drop, List.length_take]
          omega
        · exact few4
        · exact few6
        · exact fun x hx => bytes x (List.mem_of_mem_take (List.mem_of_mem_drop hx))
        · exact fun x hx => bytes x (List.mem_of_mem_take (List.mem_of_mem_drop hx))

/-- Any index of a country that fits two bytes is looked up. -/
lemma code_ok {idx : Nat} (small : idx < 2 ^ 16) : code t idx = .ok (t.code idx) := by
  have double : mul USIZE idx 2 = .ok (idx * 2) := mul_ok (by rw [USIZE]; omega)
  have stop : add USIZE (idx * 2) 2 = .ok (idx * 2 + 2) := add_ok (by rw [USIZE]; omega)
  rw [code, double, go_on, stop, go_on]
  by_cases past : t.codes.length < idx * 2 + 2
  · have none_here : t.code idx = none := if_pos past
    rw [if_pos past, none_here]
    rfl
  · have read_here : t.code idx = (from_utf8 ((t.codes.drop (idx * 2)).take 2)).map fun s =>
        String.ofList (s.toList.map ascii_upper) := if_neg past
    rw [if_neg past, slice_ok (by omega) (by omega), go_on, List.drop_take,
      Nat.add_sub_cancel_left, read_here]
    rfl

/-- A lookup among entries whose numbers are read by `val`. -/
def unchecked_entry (width : Nat) (before_end : Nat → Nat → Bool) (entries : List Nat) (count : Nat)
    (val : Nat → Nat) (t : Table) (key : Nat) : Option String :=
  let size := width + width + 2
  let lo := Ranges.bisect (fun mid => val (mid * size) ≤ key) 0 count
  if lo = 0 then none
  else
    let o := (lo - 1) * size
    if val o ≤ key ∧ before_end key (val (o + width)) then
      t.code (IpCountry.u16le entries (o + 2 * width))
    else none

/-- A lookup among entries that fill their slice meets no fault, whether they are in order or not.
-/
lemma lookup_entry_ok {width count : Nat} {num : List Nat → Nat → Except Fault Nat}
    {before_end : Nat → Nat → Bool} {entries : List Nat} {val : Nat → Nat}
    (reads : ∀ o, o + width ≤ entries.length → o + width < 2 ^ USIZE →
      num entries o = .ok (val o)) (thin : width ≤ 8)
    (length : entries.length = count * (width + width + 2)) (few : count < 2 ^ 32)
    (bytes : ∀ b ∈ entries, b < 256) (enough : 32 < rounds) :
    lookup_entry width num before_end entries count rounds t key =
      .ok (unchecked_entry width before_end entries count val t key) := by
  have word : 2 ^ USIZE = 18446744073709551616 := rfl
  have short : count * (width + width + 2) ≤ 2 ^ 32 * 18 :=
    Nat.mul_le_mul few.le (by omega)
  rw [lookup_entry, unchecked_entry]
  generalize hsize : width + width + 2 = size at *
  have inside {i : Nat} (small : i < count) : i * size + size ≤ entries.length := by
    rw [length, ← Nat.succ_mul]
    exact Nat.mul_le_mul_right size small
  have place {i : Nat} (small : i < count) : mul USIZE i size = .ok (i * size) := by
    have part := inside small
    exact mul_ok (by omega)
  have start {i : Nat} (small : i < count) : num entries (i * size) = .ok (val (i * size)) := by
    have part := inside small
    exact reads _ (by omega) (by omega)
  have found := @search_ok USIZE (fun mid => do
      let start ← num entries (← mul USIZE mid size)
      return decide (start ≤ key)) (fun mid => val (mid * size) ≤ key) 32 rounds 0 count
    (fun mid small => by rw [place small, go_on, start small]; rfl) (by omega) (by omega) enough
  have within := @Ranges.bisect_le (fun mid => val (mid * size) ≤ key) 0 count (Nat.zero_le _)
  simp only
  rw [found, go_on]
  generalize Ranges.bisect _ 0 count = lo at within ⊢
  cases lo with
  | zero => rfl
  | succ i =>
    have part := inside within
    have stop : num entries (i * size + width) = .ok (val (i * size + width)) :=
      reads _ (by omega) (by omega)
    have country : u16le entries (i * size + 2 * width) =
        .ok (IpCountry.u16le entries (i * size + 2 * width)) := u16le_ok (by omega) (by omega)
    have small : IpCountry.u16le entries (i * size + 2 * width) < 2 ^ 16 := read_lt bytes
    have next {d : Nat} (le : d ≤ 16) : add USIZE (i * size) d = .ok (i * size + d) :=
      add_ok (by omega)
    rw [if_neg (Nat.succ_ne_zero i), if_neg (Nat.succ_ne_zero i), sub_ok (Nat.le_add_left 1 i),
      go_on, Nat.add_sub_cancel, place within, go_on, start within, go_on]
    by_cases lower : val (i * size) ≤ key
    · rw [if_pos lower, next (by omega), go_on, stop, go_on]
      by_cases upper : before_end key (val (i * size + width)) = true
      · rw [if_pos upper, if_pos ⟨lower, upper⟩, next (by omega), go_on, country, go_on,
          code_ok small]
      · rw [if_neg upper, if_neg fun h => upper h.2]
        rfl
    · rw [if_neg lower, if_neg fun h => lower h.1]
      rfl

lemma lookup_v4_ok (fits : Fits t) (enough : 32 < rounds) :
    lookup_v4 rounds t key = .ok (t.lookup_v4 key) := by
  have reads : ∀ o, o + 4 ≤ t.v4.length → o + 4 < 2 ^ USIZE →
      u32le t.v4 o = .ok (IpCountry.u32le t.v4 o) := fun o inside small =>
    u32le_ok inside (by omega)
  rw [lookup_v4, lookup_entry_ok reads (by decide) fits.v4_length fits.v4_few fits.v4_bytes enough]
  simp only [unchecked_entry, decide_eq_true_eq]
  rfl

lemma lookup_v6_ok (fits : Fits t) (enough : 32 < rounds) :
    lookup_v6 rounds t key = .ok (t.lookup_v6 key) := by
  have reads : ∀ o, o + 8 ≤ t.v6.length → o + 8 < 2 ^ USIZE →
      u64le t.v6 o = .ok (IpCountry.u64le t.v6 o) := fun o => u64le_ok
  rw [lookup_v6, lookup_entry_ok reads (by decide) fits.v6_length fits.v6_few fits.v6_bytes enough]
  simp only [unchecked_entry, decide_eq_true_eq]
  rfl

end

/-- Whatever bytes the table is read from, reading the header meets no fault; and if the table is
accepted, then neither does a lookup of any address: it has its answer after 33 rounds of the loop
at the most.
-/
theorem lookup_never_faults (blob : List UInt8) :
    table (blob.map UInt8.toNat) = .ok (IpCountry.table (blob.map UInt8.toNat)) ∧
      ∀ t, IpCountry.table (blob.map UInt8.toNat) = some t → ∀ (addr : IpAddr),
        ∀ rounds ≥ 33, lookup rounds t addr = .ok (IpCountry.lookup t addr) := by
  have bytes : ∀ b ∈ blob.map UInt8.toNat, b < 256 := by
    intro b hb
    obtain ⟨x, -, rfl⟩ := List.mem_map.mp hb
    exact x.toNat_lt
  obtain ⟨header, parts⟩ := table_ok bytes
  refine ⟨header, fun t accepted addr rounds enough => ?_⟩
  have fits := parts t accepted
  cases addr with
  | V4 a => exact lookup_v4_ok fits enough
  | V6 a =>
    by_cases mapped : a / 2 ^ 32 = 0xFFFF
    · simp only [lookup, IpCountry.lookup, if_pos mapped]
      exact lookup_v4_ok fits enough
    · simp only [lookup, IpCountry.lookup, if_neg mapped]
      exact lookup_v6_ok fits enough

/-- A table whose entries are out of order and name countries that it does not have. -/
def wildBlob : List UInt8 :=
  [82, 67, 71, 69, 79, 49, 0, 0, 2, 0, 0, 0, 0, 0, 0, 0, 0, 0,
    9, 0, 0, 0, 255, 0, 0, 0, 255, 255, 1, 0, 0, 0, 3, 0, 0, 0, 7, 0]

theorem lookup_never_faults_wild : ∃ t, IpCountry.table (wildBlob.map UInt8.toNat) = some t ∧
    ∀ addr : IpAddr, lookup 33 t addr = .ok (IpCountry.lookup t addr) := by
  have accepted : (IpCountry.table (wildBlob.map UInt8.toNat)).isSome := by decide
  obtain ⟨t, ht⟩ := Option.isSome_iff_exists.mp accepted
  exact ⟨t, ht, fun addr => (lookup_never_faults wildBlob).2 t ht addr 33 le_rfl⟩

end RecompNet.IpCountry.Checked
