import RecompNet.Lib.Bytes
import RecompNet.Lib.Ranges
import Mathlib.Data.List.Dedup
import Mathlib.Data.String.Basic

/-!
# The generator of the country table

`tools/gen_ip_country.py`: it reads the delegation files of the registries, sorts the ranges, joins
those that touch and share a country, and writes the table that the server is built with. What it
calls of Python's library is a parameter.
-/

namespace RecompNet.IpCountry

open Ranges Bytes

/-- A range of addresses and the country it was delegated to; the end is exclusive. -/
abbrev Delegation := Range Int String

/-- `u8::to_ascii_uppercase`, on characters. -/
def ascii_upper (c : Char) : Char :=
  if 97 ≤ c.toNat && c.toNat ≤ 122 then Char.ofNat (c.toNat - 32) else c

/-- What `parse` calls: `str.upper`, `str.isalpha`, `int(ipaddress.IPv4Address(s))`, `int(s)`, and
the first and the last address of `ipaddress.IPv6Network(s, strict=False)`; `none` is a
`ValueError`. -/
structure Python where
  upper : String → String
  isalpha : String → Bool
  ipv4 : String → Option Nat
  int : String → Option Int
  ipv6 : String → Option (Nat × Nat)
  /-- Upper case has no lower case letter of ASCII. -/
  upper_ascii : ∀ s, ∀ c ∈ (upper s).toList, ascii_upper c = c

def MAGIC : List Nat := [0x52, 0x43, 0x47, 0x45, 0x4F, 0x31, 0, 0]

/-- What a line of a delegation file says. -/
inductive Entry where
  | v4 (d : Delegation)
  | v6 (d : Delegation)
  | skipped

/-- `str.split` with a separator of one character. -/
def split_on (sep : Char) : List Char → List (List Char)
  | [] => [[]]
  | c :: cs =>
    match split_on sep cs with
    | [] => []
    | field :: fields => if c = sep then [] :: field :: fields else (c :: field) :: fields

/-- The fields of a line, without its end. -/
def fields (line : String) : List String :=
  (split_on '|' (line.toList.reverse.dropWhile (· = '\n')).reverse).map String.ofList

/-- Read one line of a delegation file: registry, country, type, start, value, date, status and
more. -/
def parse_line (py : Python) (line : String) : Entry :=
  match fields line with
  | _ :: country :: type :: first :: value :: _ :: status :: _ =>
    if country = "*" ∨ country = "" then .skipped
    -- Only ranges actually handed out.
    else if status ≠ "allocated" ∧ status ≠ "assigned" then .skipped
    else
      let cc := py.upper country
      if cc.length ≠ 2 ∨ !py.isalpha cc then .skipped
      else if type = "ipv4" then
        match py.ipv4 first, py.int value with
        | some start, some count => .v4 ⟨start, start + count, cc⟩
        | _, _ => .skipped
      else if type = "ipv6" then
        match py.ipv6 (first ++ "/" ++ value) with
        | some (network_address, broadcast_address) =>
          .v6 ⟨network_address, broadcast_address + 1, cc⟩
        | none => .skipped
      else .skipped
  | _ => .skipped

/-- Read the delegation files, given by their lines; without any the generator exits. -/
def parse (py : Python) (files : List (List String)) : Option (List Delegation × List Delegation) :=
  if files = [] then none
  else
    let entries := files.flatten.map (parse_line py)
    some (entries.filterMap fun e => match e with | .v4 d => some d | _ => none,
      entries.filterMap fun e => match e with | .v6 d => some d | _ => none)

/-- `struct.pack` of one unsigned number; `none` is a `struct.error`. -/
def pack (width : Nat) (n : Int) : Option (List Nat) :=
  if 0 ≤ n ∧ n < 256 ^ width then some (to_le width n.toNat) else none

/-- `str.encode("ascii")`; `none` is a `UnicodeEncodeError`. -/
def encode_ascii (s : String) : Option (List Nat) :=
  s.toList.mapM fun c => if c.toNat < 128 then some c.toNat else none

/-- The countries of two merged lists, sorted. -/
def country_codes (v4 v6 : List Delegation) : List String :=
  (v4.map (·.tag) ++ v6.map (·.tag)).dedup.insertionSort (· ≤ ·)

/-- `struct.pack("<IIH", ..)` of a range of IPv4. -/
def pack_v4 (codes : List String) (d : Delegation) : Option (List Nat) := do
  return (← pack 4 d.start) ++ (← pack 4 d.stop) ++ (← pack 2 (codes.idxOf d.tag))

/-- `struct.pack("<QQH", ..)` of a range of IPv6: the top 64 bits of its first and of its last
address. -/
def pack_v6 (codes : List String) (d : Delegation) : Option (List Nat) := do
  return (← pack 8 (d.start / 2 ^ 64)) ++ (← pack 8 ((d.stop - 1) / 2 ^ 64)) ++
    (← pack 2 (codes.idxOf d.tag))

/-- The table that `main` writes for two lists of delegations; `none` where it stops with an error.
-/
def write (v4 v6 : List Delegation) : Option (List Nat) := do
  let v4 := merge v4
  let v6 := merge v6
  let codes := country_codes v4 v6
  if 0xFFFF < codes.length then none
  let header := (← pack 4 v4.length) ++ (← pack 4 v6.length) ++ (← pack 2 codes.length)
  let names ← codes.mapM encode_ascii
  let rows4 ← v4.mapM (pack_v4 codes)
  let rows6 ← v6.mapM (pack_v6 codes)
  return MAGIC ++ header ++ names.flatten ++ rows4.flatten ++ rows6.flatten

/-- The generator, from its delegation files to the bytes of the table. -/
def main (py : Python) (files : List (List String)) : Option (List Nat) := do
  let (v4, v6) ← parse py files
  write v4 v6

end RecompNet.IpCountry
