import RecompNet.Text
import Mathlib.Algebra.Group.Nat.Defs

/-!
# JSON values

`serde_json::Value` as the server uses it. An object is the list of its fields in the order of a
`BTreeMap`, by key; a number is an unsigned or a signed integer or a float, of which only the text it
prints as is kept. `Value.to_string` is the compact printer, whose byte length the size limits read.
-/

namespace RecompNet

/-- `serde_json::Number`. -/
inductive Number where
  | posInt (n : Nat)
  | negInt (n : Int)
  | float (text : String)
  deriving DecidableEq

/-- `serde_json::Value`. -/
inductive Value where
  | null
  | bool (b : Bool)
  | number (n : Number)
  | string (s : String)
  | array (xs : List Value)
  | object (fields : List (String × Value))

namespace Value

/-- `Value::is_object`. -/
def is_object : Value → Bool
  | .object _ => true
  | _ => false

/-- `Value::is_null`. -/
def is_null : Value → Bool
  | .null => true
  | _ => false

/-- `Value::get` with a string key. -/
def get (v : Value) (key : String) : Option Value :=
  match v with
  | .object fs => fs.lookup key
  | _ => none

/-- `Value::as_str`. -/
def as_str : Value → Option String
  | .string s => some s
  | _ => none

/-- `Value::as_bool`. -/
def as_bool : Value → Option Bool
  | .bool b => some b
  | _ => none

/-- `Value::as_array`. -/
def as_array : Value → Option (List Value)
  | .array xs => some xs
  | _ => none

/-- `Value::as_u64`. -/
def as_u64 : Value → Option Nat
  | .number (.posInt n) => some n
  | _ => none

/-- `Value::as_i64`. -/
def as_i64 : Value → Option Int
  | .number (.posInt n) => if n < 2 ^ 63 then some n else none
  | .number (.negInt n) => some n
  | _ => none

/-- `BTreeMap::insert` on the fields of an object: in key order, replacing an equal key. -/
def insertField (key : String) (v : Value) : List (String × Value) → List (String × Value)
  | [] => [(key, v)]
  | (k, u) :: fs =>
    if key = k then (key, v) :: fs
    else if key < k then (key, v) :: (k, u) :: fs
    else (k, u) :: insertField key v fs

/-- `o.insert(key, v)` on a value that may be an object. -/
def insert (o : Value) (key : String) (v : Value) : Value :=
  match o with
  | .object fs => .object (insertField key v fs)
  | o => o

/-- The hexadecimal digit of a number below 16. -/
private def hexDigit (n : Nat) : Char :=
  if n < 10 then Char.ofNat (48 + n) else Char.ofNat (87 + n)

/-- How the printer writes one character of a string. -/
def escapeChar (c : Char) : List Char :=
  if c = '"' then ['\\', '"']
  else if c = '\\' then ['\\', '\\']
  else if c.toNat = 8 then ['\\', 'b']
  else if c.toNat = 9 then ['\\', 't']
  else if c.toNat = 10 then ['\\', 'n']
  else if c.toNat = 12 then ['\\', 'f']
  else if c.toNat = 13 then ['\\', 'r']
  else if c.toNat < 32 then
    ['\\', 'u', '0', '0', hexDigit (c.toNat / 16), hexDigit (c.toNat % 16)]
  else [c]

/-- A string with its quotes. -/
def printString (s : String) : List Char := '"' :: s.toList.flatMap escapeChar ++ ['"']

/-- A number. -/
def printNumber : Number → List Char
  | .posInt n => (toString n).toList
  | .negInt n => (toString n).toList
  | .float t => t.toList

mutual

/-- The compact text of a value. -/
def print : Value → List Char
  | .null => "null".toList
  | .bool b => (if b then "true" else "false").toList
  | .number n => printNumber n
  | .string s => printString s
  | .array xs => '[' :: printItems xs ++ [']']
  | .object fs => Char.ofNat 123 :: printFields fs ++ [Char.ofNat 125]

/-- The items of an array, with commas. -/
def printItems : List Value → List Char
  | [] => []
  | [x] => print x
  | x :: y :: xs => print x ++ ',' :: printItems (y :: xs)

/-- The fields of an object, with commas. -/
def printFields : List (String × Value) → List Char
  | [] => []
  | [(k, v)] => printString k ++ ':' :: print v
  | (k, v) :: f :: fs => printString k ++ ':' :: print v ++ ',' :: printFields (f :: fs)

end

/-- `Value::to_string`. -/
def to_string (v : Value) : String := String.ofList v.print

/-- A field just inserted into an object reads back. -/
@[simp] lemma lookup_insertField_self (key : String) (v : Value) (fs : List (String × Value)) :
    (insertField key v fs).lookup key = some v := by
  induction fs with
  | nil => simp [insertField]
  | cons f fs ih =>
    obtain ⟨k, u⟩ := f
    unfold insertField
    split
    · simp
    · rename_i hk
      split
      · simp
      · have hb : (key == k) = false := by simpa using hk
        simp [List.lookup_cons, hb, ih]

/-- Inserting a field leaves the others alone. -/
lemma lookup_insertField_ne {key k : String} (v : Value) (h : k ≠ key) (fs : List (String × Value)) :
    (insertField key v fs).lookup k = fs.lookup k := by
  have hb : (k == key) = false := by simpa using h
  induction fs with
  | nil => simp [insertField, List.lookup_cons, hb]
  | cons f fs ih =>
    obtain ⟨k', u⟩ := f
    unfold insertField
    split
    · rename_i he
      subst he
      simp [List.lookup_cons, hb]
    · split
      · simp [List.lookup_cons, hb]
      · simp [List.lookup_cons, ih]

end Value

end RecompNet
