import RecompNet.Text

/-!
# Names

The gate every client-supplied name passes through (`names.rs`). The word list is the chat filter's; it
enters as the function `apply` that masks a line.
-/

namespace RecompNet.Names

def NAME_MAX_CHARS : Nat := 32
def NAME_MAX_BYTES : Nat := 63

/-- Keep characters as long as their bytes fit. -/
def fit (budget : Nat) : List Char → List Char
  | [] => []
  | c :: cs => if c.utf8Size ≤ budget then c :: fit (budget - c.utf8Size) cs else []

/-- Drop control characters, cap, trim; `none` when nothing survives. -/
def sanitize (s : Option String) : Option String :=
  s.bind fun s =>
    let cs := (s.toList.filter (!Text.is_control ·)).take NAME_MAX_CHARS
    let out := Text.trimChars (fit NAME_MAX_BYTES cs)
    if out = [] then none else some (String.ofList out)

/-- Does the name trip the word list? -/
def is_refused (apply : String → String) (name : String) : Bool := apply name ≠ name

/-- Hygiene and refusal together. -/
def acceptable (apply : String → String) (s : Option String) : Option String :=
  (sanitize s).bind fun n => if is_refused apply n then none else some n

end RecompNet.Names
