import RecompNet.Hub.Endpoint

/-!
# The address of a connection behind a proxy

`client_ip_for` with `trust_proxy` takes the first entry of `X-Forwarded-For` for the address that a
connection comes from, and the endpoint rules go by that address. A proxy that appends its TCP peer to
the header it was sent leaves the first entry to the client: two headers attribute a connection to one
address exactly when they `Agree` in what they begin with.
-/

namespace RecompNet

/-- The bytes of a header's value. -/
abbrev HeaderValue := List UInt8

/-- `HeaderValue::to_str`: the text of a value that is visible ASCII, tabs included. -/
def to_str (v : HeaderValue) : Option String :=
  if v.all fun b => (32 ≤ b && b < 127) || b == 9 then
    some (String.ofList (v.map fun b => Char.ofNat b.toNat))
  else none

/-- The client address to attribute a connection to; `addr` is the text of the TCP peer's address.
-/
def client_ip_for (x_forwarded_for : Option HeaderValue) (addr : String) (trust_proxy : Bool) :
    String :=
  if trust_proxy then
    match x_forwarded_for.bind to_str with
    | some fwd =>
      let first := Text.trim ((Text.split fwd ',').headD "")
      if first ≠ "" then first else addr
    | none => addr
  else addr

/-! ## A proxy that appends -/

/-- A byte of the text of an IP address: a hex digit in lower case, a dot or a colon. -/
def isAddressByte (b : UInt8) : Bool :=
  (48 ≤ b && b ≤ 58) || (97 ≤ b && b ≤ 102) || b == 46

/-- The text of an IP address, in bytes. -/
structure AddressText where
  bytes : List UInt8
  valid : bytes.all isAddressByte
  ne : bytes ≠ []

def AddressText.text (a : AddressText) : String :=
  String.ofList (a.bytes.map fun b => Char.ofNat b.toNat)

/-- What an appending proxy makes of the header that its client `a` sent. -/
def forwarded (a : AddressText) : Option HeaderValue → HeaderValue
  | none => a.bytes
  | some v => v ++ [44, 32] ++ a.bytes

/-- What the header of a client begins with: there is none, the first entry is blank or the value no
text, or the first entry says something. -/
inductive FirstEntry where
  | absent
  | blank
  | given (entry : String)

/-- The first entry of a header, read off its bytes. -/
def firstEntry : Option HeaderValue → FirstEntry
  | none => .absent
  | some v =>
    match to_str v with
    | none => .blank
    | some fwd =>
      let first := Text.trim ((Text.split fwd ',').headD "")
      if first = "" then .blank else .given first

/-- Two headers of the client `a` begin alike, where none stands for the client's own address and a
blank one for the proxy's. -/
def Agree (proxy a : AddressText) : FirstEntry → FirstEntry → Prop
  | .absent, .absent | .blank, .blank => True
  | .given x, .given y => x = y
  | .absent, .given x | .given x, .absent => x = a.text
  | .blank, .given x | .given x, .blank => x = proxy.text
  | .absent, .blank | .blank, .absent => a.text = proxy.text

/-! ## What the server reads -/

/-- The first piece of a split is what stands before the first separator. -/
lemma headD_splitChars (sep : Char) (cs : List Char) :
    (Text.splitChars sep cs).headD [] = cs.takeWhile (· ≠ sep) := by
  induction cs with
  | nil => rfl
  | cons c cs ih =>
    by_cases h : c = sep
    · simp [Text.splitChars, h]
    · rw [List.takeWhile_cons_of_pos (by simpa using h), ← ih]
      simp only [Text.splitChars, if_neg h]
      cases Text.splitChars sep cs <;> rfl

lemma headD_split (s : String) (sep : Char) :
    (Text.split s sep).headD "" = String.ofList (s.toList.takeWhile (· ≠ sep)) := by
  rw [← headD_splitChars, Text.split]
  cases Text.splitChars sep s.toList <;> rfl

/-- What follows a comma is no part of the first piece. -/
lemma headD_split_append (fwd more : String) :
    (Text.split (fwd ++ ", " ++ more) ',').headD "" = (Text.split fwd ',').headD "" := by
  rw [headD_split, headD_split]
  congr 1
  simp only [String.toList_append]
  generalize fwd.toList = cs
  induction cs with
  | nil => rfl
  | cons c cs ih =>
    simp only [List.cons_append, List.takeWhile_cons]
    split
    · rw [ih]
    · rfl

namespace AddressText

variable (a : AddressText)

/-- The characters of an address. -/
lemma byte_plain {b : UInt8} (h : isAddressByte b) : (32 ≤ b ∧ b < 127) ∧
    Char.ofNat b.toNat ≠ ',' ∧ Text.is_whitespace (Char.ofNat b.toNat) = false := by
  have all : ∀ n : Fin 256, isAddressByte (UInt8.ofFin n) →
      (32 ≤ UInt8.ofFin n ∧ UInt8.ofFin n < 127) ∧ Char.ofNat (UInt8.ofFin n).toNat ≠ ',' ∧
        Text.is_whitespace (Char.ofNat (UInt8.ofFin n).toNat) = false := by decide +kernel
  exact all b.toFin h

lemma mem_chars {c : Char} (h : c ∈ a.bytes.map fun b => Char.ofNat b.toNat) :
    c ≠ ',' ∧ Text.is_whitespace c = false := by
  obtain ⟨b, hb, rfl⟩ := List.mem_map.mp h
  exact (byte_plain (List.all_eq_true.mp a.valid b hb)).2

lemma text_ne : a.text ≠ "" := by
  intro h
  have chars := congrArg String.toList h
  simp only [text, String.toList_ofList] at chars
  exact a.ne (List.map_eq_nil_iff.mp chars)

/-- The text of an address is readable. -/
lemma to_str_bytes : to_str a.bytes = some a.text := by
  have readable : a.bytes.all fun b => (32 ≤ b && b < 127) || b == 9 := by
    refine List.all_eq_true.mpr fun b hb => ?_
    have plain := (byte_plain (List.all_eq_true.mp a.valid b hb)).1
    simp [plain.1, plain.2]
  exact if_pos readable

/-- What the proxy appends is readable, so the value is when the client's was. -/
lemma to_str_forwarded (v : HeaderValue) :
    to_str (v ++ [44, 32] ++ a.bytes) = (to_str v).map (· ++ ", " ++ a.text) := by
  have appended := a.to_str_bytes
  simp only [to_str] at appended ⊢
  split at appended
  · rename_i readable
    have comma : ([44, 32] : HeaderValue).all fun b => (32 ≤ b && b < 127) || b == 9 := by decide
    simp only [List.all_append, readable, comma, Bool.and_true]
    split
    · simp only [Option.map_some, Option.some.injEq]
      rw [text, ← String.toList_inj]
      simp
    · rfl
  · cases appended

/-- An address is its own first entry. -/
lemma first_text : Text.trim ((Text.split a.text ',').headD "") = a.text := by
  have whole : a.text.toList.takeWhile (· ≠ ',') = a.text.toList := by
    refine List.takeWhile_eq_self_iff.mpr fun c hc => ?_
    rw [text, String.toList_ofList] at hc
    simpa using (a.mem_chars hc).1
  rw [headD_split, whole, String.ofList_toList, Text.trim]
  have trimmed : Text.Trimmed a.text.toList := by
    constructor
    all_goals
      intro c hc
      rw [text, String.toList_ofList] at hc
    · exact (a.mem_chars (List.mem_of_mem_head? hc)).2
    · exact (a.mem_chars (List.mem_of_mem_getLast? hc)).2
  rw [Text.trimChars_of_trimmed trimmed, String.ofList_toList]

end AddressText

/-- A header is read as its first entry, or as the TCP peer. -/
lemma client_ip_for_some (v : HeaderValue) (addr : String) :
    client_ip_for (some v) addr true =
      match firstEntry (some v) with
      | .given x => x
      | _ => addr := by
  simp only [client_ip_for, if_true, Option.bind_some, firstEntry]
  cases to_str v with
  | none => rfl
  | some fwd =>
    dsimp only
    by_cases blank : Text.trim ((Text.split fwd ',').headD "") = ""
    · rw [if_pos blank, if_neg (not_not.mpr blank)]
    · rw [if_neg blank, if_pos blank]

/-- Behind the proxy a connection is attributed to what the client's header begins with. -/
lemma client_ip_for_forwarded (proxy a : AddressText) (h : Option HeaderValue) :
    client_ip_for (some (forwarded a h)) proxy.text true =
      match firstEntry h with
      | .absent => a.text
      | .blank => proxy.text
      | .given x => x := by
  rw [client_ip_for_some]
  cases h with
  | none =>
    have own : firstEntry (some a.bytes) = .given a.text := by
      simp only [firstEntry, a.to_str_bytes, a.first_text, if_neg a.text_ne]
    rw [forwarded, own]
    rfl
  | some v =>
    have same : firstEntry (some (forwarded a (some v))) = firstEntry (some v) := by
      simp only [firstEntry, forwarded, a.to_str_forwarded]
      cases to_str v with
      | none => rfl
      | some fwd =>
        simp only [Option.map_some, headD_split_append]
    rw [same, firstEntry]
    cases to_str v with
    | none => rfl
    | some fwd =>
      dsimp only
      by_cases blank : Text.trim ((Text.split fwd ',').headD "") = ""
      · simp only [if_pos blank]
      · simp only [if_neg blank]

/-- Behind the proxy the server takes the client for the same address whichever of two headers it
sent, and decides alike which endpoints are its own. -/
def SameAddress (parse_ip : String → Option IpAddr) (proxy a : AddressText)
    (h h' : Option HeaderValue) : Prop :=
  let peer_ip := fun h => client_ip_for (some (forwarded a h)) proxy.text true
  peer_ip h = peer_ip h' ∧ ∀ endpoint,
    endpoint_is_clients_own parse_ip endpoint (peer_ip h) =
      endpoint_is_clients_own parse_ip endpoint (peer_ip h') ∧
    own_endpoint parse_ip endpoint (peer_ip h) = own_endpoint parse_ip endpoint (peer_ip h')

/-- **The address behind a proxy.** Two headers that a client may send lead to the same address, and
so to the same decisions about endpoints, exactly when they begin alike. -/
theorem proxied_address (parse_ip : String → Option IpAddr) (proxy a : AddressText)
    (h h' : Option HeaderValue) :
    SameAddress parse_ip proxy a h h' ↔ Agree proxy a (firstEntry h) (firstEntry h') := by
  have address : ∀ x y : String, (x = y ∧ ∀ endpoint,
      endpoint_is_clients_own parse_ip endpoint x = endpoint_is_clients_own parse_ip endpoint y ∧
        own_endpoint parse_ip endpoint x = own_endpoint parse_ip endpoint y) ↔ x = y := by
    intro x y
    refine ⟨And.left, ?_⟩
    rintro rfl
    exact ⟨rfl, fun _ => ⟨rfl, rfl⟩⟩
  refine (address _ _).trans ?_
  dsimp only
  rw [client_ip_for_forwarded, client_ip_for_forwarded]
  cases firstEntry h <;> cases firstEntry h' <;> simp [Agree, eq_comm]

/-! ## A third party's address -/

/-- The dotted quads that `parse_ip` reads. -/
def parse_v4 (s : String) : Option IpAddr :=
  match (Text.split s '.').map (parse_unsigned 255) with
  | [some a, some b, some c, some d] => some (.V4 [a, b, c, d])
  | _ => none

/-- The bytes of an ASCII text. -/
def ascii (s : String) : List UInt8 := s.toList.map fun c => UInt8.ofNat c.toNat

def sampleProxy : AddressText := ⟨ascii "127.0.0.1", by decide, by decide⟩
def sampleClient : AddressText := ⟨ascii "198.51.100.7", by decide, by decide⟩

/-- A client that names another's address in the header may advertise that address as its own. -/
theorem proxied_address_chosen :
    ¬ ∀ parse_ip proxy a h h', SameAddress parse_ip proxy a h h' := by
  intro all
  have same := ((all parse_v4 sampleProxy sampleClient none (some (ascii "203.0.113.9"))).2
    "203.0.113.9:7777").1
  have refused : endpoint_is_clients_own parse_v4 "203.0.113.9:7777"
      (client_ip_for (some (forwarded sampleClient none)) sampleProxy.text true) = false := by
    decide
  have taken : endpoint_is_clients_own parse_v4 "203.0.113.9:7777"
      (client_ip_for (some (forwarded sampleClient (some (ascii "203.0.113.9"))))
        sampleProxy.text true) = true := by
    decide +kernel
  rw [refused, taken] at same
  cases same

end RecompNet
