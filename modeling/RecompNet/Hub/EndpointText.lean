import RecompNet.Hub.Endpoint
import RecompNet.Auth.NameSize

/-!
# The text of an endpoint

What the two validators let through. `parse_advertise_endpoint` parses the port, and writes it anew;
`own_endpoint` rewrites the host and copies whatever follows the last colon.
-/

namespace RecompNet

namespace Text

/-- The last separator splits a string. -/
lemma rsplit_once_eq_some {s a b : String} {sep : Char} :
    rsplit_once s sep = some (a, b) ↔ s.toList = a.toList ++ sep :: b.toList ∧ sep ∉ b.toList := by
  have cut : ∀ xs ys : List Char, sep ∉ ys →
      (ys.reverse ++ sep :: xs).takeWhile (· ≠ sep) = ys.reverse ∧
        (ys.reverse ++ sep :: xs).dropWhile (· ≠ sep) = sep :: xs := by
    intro xs ys none
    have all : ∀ c ∈ ys.reverse, (decide (c ≠ sep)) = true := by
      intro c hc
      refine decide_eq_true ?_
      rintro rfl
      exact none (List.mem_reverse.mp hc)
    rw [List.takeWhile_append_of_pos all, List.dropWhile_append_of_pos all]
    simp
  unfold rsplit_once
  constructor
  · intro h
    split at h
    · rename_i hs
      obtain ⟨ys, xs, e, none⟩ := List.eq_append_cons_of_mem (List.mem_reverse.mpr hs)
      have whole : s.toList = xs.reverse ++ sep :: ys.reverse := by
        rw [← List.reverse_reverse s.toList, e]
        simp
      obtain ⟨take, drop⟩ := cut xs ys.reverse (by simpa using none)
      rw [List.reverse_reverse] at take drop
      rw [e, take, drop] at h
      cases h
      simpa using ⟨whole, none⟩
    · cases h
  · rintro ⟨e, none⟩
    have hs : sep ∈ s.toList := by simp [e]
    obtain ⟨take, drop⟩ := cut a.toList.reverse b.toList none
    have back : s.toList.reverse = b.toList.reverse ++ sep :: a.toList.reverse := by simp [e]
    rw [if_pos hs, back, take, drop]
    simp

/-- The pieces of a text and the separators between them are the text. -/
lemma intercalate_splitChars (sep : Char) (cs : List Char) :
    [sep].intercalate (splitChars sep cs) = cs := by
  induction cs with
  | nil => rfl
  | cons c cs ih =>
    have some : ∃ p ps, splitChars sep cs = p :: ps := by
      cases cs with
      | nil => exact ⟨[], [], rfl⟩
      | cons d ds =>
        unfold splitChars
        split
        · exact ⟨_, _, rfl⟩
        · split <;> exact ⟨_, _, rfl⟩
    obtain ⟨p, ps, e⟩ := some
    rw [e] at ih
    unfold splitChars
    split
    · rename_i h
      rw [e, List.intercalate_cons_cons, ih, h]
      rfl
    · rw [e]
      cases ps with
      | nil => simpa using ih
      | cons q qs =>
        rw [List.intercalate_cons_cons] at ih ⊢
        rw [← ih]
        rfl

end Text

/-! ## What an endpoint should be -/

/-- A decimal port. -/
def IsPort (s : String) : Prop := ∃ n, 0 < n ∧ n ≤ 65535 ∧ s = toString n

/-- The text of an IP address, which for IPv6 may stand in brackets. -/
def IsHost (parse_ip : String → Option IpAddr) (s : String) : Prop :=
  (parse_ip s).isSome ∨ ∃ v6 segments, s = "[" ++ v6 ++ "]" ∧ parse_ip v6 = some (.V6 segments)

/-- An endpoint that a peer can dial, and that is the own one of the client at an address. -/
structure EndpointOf (parse_ip : String → Option IpAddr) (ip endpoint : String) : Prop where
  parts : ∃ host port, endpoint = host ++ ":" ++ port ∧ IsHost parse_ip host ∧ IsPort port
  short : Text.byte_len endpoint ≤ 64
  own : endpoint_is_clients_own parse_ip endpoint ip

/-- An address of a private IPv4 network, as a dotted quad, with a port. -/
def IsLan (endpoint : String) : Prop :=
  ∃ a b c d port, a ≤ 255 ∧ b ≤ 255 ∧ c ≤ 255 ∧ d ≤ 255 ∧
    (a = 10 ∨ a = 172 ∧ 16 ≤ b ∧ b ≤ 31 ∨ a = 192 ∧ b = 168) ∧ IsPort port ∧
    endpoint =
      toString a ++ "." ++ toString b ++ "." ++ toString c ++ "." ++ toString d ++ ":" ++ port

/-- What is documented of the parser: nothing reads as no address, and no address takes more than
the 45 characters of an IPv6 address with a dotted quad at its end. -/
structure IpParser (parse_ip : String → Option IpAddr) : Prop where
  blank : parse_ip "" = none
  short : ∀ s a, parse_ip s = some a → Text.byte_len s ≤ 45

/-- The server takes the address it sees for one of the client's own. -/
def SelfOwned (parse_ip : String → Option IpAddr) (ip : String) : Prop :=
  endpoint_is_clients_own parse_ip (ip ++ ":" ++ "0") ip

/-- Does a bind keep its host? It names one, and the client's own. -/
def keepsHost (parse_ip : String → Option IpAddr) (ip bind host : String) : Bool :=
  host ∉ ["", "0.0.0.0", "*", "::"] && endpoint_is_clients_own parse_ip bind ip

/-- A bind has a decimal port after its last colon. Before it is an address if the host is kept, and
else the server takes the client's address for its own. -/
def PlainBind (parse_ip : String → Option IpAddr) (ip bind : String) : Prop :=
  ∃ host port, Text.rsplit_once bind ':' = some (host, port) ∧ IsPort port ∧
    if keepsHost parse_ip ip bind host then IsHost parse_ip host else SelfOwned parse_ip ip

/-- An endpoint that is offered as one's own has an address before its last colon. -/
def PlainOffer (parse_ip : String → Option IpAddr) (ip raw : String) : Prop :=
  ∀ host port, Text.rsplit_once (Text.trim raw) ':' = some (host, port) →
    endpoint_is_clients_own parse_ip (Text.trim raw) ip → IsHost parse_ip host

/-- The octets of a private address are written without signs and leading zeros. -/
def PlainLan (raw : String) : Prop :=
  ∀ host port, Text.rsplit_once (Text.trim raw) ':' = some (host, port) → is_rfc1918_host host →
    ∀ octet ∈ Text.split host '.', ∀ n, parse_unsigned 255 octet = some n → octet = toString n

section
variable {parse_ip : String → Option IpAddr} {ip bind host port : String}

lemma rsplit_colon (h : ':' ∉ port.toList) :
    Text.rsplit_once (host ++ ":" ++ port) ':' = some (host, port) :=
  Text.rsplit_once_eq_some.mpr ⟨by simp, h⟩

lemma byte_len_append (s t : String) : Text.byte_len (s ++ t) = Text.byte_len s + Text.byte_len t :=
  String.utf8ByteSize_append

lemma IsPort.digits (h : IsPort port) : ∀ c ∈ port.toList, c.isDigit := by
  obtain ⟨n, -, -, rfl⟩ := h
  intro c hc
  have digit : c ∈ Nat.toDigits 10 n := by simpa using hc
  exact Nat.isDigit_of_mem_toDigits (by decide) (by decide) digit

/-- A port has no colon, and five characters at most. -/
lemma IsPort.plain (h : IsPort port) : ':' ∉ port.toList ∧ Text.byte_len port ≤ 5 := by
  have digits := h.digits
  obtain ⟨n, -, hn, rfl⟩ := h
  constructor
  · intro hc
    exact absurd (digits _ hc) (by decide)
  · rw [Text.byte_len_eq, Text.bytes_printable fun c hc => Identity.digit_printable (digits c hc)]
    exact (Nat.length_repr_le_iff (by decide)).mpr (by omega)

lemma IsHost.short (parser : IpParser parse_ip) (h : IsHost parse_ip host) :
    Text.byte_len host ≤ 47 := by
  rcases h with h | ⟨v6, segments, rfl, h⟩
  · obtain ⟨a, ha⟩ := Option.isSome_iff_exists.mp h
    exact (parser.short _ _ ha).trans (by decide)
  · have len := parser.short _ _ h
    rw [byte_len_append, byte_len_append]
    have bracket : Text.byte_len "[" = 1 ∧ Text.byte_len "]" = 1 := by decide
    omega

/-- Whose an endpoint is does not depend on the port. -/
lemma own_port {port' : String} (h : ':' ∉ port.toList) (h' : ':' ∉ port'.toList) :
    endpoint_is_clients_own parse_ip (host ++ ":" ++ port) ip =
      endpoint_is_clients_own parse_ip (host ++ ":" ++ port') ip := by
  unfold endpoint_is_clients_own
  rw [rsplit_colon h, rsplit_colon h']

/-- An endpoint is what it should be if its two parts are, and it is the client's own. -/
lemma endpointOf_iff (parser : IpParser parse_ip) (h : ':' ∉ port.toList) :
    EndpointOf parse_ip ip (host ++ ":" ++ port) ↔ IsHost parse_ip host ∧ IsPort port ∧
      endpoint_is_clients_own parse_ip (host ++ ":" ++ port) ip := by
  constructor
  · rintro ⟨⟨host', port', e, isHost, isPort⟩, -, own⟩
    have same := @rsplit_colon host _ h
    rw [e, rsplit_colon isPort.plain.1] at same
    cases same
    exact ⟨isHost, isPort, own⟩
  · rintro ⟨isHost, isPort, own⟩
    refine ⟨⟨host, port, rfl, isHost, isPort⟩, ?_, own⟩
    have hostLen := isHost.short parser
    have portLen := isPort.plain.2
    have colon : Text.byte_len ":" = 1 := by decide
    rw [byte_len_append, byte_len_append]
    omega

lemma rsplit_eq (h : Text.rsplit_once bind ':' = some (host, port)) :
    bind = host ++ ":" ++ port ∧ ':' ∉ port.toList := by
  obtain ⟨e, none⟩ := Text.rsplit_once_eq_some.mp h
  exact ⟨String.toList_inj.mp (by simp [e]), none⟩

lemma rewrite_peer (ne : ip ≠ "") (none : ':' ∉ port.toList) :
    rewrite_endpoint ("0.0.0.0:" ++ port) ip = ip ++ ":" ++ port := by
  have split : Text.rsplit_once ("0.0.0.0:" ++ port) ':' = some ("0.0.0.0", port) :=
    Text.rsplit_once_eq_some.mpr ⟨by simp, none⟩
  simp [rewrite_endpoint, split, ne]

lemma zero_plain : ':' ∉ "0".toList := by decide

/-- What comes of a bind without a colon. -/
lemma own_endpoint_bare (ne : ip ≠ "") (h : Text.rsplit_once bind ':' = none) :
    own_endpoint parse_ip bind ip = ip ++ ":" ++ "0" := by
  have foreign : endpoint_is_clients_own parse_ip bind ip = false := by
    simp [endpoint_is_clients_own, h]
  have kept : rewrite_endpoint bind ip = bind := by simp [rewrite_endpoint, h]
  simp only [own_endpoint, kept, foreign, h]
  exact rewrite_peer ne zero_plain

/-- What comes of another one. -/
lemma own_endpoint_eq (ne : ip ≠ "") (h : Text.rsplit_once bind ':' = some (host, port)) :
    own_endpoint parse_ip bind ip =
      if keepsHost parse_ip ip bind host then bind else ip ++ ":" ++ port := by
  obtain ⟨e, none⟩ := rsplit_eq h
  have peer := rewrite_peer ne none
  unfold own_endpoint keepsHost
  by_cases any : host = "" ∨ host = "0.0.0.0" ∨ host = "*" ∨ host = "::"
  · have rewritten : rewrite_endpoint bind ip = ip ++ ":" ++ port := by
      simp [rewrite_endpoint, h, any, ne]
    have listed : decide (host ∉ ["", "0.0.0.0", "*", "::"]) = false :=
      decide_eq_false (not_not.mpr (by simpa using any))
    rw [rewritten, h, listed, Bool.false_and, if_neg Bool.false_ne_true]
    dsimp only [Option.map_some, Option.getD_some]
    split
    · rfl
    · exact peer
  · have rewritten : rewrite_endpoint bind ip = bind := by
      simp only [rewrite_endpoint, h, if_neg any]
      exact e.symm
    have unlisted : host ∉ ["", "0.0.0.0", "*", "::"] := by simpa using any
    rw [rewritten, h, decide_eq_true unlisted, Bool.true_and]
    dsimp only [Option.map_some, Option.getD_some]
    split
    · rfl
    · exact peer

/-- What comes of a bind is what it should be exactly if the bind is plain. -/
lemma own_endpoint_iff (parser : IpParser parse_ip) (literal : (parse_ip ip).isSome) :
    EndpointOf parse_ip ip (own_endpoint parse_ip bind ip) ↔ PlainBind parse_ip ip bind := by
  have ne : ip ≠ "" := by
    rintro rfl
    rw [parser.blank] at literal
    cases literal
  unfold PlainBind
  cases hb : Text.rsplit_once bind ':' with
  | none =>
    rw [own_endpoint_bare ne hb, endpointOf_iff parser zero_plain]
    refine iff_of_false ?_ nofun
    rintro ⟨-, ⟨n, pos, -, zero⟩, -⟩
    have digits : Nat.toDigits 10 0 = Nat.toDigits 10 n := by
      simpa using congrArg String.toList zero
    have same := congrArg (Nat.ofDigitChars 10 · 0) digits
    rw [Nat.ofDigitChars_toDigits (by decide) (by decide),
      Nat.ofDigitChars_toDigits (by decide) (by decide)] at same
    omega
  | some parts =>
    obtain ⟨host, port⟩ := parts
    obtain ⟨eb, none⟩ := rsplit_eq hb
    have only : (∃ host' port', some (host, port) = some (host', port') ∧ IsPort port' ∧
        if keepsHost parse_ip ip bind host' then IsHost parse_ip host' else SelfOwned parse_ip ip) ↔
        IsPort port ∧
          if keepsHost parse_ip ip bind host then IsHost parse_ip host
          else SelfOwned parse_ip ip := by
      constructor
      · rintro ⟨host', port', h, rest⟩
        cases h
        exact rest
      · exact fun h => ⟨host, port, rfl, h⟩
    rw [only, own_endpoint_eq ne hb]
    split
    · rename_i kept
      have own : endpoint_is_clients_own parse_ip bind ip := (Bool.and_eq_true_iff.mp kept).2
      have parts := @endpointOf_iff parse_ip ip host _ parser none
      rw [← eb] at parts
      rw [parts]
      exact ⟨fun h => ⟨h.2.1, h.1⟩, fun h => ⟨h.2, h.1, own⟩⟩
    · rw [endpointOf_iff parser none, own_port none zero_plain]
      exact ⟨fun h => ⟨h.2.1, h.2.2⟩, fun h => ⟨.inl literal, h.1, h.2⟩⟩

/-- What the strict validator makes of an endpoint. -/
lemma parse_advertise_eq {raw ep : String} (h : parse_advertise_endpoint raw = some ep) :
    ∃ host port_s port, Text.rsplit_once (Text.trim raw) ':' = some (host, port_s) ∧
      ep = host ++ ":" ++ port ∧ IsPort port := by
  unfold parse_advertise_endpoint at h
  dsimp only at h
  split_ifs at h
  split at h
  · cases h
  · rename_i host port_s parts
    split_ifs at h
    split at h
    · cases h
    · rename_i port hport
      split_ifs at h with zero
      obtain rfl := Option.some.inj h
      refine ⟨host, port_s, _, parts, rfl, port, Nat.pos_of_ne_zero zero, ?_, rfl⟩
      unfold parse_unsigned at hport
      dsimp only at hport
      split_ifs at hport with _ small
      exact Option.some.inj hport ▸ small

/-- An offer that is accepted as one's own and is plain. -/
lemma offer_endpoint {raw ep : String} (parser : IpParser parse_ip)
    (h : parse_advertise_endpoint raw = some ep) (own : endpoint_is_clients_own parse_ip ep ip)
    (plain : PlainOffer parse_ip ip raw) : EndpointOf parse_ip ip ep := by
  obtain ⟨host, port_s, port, parts, rfl, isPort⟩ := parse_advertise_eq h
  obtain ⟨e, none⟩ := rsplit_eq parts
  have own' : endpoint_is_clients_own parse_ip (Text.trim raw) ip := by
    rw [e, own_port none isPort.plain.1]
    exact own
  exact (endpointOf_iff parser isPort.plain.1).mpr ⟨plain host port_s parts own', isPort, own⟩

/-! ## The list of LAN endpoints -/

/-- A private address whose octets are plain is a dotted quad. -/
lemma rfc1918_quad (h : is_rfc1918_host host)
    (plain : ∀ octet ∈ Text.split host '.', ∀ n, parse_unsigned 255 octet = some n →
      octet = toString n) :
    ∃ a b c d, a ≤ 255 ∧ b ≤ 255 ∧ c ≤ 255 ∧ d ≤ 255 ∧
      (a = 10 ∨ a = 172 ∧ 16 ≤ b ∧ b ≤ 31 ∨ a = 192 ∧ b = 168) ∧
      host = toString a ++ "." ++ toString b ++ "." ++ toString c ++ "." ++ toString d := by
  have bound : ∀ {s n}, parse_unsigned 255 s = some n → n ≤ 255 := by
    intro s n hn
    unfold parse_unsigned at hn
    dsimp only at hn
    split_ifs at hn with _ small
    exact Option.some.inj hn ▸ small
  unfold is_rfc1918_host at h
  split at h
  · rename_i a b c d four
    obtain ⟨s, ss, e, ha, hss⟩ := List.map_eq_cons_iff.mp four
    obtain ⟨s', ss, rfl, hb, hss⟩ := List.map_eq_cons_iff.mp hss
    obtain ⟨t, ss, rfl, hc, hss⟩ := List.map_eq_cons_iff.mp hss
    obtain ⟨t', ss, rfl, hd, hss⟩ := List.map_eq_cons_iff.mp hss
    obtain rfl := List.map_eq_nil_iff.mp hss
    rw [e] at plain
    have pa := plain s (by simp) a ha
    have pb := plain s' (by simp) b hb
    have pc := plain t (by simp) c hc
    have pd := plain t' (by simp) d hd
    refine ⟨a, b, c, d, bound ha, bound hb, bound hc, bound hd,
    by simpa [and_assoc, or_assoc] using h, ?_⟩
    have whole := Text.intercalate_splitChars '.' host.toList
    unfold Text.split at e
    have pieces : Text.splitChars '.' host.toList = [s, s', t, t'].map String.toList := by
      rw [← e, List.map_map]
      simp [Function.comp_def]
    rw [pieces] at whole
    rw [← pa, ← pb, ← pc, ← pd]
    apply String.toList_inj.mp
    rw [← whole]
    simp [List.intercalate]
  · cases h

/-- What the list of LAN endpoints should be: at most four, all different. -/
structure LanList (endpoints : List String) : Prop where
  lan : ∀ ep ∈ endpoints, IsLan ep
  distinct : endpoints.Nodup
  few : endpoints.length ≤ 4

lemma lanList_nil : LanList [] := ⟨nofun, List.nodup_nil, Nat.zero_le 4⟩

/-- An entry that the scan takes. -/
lemma lan_entry {item ep : String} (h : parse_advertise_endpoint item = some ep)
    (rfc : is_rfc1918_host (((Text.rsplit_once ep ':').map (·.1)).getD "")) (plain : PlainLan item) :
    IsLan ep := by
  obtain ⟨host, port_s, port, parts, rfl, isPort⟩ := parse_advertise_eq h
  rw [rsplit_colon isPort.plain.1] at rfc
  obtain ⟨a, b, c, d, ha, hb, hc, hd, private', rfl⟩ :=
      rfc1918_quad rfc (plain host port_s parts rfc)
  exact ⟨a, b, c, d, port, ha, hb, hc, hd, private', isPort, rfl⟩

lemma lanEndpoints_lan {items out : List String} (plain : ∀ item ∈ items, PlainLan item)
    (lan : ∀ ep ∈ out, IsLan ep) (distinct : out.Nodup) (few : out.length < 4) :
    LanList (lanEndpoints items out) := by
  induction items generalizing out with
  | nil => exact ⟨lan, distinct, few.le⟩
  | cons item items ih =>
    have rest := fun i hi => plain i (List.mem_cons_of_mem _ hi)
    unfold lanEndpoints
    split
    · exact ih rest lan distinct few
    · rename_i ep hep
      dsimp only
      split
      · exact ih rest lan distinct few
      · rename_i taken
        simp only [Bool.or_eq_true, decide_eq_true_eq, Bool.not_eq_true', not_or,
          Bool.not_eq_false] at taken
        obtain ⟨⟨-, rfc⟩, new⟩ := taken
        have isLan := lan_entry hep rfc (plain item List.mem_cons_self)
        have lan' : ∀ x ∈ out ++ [ep], IsLan x := by
          intro x hx
          rcases List.mem_append.mp hx with hx | hx
          · exact lan x hx
          · exact List.mem_singleton.mp hx ▸ isLan
        have distinct' : (out ++ [ep]).Nodup := by
          rw [List.nodup_append]
          refine ⟨distinct, List.nodup_singleton _, ?_⟩
          rintro x hx y hy rfl
          exact new (List.mem_singleton.mp hy ▸ hx)
        have len : (out ++ [ep]).length = out.length + 1 := by simp
        split
        · exact ⟨lan', distinct', by omega⟩
        · exact ih rest lan' distinct' (by omega)

/-- The list that the sanitizer makes of a plain one. -/
lemma sanitize_lan {raw : Option (List String)} (plain : ∀ item ∈ raw.getD [], PlainLan item) :
    LanList (sanitize_lan_endpoints raw) := by
  unfold sanitize_lan_endpoints
  cases raw with
  | none => exact lanList_nil
  | some items => exact lanEndpoints_lan plain nofun List.nodup_nil (by decide)

end

end RecompNet
