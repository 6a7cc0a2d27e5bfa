import RecompNet.Automatch.Delay
import Mathlib.Data.List.Basic

/-!
# The automatch queue

Tickets, offers and the operations on them (`automatch.rs`, "the queue"). Every operation runs under the
queue's own lock, so each is a function on the locked state `QueueInner`. An `Instant` is a number of
nanoseconds, read once per operation from the clock that the operation is handed.
-/

namespace RecompNet

/-- A reading of the monotonic clock, in nanoseconds. -/
abbrev Instant := Nat

/-- Nanoseconds in a second. -/
def NANOS : Nat := 1000000000

/-- `at.elapsed().as_secs()` when the clock reads `now`. -/
def elapsed_secs (now since : Instant) : Nat := (now - since) / NANOS

def PROBE_GRACE_SECS : Nat := 3
def RTT_START_MS : Nat := 120
def RTT_STEP_MS : Nat := 60
def RTT_WIDEN_SECS : Nat := 20
def RTT_UNLIMITED_AFTER_STEPS : Nat := 5

/-- The join gate, as a value. -/
structure MatchKey where
  game_name : String
  game_version : String
  disc_fp : String
  ruleset_id : String
  max_slots : Nat
  deriving DecidableEq

/-- One player waiting. -/
structure Ticket where
  player_id : String
  account_id : String
  handle : String
  username : String := ""
  country : String := ""
  keys : List MatchKey
  host_bind : String
  guest_bind : String
  relay_endpoint : Option String := none
  ice_relay : Bool := false
  queued_at : Instant
  rtt_ms : Int := -1
  blocks : List String := []
  deriving DecidableEq

/-- Whole seconds a ticket has waited. -/
def Ticket.waited (t : Ticket) (now : Instant) : Nat := elapsed_secs now t.queued_at

/-- A pair on offer, waiting for two answers. -/
structure Pending where
  match_id : String
  key : MatchKey
  a : Ticket
  b : Ticket
  a_accept : Option Bool := none
  b_accept : Option Bool := none
  offered_at : Instant
  deriving DecidableEq

namespace Pending

/-- Does this pair run host-as-relay over ICE? -/
def is_ice (p : Pending) : Bool := p.a.ice_relay && p.b.ice_relay

/-- The side with the better link, `a` unless `b` measured strictly less. -/
def rtt_pick (p : Pending) : Bool :=
  !(0 ≤ p.a.rtt_ms && 0 ≤ p.b.rtt_ms && p.b.rtt_ms < p.a.rtt_ms)

/-- Which of the pair relays the match: `true` is `a`. -/
def relay_host_is_a (p : Pending) : Option Bool :=
  if p.is_ice then some p.rtt_pick
  else match p.a.relay_endpoint, p.b.relay_endpoint with
    | some _, none => some true
    | none, some _ => some false
    | none, none => none
    | some _, some _ => some p.rtt_pick

/-- Which side a connection is: `true` is `a`. -/
def side (p : Pending) (player_id : String) : Option Bool :=
  if p.a.player_id = player_id then some true
  else if p.b.player_id = player_id then some false
  else none

/-- Is the outcome decided? -/
def answered (p : Pending) : Bool :=
  p.a_accept = some false || p.b_accept = some false || (p.a_accept.isSome && p.b_accept.isSome)

/-- Did both sides accept? -/
def both_yes (p : Pending) : Bool := p.a_accept = some true && p.b_accept = some true

end Pending

/-- Rewrite the first element that passes the test. -/
def updateFirst {α : Type} (p : α → Bool) (f : α → α) : List α → List α
  | [] => []
  | x :: xs => if p x then f x :: xs else x :: updateFirst p f xs

/-- Rewriting one element leaves alone what the rewriting keeps. -/
lemma map_updateFirst {α β : Type} (p : α → Bool) (f : α → α) (k : α → β)
    (h : ∀ x, k (f x) = k x) (l : List α) : (updateFirst p f l).map k = l.map k := by
  induction l with
  | nil => rfl
  | cons x xs ih =>
    simp only [updateFirst]
    split <;> simp [h, ih]

/-- Everything in flight. `recent` holds who played whom, for the avoid-last-opponent filter. -/
structure QueueInner where
  tickets : List Ticket := []
  pending : List Pending := []
  recent : List (String × String × Instant) := []
  deriving DecidableEq

/-! ## The pairing filter -/

/-- Can at least one of the two relay the match? -/
def relay_possible (a b : Ticket) : Bool :=
  a.relay_endpoint.isSome || b.relay_endpoint.isSome || (a.ice_relay && b.ice_relay)

/-- Has this ticket either measured, or had its chance to? -/
def measurable (now : Instant) (t : Ticket) : Bool :=
  0 ≤ t.rtt_ms || PROBE_GRACE_SECS ≤ t.waited now

/-- Combined round trip, widening with the older ticket's age. -/
def rtt_ok (now : Instant) (a b : Ticket) : Bool :=
  if a.rtt_ms < 0 ∨ b.rtt_ms < 0 then true
  else
    let waited := max (a.waited now) (b.waited now)
    let steps := waited / RTT_WIDEN_SECS
    if steps ≥ RTT_UNLIMITED_AFTER_STEPS then true
    else
      let ceiling := RTT_START_MS + steps * RTT_STEP_MS
      a.rtt_ms.toNat + b.rtt_ms.toNat ≤ ceiling

/-- Prefer a new opponent, but not at the cost of not matching at all. -/
def rematch_ok (now : Instant) (g : QueueInner) (a b : Ticket) (cooldown : Nat) : Bool :=
  if max (a.waited now) (b.waited now) ≥ RTT_WIDEN_SECS * RTT_UNLIMITED_AFTER_STEPS then true
  else !g.recent.any fun (x, y, since) =>
    elapsed_secs now since < cooldown &&
      ((x = a.account_id && y = b.account_id) || (x = b.account_id && y = a.account_id))

/-- The rules a candidate pair must meet on a pass over the queue. -/
def pairable (now : Instant) (g : QueueInner) (cooldown : Nat) (allow_rematch : Bool)
    (key : MatchKey) (a b : Ticket) : Bool :=
  key ∈ b.keys &&
    -- Never the same account, whatever else is true.
    a.account_id ≠ b.account_id &&
    -- A block in either direction, on both passes.
    !(b.account_id ∈ a.blocks || a.account_id ∈ b.blocks) &&
    relay_possible a b && measurable now a && measurable now b && rtt_ok now a b &&
    (allow_rematch || rematch_ok now g a b cooldown)

/-- One pass over the tickets, oldest first, honouring each ticket's own preference order. -/
def find_pair_pass (now : Instant) (g : QueueInner) (cooldown : Nat) (allow_rematch : Bool) :
    Option (Nat × Nat × MatchKey) :=
  (List.range g.tickets.length).findSome? fun i =>
    (g.tickets[i]?).bind fun a =>
      a.keys.findSome? fun key =>
        (List.range g.tickets.length).findSome? fun j =>
          (g.tickets[j]?).bind fun b =>
            if i ≠ j ∧ pairable now g cooldown allow_rematch key a b then some (i, j, key) else none

/-- Pick a pair, preferring a fresh opponent. -/
def find_pair (now : Instant) (g : QueueInner) (cooldown : Nat) : Option (Nat × Nat × MatchKey) :=
  (find_pair_pass now g cooldown false).or (find_pair_pass now g cooldown true)

namespace QueueInner

/-- Is this account waiting or on offer? -/
def is_queued_account (g : QueueInner) (account_id : String) : Bool :=
  g.tickets.any (·.account_id = account_id) ||
    g.pending.any fun p => p.a.account_id = account_id || p.b.account_id = account_id

/-- Tickets waiting. -/
def waiting (g : QueueInner) : Nat := g.tickets.length

/-- How many other tickets sit in the same bucket. -/
def pool_for (g : QueueInner) (key : MatchKey) (excluding : String) : Nat :=
  g.tickets.countP fun t => t.account_id ≠ excluding && key ∈ t.keys

/-- Put a ticket at the back. -/
def push (g : QueueInner) (t : Ticket) : QueueInner := { g with tickets := g.tickets ++ [t] }

/-- Drop a connection from everything, and hand back the offer it was half of. -/
def remove_player (g : QueueInner) (player_id : String) : QueueInner × Option Pending :=
  let g := { g with tickets := g.tickets.filter (·.player_id ≠ player_id) }
  match g.pending.findIdx? fun p => (p.side player_id).isSome with
  | none => (g, none)
  | some idx => ({ g with pending := g.pending.eraseIdx idx }, g.pending[idx]?)

/-- Update a waiting ticket's measured round trip. -/
def set_rtt (g : QueueInner) (player_id : String) (rtt_ms : Int) : QueueInner :=
  { g with tickets := updateFirst (·.player_id = player_id) ({ · with rtt_ms }) g.tickets }

/-- Put a ticket back at the front, its wait beginning anew. -/
def requeue_front (g : QueueInner) (t : Ticket) (now : Instant) : QueueInner :=
  { g with tickets := { t with queued_at := now } :: g.tickets }

/-- An offer with the answer of one side recorded. -/
def recordAnswer (p : Pending) (player_id : String) (accept : Bool) : Pending :=
  match p.side player_id with
  | some true => { p with a_accept := some accept }
  | some false => { p with b_accept := some accept }
  | none => p

/-- Record an answer, and hand back the offer once it is decided. A `match_id` of another offer is
ignored. -/
def answer_for (g : QueueInner) (player_id : String) (accept : Bool) (match_id : Option String) :
    QueueInner × Option Pending :=
  match g.pending.findIdx? fun p => (p.side player_id).isSome with
  | none => (g, none)
  | some idx =>
    match g.pending[idx]? with
    | none => (g, none)
    | some p =>
      if match_id.any (· ≠ p.match_id) then (g, none)
      else
        let p := recordAnswer p player_id accept
        if p.answered then ({ g with pending := g.pending.eraseIdx idx }, some p)
        else ({ g with pending := g.pending.set idx p }, none)

/-- Take out the offers whose deadline has passed. -/
def take_expired (g : QueueInner) (accept_secs : Nat) (now : Instant) :
    QueueInner × List Pending :=
  let expired := fun p : Pending => decide (elapsed_secs now p.offered_at ≥ accept_secs)
  ({ g with pending := g.pending.filter fun p => !expired p }, g.pending.filter expired)

/-- Note that two accounts just played. -/
def note_pairing (g : QueueInner) (a b : String) (now : Instant) : QueueInner :=
  { g with recent := g.recent ++ [(a, b, now)] }

/-- The offer made of the tickets at two indices, the older one as side `a`. -/
def offerOf (key : MatchKey) (t_lo t_hi : Ticket) (match_id : String) (now : Instant) : Pending :=
  if t_lo.queued_at ≤ t_hi.queued_at then
    { match_id, key, a := t_lo, b := t_hi, offered_at := now }
  else
    { match_id, key, a := t_hi, b := t_lo, offered_at := now }

/-- Take one pair out of the tickets and put it on offer. -/
def pairOne (g : QueueInner) (cooldown : Nat) (now : Instant) (match_id : String) :
    Option (QueueInner × Pending) :=
  match find_pair now g cooldown with
  | none => none
  | some (i, j, key) =>
    let hi := max i j
    let lo := min i j
    match g.tickets[hi]?, g.tickets[lo]? with
    | some t_hi, some t_lo =>
      let p := offerOf key t_lo t_hi match_id now
      some ({ g with
        tickets := (g.tickets.eraseIdx hi).eraseIdx lo
        pending := g.pending ++ [p] }, p)
    | _, _ => none

/-- The pairing loop, drawing one fresh match id for each pair. -/
def pairLoop (cooldown : Nat) (now : Instant) : List String → QueueInner → QueueInner × List Pending
  | [], g => (g, [])
  | id :: ids, g =>
    match g.pairOne cooldown now id with
    | none => (g, [])
    | some (g, p) =>
      let (g, ps) := pairLoop cooldown now ids g
      (g, p :: ps)

/-- Form pairs until none is left, and return the offers to send. -/
def pair (g : QueueInner) (cooldown : Nat) (now : Instant) (match_ids : List String) :
    QueueInner × List Pending :=
  pairLoop cooldown now match_ids
    { g with recent := g.recent.filter fun (_, _, since) => elapsed_secs now since < cooldown }

/-- Everyone waiting, for the status push. -/
def status_rows (g : QueueInner) (now : Instant) :
    List (String × Nat × Int × List (MatchKey × Nat)) :=
  g.tickets.map fun t =>
    (t.player_id, t.waited now, t.rtt_ms, t.keys.map fun k => (k, g.pool_for k t.account_id))

end QueueInner

end RecompNet
