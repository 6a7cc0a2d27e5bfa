import RecompNet.Automatch.Sides
import Mathlib.Data.List.Pairwise

/-!
# Pairing

What `Queue::pair` does to a whole queue at one reading of the clock. `Eligible` are the hard rules of a
pair and `Repeat` is what the soft rule avoids, both symmetric. `pairOne_spec` says what one turn of the
loop takes out and why, and the results about a whole call follow by induction over the ids it draws.
-/

open scoped List

namespace RecompNet

/-- The hard rules: two tickets that may be offered to each other under a key. -/
structure Eligible (now : Instant) (key : MatchKey) (a b : Ticket) : Prop where
  left : key ∈ a.keys
  right : key ∈ b.keys
  accounts : a.account_id ≠ b.account_id
  unblocked : b.account_id ∉ a.blocks ∧ a.account_id ∉ b.blocks
  relay : relay_possible a b
  measured : measurable now a ∧ measurable now b
  rtt : rtt_ok now a b

/-- The two accounts played each other within the rematch window, and neither ticket has waited past the
point where the queue gives up on avoiding that. -/
def Repeat (now : Instant) (g : QueueInner) (cooldown : Nat) (a b : Ticket) : Prop :=
  (∃ since, elapsed_secs now since < cooldown ∧
    ((a.account_id, b.account_id, since) ∈ g.recent ∨
      (b.account_id, a.account_id, since) ∈ g.recent)) ∧
    a.waited now < RTT_WIDEN_SECS * RTT_UNLIMITED_AFTER_STEPS ∧
    b.waited now < RTT_WIDEN_SECS * RTT_UNLIMITED_AFTER_STEPS

lemma relay_possible_comm (a b : Ticket) : relay_possible a b = relay_possible b a := by
  simp only [relay_possible, Bool.or_comm a.relay_endpoint.isSome, Bool.and_comm a.ice_relay]

lemma rtt_ok_comm (now : Instant) (a b : Ticket) : rtt_ok now a b = rtt_ok now b a := by
  simp only [rtt_ok, or_comm (a := a.rtt_ms < 0), Nat.max_comm (a.waited now),
    Nat.add_comm a.rtt_ms.toNat]

lemma Eligible.symm {now key a b} (h : Eligible now key a b) : Eligible now key b a where
  left := h.right
  right := h.left
  accounts := h.accounts.symm
  unblocked := h.unblocked.symm
  relay := relay_possible_comm a b ▸ h.relay
  measured := h.measured.symm
  rtt := rtt_ok_comm now a b ▸ h.rtt

lemma Repeat.symm {now g cooldown a b} (h : Repeat now g cooldown a b) :
    Repeat now g cooldown b a := by
  obtain ⟨⟨since, recent, played⟩, ha, hb⟩ := h
  exact ⟨⟨since, recent, played.symm⟩, hb, ha⟩

/-- The soft rule turns down repeats and nothing else. -/
lemma rematch_ok_iff {now g a b cooldown} :
    rematch_ok now g a b cooldown ↔ ¬ Repeat now g cooldown a b := by
  unfold rematch_ok Repeat
  by_cases old : max (a.waited now) (b.waited now) ≥ RTT_WIDEN_SECS * RTT_UNLIMITED_AFTER_STEPS
  · rw [if_pos old]
    refine iff_of_true rfl ?_
    rintro ⟨-, ha, hb⟩
    omega
  · rw [if_neg old]
    have young : a.waited now < RTT_WIDEN_SECS * RTT_UNLIMITED_AFTER_STEPS ∧
        b.waited now < RTT_WIDEN_SECS * RTT_UNLIMITED_AFTER_STEPS := by omega
    rw [Bool.not_eq_true', ← Bool.not_eq_true, List.any_eq_true, not_iff_not]
    constructor
    · rintro ⟨⟨x, y, since⟩, hm, h⟩
      simp only [Bool.and_eq_true, Bool.or_eq_true, decide_eq_true_eq] at h
      obtain ⟨recent, ⟨rfl, rfl⟩ | ⟨rfl, rfl⟩⟩ := h
      · exact ⟨⟨since, recent, .inl hm⟩, young⟩
      · exact ⟨⟨since, recent, .inr hm⟩, young⟩
    · rintro ⟨⟨since, recent, hm | hm⟩, -⟩
      · exact ⟨_, hm, by simp [recent]⟩
      · exact ⟨_, hm, by simp [recent]⟩

/-- What a pass asks of two tickets beside the key of the first. -/
lemma pairable_iff {now g cooldown rematch key a b} (hk : key ∈ a.keys) :
    pairable now g cooldown rematch key a b ↔
      Eligible now key a b ∧ (rematch ∨ ¬ Repeat now g cooldown a b) := by
  rw [← rematch_ok_iff]
  unfold pairable
  simp only [Bool.and_eq_true, Bool.or_eq_true, Bool.not_eq_true', decide_eq_true_eq,
    Bool.or_eq_false_iff, decide_eq_false_iff_not]
  constructor
  · rintro ⟨⟨⟨⟨⟨⟨⟨right, accounts⟩, unblocked⟩, relay⟩, ma⟩, mb⟩, rtt⟩, soft⟩
    exact ⟨⟨hk, right, accounts, unblocked, relay, ⟨ma, mb⟩, rtt⟩, soft⟩
  · rintro ⟨h, soft⟩
    exact ⟨⟨⟨⟨⟨⟨⟨h.right, h.accounts⟩, h.unblocked⟩, h.relay⟩, h.measured.1⟩, h.measured.2⟩, h.rtt⟩,
      soft⟩

/-- A pass that finds a pair finds two places whose tickets meet its rules. -/
lemma find_pair_pass_some {now g cooldown rematch i j key}
    (h : find_pair_pass now g cooldown rematch = some (i, j, key)) :
    i ≠ j ∧ ∃ a b, g.tickets[i]? = some a ∧ g.tickets[j]? = some b ∧ Eligible now key a b ∧
      (rematch ∨ ¬ Repeat now g cooldown a b) := by
  unfold find_pair_pass at h
  obtain ⟨i', -, h⟩ := List.exists_of_findSome?_eq_some h
  obtain ⟨a, ha, h⟩ := Option.bind_eq_some_iff.mp h
  obtain ⟨k, hk, h⟩ := List.exists_of_findSome?_eq_some h
  obtain ⟨j', -, h⟩ := List.exists_of_findSome?_eq_some h
  obtain ⟨b, hb, h⟩ := Option.bind_eq_some_iff.mp h
  split at h
  · rename_i found
    cases h
    exact ⟨found.1, a, b, ha, hb, (pairable_iff hk).mp found.2⟩
  · cases h

/-- A pass that finds nothing leaves no two places that meet its rules. -/
lemma find_pair_pass_none {now g cooldown rematch}
    (h : find_pair_pass now g cooldown rematch = none) {i j : Nat} {a b : Ticket} {key : MatchKey}
    (hne : i ≠ j) (ha : g.tickets[i]? = some a) (hb : g.tickets[j]? = some b) :
    ¬ (Eligible now key a b ∧ (rematch ∨ ¬ Repeat now g cooldown a b)) := by
  intro ok
  obtain ⟨hi, -⟩ := List.getElem?_eq_some_iff.mp ha
  obtain ⟨hj, -⟩ := List.getElem?_eq_some_iff.mp hb
  unfold find_pair_pass at h
  rw [List.findSome?_eq_none_iff] at h
  have hi' := h i (List.mem_range.mpr hi)
  rw [ha, Option.bind_some, List.findSome?_eq_none_iff] at hi'
  have hk := hi' key ok.1.left
  rw [List.findSome?_eq_none_iff] at hk
  have hj' := hk j (List.mem_range.mpr hj)
  rw [hb, Option.bind_some, if_pos ⟨hne, (pairable_iff ok.1.left).mpr ok⟩] at hj'
  cases hj'

/-- No two waiting tickets meet the hard rules and the condition `ok`. -/
def NoneLeft (now : Instant) (ts : List Ticket) (ok : Ticket → Ticket → Prop) : Prop :=
  ts.Pairwise fun a b => ∀ key, ¬ (Eligible now key a b ∧ ok a b)

/-- A pass that finds nothing leaves no pair. -/
lemma find_pair_pass_noneLeft {now g cooldown rematch}
    (h : find_pair_pass now g cooldown rematch = none) :
    NoneLeft now g.tickets fun a b => rematch ∨ ¬ Repeat now g cooldown a b := by
  apply List.pairwise_iff_getElem.mpr
  intro i j hi hj hlt key
  exact find_pair_pass_none h hlt.ne (List.getElem?_eq_getElem hi) (List.getElem?_eq_getElem hj)

namespace QueueInner

/-- What one turn of the pairing loop does: it takes two tickets out and puts them on offer. -/
structure Pairs (now : Instant) (cooldown : Nat) (id : String) (g g' : QueueInner) (p : Pending) :
    Prop where
  order : g'.tickets.Sublist g.tickets
  taken : (p.a :: p.b :: g'.tickets).Perm g.tickets
  pending : g'.pending = g.pending ++ [p]
  recent : g'.recent = g.recent
  eligible : Eligible now p.key p.a p.b
  older : p.a.queued_at ≤ p.b.queued_at
  fresh_first : Repeat now g cooldown p.a p.b →
    NoneLeft now g.tickets fun a b => ¬ Repeat now g cooldown a b

/-- An offer puts the older ticket on side `a`. -/
lemma offerOf_older (key : MatchKey) (x y : Ticket) (id : String) (now : Instant) :
    (offerOf key x y id now).a.queued_at ≤ (offerOf key x y id now).b.queued_at := by
  unfold offerOf
  split
  · assumption
  · rename_i later
    exact Nat.le_of_not_le later

lemma offerOf_key (key : MatchKey) (x y : Ticket) (id : String) (now : Instant) :
    (offerOf key x y id now).key = key := by
  unfold offerOf
  split <;> rfl

/-- A symmetric fact about two tickets is one about the sides of their offer. -/
lemma offerOf_sides {R : Ticket → Ticket → Prop} (symm : ∀ {a b}, R a b → R b a) {key x y id now}
    (h : R x y) : R (offerOf key x y id now).a (offerOf key x y id now).b := by
  unfold offerOf
  split
  · exact h
  · exact symm h

/-- The places that a search finds, and why the pair may be offered. -/
lemma find_pair_some {now g cooldown i j key} (h : find_pair now g cooldown = some (i, j, key)) :
    i ≠ j ∧ ∃ a b, g.tickets[i]? = some a ∧ g.tickets[j]? = some b ∧ Eligible now key a b ∧
      (Repeat now g cooldown a b → NoneLeft now g.tickets fun a b => ¬ Repeat now g cooldown a b) := by
  unfold find_pair at h
  rcases Option.or_eq_some_iff.mp h with h | ⟨nothing, h⟩
  · obtain ⟨hne, a, b, ha, hb, ok, soft⟩ := find_pair_pass_some h
    refine ⟨hne, a, b, ha, hb, ok, fun rep => ?_⟩
    cases soft with
    | inl no => cases no
    | inr no => exact absurd rep no
  · obtain ⟨hne, a, b, ha, hb, ok, -⟩ := find_pair_pass_some h
    refine ⟨hne, a, b, ha, hb, ok, fun _ => ?_⟩
    have left := find_pair_pass_noneLeft nothing
    simpa only [Bool.false_eq_true, false_or] using left

/-- One turn of the loop. -/
theorem pairOne_spec {g g' : QueueInner} {cooldown now id p}
    (h : g.pairOne cooldown now id = some (g', p)) : Pairs now cooldown id g g' p := by
  unfold pairOne at h
  split at h
  · cases h
  · rename_i i j key hfind
    dsimp only at h
    split at h
    · rename_i t_hi t_lo hhi hlo
      cases h
      obtain ⟨hne, a, b, ha, hb, ok, soft⟩ := find_pair_some hfind
      have hlt : min i j < max i j := by omega
      -- The two places are those of the search, in one order or the other.
      have rules : Eligible now key t_lo t_hi ∧ (Repeat now g cooldown t_lo t_hi →
          NoneLeft now g.tickets fun a b => ¬ Repeat now g cooldown a b) := by
        rcases Nat.lt_or_gt_of_ne hne with lt | gt
        · rw [Nat.min_eq_left lt.le, ha] at hlo
          rw [Nat.max_eq_right lt.le, hb] at hhi
          cases hlo
          cases hhi
          exact ⟨ok, soft⟩
        · rw [Nat.min_eq_right gt.le, hb] at hlo
          rw [Nat.max_eq_left gt.le, ha] at hhi
          cases hlo
          cases hhi
          exact ⟨ok.symm, fun rep => soft rep.symm⟩
      refine ⟨?_, ?_, rfl, rfl, ?_, offerOf_older .., ?_⟩
      · exact (List.eraseIdx_sublist _ _).trans (List.eraseIdx_sublist _ _)
      · have two : ([t_hi, t_lo] ++ (g.tickets.eraseIdx (max i j)).eraseIdx (min i j)).Perm g.tickets :=
          eraseIdx_two_perm hlt hhi hlo
        have sides := (sides_offerOf key t_lo t_hi id now).trans (List.Perm.swap _ _ _)
        exact (sides.append_right _).trans two
      · rw [offerOf_key]
        exact offerOf_sides (R := Eligible now key) Eligible.symm rules.1
      · intro rep
        apply rules.2
        unfold offerOf at rep
        split at rep
        · exact rep
        · exact rep.symm
    · cases h

/-- The loop ends when a search finds nothing. -/
lemma pairOne_none {g : QueueInner} {cooldown now id} (h : g.pairOne cooldown now id = none) :
    find_pair now g cooldown = none := by
  unfold pairOne at h
  split at h
  · assumption
  · rename_i i j key hfind
    obtain ⟨hne, a, b, ha, hb, -⟩ := find_pair_some hfind
    dsimp only at h
    split at h
    · cases h
    · rename_i missing
      rcases Nat.lt_or_gt_of_ne hne with lt | gt
      · rw [Nat.min_eq_left lt.le, Nat.max_eq_right lt.le] at missing
        exact absurd ha (missing b a hb)
      · rw [Nat.min_eq_right gt.le, Nat.max_eq_left gt.le] at missing
        exact absurd hb (missing a b ha)

lemma pairLoop_none {g : QueueInner} {cooldown now id ids}
    (h : g.pairOne cooldown now id = none) : pairLoop cooldown now (id :: ids) g = (g, []) := by
  simp only [pairLoop, h]

lemma pairLoop_some {g g' : QueueInner} {cooldown now id ids p}
    (h : g.pairOne cooldown now id = some (g', p)) :
    pairLoop cooldown now (id :: ids) g =
      ((pairLoop cooldown now ids g').1, p :: (pairLoop cooldown now ids g').2) := by
  simp only [pairLoop, h]

/-- The loop only takes pairs out. -/
theorem pairLoop_spec {g : QueueInner} {cooldown now ids} :
    (pairLoop cooldown now ids g).1.tickets.Sublist g.tickets ∧
    ((pairLoop cooldown now ids g).1.tickets ++
      (pairLoop cooldown now ids g).2.flatMap Pending.sides).Perm g.tickets ∧
    (pairLoop cooldown now ids g).1.pending = g.pending ++ (pairLoop cooldown now ids g).2 ∧
    ∀ p ∈ (pairLoop cooldown now ids g).2,
      Eligible now p.key p.a p.b ∧ p.a.queued_at ≤ p.b.queued_at := by
  induction ids generalizing g with
  | nil =>
    refine ⟨.refl _, ?_, (List.append_nil _).symm, ?_⟩
    · rw [pairLoop, List.flatMap_nil, List.append_nil]
    · intro p hp
      cases hp
  | cons id ids ih =>
    cases hone : g.pairOne cooldown now id with
    | none =>
      rw [pairLoop_none hone]
      refine ⟨.refl _, ?_, (List.append_nil _).symm, ?_⟩
      · rw [List.flatMap_nil, List.append_nil]
      · intro p hp
        cases hp
    | some x =>
      obtain ⟨g', p⟩ := x
      have one := pairOne_spec hone
      obtain ⟨order, taken, pending, ok⟩ := ih (g := g')
      rw [pairLoop_some hone]
      refine ⟨order.trans one.order, ?_, ?_, ?_⟩
      · rw [List.flatMap_cons]
        calc (pairLoop cooldown now ids g').1.tickets ++
              ([p.a, p.b] ++ (pairLoop cooldown now ids g').2.flatMap Pending.sides)
          _ ~ [p.a, p.b] ++ ((pairLoop cooldown now ids g').1.tickets ++
                (pairLoop cooldown now ids g').2.flatMap Pending.sides) := by
              rw [← List.append_assoc, ← List.append_assoc]
              exact List.perm_append_comm.append_right _
          _ ~ [p.a, p.b] ++ g'.tickets := taken.append_left _
          _ ~ g.tickets := one.taken
      · rw [pending, one.pending, List.append_assoc, List.singleton_append]
      · intro q hq
        rcases List.mem_cons.mp hq with rfl | hq
        · exact ⟨one.eligible, one.older⟩
        · exact ok q hq

/-- With an id for every pair that can form, the loop ends because no pair is left. -/
theorem pairLoop_ends {g : QueueInner} {cooldown now ids} (h : g.tickets.length ≤ 2 * ids.length) :
    find_pair now (pairLoop cooldown now ids g).1 cooldown = none := by
  induction ids generalizing g with
  | nil =>
    have empty : g.tickets = [] := List.length_eq_zero_iff.mp (by simpa using h)
    simp [pairLoop, find_pair, find_pair_pass, empty]
  | cons id ids ih =>
    cases hone : g.pairOne cooldown now id with
    | none =>
      rw [pairLoop_none hone]
      exact pairOne_none hone
    | some x =>
      obtain ⟨g', p⟩ := x
      have two := (pairOne_spec hone).taken.length_eq
      rw [pairLoop_some hone]
      apply ih
      simp only [List.length_cons] at h two
      omega

/-- The loop drawing more ids begins as the loop drawing fewer. -/
lemma pairLoop_prefix {g : QueueInner} {cooldown now ids ps p qs}
    (h : (pairLoop cooldown now ids g).2 = ps ++ p :: qs) :
    (pairLoop cooldown now (ids.take ps.length) g).2 = ps ∧
    (pairLoop cooldown now (ids.take ps.length) g).1.recent = g.recent ∧
    ∃ id g', (pairLoop cooldown now (ids.take ps.length) g).1.pairOne cooldown now id =
      some (g', p) := by
  induction ids generalizing g ps with
  | nil =>
    rw [pairLoop] at h
    exact absurd h (by simp)
  | cons id ids ih =>
    cases hone : g.pairOne cooldown now id with
    | none =>
      rw [pairLoop_none hone] at h
      exact absurd h (by simp)
    | some x =>
      obtain ⟨g', p'⟩ := x
      rw [pairLoop_some hone] at h
      cases ps with
      | nil =>
        obtain ⟨rfl, -⟩ := List.cons.inj h
        exact ⟨rfl, rfl, id, g', hone⟩
      | cons q ps =>
        obtain ⟨rfl, later⟩ := List.cons.inj h
        obtain ⟨offers, recent, found⟩ := ih later
        simp only [List.length_cons, List.take_succ_cons, pairLoop_some hone]
        exact ⟨congrArg _ offers, recent.trans (pairOne_spec hone).recent, found⟩

/-- The queue with the games of the rematch window alone. -/
def window (g : QueueInner) (cooldown : Nat) (now : Instant) : QueueInner :=
  { g with recent := g.recent.filter fun (_, _, since) => elapsed_secs now since < cooldown }

lemma pair_eq (g : QueueInner) (cooldown : Nat) (now : Instant) (ids : List String) :
    g.pair cooldown now ids = pairLoop cooldown now ids (g.window cooldown now) := rfl

/-- Forgetting games that are out of the window changes no repeat. -/
lemma repeat_window {now g cooldown a b} :
    Repeat now (g.window cooldown now) cooldown a b ↔ Repeat now g cooldown a b := by
  unfold Repeat window
  simp only [List.mem_filter, decide_eq_true_eq]
  constructor
  · rintro ⟨⟨since, recent, played⟩, young⟩
    exact ⟨⟨since, recent, played.imp And.left And.left⟩, young⟩
  · rintro ⟨⟨since, recent, played⟩, young⟩
    exact ⟨⟨since, recent, played.imp (⟨·, recent⟩) (⟨·, recent⟩)⟩, young⟩

/-- Repeats are read off the games alone. -/
lemma repeat_congr {now g g' cooldown a b} (h : g'.recent = g.recent) :
    Repeat now g' cooldown a b ↔ Repeat now g cooldown a b := by
  unfold Repeat
  rw [h]

/-- **A call of `pair`.** It ends, takes tickets out in pairs and puts each pair on offer once, leaves the
others waiting in their order, and offers nobody a match that a rule forbids. -/
theorem pair_spec {g : QueueInner} {cooldown now ids} (h : g.tickets.length ≤ 2 * ids.length) :
    let r := g.pair cooldown now ids
    find_pair now r.1 cooldown = none ∧
    r.1.tickets.Sublist g.tickets ∧ (r.1.tickets ++ r.2.flatMap Pending.sides).Perm g.tickets ∧
    r.1.pending = g.pending ++ r.2 ∧
    ∀ p ∈ r.2, Eligible now p.key p.a p.b ∧ p.a.queued_at ≤ p.b.queued_at := by
  refine ⟨?_, ?_⟩
  · exact pairLoop_ends (g := g.window cooldown now) h
  · exact pairLoop_spec (g := g.window cooldown now)

/-- A ticket of a player that measured and relays over ICE. -/
def sampleTicket (player_id account_id : String) : Ticket where
  player_id := player_id
  account_id := account_id
  handle := account_id
  keys := [{ game_name := "Example Game", game_version := "", disc_fp := "d41d", ruleset_id := "ranked"
             max_slots := 2 }]
  host_bind := "0.0.0.0:7777"
  guest_bind := "0.0.0.0:7778"
  ice_relay := true
  queued_at := 0
  rtt_ms := 10

/-- Two players that just played each other wait. -/
def rivals : QueueInner where
  tickets := [sampleTicket "p" "acc-alice", sampleTicket "q" "acc-bob"]
  recent := [("acc-bob", "acc-alice", 0)]

theorem pair_spec_rivals : find_pair 0 (rivals.pair 300 0 ["m"]).1 300 = none ∧
    (rivals.pair 300 0 ["m"]).1.pending = rivals.pending ++ (rivals.pair 300 0 ["m"]).2 ∧
    ∀ p ∈ (rivals.pair 300 0 ["m"]).2, Eligible 0 p.key p.a p.b := by
  obtain ⟨ends, -, -, pending, ok⟩ :=
    @pair_spec rivals 300 0 ["m"] (by decide)
  exact ⟨ends, pending, fun p hp => (ok p hp).1⟩

/-- **What `pair` passes over.** It leaves no two tickets that meet the hard rules, and where it offers a
repeat no two tickets waiting then made an eligible pair that was none. -/
theorem pair_leaves_none {g : QueueInner} {cooldown now ids}
    (h : g.tickets.length ≤ 2 * ids.length) :
    (NoneLeft now (g.pair cooldown now ids).1.tickets fun _ _ => True) ∧
    ∀ ps p qs, (g.pair cooldown now ids).2 = ps ++ p :: qs →
      let before := g.pair cooldown now (ids.take ps.length)
      before.2 = ps ∧ p.a ∈ before.1.tickets ∧ p.b ∈ before.1.tickets ∧
      (Repeat now g cooldown p.a p.b →
        NoneLeft now before.1.tickets fun a b => ¬ Repeat now g cooldown a b) := by
  rw [pair_eq]
  constructor
  · have ends : find_pair now (pairLoop cooldown now ids (g.window cooldown now)).1 cooldown = none :=
      pairLoop_ends h
    have left := find_pair_pass_noneLeft (Option.or_eq_none_iff.mp ends).2
    simpa only [true_or] using left
  · intro ps p qs hps
    rw [pair_eq]
    obtain ⟨offers, recent, id, g', hone⟩ := pairLoop_prefix hps
    have one := pairOne_spec hone
    refine ⟨offers, one.taken.subset (by simp), one.taken.subset (by simp), fun rep => ?_⟩
    -- The loop searches a queue with the games of the window.
    have same : ∀ a b, Repeat now
        (pairLoop cooldown now (ids.take ps.length) (g.window cooldown now)).1 cooldown a b ↔
        Repeat now g cooldown a b := fun a b => (repeat_congr recent).trans repeat_window
    have left := one.fresh_first ((same _ _).mpr rep)
    simpa only [same] using left

theorem pair_leaves_none_rivals :
    (NoneLeft 0 (rivals.pair 300 0 ["m"]).1.tickets fun _ _ => True) ∧
    ∃ p, (rivals.pair 300 0 ["m"]).2 = [p] ∧ (Repeat 0 rivals 300 p.a p.b →
      NoneLeft 0 rivals.tickets fun a b => ¬ Repeat 0 rivals 300 a b) := by
  obtain ⟨none, soft⟩ :=
    @pair_leaves_none rivals 300 0 ["m"] (by decide)
  obtain ⟨-, -, -, fresh⟩ := soft [] _ [] rfl
  exact ⟨none, _, rfl, fresh⟩

end QueueInner

end RecompNet
