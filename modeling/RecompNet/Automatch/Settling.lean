import RecompNet.Automatch.Pairing

/-!
# Settling offers

What `answer_for`, `remove_player`, `take_expired` and `pair` do to the offers that are pending, in terms
of the first offer that a connection is half of: the one its answers and its departure concern.
-/

open scoped List

namespace RecompNet

namespace Pending

/-- The ticket on a side: `true` is `a`. -/
def ticket (p : Pending) : Bool → Ticket
  | true => p.a
  | false => p.b

/-- The answer recorded for a side. -/
def accepted (p : Pending) : Bool → Option Bool
  | true => p.a_accept
  | false => p.b_accept

/-- A connection is the side whose ticket carries its id, `a` before `b`. -/
lemma side_eq_some {p : Pending} {player : String} {x : Bool} (h : p.side player = some x) :
    (p.ticket x).player_id = player ∧ (x = false → p.a.player_id ≠ player) := by
  unfold side at h
  split_ifs at h with ha hb
  · cases h
    exact ⟨ha, fun e => by cases e⟩
  · cases h
    exact ⟨hb, fun _ => ha⟩

end Pending

namespace QueueInner

/-- The offer that the answers of a connection concern. -/
def offer_of (g : QueueInner) (player : String) : Option Pending :=
  g.pending.find? fun p => (p.side player).isSome

/-- `p` is the first offer that a connection is half of. -/
structure FirstOf (g : QueueInner) (player : String) (before : List Pending) (p : Pending)
    (after : List Pending) : Prop where
  pending : g.pending = before ++ p :: after
  others : ∀ q ∈ before, (q.side player).isSome = false
  side : (p.side player).isSome

lemma offer_of_none {g : QueueInner} {player : String} (h : g.offer_of player = none) :
    ∀ p ∈ g.pending, (p.side player).isSome = false := by
  intro p hp
  exact Bool.eq_false_iff.mpr (List.find?_eq_none.mp h p hp)

lemma offer_of_some {g : QueueInner} {player : String} {p} (h : g.offer_of player = some p) :
    ∃ before after, FirstOf g player before p after := by
  obtain ⟨side, before, after, e, others⟩ := List.find?_eq_some_iff_append.mp h
  exact ⟨before, after, e, fun q hq => (Bool.not_eq_true' _).mp (others q hq), side⟩

lemma FirstOf.offer_of {g : QueueInner} {player : String} {before p after}
    (h : FirstOf g player before p after) : g.offer_of player = some p := by
  apply List.find?_eq_some_iff_append.mpr
  exact ⟨h.side, before, after, h.pending, fun q hq => (Bool.not_eq_true' _).mpr (h.others q hq)⟩

lemma FirstOf.findIdx {g : QueueInner} {player : String} {before p after}
    (h : FirstOf g player before p after) :
    g.pending.findIdx? (fun p => (p.side player).isSome) = some before.length := by
  have none : before.findIdx? (fun p => (p.side player).isSome) = none :=
    List.findIdx?_eq_none_iff.mpr h.others
  rw [h.pending, List.findIdx?_append, none, List.findIdx?_cons, h.side]
  simp

lemma FirstOf.get {g : QueueInner} {player : String} {before p after}
    (h : FirstOf g player before p after) : g.pending[before.length]? = some p := by
  rw [h.pending]
  simp

lemma FirstOf.erase {g : QueueInner} {player : String} {before p after}
    (h : FirstOf g player before p after) :
    g.pending.eraseIdx before.length = before ++ after := by
  rw [h.pending, List.eraseIdx_append_of_length_le le_rfl, Nat.sub_self]
  rfl

lemma FirstOf.set {g : QueueInner} {player : String} {before p after}
    (h : FirstOf g player before p after) (p' : Pending) :
    g.pending.set before.length p' = before ++ p' :: after := by
  rw [h.pending]
  simp

/-- Without an offer, an answer is ignored. -/
lemma answer_for_none {g : QueueInner} {player : String} {accept : Bool} {id : Option String}
    (h : g.offer_of player = none) : g.answer_for player accept id = (g, none) := by
  have none : g.pending.findIdx? (fun p => (p.side player).isSome) = none :=
    List.findIdx?_eq_none_iff.mpr (offer_of_none h)
  simp only [answer_for, none]

/-- An answer concerns the first offer alone. -/
lemma answer_for_first {g : QueueInner} {player : String} {accept : Bool} {id : Option String}
    {before p after} (h : FirstOf g player before p after) :
    g.answer_for player accept id =
      if id.any (· ≠ p.match_id) then (g, none)
      else if (recordAnswer p player accept).answered then
        ({ g with pending := before ++ after }, some (recordAnswer p player accept))
      else ({ g with pending := before ++ recordAnswer p player accept :: after }, none) := by
  simp only [answer_for, h.findIdx, h.get, h.erase, h.set]

/-- A connection that leaves takes its tickets and its first offer along. -/
lemma remove_player_first {g : QueueInner} {player : String} {before p after}
    (h : FirstOf g player before p after) :
    g.remove_player player =
      ({ g with
        tickets := g.tickets.filter (·.player_id ≠ player)
        pending := before ++ after }, some p) := by
  simp only [remove_player, h.findIdx, h.get, h.erase]

lemma remove_player_none {g : QueueInner} {player : String} (h : g.offer_of player = none) :
    g.remove_player player =
      ({ g with tickets := g.tickets.filter (·.player_id ≠ player) }, none) := by
  have none : g.pending.findIdx? (fun p => (p.side player).isSome) = none :=
    List.findIdx?_eq_none_iff.mpr (offer_of_none h)
  simp only [remove_player, none]

/-- An offer of a pairing has the next id, and nobody has answered it. -/
lemma pairOne_offer {g g' : QueueInner} {cooldown now id p}
    (h : g.pairOne cooldown now id = some (g', p)) :
    p.match_id = id ∧ p.a_accept = none ∧ p.b_accept = none := by
  unfold pairOne at h
  split at h
  · cases h
  · dsimp only at h
    split at h
    · cases h
      unfold offerOf
      split <;> exact ⟨rfl, rfl, rfl⟩
    · cases h

/-- The offers of a pairing carry the ids that were drawn for it, and nobody has answered them. -/
lemma pairLoop_offers {g : QueueInner} {cooldown now ids} :
    ((pairLoop cooldown now ids g).2.map (·.match_id)).Sublist ids ∧
      ∀ p ∈ (pairLoop cooldown now ids g).2, p.a_accept = none ∧ p.b_accept = none := by
  induction ids generalizing g with
  | nil => exact ⟨.slnil, fun p hp => by cases hp⟩
  | cons id ids ih =>
    cases hone : g.pairOne cooldown now id with
    | none =>
      rw [pairLoop_none hone]
      exact ⟨List.nil_sublist _, fun p hp => by cases hp⟩
    | some x =>
      obtain ⟨g', p⟩ := x
      obtain ⟨same, fresh⟩ := pairOne_offer hone
      rw [pairLoop_some hone]
      refine ⟨?_, ?_⟩
      · rw [List.map_cons, same]
        exact (ih (g := g')).1.cons_cons id
      · intro q hq
        rcases List.mem_cons.mp hq with rfl | hq
        · exact fresh
        · exact (ih (g := g')).2 q hq

lemma pair_offers {g : QueueInner} {cooldown now ids} :
    ((g.pair cooldown now ids).2.map (·.match_id)).Sublist ids ∧
      ∀ p ∈ (g.pair cooldown now ids).2, p.a_accept = none ∧ p.b_accept = none :=
  pairLoop_offers (g := g.window cooldown now)

lemma pair_pending {g : QueueInner} {cooldown now ids} :
    (g.pair cooldown now ids).1.pending = g.pending ++ (g.pair cooldown now ids).2 :=
  (pairLoop_spec (g := g.window cooldown now)).2.2.1

/-! ## A property of the tickets -/

/-- A property of the tickets, waiting or on offer. -/
structure Every (P : Ticket → Prop) (g : QueueInner) : Prop where
  tickets : ∀ t ∈ g.tickets, P t
  pending : ∀ p ∈ g.pending, ∀ x, P (p.ticket x)

section
variable {P : Ticket → Prop} {g : QueueInner}

lemma Every.push (h : g.Every P) {t : Ticket} (ht : P t) : (g.push t).Every P where
  tickets := by
    intro t' ht'
    rcases List.mem_append.mp ht' with old | new
    · exact h.tickets t' old
    · exact List.mem_singleton.mp new ▸ ht
  pending := h.pending

lemma Every.requeue_front (h : g.Every P) {t : Ticket} {now : Instant}
    (ht : P { t with queued_at := now }) : (g.requeue_front t now).Every P where
  tickets := by
    intro t' ht'
    rcases List.mem_cons.mp ht' with rfl | old
    · exact ht
    · exact h.tickets t' old
  pending := h.pending

lemma Every.note_pairing (h : g.Every P) {a b : String} {now : Instant} :
    (g.note_pairing a b now).Every P := ⟨h.tickets, h.pending⟩

/-- A measurement changes no other field of a ticket. -/
lemma Every.set_rtt (h : g.Every P) {player : String} {rtt : Int}
    (same : ∀ t, P t → P { t with rtt_ms := rtt }) : (g.set_rtt player rtt).Every P where
  tickets := by
    have all : ∀ ts : List Ticket, (∀ t ∈ ts, P t) →
        ∀ t ∈ updateFirst (·.player_id = player) ({ · with rtt_ms := rtt }) ts, P t := by
      intro ts
      induction ts with
      | nil => exact fun _ t ht => by cases ht
      | cons u us ih =>
        intro old t ht
        simp only [updateFirst] at ht
        split at ht
        · rcases List.mem_cons.mp ht with rfl | ht
          · exact same u (old u List.mem_cons_self)
          · exact old t (List.mem_cons_of_mem _ ht)
        · rcases List.mem_cons.mp ht with rfl | ht
          · exact old _ List.mem_cons_self
          · exact ih (fun t ht => old t (List.mem_cons_of_mem _ ht)) t ht
    exact all g.tickets h.tickets
  pending := h.pending

/-- Leaving keeps the property, also of the offer that is handed back. -/
lemma Every.remove_player (h : g.Every P) (player : String) :
    (g.remove_player player).1.Every P ∧
      ∀ p, (g.remove_player player).2 = some p → ∀ x, P (p.ticket x) := by
  have kept : ∀ t ∈ g.tickets.filter (·.player_id ≠ player), P t :=
    fun t ht => h.tickets t (List.mem_of_mem_filter ht)
  cases hoff : g.offer_of player with
  | none =>
    rw [remove_player_none hoff]
    exact ⟨⟨kept, h.pending⟩, fun p e => by cases e⟩
  | some p =>
    obtain ⟨before, after, first⟩ := offer_of_some hoff
    rw [remove_player_first first]
    have pending := h.pending
    rw [first.pending] at pending
    constructor
    · refine ⟨kept, fun q hq => pending q ?_⟩
      rcases List.mem_append.mp hq with hq | hq
      · exact List.mem_append_left _ hq
      · exact List.mem_append_right _ (List.mem_cons_of_mem _ hq)
    · intro q e
      cases e
      exact pending p (List.mem_append_right _ List.mem_cons_self)

/-- An answer keeps the property, also of the offer that it decides. -/
lemma Every.answer_for (h : g.Every P) (player : String) (accept : Bool) (id : Option String) :
    (g.answer_for player accept id).1.Every P ∧
      ∀ p, (g.answer_for player accept id).2 = some p → ∀ x, P (p.ticket x) := by
  cases hoff : g.offer_of player with
  | none =>
    rw [answer_for_none hoff]
    exact ⟨h, fun p e => by cases e⟩
  | some p =>
    obtain ⟨before, after, first⟩ := offer_of_some hoff
    have pending := h.pending
    rw [first.pending] at pending
    have answered : ∀ x, P ((recordAnswer p player accept).ticket x) := by
      intro x
      have same : (recordAnswer p player accept).ticket x = p.ticket x := by
        unfold recordAnswer
        split <;> cases x <;> rfl
      rw [same]
      exact pending p (List.mem_append_right _ List.mem_cons_self) x
    have others : ∀ q ∈ before ++ after, ∀ x, P (q.ticket x) := by
      intro q hq
      apply pending q
      rcases List.mem_append.mp hq with hq | hq
      · exact List.mem_append_left _ hq
      · exact List.mem_append_right _ (List.mem_cons_of_mem _ hq)
    rw [answer_for_first first]
    split_ifs
    · exact ⟨h, fun p e => by cases e⟩
    · refine ⟨⟨h.tickets, others⟩, fun q e => ?_⟩
      cases e
      exact answered
    · refine ⟨⟨h.tickets, fun q hq => ?_⟩, fun q e => by cases e⟩
      rcases List.mem_append.mp hq with hq | hq
      · exact others q (List.mem_append_left _ hq)
      · rcases List.mem_cons.mp hq with rfl | hq
        · exact answered
        · exact others q (List.mem_append_right _ hq)

/-- Expiry keeps the property, also of the offers that lapsed. -/
lemma Every.take_expired (h : g.Every P) (accept_secs : Nat) (now : Instant) :
    (g.take_expired accept_secs now).1.Every P ∧
      ∀ p ∈ (g.take_expired accept_secs now).2, ∀ x, P (p.ticket x) :=
  ⟨⟨h.tickets, fun p hp => h.pending p (List.mem_of_mem_filter hp)⟩,
    fun p hp => h.pending p (List.mem_of_mem_filter hp)⟩

/-- A pairing keeps the property. -/
lemma Every.pair (h : g.Every P) (cooldown : Nat) (now : Instant) (ids : List String) :
    (g.pair cooldown now ids).1.Every P := by
  obtain ⟨order, taken, pending, -⟩ := @pairLoop_spec (g.window cooldown now) cooldown now ids
  refine ⟨fun t ht => h.tickets t (order.subset ht), fun p hp x => ?_⟩
  have hp : p ∈ (pairLoop cooldown now ids (g.window cooldown now)).1.pending := hp
  rw [pending] at hp
  rcases List.mem_append.mp hp with old | new
  · exact h.pending p old x
  · refine h.tickets _ (taken.subset (List.mem_append_right _ ?_))
    refine List.mem_flatMap.mpr ⟨p, new, ?_⟩
    cases x
    · exact List.mem_cons_of_mem _ List.mem_cons_self
    · exact List.mem_cons_self

end

end QueueInner

end RecompNet
