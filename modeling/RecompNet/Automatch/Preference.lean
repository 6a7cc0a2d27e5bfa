import RecompNet.Automatch.Settling

/-!
# Preference

Which key an offer is on. The scan takes the key from the order of the ticket that stands first in
the queue, `pair` calls the ticket with the earlier `queued_at` side `a`, and the two agree as long
as nothing puts a ticket in front of an older one. `requeue_front` stamps the ticket anew and does
put it there.
-/

namespace RecompNet

namespace Ticket

/-- The first key in the ticket's own order of preference that another ticket also holds. -/
def first_shared (t u : Ticket) : Option MatchKey := t.keys.find? (· ∈ u.keys)

/-- The lasting rules of a pair: those that neither the clock nor a measurement changes. -/
structure Partners (t u : Ticket) : Prop where
  accounts : t.account_id ≠ u.account_id
  unblocked : u.account_id ∉ t.blocks ∧ t.account_id ∉ u.blocks
  relay : relay_possible t u

/-- `t` may stand in front of `u`: it is no younger, or it does not matter for the key of an offer.
-/
def MayPrecede (t u : Ticket) : Prop :=
  t.Partners u → t.queued_at ≤ u.queued_at ∨ t.first_shared u = u.first_shared t

/-- A measurement changes none of the lasting rules. -/
lemma partners_rtt {t u : Ticket} {r r' : Int} :
    Partners { t with rtt_ms := r } { u with rtt_ms := r' } ↔ t.Partners u :=
  ⟨fun h => ⟨h.accounts, h.unblocked, h.relay⟩, fun h => ⟨h.accounts, h.unblocked, h.relay⟩⟩

/-- A measurement has no part in the order of two tickets. -/
lemma mayPrecede_rtt {t u : Ticket} {r r' : Int} :
    MayPrecede { t with rtt_ms := r } { u with rtt_ms := r' } ↔ t.MayPrecede u := by
  unfold MayPrecede
  rw [partners_rtt]
  exact Iff.rfl

/-- A search for a shared key ends at a key of both. -/
lemma first_shared_some {t u : Ticket} {key : MatchKey} (h : t.first_shared u = some key) :
    key ∈ t.keys ∧ key ∈ u.keys :=
  ⟨List.mem_of_find?_eq_some h, by simpa using List.find?_some h⟩

/-- Two tickets that share a key have a first one in either order. -/
lemma first_shared_isSome {t u : Ticket} {key : MatchKey} (ht : key ∈ t.keys) (hu : key ∈ u.keys) :
    (t.first_shared u).isSome :=
  List.find?_isSome.mpr ⟨key, ht, decide_eq_true hu⟩

/-- Tickets that share no key agree on the first one. -/
lemma first_shared_none {t u : Ticket} (h : t.first_shared u = none) : u.first_shared t = none := by
  cases e : u.first_shared t with
  | none => rfl
  | some key =>
    obtain ⟨hu, ht⟩ := first_shared_some e
    rw [← Option.not_isSome_iff_eq_none] at h
    exact absurd (first_shared_isSome ht hu) h

end Ticket

/-- The offer is on the first key in the order of side `a` that side `b` also holds. -/
def Pending.OnFirst (p : Pending) : Prop := p.a.first_shared p.b = some p.key

lemma Eligible.partners {now key a b} (h : Eligible now key a b) : a.Partners b :=
  ⟨h.accounts, h.unblocked, h.relay⟩

/-- The key of an eligible pair may be any other that both hold. -/
lemma Eligible.other_key {now key key' a b} (h : Eligible now key a b) (left : key' ∈ a.keys)
    (right : key' ∈ b.keys) : Eligible now key' a b :=
  { h with left, right }

/-! ## The key of an offer -/

/-- A search over an initial segment of the numbers stops at the least one that answers. -/
lemma findSome?_range {β : Type} {f : Nat → Option β} {n : Nat} {b : β}
    (h : (List.range n).findSome? f = some b) : ∃ i < n, f i = some b ∧ ∀ k < i, f k = none := by
  induction n with
  | zero => cases h
  | succ n ih =>
    rw [List.range_succ, List.findSome?_append] at h
    rcases Option.or_eq_some_iff.mp h with earlier | ⟨nothing, last⟩
    · obtain ⟨i, hi, found⟩ := ih earlier
      exact ⟨i, Nat.lt_succ_of_lt hi, found⟩
    · refine ⟨n, Nat.lt_succ_self n, ?_, fun k hk => ?_⟩
      · simpa using last
      · exact List.findSome?_eq_none_iff.mp nothing k (List.mem_range.mpr hk)

/-- A pass finds its pair from the one that stands first, and takes that ticket's first shared key.
-/
lemma find_pair_pass_first {now g cooldown rematch i j key}
    (h : find_pair_pass now g cooldown rematch = some (i, j, key)) :
    i < j ∧ ∃ a b, g.tickets[i]? = some a ∧ g.tickets[j]? = some b ∧ Eligible now key a b ∧
      a.first_shared b = some key := by
  obtain ⟨hne, a, b, ha, hb, ok, soft⟩ := find_pair_pass_some h
  unfold find_pair_pass at h
  obtain ⟨i', -, row, above⟩ := findSome?_range h
  obtain ⟨a', ha', keys⟩ := Option.bind_eq_some_iff.mp row
  obtain ⟨before, k, after, order, column, others⟩ := List.findSome?_eq_some_iff.mp keys
  obtain ⟨j', -, cell⟩ := List.exists_of_findSome?_eq_some column
  obtain ⟨b', hb', cell⟩ := Option.bind_eq_some_iff.mp cell
  split at cell
  · cases cell
    rw [ha] at ha'
    cases ha'
    refine ⟨?_, a, b, ha, hb, ok, ?_⟩
    · by_contra hji
      -- The partner stands in front: its own row would have ended the search.
      have empty := above j (by omega)
      rw [hb, Option.bind_some, List.findSome?_eq_none_iff] at empty
      have column := empty key ok.right
      rw [List.findSome?_eq_none_iff] at column
      have cell := column i (List.mem_range.mpr (List.getElem?_eq_some_iff.mp ha).1)
      rw [ha, Option.bind_some, if_pos ⟨hne.symm, (pairable_iff ok.right).mpr
        ⟨ok.symm, soft.imp_right fun no rep => no rep.symm⟩⟩] at cell
      cases cell
    · refine List.find?_eq_some_iff_append.mpr ⟨decide_eq_true ok.right, before, after, order, ?_⟩
      intro k hk
      have nothing := List.findSome?_eq_none_iff.mp (others k hk) j
        (List.mem_range.mpr (List.getElem?_eq_some_iff.mp hb).1)
      rw [hb, Option.bind_some] at nothing
      by_contra held
      have left : k ∈ a.keys := order ▸ List.mem_append_left _ hk
      have right : k ∈ b.keys := by simpa using held
      rw [if_pos ⟨hne, (pairable_iff left).mpr ⟨ok.other_key left right, soft⟩⟩] at nothing
      cases nothing
  · cases cell

namespace QueueInner

/-- Every waiting ticket may stand where it does. -/
def InOrder (g : QueueInner) : Prop := g.tickets.Pairwise Ticket.MayPrecede

/-- One turn of the loop takes two tickets and offers the first key of the one in front. -/
lemma pairOne_first {g g' : QueueInner} {cooldown now id p}
    (h : g.pairOne cooldown now id = some (g', p)) :
    ∃ (i j : Nat) (x y : Ticket), i < j ∧ g.tickets[i]? = some x ∧ g.tickets[j]? = some y ∧
      x.Partners y ∧ x.first_shared y = some p.key ∧ p = offerOf p.key x y id now := by
  unfold pairOne at h
  split at h
  · cases h
  · rename_i i j key hfind
    have first : i < j ∧ ∃ a b, g.tickets[i]? = some a ∧ g.tickets[j]? = some b ∧
        Eligible now key a b ∧ a.first_shared b = some key := by
      rcases Option.or_eq_some_iff.mp hfind with fresh | ⟨-, again⟩
      · exact find_pair_pass_first fresh
      · exact find_pair_pass_first again
    obtain ⟨hlt, a, b, ha, hb, ok, shared⟩ := first
    dsimp only at h
    rw [Nat.max_eq_right hlt.le, Nat.min_eq_left hlt.le, hb, ha] at h
    cases h
    refine ⟨i, j, a, b, hlt, ha, hb, ok.partners, ?_, ?_⟩
    · rw [offerOf_key, shared]
    · rw [offerOf_key]

/-- The offer of two tickets is on the first key of the older one iff the one in front may stand
there. -/
lemma offerOf_onFirst_iff {x y : Ticket} {key : MatchKey} {id : String} {now : Instant}
    (partners : x.Partners y) (shared : x.first_shared y = some key) :
    (offerOf key x y id now).OnFirst ↔ x.MayPrecede y := by
  unfold offerOf Ticket.MayPrecede
  split
  · rename_i older
    exact iff_of_true shared fun _ => .inl older
  · rename_i younger
    constructor
    · exact fun on _ => .inr (shared.trans on.symm)
    · intro may
      rcases may partners with older | same
      · exact absurd older younger
      · exact same.symm.trans shared

/-- In a queue that is in order every offer is on the first key of the older side. -/
lemma pairLoop_onFirst {g : QueueInner} {cooldown now ids} (h : g.InOrder) :
    ∀ p ∈ (pairLoop cooldown now ids g).2, p.OnFirst := by
  induction ids generalizing g with
  | nil => exact fun p hp => by cases hp
  | cons id ids ih =>
    cases hone : g.pairOne cooldown now id with
    | none =>
      rw [pairLoop_none hone]
      exact fun p hp => by cases hp
    | some r =>
      obtain ⟨g', p⟩ := r
      rw [pairLoop_some hone]
      intro q hq
      rcases List.mem_cons.mp hq with rfl | later
      · obtain ⟨i, j, x, y, hlt, hx, hy, partners, shared, offer⟩ := pairOne_first hone
        obtain ⟨hi, rfl⟩ := List.getElem?_eq_some_iff.mp hx
        obtain ⟨hj, rfl⟩ := List.getElem?_eq_some_iff.mp hy
        rw [offer]
        exact (offerOf_onFirst_iff partners shared).mpr
          (List.pairwise_iff_getElem.mp h i j hi hj hlt)
      · exact ih (h.sublist (pairOne_spec hone).order) q later

end QueueInner

/-! ## Runs of the queue -/

/-- An operation on the queue. -/
inductive QueueOp
  | push (t : Ticket)
  | remove_player (player_id : String)
  | set_rtt (player_id : String) (rtt_ms : Int)
  | answer_for (player_id : String) (accept : Bool) (match_id : Option String)
  | take_expired (accept_secs : Nat)
  | note_pairing (a b : String)
  | requeue_front (t : Ticket)
  | pair (cooldown : Nat) (match_ids : List String)

namespace QueueOp

/-- The queue after an operation, and the offers that it made. -/
def apply (g : QueueInner) (now : Instant) : QueueOp → QueueInner × List Pending
  | .push t => (g.push t, [])
  | .remove_player player_id => ((g.remove_player player_id).1, [])
  | .set_rtt player_id rtt_ms => (g.set_rtt player_id rtt_ms, [])
  | .answer_for player_id accept match_id => ((g.answer_for player_id accept match_id).1, [])
  | .take_expired accept_secs => ((g.take_expired accept_secs now).1, [])
  | .note_pairing a b => (g.note_pairing a b now, [])
  | .requeue_front t => (g.requeue_front t now, [])
  | .pair cooldown match_ids => g.pair cooldown now match_ids

/-- Does the operation put a ticket into the queue? -/
def enters : QueueOp → Bool
  | .push _ | .requeue_front _ => true
  | _ => false

/-- A ticket that the operation puts into the queue may stand where it puts it. -/
def Orderly (g : QueueInner) (now : Instant) : QueueOp → Prop
  | .push t => ∀ u ∈ g.tickets, u.MayPrecede t
  | .requeue_front t => ∀ u ∈ g.tickets, Ticket.MayPrecede { t with queued_at := now } u
  | _ => True

end QueueOp

namespace QueueInner

/-- The queue after a run of operations, each at its reading of the clock, and the offers of the
run. -/
def run : QueueInner → List (Instant × QueueOp) → QueueInner × List Pending
  | g, [] => (g, [])
  | g, (now, op) :: ops =>
    let (g, made) := op.apply g now
    let (g, later) := run g ops
    (g, made ++ later)

/-- Every operation of a run is orderly where it falls. -/
def Orderly : QueueInner → List (Instant × QueueOp) → Prop
  | _, [] => True
  | g, (now, op) :: ops => op.Orderly g now ∧ Orderly (op.apply g now).1 ops

lemma run_append (g : QueueInner) (ops later : List (Instant × QueueOp)) :
    g.run (ops ++ later) =
      (((g.run ops).1.run later).1, (g.run ops).2 ++ ((g.run ops).1.run later).2) := by
  induction ops generalizing g with
  | nil => rfl
  | cons o ops ih => simp only [List.cons_append, run, ih, List.append_assoc]

/-- A measurement has no part in the order. -/
lemma set_rtt_inOrder {g : QueueInner} {player : String} {rtt : Int} :
    (g.set_rtt player rtt).InOrder ↔ g.InOrder := by
  let unmeasured : Ticket → Ticket := fun t => { t with rtt_ms := 0 }
  have same : (g.set_rtt player rtt).tickets.map unmeasured = g.tickets.map unmeasured :=
    map_updateFirst (·.player_id = player) ({ · with rtt_ms := rtt }) _ (fun _ => rfl) g.tickets
  have strip : ∀ ts : List Ticket,
      ts.Pairwise Ticket.MayPrecede ↔ (ts.map unmeasured).Pairwise Ticket.MayPrecede := by
    intro ts
    rw [List.pairwise_map]
    simp only [unmeasured, Ticket.mayPrecede_rtt]
  unfold InOrder
  rw [strip, same, ← strip]

lemma remove_player_tickets (g : QueueInner) (player : String) :
    (g.remove_player player).1.tickets = g.tickets.filter (·.player_id ≠ player) := by
  unfold remove_player
  dsimp only
  split <;> rfl

lemma answer_for_tickets (g : QueueInner) (player : String) (accept : Bool) (id : Option String) :
    (g.answer_for player accept id).1.tickets = g.tickets := by
  unfold answer_for
  split
  · rfl
  · split
    · rfl
    · dsimp only
      split_ifs <;> rfl

/-- A queue that is in order stays so iff the operation is orderly. -/
lemma apply_inOrder_iff {g : QueueInner} {now : Instant} {op : QueueOp} (h : g.InOrder) :
    (op.apply g now).1.InOrder ↔ op.Orderly g now := by
  cases op with
  | push t =>
    show (g.tickets ++ [t]).Pairwise Ticket.MayPrecede ↔ _
    rw [List.pairwise_append]
    constructor
    · exact fun ⟨_, _, across⟩ u hu => across u hu t (List.mem_singleton.mpr rfl)
    · refine fun orderly => ⟨h, List.pairwise_singleton _ _, fun u hu t' ht' => ?_⟩
      rw [List.mem_singleton.mp ht']
      exact orderly u hu
  | requeue_front t =>
    show (_ :: g.tickets).Pairwise Ticket.MayPrecede ↔ _
    rw [List.pairwise_cons]
    exact and_iff_left h
  | remove_player player =>
    refine iff_of_true ?_ trivial
    show (g.remove_player player).1.tickets.Pairwise Ticket.MayPrecede
    rw [remove_player_tickets]
    exact h.sublist List.filter_sublist
  | set_rtt player rtt => exact iff_of_true (set_rtt_inOrder.mpr h) trivial
  | answer_for player accept id =>
    refine iff_of_true ?_ trivial
    show (g.answer_for player accept id).1.tickets.Pairwise Ticket.MayPrecede
    rw [answer_for_tickets]
    exact h
  | take_expired secs => exact iff_of_true h trivial
  | note_pairing a b => exact iff_of_true h trivial
  | pair cooldown ids =>
    refine iff_of_true ?_ trivial
    exact h.sublist (pairLoop_spec (g := g.window cooldown now)).1

/-- An operation on a queue that is in order offers what the older ticket prefers. -/
lemma apply_onFirst {g : QueueInner} {now : Instant} {op : QueueOp} (h : g.InOrder) :
    ∀ p ∈ (op.apply g now).2, p.OnFirst := by
  cases op with
  | pair cooldown ids => exact pairLoop_onFirst (g := g.window cooldown now) h
  | push | remove_player | set_rtt | answer_for | take_expired | note_pairing | requeue_front =>
    exact fun p hp => by cases hp

/-- An orderly run offers what the older ticket prefers, and stays in order. -/
lemma run_onFirst {g : QueueInner} {ops} (h : g.InOrder) (orderly : g.Orderly ops) :
    (g.run ops).1.InOrder ∧ ∀ p ∈ (g.run ops).2, p.OnFirst := by
  induction ops generalizing g with
  | nil => exact ⟨h, fun p hp => by cases hp⟩
  | cons o ops ih =>
    obtain ⟨here, later⟩ := orderly
    obtain ⟨stays, rest⟩ := ih ((apply_inOrder_iff h).mpr here) later
    refine ⟨stays, fun p hp => ?_⟩
    rcases List.mem_append.mp hp with now | hp
    · exact apply_onFirst h p now
    · exact rest p hp

/-! ## Out of order -/

/-- Nobody waits twice. -/
def Distinct (g : QueueInner) : Prop := (g.tickets.map (·.player_id)).Nodup

lemma run_remove (g : QueueInner) (now : Instant) (players : List String) :
    (g.run (players.map fun p => (now, .remove_player p))).2 = [] ∧
    (g.run (players.map fun p => (now, .remove_player p))).1.tickets =
      g.tickets.filter (·.player_id ∉ players) := by
  induction players generalizing g with
  | nil => exact ⟨rfl, (List.filter_eq_self.mpr (by simp)).symm⟩
  | cons p ps ih =>
    obtain ⟨quiet, tickets⟩ := ih (g.remove_player p).1
    refine ⟨quiet, tickets.trans ?_⟩
    rw [remove_player_tickets, List.filter_filter]
    apply List.filter_congr
    intro t _
    rw [← Bool.decide_and]
    exact decide_eq_decide.mpr (by rw [List.mem_cons, not_or, and_comm])

/-- Is the connection one of two? -/
def either (x y t : Ticket) : Bool := t.player_id = x.player_id || t.player_id = y.player_id

/-- Everybody but two can leave. -/
lemma filter_either {ts : List Ticket} {x y : Ticket} (distinct : (ts.map (·.player_id)).Nodup)
    (two : [x, y].Sublist ts) : ts.filter (either x y) = [x, y] := by
  symm
  have kept := two.filter (either x y)
  rw [List.filter_eq_self.mpr (by simp [either])] at kept
  refine kept.eq_of_length_le ?_
  -- Those that stay have one of two ids, and each has its own.
  have own : ((ts.filter (either x y)).map (·.player_id)).Nodup :=
    List.Nodup.sublist (List.filter_sublist.map _) distinct
  have among : (ts.filter (either x y)).map (·.player_id) ⊆ [x.player_id, y.player_id] := by
    intro id hid
    obtain ⟨t, ht, rfl⟩ := List.mem_map.mp hid
    simpa [either] using List.of_mem_filter ht
  simpa using (List.subperm_of_subset own among).length_le

/-- Two measured tickets that wait alone are paired at once when they may be. -/
lemma pairs_at_once {g : QueueInner} {x y : Ticket} {key : MatchKey} {id : String} {now : Instant}
    (alone : g.tickets = [x, y]) (mx : x.rtt_ms = 0) (my : y.rtt_ms = 0)
    (partners : x.Partners y) (shared : x.first_shared y = some key) :
    ∃ g', g.pairOne 0 now id = some (g', offerOf key x y id now) := by
  obtain ⟨left, right⟩ := Ticket.first_shared_some shared
  have eligible : Eligible now key x y :=
    { left, right, accounts := partners.accounts, unblocked := partners.unblocked
      relay := partners.relay
      measured := by simp [measurable, mx, my]
      rtt := by simp [rtt_ok, mx, my] }
  cases hone : g.pairOne 0 now id with
  | none =>
    have nothing := (Option.or_eq_none_iff.mp (pairOne_none hone)).2
    refine absurd ⟨eligible, .inl rfl⟩
      (find_pair_pass_none nothing (i := 0) (j := 1) Nat.zero_ne_one ?_ ?_)
    · rw [alone]
      rfl
    · rw [alone]
      rfl
  | some r =>
    obtain ⟨g', p⟩ := r
    obtain ⟨i, j, x', y', hlt, hx, hy, -, shared', offer⟩ := pairOne_first hone
    rw [alone] at hx hy
    have hj := (List.getElem?_eq_some_iff.mp hy).1
    obtain ⟨rfl, rfl⟩ : i = 0 ∧ j = 1 := by
      simp only [List.length_cons, List.length_nil] at hj
      omega
    cases hx
    cases hy
    rw [shared] at shared'
    cases shared'
    exact ⟨g', by rw [← offer]⟩

/-- A queue that is out of order can offer a key that the older ticket does not prefer, though
nobody enters it any more. -/
lemma out_of_order {g : QueueInner} (distinct : g.Distinct) (h : ¬ g.InOrder) (now : Instant) :
    ∃ later, (∀ o ∈ later, o.1 = now ∧ o.2.enters = false) ∧
      ∃ p ∈ (g.run later).2, ¬ p.OnFirst := by
  unfold InOrder at h
  rw [List.pairwise_iff_forall_sublist] at h
  push Not at h
  obtain ⟨x, y, two, may⟩ := h
  have partners : x.Partners y := by
    by_contra no
    exact may fun partners => absurd partners no
  obtain ⟨key, shared⟩ : ∃ key, x.first_shared y = some key := by
    cases e : x.first_shared y with
    | some key => exact ⟨key, rfl⟩
    | none => exact absurd (fun _ => .inr (e.trans (Ticket.first_shared_none e).symm)) may
  -- Everybody but the two leaves, the two measure alike, and the pass has nobody else to pair.
  let gone := (g.tickets.filter (! either x y ·)).map (·.player_id)
  let clear := gone.map fun p => (now, QueueOp.remove_player p)
  let rest : List (Instant × QueueOp) :=
    [(now, .set_rtt x.player_id 0), (now, .set_rtt y.player_id 0), (now, .pair 0 [""])]
  refine ⟨clear ++ rest, ?_, ?_⟩
  · intro o ho
    rcases List.mem_append.mp ho with ho | ho
    · obtain ⟨p, -, rfl⟩ := List.mem_map.mp ho
      exact ⟨rfl, rfl⟩
    · simp only [rest, List.mem_cons, List.not_mem_nil, or_false] at ho
      rcases ho with rfl | rfl | rfl <;> exact ⟨rfl, rfl⟩
  · obtain ⟨-, cleared⟩ := run_remove g now gone
    have alone : (g.run clear).1.tickets = [x, y] := by
      refine cleared.trans ((List.filter_congr fun t ht => ?_).trans (filter_either distinct two))
      rw [Bool.eq_iff_iff, decide_eq_true_eq]
      constructor
      · intro kept
        by_contra leaves
        exact kept (List.mem_map_of_mem (List.mem_filter.mpr ⟨ht, by simpa using leaves⟩))
      · intro stays left
        obtain ⟨t', ht', same⟩ := List.mem_map.mp left
        have leaves := List.of_mem_filter ht'
        simp only [either, same] at leaves stays
        simp [stays] at leaves
    have apart : x.player_id ≠ y.player_id := by
      have ids : ([x, y].map (·.player_id)).Nodup := List.Nodup.sublist (two.map _) distinct
      simpa using ids
    let x' : Ticket := { x with rtt_ms := 0 }
    let y' : Ticket := { y with rtt_ms := 0 }
    let measured : QueueInner :=
      ((g.run clear).1.set_rtt x.player_id 0).set_rtt y.player_id 0
    have waiting : (measured.window 0 now).tickets = [x', y'] := by
      show (measured.tickets : List Ticket) = _
      simp [measured, set_rtt, alone, updateFirst, apart, x', y']
    have partners' : x'.Partners y' := Ticket.partners_rtt.mpr partners
    obtain ⟨g', one⟩ := @pairs_at_once _ x' y' key "" now waiting rfl rfl partners' shared
    refine ⟨offerOf key x' y' "" now, ?_, fun on => may (Ticket.mayPrecede_rtt.mp
      ((offerOf_onFirst_iff partners' shared).mp on))⟩
    rw [run_append]
    refine List.mem_append_right _ ?_
    show _ ∈ (measured.pair 0 now [""]).2 ++ []
    rw [pair_eq, pairLoop_some one]
    exact List.mem_append_left _ List.mem_cons_self

end QueueInner

/-! ## Stamped runs -/

/-- The readings of a run do not go back, and a ticket that is pushed is stamped at the reading. -/
structure Clocked (ops : List (Instant × QueueOp)) : Prop where
  readings : ops.Pairwise (·.1 ≤ ·.1)
  stamped : ∀ now t, (now, QueueOp.push t) ∈ ops → t.queued_at = now

namespace QueueInner

/-- Every ticket that is put back at the front of a run may stand there. -/
def RequeuesOrderly : QueueInner → List (Instant × QueueOp) → Prop
  | _, [] => True
  | g, (now, op) :: ops => (∀ t, op = .requeue_front t → op.Orderly g now) ∧
      RequeuesOrderly (op.apply g now).1 ops

/-- No ticket is younger than the clock. -/
lemma apply_stamped {g : QueueInner} {now : Instant} {op : QueueOp}
    (h : ∀ t ∈ g.tickets, t.queued_at ≤ now) (pushed : ∀ t, op = .push t → t.queued_at = now) :
    ∀ t ∈ (op.apply g now).1.tickets, t.queued_at ≤ now := by
  intro t ht
  cases op with
  | push u =>
    rcases List.mem_append.mp ht with old | new
    · exact h t old
    · rw [List.mem_singleton.mp new, pushed u rfl]
  | requeue_front u =>
    rcases List.mem_cons.mp ht with rfl | old
    · exact le_rfl
    · exact h t old
  | remove_player player =>
    have ht : t ∈ (g.remove_player player).1.tickets := ht
    rw [remove_player_tickets] at ht
    exact h t (List.mem_of_mem_filter ht)
  | set_rtt player rtt =>
    have same : (g.set_rtt player rtt).tickets.map (·.queued_at) = g.tickets.map (·.queued_at) :=
      map_updateFirst (·.player_id = player) ({ · with rtt_ms := rtt }) _ (fun _ => rfl) g.tickets
    have stamp := List.mem_map_of_mem (f := (·.queued_at)) ht
    obtain ⟨u, hu, e⟩ := List.mem_map.mp (same ▸ stamp : t.queued_at ∈ g.tickets.map (·.queued_at))
    exact e ▸ h u hu
  | answer_for player accept id =>
    have ht : t ∈ (g.answer_for player accept id).1.tickets := ht
    rw [answer_for_tickets] at ht
    exact h t ht
  | take_expired secs => exact h t ht
  | note_pairing a b => exact h t ht
  | pair cooldown ids => exact h t ((pairLoop_spec (g := g.window cooldown now)).1.subset ht)

/-- In a stamped run only putting a ticket back can break the order. -/
lemma orderly_of_clocked {g : QueueInner} {ops} (clocked : Clocked ops)
    (past : ∀ o ∈ ops, ∀ t ∈ g.tickets, t.queued_at ≤ o.1) (h : g.RequeuesOrderly ops) :
    g.Orderly ops := by
  induction ops generalizing g with
  | nil => trivial
  | cons o ops ih =>
    obtain ⟨now, op⟩ := o
    obtain ⟨here, later⟩ := h
    obtain ⟨next, readings⟩ := List.pairwise_cons.mp clocked.readings
    have waiting := past (now, op) List.mem_cons_self
    have pushed : ∀ t, op = .push t → t.queued_at = now :=
      fun t e => clocked.stamped now t (e ▸ List.mem_cons_self)
    have clocked' : Clocked ops :=
      ⟨readings, fun n t ht => clocked.stamped n t (List.mem_cons_of_mem _ ht)⟩
    refine ⟨?_, ih clocked' ?_ later⟩
    · cases op with
      | push t =>
        intro u hu _
        rw [pushed t rfl]
        exact .inl (waiting u hu)
      | requeue_front t => exact here t rfl
      | _ => trivial
    · intro o ho t ht
      exact (apply_stamped waiting pushed t ht).trans (next o ho)

/-- A run is orderly iff it never leaves the queue out of order. -/
lemma orderly_iff {g : QueueInner} {ops} (h : g.InOrder) :
    g.Orderly ops ↔ ∀ ops', ops' <+: ops → (g.run ops').1.InOrder := by
  induction ops generalizing g with
  | nil =>
    refine iff_of_true trivial fun ops' pre => ?_
    rw [List.prefix_nil.mp pre]
    exact h
  | cons o ops ih =>
    obtain ⟨now, op⟩ := o
    constructor
    · rintro ⟨here, later⟩ ops' pre
      rcases List.prefix_cons_iff.mp pre with rfl | ⟨rest, rfl, behind⟩
      · exact h
      · exact (ih ((apply_inOrder_iff h).mpr here)).mp later rest behind
    · intro all
      have next : (op.apply g now).1.InOrder :=
        all [(now, op)] (List.prefix_cons_iff.mpr (.inr ⟨[], rfl, List.nil_prefix⟩))
      refine ⟨(apply_inOrder_iff h).mp next, (ih next).mpr fun rest pre => ?_⟩
      exact all ((now, op) :: rest) (List.prefix_cons_iff.mpr (.inr ⟨rest, rfl, pre⟩))

/-- Operations that nobody enters by are orderly. -/
lemma orderly_of_quiet {g : QueueInner} {ops : List (Instant × QueueOp)}
    (quiet : ∀ o ∈ ops, o.2.enters = false) : g.Orderly ops := by
  induction ops generalizing g with
  | nil => trivial
  | cons o ops ih =>
    obtain ⟨here, later⟩ := List.forall_mem_cons.mp quiet
    obtain ⟨now, op⟩ := o
    refine ⟨?_, ih later⟩
    cases op with
    | push | requeue_front => cases here
    | _ => trivial

end QueueInner

open QueueInner

/-- **The older ticket's preference.** Every offer of a run is on the first key of the older ticket
that the other one holds too, when no operation puts a ticket in front of an older one that would
take another key; in a stamped run that can only be `requeue_front`. As long as nobody waits twice
this is exact: a run in which such a ticket is put in front can go on to make an offer on another
key, with nobody entering the queue any more. -/
theorem offers_first_shared (ops : List (Instant × QueueOp)) :
    (Orderly {} ops → ∀ p ∈ (run {} ops).2, p.OnFirst) ∧
    (Clocked ops → RequeuesOrderly {} ops → ∀ p ∈ (run {} ops).2, p.OnFirst) ∧
    ∀ now, (∀ ops', ops' <+: ops → (run {} ops').1.Distinct) →
      (Orderly {} ops ↔ ∀ ops' later, ops' <+: ops →
        (∀ o ∈ later, o.1 = now ∧ o.2.enters = false) →
        ∀ p ∈ (run {} (ops' ++ later)).2, p.OnFirst) := by
  have empty : InOrder {} := List.Pairwise.nil
  refine ⟨fun orderly => (run_onFirst empty orderly).2, ?_, ?_⟩
  · intro clocked requeues
    exact (run_onFirst empty (orderly_of_clocked clocked (fun _ _ t ht => by cases ht) requeues)).2
  · intro now distinct
    rw [orderly_iff empty]
    constructor
    · intro inOrder ops' later pre quiet p hp
      rw [run_append] at hp
      rcases List.mem_append.mp hp with before | after
      · refine (run_onFirst empty ((orderly_iff empty).mpr fun rest pre' => ?_)).2 p before
        exact inOrder rest (pre'.trans pre)
      · have orderly : Orderly (run {} ops').1 later := orderly_of_quiet fun o ho => (quiet o ho).2
        exact (run_onFirst (inOrder ops' pre) orderly).2 p after
    · intro right ops' pre
      by_contra broken
      obtain ⟨later, quiet, p, hp, off⟩ := out_of_order (distinct ops' pre) broken now
      refine off (right ops' later pre quiet p ?_)
      rw [run_append]
      exact List.mem_append_right _ hp

/-- A title of the counterexample. -/
def sampleKey (game_name : String) : MatchKey where
  game_name
  game_version := ""
  disc_fp := "d41d"
  ruleset_id := "ranked"
  max_slots := 2

/-- A player whose peer declines goes back in front of an older ticket with these titles. Readings are in
seconds. -/
def jilted (titles : List String) : List (Instant × QueueOp) :=
  let ticket (player account : String) (titles : List String) (at_secs : Nat) : Ticket :=
    { sampleTicket player account with
      keys := titles.map sampleKey
      queued_at := at_secs * NANOS }
  let alice := ticket "p" "acc-alice" ["B", "A"] 0
  [(0, .push alice), (0, .push (ticket "q" "acc-bob" ["B"] 0)), (0, .pair 300 ["m1"]),
   (5 * NANOS, .push (ticket "r" "acc-carol" titles 5)),
   (9 * NANOS, .answer_for "p" true none), (10 * NANOS, .answer_for "q" false none),
   (10 * NANOS, .requeue_front alice), (20 * NANOS, .pair 300 ["m2"])]

instance (t u : Ticket) : Decidable (t.Partners u) :=
  decidable_of_iff (t.account_id ≠ u.account_id ∧
      (u.account_id ∉ t.blocks ∧ t.account_id ∉ u.blocks) ∧ relay_possible t u)
    ⟨fun h => ⟨h.1, h.2.1, h.2.2⟩, fun h => ⟨h.accounts, h.unblocked, h.relay⟩⟩

instance (t u : Ticket) : Decidable (t.MayPrecede u) :=
  inferInstanceAs (Decidable (t.Partners u → _ ∨ _))

instance (g : QueueInner) (now : Instant) : (op : QueueOp) → Decidable (op.Orderly g now)
  | .push t => inferInstanceAs (Decidable (∀ u ∈ g.tickets, u.MayPrecede t))
  | .requeue_front t =>
    inferInstanceAs (Decidable (∀ u ∈ g.tickets, Ticket.MayPrecede { t with queued_at := now } u))
  | .remove_player _ | .set_rtt _ _ | .answer_for _ _ _ | .take_expired _ | .note_pairing _ _
  | .pair _ _ => isTrue trivial

instance decidableOrderly : (g : QueueInner) → (ops : List (Instant × QueueOp)) →
    Decidable (g.Orderly ops)
  | _, [] => isTrue trivial
  | g, (now, op) :: ops =>
    have := decidableOrderly (op.apply g now).1 ops
    inferInstanceAs (Decidable (op.Orderly g now ∧ Orderly (op.apply g now).1 ops))

/-- Put back in front of an older ticket that prefers the same title, the player is offered it. -/
theorem offers_first_shared_jilted : ∃ p ∈ (run {} (jilted ["B", "C", "A"])).2,
    p.a.player_id = "r" ∧ p.b.player_id = "p" ∧ p.key = sampleKey "B" ∧ p.OnFirst := by
  have orderly : Orderly {} (jilted ["B", "C", "A"]) := by decide
  have offered : (run {} (jilted ["B", "C", "A"])).2.any fun p =>
      p.a.player_id = "r" && p.b.player_id = "p" && p.key = sampleKey "B" := by decide
  obtain ⟨p, hp, sides⟩ := List.any_eq_true.mp offered
  simp only [Bool.and_eq_true, decide_eq_true_eq] at sides
  exact ⟨p, hp, sides.1.1, sides.1.2, sides.2, (offers_first_shared _).1 orderly p hp⟩

/-- It would rather play another one. -/
theorem jilted_offer_on_other_key :
    ¬ ∀ ops, Clocked ops → ∀ p ∈ (run {} ops).2, p.OnFirst := by
  intro all
  have clocked : Clocked (jilted ["A", "B"]) := by
    refine ⟨by decide, fun now t ht => ?_⟩
    simp only [jilted, List.mem_cons, List.not_mem_nil, or_false, Prod.mk.injEq, reduceCtorEq,
      and_false, false_or, QueueOp.push.injEq] at ht
    rcases ht with ⟨rfl, rfl⟩ | ⟨rfl, rfl⟩ | ⟨rfl, rfl⟩ <;> rfl
  have off : (run {} (jilted ["A", "B"])).2.any fun p => p.a.first_shared p.b ≠ some p.key := by
    decide
  obtain ⟨p, hp, other⟩ := List.any_eq_true.mp off
  exact of_decide_eq_true other (all _ clocked p hp)

end RecompNet
