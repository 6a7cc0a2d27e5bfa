import RecompNet.Automatch.Preference

/-!
# Back to the front

What `requeue_front` does to a ticket's chances. Three rules of the pairing filter read how long a
ticket has waited: each asks for a number of seconds that depends on nothing that changes while the
ticket waits. Putting a ticket back starts its wait anew, so it must serve those seconds a second
time unless its partner has served them.
-/

namespace RecompNet

/-- Seconds a ticket must wait for its own measurement. -/
def Ticket.grace (t : Ticket) : Nat := if 0 ≤ t.rtt_ms then 0 else PROBE_GRACE_SECS

/-- Seconds one of two tickets must have waited before the ceiling has widened to their round trip.
-/
def rtt_wait (a b : Ticket) : Nat :=
  if a.rtt_ms < 0 ∨ b.rtt_ms < 0 then 0
  else
    let above := a.rtt_ms.toNat + b.rtt_ms.toNat - RTT_START_MS
    RTT_WIDEN_SECS * min RTT_UNLIMITED_AFTER_STEPS ((above + (RTT_STEP_MS - 1)) / RTT_STEP_MS)

/-- Did the two accounts play each other within the rematch window? -/
def played_lately (now : Instant) (g : QueueInner) (cooldown : Nat) (a b : Ticket) : Bool :=
  g.recent.any fun (x, y, since) =>
    elapsed_secs now since < cooldown &&
      ((x = a.account_id && y = b.account_id) || (x = b.account_id && y = a.account_id))

/-- Seconds one of two tickets must have waited before a pass offers them each other again. -/
def rematch_wait (now : Instant) (g : QueueInner) (cooldown : Nat) (allow_rematch : Bool)
    (a b : Ticket) : Nat :=
  if !allow_rematch && played_lately now g cooldown a b then
    RTT_WIDEN_SECS * RTT_UNLIMITED_AFTER_STEPS
  else 0

/-! ## The waits of the pairing filter -/

lemma measurable_iff {now : Instant} {t : Ticket} : measurable now t ↔ t.grace ≤ t.waited now := by
  unfold measurable Ticket.grace
  by_cases measured : 0 ≤ t.rtt_ms <;> simp [measured]

lemma rtt_ok_iff {now : Instant} {a b : Ticket} :
    rtt_ok now a b ↔ rtt_wait a b ≤ max (a.waited now) (b.waited now) := by
  unfold rtt_ok rtt_wait
  by_cases unmeasured : a.rtt_ms < 0 ∨ b.rtt_ms < 0
  · rw [if_pos unmeasured, if_pos unmeasured]
    exact iff_of_true rfl (Nat.zero_le _)
  · rw [if_neg unmeasured, if_neg unmeasured]
    dsimp only
    generalize max (a.waited now) (b.waited now) = waited
    unfold RTT_START_MS RTT_STEP_MS RTT_WIDEN_SECS RTT_UNLIMITED_AFTER_STEPS
    split_ifs with unlimited
    · refine iff_of_true rfl ?_
      omega
    · rw [decide_eq_true_eq]
      omega

lemma rematch_ok_eq {now : Instant} {g : QueueInner} {cooldown : Nat} {a b : Ticket} :
    rematch_ok now g a b cooldown =
      (decide (RTT_WIDEN_SECS * RTT_UNLIMITED_AFTER_STEPS ≤ max (a.waited now) (b.waited now)) ||
        !played_lately now g cooldown a b) := by
  unfold rematch_ok
  split_ifs with old
  · rw [decide_eq_true old, Bool.true_or]
  · rw [decide_eq_false old, Bool.false_or, played_lately]

lemma rematch_ok_wait_iff {now : Instant} {g : QueueInner} {cooldown : Nat} {rematch : Bool}
    {a b : Ticket} : (rematch || rematch_ok now g a b cooldown) ↔
      rematch_wait now g cooldown rematch a b ≤ max (a.waited now) (b.waited now) := by
  unfold rematch_wait
  rw [rematch_ok_eq]
  cases rematch with
  | true => exact iff_of_true rfl (Nat.zero_le _)
  | false => cases played_lately now g cooldown a b <;> simp

/-- Seconds one of two tickets must have waited, by both rules that go by the longer wait. -/
def pair_wait (now : Instant) (g : QueueInner) (cooldown : Nat) (allow_rematch : Bool)
    (a b : Ticket) : Nat :=
  max (rtt_wait a b) (rematch_wait now g cooldown allow_rematch a b)

/-- What two tickets must be for a pass to offer them each other once they have waited. -/
structure Suited (key : MatchKey) (a b : Ticket) : Prop extends a.Partners b where
  right : key ∈ b.keys

/-- The pairing filter: the lasting rules, and a wait for each rule that goes by one. -/
lemma pairable_wait_iff {now : Instant} {g : QueueInner} {cooldown : Nat} {rematch : Bool}
    {key : MatchKey} {a b : Ticket} : pairable now g cooldown rematch key a b ↔
      Suited key a b ∧ a.grace ≤ a.waited now ∧ b.grace ≤ b.waited now ∧
        pair_wait now g cooldown rematch a b ≤ max (a.waited now) (b.waited now) := by
  unfold pairable pair_wait
  rw [Bool.and_eq_true, Bool.and_eq_true, Bool.and_eq_true, Bool.and_eq_true, rematch_ok_wait_iff,
    rtt_ok_iff, measurable_iff, measurable_iff, Nat.max_le]
  simp only [Bool.and_eq_true, Bool.not_eq_true', decide_eq_true_eq, Bool.or_eq_false_iff,
    decide_eq_false_iff_not]
  constructor
  · rintro ⟨⟨⟨⟨⟨⟨⟨right, accounts⟩, unblocked⟩, relay⟩, ma⟩, mb⟩, rtt⟩, soft⟩
    exact ⟨⟨⟨accounts, unblocked, relay⟩, right⟩, ma, mb, rtt, soft⟩
  · rintro ⟨⟨⟨accounts, unblocked, relay⟩, right⟩, ma, mb, rtt, soft⟩
    exact ⟨⟨⟨⟨⟨⟨⟨right, accounts⟩, unblocked⟩, relay⟩, ma⟩, mb⟩, rtt⟩, soft⟩

/-! ## Putting a ticket back -/

/-- The lasting rules do not read the stamp. -/
lemma suited_stamp {key : MatchKey} {t u : Ticket} {now : Instant} :
    Suited key { t with queued_at := now } u ↔ Suited key t u := by
  constructor
  · exact fun h => ⟨⟨h.accounts, h.unblocked, h.relay⟩, h.right⟩
  · exact fun h => ⟨⟨h.accounts, h.unblocked, h.relay⟩, h.right⟩

/-- The rules of a pair are symmetric. -/
lemma pairable_symm {now : Instant} {g : QueueInner} {cooldown : Nat} {rematch : Bool}
    {key : MatchKey} {a b : Ticket} (hk : key ∈ a.keys)
    (h : pairable now g cooldown rematch key a b) : pairable now g cooldown rematch key b a := by
  obtain ⟨ok, soft⟩ := (pairable_iff hk).mp h
  exact (pairable_iff ok.right).mpr ⟨ok.symm, soft.imp_right fun no rep => no rep.symm⟩

/-- **Put back.** A ticket that may be paired with another may still be paired with it, from either
side, after being put back iff it has been back for as long as its measurement takes, and it has
been back or the other has waited for as long as the pair takes. -/
theorem requeue_keeps_pair_iff {g : QueueInner} {t u : Ticket} {key : MatchKey} {cooldown : Nat}
    {rematch : Bool} {back now : Instant} (hk : key ∈ t.keys)
    (h : pairable now g cooldown rematch key t u) :
    let t' := { t with queued_at := back }
    let g' := g.requeue_front t back
    (pairable now g' cooldown rematch key t' u ↔ pairable now g' cooldown rematch key u t') ∧
    (pairable now g' cooldown rematch key t' u ↔
      t.grace ≤ elapsed_secs now back ∧
        pair_wait now g cooldown rematch t u ≤ max (elapsed_secs now back) (u.waited now)) := by
  intro t' g'
  obtain ⟨suited, -, waited, -⟩ := pairable_wait_iff.mp h
  refine ⟨⟨pairable_symm hk, pairable_symm suited.right⟩, ?_⟩
  rw [pairable_wait_iff, suited_stamp]
  constructor
  · rintro ⟨-, grace, -, wait⟩
    exact ⟨grace, wait⟩
  · rintro ⟨grace, wait⟩
    exact ⟨suited, grace, waited, wait⟩

open QueueInner

/-- Alice waits. Readings are in seconds. -/
def waitingAlice : Ticket := { sampleTicket "p" "acc-alice" with rtt_ms := 100 }

/-- Carol came later and is further away. -/
def waitingCarol : Ticket :=
  { sampleTicket "r" "acc-carol" with rtt_ms := 60, queued_at := 24 * NANOS }

/-- Alice and Bob are about to be offered each other. -/
def faraway : QueueInner where
  tickets := [waitingAlice, sampleTicket "q" "acc-bob", waitingCarol]

/-- Alice is back in the queue for twenty seconds, which is what she and Carol take. -/
theorem requeue_keeps_pair_iff_faraway :
    let back := { waitingAlice with queued_at := 30 * NANOS }
    pairable (50 * NANOS) ((faraway.pair 300 (25 * NANOS) ["m"]).1.requeue_front waitingAlice
      (30 * NANOS)) 300 false (sampleKey "Example Game") back waitingCarol := by
  intro back
  obtain ⟨-, kept⟩ := @requeue_keeps_pair_iff (faraway.pair 300 (25 * NANOS) ["m"]).1 waitingAlice
    waitingCarol (sampleKey "Example Game") 300 false (30 * NANOS) (50 * NANOS) (by decide)
    (by decide)
  exact kept.mpr (by decide)

/-- Bob declines. Alice could have played Carol, and once she is put back she no longer can. -/
theorem put_back_not_paired : ¬ ∀ (g : QueueInner) cooldown offered ids p t u back now rematch key,
    p ∈ (g.pair cooldown offered ids).2 → t ∈ p.sides → offered ≤ back → back ≤ now →
    u ∈ (g.pair cooldown offered ids).1.tickets →
    pairable now (g.pair cooldown offered ids).1 cooldown rematch key t u →
    pairable now ((g.pair cooldown offered ids).1.requeue_front t back) cooldown rematch key
      { t with queued_at := back } u := by
  intro all
  have offer : (faraway.pair 300 (25 * NANOS) ["m"]).2.any (waitingAlice ∈ ·.sides) := by
    decide
  obtain ⟨p, hp, side⟩ := List.any_eq_true.mp offer
  have kept := all faraway 300 (25 * NANOS) ["m"] p waitingAlice waitingCarol (30 * NANOS)
    (30 * NANOS) false (sampleKey "Example Game") hp (of_decide_eq_true side) (by decide) le_rfl
    (by decide) (by decide)
  exact absurd kept (by decide)

end RecompNet
