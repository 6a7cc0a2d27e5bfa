import RecompNet.Automatch.Delay
import Mathlib.Tactic.Linarith
import Mathlib.Tactic.NormNum

/-!
# What the delay floor gives

The numbers `delay_floor` returns, over every caps object and every link. `delay_floor_checked` is
the same function in a build that checks its 32-bit additions, where an overflow stops it;
`NoOverflow` says on which inputs no addition overflows, and there both give the same closed form: a
delay that is the tier's or the authored one, raised by what the runway does not reach.
-/

namespace RecompNet

/-- The delay a ruleset asks for, before it is narrowed to 32 bits. -/
def authored_delay (caps : Value) : Nat :=
  ((caps.get "input_delay").bind Value.as_u64).getD MIN_DELAY

/-- The prediction a ruleset asks for, before it is narrowed to 32 bits. -/
def authored_prediction (caps : Value) : Nat :=
  ((caps.get "input_prediction").bind Value.as_u64).getD MIN_PREDICTION

/-- Whether a ruleset runs rollback. -/
def has_rollback (caps : Value) : Bool :=
  ((caps.get "rollback").bind Value.as_bool).getD false

/-- The round trip between the two peers. -/
def pair_rtt (rtt_a rtt_b : Int) : Int := min (rtt_a + rtt_b) (2 ^ 31 - 1)

/-- The delay of a rollback match before any shortfall: the tier's, or the authored one. -/
def tier_delay (caps : Value) (rtt_a rtt_b : Int) : Nat :=
  max (hosted_rollback_delay (pair_rtt rtt_a rtt_b)) (u32 (authored_delay caps))

/-- The runway that follows that delay. -/
def tier_runway (caps : Value) (rtt_a rtt_b : Int) : Nat :=
  max (hosted_rollback_prediction (tier_delay caps rtt_a rtt_b)) (u32 (authored_prediction caps))

/-- The one-way trip in whole frames, as the cast saturates it. -/
def trip_frames (rtt_a rtt_b : Int) (frame_ms : ℚ) : Nat :=
  min ((((rtt_a : ℚ) + rtt_b) / 2) / frame_ms).ceil.toNat (2 ^ 32 - 1)

section Checked

/-- An addition in a build that checks for overflow. -/
def checked_add (m n : Nat) : Option Nat :=
  if m + n < 2 ^ 32 then some (m + n) else none

/-- `frames_needed` with its addition checked. -/
def frames_needed_checked (rtt_a rtt_b : Int) (frame_ms : ℚ) : Option Nat :=
  if rtt_a < 0 ∨ rtt_b < 0 ∨ frame_ms ≤ 0 then some 0
  else checked_add (trip_frames rtt_a rtt_b frame_ms) JITTER_MARGIN_FRAMES

/-- `hosted_rollback_prediction` with its addition checked. -/
def hosted_rollback_prediction_checked (delay : Nat) : Option Nat :=
  (checked_add 4 (max delay 2)).map fun p => clamp p 6 MAX_PREDICTION

end Checked

/-- Both round trips were measured. -/
def Measured (rtt_a rtt_b : Int) : Prop := 0 ≤ rtt_a ∧ 0 ≤ rtt_b

instance (rtt_a rtt_b : Int) : Decidable (Measured rtt_a rtt_b) :=
  inferInstanceAs (Decidable (_ ∧ _))

/--
On these inputs no 32-bit addition overflows: the trip's frames leave room for the margin, and with
rollback the delay and its runway add up below `2 ^ 32`.
-/
structure NoOverflow (caps : Value) (rtt_a rtt_b : Int) (frame_ms : ℚ) : Prop where
  trip : trip_frames rtt_a rtt_b frame_ms + 1 < 2 ^ 32
  runway : has_rollback caps = true →
    tier_delay caps rtt_a rtt_b + tier_runway caps rtt_a rtt_b < 2 ^ 32

section Tables

/-- The tiers run from 3 to 10. -/
lemma hosted_rollback_delay_bounds (rtt : Int) :
    3 ≤ hosted_rollback_delay rtt ∧ hosted_rollback_delay rtt ≤ 10 := by
  simp only [hosted_rollback_delay, clamp]
  split_ifs <;> omega

/-- One row of a table: below its bound it gives `d`, and the rows after it give no less. -/
lemma row_mono {x y t : Int} {d a b : Nat} (le : x ≤ y) (low : d ≤ b) (rest : a ≤ b) :
    (if x < t then d else a) ≤ if y < t then d else b := by
  split_ifs
  · exact le_rfl
  · exact low
  · omega
  · exact rest

/-- A longer round trip has no lower tier. -/
lemma hosted_rollback_delay_mono {r s : Int} (le : r ≤ s) :
    hosted_rollback_delay r ≤ hosted_rollback_delay s := by
  have le' : max r 0 ≤ max s 0 := max_le_max_right 0 le
  apply max_le_max_left
  apply min_le_min_right
  refine row_mono le' ?_ (row_mono le' ?_ (row_mono le' ?_ (row_mono le' ?_ (row_mono le' ?_
    (row_mono le' ?_ le_rfl)))))
  all_goals
    repeat' split
    all_goals decide

/-- A longer round trip has no smaller delay without rollback. -/
lemma hosted_delay_only_mono {r s : Int} (le : r ≤ s) :
    hosted_delay_only r ≤ hosted_delay_only s := by
  have le' : (max r 0 + 32) / 33 ≤ (max s 0 + 32) / 33 :=
    Int.ediv_le_ediv (by omega) (by omega)
  simp only [hosted_delay_only, clamp, MAX_DELAY]
  omega

/-- The runway is the delay and 4, from 6 to 16. -/
lemma hosted_rollback_prediction_eq {d : Nat} (fits : d + 4 < 2 ^ 32) :
    hosted_rollback_prediction d = min 16 (max 6 (d + 4)) := by
  have small : 4 + max d 2 < 2 ^ 32 := by omega
  simp only [hosted_rollback_prediction, clamp, u32, MAX_PREDICTION, Nat.mod_eq_of_lt small]
  omega

/-- A runway is at least 6, also where its addition wraps. -/
lemma six_le_hosted_rollback_prediction (d : Nat) : 6 ≤ hosted_rollback_prediction d := by
  simp only [hosted_rollback_prediction, clamp]
  omega

/-- The checked runway is there exactly for a delay below `2 ^ 32 - 4`. -/
lemma hosted_rollback_prediction_checked_eq (d : Nat) :
    hosted_rollback_prediction_checked d =
      if d + 4 < 2 ^ 32 then some (hosted_rollback_prediction d) else none := by
  have iff : 4 + max d 2 < 2 ^ 32 ↔ d + 4 < 2 ^ 32 := by omega
  by_cases fits : d + 4 < 2 ^ 32
  · have small := iff.mpr fits
    rw [if_pos fits]
    simp only [hosted_rollback_prediction_checked, checked_add, if_pos small, Option.map_some,
      hosted_rollback_prediction, u32, Nat.mod_eq_of_lt small]
  · rw [if_neg fits]
    simp only [hosted_rollback_prediction_checked, checked_add, if_neg (mt iff.mp fits),
      Option.map_none]

end Tables

section Needed

variable {rtt_a rtt_b : Int} {frame_ms : ℚ}

/-- What a measured link needs, where the margin does not overflow. -/
lemma frames_needed_measured (measured : Measured rtt_a rtt_b) (pos : 0 < frame_ms)
    (trip : trip_frames rtt_a rtt_b frame_ms + 1 < 2 ^ 32) :
    frames_needed rtt_a rtt_b frame_ms = trip_frames rtt_a rtt_b frame_ms + 1 := by
  have stop : ¬ (rtt_a < 0 ∨ rtt_b < 0 ∨ frame_ms ≤ 0) := by
    rintro (h | h | h)
    · exact absurd measured.1 (by omega)
    · exact absurd measured.2 (by omega)
    · exact absurd h (not_le.mpr pos)
  simp only [frames_needed, if_neg stop]
  exact Nat.mod_eq_of_lt trip

/-- An unmeasured link needs nothing. -/
lemma frames_needed_unmeasured (unmeasured : ¬ Measured rtt_a rtt_b) :
    frames_needed rtt_a rtt_b frame_ms = 0 := by
  have stop : rtt_a < 0 ∨ rtt_b < 0 ∨ frame_ms ≤ 0 := by
    unfold Measured at unmeasured
    omega
  simp only [frames_needed, if_pos stop]

/-- The checked count of an unmeasured link. -/
lemma frames_needed_checked_unmeasured (unmeasured : ¬ Measured rtt_a rtt_b) :
    frames_needed_checked rtt_a rtt_b frame_ms = some 0 := by
  have stop : rtt_a < 0 ∨ rtt_b < 0 ∨ frame_ms ≤ 0 := by
    unfold Measured at unmeasured
    omega
  simp only [frames_needed_checked, if_pos stop]

/-- The checked count of a measured link is there exactly when the margin does not overflow. -/
lemma frames_needed_checked_measured (measured : Measured rtt_a rtt_b) (pos : 0 < frame_ms) :
    frames_needed_checked rtt_a rtt_b frame_ms =
      if trip_frames rtt_a rtt_b frame_ms + 1 < 2 ^ 32
      then some (trip_frames rtt_a rtt_b frame_ms + 1) else none := by
  have stop : ¬ (rtt_a < 0 ∨ rtt_b < 0 ∨ frame_ms ≤ 0) := by
    rintro (h | h | h)
    · exact absurd measured.1 (by omega)
    · exact absurd measured.2 (by omega)
    · exact absurd h (not_le.mpr pos)
  simp only [frames_needed_checked, if_neg stop, checked_add]
  rfl

/-- A longer trip takes no fewer frames. -/
lemma trip_frames_mono {a b : Int} (le_a : rtt_a ≤ a) (le_b : rtt_b ≤ b) (pos : 0 < frame_ms) :
    trip_frames rtt_a rtt_b frame_ms ≤ trip_frames a b frame_ms := by
  have sum : (rtt_a : ℚ) + rtt_b ≤ a + b := by exact_mod_cast add_le_add le_a le_b
  have le : ((rtt_a : ℚ) + rtt_b) / 2 / frame_ms ≤ ((a : ℚ) + b) / 2 / frame_ms := by gcongr
  have ceil := Rat.ceil_le_iff.mpr (le.trans Rat.le_ceil)
  unfold trip_frames
  exact min_le_min (Int.toNat_le_toNat ceil) le_rfl

/-- A trip of at most `k` frames. -/
lemma trip_frames_le {k : Nat} (pos : 0 < frame_ms)
    (le : ((rtt_a : ℚ) + rtt_b) / 2 ≤ k * frame_ms) : trip_frames rtt_a rtt_b frame_ms ≤ k := by
  have quot : ((rtt_a : ℚ) + rtt_b) / 2 / frame_ms ≤ ((k : Int) : ℚ) := by
    rw [div_le_iff₀ pos]
    exact_mod_cast le
  have ceil := Rat.ceil_le_iff.mpr quot
  unfold trip_frames
  omega

end Needed

section Closed

variable {caps : Value} {rtt_a rtt_b : Int} {frame_ms : ℚ}

/-- The delay of a rollback match on a link, before the clamp: what the runway does not reach is
added. -/
def raised_delay (caps : Value) (rtt_a rtt_b : Int) (frame_ms : ℚ) : Nat :=
  max (tier_delay caps rtt_a rtt_b)
    (trip_frames rtt_a rtt_b frame_ms + 1 - tier_runway caps rtt_a rtt_b)

/-- The floor of a measured link, without overflow. -/
def link_floor (caps : Value) (rtt_a rtt_b : Int) (frame_ms : ℚ) : DelayFloor :=
  let base_d := u32 (authored_delay caps)
  let base_p := u32 (authored_prediction caps)
  let needed := trip_frames rtt_a rtt_b frame_ms + 1
  if has_rollback caps then
    let d := raised_delay caps rtt_a rtt_b frame_ms
    { input_delay := clamp d MIN_DELAY MAX_DELAY
      input_prediction :=
        clamp (max (hosted_rollback_prediction d) base_p) MIN_PREDICTION MAX_PREDICTION
      needed := needed }
  else
    let d := max (max (hosted_delay_only (pair_rtt rtt_a rtt_b)) needed) base_d
    { input_delay := clamp d MIN_DELAY MAX_DELAY
      input_prediction := clamp base_p MIN_PREDICTION MAX_PREDICTION
      needed := needed }

/-- The floor of an unmeasured link: the authored numbers, clamped. -/
def authored_floor (caps : Value) : DelayFloor :=
  { input_delay := clamp (u32 (authored_delay caps)) MIN_DELAY MAX_DELAY
    input_prediction := clamp (u32 (authored_prediction caps)) MIN_PREDICTION MAX_PREDICTION
    needed := 0 }

/-- A runway is at least 6. -/
lemma six_le_tier_runway (caps : Value) (rtt_a rtt_b : Int) : 6 ≤ tier_runway caps rtt_a rtt_b :=
  le_max_of_le_left (six_le_hosted_rollback_prediction _)

/-- The two numbers of a measured link before the clamps. -/
def unclamped (caps : Value) (rtt_a rtt_b : Int) (needed : Nat) : Nat × Nat :=
  let base_d := u32 (authored_delay caps)
  let base_p := u32 (authored_prediction caps)
  if has_rollback caps then
    let d := tier_delay caps rtt_a rtt_b
    let p := tier_runway caps rtt_a rtt_b
    if needed - u32 (d + p) = 0 then (d, p)
    else
      let d2 := u32 (d + (needed - u32 (d + p)))
      (d2, max (hosted_rollback_prediction d2) base_p)
  else (max (max (hosted_delay_only (pair_rtt rtt_a rtt_b)) needed) base_d, base_p)

/-- The same two numbers with their additions checked. -/
def unclamped_checked (caps : Value) (rtt_a rtt_b : Int) (needed : Nat) : Option (Nat × Nat) :=
  let base_d := u32 (authored_delay caps)
  let base_p := u32 (authored_prediction caps)
  if has_rollback caps then do
    let d := tier_delay caps rtt_a rtt_b
    let p := max (← hosted_rollback_prediction_checked d) base_p
    let shortfall := needed - (← checked_add d p)
    if shortfall = 0 then pure (d, p)
    else
      let d2 ← checked_add d shortfall
      pure (d2, max (← hosted_rollback_prediction_checked d2) base_p)
  else pure (max (max (hosted_delay_only (pair_rtt rtt_a rtt_b)) needed) base_d, base_p)

/-- The clamps on the two numbers. -/
def clamped (needed : Nat) (m : Nat × Nat) : DelayFloor :=
  { input_delay := clamp m.1 MIN_DELAY MAX_DELAY
    input_prediction := clamp m.2 MIN_PREDICTION MAX_PREDICTION
    needed := needed }

/-- The source's function over these names. -/
lemma delay_floor_eq (caps : Value) (rtt_a rtt_b : Int) (frame_ms : ℚ) :
    delay_floor caps rtt_a rtt_b frame_ms =
      if frames_needed rtt_a rtt_b frame_ms = 0 then authored_floor caps
      else clamped (frames_needed rtt_a rtt_b frame_ms)
        (unclamped caps rtt_a rtt_b (frames_needed rtt_a rtt_b frame_ms)) := by
  unfold delay_floor
  rfl

/-- `delay_floor` with its additions checked. -/
def delay_floor_checked (caps : Value) (rtt_a rtt_b : Int) (frame_ms : ℚ) : Option DelayFloor := do
  let needed ← frames_needed_checked rtt_a rtt_b frame_ms
  if needed = 0 then return authored_floor caps
  let m ← unclamped_checked caps rtt_a rtt_b needed
  return clamped needed m

/-- An unmeasured link runs what was authored. -/
lemma delay_floor_unmeasured (unmeasured : ¬ Measured rtt_a rtt_b) :
    delay_floor caps rtt_a rtt_b frame_ms = authored_floor caps ∧
      delay_floor_checked caps rtt_a rtt_b frame_ms = some (authored_floor caps) := by
  constructor
  · rw [delay_floor_eq, frames_needed_unmeasured unmeasured, if_pos rfl]
  · simp only [delay_floor_checked, frames_needed_checked_unmeasured unmeasured,
      Option.bind_eq_bind, Option.bind_some, if_pos, Option.pure_def]

/-- The shortfall raises the delay to what the runway does not reach. -/
lemma shortfall_raises (d p needed : Nat) : d + (needed - (d + p)) = max d (needed - p) := by omega

/-- The two numbers with rollback, where the delay and its runway do not overflow. -/
lemma unclamped_rollback {needed : Nat} (on : has_rollback caps = true) (small : needed < 2 ^ 32)
    (runway : tier_delay caps rtt_a rtt_b + tier_runway caps rtt_a rtt_b < 2 ^ 32) :
    let d := max (tier_delay caps rtt_a rtt_b) (needed - tier_runway caps rtt_a rtt_b)
    unclamped caps rtt_a rtt_b needed =
      (d, max (hosted_rollback_prediction d) (u32 (authored_prediction caps))) := by
  intro d
  have six := six_le_tier_runway caps rtt_a rtt_b
  have sum : u32 (tier_delay caps rtt_a rtt_b + tier_runway caps rtt_a rtt_b) =
      tier_delay caps rtt_a rtt_b + tier_runway caps rtt_a rtt_b := Nat.mod_eq_of_lt runway
  have raised : tier_delay caps rtt_a rtt_b +
      (needed - (tier_delay caps rtt_a rtt_b + tier_runway caps rtt_a rtt_b)) = d :=
    shortfall_raises _ _ _
  simp only [unclamped, on, if_true, sum, raised]
  split
  · rename_i none_short
    have same : d = tier_delay caps rtt_a rtt_b := by omega
    rw [same]
    rfl
  · have small_d : d < 2 ^ 32 := by omega
    rw [u32, Nat.mod_eq_of_lt small_d]

/-- With rollback the checked numbers are there exactly when the delay and its runway do not
overflow. -/
lemma unclamped_checked_rollback {needed : Nat} (on : has_rollback caps = true)
    (small : needed < 2 ^ 32) :
    unclamped_checked caps rtt_a rtt_b needed =
      if tier_delay caps rtt_a rtt_b + tier_runway caps rtt_a rtt_b < 2 ^ 32
      then some (unclamped caps rtt_a rtt_b needed) else none := by
  have six := six_le_tier_runway caps rtt_a rtt_b
  simp only [unclamped_checked, on, if_true, hosted_rollback_prediction_checked_eq,
    Option.bind_eq_bind]
  by_cases room : tier_delay caps rtt_a rtt_b + 4 < 2 ^ 32
  · rw [if_pos room, Option.bind_some]
    change (checked_add _ (tier_runway caps rtt_a rtt_b)).bind _ = _
    by_cases runway : tier_delay caps rtt_a rtt_b + tier_runway caps rtt_a rtt_b < 2 ^ 32
    · rw [if_pos runway, unclamped_rollback on small runway, checked_add, if_pos runway,
        Option.bind_some]
      have raised := shortfall_raises (tier_delay caps rtt_a rtt_b) (tier_runway caps rtt_a rtt_b)
        needed
      split
      · rename_i none_short
        rw [none_short, Nat.add_zero] at raised
        rw [← raised]
        rfl
      · generalize fresh : max (tier_delay caps rtt_a rtt_b)
          (needed - tier_runway caps rtt_a rtt_b) = d at raised ⊢
        have small_d : d + 4 < 2 ^ 32 := by omega
        have less : d < 2 ^ 32 := by omega
        simp only [checked_add, raised, if_pos less, if_pos small_d, Option.bind_some,
          Option.pure_def]
    · rw [if_neg runway, checked_add, if_neg runway, Option.bind_none]
  · have too_far : ¬ tier_delay caps rtt_a rtt_b + tier_runway caps rtt_a rtt_b < 2 ^ 32 := by omega
    rw [if_neg room, if_neg too_far, Option.bind_none]

/-- Where nothing overflows, a measured link runs the closed form. -/
lemma delay_floor_measured (measured : Measured rtt_a rtt_b) (pos : 0 < frame_ms)
    (fits : NoOverflow caps rtt_a rtt_b frame_ms) :
    delay_floor caps rtt_a rtt_b frame_ms = link_floor caps rtt_a rtt_b frame_ms := by
  have needed := frames_needed_measured measured pos fits.trip
  have some_needed : trip_frames rtt_a rtt_b frame_ms + 1 ≠ 0 := Nat.succ_ne_zero _
  rw [delay_floor_eq, needed, if_neg some_needed]
  cases on : has_rollback caps with
  | false =>
    simp only [link_floor, unclamped, on, Bool.false_eq_true, if_false]
    rfl
  | true =>
    rw [unclamped_rollback on fits.trip (fits.runway on)]
    simp only [link_floor, on, if_true]
    rfl

/-- On a measured link the checked function has a result exactly where nothing overflows, and then
it is the closed form. -/
lemma delay_floor_checked_measured (measured : Measured rtt_a rtt_b) (pos : 0 < frame_ms)
    (r : DelayFloor) :
    delay_floor_checked caps rtt_a rtt_b frame_ms = some r ↔
      NoOverflow caps rtt_a rtt_b frame_ms ∧ r = link_floor caps rtt_a rtt_b frame_ms := by
  have closed : NoOverflow caps rtt_a rtt_b frame_ms →
      delay_floor_checked caps rtt_a rtt_b frame_ms =
        some (delay_floor caps rtt_a rtt_b frame_ms) := by
    intro fits
    have needed := frames_needed_measured measured pos fits.trip
    have some_needed : trip_frames rtt_a rtt_b frame_ms + 1 ≠ 0 := Nat.succ_ne_zero _
    rw [delay_floor_eq, needed, if_neg some_needed, delay_floor_checked,
      frames_needed_checked_measured measured pos, if_pos fits.trip]
    simp only [Option.bind_eq_bind, Option.bind_some, if_neg some_needed]
    cases on : has_rollback caps with
    | false => simp only [unclamped_checked, unclamped, on, Bool.false_eq_true, if_false,
        Option.pure_def, Option.bind_some]
    | true =>
      rw [unclamped_checked_rollback on fits.trip, if_pos (fits.runway on)]
      rfl
  constructor
  · intro ran
    have trip : trip_frames rtt_a rtt_b frame_ms + 1 < 2 ^ 32 := by
      by_contra too_long
      rw [delay_floor_checked, frames_needed_checked_measured measured pos, if_neg too_long] at ran
      cases ran
    have fits : NoOverflow caps rtt_a rtt_b frame_ms := by
      refine ⟨trip, fun on => ?_⟩
      by_contra too_far
      have some_needed : trip_frames rtt_a rtt_b frame_ms + 1 ≠ 0 := Nat.succ_ne_zero _
      rw [delay_floor_checked, frames_needed_checked_measured measured pos, if_pos trip] at ran
      simp only [Option.bind_eq_bind, Option.bind_some, if_neg some_needed,
        unclamped_checked_rollback on trip, if_neg too_far, Option.bind_none] at ran
      cases ran
    rw [closed fits] at ran
    rw [← delay_floor_measured measured pos fits]
    exact ⟨fits, (Option.some.inj ran).symm⟩
  · rintro ⟨fits, rfl⟩
    rw [closed fits, delay_floor_measured measured pos fits]

end Closed

section Cover

variable {caps : Value} {rtt_a rtt_b : Int} {frame_ms : ℚ}

/--
The numbers of a match cover the link they were computed for, as far as the clamps allow: with
rollback the delay and the prediction together, with the runway of that delay, and without rollback
the delay alone.
-/
def Covers (caps : Value) (r : DelayFloor) : Prop :=
  if has_rollback caps then
    min r.needed (MAX_DELAY + MAX_PREDICTION) ≤ r.input_delay + r.input_prediction ∧
      hosted_rollback_prediction r.input_delay ≤ r.input_prediction
  else min r.needed MAX_DELAY ≤ r.input_delay

instance (caps : Value) (r : DelayFloor) : Decidable (Covers caps r) :=
  by unfold Covers; infer_instance

/--
What rollback needs to cover a link. An authored prediction past the largest one stands in the
shortfall as it is and leaves the match clamped: then the delay reaches its own largest value, or
the link is short enough for the delay and the largest prediction, or so long that the shortfall
fills the delay up all the same.
-/
def Coverable (caps : Value) (rtt_a rtt_b : Int) (frame_ms : ℚ) : Prop :=
  has_rollback caps = true →
    u32 (authored_prediction caps) ≤ MAX_PREDICTION ∨
    MAX_DELAY ≤ tier_delay caps rtt_a rtt_b ∨
    trip_frames rtt_a rtt_b frame_ms + 1 ≤ tier_delay caps rtt_a rtt_b + MAX_PREDICTION ∨
    u32 (authored_prediction caps) + MAX_DELAY ≤ trip_frames rtt_a rtt_b frame_ms + 1

/-- The closed form covers the link exactly when it can. -/
lemma link_floor_covers (fits : NoOverflow caps rtt_a rtt_b frame_ms) :
    Covers caps (link_floor caps rtt_a rtt_b frame_ms) ↔ Coverable caps rtt_a rtt_b frame_ms := by
  cases on : has_rollback caps with
  | false =>
    have free : Coverable caps rtt_a rtt_b frame_ms := by simp [Coverable, on]
    refine ⟨fun _ => free, fun _ => ?_⟩
    simp only [Covers, link_floor, on, Bool.false_eq_true, if_false, clamp, MAX_DELAY]
    omega
  | true =>
    obtain ⟨trip, runway⟩ := fits
    have sum := runway on
    have six := six_le_tier_runway caps rtt_a rtt_b
    have tier := (hosted_rollback_delay_bounds (pair_rtt rtt_a rtt_b)).1
    have low : 3 ≤ tier_delay caps rtt_a rtt_b := le_max_of_le_left tier
    have runway_eq : tier_runway caps rtt_a rtt_b = max
        (min 16 (max 6 (tier_delay caps rtt_a rtt_b + 4))) (u32 (authored_prediction caps)) := by
      rw [tier_runway, hosted_rollback_prediction_eq (by omega)]
    have raised_fits : raised_delay caps rtt_a rtt_b frame_ms + 4 < 2 ^ 32 := by
      unfold raised_delay
      omega
    simp only [Covers, Coverable, link_floor, on, if_true, forall_const,
      hosted_rollback_prediction_eq raised_fits]
    rw [hosted_rollback_prediction_eq (by simp only [clamp, MIN_DELAY, MAX_DELAY]; omega)]
    simp only [clamp, MIN_DELAY, MAX_DELAY, MIN_PREDICTION, MAX_PREDICTION, raised_delay]
    by_cases small : u32 (authored_prediction caps) ≤ 16
    · simp only [small, true_or, iff_true]
      constructor <;> omega
    · have past : tier_runway caps rtt_a rtt_b = u32 (authored_prediction caps) := by omega
      rw [past]
      constructor
      · rintro ⟨covered, -⟩
        omega
      · intro coverable
        constructor <;> omega

/-- On a measured link the delay floor has a result that covers the link exactly when no 32-bit
addition overflows and the link is coverable; and where none overflows, the floor covers the link
exactly when it is coverable.
-/
theorem delay_floor_covers (measured : Measured rtt_a rtt_b) (pos : 0 < frame_ms) :
    ((∃ r, delay_floor_checked caps rtt_a rtt_b frame_ms = some r ∧ Covers caps r) ↔
      NoOverflow caps rtt_a rtt_b frame_ms ∧ Coverable caps rtt_a rtt_b frame_ms) ∧
    (NoOverflow caps rtt_a rtt_b frame_ms →
      (Covers caps (delay_floor caps rtt_a rtt_b frame_ms) ↔
        Coverable caps rtt_a rtt_b frame_ms)) := by
  constructor
  · constructor
    · rintro ⟨r, ran, covers⟩
      obtain ⟨fits, rfl⟩ := (delay_floor_checked_measured measured pos r).mp ran
      exact ⟨fits, (link_floor_covers fits).mp covers⟩
    · rintro ⟨fits, coverable⟩
      refine ⟨_, (delay_floor_checked_measured measured pos _).mpr ⟨fits, rfl⟩, ?_⟩
      exact (link_floor_covers fits).mpr coverable
  · intro fits
    rw [delay_floor_measured measured pos fits]
    exact link_floor_covers fits

/-- A ruleset that asks for 40 frames of prediction. -/
def farCaps : Value :=
  .object [("input_prediction", .number (.posInt 40)), ("rollback", .bool true)]

/-- On a link of 16 frames each way it is covered. -/
theorem delay_floor_covers_near :
    Covers farCaps (delay_floor farCaps 250 250 (50 / 3)) :=
  ((delay_floor_covers (by decide) (by norm_num)).2
    ⟨by with_unfolding_all decide, by with_unfolding_all decide⟩).mpr
    (by unfold Coverable; with_unfolding_all decide)

/-- On a link that needs 31 frames its match runs 26. -/
theorem delay_floor_misses :
    ¬ ∀ (caps : Value) (rtt_a rtt_b : Int) (frame_ms : ℚ), Measured rtt_a rtt_b → 0 < frame_ms →
      Covers caps (delay_floor caps rtt_a rtt_b frame_ms) := by
  intro covers
  have short : ¬ Covers farCaps (delay_floor farCaps 500 500 (50 / 3)) := by with_unfolding_all decide
  exact short (covers farCaps 500 500 (50 / 3) (by decide) (by norm_num))

end Cover

section Range

variable {caps : Value} {rtt_a rtt_b : Int} {frame_ms : ℚ}

/-- The floor is a floor: within the clamps, never under what was authored, and just that when a
side is unmeasured. -/
structure InRange (caps : Value) (rtt_a rtt_b : Int) (r : DelayFloor) : Prop where
  delay_clamped : MIN_DELAY ≤ r.input_delay ∧ r.input_delay ≤ MAX_DELAY
  prediction_clamped : MIN_PREDICTION ≤ r.input_prediction ∧ r.input_prediction ≤ MAX_PREDICTION
  delay_floor : min (authored_delay caps) MAX_DELAY ≤ r.input_delay
  prediction_floor : min (authored_prediction caps) MAX_PREDICTION ≤ r.input_prediction
  unmeasured : ¬ Measured rtt_a rtt_b →
    r.input_delay = clamp (authored_delay caps) MIN_DELAY MAX_DELAY ∧
      r.input_prediction = clamp (authored_prediction caps) MIN_PREDICTION MAX_PREDICTION

/-- The authored numbers fit their 32 bits. -/
structure Narrow (caps : Value) : Prop where
  delay : authored_delay caps < 2 ^ 32
  prediction : authored_prediction caps < 2 ^ 32

/-- The authored numbers are in range. -/
lemma authored_floor_range (narrow : Narrow caps) :
    InRange caps rtt_a rtt_b (authored_floor caps) := by
  have d := Nat.mod_eq_of_lt narrow.delay
  have p := Nat.mod_eq_of_lt narrow.prediction
  simp only [authored_floor, u32, d, p]
  constructor <;> simp only [clamp, MIN_DELAY, MAX_DELAY, MIN_PREDICTION, MAX_PREDICTION]
  all_goals first | omega | simp

/-- The closed form is in range. -/
lemma link_floor_range (narrow : Narrow caps) (measured : Measured rtt_a rtt_b) :
    InRange caps rtt_a rtt_b (link_floor caps rtt_a rtt_b frame_ms) := by
  have d : u32 (authored_delay caps) = authored_delay caps := Nat.mod_eq_of_lt narrow.delay
  have p : u32 (authored_prediction caps) = authored_prediction caps :=
    Nat.mod_eq_of_lt narrow.prediction
  have tier : authored_delay caps ≤ tier_delay caps rtt_a rtt_b := by
    rw [tier_delay, d]
    exact le_max_right _ _
  have raised : tier_delay caps rtt_a rtt_b ≤ raised_delay caps rtt_a rtt_b frame_ms :=
    le_max_left _ _
  unfold link_floor
  split
  · constructor <;>
      simp only [clamp, MIN_DELAY, MAX_DELAY, MIN_PREDICTION, MAX_PREDICTION, p]
    all_goals first | omega | exact fun missing => absurd measured missing
  · constructor <;>
      simp only [clamp, MIN_DELAY, MAX_DELAY, MIN_PREDICTION, MAX_PREDICTION, d, p]
    all_goals first | omega | exact fun missing => absurd measured missing

/--
The delay floor runs without truncation or overflow and returns numbers in range exactly when both
authored numbers fit 32 bits and, on a measured link, no 32-bit addition overflows.
-/
theorem delay_floor_in_range (pos : 0 < frame_ms) :
    (Narrow caps ∧ ∃ r, delay_floor_checked caps rtt_a rtt_b frame_ms = some r ∧
      r = delay_floor caps rtt_a rtt_b frame_ms ∧ InRange caps rtt_a rtt_b r) ↔
    Narrow caps ∧ (Measured rtt_a rtt_b → NoOverflow caps rtt_a rtt_b frame_ms) := by
  constructor
  · rintro ⟨narrow, r, ran, -, -⟩
    exact ⟨narrow, fun measured => ((delay_floor_checked_measured measured pos r).mp ran).1⟩
  · rintro ⟨narrow, fits⟩
    refine ⟨narrow, delay_floor caps rtt_a rtt_b frame_ms, ?_⟩
    by_cases measured : Measured rtt_a rtt_b
    · rw [delay_floor_measured measured pos (fits measured)]
      have ran := (delay_floor_checked_measured measured pos _).mpr ⟨fits measured, rfl⟩
      exact ⟨ran, rfl, link_floor_range narrow measured⟩
    · obtain ⟨floor, ran⟩ := @delay_floor_unmeasured caps rtt_a rtt_b frame_ms measured
      rw [floor]
      exact ⟨ran, rfl, authored_floor_range narrow⟩

/-- A ruleset that asks for more frames of delay than 32 bits hold. -/
def wideCaps : Value := .object [("input_delay", .number (.posInt (2 ^ 32 + 5)))]

/-- The far ruleset's numbers are in range on a link of 16 frames each way. -/
theorem delay_floor_in_range_near :
    Narrow farCaps ∧ ∃ r, delay_floor_checked farCaps 250 250 (50 / 3) = some r ∧
      r = delay_floor farCaps 250 250 (50 / 3) ∧ InRange farCaps 250 250 r :=
  (delay_floor_in_range (by norm_num)).mpr
    ⟨⟨by with_unfolding_all decide, by with_unfolding_all decide⟩,
      fun _ => ⟨by with_unfolding_all decide, by with_unfolding_all decide⟩⟩

/-- The wide ruleset's match runs 5 frames of delay. -/
theorem delay_floor_truncates :
    ¬ ∀ (caps : Value) (rtt_a rtt_b : Int) (frame_ms : ℚ), -1 ≤ rtt_a → rtt_a ≤ 2000 →
      -1 ≤ rtt_b → rtt_b ≤ 2000 → 0 < frame_ms →
      min (authored_delay caps) MAX_DELAY ≤
        (delay_floor caps rtt_a rtt_b frame_ms).input_delay := by
  intro floors
  have low : ¬ min (authored_delay wideCaps) MAX_DELAY ≤
      (delay_floor wideCaps (-1) (-1) (50 / 3)).input_delay := by decide
  exact low (floors wideCaps (-1) (-1) (50 / 3) (by decide) (by decide) (by decide) (by decide)
    (by norm_num))

end Range

section Monotone

variable {caps : Value} {a b a' b' : Int} {frame_ms : ℚ}

/-- The round trip between the peers grows with either side's. -/
lemma pair_rtt_mono (le_a : a ≤ a') (le_b : b ≤ b') : pair_rtt a b ≤ pair_rtt a' b' := by
  unfold pair_rtt
  omega

/-- So does the delay before any shortfall. -/
lemma tier_delay_mono (le_a : a ≤ a') (le_b : b ≤ b') :
    tier_delay caps a b ≤ tier_delay caps a' b' :=
  max_le_max (hosted_rollback_delay_mono (pair_rtt_mono le_a le_b)) le_rfl

/-- And so does the runway, as long as its addition does not wrap. -/
lemma tier_runway_mono (fits : tier_delay caps a' b' + 4 < 2 ^ 32)
    (le : tier_delay caps a b ≤ tier_delay caps a' b') :
    tier_runway caps a b ≤ tier_runway caps a' b' := by
  rw [tier_runway, tier_runway, hosted_rollback_prediction_eq fits,
    hosted_rollback_prediction_eq (by omega)]
  omega

/-- Where nothing overflows on a link nothing overflows on a shorter one. -/
lemma NoOverflow.shorter (fits : NoOverflow caps a' b' frame_ms) (le_a : a ≤ a') (le_b : b ≤ b')
    (pos : 0 < frame_ms) : NoOverflow caps a b frame_ms := by
  have trip := trip_frames_mono le_a le_b pos
  have tier := @tier_delay_mono caps _ _ _ _ le_a le_b
  refine ⟨by have := fits.trip; omega, fun on => ?_⟩
  have sum := fits.runway on
  have six := six_le_tier_runway caps a' b'
  have runway : tier_runway caps a b ≤ tier_runway caps a' b' := tier_runway_mono (by omega) tier
  omega

/-- What keeps the delay from falling when the link grows: the delay the shorter link is given is
still reached by the tier of the longer one, or by what its runway leaves. -/
def Steady (caps : Value) (a b a' b' : Int) (frame_ms : ℚ) : Prop :=
  has_rollback caps = true →
    min (trip_frames a b frame_ms + 1 - tier_runway caps a b) MAX_DELAY ≤
      max (tier_delay caps a' b') (trip_frames a' b' frame_ms + 1 - tier_runway caps a' b')

/-- A tier and the round trips it is for. -/
lemma tier_cases (r : Int) :
    hosted_rollback_delay r = 3 ∧ r < 50 ∨ hosted_rollback_delay r = 4 ∧ r < 80 ∨
    hosted_rollback_delay r = 6 ∧ r < 120 ∨ hosted_rollback_delay r = 7 ∧ r < 160 ∨
    hosted_rollback_delay r = 8 ∧ r < 200 ∨ hosted_rollback_delay r = 9 ∧ r < 260 ∨
    hosted_rollback_delay r = 10 := by
  simp only [hosted_rollback_delay, clamp]
  split_ifs <;> omega

/-- With frames of 259/44 ms or longer, a link below the top tier needs few frames for its tier. -/
lemma trip_within_tier (long : 259 / 44 ≤ frame_ms)
    (below : hosted_rollback_delay (pair_rtt a b) < 10) :
    trip_frames a b frame_ms ≤ 2 * hosted_rollback_delay (pair_rtt a b) + 4 := by
  have pos : 0 < frame_ms := by linarith
  have reach (k : Nat) (le : 22 * (a + b) ≤ 259 * k) : trip_frames a b frame_ms ≤ k := by
    refine trip_frames_le pos ?_
    have le' : (22 : ℚ) * (a + b) ≤ 259 * k := by exact_mod_cast le
    have grow : (k : ℚ) * (259 / 44) ≤ k * frame_ms := by gcongr
    linarith
  have pair : pair_rtt a b = min (a + b) (2 ^ 31 - 1) := rfl
  -- The last round trips of the tiers below the top one: 49, 79, 119, 159, 199 and 259 ms.
  rcases tier_cases (pair_rtt a b) with
    ⟨t, r⟩ | ⟨t, r⟩ | ⟨t, r⟩ | ⟨t, r⟩ | ⟨t, r⟩ | ⟨t, r⟩ | t
  · exact (reach 5 (by omega)).trans (by omega)
  · exact (reach 7 (by omega)).trans (by omega)
  · exact (reach 11 (by omega)).trans (by omega)
  · exact (reach 14 (by omega)).trans (by omega)
  · exact (reach 17 (by omega)).trans (by omega)
  · exact (reach 22 (by omega)).trans (by omega)
  · omega

/-- With frames of 259/44 ms or longer every step is steady. -/
lemma steady_of_long_frames (long : 259 / 44 ≤ frame_ms) (le_a : a ≤ a') (le_b : b ≤ b')
    (fits : NoOverflow caps a' b' frame_ms) : Steady caps a b a' b' frame_ms := by
  intro on
  have pos : 0 < frame_ms := by linarith
  have trip := trip_frames_mono le_a le_b pos
  have sum := (fits.shorter le_a le_b pos).runway on
  have six := six_le_tier_runway caps a b
  have tier := hosted_rollback_delay_mono (pair_rtt_mono le_a le_b)
  have top := (hosted_rollback_delay_bounds (pair_rtt a' b')).2
  by_cases same : hosted_rollback_delay (pair_rtt a b) = hosted_rollback_delay (pair_rtt a' b')
  · have delay : tier_delay caps a b = tier_delay caps a' b' := by rw [tier_delay, tier_delay, same]
    have runway : tier_runway caps a b = tier_runway caps a' b' := by
      rw [tier_runway, tier_runway, delay]
    omega
  · have few := trip_within_tier (a := a) (b := b) long (by omega)
    have runway : hosted_rollback_delay (pair_rtt a b) + 4 ≤ tier_runway caps a b := by
      have reached : hosted_rollback_delay (pair_rtt a b) ≤ tier_delay caps a b :=
        le_max_left _ _
      rw [tier_runway, hosted_rollback_prediction_eq (by omega)]
      omega
    have next : hosted_rollback_delay (pair_rtt a' b') ≤ tier_delay caps a' b' := le_max_left _ _
    omega

/--
On links where no 32-bit addition overflows, raising the round trips keeps or raises the delay
exactly when the step is steady; and with frames of 259/44 ms or longer it always does.
-/
theorem delay_floor_monotone (measured : Measured a b) (le_a : a ≤ a') (le_b : b ≤ b')
    (pos : 0 < frame_ms) (fits : NoOverflow caps a' b' frame_ms) :
    ((delay_floor caps a b frame_ms).input_delay ≤ (delay_floor caps a' b' frame_ms).input_delay ↔
      Steady caps a b a' b' frame_ms) ∧
    (259 / 44 ≤ frame_ms →
      (delay_floor caps a b frame_ms).input_delay ≤
        (delay_floor caps a' b' frame_ms).input_delay) := by
  have measured' : Measured a' b' := ⟨measured.1.trans le_a, measured.2.trans le_b⟩
  rw [delay_floor_measured measured pos (fits.shorter le_a le_b pos),
    delay_floor_measured measured' pos fits]
  have trip := trip_frames_mono le_a le_b pos
  have tier := @tier_delay_mono caps _ _ _ _ le_a le_b
  have low := (hosted_rollback_delay_bounds (pair_rtt a b)).1
  have delay : 3 ≤ tier_delay caps a b := le_max_of_le_left low
  have exact_when : (link_floor caps a b frame_ms).input_delay ≤
      (link_floor caps a' b' frame_ms).input_delay ↔ Steady caps a b a' b' frame_ms := by
    cases on : has_rollback caps with
    | false =>
      have plain := hosted_delay_only_mono (pair_rtt_mono le_a le_b)
      simp only [link_floor, Steady, on, Bool.false_eq_true, if_false, clamp, MIN_DELAY, MAX_DELAY]
      simp only [false_imp_iff, iff_true]
      omega
    | true =>
      simp only [link_floor, Steady, on, if_true, clamp, MIN_DELAY, MAX_DELAY, raised_delay,
        forall_const]
      omega
  exact ⟨exact_when, fun long => exact_when.mpr (steady_of_long_frames long le_a le_b fits)⟩

/-- A ruleset with rollback and nothing else authored. -/
def rollbackCaps : Value := .object [("rollback", .bool true)]

/-- At 60 frames a second the longer of these two links is given no smaller delay. -/
theorem delay_floor_monotone_sixty :
    (delay_floor rollbackCaps 129 130 (50 / 3)).input_delay ≤
      (delay_floor rollbackCaps 130 130 (50 / 3)).input_delay :=
  (delay_floor_monotone (by decide) (by decide) (by decide) (by norm_num)
    ⟨by with_unfolding_all decide, by with_unfolding_all decide⟩).2 (by norm_num)

/-- With frames of 5.8 ms one millisecond more lowers the delay from 11 to 10. -/
theorem delay_floor_falls :
    ¬ ∀ (caps : Value) (a b a' b' : Int) (frame_ms : ℚ), Measured a b → a ≤ a' → b ≤ b' →
      a' ≤ 2000 → b' ≤ 2000 → 0 < frame_ms →
      (delay_floor caps a b frame_ms).input_delay ≤
        (delay_floor caps a' b' frame_ms).input_delay := by
  intro monotone
  have falls : ¬ (delay_floor rollbackCaps 129 130 (29 / 5)).input_delay ≤
      (delay_floor rollbackCaps 130 130 (29 / 5)).input_delay := by with_unfolding_all decide
  exact falls (monotone rollbackCaps 129 130 130 130 (29 / 5) (by decide) (by decide) (by decide)
    (by decide) (by decide) (by norm_num))

end Monotone

end RecompNet
