import RecompNet.Json
import Mathlib.Data.Rat.Floor

/-!
# Delay floors

The delay and prediction a match runs (`automatch.rs`, "delay floors"). Round trips are milliseconds
with `-1` for unmeasured; the frame time is an exact rational in place of the float. `u32` marks the
places where the source's 32-bit arithmetic wraps.
-/

namespace RecompNet

def JITTER_MARGIN_FRAMES : Nat := 1
def MIN_DELAY : Nat := 2
def MAX_DELAY : Nat := 20
def MIN_PREDICTION : Nat := 2
def MAX_PREDICTION : Nat := 16

/-- The largest round trip a client may report. -/
def MAX_REPORTED_RTT_MS : Int := 2000

/-- Wrapping to 32 bits. -/
def u32 (n : Nat) : Nat := n % 2 ^ 32

/-- `Ord::clamp`. -/
def clamp (n lo hi : Nat) : Nat := max lo (min n hi)

/-- A client-reported round trip, made safe to store. -/
def sanitize_rtt (raw : Int) : Int :=
  if raw < 0 then -1 else min raw MAX_REPORTED_RTT_MS

/-- What the pair's latency demands, in frames; 0 when nothing was measured. -/
def frames_needed (rtt_a rtt_b : Int) (frame_ms : ℚ) : Nat :=
  if rtt_a < 0 ∨ rtt_b < 0 ∨ frame_ms ≤ 0 then 0
  else
    let one_way : ℚ := ((rtt_a : ℚ) + rtt_b) / 2
    -- A float too large for the integer type saturates.
    u32 (min (one_way / frame_ms).ceil.toNat (2 ^ 32 - 1) + JITTER_MARGIN_FRAMES)

/-- Rollback delay from the pair's round trip. -/
def hosted_rollback_delay (rtt_ms : Int) : Nat :=
  let rtt := max rtt_ms 0
  let d :=
    if rtt < 50 then 3
    else if rtt < 80 then 4
    else if rtt < 120 then 6
    else if rtt < 160 then 7
    else if rtt < 200 then 8
    else if rtt < 260 then 9
    else 10
  clamp d 3 12

/-- The prediction runway for a delay. -/
def hosted_rollback_prediction (delay : Nat) : Nat :=
  clamp (u32 (4 + max delay 2)) 6 MAX_PREDICTION

/-- Delay without rollback, from the pair's round trip. -/
def hosted_delay_only (rtt_ms : Int) : Nat :=
  let rtt := max rtt_ms 0
  let one_way_frames := (max ((rtt + 32) / 33) 1).toNat
  clamp (one_way_frames + 3) 3 MAX_DELAY

/-- The delay and prediction of a match, and the frames its link needs. -/
structure DelayFloor where
  input_delay : Nat
  input_prediction : Nat
  needed : Nat
  deriving DecidableEq

/-- The delay and prediction a match should run. -/
def delay_floor (caps : Value) (rtt_a rtt_b : Int) (frame_ms : ℚ) : DelayFloor :=
  let base_d := u32 (((caps.get "input_delay").bind Value.as_u64).getD MIN_DELAY)
  let base_p := u32 (((caps.get "input_prediction").bind Value.as_u64).getD MIN_PREDICTION)
  let rollback := ((caps.get "rollback").bind Value.as_bool).getD false
  let needed := frames_needed rtt_a rtt_b frame_ms
  if needed = 0 then
    { input_delay := clamp base_d MIN_DELAY MAX_DELAY
      input_prediction := clamp base_p MIN_PREDICTION MAX_PREDICTION
      needed := 0 }
  else
    let pair_rtt := min (rtt_a + rtt_b) (2 ^ 31 - 1)
    let (d, p) :=
      if rollback then
        let d := max (hosted_rollback_delay pair_rtt) base_d
        let p := max (hosted_rollback_prediction d) base_p
        let shortfall := needed - u32 (d + p)
        if shortfall = 0 then (d, p)
        else
          let d2 := u32 (d + shortfall)
          (d2, max (hosted_rollback_prediction d2) base_p)
      else (max (max (hosted_delay_only pair_rtt) needed) base_d, base_p)
    { input_delay := clamp d MIN_DELAY MAX_DELAY
      input_prediction := clamp p MIN_PREDICTION MAX_PREDICTION
      needed := needed }

/-- Ruleset caps with the floor applied. -/
def caps_with_floor (caps : Value) (floor : DelayFloor) : Value :=
  let out := if caps.is_object then caps else .object []
  let out := out.insert "input_delay" (.number (.posInt floor.input_delay))
  if ((out.get "rollback").bind Value.as_bool).getD false then
    out.insert "input_prediction" (.number (.posInt floor.input_prediction))
  else out

end RecompNet
