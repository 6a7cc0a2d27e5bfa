import RecompNet.Hub.Reports
import RecompNet.Lib.Aging
import Mathlib.Data.List.GetD

/-!
# Retention

The tables of player behaviour and the daily sweep over them (`automatch.rs`, `prune`). A row is dated in
whole seconds. Each statement of the sweep reads the clock for itself, so the sweep is given three
readings. What it leaves of each table is a matter of that table's cutoff alone, and a strike that still
counts towards a cooldown is never past its own: `cooldown_secs` does not see the sweep.
-/

namespace RecompNet

open Aging Moderation

/-- A row with the time at which the database dated it. -/
structure Dated (α : Type) where
  row : α
  created_at : Nat

/-- A row of `automatch_pairings`. -/
structure Pairing where
  match_id : String
  game_name : String
  ruleset_id : String
  player_a : String
  player_b : String
  est_rtt_ms : Option Int
  paired_at : Nat
  launched_at : Option Nat := none

/-- A report that two simulations diverged. -/
structure DesyncReport where
  player_id : String
  lobby_id : String
  game_name : String
  game_version : String
  disc_fp : String
  tick : Nat
  part : String
  digest_mine : String
  digest_theirs : String
  role : String
  mod_exempt : String

/-- The tables of player behaviour. -/
structure Database where
  automatch_strikes : List Strike := []
  automatch_pairings : List Pairing := []
  desync_reports : List (Dated DesyncReport) := []
  chat_reports : List (Dated ReportRow) := []

/-- A number of days in seconds, saturating at 64 bits. -/
def days_secs (days : Nat) : Nat := min (days * (24 * 60 * 60)) (2 ^ 64 - 1)

/-- Seconds of history a table keeps: the retention, floored by the window the feature still reads. -/
def cutoff_secs (retention_days functional_window_secs : Nat) : Nat :=
  max (days_secs retention_days) functional_window_secs

/-- What the clock read at each statement of a sweep. -/
structure SweepClock where
  strikes : Nat
  pairings : Nat
  desyncs : Nat

/-- Rows deleted by one sweep. -/
structure Pruned where
  strikes : Nat
  pairings : Nat
  desyncs : Nat
  deriving DecidableEq

/-- Delete rows past their cutoff. -/
def prune (db : Database) (retention_days rematch_cooldown_secs : Nat) (now : SweepClock) :
    Database × Pruned :=
  let strike_cut := cutoff_secs retention_days STRIKE_WINDOW_SECS
  let pairing_cut := cutoff_secs retention_days rematch_cooldown_secs
  let strikes := since Strike.created_at strike_cut now.strikes db.automatch_strikes
  let pairings := since Pairing.paired_at pairing_cut now.pairings db.automatch_pairings
  let desyncs := since Dated.created_at (days_secs retention_days) now.desyncs db.desync_reports
  ({ db with
    automatch_strikes := strikes
    automatch_pairings := pairings
    desync_reports := desyncs },
   { strikes := db.automatch_strikes.length - strikes.length
     pairings := db.automatch_pairings.length - pairings.length
     desyncs := db.desync_reports.length - desyncs.length })

/-- The window that the feature reads is kept whatever the retention is. -/
lemma window_le_cutoff (days window : Nat) : window ≤ cutoff_secs days window :=
  Nat.le_max_right ..

/-! ## The tables after a sweep -/

/-- What a sweep is to leave: every table without the rows past its cutoff and with all others, and in
particular with the strikes and the pairings that the features still read. -/
structure Retained (retention_days rematch_cooldown_secs : Nat) (now : SweepClock)
    (db db' : Database) : Prop where
  strikes : Swept Strike.created_at (cutoff_secs retention_days STRIKE_WINDOW_SECS) now.strikes
    db.automatch_strikes db'.automatch_strikes
  pairings : Swept Pairing.paired_at (cutoff_secs retention_days rematch_cooldown_secs) now.pairings
    db.automatch_pairings db'.automatch_pairings
  desyncs : Swept Dated.created_at (days_secs retention_days) now.desyncs
    db.desync_reports db'.desync_reports
  reports : Swept Dated.created_at (days_secs retention_days) now.desyncs
    db.chat_reports db'.chat_reports
  enforced : ∀ s ∈ db.automatch_strikes, now.strikes ≤ s.created_at + STRIKE_WINDOW_SECS →
    s ∈ db'.automatch_strikes
  avoided : ∀ p ∈ db.automatch_pairings, now.pairings ≤ p.paired_at + rematch_cooldown_secs →
    p ∈ db'.automatch_pairings

/-- **The sweep.** It leaves what it should iff no chat report is past the retention, for it deletes none
of them. -/
theorem prune_retained_iff {db : Database} {retention_days rematch_cooldown_secs : Nat}
    {now : SweepClock} :
    Retained retention_days rematch_cooldown_secs now db
        (prune db retention_days rematch_cooldown_secs now).1 ↔
      ∀ r ∈ db.chat_reports, now.desyncs ≤ r.created_at + days_secs retention_days := by
  constructor
  · intro h
    exact swept_self_iff.mp h.reports
  · intro young
    have in_cut : ∀ {t at_ window : Nat}, t ≤ at_ + window →
        t ≤ at_ + cutoff_secs retention_days window := fun {t at_ window} h =>
      h.trans (Nat.add_le_add_left (window_le_cutoff _ _) _)
    exact {
      strikes := since_swept
      pairings := since_swept
      desyncs := since_swept
      reports := swept_self_iff.mpr young
      enforced := fun s hs recent => since_swept.kept s hs (in_cut recent)
      avoided := fun p hp recent => since_swept.kept p hp (in_cut recent) }

/-- A chat report filed at the epoch. -/
def firstReport : Dated ReportRow where
  row := reportRow { id := "0d9f6b52-3d6c-4a39-9d1c-8a1c5f1d2e01" }
    { reporter_id := "acc-alice", accused_id := "acc-bob", message_id := "1"
      message_text := "good game", accused_name := "Bob", context := ""
      transcript := "Bob: good game", message_count := 1, scope := "server", lobby_id := ""
      game_name := "Example Game", game_version := "", platform := "", server := ""
      reason := "harassment", note := "" }
  created_at := 0

/-- A chat report stays in its table after its retention of a day is over. -/
theorem prune_keeps_reports : ¬ ∀ db retention_days rematch_cooldown_secs now,
    Retained retention_days rematch_cooldown_secs now db
      (prune db retention_days rematch_cooldown_secs now).1 := by
  intro all
  have kept := all { chat_reports := [firstReport] } 1 300 ⟨86401, 86401, 86401⟩
  have young := kept.reports.fresh firstReport (List.mem_singleton_self _)
  exact absurd young (by decide)

/-! ## The cooldown over time -/

/-- The newest of some dates is none of them only if a newer one is added. -/
lemma foldl_max_mono {l l' : List Nat} (h : ∀ n ∈ l, n ∈ l') : l.foldl max 0 ≤ l'.foldl max 0 := by
  have bound : ∀ (l : List Nat) (a b : Nat), l.foldl max a ≤ b ↔ a ≤ b ∧ ∀ n ∈ l, n ≤ b := by
    intro l
    induction l with
    | nil => simp
    | cons n l ih =>
      intro a b
      rw [List.foldl_cons, ih, max_le_iff, List.forall_mem_cons, and_assoc]
  refine (bound l 0 _).mpr ⟨Nat.zero_le _, fun n hn => ?_⟩
  exact ((bound l' 0 _).mp le_rfl).2 n (h n hn)

/-- A rung of a ladder that does not fall costs no more than a later one. -/
lemma ladder_mono {ladder : List Nat} (rising : ladder.Pairwise (· ≤ ·)) {m n : Nat} (h : m ≤ n) :
    ladder.getD (min m (ladder.length - 1)) 0 ≤ ladder.getD (min n (ladder.length - 1)) 0 := by
  by_cases empty : ladder = []
  · rw [empty]
    exact le_rfl
  · have len : 0 < ladder.length := List.length_pos_of_ne_nil empty
    have hm : min m (ladder.length - 1) < ladder.length := by omega
    have hn : min n (ladder.length - 1) < ladder.length := by omega
    rw [List.getD_eq_getElem _ _ hm, List.getD_eq_getElem _ _ hn]
    rcases Nat.lt_or_ge (min m (ladder.length - 1)) (min n (ladder.length - 1)) with lt | ge
    · exact List.pairwise_iff_getElem.mp rising _ _ hm hn lt
    · have same : min m (ladder.length - 1) = min n (ladder.length - 1) := by omega
      simp only [same, le_refl]

/-- The strikes that count against an account. -/
def counted (strikes : List Strike) (wall : Nat) (account_id : String) : List Strike :=
  since Strike.created_at STRIKE_WINDOW_SECS wall (strikes.filter (·.player_id = account_id))

/-- What the counted strikes cost when the clock reads `wall`. -/
def charge (ladder : List Nat) (wall : Nat) (recent : List Strike) : Nat :=
  if recent = [] ∨ ladder = [] then 0
  else
    ladder.getD (min (recent.length - 1) (ladder.length - 1)) 0 -
      (wall - (recent.map (·.created_at)).foldl max 0)

lemma cooldown_secs_eq (strikes : List Strike) (wall : Nat) (account_id : String)
    (ladder : List Nat) :
    cooldown_secs strikes wall account_id ladder =
      charge ladder wall (counted strikes wall account_id) := by
  have same : (strikes.filter fun s =>
      s.player_id = account_id && wall ≤ s.created_at + STRIKE_WINDOW_SECS) =
      counted strikes wall account_id := by
    unfold counted since
    rw [List.filter_filter]
    apply List.filter_congr
    intro s _
    exact Bool.and_comm _ _
  unfold cooldown_secs
  rw [same]
  rfl

/-- Fewer strikes, or the same ones later, cost no more. -/
lemma charge_le {ladder : List Nat} (rising : ladder.Pairwise (· ≤ ·)) {wall wall' : Nat}
    {recent recent' : List Strike} (later : wall ≤ wall') (fewer : recent'.Sublist recent) :
    charge ladder wall' recent' ≤ charge ladder wall recent := by
  unfold charge
  by_cases off : recent' = [] ∨ ladder = []
  · rw [if_pos off]
    exact Nat.zero_le _
  · have on : ¬ (recent = [] ∨ ladder = []) := by
      rintro (empty | empty)
      · exact off (.inl (List.sublist_nil.mp (empty ▸ fewer)))
      · exact off (.inr empty)
    rw [if_neg off, if_neg on]
    have rung := ladder_mono rising (Nat.sub_le_sub_right fewer.length_le 1)
    have newest : (recent'.map (·.created_at)).foldl max 0 ≤
        (recent.map (·.created_at)).foldl max 0 :=
      foldl_max_mono (fewer.map _).subset
    omega

/-- What happens to the store: time passes, a dodge is recorded (or the database does not take it), or the
sweep runs, with the seconds between its statements. -/
inductive StoreEvent where
  | elapse (secs : Nat)
  | record_strike (account_id : String) (kind : DodgeKind) (game_name : String) (db_ok : Bool)
  | prune (retention_days rematch_cooldown_secs : Nat) (until_pairings until_desyncs : Nat)

/-- The tables and the clock that dates their rows. -/
structure Store where
  wall : Nat
  db : Database

namespace Store

def step (s : Store) : StoreEvent → Store
  | .elapse secs => { s with wall := s.wall + secs }
  | .record_strike account_id kind game_name db_ok =>
    if db_ok then
      { s with db.automatch_strikes :=
          s.db.automatch_strikes ++ [⟨account_id, kind, game_name, s.wall⟩] }
    else s
  | .prune retention_days rematch_cooldown_secs until_pairings until_desyncs =>
    let pairings := s.wall + until_pairings
    let desyncs := pairings + until_desyncs
    { wall := desyncs
      db := (RecompNet.prune s.db retention_days rematch_cooldown_secs
        ⟨s.wall, pairings, desyncs⟩).1 }

@[simp] lemma step_record_strike (s : Store) (account_id : String) (kind : DodgeKind)
    (game_name : String) : s.step (.record_strike account_id kind game_name true) =
      { s with db.automatch_strikes :=
          s.db.automatch_strikes ++ [⟨account_id, kind, game_name, s.wall⟩] } := rfl

@[simp] lemma step_record_nothing (s : Store) (account_id : String) (kind : DodgeKind)
    (game_name : String) : s.step (.record_strike account_id kind game_name false) = s := rfl

/-- The store after a history. -/
def run (s : Store) (es : List StoreEvent) : Store := es.foldl step s

/-- The seconds an account must wait. -/
def cooldown (s : Store) (ladder : List Nat) (account_id : String) : Nat :=
  cooldown_secs s.db.automatch_strikes s.wall account_id ladder

end Store

/-- Is the event a strike against the account? -/
def StoreEvent.strikes (account_id : String) : StoreEvent → Bool
  | .record_strike account .. => account = account_id
  | _ => false

/-- A sweep leaves every strike that counts, now or later. -/
lemma counted_prune {db : Database} {days rematch : Nat} {now : SweepClock} {wall : Nat}
    {account_id : String} (h : now.strikes ≤ wall) :
    counted (prune db days rematch now).1.automatch_strikes wall account_id =
      counted db.automatch_strikes wall account_id := by
  unfold counted prune
  rw [← since_filter, since_since (window_le_cutoff _ _) h]

/-- A strike against another account does not count. -/
lemma counted_append {strikes : List Strike} {wall : Nat} {account_id : String} {s : Strike} :
    counted (strikes ++ [s]) wall account_id = counted strikes wall account_id ++
      if s.player_id = account_id ∧ wall ≤ s.created_at + STRIKE_WINDOW_SECS then [s] else [] := by
  unfold counted
  rw [List.filter_append, since_append]
  congr 1
  by_cases own : s.player_id = account_id <;>
    by_cases young : wall ≤ s.created_at + STRIKE_WINDOW_SECS <;> simp [since, own, young]

namespace Store

variable {ladder : List Nat} {account_id : String}

/-- Without a strike against the account its cooldown does not rise. -/
lemma step_cooldown_le (rising : ladder.Pairwise (· ≤ ·)) {s : Store} {e : StoreEvent}
    (h : e.strikes account_id = false) :
    (s.step e).cooldown ladder account_id ≤ s.cooldown ladder account_id := by
  unfold cooldown
  rw [cooldown_secs_eq, cooldown_secs_eq]
  cases e with
  | elapse secs => exact charge_le rising (Nat.le_add_right _ _) (since_later (Nat.le_add_right _ _))
  | record_strike account kind game_name db_ok =>
    have other : account ≠ account_id := by simpa [StoreEvent.strikes] using h
    cases db_ok with
    | false => exact le_rfl
    | true => rw [step_record_strike, counted_append, if_neg (fun h => other h.1), List.append_nil]
  | prune days rematch m n =>
    have later : s.wall ≤ s.wall + m + n := by omega
    refine charge_le rising later ?_
    show (counted (RecompNet.prune _ _ _ _).1.automatch_strikes _ _).Sublist _
    rw [counted_prune later]
    exact since_later later

/-- A strike does not shorten a cooldown. -/
lemma strike_cooldown_le (rising : ladder.Pairwise (· ≤ ·)) {s : Store} {account kind game_name db_ok} :
    s.cooldown ladder account_id ≤
      (s.step (.record_strike account kind game_name db_ok)).cooldown ladder account_id := by
  unfold cooldown
  rw [cooldown_secs_eq, cooldown_secs_eq]
  cases db_ok with
  | false => exact le_rfl
  | true =>
    refine charge_le rising le_rfl ?_
    rw [step_record_strike, counted_append]
    exact List.sublist_append_left _ _

end Store

/-- **A cooldown runs its course.** It does not rise unless the account is charged, a charge does not
shorten it, and the sweep does not change what it is at any later reading of the clock. -/
theorem cooldown_runs {ladder : List Nat} (rising : ladder.Pairwise (· ≤ ·)) (s : Store)
    (account_id : String) :
    (∀ es, (∀ e ∈ es, e.strikes account_id = false) →
      (s.run es).cooldown ladder account_id ≤ s.cooldown ladder account_id) ∧
    (∀ kind game_name db_ok, s.cooldown ladder account_id ≤
      (s.step (.record_strike account_id kind game_name db_ok)).cooldown ladder account_id) ∧
    ∀ days rematch m n wall, s.wall ≤ wall →
      cooldown_secs (s.step (.prune days rematch m n)).db.automatch_strikes wall account_id ladder =
        cooldown_secs s.db.automatch_strikes wall account_id ladder := by
  refine ⟨?_, fun _ _ _ => Store.strike_cooldown_le rising, ?_⟩
  · intro es
    induction es generalizing s with
    | nil => exact fun _ => le_rfl
    | cons e es ih =>
      intro quiet
      obtain ⟨here, later⟩ := List.forall_mem_cons.mp quiet
      exact (ih (s.step e) later).trans (Store.step_cooldown_le rising here)
  · intro days rematch m n wall h
    rw [cooldown_secs_eq, cooldown_secs_eq]
    exact congrArg _ (counted_prune h)

/-- A second dodge a minute after the first, and a sweep that keeps nothing for longer than it must. -/
theorem cooldown_runs_second :
    let s : Store := ⟨100, { automatch_strikes := [⟨"acc-alice", .decline, "Example Game", 40⟩] }⟩
    s.cooldown [60, 300, 900] "acc-alice" ≤
      (s.step (.record_strike "acc-alice" .timeout "Example Game" true)).cooldown [60, 300, 900]
        "acc-alice" ∧
    (s.run [.elapse 3600, .prune 0 300 1 1]).cooldown [60, 300, 900] "acc-alice" ≤
      s.cooldown [60, 300, 900] "acc-alice" := by
  intro s
  obtain ⟨quiet, charged, -⟩ :=
    @cooldown_runs [60, 300, 900] (by decide) s "acc-alice"
  exact ⟨charged _ _ _, quiet _ (by decide)⟩

end RecompNet
