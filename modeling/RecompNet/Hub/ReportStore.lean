import RecompNet.Hub.Reports
import RecompNet.Automatch.Retention

/-!
# Filing a report

`moderation::record` as it runs: the count of the last hour, the transcript that is written beside
the row, and the insert are three steps, and between two of them the calls of other connections run.
The store is the table of the reports and the directory of the transcripts.
-/

namespace RecompNet

open Interleave Aging Moderation

namespace Moderation

/-- A transcript under the dump directory, with when it was filed. -/
structure Transcript where
  id : String
  filed : Nat
  report : ChatReport

/-- The table, the directory and the clock, with the uuids drawn so far and what the calls returned.
-/
structure Store where
  clock : Nat := 0
  chat_reports : List (Dated ReportRow) := []
  dumps : Assoc.Map String Transcript := ∅
  drawn : List String := []
  submitted : List (String × Submitted) := []

/-- The dump directory, and how the clock is written as a year and a month. -/
structure DumpConfig where
  dir : String
  year_month : Nat → String

/-- What is left to do of a call. -/
inductive RecordStep where
  | recent_report_count (r : ChatReport)
  | write_dump (r : ChatReport)
  | insert (r : ChatReport) (id dump_path : String)

/-- What comes of writing a file: it is written, or not even made, or made and not written. -/
inductive Written where
  | ok
  | missing
  | cut_short
  deriving DecidableEq

/-- What a step learns from the outside. -/
structure StoreReply where
  count_ok : Bool := true
  id : String := ""
  write : Written := .ok
  insert_ok : Bool := true

/-- Where the transcript of a report goes. -/
def dump_path (cfg : DumpConfig) (now : Nat) (id : String) : String :=
  cfg.year_month now ++ "/" ++ id ++ ".txt"

/-- The reports of an account. -/
def reportsBy (account : String) (rows : List (Dated ReportRow)) : List (Dated ReportRow) :=
  rows.filter (·.row.reporter_id = account)

def HOUR_SECS : Nat := 60 * 60

def recent_report_count (s : Store) (reporter_id : String) : Nat :=
  (since Dated.created_at HOUR_SECS s.clock (reportsBy reporter_id s.chat_reports)).length

/-- A call is over, with its outcome. -/
def Store.answer (s : Store) (r : ChatReport) (out : Submitted) : Store × List RecordStep :=
  ({ s with submitted := (r.reporter_id, out) :: s.submitted }, [])

/-- A query that fails counts nothing. -/
def count_step (o : StoreReply) (s : Store) (r : ChatReport) : Store × List RecordStep :=
  let n := if o.count_ok then recent_report_count s r.reporter_id else 0
  if REPORTS_PER_HOUR ≤ n then s.answer r .RateLimited else (s, [.write_dump r])

def write_dump_step (cfg : DumpConfig) (o : StoreReply) (s : Store) (r : ChatReport) :
    Store × List RecordStep :=
  let s' := { s with drawn := o.id :: s.drawn }
  let path := dump_path cfg s.clock o.id
  let made := { s' with dumps := s'.dumps.insert path { id := o.id, filed := s.clock, report := r } }
  if cfg.dir = "" then (s', [.insert r o.id ""])
  else
    match o.write with
    | .ok => (made, [.insert r o.id path])
    | .missing => (s', [.insert r o.id ""])
    | .cut_short => (made, [.insert r o.id ""])

def insert_step (o : StoreReply) (s : Store) (r : ChatReport) (id dump_path : String) :
    Store × List RecordStep :=
  let row := reportRow { id, dump_path } r
  if !o.insert_ok then s.answer r .Failed
  else if (s.chat_reports.map Dated.row).any row.clashes then s.answer r .Duplicate
  else
    let filed : Dated ReportRow := { row, created_at := s.clock }
    Store.answer { s with chat_reports := s.chat_reports ++ [filed] } r .Ok

def recordStep (cfg : DumpConfig) : RecordStep → StoreReply → Store → Store × List RecordStep
  | .recent_report_count r, o, s => count_step o s r
  | .write_dump r, o, s => write_dump_step cfg o s r
  | .insert r id path, o, s => insert_step o s r id path

/-- A connection hands a report in, or time passes. -/
inductive StoreEvent where
  | record (conn : String) (r : ChatReport)
  | pass (secs : Nat)

/-- Does a path name the file of an id? -/
def names (id path : String) : Bool := ("/" ++ id ++ ".txt").toList.isSuffixOf path.toList

/-- A uuid has its 36 characters, was not drawn before and names nothing that is stored. -/
def StoreReply.fresh (o : StoreReply) (s : Store) : Prop :=
  o.id.toList.length = 36 ∧ o.id ∉ s.drawn ∧
    (s.chat_reports.all fun d => !names o.id d.row.dump_path) ∧ s.dumps.keys.all (!names o.id ·)

instance (o : StoreReply) (s : Store) : Decidable (o.fresh s) := by
  unfold StoreReply.fresh
  infer_instance

/-- The calls that run against a store, from the store as it is found. -/
def storeMachine (cfg : DumpConfig) (found : Store) :
    Machine Store RecordStep (Option String) StoreReply StoreEvent where
  start := found
  exec := recordStep cfg
  answers := StoreReply.fresh
  task := fun
    | .record conn _ => some conn
    | .pass _ => none
  enabled := fun _ _ => True
  apply := fun
    | .record _ _, s => s
    | .pass secs, s => { s with clock := s.clock + secs }
  body := fun
    | .record _ r, _ => [.recent_report_count r]
    | .pass _, _ => []

abbrev StoreSnapshot := Snapshot Store RecordStep (Option String)

abbrev StoreLabel := Label Store RecordStep (Option String) StoreReply StoreEvent

abbrev StoreRun (cfg : DumpConfig) (found : Store) : StoreSnapshot → List StoreLabel → Prop :=
  Run (storeMachine cfg found)

/-! ## The table -/

/-- Does the insert of a report add its row? -/
def accepts (o : StoreReply) (s : Store) (r : ChatReport) (id dump_path : String) : Bool :=
  o.insert_ok && !(s.chat_reports.map Dated.row).any (reportRow { id, dump_path } r).clashes

/-- The account that a step adds a row for. -/
def filer : StoreLabel → Option String
  | .ran _ (.insert r id path) o pre =>
    if accepts o pre.world r id path then some r.reporter_id else none
  | _ => none

/-- What an insert leaves of the table. -/
lemma insert_rows (o : StoreReply) (s : Store) (r : ChatReport) (id path : String) :
    (insert_step o s r id path).1.chat_reports =
      if accepts o s r id path then
        s.chat_reports ++ [{ row := reportRow { id, dump_path := path } r, created_at := s.clock }]
      else s.chat_reports := by
  unfold insert_step accepts Store.answer
  cases o.insert_ok with
  | false => rfl
  | true =>
    dsimp only [Bool.not_true, Bool.true_and]
    cases (s.chat_reports.map Dated.row).any (reportRow { id, dump_path := path } r).clashes <;> rfl

/-- No other step changes the table. -/
lemma step_rows {cfg s o w} (h : ∀ r id path, s ≠ .insert r id path) :
    (recordStep cfg s o w).1.chat_reports = w.chat_reports := by
  cases s with
  | recent_report_count r =>
    simp only [recordStep, count_step, Store.answer]
    repeat' split
    all_goals rfl
  | write_dump r =>
    simp only [recordStep, write_dump_step]
    repeat' split
    all_goals rfl
  | insert r id path => exact absurd rfl (h r id path)

lemma step_clock {cfg s o w} : (recordStep cfg s o w).1.clock = w.clock := by
  cases s with
  | recent_report_count r =>
    simp only [recordStep, count_step, Store.answer]
    repeat' split
    all_goals rfl
  | write_dump r =>
    simp only [recordStep, write_dump_step]
    repeat' split
    all_goals rfl
  | insert r id path =>
    simp only [recordStep, insert_step, Store.answer]
    repeat' split
    all_goals rfl

/-! ## How many reports an account files -/

/-- No account has more than its share of reports in any hour. -/
def Store.Capped (s : Store) : Prop :=
  ∀ account, Limited Dated.created_at HOUR_SECS REPORTS_PER_HOUR (reportsBy account s.chat_reports)

/-- No row is dated in the future. -/
def Store.Past (s : Store) : Prop := ∀ d ∈ s.chat_reports, d.created_at ≤ s.clock

/-- The account of a call that has its count behind it. -/
def RecordStep.counted : RecordStep → Option String
  | .recent_report_count _ => none
  | .write_dump r | .insert r .. => some r.reporter_id

/-- When a row goes in, its account still has room for it. -/
def Roomy (l : StoreLabel) : Prop :=
  ∀ account, filer l = some account → recent_report_count l.pre.world account < REPORTS_PER_HOUR

/-- The count is answered, and no row goes in while another call of the account has its count behind
it. -/
def OneAtATime : StoreLabel → Prop
  | .ran _ (.recent_report_count _) o _ => o.count_ok
  | .ran t (.insert r ..) _ pre =>
    ∀ t', t' ≠ t → ∀ s ∈ pre.pending t', s.counted ≠ some r.reporter_id
  | _ => True

lemma reportsBy_append {account : String} {rows : List (Dated ReportRow)} {d : Dated ReportRow} :
    reportsBy account (rows ++ [d]) =
      if d.row.reporter_id = account then reportsBy account rows ++ [d]
      else reportsBy account rows := by
  unfold reportsBy
  rw [List.filter_append]
  split
  · rename_i h
    have taken : [d].filter (·.row.reporter_id = account) = [d] :=
      List.filter_cons_of_pos (decide_eq_true h)
    rw [taken]
  · rename_i h
    have skipped : [d].filter (·.row.reporter_id = account) = [] :=
      List.filter_cons_of_neg (by simpa using h)
    rw [skipped, List.append_nil]

/-- A row keeps to the limit exactly if its account had room for it. -/
lemma capped_append_iff {s : Store} {rows : List (Dated ReportRow)} {d : Dated ReportRow}
    (past : s.Past) (e : s.chat_reports = rows) (now : d.created_at = s.clock) :
    (∀ account, Limited Dated.created_at HOUR_SECS REPORTS_PER_HOUR
        (reportsBy account (rows ++ [d]))) ↔
      s.Capped ∧ recent_report_count s d.row.reporter_id < REPORTS_PER_HOUR := by
  subst e
  have dated : ∀ account, ∀ x ∈ reportsBy account s.chat_reports, x.created_at ≤ s.clock :=
    fun _ x hx => past x (List.mem_filter.mp hx).1
  constructor
  · intro h
    have mine := h d.row.reporter_id
    rw [reportsBy_append, if_pos rfl, limited_append_iff (dated _) now] at mine
    refine ⟨fun account => (h account).sublist ?_, mine.2⟩
    exact (List.sublist_append_left _ _).filter _
  · rintro ⟨capped, room⟩ account
    rw [reportsBy_append]
    split
    · rename_i mine
      rw [limited_append_iff (dated _) now]
      exact ⟨capped account, mine ▸ room⟩
    · exact capped account

/-- What a step does to the limit. -/
lemma run_capped {cfg t s o} {c : StoreSnapshot} (past : c.world.Past) :
    (recordStep cfg s o c.world).1.Capped ↔ c.world.Capped ∧ Roomy (.ran t s o c) := by
  have silent : (∀ account, filer (.ran t s o c) ≠ some account) → Roomy (.ran t s o c) :=
    fun h account e => absurd e (h account)
  have same : (recordStep cfg s o c.world).1.chat_reports = c.world.chat_reports →
      (∀ account, filer (.ran t s o c) ≠ some account) →
      ((recordStep cfg s o c.world).1.Capped ↔ c.world.Capped ∧ Roomy (.ran t s o c)) := by
    intro rows h
    unfold Store.Capped
    rw [rows, and_iff_left (silent h)]
  cases s with
  | recent_report_count r => exact same (step_rows nofun) nofun
  | write_dump r => exact same (step_rows nofun) nofun
  | insert r id path =>
    have rows := insert_rows o c.world r id path
    by_cases ok : accepts o c.world r id path
    · rw [if_pos ok] at rows
      have roomy : Roomy (.ran t (.insert r id path) o c) ↔
          recent_report_count c.world r.reporter_id < REPORTS_PER_HOUR := by
        simp only [Roomy, filer, if_pos ok, Option.some.injEq, forall_eq', Label.pre]
      show (∀ account, Limited _ _ _
        (reportsBy account (insert_step o c.world r id path).1.chat_reports)) ↔ _
      rw [rows, roomy]
      exact capped_append_iff past rfl rfl
    · rw [if_neg ok] at rows
      refine same rows fun account => ?_
      simp only [filer, if_neg ok]
      exact (Option.some_ne_none account).symm

lemma StoreRun.past {cfg found c tr} (r : StoreRun cfg found c tr) (past : found.Past) :
    c.world.Past := by
  induction r with
  | start => exact past
  | @step c tr l c' r st ih =>
    cases st with
    | @run t s rest o e ho =>
      show (recordStep cfg s o c.world).1.Past
      unfold Store.Past
      rw [step_clock]
      by_cases ins : ∃ r id path, s = .insert r id path
      · obtain ⟨r, id, path, rfl⟩ := ins
        simp only [recordStep, insert_rows]
        split
        · intro d hd
          rcases List.mem_append.mp hd with hd | hd
          · exact ih d hd
          · exact List.mem_singleton.mp hd ▸ le_rfl
        · exact ih
      · rw [step_rows fun r id path h => ins ⟨r, id, path, h⟩]
        exact ih
    | @event e idle _ =>
      cases e with
      | record => exact ih
      | pass secs => exact fun d hd => (ih d hd).trans (Nat.le_add_right _ _)

/-- The hours of an account, over a run. -/
lemma StoreRun.capped_iff {cfg found c tr} (r : StoreRun cfg found c tr) (past : found.Past)
    (capped : found.Capped) : c.world.Capped ↔ ∀ l ∈ tr, Roomy l := by
  induction r with
  | start => exact iff_of_true capped (List.forall_mem_nil _)
  | @step c tr l c' r st ih =>
    rw [List.forall_mem_cons, ← ih, and_comm]
    cases st with
    | @run t s rest o e ho => exact run_capped (StoreRun.past r past)
    | @event e idle _ =>
      have roomy : Roomy (.came e c) := nofun
      rw [and_iff_left roomy]
      cases e <;> rfl

/-- A step leads to one more step at most, for the same account. -/
lemma step_next {cfg s o w} :
    (recordStep cfg s o w).2 = [] ∨ ∃ s', (recordStep cfg s o w).2 = [s'] := by
  cases s with
  | recent_report_count r =>
    simp only [recordStep, count_step, Store.answer]
    repeat' split
    all_goals simp
  | write_dump r =>
    simp only [recordStep, write_dump_step]
    repeat' split
    all_goals simp
  | insert r id path =>
    left
    simp only [recordStep, insert_step, Store.answer]
    repeat' split
    all_goals rfl

/-- A connection has one call at a time, which is at one step. -/
lemma StoreRun.one_step {cfg found c tr} (r : StoreRun cfg found c tr) :
    ∀ t, (c.pending t).length ≤ 1 := by
  refine Run.tasks (A := fun _ ss => ss.length ≤ 1) (fun _ => Nat.zero_le 1) ?_ ?_ r
  · intro t s rest o w one
    have last : rest = [] := List.length_eq_zero_iff.mp (by simpa using one)
    rw [last, List.append_nil]
    show (recordStep cfg s o w).2.length ≤ 1
    rcases @step_next cfg s o w with e | ⟨s', e⟩ <;> simp [e]
  · intro e w
    cases e <;> simp [storeMachine]

/-- The account of a call that has its count behind it has room for a row. -/
def HasRoom (s : Store) (st : RecordStep) : Prop :=
  ∀ account, st.counted = some account → recent_report_count s account < REPORTS_PER_HOUR

/-- What a call leads to whose count is answered. -/
lemma HasRoom.next {cfg t s o s'} {c : StoreSnapshot} (h : HasRoom c.world s)
    (alone : OneAtATime (.ran t s o c)) (hs' : s' ∈ (recordStep cfg s o c.world).2) :
    HasRoom c.world s' := by
  cases s with
  | recent_report_count r =>
    have answered : o.count_ok = true := alone
    simp only [recordStep, count_step, answered, if_true, Store.answer] at hs'
    split at hs'
    · cases hs'
    · rename_i room
      cases List.mem_singleton.mp hs'
      intro account e
      cases e
      exact not_le.mp room
  | write_dump r =>
    have same : s'.counted = some r.reporter_id := by
      simp only [recordStep, write_dump_step] at hs'
      repeat' split at hs'
      all_goals
        cases List.mem_singleton.mp hs'
        rfl
    intro account e
    exact h account (e ▸ same.symm ▸ rfl)
  | insert r id path =>
    simp only [recordStep, insert_step, Store.answer] at hs'
    repeat' split at hs'
    all_goals cases hs'

/-- A step adds nothing to the hour of an account that it files no report for. -/
lemma step_recent {cfg t s o account} {c : StoreSnapshot}
    (other : filer (.ran t s o c) ≠ some account) :
    recent_report_count (recordStep cfg s o c.world).1 account =
      recent_report_count c.world account := by
  have rows : reportsBy account (recordStep cfg s o c.world).1.chat_reports =
      reportsBy account c.world.chat_reports := by
    by_cases ins : ∃ r id path, s = .insert r id path
    · obtain ⟨r, id, path, rfl⟩ := ins
      simp only [recordStep, insert_rows]
      split
      · rename_i ok
        simp only [filer, if_pos ok] at other
        rw [reportsBy_append]
        exact if_neg fun e => other (congrArg some e)
      · rfl
    · rw [step_rows fun r id path h => ins ⟨r, id, path, h⟩]
  rw [recent_report_count, recent_report_count, rows, step_clock]

/-- In a run whose calls of one account come one at a time, whoever has its count behind it has
room. -/
lemma StoreRun.has_room {cfg found c tr} (r : StoreRun cfg found c tr)
    (alone : ∀ l ∈ tr, OneAtATime l) : ∀ t, ∀ s ∈ c.pending t, HasRoom c.world s := by
  induction r with
  | start => exact Holds.start (A := fun w _ s => HasRoom w s) found
  | @step c tr l c' r st ih =>
    have ih := ih fun l hl => alone l (List.mem_cons_of_mem _ hl)
    have alone := alone l List.mem_cons_self
    cases st with
    | @run t s rest o e ho =>
      have last : rest = [] := by
        have one := StoreRun.one_step r t
        rw [e] at one
        exact List.length_eq_zero_iff.mp (by simpa using one)
      subst last
      have mine := ih t s (e ▸ List.mem_cons_self)
      intro t' s' hs' account counted
      by_cases ht : t' = t
      · subst ht
        simp only [Machine.afterRun, Function.update_self, List.append_nil] at hs'
        have next := mine.next alone hs' account counted
        have unfiled : filer (.ran t' s o c) ≠ some account := by
          cases s with
          | insert r id path =>
            simp only [storeMachine, recordStep, insert_step, Store.answer] at hs'
            repeat' split at hs'
            all_goals cases hs'
          | _ => simp [filer]
        exact (step_recent unfiled).trans_lt next
      · simp only [Machine.afterRun, Function.update_of_ne ht] at hs'
        have room := ih t' s' hs' account counted
        have unfiled : filer (.ran t s o c) ≠ some account := by
          cases s with
          | insert r id path =>
            have other := alone t' ht s' hs'
            simp only [filer]
            split
            · exact fun e => other (counted.trans e.symm)
            · exact (Option.some_ne_none account).symm
          | _ => simp [filer]
        exact (step_recent unfiled).trans_lt room
    | @event e idle _ =>
      apply Holds.event (A := fun w _ s => HasRoom w s) ih
      · intro t' s' _ room account counted
        cases e with
        | record => exact room account counted
        | pass secs =>
          have fewer : (since Dated.created_at HOUR_SECS (c.world.clock + secs)
              (reportsBy account c.world.chat_reports)).length ≤ _ :=
            (since_later (Nat.le_add_right c.world.clock secs)).length_le
          exact fewer.trans_lt (room account counted)
      · intro s' hs' account counted
        cases e with
        | record conn r =>
          cases List.mem_singleton.mp hs'
          cases counted
        | pass => cases hs'

/-- A row goes in for a call that has its count behind it. -/
lemma HasRoom.roomy {t s o} {c : StoreSnapshot} (h : HasRoom c.world s) : Roomy (.ran t s o c) := by
  intro account filed
  cases s with
  | insert r id path =>
    simp only [filer] at filed
    split at filed
    · exact h account filed
    · cases filed
  | _ => cases filed

/-- **Reports per hour.** No account has more than its share of rows in any hour exactly if every
row that went in had room in the hour before; and that is so when the counts are answered and the
calls of one account come one at a time. -/
theorem reports_capped_iff {cfg found c tr} (r : StoreRun cfg found c tr) (past : found.Past)
    (capped : found.Capped) :
    (c.world.Capped ↔ ∀ l ∈ tr, Roomy l) ∧ ((∀ l ∈ tr, OneAtATime l) → c.world.Capped) := by
  have iff := StoreRun.capped_iff r past capped
  refine ⟨iff, fun alone => iff.mpr fun l hl => ?_⟩
  cases l with
  | came => exact nofun
  | ran t s o pre =>
    obtain ⟨later, earlier, rfl⟩ := List.append_of_mem hl
    obtain ⟨r', c', st⟩ := Run.pre_reached r _ _ _ rfl
    cases st with
    | run e _ =>
      have room := StoreRun.has_room r' fun l hl =>
        alone l (List.mem_append_right _ (List.mem_cons_of_mem _ hl))
      exact (room t s (e ▸ List.mem_cons_self)).roomy

/-! ## One call after the other, and two at once -/

instance (cfg : DumpConfig) (found : Store) :
    ∀ o w, Decidable ((storeMachine cfg found).answers o w) :=
  inferInstanceAs (∀ (o : StoreReply) (w : Store), Decidable (o.fresh w))

instance (cfg : DumpConfig) (found : Store) :
    ∀ e w, Decidable ((storeMachine cfg found).enabled e w) :=
  fun _ _ => inferInstanceAs (Decidable True)

/-- A report of Alice about one message of Bob's. -/
def aliceReports (message_id : String) : ChatReport where
  reporter_id := "acc-alice"
  accused_id := "acc-bob"
  message_id := message_id
  message_text := "gg"
  accused_name := "Bob"
  context := ""
  transcript := "Bob: gg"
  message_count := 1
  scope := "server"
  lobby_id := ""
  game_name := "Example Game"
  game_version := ""
  platform := ""
  server := ""
  reason := "spam"
  note := ""

/-- A store in which Alice has filed one report less than she may. -/
def oneBelow : Store where
  chat_reports := (List.range 19).map fun n =>
    { row := reportRow { id := toString n } (aliceReports (toString n)), created_at := 0 }

def dumps : DumpConfig := { dir := "/srv/dumps", year_month := fun _ => "1970/01" }

lemma oneBelow_past : oneBelow.Past := by
  intro d hd
  obtain ⟨n, -, rfl⟩ := List.mem_map.mp hd
  exact le_rfl

lemma oneBelow_capped : oneBelow.Capped := by
  intro account start
  have few : oneBelow.chat_reports.length = 19 := by decide
  have some := ((List.filter_sublist (l := reportsBy account oneBelow.chat_reports)
    (p := fun d => start ≤ d.created_at ∧ d.created_at ≤ start + HOUR_SECS)).trans
      List.filter_sublist).length_le
  have : REPORTS_PER_HOUR = 20 := rfl
  omega

/-- Does a step leave the calls of an account to each other, when only these tasks have any? -/
def oneAtATime (ts : List (Option String)) : StoreLabel → Bool
  | .ran _ (.recent_report_count _) o _ => o.count_ok
  | .ran t (.insert r ..) _ pre =>
    ts.all fun t' => t' = t || (pre.pending t').all (·.counted ≠ some r.reporter_id)
  | _ => true

lemma oneAtATime_sound {ts : List (Option String)} {l : StoreLabel} (h : oneAtATime ts l)
    (idle : ∀ t ∉ ts, l.pre.pending t = []) : OneAtATime l := by
  cases l with
  | ran t s o pre =>
    cases s with
    | recent_report_count r => exact h
    | write_dump r => trivial
    | insert r id path =>
      intro t' other s hs
      by_cases ht : t' ∈ ts
      · have each := List.all_eq_true.mp h t' ht
        simp only [other, decide_false, Bool.false_or, List.all_eq_true, decide_eq_true_eq] at each
        exact each s hs
      · have none : pre.pending t' = [] := idle t' ht
        rw [none] at hs
        cases hs
  | came => trivial

/-- While Bob files a report, Alice files her twentieth and is refused the next. She files it after an
hour. -/
def reportsInTurn : List (Interleave.Move (Option String) StoreReply StoreEvent) :=
  let a := some "conn-a"
  let b := some "conn-b"
  let bobs : ChatReport := { aliceReports "21" with reporter_id := "acc-bob", accused_id := "acc-alice" }
  let o : StoreReply := { id := "9b1deb4d-3b7d-4bad-9bdd-2b0d7b3dcb6d" }
  let o' : StoreReply := { id := "1f8a9f0e-7d2b-4b57-8f6f-2f6f2b0c9d01" }
  let o'' : StoreReply := { id := "c4d1c1a0-5f0e-4a53-8d43-9f4b1f7f3b22" }
  let o''' : StoreReply := { id := "5e2c7f3a-9a41-4c0e-8b64-7a1f0d3c9b33" }
  [.event (.record "conn-a" (aliceReports "19")), .event (.record "conn-b" bobs),
    .run a o, .run b o, .run a o, .run b o', .run a o'', .run b o'',
    .event (.record "conn-a" (aliceReports "20")), .run a o'', .event (.pass 3601),
    .event (.record "conn-a" (aliceReports "20")), .run a o'', .run a o'', .run a o''']

/-- Alice has twenty-one rows in the end, and never more than twenty in an hour. -/
theorem reports_capped_iff_in_turn : ∃ c tr, StoreRun dumps oneBelow c tr ∧
    ("acc-alice", .RateLimited) ∈ c.world.submitted ∧
    (reportsBy "acc-alice" c.world.chat_reports).length = 21 ∧
    (∀ l ∈ tr, Roomy l) ∧ c.world.Capped := by
  let ts := [some "conn-a", some "conn-b", none]
  let test : StoreSnapshot × List StoreLabel → Bool := fun x =>
    ("acc-alice", Submitted.RateLimited) ∈ x.1.world.submitted &&
      (reportsBy "acc-alice" x.1.world.chat_reports).length = 21 && x.2.all (oneAtATime ts)
  have movers : ∀ m ∈ reportsInTurn, (storeMachine dumps oneBelow).mover m ∈ ts := by decide
  have h : ((storeMachine dumps oneBelow).follow reportsInTurn).any test := by decide +kernel
  obtain ⟨c, tr, r, ht, idle⟩ := Machine.follow_idle movers h
  simp only [test, Bool.and_eq_true, decide_eq_true_eq] at ht
  obtain ⟨⟨refused, many⟩, turns⟩ := ht
  obtain ⟨iff, alone⟩ := reports_capped_iff r oneBelow_past oneBelow_capped
  have capped : c.world.Capped := alone fun l hl =>
    oneAtATime_sound (List.all_eq_true.mp turns l hl) (idle _ (pre_visited hl))
  exact ⟨c, tr, r, refused, many, iff.mp capped, capped⟩

/-- Two connections of hers file one each, and both count before either inserts. -/
def twoAtOnce : List (Interleave.Move (Option String) StoreReply StoreEvent) :=
  let a := some "conn-a"
  let b := some "conn-b"
  let o : StoreReply := { id := "9b1deb4d-3b7d-4bad-9bdd-2b0d7b3dcb6d" }
  let o' : StoreReply := { id := "1f8a9f0e-7d2b-4b57-8f6f-2f6f2b0c9d01" }
  let o'' : StoreReply := { id := "c4d1c1a0-5f0e-4a53-8d43-9f4b1f7f3b22" }
  [.event (.record "conn-a" (aliceReports "19")), .event (.record "conn-b" (aliceReports "20")),
    .run a o, .run b o, .run a o, .run b o', .run a o'', .run b o'']

/-- Two calls that overlap file one report too many. -/
theorem reports_over_cap : ¬ ∀ cfg found c tr, StoreRun cfg found c tr → found.Past → found.Capped →
    c.world.Capped := by
  intro all
  let test : StoreSnapshot × List StoreLabel → Bool := fun x =>
    (reportsBy "acc-alice" x.1.world.chat_reports).length = 21 &&
      x.1.world.chat_reports.all (·.created_at = 0)
  have h : ((storeMachine dumps oneBelow).follow twoAtOnce).any test := by decide +kernel
  obtain ⟨c, tr, r, ht, -⟩ := Machine.follow_reaches h
  simp only [test, Bool.and_eq_true, decide_eq_true_eq, List.all_eq_true] at ht
  obtain ⟨many, first⟩ := ht
  have few := all dumps oneBelow c tr r oneBelow_past oneBelow_capped "acc-alice" 0
  have whole : (reportsBy "acc-alice" c.world.chat_reports).filter
      (fun d => 0 ≤ d.created_at ∧ d.created_at ≤ 0 + HOUR_SECS) =
        reportsBy "acc-alice" c.world.chat_reports := by
    refine List.filter_eq_self.mpr fun d hd => ?_
    rw [first d (List.mem_filter.mp hd).1]
    rfl
  rw [whole, many] at few
  exact absurd few (by decide)

end Moderation

end RecompNet
