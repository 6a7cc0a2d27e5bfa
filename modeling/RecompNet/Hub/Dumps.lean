import RecompNet.Hub.ReportStore

/-!
# Transcripts beside the rows

A transcript is written before its row goes in, under a path that the row then carries. Nothing
takes the file back when the insert fails or finds the report filed already, and a write that breaks
off leaves what it made: `dumps_recorded_iff` says that these are the only ways to a file without a
row.
-/

namespace RecompNet

open Interleave

namespace Moderation

/-- Every transcript is the dump of a row by its reporter. -/
def Store.Tidy (s : Store) : Prop :=
  ∀ path f, s.dumps.lookup path = some f → ∃ d ∈ s.chat_reports,
    d.row.dump_path = path ∧ d.row.reporter_id = f.report.reporter_id

/-- How many transcripts an account has. -/
def dumpsBy (account : String) (s : Store) : Nat :=
  (s.dumps.entries.filter (·.2.report.reporter_id = account)).length

/-- A step leaves a transcript without a row: its write broke off, or the insert added none. -/
def LeavesDump (cfg : DumpConfig) : StoreLabel → Prop
  | .ran _ (.write_dump _) o _ => cfg.dir ≠ "" ∧ o.write = .cut_short
  | .ran _ (.insert r id path) o pre => path ≠ "" ∧ ¬ accepts o pre.world r id path
  | _ => False

/-! ## Paths -/

lemma names_dump_path (cfg : DumpConfig) (now : Nat) (id : String) :
    names id (dump_path cfg now id) := by
  unfold names dump_path
  rw [List.isSuffixOf_iff_suffix]
  exact ⟨(cfg.year_month now).toList, by simp [String.toList_append, List.append_assoc]⟩

/-- A path names one uuid at most. -/
lemma names_unique {id id' path : String} (h : names id path) (h' : names id' path)
    (len : id.toList.length = 36) (len' : id'.toList.length = 36) : id = id' := by
  unfold names at h h'
  rw [List.isSuffixOf_iff_suffix] at h h'
  have same : ("/" ++ id ++ ".txt").toList = ("/" ++ id' ++ ".txt").toList := by
    refine (List.suffix_of_suffix_length_le h h' ?_).eq_of_length ?_
    all_goals simp [String.toList_append, len, len']
  exact String.toList_inj.mp (by simpa [String.toList_append] using same)

/-- The empty path is that of the transcripts that were not written. -/
lemma names_ne {id path : String} (h : names id path) : path ≠ "" := by
  rintro rfl
  unfold names at h
  rw [List.isSuffixOf_iff_suffix] at h
  have len := h.length_le
  simp [String.toList_append] at len

/-! ## The transcript of a call -/

/-- The transcript of a call whose row is still to go in: no row has it yet. -/
structure Placed (cfg : DumpConfig) (s : Store) (r : ChatReport) (id path : String) : Prop where
  uuid : id.toList.length = 36
  drawn : id ∈ s.drawn
  dated : ∃ now, path = dump_path cfg now id
  file : ∃ f, s.dumps.lookup path = some f
  free : ∀ d ∈ s.chat_reports, d.row.dump_path ≠ path

/-- A transcript that no row has and none will have. -/
structure Lost (path id : String) (c : StoreSnapshot) : Prop where
  uuid : id.toList.length = 36
  drawn : id ∈ c.world.drawn
  named : names id path
  file : ∃ f, c.world.dumps.lookup path = some f
  free : ∀ d ∈ c.world.chat_reports, d.row.dump_path ≠ path
  unclaimed : ∀ t r id' path', .insert r id' path' ∈ c.pending t → path' ≠ path

/-- Every call that has written a transcript still has it, and it is not another call's. -/
structure Tracked (cfg : DumpConfig) (c : StoreSnapshot) : Prop where
  placed : ∀ t r id path, .insert r id path ∈ c.pending t → path ≠ "" → Placed cfg c.world r id path
  apart : ∀ t t' r r' id path path', .insert r id path ∈ c.pending t →
    .insert r' id path' ∈ c.pending t' → path ≠ "" → path' ≠ "" → t = t'

/-- Every transcript has its row or waits for it. -/
def Awaited (c : StoreSnapshot) : Prop :=
  ∀ path f, c.world.dumps.lookup path = some f →
    (∃ d ∈ c.world.chat_reports,
      d.row.dump_path = path ∧ d.row.reporter_id = f.report.reporter_id) ∨
    ∃ t r id, .insert r id path ∈ c.pending t ∧ path ≠ "" ∧ r.reporter_id = f.report.reporter_id

/-- A store in which a transcript was made. -/
def Store.make (s : Store) (id path : String) (r : ChatReport) : Store :=
  { s with
    drawn := id :: s.drawn
    dumps := s.dumps.insert path { id, filed := s.clock, report := r } }

/-- The three ways of writing a transcript. -/
lemma write_dump_cases (cfg : DumpConfig) (o : StoreReply) (s : Store) (r : ChatReport) :
    (cfg.dir ≠ "" ∧ o.write = .ok ∧ write_dump_step cfg o s r =
      (s.make o.id (dump_path cfg s.clock o.id) r, [.insert r o.id (dump_path cfg s.clock o.id)])) ∨
    (cfg.dir ≠ "" ∧ o.write = .cut_short ∧ write_dump_step cfg o s r =
      (s.make o.id (dump_path cfg s.clock o.id) r, [.insert r o.id ""])) ∨
    ¬ (cfg.dir ≠ "" ∧ o.write = .cut_short) ∧ write_dump_step cfg o s r =
      ({ s with drawn := o.id :: s.drawn }, [.insert r o.id ""]) := by
  unfold write_dump_step
  dsimp only
  split
  · rename_i off
    exact .inr (.inr ⟨fun h => h.1 off, rfl⟩)
  · rename_i on
    cases hw : o.write with
    | ok => exact .inl ⟨on, rfl, rfl⟩
    | cut_short => exact .inr (.inl ⟨on, rfl, rfl⟩)
    | missing => exact .inr (.inr ⟨fun h => (nomatch h.2), rfl⟩)

/-- The step of a task is its only one. -/
lemma StoreRun.only {cfg found c tr t s rest} (r : StoreRun cfg found c tr)
    (e : c.pending t = s :: rest) : rest = [] := by
  have one := StoreRun.one_step r t
  rw [e] at one
  exact List.length_eq_zero_iff.mp (by simpa using one)

/-- Two uuids go to two paths. -/
lemma dump_path_inj {cfg : DumpConfig} {now now' : Nat} {id id' : String}
    (len : id.toList.length = 36) (len' : id'.toList.length = 36)
    (e : dump_path cfg now id = dump_path cfg now' id') : id = id' :=
  names_unique (names_dump_path cfg now id) (e ▸ names_dump_path cfg now' id') len len'

/-- A transcript is where it was when another one is made. -/
lemma Placed.make {cfg s r id path id' r'} (h : Placed cfg s r id path)
    (len : id'.toList.length = 36) (new : id' ∉ s.drawn) :
    Placed cfg (s.make id' (dump_path cfg s.clock id') r') r id path := by
  obtain ⟨f, hf⟩ := h.file
  obtain ⟨now, rfl⟩ := h.dated
  have apart : dump_path cfg now id ≠ dump_path cfg s.clock id' := by
    intro e
    exact new (dump_path_inj h.uuid len e ▸ h.drawn)
  exact
    { uuid := h.uuid
      drawn := List.mem_cons_of_mem _ h.drawn
      dated := ⟨now, rfl⟩
      file := ⟨f, (AList.lookup_insert_ne apart).trans hf⟩
      free := h.free }

lemma Placed.draw {cfg s r id path id'} (h : Placed cfg s r id path) :
    Placed cfg { s with drawn := id' :: s.drawn } r id path where
  uuid := h.uuid
  drawn := List.mem_cons_of_mem _ h.drawn
  dated := h.dated
  file := h.file
  free := h.free

/-- The transcript that was just made. -/
lemma Placed.made {cfg s r} {o : StoreReply} (fresh : o.fresh s) :
    Placed cfg (s.make o.id (dump_path cfg s.clock o.id) r) r o.id (dump_path cfg s.clock o.id) where
  uuid := fresh.1
  drawn := List.mem_cons_self
  dated := ⟨_, rfl⟩
  file := ⟨_, AList.lookup_insert _⟩
  free := by
    intro d hd e
    have unnamed := List.all_eq_true.mp fresh.2.2.1 d hd
    rw [e, names_dump_path] at unnamed
    cases unnamed

/-- A transcript stays where it is when a row with another path goes in. -/
lemma Placed.append {cfg s r id path d} (h : Placed cfg s r id path)
    (other : d.row.dump_path ≠ path) :
    Placed cfg { s with chat_reports := s.chat_reports ++ [d] } r id path where
  uuid := h.uuid
  drawn := h.drawn
  dated := h.dated
  file := h.file
  free := by
    intro d' hd'
    rcases List.mem_append.mp hd' with hd' | hd'
    · exact h.free d' hd'
    · exact List.mem_singleton.mp hd' ▸ other

/-! ## What a step does -/

/-- No transcript, no row and no row that is to go in changes. -/
structure Still (c c' : StoreSnapshot) : Prop where
  drawn : c'.world.drawn = c.world.drawn
  dumps : c'.world.dumps = c.world.dumps
  rows : c'.world.chat_reports = c.world.chat_reports
  inserts : ∀ t r id path, .insert r id path ∈ c'.pending t ↔ .insert r id path ∈ c.pending t

/-- What a step does to the transcripts, to the rows and to those that are to go in. -/
inductive Filing (cfg : DumpConfig) (c : StoreSnapshot) : StoreLabel → StoreSnapshot → Prop
  | still {l c'} : ¬ LeavesDump cfg l → Still c c' → Filing cfg c l c'
  | wrote {t r} {o : StoreReply} :
    o.fresh c.world →
    c.pending t = [.write_dump r] →
    o.write = .ok →
    Filing cfg c (.ran t (.write_dump r) o c)
      ⟨c.world.make o.id (dump_path cfg c.world.clock o.id) r,
        Function.update c.pending t [.insert r o.id (dump_path cfg c.world.clock o.id)]⟩
  | broke {t r} {o : StoreReply} :
    o.fresh c.world →
    c.pending t = [.write_dump r] →
    LeavesDump cfg (.ran t (.write_dump r) o c) →
    Filing cfg c (.ran t (.write_dump r) o c)
      ⟨c.world.make o.id (dump_path cfg c.world.clock o.id) r,
        Function.update c.pending t [.insert r o.id ""]⟩
  | unwritten {t r} {o : StoreReply} :
    o.fresh c.world →
    c.pending t = [.write_dump r] →
    ¬ LeavesDump cfg (.ran t (.write_dump r) o c) →
    Filing cfg c (.ran t (.write_dump r) o c)
      ⟨{ c.world with drawn := o.id :: c.world.drawn },
        Function.update c.pending t [.insert r o.id ""]⟩
  | accepted {t r id path o w} :
    c.pending t = [.insert r id path] →
    accepts o c.world r id path →
    w.drawn = c.world.drawn →
    w.dumps = c.world.dumps →
    w.chat_reports = c.world.chat_reports ++
      [{ row := reportRow { id, dump_path := path } r, created_at := c.world.clock }] →
    Filing cfg c (.ran t (.insert r id path) o c) ⟨w, Function.update c.pending t []⟩
  | refused {t r id path o w} :
    c.pending t = [.insert r id path] →
    ¬ accepts o c.world r id path →
    w.drawn = c.world.drawn →
    w.dumps = c.world.dumps →
    w.chat_reports = c.world.chat_reports →
    Filing cfg c (.ran t (.insert r id path) o c) ⟨w, Function.update c.pending t []⟩

lemma mem_update {w : Store} {p : Option String → List RecordStep} {t t' ss s} :
    s ∈ (Snapshot.mk w (Function.update p t ss)).pending t' ↔
      t' = t ∧ s ∈ ss ∨ t' ≠ t ∧ s ∈ p t' := by
  by_cases ht : t' = t
  · subst ht
    simp
  · simp [ht]

/-- The insert leaves the transcripts alone, and is the end of its call. -/
lemma insert_frame (o : StoreReply) (s : Store) (r : ChatReport) (id path : String) :
    (insert_step o s r id path).1.drawn = s.drawn ∧ (insert_step o s r id path).1.dumps = s.dumps ∧
      (insert_step o s r id path).2 = [] := by
  unfold insert_step Store.answer
  cases o.insert_ok with
  | false => exact ⟨rfl, rfl, rfl⟩
  | true =>
    dsimp only [Bool.not_true]
    cases (s.chat_reports.map Dated.row).any (reportRow { id, dump_path := path } r).clashes
    all_goals exact ⟨rfl, rfl, rfl⟩

/-- What is left to insert after a step or an event that brings no insert. -/
lemma Still.of_update {c : StoreSnapshot} {t ss w} (drawn : w.drawn = c.world.drawn)
    (dumps : w.dumps = c.world.dumps) (rows : w.chat_reports = c.world.chat_reports)
    (before : ∀ r id path, .insert r id path ∉ c.pending t)
    (after : ∀ r id path, .insert r id path ∉ ss) : Still c ⟨w, Function.update c.pending t ss⟩ := by
  refine ⟨drawn, dumps, rows, fun t' r id path => mem_update.trans ?_⟩
  constructor
  · rintro (⟨-, h⟩ | ⟨-, h⟩)
    · exact absurd h (after r id path)
    · exact h
  · intro h
    refine .inr ⟨fun e => before r id path (e ▸ h), h⟩

/-- Every step is one of these. -/
lemma StoreRun.filing {cfg found c tr l c'} (r : StoreRun cfg found c tr)
    (st : Step (storeMachine cfg found) c l c') : Filing cfg c l c' := by
  cases st with
  | @run t s rest o e fresh =>
    cases StoreRun.only r e
    cases s with
    | recent_report_count q =>
      refine .still id ?_
      unfold Machine.afterRun
      have before : ∀ r id path, .insert r id path ∉ c.pending t := by simp [e]
      simp only [storeMachine, recordStep, count_step, Store.answer]
      split
      all_goals
        split
        all_goals exact Still.of_update rfl rfl rfl before (by simp)
    | write_dump q =>
      unfold Machine.afterRun
      simp only [storeMachine, recordStep]
      rcases write_dump_cases cfg o c.world q with ⟨on, ok, e'⟩ | ⟨on, cut, e'⟩ | ⟨clean, e'⟩
      all_goals rw [e', List.append_nil]
      · exact .wrote fresh e ok
      · exact .broke fresh e ⟨on, cut⟩
      · exact .unwritten fresh e clean
    | insert q id path =>
      obtain ⟨drawn, dumps, done⟩ := insert_frame o c.world q id path
      have rows := insert_rows o c.world q id path
      unfold Machine.afterRun
      simp only [storeMachine, recordStep]
      rw [done, List.append_nil]
      by_cases ok : accepts o c.world q id path
      · exact .accepted e ok drawn dumps (rows.trans (if_pos ok))
      · exact .refused e ok drawn dumps (rows.trans (if_neg ok))
  | @event e idle _ =>
    refine .still id ?_
    unfold Machine.afterEvent
    have before : ∀ r id path, .insert r id path ∉ c.pending ((storeMachine cfg found).task e) := by
      simp [idle]
    cases e with
    | record conn q => exact Still.of_update rfl rfl rfl before (by simp [storeMachine])
    | pass secs => exact Still.of_update rfl rfl rfl before (by simp [storeMachine])

/-! ## Over a run -/

lemma Placed.of_eq {cfg s s' r id path} (h : Placed cfg s r id path) (drawn : s'.drawn = s.drawn)
    (dumps : s'.dumps = s.dumps) (rows : s'.chat_reports = s.chat_reports) :
    Placed cfg s' r id path where
  uuid := h.uuid
  drawn := drawn ▸ h.drawn
  dated := h.dated
  file := dumps ▸ h.file
  free := rows ▸ h.free

/-- A call with no transcript waits to insert its row like any that has nothing to insert. -/
lemma pathless {w : Store} {p : Option String → List RecordStep} {t t' q r id id' path}
    (h : .insert r id path ∈ (Snapshot.mk w (Function.update p t [.insert q id' ""])).pending t')
    (written : path ≠ "") : .insert r id path ∈ p t' := by
  rcases mem_update.mp h with ⟨-, h⟩ | ⟨-, h⟩
  · cases List.mem_singleton.mp h
    exact absurd rfl written
  · exact h

lemma pending_over {w : Store} {p : Option String → List RecordStep} {t t' s}
    (h : s ∈ (Snapshot.mk w (Function.update p t [])).pending t') : t' ≠ t ∧ s ∈ p t' := by
  rcases mem_update.mp h with ⟨-, h⟩ | h
  · cases h
  · exact h

/-- Two calls have two paths. -/
lemma Tracked.own {cfg c t t' r r' id id' path} (h : Tracked cfg c)
    (hi : .insert r id path ∈ c.pending t) (hi' : .insert r' id' path ∈ c.pending t')
    (written : path ≠ "") : t = t' := by
  have placed := h.placed _ _ _ _ hi written
  have placed' := h.placed _ _ _ _ hi' written
  obtain ⟨now, e⟩ := placed.dated
  obtain ⟨now', e'⟩ := placed'.dated
  cases dump_path_inj placed.uuid placed'.uuid (e.symm.trans e')
  exact h.apart _ _ _ _ _ _ _ hi hi' written written

/-- A call's transcript is its own, whatever comes next. -/
lemma Tracked.step {cfg c l c'} (h : Tracked cfg c) (st : Filing cfg c l c') : Tracked cfg c' := by
  cases st with
  | still _ same =>
    constructor
    · intro t r id path hi written
      have placed := h.placed t r id path ((same.inserts ..).mp hi) written
      exact placed.of_eq same.drawn same.dumps same.rows
    · intro t t' r r' id path path' hi hi'
      exact h.apart _ _ _ _ _ _ _ ((same.inserts ..).mp hi) ((same.inserts ..).mp hi')
  | @wrote t q o fresh waits _ =>
    -- The id was just drawn, so no transcript is placed under it.
    have other : ∀ t' r path, .insert r o.id path ∈ c.pending t' → path = "" := by
      intro t' r path hi
      by_contra written
      exact fresh.2.1 (h.placed _ _ _ _ hi written).drawn
    constructor
    · intro t' r id path hi written
      rcases mem_update.mp hi with ⟨-, hi⟩ | ⟨-, hi⟩
      · cases List.mem_singleton.mp hi
        exact Placed.made fresh
      · exact (h.placed _ _ _ _ hi written).make fresh.1 fresh.2.1
    · intro t₁ t₂ r₁ r₂ id path path' hi hi' written written'
      rcases mem_update.mp hi with ⟨e, hi⟩ | ⟨-, hi⟩ <;>
        rcases mem_update.mp hi' with ⟨e', hi'⟩ | ⟨-, hi'⟩
      · exact e.trans e'.symm
      · cases List.mem_singleton.mp hi
        exact absurd (other _ _ _ hi') written'
      · cases List.mem_singleton.mp hi'
        exact absurd (other _ _ _ hi) written
      · exact h.apart _ _ _ _ _ _ _ hi hi' written written'
  | @broke t q o fresh waits leaves =>
    constructor
    · intro t' r id path hi written
      exact (h.placed _ _ _ _ (pathless hi written) written).make fresh.1 fresh.2.1
    · intro t₁ t₂ r₁ r₂ id path path' hi hi' written written'
      exact h.apart _ _ _ _ _ _ _ (pathless hi written) (pathless hi' written') written written'
  | @unwritten t q o fresh waits _ =>
    constructor
    · intro t' r id path hi written
      exact (h.placed _ _ _ _ (pathless hi written) written).draw
    · intro t₁ t₂ r₁ r₂ id path path' hi hi' written written'
      exact h.apart _ _ _ _ _ _ _ (pathless hi written) (pathless hi' written') written written'
  | @accepted t q id₀ path₀ o w waits _ drawn dumps rows =>
    have mine : .insert q id₀ path₀ ∈ c.pending t := waits ▸ List.mem_cons_self
    constructor
    · intro t' r id path hi written
      obtain ⟨ht, hi⟩ := pending_over hi
      -- Two calls do not share a transcript.
      have other : path₀ ≠ path := by
        rintro rfl
        exact ht (h.own hi mine written)
      exact ((h.placed _ _ _ _ hi written).append other).of_eq drawn dumps rows
    · intro t₁ t₂ r₁ r₂ id path path' hi hi'
      exact h.apart _ _ _ _ _ _ _ (pending_over hi).2 (pending_over hi').2
  | @refused t q id₀ path₀ o w waits _ drawn dumps rows =>
    constructor
    · intro t' r id path hi written
      exact (h.placed _ _ _ _ (pending_over hi).2 written).of_eq drawn dumps rows
    · intro t₁ t₂ r₁ r₂ id path path' hi hi'
      exact h.apart _ _ _ _ _ _ _ (pending_over hi).2 (pending_over hi').2

lemma StoreRun.tracked {cfg found c tr} (r : StoreRun cfg found c tr) : Tracked cfg c := by
  induction r with
  | start =>
    refine ⟨fun _ _ _ _ waits => absurd waits List.not_mem_nil, ?_⟩
    exact fun _ _ _ _ _ _ _ waits => absurd waits List.not_mem_nil
  | step r st ih => exact ih.step (StoreRun.filing r st)

/-- A step of those leaves a transcript that no row has. -/
lemma LeavesDump.lost {cfg c l c'} (h : Tracked cfg c) (st : Filing cfg c l c')
    (leaves : LeavesDump cfg l) : ∃ path id, Lost path id c' := by
  cases st with
  | still clean => exact absurd leaves clean
  | unwritten _ _ clean => exact absurd leaves clean
  | accepted _ ok => exact absurd ok leaves.2
  | wrote _ _ ok => exact nomatch ok.symm.trans leaves.2
  | @broke t q o fresh waits leaves =>
    have placed := @Placed.made cfg _ q _ fresh
    refine ⟨dump_path cfg c.world.clock o.id, o.id, placed.uuid, placed.drawn, names_dump_path ..,
      placed.file, placed.free, ?_⟩
    rintro t' r id' path' hi rfl
    have written := names_ne (names_dump_path cfg c.world.clock o.id)
    have placed' := h.placed _ _ _ _ (pathless hi written) written
    obtain ⟨now, e⟩ := placed'.dated
    exact fresh.2.1 (dump_path_inj fresh.1 placed'.uuid e ▸ placed'.drawn)
  | @refused t q id path o w waits _ drawn dumps rows =>
    have mine : .insert q id path ∈ c.pending t := waits ▸ List.mem_cons_self
    have placed := (h.placed _ _ _ _ mine leaves.1).of_eq drawn dumps rows
    obtain ⟨now, e⟩ := placed.dated
    refine ⟨path, id, placed.uuid, placed.drawn, e ▸ names_dump_path cfg now id, placed.file,
      placed.free, ?_⟩
    rintro t' r id' path' hi rfl
    exact (pending_over hi).1 (h.own (pending_over hi).2 mine leaves.1)

/-- Such a transcript stays without a row. -/
lemma Lost.step {cfg path id c l c'} (h : Lost path id c) (st : Filing cfg c l c') :
    Lost path id c' := by
  have moved : ∀ {now id'}, id' ∉ c.world.drawn → id'.toList.length = 36 →
      dump_path cfg now id' ≠ path := by
    rintro now id' new len rfl
    exact new (names_unique (names_dump_path cfg now id') h.named len h.uuid ▸ h.drawn)
  cases st with
  | still _ same =>
    exact
      { uuid := h.uuid
        drawn := same.drawn ▸ h.drawn
        named := h.named
        file := same.dumps ▸ h.file
        free := same.rows ▸ h.free
        unclaimed := fun t r id' path' hi => h.unclaimed t r id' path' ((same.inserts ..).mp hi) }
  | @wrote t q o fresh waits _ =>
    obtain ⟨f, hf⟩ := h.file
    have apart := @moved c.world.clock _ fresh.2.1 fresh.1
    refine ⟨h.uuid, List.mem_cons_of_mem _ h.drawn, h.named, ⟨f, ?_⟩, h.free, ?_⟩
    · exact (AList.lookup_insert_ne apart.symm).trans hf
    · intro t' r id' path' hi
      rcases mem_update.mp hi with ⟨-, hi⟩ | ⟨-, hi⟩
      · cases List.mem_singleton.mp hi
        exact apart
      · exact h.unclaimed _ _ _ _ hi
  | @broke t q o fresh waits leaves =>
    obtain ⟨f, hf⟩ := h.file
    have apart := @moved c.world.clock _ fresh.2.1 fresh.1
    refine ⟨h.uuid, List.mem_cons_of_mem _ h.drawn, h.named, ⟨f, ?_⟩, h.free, ?_⟩
    · exact (AList.lookup_insert_ne apart.symm).trans hf
    · rintro t' r id' path' hi rfl
      exact h.unclaimed _ _ _ _ (pathless hi (names_ne h.named)) rfl
  | @unwritten t q o fresh waits _ =>
    refine ⟨h.uuid, List.mem_cons_of_mem _ h.drawn, h.named, h.file, h.free, ?_⟩
    rintro t' r id' path' hi rfl
    exact h.unclaimed _ _ _ _ (pathless hi (names_ne h.named)) rfl
  | @accepted t q id₀ path₀ o w waits _ drawn dumps rows =>
    refine ⟨h.uuid, drawn ▸ h.drawn, h.named, dumps ▸ h.file, ?_, ?_⟩
    · intro d hd
      rw [rows] at hd
      rcases List.mem_append.mp hd with hd | hd
      · exact h.free d hd
      · cases List.mem_singleton.mp hd
        exact h.unclaimed t _ _ _ (waits ▸ List.mem_cons_self)
    · exact fun t' r id' path' hi => h.unclaimed _ _ _ _ (pending_over hi).2
  | @refused t q id₀ path₀ o w waits _ drawn dumps rows =>
    refine ⟨h.uuid, drawn ▸ h.drawn, h.named, dumps ▸ h.file, rows ▸ h.free, ?_⟩
    exact fun t' r id' path' hi => h.unclaimed _ _ _ _ (pending_over hi).2

/-- A step that leaves no transcript behind keeps each with its row, or waiting for it. -/
lemma Awaited.step {cfg c l c'} (h : Awaited c) (st : Filing cfg c l c')
    (clean : ¬ LeavesDump cfg l) : Awaited c' := by
  cases st with
  | still _ same =>
    intro path f hf
    rcases h path f (same.dumps ▸ hf) with filed | ⟨t, r, id, hi, rest⟩
    · exact .inl (same.rows.symm ▸ filed)
    · exact .inr ⟨t, r, id, (same.inserts ..).mpr hi, rest⟩
  | @wrote t q o fresh waits _ =>
    intro path f hf
    by_cases new : path = dump_path cfg c.world.clock o.id
    · subst new
      cases (AList.lookup_insert _).symm.trans hf
      exact .inr ⟨t, q, o.id, mem_update.mpr (.inl ⟨rfl, List.mem_cons_self⟩),
        names_ne (names_dump_path ..), rfl⟩
    · rcases h path f ((AList.lookup_insert_ne new).symm.trans hf) with filed | ⟨t', r, id, hi, rest⟩
      · exact .inl filed
      · refine .inr ⟨t', r, id, mem_update.mpr (.inr ⟨?_, hi⟩), rest⟩
        rintro rfl
        simp [waits] at hi
  | broke _ _ leaves => exact absurd leaves clean
  | @unwritten t q o fresh waits _ =>
    intro path f hf
    rcases h path f hf with filed | ⟨t', r, id, hi, rest⟩
    · exact .inl filed
    · refine .inr ⟨t', r, id, mem_update.mpr (.inr ⟨?_, hi⟩), rest⟩
      rintro rfl
      simp [waits] at hi
  | @accepted t q id₀ path₀ o w waits _ drawn dumps rows =>
    intro path f hf
    rcases h path f (dumps ▸ hf) with ⟨d, hd, rest⟩ | ⟨t', r, id, hi, rest⟩
    · exact .inl ⟨d, rows ▸ List.mem_append_left _ hd, rest⟩
    · by_cases ht : t' = t
      · subst ht
        rw [waits] at hi
        cases List.mem_singleton.mp hi
        exact .inl ⟨_, rows ▸ List.mem_append_right _ List.mem_cons_self, rfl, rest.2⟩
      · exact .inr ⟨t', r, id, mem_update.mpr (.inr ⟨ht, hi⟩), rest⟩
  | @refused t q id₀ path₀ o w waits no drawn dumps rows =>
    intro path f hf
    rcases h path f (dumps ▸ hf) with filed | ⟨t', r, id, hi, rest⟩
    · exact .inl (rows.symm ▸ filed)
    · refine .inr ⟨t', r, id, mem_update.mpr (.inr ⟨?_, hi⟩), rest⟩
      rintro rfl
      rw [waits] at hi
      cases List.mem_singleton.mp hi
      exact clean ⟨rest.1, no⟩

/-- Where every transcript has its row, an account has as many rows at least. -/
lemma dumpsBy_le {s : Store} (tidy : s.Tidy) (account : String) :
    dumpsBy account s ≤ (reportsBy account s.chat_reports).length := by
  have distinct : ((s.dumps.entries.filter (·.2.report.reporter_id = account)).map Sigma.fst).Nodup :=
    s.dumps.nodupKeys.sublist List.filter_sublist
  have rowed : (s.dumps.entries.filter (·.2.report.reporter_id = account)).map Sigma.fst ⊆
      (reportsBy account s.chat_reports).map (·.row.dump_path) := by
    intro path hp
    obtain ⟨⟨path, f⟩, hf, rfl⟩ := List.mem_map.mp hp
    obtain ⟨stored, mine⟩ := List.mem_filter.mp hf
    obtain ⟨d, hd, e, by'⟩ := tidy path f (AList.mem_lookup_iff.mpr stored)
    exact List.mem_map.mpr ⟨d, List.mem_filter.mpr ⟨hd, by simpa [by'] using mine⟩, e⟩
  simpa [dumpsBy] using (distinct.subperm rowed).length_le

/-- A transcript without a row is one that a step left so, until the calls are over. -/
lemma StoreRun.lost_or_awaited {cfg found c tr} (r : StoreRun cfg found c tr) (tidy : found.Tidy) :
    ((∀ l ∈ tr, ¬ LeavesDump cfg l) → Awaited c) ∧
      ((∃ l ∈ tr, LeavesDump cfg l) → ∃ path id, Lost path id c) := by
  induction r with
  | start =>
    refine ⟨fun _ path f hf => .inl (tidy path f hf), ?_⟩
    rintro ⟨l, hl, -⟩
    exact absurd hl List.not_mem_nil
  | @step c tr l c' r st ih =>
    have filing := StoreRun.filing r st
    constructor
    · intro clean
      obtain ⟨last, earlier⟩ := List.forall_mem_cons.mp clean
      exact (ih.1 earlier).step filing last
    · rintro ⟨l', hl', leaves⟩
      rcases List.mem_cons.mp hl' with rfl | hl'
      · exact leaves.lost (StoreRun.tracked r) filing
      · obtain ⟨path, id, lost⟩ := ih.2 ⟨l', hl', leaves⟩
        exact ⟨path, id, lost.step filing⟩

/-- **Transcripts.** When no call is left, every transcript is that of a row, and no account has
more of them than rows, exactly if no write broke off and no insert refused a report with a
transcript. -/
theorem dumps_recorded_iff {cfg found c tr} (r : StoreRun cfg found c tr) (tidy : found.Tidy)
    (quiet : c.Quiet) :
    (c.world.Tidy ∧
      ∀ account, dumpsBy account c.world ≤ (reportsBy account c.world.chat_reports).length) ↔
      ∀ l ∈ tr, ¬ LeavesDump cfg l := by
  obtain ⟨awaited, lost⟩ := StoreRun.lost_or_awaited r tidy
  constructor
  · rintro ⟨recorded, -⟩ l hl leaves
    obtain ⟨path, id, h⟩ := lost ⟨l, hl, leaves⟩
    obtain ⟨f, hf⟩ := h.file
    obtain ⟨d, hd, e, -⟩ := recorded path f hf
    exact h.free d hd e
  · intro clean
    have recorded : c.world.Tidy := by
      intro path f hf
      rcases awaited clean path f hf with filed | ⟨t, r, id, hi, -⟩
      · exact filed
      · exact absurd hi (quiet t ▸ List.not_mem_nil)
    exact ⟨recorded, dumpsBy_le recorded⟩

/-! ## One report after another, and one twice -/

instance (cfg : DumpConfig) : DecidablePred (LeavesDump cfg)
  | .ran _ (.recent_report_count _) _ _ => isFalse id
  | .ran _ (.write_dump _) o _ => inferInstanceAs (Decidable (cfg.dir ≠ "" ∧ o.write = .cut_short))
  | .ran _ (.insert r id path) o pre =>
    inferInstanceAs (Decidable (path ≠ "" ∧ ¬ accepts o pre.world r id path))
  | .came .. => isFalse id

/-- Alice and Bob file a report each, and the transcript of Bob's is not made. -/
def onceEach : List (Interleave.Move (Option String) StoreReply StoreEvent) :=
  let a := some "conn-a"
  let b := some "conn-b"
  let bobs : ChatReport := { aliceReports "m2" with reporter_id := "acc-bob", accused_id := "acc-alice" }
  let o : StoreReply := { id := "9b1deb4d-3b7d-4bad-9bdd-2b0d7b3dcb6d" }
  let o' : StoreReply := { id := "1f8a9f0e-7d2b-4b57-8f6f-2f6f2b0c9d01", write := .missing }
  let o'' : StoreReply := { id := "c4d1c1a0-5f0e-4a53-8d43-9f4b1f7f3b22" }
  [.event (.record "conn-a" (aliceReports "m1")), .event (.record "conn-b" bobs),
    .run a o, .run b o, .run a o, .run b o', .run b o'', .run a o'']

/-- Both reports have their rows, and Alice's its transcript. -/
theorem dumps_recorded_iff_once : ∃ c tr, StoreRun dumps {} c tr ∧
    dumpsBy "acc-alice" c.world = 1 ∧ dumpsBy "acc-bob" c.world = 0 ∧
    (reportsBy "acc-bob" c.world.chat_reports).length = 1 ∧ c.world.Tidy ∧
    ∀ account, dumpsBy account c.world ≤ (reportsBy account c.world.chat_reports).length := by
  let ts := [some "conn-a", some "conn-b"]
  let test : StoreSnapshot × List StoreLabel → Bool := fun x =>
    dumpsBy "acc-alice" x.1.world = 1 && dumpsBy "acc-bob" x.1.world = 0 &&
      (reportsBy "acc-bob" x.1.world.chat_reports).length = 1 &&
      x.2.all fun l => ¬ LeavesDump dumps l
  have h : ((storeMachine dumps {}).follow onceEach).any fun x =>
      test x && ts.all fun t => (x.1.pending t).isEmpty := by decide +kernel
  obtain ⟨c, tr, r, ht, quiet⟩ := Machine.follow_quiet ts (by decide) h
  simp only [test, Bool.and_eq_true, decide_eq_true_eq, List.all_eq_true] at ht
  obtain ⟨⟨⟨alice, bob⟩, row⟩, clean⟩ := ht
  exact ⟨c, tr, r, alice, bob, row, (dumps_recorded_iff r nofun quiet).mpr clean⟩

/-- Alice reports one message two times. -/
def twiceOver : List (Interleave.Move (Option String) StoreReply StoreEvent) :=
  let a := some "conn-a"
  let o : StoreReply := { id := "9b1deb4d-3b7d-4bad-9bdd-2b0d7b3dcb6d" }
  let o' : StoreReply := { id := "1f8a9f0e-7d2b-4b57-8f6f-2f6f2b0c9d01" }
  let o'' : StoreReply := { id := "c4d1c1a0-5f0e-4a53-8d43-9f4b1f7f3b22" }
  [.event (.record "conn-a" (aliceReports "m1")), .run a o, .run a o, .run a o',
    .event (.record "conn-a" (aliceReports "m1")), .run a o'', .run a o'', .run a o']

/-- A duplicate leaves a transcript behind. -/
theorem duplicate_leaves_dump : ¬ ∀ cfg found c tr, StoreRun cfg found c tr → found.Tidy → c.Quiet →
    ∀ account, dumpsBy account c.world ≤ (reportsBy account c.world.chat_reports).length := by
  intro all
  let test : StoreSnapshot × List StoreLabel → Bool := fun x =>
    dumpsBy "acc-alice" x.1.world = 2 && (reportsBy "acc-alice" x.1.world.chat_reports).length = 1
  have h : ((storeMachine dumps {}).follow twiceOver).any fun x =>
      test x && [some "conn-a"].all fun t => (x.1.pending t).isEmpty := by decide +kernel
  obtain ⟨c, tr, r, ht, quiet⟩ := Machine.follow_quiet [some "conn-a"] (by decide) h
  simp only [test, Bool.and_eq_true, decide_eq_true_eq] at ht
  obtain ⟨files, rows⟩ := ht
  have le := all dumps {} c tr r nofun quiet "acc-alice"
  omega

end Moderation

end RecompNet
