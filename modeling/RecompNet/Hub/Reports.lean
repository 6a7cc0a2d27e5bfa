import RecompNet.ChatFilter
import RecompNet.Hub.ChatOrder

/-!
# Reports across restarts

`moderation::record` and the `chat_reports` table, which outlives the process: a restart empties the ring
and takes the line counter back, and the table keeps its rows with one row at most for a reporter and a
message id. A report that finds a row under its reporter and id is answered as a filed one. The running
process names its own lines apart, so such a row is about the reported line, unless an earlier process
left it.
-/

namespace RecompNet

open Section Interleave

namespace Moderation

def REASONS : List String :=
  ["harassment", "hate_speech", "sexual_content", "spam", "threats", "cheating_claim", "other"]

def NOTE_MAX_CHARS : Nat := 500
def REPORTS_PER_HOUR : Nat := 20

def normalize_reason (reason : String) : String :=
  let r := Text.to_ascii_lowercase (Text.trim reason)
  if r ∈ REASONS then r else "other"

/-- Trim a text and cut it to a number of characters. -/
def clamp (s : String) (max : Nat) : String := String.ofList ((Text.trimChars s.toList).take max)

/-- A row of `chat_reports`. -/
structure ReportRow where
  id : String
  reporter_id : String
  accused_id : String
  message_id : String
  message_text : String
  accused_name : String
  context : String
  transcript : String
  message_count : Nat
  scope : String
  lobby_id : String
  game_name : String
  game_version : String
  platform : String
  server : String
  dump_path : String
  reason : String
  note : String

/-- What `record` learns from the outside: the count of the last hour, a fresh id, where the dump went,
and whether the database takes a row that breaks no constraint. -/
structure StoreAnswer where
  recent_report_count : Nat := 0
  id : String := ""
  dump_path : String := ""
  insert_ok : Bool := true

/-- The row of a report. -/
def reportRow (x : StoreAnswer) (r : ChatReport) : ReportRow where
  id := x.id
  reporter_id := r.reporter_id
  accused_id := r.accused_id
  message_id := clamp r.message_id 64
  message_text := clamp r.message_text 512
  accused_name := clamp r.accused_name 64
  context := clamp r.context 2048
  transcript := clamp r.transcript 8192
  message_count := min r.message_count 64
  scope := clamp r.scope 16
  lobby_id := clamp r.lobby_id 64
  game_name := clamp r.game_name 128
  game_version := clamp r.game_version 64
  platform := clamp r.platform 32
  server := clamp r.server 256
  dump_path := x.dump_path
  reason := normalize_reason r.reason
  note := clamp r.note NOTE_MAX_CHARS

/-- Does a row have the reporter and the message id of another, which `UNIQUE` forbids? -/
def ReportRow.clashes (row row' : ReportRow) : Bool :=
  row.reporter_id = row'.reporter_id && row.message_id = row'.message_id

/-- What becomes of a report, and of the table. -/
def record (x : StoreAnswer) (rows : List ReportRow) (r : ChatReport) :
    Submitted × List ReportRow :=
  if REPORTS_PER_HOUR ≤ x.recent_report_count then (.RateLimited, rows)
  else
    let row := reportRow x r
    if !x.insert_ok then (.Failed, rows)
    else if rows.any row.clashes then (.Duplicate, rows)
    else (.Ok, rows ++ [row])

/-- The count is of rows by the reporter, and a uuid never repeats. -/
def StoreAnswer.possible (x : StoreAnswer) (rows : List ReportRow) (r : ChatReport) : Prop :=
  x.recent_report_count ≤ rows.countP (·.reporter_id = r.reporter_id) ∧ ∀ row ∈ rows, row.id ≠ x.id

instance (x : StoreAnswer) (rows : List ReportRow) (r : ChatReport) :
    Decidable (x.possible rows r) := by
  unfold StoreAnswer.possible
  infer_instance

end Moderation

open Moderation

/-! ## The deployment -/

/-- A running process with its trace, the table, and the table as the process found it. -/
structure Deployment where
  process : HubSnapshot := ⟨{}, fun _ => []⟩
  trace : List HubLabel := []
  chat_reports : List ReportRow := []
  inherited : List ReportRow := []

namespace Deployment

/-- The report that a step hands to the store. -/
def submits : HubLabel → Option (Answer × ChatReport)
  | .ran _ (chat_report_record _ _ r) o _ => some (o, r)
  | _ => none

/-- The answer of the store to a step is the outcome of `record`. -/
def heard (d : Deployment) (x : StoreAnswer) (l : HubLabel) : Prop :=
  match submits l with
  | some (o, r) => x.possible d.chat_reports r ∧ o.submitted = (record x d.chat_reports r).1
  | none => True

instance (d : Deployment) (x : StoreAnswer) (l : HubLabel) : Decidable (d.heard x l) := by
  unfold heard
  split <;> infer_instance

/-- The deployment after a step of the process. -/
def after (d : Deployment) (x : StoreAnswer) (l : HubLabel) (c : HubSnapshot) : Deployment where
  process := c
  trace := l :: d.trace
  chat_reports :=
    match submits l with
    | some (_, r) => (record x d.chat_reports r).2
    | none => d.chat_reports
  inherited := d.inherited

/-- The process starts anew and finds the table as it stands. -/
def restart (d : Deployment) : Deployment where
  chat_reports := d.chat_reports
  inherited := d.chat_reports

end Deployment

/-- One passage of a deployment, with what it was before. -/
inductive Passage where
  | stepped (pre : Deployment) (x : StoreAnswer) (l : HubLabel) (post : Deployment)
  | restarted (pre : Deployment)

/-- Runs of a deployment, with their passages, the latest first. -/
inductive DeploymentRun (srv : Server) : Deployment → List Passage → Prop where
  | start : DeploymentRun srv {} []
  | step {d ps x l c} :
    DeploymentRun srv d ps →
    Step (hubMachine srv) d.process l c →
    d.heard x l →
    DeploymentRun srv (d.after x l c) (.stepped d x l (d.after x l c) :: ps)
  | restart {d ps} : DeploymentRun srv d ps → DeploymentRun srv d.restart (.restarted d :: ps)

/-- A process relayed a line: one of its steps started to send it. -/
def Relayed (srv : Server) (tr : List HubLabel) (a : ChatFrame) : Prop :=
  ∃ t s o pre q m, .ran t s o pre ∈ tr ∧ send_to q m ∈ (exec srv s o pre.world).2 ∧ m.line = some a

/-- The table holds a row by the reporter about the line that the process relayed under an id. -/
def Deployment.OnRecord (srv : Server) (d : Deployment) (reporter mid : String) : Prop :=
  ∃ a, Relayed srv d.trace a ∧ a.mid = mid ∧
    ∃ row ∈ d.chat_reports, row.reporter_id = reporter ∧ row.message_text = a.text ∧
      row.accused_id = a.from_account

/-- A row of an earlier process stands under the reporter and the message id of a report. -/
def Deployment.Taken (d : Deployment) (r : ChatReport) : Prop :=
  ∃ row ∈ d.inherited, row.reporter_id = r.reporter_id ∧ row.message_id = Moderation.clamp r.message_id 64

/-- The id of a report is not taken, or a row by the reporter has its text and its account already. -/
def Deployment.IdFree (d : Deployment) (r : ChatReport) : Prop :=
  d.Taken r → ∃ row ∈ d.chat_reports, row.reporter_id = r.reporter_id ∧
    row.message_text = r.message_text ∧ row.accused_id = r.accused_id

/-- The client is told that its report was taken. -/
def Submitted.accepted (s : Submitted) : Prop := s = .Ok ∨ s = .Duplicate

/-! ## The lines of a process -/

lemma Relayed.mono {srv tr tr' a} (h : Relayed srv tr a) (sub : tr ⊆ tr') : Relayed srv tr' a := by
  obtain ⟨t, s, o, pre, q, m, hl, hs, hm⟩ := h
  exact ⟨t, s, o, pre, q, m, sub hl, hs, hm⟩

lemma relayed_cons {srv l tr a} (h : Relayed srv (l :: tr) a) : Relayed srv tr a ∨
    ∃ t s o pre q m, l = .ran t s o pre ∧ send_to q m ∈ (exec srv s o pre.world).2 ∧
      m.line = some a := by
  obtain ⟨t, s, o, pre, q, m, hl, hs, hm⟩ := h
  rcases List.mem_cons.mp hl with rfl | hl
  · exact .inr ⟨t, s, o, pre, q, m, rfl, hs, hm⟩
  · exact .inl ⟨t, s, o, pre, q, m, hl, hs, hm⟩

/-- The lines that a process relayed have ids below the counter. -/
lemma HubRun.relayed_below {srv c tr a} (r : HubRun srv c tr) (h : Relayed srv tr a) :
    ∃ n < c.world.hub.next_chat_id, a.mid = chatId n := by
  obtain ⟨t, s, o, pre, q, m, hl, hs, hm⟩ := h
  refine ⟨_, ?_, line_mid hs hm⟩
  have grows : ∀ l ∈ tr, ∀ t s o pre, l = .ran t s o pre →
      (exec srv s o pre.world).1.hub.next_chat_id ≤ c.world.hub.next_chat_id := by
    clear hl
    induction r with
    | start => exact fun l hl => nomatch hl
    | @step c tr l' c' r st ih =>
      intro l hl t s o pre e
      rcases List.mem_cons.mp hl with rfl | hl
      · cases e
        cases st with
        | run _ _ => exact le_rfl
      · exact (ih l hl t s o pre e).trans (next_chat_step st)
  exact (started_numbered hs hm).2.1.trans_le (grows _ hl t s o pre rfl)

/-- No two lines of a process share an id. -/
theorem HubRun.relayed_unique {srv c tr a b} (r : HubRun srv c tr) (ha : Relayed srv tr a)
    (hb : Relayed srv tr b) (same : a.mid = b.mid) : a = b := by
  induction r with
  | start =>
    obtain ⟨t, s, o, pre, q, m, hl, -⟩ := ha
    cases hl
  | @step c tr l c' r st ih =>
    have fresh : ∀ x t s o pre q m, l = .ran t s o pre →
        send_to q m ∈ (exec srv s o pre.world).2 → m.line = some x →
        ∀ y, Relayed srv tr y → x.mid ≠ y.mid := by
      rintro x t s o pre q m rfl hs hm y hy e
      obtain rfl : pre = c := st.label_pre
      obtain ⟨n, below, hn⟩ := HubRun.relayed_below r hy
      rw [line_mid hs hm, hn] at e
      exact absurd (chatId_injective e) (Nat.ne_of_gt below)
    rcases relayed_cons ha with ha | ⟨t, s, o, pre, q, m, e, hs, hm⟩ <;>
      rcases relayed_cons hb with hb | ⟨t', s', o', pre', q', m', e', hs', hm'⟩
    · exact ih ha hb
    · exact absurd same.symm (fresh b t' s' o' pre' q' m' e' hs' hm' a ha)
    · exact absurd same (fresh a t s o pre q m e hs hm b hb)
    · cases e.symm.trans e'
      obtain rfl := (started_numbered hs hm).2.2 q' m' b hs' hm'
      exact Option.some.inj (hm.symm.trans hm')

/-- What the ring holds was relayed. -/
lemma HubRun.ring_relayed {srv c tr} (r : HubRun srv c tr) :
    ∀ line ∈ c.world.hub.chat_ring, ∃ a, Relayed srv tr a ∧ a.IsOf line := by
  induction r with
  | start => exact fun line h => nomatch h
  | @step c tr l c' r st ih =>
    intro line h
    have old : line ∈ c.world.hub.chat_ring → ∃ a, Relayed srv (l :: tr) a ∧ a.IsOf line := by
      intro h
      obtain ⟨a, ha, same⟩ := ih line h
      exact ⟨a, ha.mono (List.subset_cons_self _ _), same⟩
    cases st with
    | @run t s rest o e _ =>
      rcases exec_ring (HubRun.basic r).client_key h with h | ⟨q, m, a, hs, hm, same⟩
      · exact old h
      · exact ⟨a, ⟨t, s, o, c, q, m, List.mem_cons_self, hs, hm⟩, same⟩
    | @event e _ _ =>
      have ring : (e.apply srv c.world).hub.chat_ring = c.world.hub.chat_ring :=
        congrArg Prod.fst apply_chat
      exact old (ring ▸ h)

/-! ## What a report says -/

/-- A report quotes the line of its id. -/
def Quotes (a : ChatFrame) (mid : String) (r : ChatReport) : Prop :=
  a.mid = mid ∧ r.message_id = mid ∧ r.message_text = a.text ∧ r.accused_id = a.from_account

lemma chat_with_context_mem {g : HubInner} {mid line context}
    (h : g.chat_with_context mid = some (line, context)) : line ∈ g.chat_ring ∧ line.id = mid := by
  unfold HubInner.chat_with_context at h
  split at h
  · cases h
  · rename_i idx hidx
    obtain ⟨found, hfound, e⟩ := Option.map_eq_some_iff.mp h
    cases e
    refine ⟨List.mem_of_getElem? hfound, ?_⟩
    obtain ⟨bound, test, -⟩ := List.findIdx?_eq_some_iff_getElem.mp hidx
    rw [List.getElem?_eq_getElem bound] at hfound
    cases hfound
    exact of_decide_eq_true test

/-- A report is made from a line of the ring. -/
lemma report_started {srv s o w p mid r} (h : chat_report_record p mid r ∈ (exec srv s o w).2) :
    ∃ line ∈ w.hub.chat_ring, line.id = mid ∧ r.message_id = line.id ∧
      r.message_text = line.text ∧ r.accused_id = line.from_account := by
  have called := exec_calls _ h
  cases s with
  | dispatch p' ip msg =>
    cases hop : msg.op with
    | chat_report =>
      simp only [exec, World.lift, dispatch_step, hop, handle_chat_report, refuse] at h
      split at h
      · cases List.mem_singleton.mp h
      split at h
      · cases List.mem_singleton.mp h
      split at h
      · cases List.mem_singleton.mp h
      rename_i line context found
      split at h
      · cases List.mem_singleton.mp h
      cases List.mem_singleton.mp h
      obtain ⟨here, id⟩ := chat_with_context_mem found
      exact ⟨_, here, id, rfl, rfl, rfl⟩
    | _ => simp [hop] at called
  | _ => simp at called

/-- What a process is about to file quotes a line that it relayed. -/
lemma HubRun.quotes {srv c tr} (r : HubRun srv c tr) {t p mid rep}
    (h : chat_report_record p mid rep ∈ c.pending t) : ∃ a, Relayed srv tr a ∧ Quotes a mid rep := by
  have all : Holds (fun _ _ s => ∀ p mid rep, s = chat_report_record p mid rep →
      ∃ a, Relayed srv tr a ∧ Quotes a mid rep) c := by
    clear h
    induction r with
    | start => exact Holds.start _
    | @step c tr l c' r st ih =>
      have old : Holds (fun _ _ s => ∀ p mid rep, s = chat_report_record p mid rep →
          ∃ a, Relayed srv (l :: tr) a ∧ Quotes a mid rep) c := by
        intro t s hs p mid rep e
        obtain ⟨a, ha, q⟩ := ih t s hs p mid rep e
        exact ⟨a, ha.mono (List.subset_cons_self _ _), q⟩
      cases st with
      | @run t s rest o e _ =>
        apply old.run e
        · exact fun _ _ _ h => h
        · rintro s' hs' p mid rep rfl
          obtain ⟨line, here, id, hid, text, account⟩ := report_started hs'
          obtain ⟨a, ha, hmid, htext, hacc⟩ := HubRun.ring_relayed r line here
          refine ⟨a, ha.mono (List.subset_cons_self _ _), ?_⟩
          exact ⟨hmid.symm.trans id, hid.trans id, text.trans htext, account.trans hacc⟩
      | event _ _ =>
        apply old.event
        · exact fun _ _ _ h => h
        · rintro s' hs' p mid rep rfl
          exact absurd (body_kinds hs') (by simp)
  exact all t _ h p mid rep rfl

/-! ## What a row says -/

lemma clamp_of_short {s : String} {n : Nat} (trimmed : Text.Trimmed s.toList)
    (short : s.toList.length ≤ n) : Moderation.clamp s n = s := by
  unfold Moderation.clamp
  rw [Text.trimChars_of_trimmed trimmed, List.take_of_length_le short, String.ofList_toList]

/-- A relayed text fits in a row as it is. -/
lemma clamp_text {srv : Server} {f : ChatFilter} (hf : srv.apply = f.mask) {raw text}
    (h : chatText srv raw = some text) : Moderation.clamp text 512 = text := by
  unfold chatText at h
  dsimp only at h
  split_ifs at h
  rw [hf] at h
  obtain rfl := Option.some.inj h
  set cs := Text.trimChars
    (((raw.getD "").toList.filter (!Text.is_control ·)).take CHAT_MAX_CHARS) with hcs
  have masked := f.mask_masked (String.ofList cs)
  rw [String.toList_ofList] at masked
  apply clamp_of_short
  · exact masked.trimmed (Text.trimChars_trimmed _)
  · have capped : CHAT_MAX_CHARS ≤ 512 := by decide
    calc (f.mask (String.ofList cs)).toList.length
        = cs.length := masked.length
      _ ≤ (((raw.getD "").toList.filter (!Text.is_control ·)).take CHAT_MAX_CHARS).length :=
        Text.trimChars_length _
      _ ≤ CHAT_MAX_CHARS := List.length_take_le _ _
      _ ≤ 512 := capped

/-- The id of a line that a `u64` numbers fits in a row as it is. -/
lemma clamp_chatId {n : Nat} (h : n < 2 ^ 64) : Moderation.clamp (chatId n) 64 = chatId n := by
  apply clamp_of_short
  · constructor
    · exact fun c hc => chatId_plain c (List.mem_of_mem_head? hc)
    · exact fun c hc => chatId_plain c (List.mem_of_mem_getLast? hc)
  · apply chatId_length (by decide)
    exact h.trans (by decide)

/-- A row that the process filed quotes a line that it relayed. -/
def Filed (srv : Server) (tr : List HubLabel) (row : ReportRow) : Prop :=
  ∃ a, Relayed srv tr a ∧ row.message_id = Moderation.clamp a.mid 64 ∧
    row.message_text = Moderation.clamp a.text 512 ∧ row.accused_id = a.from_account

/-- The table only grows. -/
lemma record_grows (x : StoreAnswer) (rows : List ReportRow) (r : ChatReport) :
    rows ⊆ (record x rows r).2 := by
  unfold record
  dsimp only
  split_ifs
  · exact List.Subset.refl _
  · exact List.Subset.refl _
  · exact List.Subset.refl _
  · exact List.subset_append_left _ _

/-- A new row is the row of the report. -/
lemma record_new {x : StoreAnswer} {rows : List ReportRow} {r : ChatReport} {row}
    (h : row ∈ (record x rows r).2) : row ∈ rows ∨ row = reportRow x r := by
  unfold record at h
  dsimp only at h
  split_ifs at h
  · exact .inl h
  · exact .inl h
  · exact .inl h
  · rcases List.mem_append.mp h with h | h
    · exact .inl h
    · exact .inr (List.mem_singleton.mp h)

/-- An accepted report leaves a row under its reporter and its id. -/
lemma record_stands {x : StoreAnswer} {rows : List ReportRow} {r : ChatReport}
    (h : (record x rows r).1.accepted) : ∃ row ∈ (record x rows r).2,
      row.reporter_id = r.reporter_id ∧ row.message_id = Moderation.clamp r.message_id 64 := by
  unfold record at h ⊢
  dsimp only at h ⊢
  split_ifs at h ⊢ with limit _ clash
  · exact (h.elim (nomatch ·) (nomatch ·) : False).elim
  · exact (h.elim (nomatch ·) (nomatch ·) : False).elim
  · obtain ⟨row, hrow, same⟩ := List.any_eq_true.mp clash
    obtain ⟨reporter, id⟩ := (Bool.and_eq_true _ _).mp same
    exact ⟨row, hrow, (of_decide_eq_true reporter).symm, (of_decide_eq_true id).symm⟩
  · exact ⟨_, List.mem_append_right _ (List.mem_singleton_self _), rfl, rfl⟩

/-- A report whose reporter and id are taken adds no row. -/
lemma record_taken {x : StoreAnswer} {rows : List ReportRow} {r : ChatReport} {row}
    (hrow : row ∈ rows) (reporter : row.reporter_id = r.reporter_id)
    (id : row.message_id = Moderation.clamp r.message_id 64) : (record x rows r).2 = rows := by
  have clash : rows.any (reportRow x r).clashes := by
    refine List.any_eq_true.mpr ⟨row, hrow, ?_⟩
    simp [ReportRow.clashes, reportRow, reporter, id]
  unfold record
  simp only [clash, if_true]
  split_ifs <;> rfl

/-- The answer to a report is no line. -/
lemma report_silent {srv p mid r o w q m} (h : send_to q m ∈
    (exec srv (chat_report_record p mid r) o w).2) : m.line = none := by
  obtain e := List.mem_singleton.mp h
  cases hs : o.submitted <;>
    · rw [hs] at e
      cases e
      rfl

/-! ## Runs of a deployment -/

/-- The process of a deployment is a run of the server. -/
lemma DeploymentRun.hub {srv d ps} (r : DeploymentRun srv d ps) : HubRun srv d.process d.trace := by
  induction r with
  | start => exact .start
  | step _ st _ ih => exact ih.step st
  | restart _ _ => exact .start

/-- Every row was inherited or filed by the process. -/
lemma DeploymentRun.rows {srv d ps} (r : DeploymentRun srv d ps) :
    ∀ row ∈ d.chat_reports, row ∈ d.inherited ∨ Filed srv d.trace row := by
  induction r with
  | start => exact fun row h => nomatch h
  | @step d ps x l c r st told ih =>
    intro row hrow
    have old : row ∈ d.chat_reports → row ∈ d.inherited ∨ Filed srv (l :: d.trace) row := by
      intro h
      rcases ih row h with h | ⟨a, ha, same⟩
      · exact .inl h
      · exact .inr ⟨a, ha.mono (List.subset_cons_self _ _), same⟩
    simp only [Deployment.after] at hrow ⊢
    split at hrow
    · rename_i o rep hsub
      rcases record_new hrow with h | rfl
      · exact old h
      · right
        unfold Deployment.submits at hsub
        split at hsub
        · rename_i t p mid rep' o' pre
          cases hsub
          have waits : chat_report_record p mid rep ∈ d.process.pending t := by
            cases st with
            | run e _ => exact e ▸ List.mem_cons_self
          obtain ⟨a, ha, hmid, hid, text, account⟩ := HubRun.quotes r.hub waits
          refine ⟨a, ha.mono (List.subset_cons_self _ _), ?_, ?_, account⟩
          · simp only [reportRow, hid, hmid]
          · simp only [reportRow, text]
        · cases hsub
    · exact old hrow
  | restart _ _ => exact fun row h => .inl h

/-- The process keeps the rows that it found. -/
lemma DeploymentRun.inherited_subset {srv d ps} (r : DeploymentRun srv d ps) :
    d.inherited ⊆ d.chat_reports := by
  induction r with
  | start => exact List.Subset.refl _
  | @step d ps x l c r st told ih =>
    refine List.Subset.trans ih ?_
    simp only [Deployment.after]
    split
    · exact record_grows _ _ _
    · exact List.Subset.refl _
  | restart _ _ => exact List.Subset.refl _

/-- A passage was made from a deployment that was reached. -/
lemma DeploymentRun.passed {srv d ps} (r : DeploymentRun srv d ps) {pre x l post}
    (h : .stepped pre x l post ∈ ps) :
    ∃ ps' c, DeploymentRun srv pre ps' ∧ Step (hubMachine srv) pre.process l c ∧
      pre.heard x l ∧ post = pre.after x l c := by
  induction r with
  | start => cases h
  | @step d ps x' l' c r st told ih =>
    rcases List.mem_cons.mp h with e | h
    · cases e
      exact ⟨ps, c, r, st, told, rfl⟩
    · exact ih h
  | restart _ ih =>
    rcases List.mem_cons.mp h with e | h
    · cases e
    · exact ih h

/-- In every run of a deployment, a report that is answered as taken is on record under its line exactly
when no earlier process left a row under its reporter and its id, or the reporter's rows say the same
already. The line counter is a `u64`. -/
theorem report_on_record_iff {srv : Server} {f : ChatFilter} (hf : srv.apply = f.mask) {d ps}
    (r : DeploymentRun srv d ps) {pre x t p mid rep o c post}
    (h : .stepped pre x (.ran t (chat_report_record p mid rep) o c) post ∈ ps)
    (accepted : o.submitted.accepted) (u64 : pre.process.world.hub.next_chat_id ≤ 2 ^ 64) :
    post.OnRecord srv rep.reporter_id mid ↔ pre.IdFree rep := by
  obtain ⟨ps', c', rpre, st, told, rfl⟩ := r.passed h
  have rpost := rpre.step st told
  obtain rfl : c = pre.process := st.label_pre
  have waits : chat_report_record p mid rep ∈ pre.process.pending t := by
    cases st with
    | run e _ => exact e ▸ List.mem_cons_self
  obtain ⟨a, ha, hmid, hid, text, account⟩ := HubRun.quotes rpre.hub waits
  have hapost : Relayed srv (.ran t (chat_report_record p mid rep) o pre.process :: pre.trace) a :=
    ha.mono (List.subset_cons_self _ _)
  have answer : o.submitted = (record x pre.chat_reports rep).1 := told.2
  constructor
  · -- The old row swallowed the new one, so it is the old row that quotes the line.
    rintro ⟨b, hb, hbmid, row, hrow, reporter, rowText, rowAccount⟩ ⟨old, hold, oldReporter, oldId⟩
    obtain rfl : b = a := HubRun.relayed_unique rpost.hub hb hapost (hbmid.trans hmid.symm)
    have stays : old ∈ pre.chat_reports := rpre.inherited_subset hold
    have same := record_taken (x := x) stays oldReporter oldId
    refine ⟨row, same ▸ hrow, reporter, rowText.trans text.symm, rowAccount.trans account.symm⟩
  · intro free
    refine ⟨a, hapost, hmid, ?_⟩
    obtain ⟨row, hrow, reporter, rowId⟩ := record_stands (answer ▸ accepted)
    rcases rpost.rows row hrow with inherited | ⟨b, hb, bId, bText, bAccount⟩
    · -- The row that stands is an inherited one.
      obtain ⟨row', hrow', reporter', text', account'⟩ := free ⟨row, inherited, reporter, rowId⟩
      refine ⟨row', record_grows x _ rep hrow', reporter', ?_, ?_⟩
      · exact text'.trans text
      · exact account'.trans account
    · -- The row is from this process, where an id stands for one line.
      have known : Relayed srv pre.trace b := by
        rcases relayed_cons hb with hb | ⟨t', s', o', pre', q, m, e, hs, hm⟩
        · exact hb
        · cases e
          rw [report_silent hs] at hm
          cases hm
      have same : b.mid = a.mid := by
        obtain ⟨n, hn, en⟩ := HubRun.relayed_below rpre.hub ha
        obtain ⟨k, hk, ek⟩ := HubRun.relayed_below rpre.hub known
        have ids := bId.symm.trans rowId
        rw [hid, ← hmid, en, ek, clamp_chatId (hn.trans_le u64), clamp_chatId (hk.trans_le u64)] at ids
        rw [en, ek, ids]
      obtain rfl := HubRun.relayed_unique rpre.hub known ha same
      obtain ⟨_, _, _, _, _, _, -, hs, hm⟩ := known
      obtain ⟨raw, hraw⟩ := line_text hs hm
      exact ⟨row, hrow, reporter, bText.trans (clamp_text hf hraw), bAccount⟩

/-! ## Schedules with restarts -/

/-- A move of a deployment: a move of its process, with the answer of the store, or a restart. -/
inductive DeploymentMove where
  | process (m : Move) (x : StoreAnswer)
  | restart

/-- Follow a schedule of a deployment. -/
def Deployment.replay (srv : Server) :
    List DeploymentMove → Deployment → List Passage → Option (Deployment × List Passage)
  | [], d, ps => some (d, ps)
  | .restart :: ms, d, ps => replay srv ms d.restart (.restarted d :: ps)
  | .process m x :: ms, d, ps =>
    match (hubMachine srv).move d.process m with
    | none => none
    | some (l, c) =>
      if d.heard x l then replay srv ms (d.after x l c) (.stepped d x l (d.after x l c) :: ps)
      else none

/-- A schedule that can be followed is a run. -/
theorem Deployment.replay_run {srv ms d ps d' ps'} (r : DeploymentRun srv d ps)
    (h : Deployment.replay srv ms d ps = some (d', ps')) : DeploymentRun srv d' ps' := by
  induction ms generalizing d ps with
  | nil =>
    cases h
    exact r
  | cons m ms ih =>
    cases m with
    | restart => exact ih r.restart h
    | process m x =>
      simp only [Deployment.replay] at h
      split at h
      · cases h
      · rename_i l c hm
        split at h
        · rename_i told
          exact ih (r.step (Machine.move_step hm) told) h
        · cases h

/-! ## A report after a restart -/

/-- A player `p` reports the first line of the process, which `q` said. -/
def reportsFirstLine (p q text : String) (o : Answer) : List Move :=
  signIn p alice o ++ signIn q bob o ++
    [say q { op := .server_chat, game_name := some "Example Game", text := some text }] ++
    steps (.conn q) 3 o ++
    [say p { op := .chat_report, mid := some "1", reason := some "harassment" }] ++
    steps (.conn p) 4 o

/-- The same reporter reports the first line of two processes. -/
def reportsTwice : List DeploymentMove :=
  let o := draw "9b1deb4d-3b7d-4bad-9bdd-2b0d7b3dcb6d"
  let x : StoreAnswer := { id := "0d9f6b52-3d6c-4a39-9d1c-8a1c5f1d2e01" }
  let y : StoreAnswer :=
    { recent_report_count := 1, id := "0d9f6b52-3d6c-4a39-9d1c-8a1c5f1d2e02" }
  (reportsFirstLine "6b0f1e52-3c1d-4a86-9a53-0d5f6f1c2a11" "c4d1c1a0-5f0e-4a53-8d43-9f4b1f7f3b22"
    "good game" o).map (.process · x) ++ [.restart] ++
  (reportsFirstLine "5e2c7f3a-9a41-4c0e-8b64-7a1f0d3c9b33" "2a7d4c11-0b9e-47a5-9f0c-6d8e3b5a1c44"
    "quit now or else" { o with submitted := .Duplicate }).map (.process · y)

/-- The lines that a trace relays. -/
def relayedLines (srv : Server) (tr : List HubLabel) : List ChatFrame :=
  tr.flatMap fun
    | .ran _ s o pre => (exec srv s o pre.world).2.filterMap fun
      | send_to _ m => m.line
      | _ => none
    | .came _ _ => []

lemma Relayed.listed {srv tr a} (h : Relayed srv tr a) : a ∈ relayedLines srv tr := by
  obtain ⟨t, s, o, pre, q, m, hl, hs, hm⟩ := h
  refine List.mem_flatMap.mpr ⟨_, hl, ?_⟩
  exact List.mem_filterMap.mpr ⟨_, hs, hm⟩

/-- Is the last report but one step answered as a filed one, and the table about another line? -/
def secondLost : List Passage → Bool
  | _ :: .stepped _ _ (.ran _ (chat_report_record _ _ _) o _) post :: _ =>
    o.submitted = .Duplicate &&
      (relayedLines sampleServer post.trace).all (·.text = "quit now or else") &&
      post.chat_reports.all (·.message_text = "good game")
  | _ => false

/-- The second report is answered as a filed one, and the table says only what the first one said. -/
theorem report_lost : ¬ ∀ d ps, DeploymentRun sampleServer d ps →
    ∀ pre x t p mid rep o c post,
      .stepped pre x (.ran t (chat_report_record p mid rep) o c) post ∈ ps →
      o.submitted.accepted → post.OnRecord sampleServer rep.reporter_id mid := by
  intro all
  have h : (Deployment.replay sampleServer reportsTwice {} []).any fun x => secondLost x.2 := by
    decide +kernel
  obtain ⟨⟨d, ps⟩, e, ht⟩ := (Option.any_eq_true _ _).mp h
  have r := Deployment.replay_run .start e
  unfold secondLost at ht
  split at ht
  · rename_i last pre x t p mid rep o c post earlier e
    obtain rfl : ps = _ := e
    obtain ⟨ht, rows⟩ := (Bool.and_eq_true _ _).mp ht
    obtain ⟨answer, lines⟩ := (Bool.and_eq_true _ _).mp ht
    have kept := all d _ r pre x t p mid rep o c post
      (List.mem_cons_of_mem _ List.mem_cons_self) (.inr (of_decide_eq_true answer))
    obtain ⟨a, ha, -, row, hrow, -, text, -⟩ := kept
    have said := of_decide_eq_true (List.all_eq_true.mp lines a ha.listed)
    have stored := of_decide_eq_true (List.all_eq_true.mp rows row hrow)
    rw [stored, said] at text
    exact absurd text (by decide)
  · cases ht

/-- Is the last report but one step the first that is filed? -/
def firstFiled : List Passage → Bool
  | _ :: .stepped pre _ (.ran _ (chat_report_record _ _ _) o _) _ :: _ =>
    o.submitted = .Ok && pre.process.world.hub.next_chat_id = 2 && pre.inherited.isEmpty
  | _ => false

/-- The first report is on record. -/
theorem report_on_record_first : ∃ d ps pre x t p mid rep o c post,
    DeploymentRun sampleServer d ps ∧
      .stepped pre x (.ran t (chat_report_record p mid rep) o c) post ∈ ps ∧
      o.submitted.accepted ∧ post.OnRecord sampleServer rep.reporter_id mid := by
  have h : (Deployment.replay sampleServer (reportsTwice.take 25) {} []).any fun x =>
      firstFiled x.2 := by
    decide +kernel
  obtain ⟨⟨d, ps⟩, e, ht⟩ := (Option.any_eq_true _ _).mp h
  have r := Deployment.replay_run .start e
  unfold firstFiled at ht
  split at ht
  · rename_i last pre x t p mid rep o c post earlier e
    obtain rfl : ps = _ := e
    obtain ⟨ht, none⟩ := (Bool.and_eq_true _ _).mp ht
    obtain ⟨answer, counter⟩ := (Bool.and_eq_true _ _).mp ht
    have accepted : o.submitted.accepted := .inl (of_decide_eq_true answer)
    have here : Passage.stepped pre x (.ran t (chat_report_record p mid rep) o c) post ∈
        last :: .stepped pre x (.ran t (chat_report_record p mid rep) o c) post :: earlier :=
      List.mem_cons_of_mem _ List.mem_cons_self
    have u64 : pre.process.world.hub.next_chat_id ≤ 2 ^ 64 := by
      rw [of_decide_eq_true counter]
      decide
    have off : sampleServer.apply = (ChatFilter.mk [] false).mask := rfl
    have kept := (report_on_record_iff off r here accepted u64).mpr fun old => by
      obtain ⟨row, hrow, -⟩ := old
      rw [List.isEmpty_iff.mp none] at hrow
      cases hrow
    exact ⟨d, _, pre, x, t, p, mid, rep, o, c, post, r, here, accepted, kept⟩
  · cases ht

end RecompNet
