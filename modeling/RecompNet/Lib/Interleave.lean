import Mathlib.Algebra.GroupWithZero.Nat
import Mathlib.Data.List.Basic
import Mathlib.Logic.Function.Basic
import Mathlib.Tactic.Common

/-!
# Interleaved critical sections

Tasks that share one world and touch it only inside critical sections. A task is the list of sections
it still has to run; running the first one rewrites the world at once and may put further sections in
front of the rest, which is how a handler that takes the lock several times is written down. Between
two sections of one task every other task may run. A section may consult the outside (a clock, a
database, a random generator): it is handed an arbitrary answer among the possible ones. Tasks begin
with an event, which happens only while the task it belongs to has nothing left to run.

`Run` is the set of runs from the start, each with its trace, latest step first. `Run.invariant` is the
induction over a run, `Holds` lifts an assertion about one pending section to every pending section,
with the step rules `Holds.run` and `Holds.event`, and `replay` runs a given schedule.
-/

namespace Interleave

variable {W S T O E : Type}

/-- A system of tasks: `exec` runs one section, `answers` says what the outside may answer to it, and an
event `e` belongs to the task `task e`, rewrites the world by `apply` and starts the sections `body`. -/
structure Machine (W S T O E : Type) where
  start : W
  exec : S → O → W → W × List S
  answers : O → W → Prop
  task : E → T
  enabled : E → W → Prop
  apply : E → W → W
  body : E → W → List S

/-- The world, and what each task still has to run. -/
structure Snapshot (W S T : Type) where
  world : W
  pending : T → List S

/-- One step of a run, with the snapshot it was taken in. -/
inductive Label (W S T O E : Type) where
  | ran (t : T) (s : S) (o : O) (pre : Snapshot W S T)
  | came (e : E) (pre : Snapshot W S T)

/-- The snapshot a step was taken in. -/
def Label.pre : Label W S T O E → Snapshot W S T
  | .ran _ _ _ pre => pre
  | .came _ pre => pre

/-- No task has anything left to run. -/
def Snapshot.Quiet (c : Snapshot W S T) : Prop := ∀ t, c.pending t = []

variable [DecidableEq T]

/-- Run the first section of a task whose remaining sections are `rest`. -/
def Machine.afterRun (M : Machine W S T O E) (c : Snapshot W S T) (t : T) (s : S) (rest : List S)
    (o : O) : Snapshot W S T :=
  ⟨(M.exec s o c.world).1, Function.update c.pending t ((M.exec s o c.world).2 ++ rest)⟩

/-- Let an event happen. -/
def Machine.afterEvent (M : Machine W S T O E) (c : Snapshot W S T) (e : E) : Snapshot W S T :=
  ⟨M.apply e c.world, Function.update c.pending (M.task e) (M.body e c.world)⟩

/-- One step: the first section of some task, or an event of an idle task. -/
inductive Step (M : Machine W S T O E) :
    Snapshot W S T → Label W S T O E → Snapshot W S T → Prop where
  | run {c t s rest o} :
    c.pending t = s :: rest →
    M.answers o c.world →
    Step M c (.ran t s o c) (M.afterRun c t s rest o)
  | event {c e} :
    c.pending (M.task e) = [] →
    M.enabled e c.world →
    Step M c (.came e c) (M.afterEvent c e)

/-- Runs from the start, with their traces, the latest step first. -/
inductive Run (M : Machine W S T O E) : Snapshot W S T → List (Label W S T O E) → Prop where
  | start : Run M ⟨M.start, fun _ => []⟩ []
  | step {c tr l c'} : Run M c tr → Step M c l c' → Run M c' (l :: tr)

/-- A run goes on with the first section of a task, and what that task then has to run. -/
lemma Run.run_next {M : Machine W S T O E} {c tr t s rest o} (r : Run M c tr)
    (e : c.pending t = s :: rest) (ha : M.answers o c.world) :
    Run M (M.afterRun c t s rest o) (.ran t s o c :: tr) ∧
      (M.afterRun c t s rest o).pending t = (M.exec s o c.world).2 ++ rest :=
  ⟨r.step (.run e ha), Function.update_self _ _ _⟩

/-- The same for a section that is known to turn one world into another. -/
lemma Run.run_to {M : Machine W S T O E} {c tr w t s rest o w' ss} (r : Run M c tr)
    (hw : c.world = w) (e : c.pending t = s :: rest) (ha : M.answers o w)
    (hx : M.exec s o w = (w', ss)) :
    ∃ c', Run M c' (.ran t s o c :: tr) ∧ c'.world = w' ∧ c'.pending t = ss ++ rest := by
  subst hw
  obtain ⟨r', e'⟩ := r.run_next e ha
  exact ⟨_, r', congrArg Prod.fst hx, e'.trans (by rw [hx])⟩

/-- A run goes on with an event of an idle task. -/
lemma Run.event_to {M : Machine W S T O E} {c tr w e} (r : Run M c tr) (hw : c.world = w)
    (idle : c.pending (M.task e) = []) (en : M.enabled e w) :
    ∃ c', Run M c' (.came e c :: tr) ∧ c'.world = M.apply e w ∧
      c'.pending (M.task e) = M.body e w := by
  subst hw
  exact ⟨_, r.step (.event idle en), rfl, Function.update_self ..⟩

/-- A step is labelled with the snapshot it leaves. -/
lemma Step.label_pre {M : Machine W S T O E} {c l c'} (st : Step M c l c') : l.pre = c := by
  cases st <;> rfl

/-- Induction over a run whose steps all meet the condition `P`. -/
theorem Run.invariant {M : Machine W S T O E} {P : Label W S T O E → Prop}
    {I : Snapshot W S T → List (Label W S T O E) → Prop}
    (h0 : I ⟨M.start, fun _ => []⟩ [])
    (hs : ∀ {c tr l c'}, Run M c tr → I c tr → P l → Step M c l c' → I c' (l :: tr))
    {c tr} (r : Run M c tr) : (∀ l ∈ tr, P l) → I c tr := by
  induction r with
  | start => exact fun _ => h0
  | step r st ih =>
    intro hP
    apply hs r _ (hP _ List.mem_cons_self) st
    exact ih fun l hl => hP l (List.mem_cons_of_mem _ hl)

/-- Induction over an arbitrary run. -/
theorem Run.induct {M : Machine W S T O E} {I : Snapshot W S T → List (Label W S T O E) → Prop}
    (h0 : I ⟨M.start, fun _ => []⟩ [])
    (hs : ∀ {c tr l c'}, Run M c tr → I c tr → Step M c l c' → I c' (l :: tr))
    {c tr} (r : Run M c tr) : I c tr :=
  r.invariant (P := fun _ => True) h0 (fun r ih _ st => hs r ih st) fun _ _ => trivial

/-- Every step of a run was taken in a snapshot that an earlier part of the run reached. -/
lemma Run.pre_reached {M : Machine W S T O E} {c tr} (r : Run M c tr) :
    ∀ l later earlier, tr = later ++ l :: earlier →
      Run M l.pre earlier ∧ ∃ c', Step M l.pre l c' := by
  induction r with
  | start => intro l later earlier e; simp at e
  | @step c tr l' c' r st ih =>
    intro l later earlier e
    cases later with
    | nil =>
      obtain ⟨rfl, rfl⟩ := List.cons.inj e
      exact ⟨st.label_pre ▸ r, c', st.label_pre ▸ st⟩
    | cons l'' later =>
      obtain ⟨-, e⟩ := List.cons.inj e
      exact ih l later earlier e

/-- Induction over what happened since a step: it holds right after that step, and every later step keeps
it. -/
theorem Run.since {M : Machine W S T O E} {I : Snapshot W S T → List (Label W S T O E) → Prop}
    {l earlier} (h0 : ∀ {c}, Step M l.pre l c → I c [])
    (hs : ∀ {c since l' c'}, Run M c (since ++ l :: earlier) → I c since → Step M c l' c' →
      I c' (l' :: since)) {c since} (r : Run M c (since ++ l :: earlier)) : I c since := by
  induction since generalizing c with
  | nil =>
    cases r with
    | step r st => exact h0 (st.label_pre ▸ st)
  | cons l' since ih =>
    cases r with
    | step r st => exact hs r (ih r) st

/-- Every snapshot a run went through, the last one first. -/
def visited (c : Snapshot W S T) (tr : List (Label W S T O E)) : List (Snapshot W S T) :=
  c :: tr.map Label.pre

omit [DecidableEq T] in
/-- A step is taken in a snapshot that the run went through. -/
lemma pre_visited {c : Snapshot W S T} {tr} {l : Label W S T O E} (h : l ∈ tr) :
    l.pre ∈ visited c tr := List.mem_cons_of_mem _ (List.mem_map_of_mem h)

lemma Step.visited_cons {M : Machine W S T O E} {c l c'} (st : Step M c l c') (tr) :
    visited c' (l :: tr) = c' :: visited c tr := by
  rw [visited, visited, List.map_cons, st.label_pre]

/-- What a run went through, it reached. -/
lemma Run.visited_reached {M : Machine W S T O E} {c tr} (r : Run M c tr) {s}
    (h : s ∈ visited c tr) : ∃ tr', Run M s tr' := by
  induction r with
  | start =>
    simp only [visited, List.map_nil, List.mem_singleton] at h
    exact ⟨[], h ▸ .start⟩
  | @step c tr l c' r st ih =>
    rw [st.visited_cons] at h
    rcases List.mem_cons.mp h with rfl | h
    · exact ⟨l :: tr, r.step st⟩
    · exact ih h

/-- After each of its steps, a run went through the snapshot that the step leads to. -/
lemma Run.post_visited {M : Machine W S T O E} {c tr} (r : Run M c tr) :
    ∀ l later earlier, tr = later ++ l :: earlier → ∃ c' ∈ visited c tr, Step M l.pre l c' := by
  induction r with
  | start =>
    intro l later earlier e
    simp at e
  | @step c tr l' c' r st ih =>
    intro l later earlier e
    cases later with
    | nil =>
      obtain ⟨rfl, rfl⟩ := List.cons.inj e
      exact ⟨c', List.mem_cons_self, st.label_pre.symm ▸ st⟩
    | cons l'' later =>
      obtain ⟨-, e⟩ := List.cons.inj e
      obtain ⟨c1, h1, st1⟩ := ih l later earlier e
      rw [st.visited_cons]
      exact ⟨c1, List.mem_cons_of_mem _ h1, st1⟩

/-! ## Assertions about pending sections -/

/-- Every pending section meets the assertion `A`. -/
def Holds (A : W → T → S → Prop) (c : Snapshot W S T) : Prop :=
  ∀ t, ∀ s ∈ c.pending t, A c.world t s

omit [DecidableEq T] in
/-- Nothing is pending at the start. -/
lemma Holds.start {A : W → T → S → Prop} (w : W) : Holds A ⟨w, fun _ => []⟩ := by
  intro t s hs
  cases hs

/-- Running a section keeps an assertion that the other pending sections do not lose and that the new
sections meet. -/
theorem Holds.run {M : Machine W S T O E} {A : W → T → S → Prop} {c t s rest o} (h : Holds A c)
    (e : c.pending t = s :: rest)
    (stable : ∀ t' s', s' ∈ c.pending t' → A c.world t' s' → A (M.exec s o c.world).1 t' s')
    (fresh : ∀ s' ∈ (M.exec s o c.world).2, A (M.exec s o c.world).1 t s') :
    Holds A (M.afterRun c t s rest o) := by
  intro t' s' hs'
  by_cases ht : t' = t
  · subst ht
    simp only [Machine.afterRun, Function.update_self, List.mem_append] at hs'
    rcases hs' with hn | hr
    · exact fresh s' hn
    · have hp : s' ∈ c.pending t' := by rw [e]; exact List.mem_cons_of_mem _ hr
      exact stable t' s' hp (h t' s' hp)
  · simp only [Machine.afterRun, Function.update_of_ne ht] at hs'
    exact stable t' s' hs' (h t' s' hs')

/-- An event keeps an assertion that the pending sections do not lose and that its own sections meet. -/
theorem Holds.event {M : Machine W S T O E} {A : W → T → S → Prop} {c e} (h : Holds A c)
    (stable : ∀ t' s', s' ∈ c.pending t' → A c.world t' s' → A (M.apply e c.world) t' s')
    (fresh : ∀ s' ∈ M.body e c.world, A (M.apply e c.world) (M.task e) s') :
    Holds A (M.afterEvent c e) := by
  intro t' s' hs'
  by_cases ht : t' = M.task e
  · subst ht
    simp only [Machine.afterEvent, Function.update_self] at hs'
    exact fresh s' hs'
  · simp only [Machine.afterEvent, Function.update_of_ne ht] at hs'
    exact stable t' s' hs' (h t' s' hs')

/-- A property of sections that every section and every event passes on to the sections it starts holds
of whatever is pending in a run. -/
theorem Run.passed_on {M : Machine W S T O E} {A : S → Prop}
    (hexec : ∀ {s o w}, A s → ∀ s' ∈ (M.exec s o w).2, A s')
    (hbody : ∀ {e w}, ∀ s ∈ M.body e w, A s)
    {c tr} (r : Run M c tr) : ∀ t, ∀ s ∈ c.pending t, A s := by
  induction r with
  | start => exact Holds.start (A := fun _ _ s => A s) M.start
  | step r st ih =>
    cases st with
    | run e _ =>
      apply Holds.run (A := fun _ _ s => A s) ih e
      · exact fun _ _ _ h => h
      · apply hexec
        exact ih _ _ (e ▸ List.mem_cons_self)
    | event _ _ =>
      apply Holds.event (A := fun _ _ s => A s) ih
      · exact fun _ _ _ h => h
      · exact hbody

/-- A property of what a task has left to run, which running its first section keeps and every event
starts with, holds of every task in a run. -/
theorem Run.tasks {M : Machine W S T O E} {A : T → List S → Prop} (idle : ∀ t, A t [])
    (run : ∀ {t s rest o w}, A t (s :: rest) → A t ((M.exec s o w).2 ++ rest))
    (begun : ∀ {e w}, A (M.task e) (M.body e w)) {c tr} (r : Run M c tr) :
    ∀ t, A t (c.pending t) := by
  induction r with
  | start => exact idle
  | step r st ih =>
    intro t
    cases st with
    | @run t' s rest o e _ =>
      by_cases ht : t = t'
      · subst ht
        simp only [Machine.afterRun, Function.update_self]
        apply run
        exact e ▸ ih t
      · simp only [Machine.afterRun, Function.update_of_ne ht]
        exact ih t
    | @event e _ _ =>
      by_cases ht : t = M.task e
      · subst ht
        simp only [Machine.afterEvent, Function.update_self]
        exact begun
      · simp only [Machine.afterEvent, Function.update_of_ne ht]
        exact ih t

/-- A section that was run was pending in the snapshot it was run in, which an earlier part of the run
reached. -/
lemma Run.ran_pending {M : Machine W S T O E} {c tr} (r : Run M c tr) {t s o pre}
    (h : .ran t s o pre ∈ tr) :
    ∃ rest earlier, Run M pre earlier ∧ earlier ⊆ tr ∧ pre.pending t = s :: rest := by
  obtain ⟨later, earlier, rfl⟩ := List.append_of_mem h
  obtain ⟨r', c', st⟩ := r.pre_reached _ _ _ rfl
  cases st with
  | run e _ =>
    refine ⟨_, earlier, r', ?_, e⟩
    exact fun x hx => List.mem_append_right _ (List.mem_cons_of_mem _ hx)

/-- A section that was run was given a possible answer. -/
lemma Run.ran_answers {M : Machine W S T O E} {c tr} (r : Run M c tr) {t s o pre}
    (h : .ran t s o pre ∈ tr) : M.answers o pre.world := by
  obtain ⟨later, earlier, rfl⟩ := List.append_of_mem h
  obtain ⟨-, c', st⟩ := r.pre_reached _ _ _ rfl
  cases st with
  | run _ ho => exact ho

/-- A section was started in a trace: by an event of its task, or by a section that its task ran. -/
def Started (M : Machine W S T O E) (tr : List (Label W S T O E)) (t : T) (s : S) : Prop :=
  (∃ e pre, .came e pre ∈ tr ∧ M.task e = t ∧ s ∈ M.body e pre.world) ∨
    ∃ s' o pre, .ran t s' o pre ∈ tr ∧ s ∈ (M.exec s' o pre.world).2

omit [DecidableEq T] in
lemma Started.mono {M : Machine W S T O E} {tr tr' t s} (h : Started M tr t s) (sub : tr ⊆ tr') :
    Started M tr' t s := by
  rcases h with ⟨e, pre, hm, he⟩ | ⟨s', o, pre, hm, he⟩
  · exact .inl ⟨e, pre, sub hm, he⟩
  · exact .inr ⟨s', o, pre, sub hm, he⟩

/-- The step starts the section `s` of the task `t`. -/
def Starts (M : Machine W S T O E) (t : T) (s : S) : Label W S T O E → Prop
  | .ran t' k o pre => t' = t ∧ s ∈ (M.exec k o pre.world).2
  | .came e pre => M.task e = t ∧ s ∈ M.body e pre.world

/-- Whatever is pending was started by some step, and has been pending ever since. -/
theorem Run.pending_since {M : Machine W S T O E} {c tr} (r : Run M c tr) {t s}
    (h : s ∈ c.pending t) : ∃ since l earlier, tr = since ++ l :: earlier ∧ Starts M t s l ∧
      ∀ l' ∈ since, s ∈ l'.pre.pending t := by
  induction r with
  | start => cases h
  | @step c tr l c' r st ih =>
    by_cases old : s ∈ c.pending t
    · obtain ⟨since, l0, earlier, rfl, starts, waits⟩ := ih old
      refine ⟨l :: since, l0, earlier, rfl, starts, List.forall_mem_cons.mpr ⟨?_, waits⟩⟩
      exact st.label_pre.symm ▸ old
    · refine ⟨[], l, tr, rfl, ?_, List.forall_mem_nil _⟩
      cases st with
      | @run t' k rest o e _ =>
        by_cases ht : t' = t
        · subst ht
          simp only [Machine.afterRun, Function.update_self, List.mem_append] at h
          exact ⟨rfl, h.resolve_right fun hr => old (e ▸ List.mem_cons_of_mem _ hr)⟩
        · simp only [Machine.afterRun, Function.update_of_ne (Ne.symm ht)] at h
          exact absurd h old
      | @event e _ _ =>
        by_cases ht : M.task e = t
        · subst ht
          simp only [Machine.afterEvent, Function.update_self] at h
          exact ⟨rfl, h⟩
        · simp only [Machine.afterEvent, Function.update_of_ne (Ne.symm ht)] at h
          exact absurd h old

/-- Whatever is pending was started. -/
theorem Run.pending_started {M : Machine W S T O E} {c tr} (r : Run M c tr) :
    Holds (fun _ => Started M tr) c := by
  intro t s hs
  obtain ⟨since, l, earlier, rfl, starts, -⟩ := r.pending_since hs
  have hl : l ∈ since ++ l :: earlier := List.mem_append_right _ List.mem_cons_self
  cases l with
  | ran t' k o pre =>
    obtain ⟨rfl, hk⟩ := starts
    exact .inr ⟨k, o, pre, hl, hk⟩
  | came e pre => exact .inl ⟨e, pre, hl, starts⟩

/-- Whatever was run was started. -/
lemma Run.ran_started {M : Machine W S T O E} {c tr} (r : Run M c tr) {t s o pre}
    (h : .ran t s o pre ∈ tr) : Started M tr t s := by
  obtain ⟨rest, earlier, r', sub, e⟩ := r.ran_pending h
  exact (r'.pending_started t s (e ▸ List.mem_cons_self)).mono sub

/-! ## Between two sections of a task

A section that checks something and starts another one that relies on it, and what other tasks did
while that one was pending. -/

/-- In the trace, the task `t` ran `k` in the snapshot `chk`, which started `s`, and later `s` in `pre`;
`since` are the steps in between, the latest first, all of them taken while `s` was pending. -/
structure Between (M : Machine W S T O E) (tr : List (Label W S T O E)) (t : T) (k : S)
    (chk : Snapshot W S T) (since : List (Label W S T O E)) (s : S) (pre : Snapshot W S T) : Prop where
  order : ∃ o o' later earlier,
    tr = later ++ .ran t s o pre :: (since ++ .ran t k o' chk :: earlier) ∧
      s ∈ (M.exec k o' chk.world).2
  waits : ∀ l ∈ since, s ∈ l.pre.pending t

omit [DecidableEq T] in
/-- A longer trace has the same two sections with the same steps between them. -/
lemma Between.later {M : Machine W S T O E} {tr t k chk since s pre}
    (h : Between M tr t k chk since s pre) (later : List (Label W S T O E)) :
    Between M (later ++ tr) t k chk since s pre := by
  obtain ⟨⟨o, o', later', earlier, rfl, starts⟩, waits⟩ := h
  exact ⟨⟨o, o', later ++ later', earlier, (List.append_assoc ..).symm, starts⟩, waits⟩

/-- What was reached between the two sections. -/
lemma Between.reached {M : Machine W S T O E} {c tr t k chk since s pre} (r : Run M c tr)
    (h : Between M tr t k chk since s pre) : ∃ o o' earlier, .ran t s o pre ∈ tr ∧
      Run M pre (since ++ .ran t k o' chk :: earlier) ∧ s ∈ (M.exec k o' chk.world).2 := by
  obtain ⟨⟨o, o', later, earlier, rfl, starts⟩, -⟩ := h
  obtain ⟨r', -⟩ := r.pre_reached _ _ _ rfl
  exact ⟨o, o', earlier, List.mem_append_right _ List.mem_cons_self, r', starts⟩

/-- A section that no event starts was started by a section of its task, and is run after whatever happened
since. -/
theorem Run.between {M : Machine W S T O E} {c tr t s rest} (r : Run M c tr)
    (e : c.pending t = s :: rest) (inner : ∀ e w, s ∉ M.body e w) (o : O) :
    ∃ k chk since, Between M (.ran t s o c :: tr) t k chk since s c := by
  obtain ⟨since, l, earlier, rfl, starts, waits⟩ := r.pending_since (e ▸ List.mem_cons_self)
  cases l with
  | ran t' k o' chk =>
    obtain ⟨rfl, starts⟩ := starts
    exact ⟨k, chk, since, ⟨o, o', [], earlier, rfl, starts⟩, waits⟩
  | came e' pre => exact absurd starts.2 (inner e' pre.world)

/-- The same for a section somewhere in a run. -/
lemma Run.between_ran {M : Machine W S T O E} {c tr t s o pre} (r : Run M c tr)
    (h : .ran t s o pre ∈ tr) (inner : ∀ e w, s ∉ M.body e w) :
    ∃ k chk since, Between M tr t k chk since s pre := by
  obtain ⟨later, earlier, rfl⟩ := List.append_of_mem h
  obtain ⟨r', c', st⟩ := r.pre_reached _ _ _ rfl
  cases st with
  | run e _ =>
    obtain ⟨k, chk, since, between⟩ := r'.between e inner o
    exact ⟨k, chk, since, between.later later⟩

/-- Where a list can be cut at one of its elements: what is before it, the element, and what is after. -/
def cuts {α : Type} : List α → List (List α × α × List α)
  | [] => []
  | x :: xs => ([], x, xs) :: (cuts xs).map fun c => (x :: c.1, c.2)

lemma mem_cuts {α : Type} {xs before after : List α} {x : α} (e : xs = before ++ x :: after) :
    (before, x, after) ∈ cuts xs := by
  subst e
  induction before with
  | nil => exact List.mem_cons_self
  | cons y before ih => exact List.mem_cons_of_mem _ (List.mem_map.mpr ⟨_, ih, rfl⟩)

/-- The steps of a trace since the last one that meets `P`, the latest first. -/
def sinceLast {α : Type} (P : α → Bool) (tr : List α) : List α := tr.takeWhile fun l => !P l

lemma sinceLast_miss {α : Type} {P : α → Bool} {l : α} (h : P l = false) (tr : List α) :
    sinceLast P (l :: tr) = l :: sinceLast P tr := by
  simp [sinceLast, h]

/-! ## Nothing is lost -/

/-- How many of the sections that meet `P` a step starts in the task `t`. -/
def Machine.handed (M : Machine W S T O E) (P : S → Bool) (t : T) : Label W S T O E → Nat
  | .ran t' s o pre => if t' = t then (M.exec s o pre.world).2.countP P else 0
  | .came e pre => if M.task e = t then (M.body e pre.world).countP P else 0

/-- Does the step run a section of `t` that meets `P`? -/
def Label.runs (P : S → Bool) (t : T) : Label W S T O E → Bool
  | .ran t' s _ _ => t' = t && P s
  | .came .. => false

/-- **Every section that is started is run once.** What a task was handed, it has run or still has to. -/
theorem Run.conserved {M : Machine W S T O E} {c tr} (r : Run M c tr) (P : S → Bool) (t : T) :
    (tr.map (M.handed P t)).sum = tr.countP (Label.runs P t) + (c.pending t).countP P := by
  induction r with
  | start => rfl
  | @step c tr l c' r st ih =>
    rw [List.map_cons, List.sum_cons, List.countP_cons, ih]
    cases st with
    | @run t' s rest o e _ =>
      by_cases ht : t' = t
      · subst ht
        simp only [Machine.handed, Label.runs, Machine.afterRun, Function.update_self, e,
          List.countP_append, List.countP_cons, if_true, decide_true, Bool.true_and]
        omega
      · simp only [Machine.handed, Label.runs, Machine.afterRun, ht, Function.update_of_ne (Ne.symm ht),
          if_false, decide_false, Bool.false_and, Bool.false_eq_true]
        omega
    | @event e idle _ =>
      by_cases ht : M.task e = t
      · subst ht
        simp only [Machine.handed, Label.runs, Machine.afterEvent, Function.update_self, idle,
          List.countP_nil, if_true, Bool.false_eq_true, if_false]
        omega
      · simp only [Machine.handed, Label.runs, Machine.afterEvent, ht,
          Function.update_of_ne (Ne.symm ht), if_false, Bool.false_eq_true]
        omega

/-! ## A task alone -/

/-- Run the sections of one task with no other task in between, one answer for each section, and what is
left to run when the answers are used up. -/
def Machine.solo (M : Machine W S T O E) : List O → List S → W → W × List S
  | [], ss, w => (w, ss)
  | _ :: _, [], w => (w, [])
  | o :: os, s :: rest, w => M.solo os ((M.exec s o w).2 ++ rest) (M.exec s o w).1

omit [DecidableEq T] in
@[simp] lemma Machine.solo_cons (M : Machine W S T O E) (o : O) (os : List O) (s : S)
    (rest : List S) (w : W) :
    M.solo (o :: os) (s :: rest) w = M.solo os ((M.exec s o w).2 ++ rest) (M.exec s o w).1 := rfl

omit [DecidableEq T] in
/-- A task that is through stays as it is. -/
@[simp] lemma Machine.solo_done (M : Machine W S T O E) (os : List O) (w : W) :
    M.solo os [] w = (w, []) := by
  cases os <;> rfl

/-- What holds of the world when a task that runs alone is through, whatever it was answered. -/
def Machine.Ends (M : Machine W S T O E) (ss : List S) (w : W) (Q : W → Prop) : Prop :=
  ∀ os, (M.solo os ss w).2 = [] → Q (M.solo os ss w).1

omit [DecidableEq T] in
lemma Machine.Ends.mono {M : Machine W S T O E} {ss : List S} {w : W} {Q Q' : W → Prop}
    (h : M.Ends ss w Q) (imp : ∀ w', Q w' → Q' w') : M.Ends ss w Q' :=
  fun os through => imp _ (h os through)

omit [DecidableEq T] in
/-- A task with nothing left to run. -/
lemma Machine.Ends.done {M : Machine W S T O E} {w : W} {Q : W → Prop} (h : Q w) : M.Ends [] w Q := by
  intro os _
  rwa [M.solo_done]

omit [DecidableEq T] in
/-- A task whose first section is run. -/
lemma Machine.Ends.step {M : Machine W S T O E} {s : S} {rest : List S} {w : W} {Q : W → Prop}
    (h : ∀ o, M.Ends ((M.exec s o w).2 ++ rest) (M.exec s o w).1 Q) : M.Ends (s :: rest) w Q := by
  intro os
  cases os with
  | nil => intro through; cases through
  | cons o os => exact h o os

/-! ## Schedules -/

/-- One move of a schedule: let a task run its first section with a given answer, or let an event
happen. -/
inductive Move (T O E : Type) where
  | run (t : T) (o : O)
  | event (e : E)

/-- The label and the snapshot of a move, when it is possible. -/
def Machine.move (M : Machine W S T O E) [∀ o w, Decidable (M.answers o w)]
    [∀ e w, Decidable (M.enabled e w)] (c : Snapshot W S T) :
    Move T O E → Option (Label W S T O E × Snapshot W S T)
  | .run t o =>
    match c.pending t with
    | [] => none
    | s :: rest => if M.answers o c.world then some (.ran t s o c, M.afterRun c t s rest o) else none
  | .event e =>
    match c.pending (M.task e) with
    | [] => if M.enabled e c.world then some (.came e c, M.afterEvent c e) else none
    | _ :: _ => none

/-- A possible move is a step. -/
lemma Machine.move_step {M : Machine W S T O E} [∀ o w, Decidable (M.answers o w)]
    [∀ e w, Decidable (M.enabled e w)] {c : Snapshot W S T} {m l c'}
    (h : M.move c m = some (l, c')) : Step M c l c' := by
  cases m with
  | run t o =>
    simp only [Machine.move] at h
    split at h
    · cases h
    · rename_i s rest e
      split at h
      · rename_i ha
        cases h
        exact .run e ha
      · cases h
  | event e =>
    simp only [Machine.move] at h
    split at h
    · rename_i hi
      split at h
      · rename_i he
        cases h
        exact .event hi he
      · cases h
    · cases h

/-- Follow a schedule from a snapshot with the trace that led to it. -/
def Machine.replay (M : Machine W S T O E) [∀ o w, Decidable (M.answers o w)]
    [∀ e w, Decidable (M.enabled e w)] :
    List (Move T O E) → Snapshot W S T → List (Label W S T O E) →
      Option (Snapshot W S T × List (Label W S T O E))
  | [], c, tr => some (c, tr)
  | m :: ms, c, tr =>
    match M.move c m with
    | none => none
    | some (l, c') => M.replay ms c' (l :: tr)

/-- A schedule that can be followed is a run. -/
theorem Machine.replay_run {M : Machine W S T O E} [∀ o w, Decidable (M.answers o w)]
    [∀ e w, Decidable (M.enabled e w)] {ms c tr c' tr'} (r : Run M c tr)
    (h : M.replay ms c tr = some (c', tr')) : Run M c' tr' := by
  induction ms generalizing c tr with
  | nil =>
    cases h
    exact r
  | cons m ms ih =>
    simp only [Machine.replay] at h
    split at h
    · cases h
    · rename_i l c1 hm
      exact ih (r.step (Machine.move_step hm)) h

/-- Follow a schedule from the start. -/
def Machine.follow (M : Machine W S T O E) [∀ o w, Decidable (M.answers o w)]
    [∀ e w, Decidable (M.enabled e w)] (ms : List (Move T O E)) :
    Option (Snapshot W S T × List (Label W S T O E)) :=
  M.replay ms ⟨M.start, fun _ => []⟩ []

/-- The task a move belongs to. -/
def Machine.mover (M : Machine W S T O E) : Move T O E → T
  | .run t _ => t
  | .event e => M.task e

/-- A move leaves the other tasks alone. -/
lemma Machine.move_pending {M : Machine W S T O E} [∀ o w, Decidable (M.answers o w)]
    [∀ e w, Decidable (M.enabled e w)] {c : Snapshot W S T} {m l c'}
    (h : M.move c m = some (l, c')) {t} (ht : M.mover m ≠ t) : c'.pending t = c.pending t := by
  cases m with
  | run t' o =>
    simp only [Machine.move] at h
    split at h
    · cases h
    · split at h <;> cases h
      exact Function.update_of_ne (Ne.symm ht) _ _
  | event e =>
    simp only [Machine.move] at h
    split at h
    · split at h <;> cases h
      exact Function.update_of_ne (Ne.symm ht) _ _
    · cases h

/-- A schedule leaves the tasks it does not mention alone. -/
theorem Machine.replay_pending {M : Machine W S T O E} [∀ o w, Decidable (M.answers o w)]
    [∀ e w, Decidable (M.enabled e w)] {ms c tr c' tr'} (h : M.replay ms c tr = some (c', tr'))
    {t} (ht : ∀ m ∈ ms, M.mover m ≠ t) : c'.pending t = c.pending t := by
  induction ms generalizing c tr with
  | nil =>
    cases h
    rfl
  | cons m ms ih =>
    simp only [Machine.replay] at h
    split at h
    · cases h
    · rename_i l c1 hm
      rw [ih h fun m' hm' => ht m' (List.mem_cons_of_mem _ hm')]
      exact Machine.move_pending hm (ht m List.mem_cons_self)

/-- A schedule whose end passes a test is a run to a snapshot that passes it, in which the tasks that
the schedule does not mention are idle. -/
theorem Machine.follow_reaches {M : Machine W S T O E} [∀ o w, Decidable (M.answers o w)]
    [∀ e w, Decidable (M.enabled e w)] {ms} {f : Snapshot W S T × List (Label W S T O E) → Bool}
    (h : (M.follow ms).any f) :
    ∃ c tr, Run M c tr ∧ f (c, tr) ∧ ∀ t, (∀ m ∈ ms, M.mover m ≠ t) → c.pending t = [] := by
  obtain ⟨⟨c, tr⟩, e, hf⟩ := (Option.any_eq_true _ _).mp h
  refine ⟨c, tr, Machine.replay_run .start e, hf, ?_⟩
  intro t ht
  exact Machine.replay_pending e ht

/-- A move is labelled with the snapshot it leaves. -/
lemma Machine.move_pre {M : Machine W S T O E} [∀ o w, Decidable (M.answers o w)]
    [∀ e w, Decidable (M.enabled e w)] {c : Snapshot W S T} {m l c'}
    (h : M.move c m = some (l, c')) : l.pre = c := (Machine.move_step h).label_pre

/-- A schedule leaves the tasks it does not mention idle all the way. -/
theorem Machine.replay_idle {M : Machine W S T O E} [∀ o w, Decidable (M.answers o w)]
    [∀ e w, Decidable (M.enabled e w)] {ms c tr c' tr'} {ts : List T}
    (hts : ∀ m ∈ ms, M.mover m ∈ ts) (idle : ∀ s ∈ visited c tr, ∀ t ∉ ts, s.pending t = [])
    (h : M.replay ms c tr = some (c', tr')) :
    ∀ s ∈ visited c' tr', ∀ t ∉ ts, s.pending t = [] := by
  induction ms generalizing c tr with
  | nil =>
    cases h
    exact idle
  | cons m ms ih =>
    simp only [Machine.replay] at h
    split at h
    · cases h
    · rename_i l c1 hm
      apply ih (fun m' hm' => hts m' (List.mem_cons_of_mem _ hm')) _ h
      intro s hs t ht
      rcases List.mem_cons.mp hs with rfl | hs
      · have other : M.mover m ≠ t := by
          rintro rfl
          exact ht (hts m List.mem_cons_self)
        rw [Machine.move_pending hm other]
        exact idle c List.mem_cons_self t ht
      · rw [List.map_cons, Machine.move_pre hm] at hs
        exact idle s hs t ht

/-- A schedule whose end passes a test is a run to a snapshot that passes it, all the way through which
the tasks that it does not mention are idle. -/
theorem Machine.follow_idle {M : Machine W S T O E} [∀ o w, Decidable (M.answers o w)]
    [∀ e w, Decidable (M.enabled e w)] {ms} {f : Snapshot W S T × List (Label W S T O E) → Bool}
    {ts : List T} (hts : ∀ m ∈ ms, M.mover m ∈ ts) (h : (M.follow ms).any f) :
    ∃ c tr, Run M c tr ∧ f (c, tr) ∧ ∀ s ∈ visited c tr, ∀ t ∉ ts, s.pending t = [] := by
  obtain ⟨⟨c, tr⟩, e, hf⟩ := (Option.any_eq_true _ _).mp h
  refine ⟨c, tr, Machine.replay_run .start e, hf, Machine.replay_idle hts ?_ e⟩
  intro s hs t _
  rw [List.mem_singleton.mp hs]

/-- A schedule whose end passes a test and leaves the tasks it mentions with nothing to run is a run to a
quiet snapshot that passes it. -/
theorem Machine.follow_quiet {M : Machine W S T O E} [∀ o w, Decidable (M.answers o w)]
    [∀ e w, Decidable (M.enabled e w)] {ms} {f : Snapshot W S T × List (Label W S T O E) → Bool}
    (ts : List T) (hts : ∀ m ∈ ms, M.mover m ∈ ts)
    (h : (M.follow ms).any fun x => f x && ts.all fun t => (x.1.pending t).isEmpty) :
    ∃ c tr, Run M c tr ∧ f (c, tr) ∧ c.Quiet := by
  obtain ⟨c, tr, r, hf, idle⟩ := Machine.follow_reaches h
  obtain ⟨hf, done⟩ := (Bool.and_eq_true _ _).mp hf
  refine ⟨c, tr, r, hf, fun t => ?_⟩
  by_cases ht : t ∈ ts
  · exact List.isEmpty_iff.mp (List.all_eq_true.mp done t ht)
  · exact idle t fun m hm e => ht (e ▸ hts m hm)

end Interleave
