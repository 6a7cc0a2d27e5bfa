import RecompNet.Hub.Tickets

/-!
# What becomes of an offer

An offer is made by a pairing and taken out of the queue by an answer, a departure or the clock.
`OfferChange` says once what a step does to the offers that are pending; `Ledger` is what every run keeps
of them: each offer that was made is pending or was taken, once, with the latest answer of each side.
-/

open scoped List

namespace RecompNet

open Section Interleave

/-- The offers that a step makes. -/
def made (srv : Server) : HubLabel → List Pending
  | .ran _ run_pairing o pre =>
    (pre.world.automatch.pair srv.automatch_rematch_cooldown_secs pre.world.now o.match_ids).2
  | _ => []

/-- The answer that a step gives for a side of an offer. -/
def answersTo : HubLabel → String → Bool → Option Bool
  | .ran _ (queue_answer p accept id) _ pre, m, x =>
    (pre.world.automatch.offer_of p).bind fun pd =>
      if pd.match_id = m ∧ pd.side p = some x ∧ id.all (· = m) then some accept else none
  | _, _, _ => none

/-- The latest answer for a side of an offer. -/
def latestAnswer (m : String) (x : Bool) : List HubLabel → Option Bool
  | [] => none
  | l :: tr => (answersTo l m x).or (latestAnswer m x tr)

/-- An offer as it was made, before any answer. -/
def Pending.blank (p : Pending) : Pending := { p with a_accept := none, b_accept := none }

/-- What a step does to the offers that are pending. -/
inductive OfferChange (srv : Server) (l : HubLabel) : List Pending → List Pending → Prop where
  | keep {ps} :
    made srv l = [] →
    taken srv l = [] →
    (∀ m x, answersTo l m x = none) →
    OfferChange srv l ps ps
  | make {ps} :
    taken srv l = [] →
    (∀ m x, answersTo l m x = none) →
    OfferChange srv l ps (ps ++ made srv l)
  | drop {ps ps'} :
    made srv l = [] →
    (ps' ++ taken srv l).Perm ps →
    (∀ m x, answersTo l m x = none) →
    OfferChange srv l ps ps'
  | answer {before p after p' player accept} :
    made srv l = [] →
    p' = QueueInner.recordAnswer p player accept →
    (∀ m x, answersTo l m x =
      if p.match_id = m ∧ p.side player = some x then some accept else none) →
    taken srv l = (if p'.answered then [p'] else []) →
    OfferChange srv l (before ++ p :: after)
      (if p'.answered then before ++ after else before ++ p' :: after)

/-- A section that is none of the five leaves the offers alone. -/
lemma offers_keep {srv : Server} {t s o} {pre : HubSnapshot}
    (h : s.kind ∉ [.queue_answer, .queue_remove, .take_expired, .run_pairing]) :
    OfferChange srv (.ran t s o pre) pre.world.automatch.pending
      (exec srv s o pre.world).1.automatch.pending := by
  rw [exec_automatch]
  cases s with
  | queue_answer | queue_remove | take_expired | run_pairing => simp at h
  | _ => exact .keep rfl rfl fun _ _ => rfl

/-- What a section does to the offers that are pending. -/
lemma exec_offers {srv : Server} {t s o} {pre : HubSnapshot} :
    OfferChange srv (.ran t s o pre) pre.world.automatch.pending
      (exec srv s o pre.world).1.automatch.pending := by
  cases s with
  | queue_answer player accept id =>
    rw [exec_automatch]
    cases hoff : pre.world.automatch.offer_of player with
    | none =>
      have same : pre.world.automatch.answer_for player accept id = _ :=
        QueueInner.answer_for_none hoff
      simp only [queueAfter, same]
      refine .keep rfl ?_ fun m x => ?_
      · simp [taken, same]
      · simp [answersTo, hoff]
    | some p =>
      obtain ⟨before, after, first⟩ := QueueInner.offer_of_some hoff
      have ans : pre.world.automatch.answer_for player accept id = _ :=
        QueueInner.answer_for_first first
      by_cases other : id.any (· ≠ p.match_id)
      · rw [if_pos other] at ans
        simp only [queueAfter, ans]
        refine .keep rfl ?_ fun m x => ?_
        · simp [taken, ans]
        · cases id with
          | none => cases other
          | some i =>
            have ne : i ≠ p.match_id := by simpa using other
            simp only [answersTo, hoff, Option.bind_some, Option.all_some, decide_eq_true_eq]
            refine if_neg ?_
            rintro ⟨rfl, -, rfl⟩
            exact ne rfl
      · rw [if_neg other] at ans
        have named : ∀ m, p.match_id = m → id.all (· = m) := by
          rintro m rfl
          cases id <;> simp_all
        have after_eq : (queueAfter srv (.queue_answer player accept id) o pre.world).pending =
            if (QueueInner.recordAnswer p player accept).answered then before ++ after
            else before ++ QueueInner.recordAnswer p player accept :: after := by
          simp only [queueAfter, ans]
          split <;> rfl
        rw [after_eq, first.pending]
        refine .answer rfl rfl (fun m x => ?_) ?_
        · simp only [answersTo, hoff, Option.bind_some]
          by_cases hm : p.match_id = m
          · simp [hm, named m hm]
          · simp [hm]
        · simp only [taken, ans]
          split <;> rfl
  | queue_remove player =>
    rw [exec_automatch]
    cases hoff : pre.world.automatch.offer_of player with
    | none =>
      have same := QueueInner.remove_player_none hoff
      simp only [queueAfter, same]
      refine .keep rfl ?_ fun _ _ => rfl
      simp [taken, same]
    | some p =>
      obtain ⟨before, after, first⟩ := QueueInner.offer_of_some hoff
      have gone := QueueInner.remove_player_first first
      refine .drop rfl ?_ fun _ _ => rfl
      simp only [queueAfter, taken, gone, first.pending, Option.toList_some]
      exact (List.perm_append_singleton _ _).trans List.perm_middle.symm
  | take_expired =>
    rw [exec_automatch]
    refine .drop rfl ?_ fun _ _ => rfl
    simp only [queueAfter, taken, QueueInner.take_expired]
    exact List.perm_append_comm.trans (List.filter_append_perm _ _)
  | run_pairing =>
    rw [exec_automatch]
    have more := @QueueInner.pair_pending pre.world.automatch srv.automatch_rematch_cooldown_secs
      pre.world.now o.match_ids
    simp only [queueAfter, more]
    exact .make rfl fun _ _ => rfl
  | _ => exact offers_keep (by simp)

/-- What a step does to the offers that are pending. -/
lemma step_offers {srv : Server} {c l c'} (st : Step (hubMachine srv) c l c') :
    OfferChange srv l c.world.automatch.pending c'.world.automatch.pending := by
  cases st with
  | run _ _ => exact exec_offers
  | @event e _ _ =>
    have same := apply_automatch srv c.world e
    show OfferChange srv _ _ (e.apply srv c.world).automatch.pending
    rw [same]
    exact .keep rfl rfl fun _ _ => rfl

/-- The offers of a run, pending or taken. -/
def offersOf (srv : Server) (c : HubSnapshot) (tr : List HubLabel) : List Pending :=
  c.world.automatch.pending ++ tr.flatMap (taken srv)

/-- What every run keeps of its offers. -/
structure Ledger (srv : Server) (c : HubSnapshot) (tr : List HubLabel) : Prop where
  custody : ((offersOf srv c tr).map Pending.blank).Perm (tr.flatMap (made srv))
  unique : ((tr.flatMap (made srv)).map (·.match_id)).Nodup
  drawn : ∀ p ∈ tr.flatMap (made srv), p.match_id ∈ c.world.issued
  heard : ∀ m x, latestAnswer m x tr ≠ none → m ∈ (tr.flatMap (made srv)).map (·.match_id)
  answers : ∀ p ∈ offersOf srv c tr, ∀ x, p.accepted x = latestAnswer p.match_id x tr
  undecided : ∀ p ∈ c.world.automatch.pending, ¬ p.answered
  alone : ∀ p ∈ offersOf srv c tr, p.a.player_id = p.b.player_id → p.b_accept = none

@[simp] lemma Pending.blank_match_id (p : Pending) : p.blank.match_id = p.match_id := rfl

lemma recordAnswer_blank (p : Pending) (player : String) (accept : Bool) :
    (QueueInner.recordAnswer p player accept).blank = p.blank := by
  unfold QueueInner.recordAnswer
  split <;> rfl

lemma recordAnswer_keeps (p : Pending) (player : String) (accept : Bool) :
    (QueueInner.recordAnswer p player accept).match_id = p.match_id ∧
    (QueueInner.recordAnswer p player accept).a = p.a ∧
    (QueueInner.recordAnswer p player accept).b = p.b := by
  unfold QueueInner.recordAnswer
  split <;> exact ⟨rfl, rfl, rfl⟩

/-- Recording an answer sets that side alone. -/
lemma recordAnswer_accepted (p : Pending) (player : String) (accept x : Bool) :
    (QueueInner.recordAnswer p player accept).accepted x =
      if p.side player = some x then some accept else p.accepted x := by
  unfold QueueInner.recordAnswer
  cases p.side player with
  | none => rfl
  | some y => cases x <;> cases y <;> rfl

/-- Offers that were not answered by a step keep their answers. -/
lemma latestAnswer_keep {l : HubLabel} {m x tr} (h : answersTo l m x = none) :
    latestAnswer m x (l :: tr) = latestAnswer m x tr := by
  rw [latestAnswer, h, Option.none_or]

/-- The ids of the offers of a run are those of the offers it made. -/
lemma Ledger.ids {srv c tr} (h : Ledger srv c tr) :
    ((offersOf srv c tr).map (·.match_id)).Perm ((tr.flatMap (made srv)).map (·.match_id)) := by
  have perm := h.custody.map (·.match_id)
  rwa [List.map_map] at perm

/-- What a step that nobody answers leaves of the ledger, from the offers that it leaves. -/
lemma Ledger.quiet {srv c tr c'} {l : HubLabel} (h : Ledger srv c tr)
    (silent : ∀ m x, answersTo l m x = none) (nothing : made srv l = [])
    (perm : (c'.world.automatch.pending ++ taken srv l).Perm c.world.automatch.pending)
    (issued : c.world.issued ⊆ c'.world.issued) : Ledger srv c' (l :: tr) := by
  have all : (offersOf srv c' (l :: tr)).Perm (offersOf srv c tr) := by
    rw [offersOf, List.flatMap_cons, ← List.append_assoc]
    exact perm.append_right _
  have same : (l :: tr).flatMap (made srv) = tr.flatMap (made srv) := by
    rw [List.flatMap_cons, nothing, List.nil_append]
  have latest : ∀ m x, latestAnswer m x (l :: tr) = latestAnswer m x tr :=
    fun m x => latestAnswer_keep (silent m x)
  refine ⟨?_, ?_, ?_, ?_, ?_, ?_, ?_⟩
  · rw [same]
    exact (all.map _).trans h.custody
  · rw [same]
    exact h.unique
  · rw [same]
    exact fun p hp => issued (h.drawn p hp)
  · intro m x hm
    rw [latest] at hm
    rw [same]
    exact h.heard m x hm
  · intro p hp x
    rw [latest]
    exact h.answers p (all.subset hp) x
  · exact fun p hp => h.undecided p (perm.subset (List.mem_append_left _ hp))
  · exact fun p hp => h.alone p (all.subset hp)

/-- A pairing adds offers that nobody has answered, under ids that were not drawn before. -/
lemma Ledger.pair {srv c tr c'} {l : HubLabel} (h : Ledger srv c tr)
    (silent : ∀ m x, answersTo l m x = none) (nobody : taken srv l = [])
    (pending : c'.world.automatch.pending = c.world.automatch.pending ++ made srv l)
    (issued : c.world.issued ⊆ c'.world.issued)
    (fresh : ∀ p ∈ made srv l, p.match_id ∉ c.world.issued ∧ p.match_id ∈ c'.world.issued)
    (nodup : ((made srv l).map (·.match_id)).Nodup)
    (open_ : ∀ p ∈ made srv l, p.a_accept = none ∧ p.b_accept = none) :
    Ledger srv c' (l :: tr) := by
  have all : (offersOf srv c' (l :: tr)).Perm (made srv l ++ offersOf srv c tr) := by
    rw [offersOf, List.flatMap_cons, nobody, List.nil_append, pending, offersOf,
      ← List.append_assoc]
    exact List.perm_append_comm.append_right _
  have blank : (made srv l).map Pending.blank = made srv l := by
    apply (List.map_congr_left ?_).trans (List.map_id _)
    intro p hp
    obtain ⟨ha, hb⟩ := open_ p hp
    cases p
    cases ha
    cases hb
    rfl
  have latest : ∀ m x, latestAnswer m x (l :: tr) = latestAnswer m x tr :=
    fun m x => latestAnswer_keep (silent m x)
  have apart : ∀ p ∈ made srv l, p.match_id ∉ (tr.flatMap (made srv)).map (·.match_id) := by
    intro p hp hm
    obtain ⟨q, hq, e⟩ := List.mem_map.mp hm
    exact (fresh p hp).1 (e ▸ h.drawn q hq)
  refine ⟨?_, ?_, ?_, ?_, ?_, ?_, ?_⟩
  · -- The new offers are blank, and made with this step.
    rw [List.flatMap_cons]
    refine (all.map _).trans ?_
    rw [List.map_append, blank]
    exact h.custody.append_left _
  · -- Their ids are new and differ from each other.
    rw [List.flatMap_cons, List.map_append]
    refine nodup.append h.unique ?_
    intro m hm
    obtain ⟨p, hp, rfl⟩ := List.mem_map.mp hm
    exact apart p hp
  · intro p hp
    rw [List.flatMap_cons] at hp
    rcases List.mem_append.mp hp with hp | hp
    · exact (fresh p hp).2
    · exact issued (h.drawn p hp)
  · intro m x hm
    rw [latest] at hm
    rw [List.flatMap_cons, List.map_append]
    exact List.mem_append_right _ (h.heard m x hm)
  · -- Nobody could answer to an id before it was drawn.
    intro p hp x
    rw [latest]
    rcases List.mem_append.mp (all.subset hp) with hp | hp
    · have nothing : latestAnswer p.match_id x tr = none := by
        by_contra some
        exact apart p hp (h.heard _ _ some)
      obtain ⟨ha, hb⟩ := open_ p hp
      rw [nothing]
      cases x
      · exact hb
      · exact ha
    · exact h.answers p hp x
  · intro p hp
    rw [pending] at hp
    rcases List.mem_append.mp hp with hp | hp
    · exact h.undecided p hp
    · obtain ⟨ha, hb⟩ := open_ p hp
      simp [Pending.answered, ha, hb]
  · intro p hp
    rcases List.mem_append.mp (all.subset hp) with hp | hp
    · exact fun _ => (open_ p hp).2
    · exact h.alone p hp

/-- An answer changes one offer, which goes when it is decided. -/
lemma Ledger.answer {srv c tr c'} {l : HubLabel} {before p after player accept}
    (h : Ledger srv c tr) (nothing : made srv l = [])
    (told : ∀ m x, answersTo l m x =
      if p.match_id = m ∧ p.side player = some x then some accept else none)
    (pending : c.world.automatch.pending = before ++ p :: after)
    (gone : taken srv l = if (QueueInner.recordAnswer p player accept).answered then
      [QueueInner.recordAnswer p player accept] else [])
    (left : c'.world.automatch.pending =
      if (QueueInner.recordAnswer p player accept).answered then before ++ after
      else before ++ QueueInner.recordAnswer p player accept :: after)
    (issued : c.world.issued ⊆ c'.world.issued) : Ledger srv c' (l :: tr) := by
  generalize hp' : QueueInner.recordAnswer p player accept = p' at gone left
  have all : (offersOf srv c' (l :: tr)).Perm
      (p' :: (before ++ after ++ tr.flatMap (taken srv))) := by
    rw [offersOf, List.flatMap_cons, ← List.append_assoc, left, gone]
    have head : (if p'.answered then before ++ after else before ++ p' :: after) ++
        (if p'.answered then [p'] else []) ~ p' :: (before ++ after) := by
      split
      · exact List.perm_append_singleton _ _
      · rw [List.append_nil]
        exact List.perm_middle
    exact head.append_right _
  have old : (offersOf srv c tr).Perm (p :: (before ++ after ++ tr.flatMap (taken srv))) := by
    rw [offersOf, pending]
    have head : before ++ p :: after ~ p :: (before ++ after) := List.perm_middle
    exact head.append_right _
  have same : (l :: tr).flatMap (made srv) = tr.flatMap (made srv) := by
    rw [List.flatMap_cons, nothing, List.nil_append]
  have blank : p'.blank = p.blank := hp' ▸ recordAnswer_blank p player accept
  obtain ⟨id, side_a, side_b⟩ : p'.match_id = p.match_id ∧ p'.a = p.a ∧ p'.b = p.b :=
    hp' ▸ recordAnswer_keeps p player accept
  have was : p ∈ offersOf srv c tr := old.symm.subset List.mem_cons_self
  -- The other offers have other ids.
  have others : ∀ q ∈ before ++ after ++ tr.flatMap (taken srv), p.match_id ≠ q.match_id := by
    have nd := (h.ids.nodup_iff.mpr h.unique)
    rw [(old.map _).nodup_iff, List.map_cons, List.nodup_cons] at nd
    intro q hq e
    exact nd.1 (List.mem_map.mpr ⟨q, hq, e.symm⟩)
  refine ⟨?_, ?_, ?_, ?_, ?_, ?_, ?_⟩
  · -- Nothing is made, so the same offers are in custody; only an answer was written.
    rw [same]
    refine ((all.map _).trans ?_).trans h.custody
    rw [List.map_cons, blank]
    exact (old.map Pending.blank).symm
  · rw [same]
    exact h.unique
  · rw [same]
    exact fun p hp => issued (h.drawn p hp)
  · -- An answer is to an offer that was listed before.
    intro m x hm
    rw [same]
    by_cases here : answersTo l m x = none
    · rw [latestAnswer_keep here] at hm
      exact h.heard m x hm
    · rw [told] at here
      have e : p.match_id = m := by
        by_contra ne
        exact here (if_neg fun h => ne h.1)
      have listed := h.ids.subset (List.mem_map_of_mem was)
      exact e ▸ listed
  · -- What stays pending is undecided, since a decided offer goes.
    intro q hq x
    rcases List.mem_cons.mp (all.subset hq) with rfl | hq
    · rw [latestAnswer, told, id, ← h.answers p was x, ← hp', recordAnswer_accepted]
      by_cases hx : p.side player = some x
      · simp [hx]
      · simp [hx]
    · rw [latestAnswer_keep]
      · exact h.answers q (old.symm.subset (List.mem_cons_of_mem _ hq)) x
      · rw [told]
        exact if_neg fun e => others q hq e.1
  · intro q hq
    rw [left] at hq
    have rest : q ∈ before ++ after → ¬ q.answered := by
      intro hq
      apply h.undecided
      rw [pending]
      rcases List.mem_append.mp hq with hq | hq
      · exact List.mem_append_left _ hq
      · exact List.mem_append_right _ (List.mem_cons_of_mem _ hq)
    split at hq
    · exact rest hq
    · rename_i open_
      rcases List.mem_cons.mp (List.perm_middle.subset hq) with rfl | hq
      · exact open_
      · exact rest hq
  · intro q hq same
    rcases List.mem_cons.mp (all.subset hq) with rfl | hq
    · -- A connection that is both sides answers for side `a`.
      rw [side_a, side_b] at same
      have first : p.side player ≠ some false := by
        intro e
        obtain ⟨hb, ha⟩ := Pending.side_eq_some e
        exact ha rfl (same.trans hb)
      have kept := recordAnswer_accepted p player accept false
      rw [if_neg first, hp'] at kept
      exact kept.trans (h.alone p was same)
    · exact h.alone q (old.symm.subset (List.mem_cons_of_mem _ hq)) same

/-- What one step keeps of the ledger. -/
lemma Ledger.step {srv c tr l c'} (h : Ledger srv c tr) (st : Step (hubMachine srv) c l c') :
    Ledger srv c' (l :: tr) := by
  have issued : c.world.issued ⊆ c'.world.issued := by
    cases st with
    | run _ _ => exact exec_issued
    | event _ _ => exact apply_issued
  have change := step_offers st
  generalize e : c.world.automatch.pending = ps at change
  generalize e' : c'.world.automatch.pending = ps' at change
  cases change with
  | keep nothing nobody silent =>
    refine h.quiet silent nothing ?_ issued
    rw [nobody, List.append_nil, e, e']
  | drop nothing perm silent =>
    refine h.quiet silent nothing ?_ issued
    rw [e, e']
    exact perm
  | make nobody silent =>
    have fresh : (∀ p ∈ made srv l, p.match_id ∉ c.world.issued ∧ p.match_id ∈ c'.world.issued) ∧
        ((made srv l).map (·.match_id)).Nodup ∧
        ∀ p ∈ made srv l, p.a_accept = none ∧ p.b_accept = none := by
      cases st with
      | event _ _ => simp [made]
      | @run t s rest o _ possible =>
        by_cases hs : s = run_pairing
        · subst hs
          obtain ⟨-, -, -, nd, new, -⟩ := possible
          obtain ⟨sub, open_⟩ := @QueueInner.pair_offers c.world.automatch
            srv.automatch_rematch_cooldown_secs c.world.now o.match_ids
          refine ⟨fun p hp => ?_, sub.nodup nd, open_⟩
          have drawn : p.match_id ∈ o.match_ids := sub.subset (List.mem_map_of_mem hp)
          exact ⟨(new _ drawn).2, List.mem_append_left _ drawn⟩
        · have none : made srv (.ran t s o c) = [] := by
            cases s with
            | run_pairing => exact absurd rfl hs
            | _ => rfl
          rw [none]
          simp
    exact h.pair silent nobody (by rw [e, e']) issued fresh.1 fresh.2.1 fresh.2.2
  | answer nothing he told gone =>
    subst he
    exact h.answer nothing told e gone e' issued

/-- Every run keeps its ledger. -/
theorem HubRun.ledger {srv c tr} (r : HubRun srv c tr) : Ledger srv c tr := by
  induction r with
  | start =>
    refine ⟨.nil, .nil, ?_, ?_, ?_, ?_, ?_⟩
    · intro p hp
      cases hp
    · intro m x h
      exact absurd rfl h
    · intro p hp
      cases hp
    · intro p hp
      cases hp
    · intro p hp
      cases hp
  | step _ st ih => exact ih.step st

/-! ## Where offers go -/

/-- Is a side of an offer to blame for what took the offer out? It answered no, left, or had not accepted
when the time was up. -/
def ToBlame (srv : Server) (p : Pending) (x : Bool) (l : HubLabel) : Prop :=
  p ∈ taken srv l ∧
  match l with
  | .ran _ (queue_answer ..) _ _ => p.accepted x = some false
  | .ran _ (queue_remove player) _ _ => (p.ticket x).player_id = player
  | .ran _ take_expired _ _ => p.accepted x ≠ some true
  | _ => False

/-- The account that a step charges a strike. -/
def charged : HubLabel → Option String
  | .ran _ (settle_declined p loser _) _ _ => some (p.loserFirst loser).1.account_id
  | .ran _ (record_strike account ..) _ _ => some account
  | _ => none

/-- A lapsed offer is not between a connection and itself, unless that has not accepted. -/
def LapsesApart (srv : Server) (l : HubLabel) : Prop :=
  match l with
  | .ran _ take_expired _ _ =>
    ∀ p ∈ taken srv l, p.a.player_id = p.b.player_id → p.a_accept ≠ some true
  | _ => True

/-- A connection left: it cancelled, or its socket closed. -/
def Left (tr : List HubLabel) (player : String) : Prop :=
  (∃ pre, .came (.disconnect player) pre ∈ tr) ∨
    ∃ t ip msg o pre, .ran t (dispatch player ip msg) o pre ∈ tr ∧ msg.op = .automatch_cancel

/-- What an offer comes to in a run. -/
structure OffersSettled (srv : Server) (c : HubSnapshot) (tr : List HubLabel) : Prop where
  /-- Every offer that was made is pending or was taken out, once. -/
  custody : ((offersOf srv c tr).map Pending.blank).Perm (tr.flatMap (made srv))
  unique : ((tr.flatMap (made srv)).map (·.match_id)).Nodup
  /-- The clock takes out whatever has lapsed. -/
  lapses : ∀ t o pre, .ran t take_expired o pre ∈ tr → ∀ p ∈ pre.world.automatch.pending,
    srv.automatch_accept_secs ≤ elapsed_secs pre.world.now p.offered_at →
    p ∈ taken srv (.ran t take_expired o pre)
  /-- An offer carries the latest answer of each side. -/
  answers : ∀ p ∈ offersOf srv c tr, ∀ x, p.accepted x = latestAnswer p.match_id x tr
  /-- A room is made of an offer whose sides both accepted last. -/
  formed : ∀ t p o pre, .ran t (form_match p) o pre ∈ tr → p ∈ tr.flatMap (taken srv) ∧
    ∀ x, latestAnswer p.match_id x tr = some true
  /-- An answer to another offer does nothing. -/
  named : ∀ t player accept id o pre, .ran t (queue_answer player accept (some id)) o pre ∈ tr →
    (∀ p, pre.world.automatch.offer_of player = some p → p.match_id ≠ id) →
    exec srv (queue_answer player accept (some id)) o pre.world = (pre.world, [])
  /-- A strike is charged to an account that is to blame for its offer. -/
  strikes : ∀ s ∈ c.world.strikes, ∃ l ∈ tr, charged l = some s.player_id
  declined : ∀ t p loser kind o pre, .ran t (settle_declined p loser kind) o pre ∈ tr →
    ∃ x, (p.loserFirst loser).1 = p.ticket x ∧ ∃ l ∈ tr, ToBlame srv p x l
  expired : ∀ t account kind game o pre, .ran t (record_strike account kind game) o pre ∈ tr →
    ∃ p x, account = (p.ticket x).account_id ∧ ∃ l ∈ tr, ToBlame srv p x l
  left : ∀ t player o pre, .ran t (queue_remove player) o pre ∈ tr → Left tr player

/-- What started a section of a kind that no event starts. -/
lemma HubRun.ran_called {srv c tr} (r : HubRun srv c tr) {t s o pre} (h : .ran t s o pre ∈ tr)
    (inner : ∀ (e : Event) w, s ∉ e.body w) :
    ∃ s' o' pre', .ran t s' o' pre' ∈ tr ∧ s ∈ (exec srv s' o' pre'.world).2 ∧
      s.kind ∈ s'.calls := by
  rcases Run.ran_started r h with ⟨e, pre', -, -, hb⟩ | ⟨s', o', pre', hm, hs⟩
  · exact absurd hb (inner e _)
  · exact ⟨s', o', pre', hm, hs, exec_calls s hs⟩

/-- A match is formed of an offer that an answer took out, both sides having accepted. -/
lemma HubRun.formed_taken {srv c tr} (r : HubRun srv c tr) {t p o pre}
    (h : .ran t (form_match p) o pre ∈ tr) : p ∈ tr.flatMap (taken srv) ∧ p.both_yes := by
  obtain ⟨s', o', pre', hm, hs, hk⟩ := HubRun.ran_called r h fun e w hb => by
    simpa using body_kinds hb
  cases s' with
  | queue_answer player accept id =>
    simp only [exec, queue_answer_step] at hs
    split at hs
    · cases hs
    · rename_i q pd hans
      split at hs
      · rename_i yes
        cases List.mem_singleton.mp hs
        refine ⟨List.mem_flatMap.mpr ⟨_, hm, ?_⟩, yes⟩
        simp [taken, hans]
      · cases List.mem_singleton.mp hs
  | dispatch p ip msg =>
    cases hop : msg.op <;> simp [hop] at hk
  | _ => simp at hk

lemma answer_for_answered {g q : QueueInner} {player : String} {accept : Bool} {id : Option String}
    {p} (h : g.answer_for player accept id = (q, some p)) : p.answered := by
  cases hoff : g.offer_of player with
  | none =>
    rw [QueueInner.answer_for_none hoff] at h
    cases h
  | some p' =>
    obtain ⟨before, after, first⟩ := QueueInner.offer_of_some hoff
    rw [QueueInner.answer_for_first first] at h
    split_ifs at h with other done
    · cases h
    · obtain ⟨-, e⟩ := Prod.mk.inj h
      exact Option.some.inj e ▸ done
    · cases h

lemma remove_player_side {g q : QueueInner} {player : String} {p}
    (h : g.remove_player player = (q, some p)) : (p.side player).isSome := by
  cases hoff : g.offer_of player with
  | none =>
    rw [QueueInner.remove_player_none hoff] at h
    cases h
  | some p' =>
    obtain ⟨before, after, first⟩ := QueueInner.offer_of_some hoff
    rw [QueueInner.remove_player_first first] at h
    cases h
    exact first.side

/-- The loser of an offer that a connection leaves is a side it holds. -/
lemma loserFirst_side {p : Pending} {player : String} (h : (p.side player).isSome) :
    ∃ x, (p.loserFirst player).1 = p.ticket x ∧ (p.ticket x).player_id = player := by
  unfold Pending.loserFirst
  by_cases ha : p.a.player_id = player
  · rw [if_pos ha]
    exact ⟨true, rfl, ha⟩
  · rw [if_neg ha]
    refine ⟨false, rfl, ?_⟩
    by_contra hb
    rw [Pending.side, if_neg ha, if_neg (show p.b.player_id ≠ player from hb)] at h
    cases h

/-- The loser of a decided offer that is not accepted is a side that declined. -/
lemma loserFirst_declined {p : Pending} (answered : p.answered) (no : ¬ p.both_yes)
    (alone : p.a.player_id = p.b.player_id → p.b_accept = none) :
    let decliner := if p.a_accept = some false then p.a else p.b
    ∃ x, (p.loserFirst decliner.player_id).1 = p.ticket x ∧ p.accepted x = some false := by
  unfold Pending.loserFirst
  dsimp only
  by_cases ha : p.a_accept = some false
  · rw [if_pos ha, if_pos rfl]
    exact ⟨true, rfl, ha⟩
  · have hb : p.b_accept = some false := by
      unfold Pending.answered at answered
      unfold Pending.both_yes at no
      cases h1 : p.a_accept with
      | none => simpa [h1] using answered
      | some x =>
        cases h2 : p.b_accept with
        | none => cases x <;> simp_all
        | some y => cases x <;> cases y <;> simp_all
    rw [if_neg ha, if_neg]
    · exact ⟨false, rfl, hb⟩
    · intro same
      rw [alone same] at hb
      cases hb

/-- The loser of a lapsed offer has not accepted, when the two sides are different connections. -/
lemma settle_expired_blame {p p' : Pending} {loser kind} (undecided : ¬ p.answered)
    (apart : p.a.player_id = p.b.player_id → p.a_accept ≠ some true)
    (h : settle_declined p' loser kind ∈ settle_expired p) :
    p' = p ∧ ∃ x, (p.loserFirst loser).1 = p.ticket x ∧ p.accepted x ≠ some true := by
  unfold settle_expired at h
  dsimp only at h
  split at h
  · simp at h
  · rename_i one
    cases List.mem_singleton.mp h
    refine ⟨rfl, ?_⟩
    unfold Pending.loserFirst
    by_cases ha : p.a_accept = some true
    · have hb : p.b_accept ≠ some true := by
        intro hb
        simp [Pending.answered, ha, hb] at undecided
      rw [if_neg (not_not.mpr ha), if_neg fun same => apart same ha]
      exact ⟨false, rfl, hb⟩
    · rw [if_pos ha, if_pos rfl]
      exact ⟨true, rfl, ha⟩

lemma settle_expired_strike {p : Pending} {account kind game}
    (h : record_strike account kind game ∈ settle_expired p) :
    ∃ x, account = (p.ticket x).account_id ∧ p.accepted x ≠ some true := by
  unfold settle_expired at h
  dsimp only at h
  split at h
  · rename_i bad
    simp only [List.flatMap_cons, List.flatMap_nil, List.append_nil, List.cons_append,
      List.nil_append, List.mem_cons, List.not_mem_nil, or_false, record_strike.injEq,
      reduceCtorEq, false_or] at h
    rcases h with ⟨rfl, -⟩ | ⟨rfl, -⟩
    · exact ⟨true, rfl, bad.1⟩
    · exact ⟨false, rfl, bad.2⟩
  · simp at h

/-- Whoever an offer is settled against is to blame, when offers lapse apart. -/
lemma HubRun.declined_blame {srv c tr} (r : HubRun srv c tr) (hg : ∀ l ∈ tr, LapsesApart srv l)
    {t p loser kind o pre} (h : .ran t (settle_declined p loser kind) o pre ∈ tr) :
    ∃ x, (p.loserFirst loser).1 = p.ticket x ∧ ∃ l ∈ tr, ToBlame srv p x l := by
  obtain ⟨s', o', pre', hm, hs, hk⟩ := HubRun.ran_called r h fun e w hb => by
    simpa using body_kinds hb
  cases s' with
  | queue_answer player accept id =>
    simp only [exec, queue_answer_step] at hs
    split at hs
    · cases hs
    · rename_i q pd hans
      split at hs
      · cases List.mem_singleton.mp hs
      · rename_i no
        cases List.mem_singleton.mp hs
        have out : p ∈ taken srv (.ran t (.queue_answer player accept id) o' pre') := by
          simp [taken, hans]
        have alone := (HubRun.ledger r).alone p
          (List.mem_append_right _ (List.mem_flatMap.mpr ⟨_, hm, out⟩))
        obtain ⟨x, first, said⟩ := loserFirst_declined (answer_for_answered hans) no alone
        exact ⟨x, first, _, hm, out, said⟩
  | queue_remove player =>
    simp only [exec, queue_remove_step] at hs
    split at hs
    · cases hs
    · rename_i q pd hrem
      cases List.mem_singleton.mp hs
      obtain ⟨x, first, own⟩ := loserFirst_side (remove_player_side hrem)
      refine ⟨x, first, _, hm, ?_, own⟩
      simp [taken, hrem]
  | take_expired =>
    obtain ⟨p', hp', hs⟩ := List.mem_flatMap.mp hs
    obtain ⟨rest, earlier, r', -, -⟩ := Run.ran_pending r hm
    have undecided := (HubRun.ledger r').undecided p' (List.mem_of_mem_filter hp')
    obtain ⟨rfl, x, first, late⟩ := settle_expired_blame undecided (hg _ hm p' hp') hs
    exact ⟨x, first, _, hm, hp', late⟩
  | dispatch p ip msg =>
    cases hop : msg.op <;> simp [hop] at hk
  | _ => simp at hk

/-- A lapsed offer that nobody accepted is charged to both its sides. -/
lemma HubRun.expired_blame {srv c tr} (r : HubRun srv c tr) {t account kind game o pre}
    (h : .ran t (record_strike account kind game) o pre ∈ tr) :
    ∃ p x, account = (p.ticket x).account_id ∧ ∃ l ∈ tr, ToBlame srv p x l := by
  obtain ⟨s', o', pre', hm, hs, hk⟩ := HubRun.ran_called r h fun e w hb => by
    simpa using body_kinds hb
  cases s' with
  | take_expired =>
    obtain ⟨p, hp, hs⟩ := List.mem_flatMap.mp hs
    obtain ⟨x, own, late⟩ := settle_expired_strike hs
    exact ⟨p, x, own, _, hm, hp, late⟩
  | dispatch p ip msg =>
    cases hop : msg.op <;> simp [hop] at hk
  | _ => simp at hk

/-- A connection is taken out of the queue because it cancelled or its socket closed. -/
lemma HubRun.remove_left {srv c tr} (r : HubRun srv c tr) {t player o pre}
    (h : .ran t (queue_remove player) o pre ∈ tr) : Left tr player := by
  rcases Run.ran_started r h with ⟨e, pre', hm, -, hb⟩ | ⟨s', o', pre', hm, hs⟩
  · left
    cases e <;> simp only [hubMachine, Event.body, List.mem_cons, List.not_mem_nil, or_false,
      List.mem_map, queue_remove.injEq, reduceCtorEq, and_false, exists_false] at hb
    subst hb
    exact ⟨_, hm⟩
  · right
    have hk := exec_calls _ hs
    cases s' with
    | dispatch p ip msg =>
      have hop : msg.op = .automatch_cancel := by
        cases hop : msg.op <;> simp [hop] at hk
        rfl
      simp only [hubMachine, exec, World.lift, dispatch_step, hop, List.mem_cons, List.not_mem_nil,
        or_false, queue_remove.injEq, reduceCtorEq] at hs
      subst hs
      exact ⟨_, _, _, _, _, hm, hop⟩
    | _ => simp at hk

/-- Strikes are what the charging steps insert. -/
lemma exec_strikes {srv : Server} {t s o} {pre : HubSnapshot} {x}
    (h : x ∈ (exec srv s o pre.world).1.strikes) :
    x ∈ pre.world.strikes ∨ charged (.ran t s o pre) = some x.player_id := by
  have inserted : ∀ {account kind game},
      x ∈ (record_strike_step o pre.world account kind game).strikes →
      x ∈ pre.world.strikes ∨ some account = some x.player_id := by
    intro account kind game hx
    unfold record_strike_step at hx
    split at hx
    · rcases List.mem_append.mp hx with hx | hx
      · exact .inl hx
      · cases List.mem_singleton.mp hx
        exact .inr rfl
    · exact .inl hx
  have same : (exec srv s o pre.world).1.strikes = pre.world.strikes →
      x ∈ pre.world.strikes ∨ charged (.ran t s o pre) = some x.player_id :=
    fun e => .inl (e ▸ h)
  cases s with
  | settle_declined | record_strike => exact inserted h
  | send_to | welcome =>
    apply same
    simp only [exec, welcome_step, World.send]
    repeat' split
    all_goals rfl
  | start_failed | queue_account | queue_cooldown | queue_waiting | queue_ticket | queue_remove
  | queue_answer | requeue_if_here | form_match | form_match_room =>
    apply same
    simp only [exec, start_failed_step, queue_account_step, queue_cooldown_step,
      queue_waiting_step, queue_ticket_step, queue_remove_step, queue_answer_step,
      requeue_if_here_step, form_match_step, form_match_room_step]
    repeat' split
    all_goals rfl
  | queue_pools t keys rows =>
    apply same
    cases keys <;> rfl
  | _ => exact same rfl

lemma HubRun.strikes_charged {srv c tr} (r : HubRun srv c tr) :
    ∀ s ∈ c.world.strikes, ∃ l ∈ tr, charged l = some s.player_id := by
  induction r with
  | start =>
    intro s hs
    cases hs
  | @step c tr l c' r st ih =>
    intro s hs
    have old : s ∈ c.world.strikes → ∃ l' ∈ l :: tr, charged l' = some s.player_id := by
      intro hs
      obtain ⟨l', hl', h⟩ := ih s hs
      exact ⟨l', List.mem_cons_of_mem _ hl', h⟩
    cases st with
    | run _ _ =>
      rcases exec_strikes hs with hs | h
      · exact old hs
      · exact ⟨_, List.mem_cons_self, h⟩
    | @event e _ _ =>
      apply old
      cases e with
      | ws_ping p =>
        have same : (World.send c.world p .empty).strikes = c.world.strikes := by
          unfold World.send
          split <;> rfl
        exact same ▸ hs
      | _ => exact hs

/-- **Settling offers.** In a run in which no connection lapses an offer against itself that it accepted,
offers come to what they should. -/
theorem offers_settled {srv c tr} (r : HubRun srv c tr) (hg : ∀ l ∈ tr, LapsesApart srv l) :
    OffersSettled srv c tr := by
  have ledger := HubRun.ledger r
  refine ⟨ledger.custody, ledger.unique, ?_, ledger.answers, ?_, ?_, HubRun.strikes_charged r, ?_,
    ?_, ?_⟩
  · intro t o pre _ p hp late
    exact List.mem_filter.mpr ⟨hp, decide_eq_true late⟩
  · intro t p o pre h
    obtain ⟨hp, yes⟩ := HubRun.formed_taken r h
    refine ⟨hp, fun x => ?_⟩
    rw [← ledger.answers p (List.mem_append_right _ hp)]
    simp only [Pending.both_yes, Bool.and_eq_true, decide_eq_true_eq] at yes
    cases x
    · exact yes.2
    · exact yes.1
  · intro t player accept id o pre _ other
    have ignored : pre.world.automatch.answer_for player accept (some id) =
        (pre.world.automatch, none) := by
      cases hoff : pre.world.automatch.offer_of player with
      | none => exact QueueInner.answer_for_none hoff
      | some p =>
        obtain ⟨before, after, first⟩ := QueueInner.offer_of_some hoff
        rw [QueueInner.answer_for_first first, if_pos]
        simpa using (other p hoff).symm
    simp only [exec, queue_answer_step, ignored]
    rfl
  · exact fun t p loser kind o pre h => HubRun.declined_blame r hg h
  · exact fun t account kind game o pre h => HubRun.expired_blame r h
  · exact fun t player o pre h => HubRun.remove_left r h

/-- Alice accepts an offer that Bob lets lapse, and then one against Carol, who accepts it too. -/
def lapsesThenForms (p q r : String) : List Move :=
  let o := draw "1f8a9f0e-7d2b-4b57-8f6f-2f6f2b0c9d01"
  let m1 := draw o.uuid ["m1"]
  let m2 := draw o.uuid ["m2"]
  let m3 := draw o.uuid ["m3"]
  let yes : InMsg := { op := .automatch_accept, accept := some true }
  signIn p alice m1 ++ [say p queueUp] ++ steps (.conn p) 12 m1 ++
    signIn q bob m2 ++ [say q queueUp] ++ steps (.conn q) 12 m2 ++ steps (.conn q) 2 o ++
    [say p yes] ++ steps (.conn p) 4 o ++
    [.event (.pass (15 * NANOS) 15), .event .automatch_tick] ++ steps .automatch 7 m3 ++
    signIn r carol m3 ++ [say r queueUp] ++ steps (.conn r) 12 m3 ++ steps (.conn r) 2 o ++
    [say p yes] ++ steps (.conn p) 4 o ++ [say r yes] ++ steps (.conn r) 5 o

/-- Does the step take out lapsed offers, if any, of two connections each? -/
def lapsesApart (srv : Server) : HubLabel → Bool
  | .ran t take_expired o pre =>
    (taken srv (.ran t take_expired o pre)).all fun p => p.a.player_id ≠ p.b.player_id
  | _ => true

lemma lapsesApart_sound {srv l} (h : lapsesApart srv l) : LapsesApart srv l := by
  cases l with
  | came e pre => trivial
  | ran t s o pre =>
    cases s with
    | take_expired =>
      intro p hp same
      have apart := List.all_eq_true.mp h p hp
      exact absurd same (of_decide_eq_true apart)
    | _ => trivial

theorem offers_settled_formed : ∃ c tr, HubRun sampleServer c tr ∧
    (∃ l ∈ tr, ∃ t o pre, l = .ran t take_expired o pre ∧ taken sampleServer l ≠ []) ∧
    (∃ t p o pre, .ran t (form_match p) o pre ∈ tr) ∧ OffersSettled sampleServer c tr := by
  let p := "6b0f1e52-3c1d-4a86-9a53-0d5f6f1c2a11"
  let q := "c4d1c1a0-5f0e-4a53-8d43-9f4b1f7f3b22"
  let r := "5e2c7f3a-9a41-4c0e-8b64-7a1f0d3c9b33"
  let lapses (l : HubLabel) : Bool := runsKind .take_expired l && !(taken sampleServer l).isEmpty
  have h : ((hubMachine sampleServer).follow (lapsesThenForms p q r)).any fun x =>
      (x.2.any lapses && x.2.any (runsKind .form_match)) && x.2.all (lapsesApart sampleServer) := by
    decide +kernel
  obtain ⟨c, tr, r, ht, -⟩ := Machine.follow_reaches h
  obtain ⟨ht, apart⟩ := (Bool.and_eq_true _ _).mp ht
  obtain ⟨lapsed, formed⟩ := (Bool.and_eq_true _ _).mp ht
  refine ⟨c, tr, r, ?_, ?_, ?_⟩
  · obtain ⟨l, hl, out⟩ := List.any_eq_true.mp lapsed
    obtain ⟨tick, some⟩ := (Bool.and_eq_true _ _).mp out
    obtain ⟨t, s, o, pre, rfl, kind⟩ := runsKind_ran tick
    cases s with
    | take_expired => exact ⟨_, hl, t, o, pre, rfl, by simpa using some⟩
    | _ => cases kind
  · obtain ⟨l, hl, hf⟩ := List.any_eq_true.mp formed
    obtain ⟨t, s, o, pre, rfl, kind⟩ := runsKind_ran hf
    cases s with
    | form_match p => exact ⟨t, p, o, pre, hl⟩
    | _ => cases kind
  · exact offers_settled r fun l hl => lapsesApart_sound (List.all_eq_true.mp apart l hl)

/-- A connection queues under one account, signs in with another and queues again. -/
def twoHellos : List Move :=
  let p := "6b0f1e52-3c1d-4a86-9a53-0d5f6f1c2a11"
  let o := draw "1f8a9f0e-7d2b-4b57-8f6f-2f6f2b0c9d01" ["m1"]
  let o' := draw "1f8a9f0e-7d2b-4b57-8f6f-2f6f2b0c9d01" ["m2"]
  signIn p alice o ++ [say p queueUp] ++ steps (.conn p) 12 o ++
    [say p { op := .hello, session := some "other token" }] ++
    steps (.conn p) 5 { o' with session := .player bob } ++ [say p queueUp] ++
    steps (.conn p) 12 o' ++
    steps (.conn p) 2 (draw "1f8a9f0e-7d2b-4b57-8f6f-2f6f2b0c9d01")

/-- A connection accepts an offer that it was made against itself, and lets it lapse. -/
def lapsesAlone : List Move :=
  let p := "6b0f1e52-3c1d-4a86-9a53-0d5f6f1c2a11"
  let o := draw "1f8a9f0e-7d2b-4b57-8f6f-2f6f2b0c9d01"
  twoHellos ++ [say p { op := .automatch_accept, accept := some true }] ++ steps (.conn p) 4 o ++
    [.event (.pass (15 * NANOS) 15), .event .automatch_tick] ++ steps .automatch 2 o

/-- Does the step settle an offer against a side that accepted it? -/
def chargesAccepter : HubLabel → Bool
  | .ran _ (settle_declined p loser _) _ _ =>
    p.a_accept = some true && (p.loserFirst loser).1 = p.a && p.a != p.b
  | _ => false

/-- Does the step take a connection out of the queue? -/
def removes : HubLabel → Bool
  | .ran _ (queue_remove _) _ _ => true
  | _ => false

lemma chargesAccepter_some {l : HubLabel} (h : chargesAccepter l) : ∃ t p loser kind o pre,
    l = .ran t (settle_declined p loser kind) o pre ∧ p.a_accept = some true ∧
      (p.loserFirst loser).1 = p.a ∧ p.a ≠ p.b := by
  unfold chargesAccepter at h
  split at h
  · rename_i t p loser kind o pre
    simp only [Bool.and_eq_true, decide_eq_true_eq, bne_iff_ne] at h
    exact ⟨t, p, loser, kind, o, pre, rfl, h.1.1, h.1.2, h.2⟩
  · cases h

/-- The account that accepted an offer is charged for letting it lapse. -/
theorem lapses_alone_charged :
    ¬ ∀ c tr, HubRun sampleServer c tr → OffersSettled sampleServer c tr := by
  intro all
  let test : HubSnapshot × List HubLabel → Bool := fun x =>
    x.2.any chargesAccepter && x.2.all (!removes ·)
  have h : ((hubMachine sampleServer).follow lapsesAlone).any test := by decide +kernel
  obtain ⟨c, tr, r, ht, -⟩ := Machine.follow_reaches h
  obtain ⟨hsome, hnone⟩ := (Bool.and_eq_true _ _).mp ht
  obtain ⟨l, hl, hp⟩ := List.any_eq_true.mp hsome
  obtain ⟨t, p, loser, kind, o, pre, rfl, yes, first, differ⟩ := chargesAccepter_some hp
  obtain ⟨x, side, l', hl', -, blame⟩ := (all c tr r).declined t p loser kind o pre hl
  have hx : x = true := by
    cases x
    · exact absurd (first.symm.trans side) differ
    · rfl
  subst hx
  split at blame
  · exact absurd (yes.symm.trans blame) (by decide)
  · simpa [removes] using List.all_eq_true.mp hnone _ hl'
  · exact blame yes
  · exact blame

end RecompNet
