import RecompNet.Hub.ChatRing
import RecompNet.Hub.Origin

/-!
# The order of a room's lines

A line is numbered under the hub lock and delivered afterwards, to one member at a time, so two lines of
one room can overtake each other on the way. The members hear them in one order when a line is put on a
member's channel only after every earlier line of the room that is on its way to that member.
-/

namespace RecompNet

open Section Interleave

/-- The lines of a room that a connection has been sent, in order. -/
def linesTo (w : World) (q lid : String) : List ChatFrame :=
  w.sent.filterMap fun f =>
    match f with
    | (q', .chat lid' line) => if q' = q ∧ lid' = lid then some line else none
    | _ => none

/-- Two lines of a room that two connections have both been sent came to them in the same order. -/
def SameOrder (w : World) : Prop :=
  ∀ lid q q' a b, [a, b].Sublist (linesTo w q lid) → [b, a].Sublist (linesTo w q' lid) → a = b

/-- A line is put on a channel before no earlier line of its room that is under way to it. -/
def InTurn : HubLabel → Prop
  | .ran _ (send_to q (.chat lid b)) _ pre =>
    ∀ t a, send_to q (.chat lid a) ∈ pre.pending t → lineNo b.mid ≤ lineNo a.mid
  | _ => True

/-- The frame is on a channel or on its way to one. -/
def Underway (c : HubSnapshot) (m : OutMsg) : Prop :=
  (∃ t q, send_to q m ∈ c.pending t) ∨ ∃ q, (q, m) ∈ c.world.sent

/-- Lines are numbered below the counter, and a number is one line's. -/
structure Numbered (c : HubSnapshot) : Prop where
  below : ∀ m a, Underway c m → m.line = some a → lineNo a.mid < c.world.hub.next_chat_id
  unique : ∀ m a m' a', Underway c m → Underway c m' → m.line = some a → m'.line = some a' →
    lineNo a.mid = lineNo a'.mid → m = m'

/-- A line under way was under way before the step, or the step started to relay it. -/
lemma underway_step {srv c tr l c' m a} (r : HubRun srv c tr) (st : Step (hubMachine srv) c l c')
    (h : Underway c' m) (hm : m.line = some a) :
    Underway c m ∨ ∃ t s o q, l = .ran t s o c ∧ send_to q m ∈ (exec srv s o c.world).2 := by
  rcases h with ⟨t, q, h⟩ | ⟨q, h⟩
  · cases st with
    | @run t' s rest o e _ =>
      by_cases ht : t = t'
      · subst ht
        simp only [Machine.afterRun, Function.update_self, List.mem_append] at h
        rcases h with h | h
        · exact .inr ⟨t, s, o, q, rfl, h⟩
        · exact .inl (.inl ⟨t, q, e ▸ List.mem_cons_of_mem _ h⟩)
      · simp only [Machine.afterRun, Function.update_of_ne ht] at h
        exact .inl (.inl ⟨t, q, h⟩)
    | @event e _ _ =>
      by_cases ht : t = (hubMachine srv).task e
      · subst ht
        simp only [Machine.afterEvent, Function.update_self] at h
        exact absurd rfl (body_not_inner _ h)
      · simp only [Machine.afterEvent, Function.update_of_ne ht] at h
        exact .inl (.inl ⟨t, q, h⟩)
  · obtain ⟨l', hl', hf⟩ := (HubRun.mem_sent (r.step st)).mp h
    rcases List.mem_cons.mp hl' with rfl | hl'
    · rcases (mem_frames hf).2 with ⟨t, o, pre, rfl⟩ | ⟨t, o, pre, rfl, hb⟩ | rfl | ⟨rfl, -⟩
      · cases st with
        | run e _ => exact .inl (.inl ⟨t, q, e ▸ List.mem_cons_self⟩)
      · obtain ⟨id, -, e⟩ := List.mem_map.mp hb
        cases e
        cases hm
      · cases hm
      · cases hm
    · exact .inl (.inr ⟨q, (HubRun.mem_sent r).mpr ⟨l', hl', hf⟩⟩)

/-- The frames of a line that a step relays are one frame, numbered by the counter, which moves on. -/
lemma started_numbered {srv s o w q m a} (h : send_to q m ∈ (exec srv s o w).2) (hm : m.line = some a) :
    lineNo a.mid = w.hub.next_chat_id ∧ w.hub.next_chat_id < (exec srv s o w).1.hub.next_chat_id ∧
      ∀ q' m' a', send_to q' m' ∈ (exec srv s o w).2 → m'.line = some a' → m' = m := by
  obtain ⟨p, ip, msg, -, -, hr⟩ := line_started h hm
  generalize (exec srv s o w).1.hub = g' at hr ⊢
  generalize (exec srv s o w).2 = ss at h hr ⊢
  cases hr with
  | nothing _ silent =>
    rw [silent q m h] at hm
    cases hm
  | @line g0 _ _ _ _ _ _ targets frame same _ kind =>
    have no : g0.next_chat_id = w.hub.next_chat_id := congrArg Prod.snd same
    obtain ⟨q0, -, e⟩ := List.mem_map.mp h
    obtain ⟨-, rfl⟩ := send_to.inj e
    refine ⟨?_, ?_, ?_⟩
    · rcases kind with ⟨rfl, -⟩ | ⟨country, rfl⟩ <;> cases hm
      · exact (lineNo_chatId _).trans no
      · exact (lineNo_chatId _).trans no
    · show _ < g0.next_chat_id + 1
      omega
    · intro q' m' a' h' _
      obtain ⟨q1, -, e⟩ := List.mem_map.mp h'
      exact (send_to.inj e).2.symm

/-- The counter does not go back. -/
lemma next_chat_step {srv c l c'} (st : Step (hubMachine srv) c l c') :
    c.world.hub.next_chat_id ≤ c'.world.hub.next_chat_id := by
  cases st with
  | run _ _ => exact exec_next_chat
  | event _ _ => exact (congrArg Prod.snd apply_chat).ge

/-- Every run numbers its lines. -/
theorem HubRun.numbered {srv c tr} (r : HubRun srv c tr) : Numbered c := by
  apply r.induct (I := fun c _ => Numbered c)
  · constructor
    · rintro m a (⟨t, q, h⟩ | ⟨q, h⟩) _ <;> cases h
    · rintro m a m' a' (⟨t, q, h⟩ | ⟨q, h⟩) _ _ _ _ <;> cases h
  · intro c tr l c' r ih st
    have fresh : ∀ t s o q m a, l = .ran t s o c → send_to q m ∈ (exec srv s o c.world).2 →
        m.line = some a → lineNo a.mid = c.world.hub.next_chat_id ∧
          c.world.hub.next_chat_id < c'.world.hub.next_chat_id := by
      rintro t s o q m a rfl h hm
      cases st with
      | run _ _ => exact ⟨(started_numbered h hm).1, (started_numbered h hm).2.1⟩
    constructor
    · intro m a h hm
      rcases underway_step r st h hm with h | ⟨t, s, o, q, e, h⟩
      · exact (ih.below m a h hm).trans_le (next_chat_step st)
      · obtain ⟨no, more⟩ := fresh t s o q m a e h hm
        exact no.trans_lt more
    · intro m a m' a' h h' hm hm' same
      rcases underway_step r st h hm with h | ⟨t, s, o, q, e, h⟩ <;>
        rcases underway_step r st h' hm' with h' | ⟨t', s', o', q', e', h'⟩
      · exact ih.unique m a m' a' h h' hm hm' same
      · have := ih.below m a h hm
        have := (fresh t' s' o' q' m' a' e' h' hm').1
        omega
      · have := ih.below m' a' h' hm'
        have := (fresh t s o q m a e h hm).1
        omega
      · cases e.symm.trans e'
        exact (started_numbered h' hm').2.2 q m a h hm

/-! ## In turn -/

/-- A connection has been sent the lines of a room in the order of their numbers, and what is under way to
it comes later. -/
structure InOrder (c : HubSnapshot) (q lid : String) : Prop where
  sorted : (linesTo c.world q lid).Pairwise fun a b => lineNo a.mid ≤ lineNo b.mid
  later : ∀ t b, send_to q (.chat lid b) ∈ c.pending t →
    ∀ a ∈ linesTo c.world q lid, lineNo a.mid ≤ lineNo b.mid

lemma mem_linesTo {w : World} {q lid : String} {a} :
    a ∈ linesTo w q lid ↔ (q, .chat lid a) ∈ w.sent := by
  unfold linesTo
  rw [List.mem_filterMap]
  constructor
  · rintro ⟨f, hf, e⟩
    split at e
    · split_ifs at e with same
      obtain ⟨rfl, rfl⟩ := same
      cases e
      exact hf
    · cases e
  · intro h
    exact ⟨_, h, by simp⟩

/-- What a step adds to the lines of a room that a connection has been sent. -/
lemma linesTo_step {srv c l c'} (st : Step (hubMachine srv) c l c') (q lid : String) :
    linesTo c'.world q lid = linesTo c.world q lid ∨
      ∃ t o b, l = .ran t (send_to q (.chat lid b)) o c ∧
        linesTo c'.world q lid = linesTo c.world q lid ++ [b] := by
  have grows : c'.world.sent = c.world.sent ++ frames srv l := by
    cases st with
    | run _ _ => exact exec_sent
    | event _ _ => exact apply_sent
  have split : linesTo c'.world q lid =
      linesTo c.world q lid ++ linesTo { c.world with sent := frames srv l } q lid := by
    unfold linesTo
    rw [grows, List.filterMap_append]
  rw [split]
  cases hnew : linesTo { c.world with sent := frames srv l } q lid with
  | nil => exact .inl (List.append_nil _)
  | cons b bs =>
    right
    have hb : (q, .chat lid b) ∈ frames srv l :=
      mem_linesTo.mp (hnew ▸ List.mem_cons_self)
    obtain ⟨hc, ⟨t, o, pre, rfl⟩ | ⟨t, o, pre, rfl, hb⟩ | hw | ⟨he, -⟩⟩ := mem_frames hb
    · obtain rfl : pre = c := st.label_pre
      refine ⟨t, o, b, rfl, ?_⟩
      have one : frames srv (.ran t (send_to q (.chat lid b)) o pre) = [(q, .chat lid b)] := if_pos hc
      rw [one] at hnew
      rw [← hnew]
      simp [linesTo]
    · obtain ⟨id, -, e⟩ := List.mem_map.mp hb
      cases e
    · cases hw
    · cases he

/-- One step keeps a connection's lines in order. -/
lemma InOrder.step {srv c tr l c' q lid} (r : HubRun srv c tr) (h : InOrder c q lid)
    (turn : InTurn l) (st : Step (hubMachine srv) c l c') : InOrder c' q lid := by
  have numbered := HubRun.numbered r
  -- What is under way after the step was so before, or is younger than everything.
  have old : ∀ t b, send_to q (.chat lid b) ∈ c'.pending t →
      (∃ t', send_to q (.chat lid b) ∈ c.pending t') ∨
        ∀ a ∈ linesTo c'.world q lid, lineNo a.mid ≤ lineNo b.mid := by
    intro t b hb
    cases st with
    | @run t' s rest o e _ =>
      by_cases ht : t = t'
      · subst ht
        simp only [Machine.afterRun, Function.update_self, List.mem_append] at hb
        rcases hb with hb | hb
        · right
          intro a ha
          obtain ⟨no, -⟩ := started_numbered hb rfl
          rcases linesTo_step (.run e ‹_›) q lid with same | ⟨t1, o1, b1, e1, -⟩
          · have below := numbered.below _ a (.inr ⟨q, mem_linesTo.mp (same ▸ ha)⟩) rfl
            omega
          · cases e1
            cases hb
        · exact .inl ⟨t, e ▸ List.mem_cons_of_mem _ hb⟩
      · simp only [Machine.afterRun, Function.update_of_ne ht] at hb
        exact .inl ⟨t, hb⟩
    | @event e _ _ =>
      by_cases ht : t = (hubMachine srv).task e
      · subst ht
        simp only [Machine.afterEvent, Function.update_self] at hb
        exact absurd rfl (body_not_inner _ hb)
      · simp only [Machine.afterEvent, Function.update_of_ne ht] at hb
        exact .inl ⟨t, hb⟩
  rcases linesTo_step st q lid with same | ⟨t, o, b, rfl, grown⟩
  · constructor
    · rw [same]
      exact h.sorted
    · intro t b hb
      rcases old t b hb with ⟨t', hb⟩ | young
      · rw [same]
        exact h.later t' b hb
      · exact young
  · have here : send_to q (.chat lid b) ∈ c.pending t := by
      cases st with
      | run e _ => exact e ▸ List.mem_cons_self
    constructor
    · rw [grown, List.pairwise_append]
      refine ⟨h.sorted, List.pairwise_singleton _ _, fun a ha b' hb' => ?_⟩
      rw [List.mem_singleton.mp hb']
      exact h.later t b here a ha
    · intro t1 b1 hb1
      rcases old t1 b1 hb1 with ⟨t', hb1⟩ | young
      · intro a ha
        rw [grown, List.mem_append, List.mem_singleton] at ha
        rcases ha with ha | rfl
        · exact h.later t' b1 hb1 a ha
        · exact turn t' b1 hb1
      · exact young

/-- In a run in which every line is put on a channel in its turn, any two lines of a room that two
connections both receive come to them in the same order. -/
theorem lines_in_order {srv c tr} (r : HubRun srv c tr) (turns : ∀ l ∈ tr, InTurn l) :
    SameOrder c.world := by
  have sorted : ∀ q lid, InOrder c q lid := by
    refine r.invariant (P := InTurn) (I := fun c _ => ∀ q lid, InOrder c q lid) ?_ ?_ turns
    · intro q lid
      constructor
      · exact List.Pairwise.nil
      · intro t b hb
        cases hb
    · exact fun r ih turn st q lid => (ih q lid).step r turn st
  intro lid q q' a b hab hba
  have le := List.rel_of_pairwise_cons ((sorted q lid).sorted.sublist hab) (List.mem_singleton_self b)
  have ge := List.rel_of_pairwise_cons ((sorted q' lid).sorted.sublist hba) (List.mem_singleton_self a)
  have ua : Underway c (.chat lid a) :=
    .inr ⟨q, mem_linesTo.mp (hab.subset List.mem_cons_self)⟩
  have ub : Underway c (.chat lid b) :=
    .inr ⟨q', mem_linesTo.mp (hba.subset List.mem_cons_self)⟩
  have same := (HubRun.numbered r).unique _ a _ b ua ub rfl rfl (le_antisymm le ge)
  exact (OutMsg.chat.inj same).2

/-! ## Two lines at once -/

/-- Alice hosts a room, Bob joins it, and both send a line. -/
def bothChat (p q : String) : List Move :=
  let room := "1f8a9f0e-7d2b-4b57-8f6f-2f6f2b0c9d01"
  let o := draw "9b1deb4d-3b7d-4bad-9bdd-2b0d7b3dcb6d"
  [.event (.connect p "203.0.113.7")] ++ steps (.conn p) 1 o ++
    [.event (.connect q "198.51.100.4")] ++ steps (.conn q) 1 o ++
    [say p { op := .create }] ++ steps (.conn p) 3 (draw room) ++ steps (.conn p) 2 o ++
    [say q { op := .join, lobby_id := some room }] ++ steps (.conn q) 13 o ++
    [say p { op := .chat, text := some "ready?" }] ++ steps (.conn p) 2 o ++
    [say q { op := .chat, text := some "one moment" }] ++ steps (.conn q) 2 o

/-- A line is put on the channel of its sender, then the other line on both. -/
def overtakes (p q : String) : List Move :=
  let o := draw "9b1deb4d-3b7d-4bad-9bdd-2b0d7b3dcb6d"
  bothChat p q ++ steps (.conn p) 1 o ++ steps (.conn q) 2 o ++ steps (.conn p) 1 o

/-- The two members hear the two lines in opposite orders. -/
theorem overtakes_order : ¬ ∀ c tr, HubRun sampleServer c tr → SameOrder c.world := by
  intro all
  let p := "6b0f1e52-3c1d-4a86-9a53-0d5f6f1c2a11"
  let q := "c4d1c1a0-5f0e-4a53-8d43-9f4b1f7f3b22"
  let room := "1f8a9f0e-7d2b-4b57-8f6f-2f6f2b0c9d01"
  let test : HubSnapshot × List HubLabel → Bool := fun x =>
    linesTo x.1.world q room = (linesTo x.1.world p room).reverse &&
      (linesTo x.1.world p room).map (·.text) = ["ready?", "one moment"]
  have h : ((hubMachine sampleServer).follow (overtakes p q)).any test := by decide +kernel
  obtain ⟨c, tr, r, ht, -⟩ := Machine.follow_reaches h
  obtain ⟨back, texts⟩ := (Bool.and_eq_true _ _).mp ht
  have texts := of_decide_eq_true texts
  have back := of_decide_eq_true back
  obtain ⟨a, rest, hp, ha, hrest⟩ := List.map_eq_cons_iff.mp texts
  obtain ⟨b, rest, rfl, hb, hrest⟩ := List.map_eq_cons_iff.mp hrest
  obtain rfl := List.map_eq_nil_iff.mp hrest
  rw [hp] at back
  have same := all c tr r room p q a b (hp ▸ .refl _) (back ▸ .refl _)
  rw [same, hb] at ha
  exact absurd ha (by decide)

/-- Does the step put a line on a channel before no earlier one that these tasks still have to put there? -/
def inTurn (ts : List Tid) : HubLabel → Bool
  | .ran _ (send_to q (.chat lid b)) _ pre =>
    ts.all fun t => (pre.pending t).all fun s =>
      match s with
      | send_to q' (.chat lid' a) => q' ≠ q || lid' ≠ lid || lineNo b.mid ≤ lineNo a.mid
      | _ => true
  | _ => true

lemma inTurn_all {ts : List Tid} {l : HubLabel} (h : inTurn ts l)
    (idle : ∀ t ∉ ts, l.pre.pending t = []) : InTurn l := by
  unfold inTurn at h
  split at h
  · rename_i t q lid b o pre
    intro t' a ha
    have ht : t' ∈ ts := by
      by_contra ht
      have none := idle t' ht
      exact absurd (none ▸ ha) (List.not_mem_nil)
    simpa using List.all_eq_true.mp (List.all_eq_true.mp h t' ht) _ ha
  · rename_i l other
    unfold InTurn
    split
    · exact absurd rfl (other _ _ _ _ _ _)
    · trivial

/-- One delivery after the other, the two lines come to both members in one order. -/
theorem lines_in_order_both : ∃ c tr, HubRun sampleServer c tr ∧
    (∃ q lid, 1 < (linesTo c.world q lid).length) ∧ SameOrder c.world := by
  let p := "6b0f1e52-3c1d-4a86-9a53-0d5f6f1c2a11"
  let q := "c4d1c1a0-5f0e-4a53-8d43-9f4b1f7f3b22"
  let room := "1f8a9f0e-7d2b-4b57-8f6f-2f6f2b0c9d01"
  let o := draw "9b1deb4d-3b7d-4bad-9bdd-2b0d7b3dcb6d"
  let ts : List Tid := [.conn p, .conn q]
  let ms := bothChat p q ++ steps (.conn p) 2 o ++ steps (.conn q) 2 o
  have movers : ∀ m ∈ ms, (hubMachine sampleServer).mover m ∈ ts := by decide
  have h : ((hubMachine sampleServer).follow ms).any fun x =>
      decide (1 < (linesTo x.1.world q room).length) && x.2.all (inTurn ts) := by decide +kernel
  obtain ⟨c, tr, r, ht, idle⟩ := Machine.follow_idle (f := fun x => _ && x.2.all _) movers h
  obtain ⟨two, turns⟩ := (Bool.and_eq_true _ _).mp ht
  refine ⟨c, tr, r, ⟨q, room, of_decide_eq_true two⟩, lines_in_order r fun l hl => ?_⟩
  exact inTurn_all (List.all_eq_true.mp turns l hl) (idle _ (pre_visited hl))

end RecompNet
