import RecompNet.Hub.Origin
import RecompNet.Hub.Passes

/-!
# A peer that left

What `form_match` does when one of the two players of an accepted offer has dropped. It takes the hub lock
again to see which one, reads the answer the wrong way round and goes on with the ticket of the player that
is gone; a connection that is gone does not come back, so nobody is requeued and nobody is told.
-/

namespace RecompNet

open Section Interleave

/-- The step that `form_match_room` takes when one of the two is missing. -/
lemma form_match_room_gone {srv : Server} {o : Answer} {w : World} {plan : MatchPlan}
    (room : w.hub.lobbies.size < MAX_LOBBIES)
    (gone : ¬ (w.hub.connected plan.p.a.player_id ∧ w.hub.connected plan.p.b.player_id)) :
    exec srv (form_match_room plan) o w = (w, [form_match_gone plan.p]) := by
  have missing : (!w.hub.connected plan.p.a.player_id) ∨ !w.hub.connected plan.p.b.player_id := by
    rcases not_and_or.mp gone with h | h <;> simp [h]
  simp only [exec, form_match_room_step, if_neg (not_le.mpr room), if_pos missing]

/-- Only the missing of one of the two leads there. -/
lemma gone_of_form_match_room {srv : Server} {o : Answer} {w : World} {plan : MatchPlan} {p}
    (h : form_match_gone p ∈ (exec srv (form_match_room plan) o w).2) :
    p = plan.p ∧ (exec srv (form_match_room plan) o w).1 = w ∧
      ¬ (w.hub.connected p.a.player_id ∧ w.hub.connected p.b.player_id) := by
  simp only [exec, form_match_room_step] at h ⊢
  split at h
  · simp at h
  · rename_i room
    split at h
    · rename_i missing
      rw [if_neg room, if_pos missing]
      obtain rfl : p = plan.p := by simpa using h
      exact ⟨rfl, rfl, fun both => by simp [both.1, both.2] at missing⟩
    · simp at h

/-- The ticket that `form_match_gone` goes on with is that of a player that is gone. -/
lemma form_match_gone_absent (srv : Server) (o : Answer) {w : World} {p : Pending}
    (gone : ¬ (w.hub.connected p.a.player_id ∧ w.hub.connected p.b.player_id)) :
    ∃ t ∈ p.sides, ¬ w.hub.connected t.player_id ∧
      exec srv (form_match_gone p) o w = (w, [requeue_if_here t .peer_left]) := by
  simp only [exec, form_match_gone_step]
  by_cases ha : w.hub.connected p.a.player_id
  · refine ⟨p.b, by simp [Pending.sides], fun hb => gone ⟨ha, hb⟩, ?_⟩
    simp [ha]
  · by_cases same : p.b.player_id = p.a.player_id
    · refine ⟨p.b, by simp [Pending.sides], same ▸ ha, ?_⟩
      simp [ha, same]
    · refine ⟨p.a, by simp [Pending.sides], ha, ?_⟩
      simp [ha, same]

/-- Nobody is requeued who is not there. -/
lemma requeue_if_here_absent {srv : Server} {o : Answer} {w : World} {t : Ticket} {reason}
    (gone : ¬ w.hub.connected t.player_id) : exec srv (requeue_if_here t reason) o w = (w, []) := by
  simp only [exec, requeue_if_here_step, if_neg gone]

/-! ## Gone stays gone -/

/-- A known id that no connection has gets none by a section, and none by an event. -/
lemma gone_exec {srv : Server} {s : Section} {o : Answer} {w : World} {q : String} (hb : w.Basic)
    (h : ¬ w.hub.connected q) : ¬ (exec srv s o w).1.hub.connected q := by
  intro hc
  obtain ⟨c', hc'⟩ := connected_iff.mp hc
  obtain ⟨c, hold, -⟩ := (exec_change srv s o hb.sized).client_back hc'
  exact h (connected_iff.mpr ⟨c, hold⟩)

lemma gone_apply {srv : Server} {e : Event} {w : World} {q : String} (he : e.enabled w)
    (known : Known srv w q) (h : ¬ w.hub.connected q) : ¬ (e.apply srv w).hub.connected q := by
  intro hc
  obtain ⟨c', hc'⟩ := connected_iff.mp hc
  rcases apply_client_back hc' with hold | ⟨ip, rfl, -⟩
  · exact h (connected_iff.mpr ⟨c', hold⟩)
  · exact known.1.elim he.1 he.2

/-- What the sections of the unwinding promise: the players they are about are gone. -/
def Section.unwinds (w : World) : Section → Prop
  | form_match_gone p => ¬ (w.hub.connected p.a.player_id ∧ w.hub.connected p.b.player_id)
  | requeue_if_here t .peer_left => ¬ w.hub.connected t.player_id
  | send_to _ (.automatch_requeue .peer_left _) => False
  | _ => True

/-- The promise outlasts any step that leaves the gone gone. -/
lemma Section.unwinds.mono {srv : Server} {w w' : World} {s : Section} (h : s.unwinds w)
    (hk : s.known False srv w)
    (stays : ∀ q, Known srv w q → ¬ w.hub.connected q → ¬ w'.hub.connected q) : s.unwinds w' := by
  cases s with
  | form_match_gone p =>
    rintro ⟨ha, hb⟩
    rcases not_and_or.mp h with h | h
    · exact stays _ hk.1 h ha
    · exact stays _ hk.2 h hb
  | requeue_if_here t reason =>
    cases reason with
    | peer_left => exact stays _ hk h
    | _ => trivial
  | send_to q m =>
    cases m with
    | automatch_requeue reason b =>
      cases reason with
      | peer_left => exact h
      | _ => trivial
    | _ => trivial
  | _ => trivial

/-- A plain section promises nothing. -/
lemma Section.plain_unwinds {w : World} {s : Section} (h : s.plain) : s.unwinds w := by
  cases s with
  | form_match_gone p => cases h
  | requeue_if_here t reason =>
    cases reason with
    | peer_left => cases h
    | _ => trivial
  | send_to q m =>
    cases m with
    | automatch_requeue reason b =>
      cases reason with
      | peer_left => cases h
      | _ => trivial
    | _ => trivial
  | _ => trivial

/-- A section passes the promise on. -/
lemma exec_unwinds {srv : Server} {s : Section} {o : Answer} {w : World} (h : s.unwinds w) :
    ∀ s' ∈ (exec srv s o w).2, s'.unwinds (exec srv s o w).1 := by
  intro s' hs'
  cases exec_emits s' hs' with
  | plain hp => exact Section.plain_unwinds hp
  | gone =>
    obtain ⟨-, same, gone⟩ := gone_of_form_match_room hs'
    rw [same]
    exact gone
  | survivor =>
    rename_i p t
    obtain ⟨t', -, gone, e⟩ := form_match_gone_absent srv o h
    rw [e] at hs' ⊢
    cases List.mem_singleton.mp hs'
    exact gone
  | requeue =>
    rename_i t reason
    cases reason with
    | peer_left =>
      rw [requeue_if_here_absent h] at hs'
      cases hs'
    | _ => trivial
  | _ => trivial

/-- In every run, whoever the unwinding is about is gone. -/
lemma HubRun.unwinds {srv c tr} (r : HubRun srv c tr) : Holds (fun w _ s => s.unwinds w) c := by
  apply r.induct (I := fun c _ => Holds (fun w _ s => s.unwinds w) c)
  · exact Holds.start _
  · intro c tr l c' r ih st
    have hb := HubRun.basic r
    have known : Holds (fun w _ s => s.known False srv w) c :=
      (HubRun.all_known r).2
    cases st with
    | @run t s rest o e _ =>
      apply Holds.run ih e
      · exact fun t' s' hs' h => h.mono (known t' s' hs') fun q _ hq => gone_exec hb hq
      · exact exec_unwinds (ih t s (e ▸ List.mem_cons_self))
    | @event e _ he =>
      apply Holds.event ih
      · exact fun t' s' hs' h => h.mono (known t' s' hs') fun q hk hq => gone_apply he hk hq
      · intro s hs
        cases e <;> simp only [hubMachine, Event.body, List.mem_cons, List.mem_map,
          List.not_mem_nil, or_false] at hs
        case connect | text | list_tick => exact hs ▸ trivial
        case disconnect | automatch_tick => rcases hs with rfl | rfl | rfl <;> trivial
        case wake =>
          obtain ⟨task, -, rfl⟩ := hs
          trivial

/-- What a section that was run had promised. -/
lemma HubRun.ran_unwinds {srv c tr} (r : HubRun srv c tr) {t s o pre}
    (h : .ran t s o pre ∈ tr) : s.unwinds pre.world := by
  obtain ⟨rest, earlier, r', -, e⟩ := Run.ran_pending r h
  exact HubRun.unwinds r' t s (e ▸ List.mem_cons_self)

/-- Nobody is ever told that its peer left. -/
lemma peer_left_not_sent {srv c tr} (r : HubRun srv c tr) (q : String) (b : Bool) :
    (q, .automatch_requeue .peer_left b) ∉ c.world.sent := by
  intro hm
  obtain ⟨l, hl, hf⟩ := (HubRun.mem_sent r).mp hm
  rcases (mem_frames hf).2 with ⟨t, o, pre, rfl⟩ | ⟨t, o, pre, rfl, hb⟩ | hw | ⟨he, -⟩
  · exact HubRun.ran_unwinds r hl
  · obtain ⟨id, -, e⟩ := List.mem_map.mp hb
    cases e
  · cases hw
  · cases he

/-- The player that is left after `form_match` found the other one gone in `pre`: put back into the queue,
and told so. -/
def Unwound (c : HubSnapshot) (tr : List HubLabel) (plan : MatchPlan) (pre : HubSnapshot) : Prop :=
  ∃ t ∈ plan.p.sides, pre.world.hub.connected t.player_id ∧
    (∃ task o later, .ran task (requeue_front t) o later ∈ tr) ∧
    (t.player_id, .automatch_requeue .peer_left true) ∈ c.world.sent

/-- When `form_match` finds exactly one of the two gone, the other one is never put back and told. The
sections that follow go on with the ticket of a player that is gone, and end there. -/
theorem peer_left_never {srv c tr} (r : HubRun srv c tr) {t plan o pre}
    (_ : .ran t (form_match_room plan) o pre ∈ tr)
    (room : pre.world.hub.lobbies.size < MAX_LOBBIES)
    (one : pre.world.hub.connected plan.p.a.player_id ≠
      pre.world.hub.connected plan.p.b.player_id) :
    ¬ Unwound c tr plan pre ∧
      exec srv (form_match_room plan) o pre.world = (pre.world, [form_match_gone plan.p]) ∧
      (∀ t' o' pre', .ran t' (form_match_gone plan.p) o' pre' ∈ tr →
        ∃ s ∈ plan.p.sides, ¬ pre'.world.hub.connected s.player_id ∧
          exec srv (form_match_gone plan.p) o' pre'.world =
            (pre'.world, [requeue_if_here s .peer_left])) ∧
      ∀ t' s o' pre', .ran t' (requeue_if_here s .peer_left) o' pre' ∈ tr →
        exec srv (requeue_if_here s .peer_left) o' pre'.world = (pre'.world, []) := by
  refine ⟨?_, ?_, ?_, ?_⟩
  · rintro ⟨t, -, -, -, told⟩
    exact peer_left_not_sent r _ _ told
  · apply form_match_room_gone room
    rintro ⟨ha, hb⟩
    exact one (ha.trans hb.symm)
  · intro t' o' pre' h'
    exact form_match_gone_absent srv o' (HubRun.ran_unwinds r h')
  · intro t' s o' pre' h'
    exact requeue_if_here_absent (HubRun.ran_unwinds r h')

/-- Two players accept an offer, and one of them closes its socket before the room is made. -/
def dropsOut (p q : String) : List Move :=
  let room := "1f8a9f0e-7d2b-4b57-8f6f-2f6f2b0c9d01"
  let yes : InMsg := { op := .automatch_accept, accept := some true }
  signIn p alice (draw room ["m1"]) ++ [say p queueUp] ++ steps (.conn p) 12 (draw room ["m1"]) ++
    signIn q bob (draw room ["m2"]) ++ [say q queueUp] ++ steps (.conn q) 12 (draw room ["m2"]) ++
    steps (.conn q) 2 (draw room) ++ [say p yes] ++ steps (.conn p) 4 (draw room) ++ [say q yes] ++
    steps (.conn q) 5 (draw room) ++ [.event (.disconnect p)] ++ steps (.conn p) 3 (draw room) ++
    steps (.conn q) 3 (draw room)

/-- Does the step find exactly one of two matched players gone? -/
def findsOneGone : HubLabel → Bool
  | .ran _ (form_match_room plan) _ pre =>
    pre.world.hub.lobbies.size < MAX_LOBBIES &&
      pre.world.hub.connected plan.p.a.player_id != pre.world.hub.connected plan.p.b.player_id
  | _ => false

/-- The run of that schedule, to its end. -/
lemma drops_out_run : ∃ c tr t plan o pre, HubRun sampleServer c tr ∧ c.Quiet ∧
    .ran t (form_match_room plan) o pre ∈ tr ∧ pre.world.hub.lobbies.size < MAX_LOBBIES ∧
    pre.world.hub.connected plan.p.a.player_id ≠ pre.world.hub.connected plan.p.b.player_id := by
  let p := "6b0f1e52-3c1d-4a86-9a53-0d5f6f1c2a11"
  let q := "c4d1c1a0-5f0e-4a53-8d43-9f4b1f7f3b22"
  let test : HubSnapshot × List HubLabel → Bool := fun x => x.2.any findsOneGone
  have movers : ∀ m ∈ dropsOut p q, (hubMachine sampleServer).mover m ∈ [.conn p, .conn q] := by
    decide
  have h : ((hubMachine sampleServer).follow (dropsOut p q)).any fun x =>
      test x && [.conn p, .conn q].all fun t => (x.1.pending t).isEmpty := by decide +kernel
  obtain ⟨c, tr, r, ht, quiet⟩ := Machine.follow_quiet (f := test) _ movers h
  obtain ⟨l, hl, hp⟩ := List.any_eq_true.mp ht
  unfold findsOneGone at hp
  split at hp
  · rename_i t plan o pre
    obtain ⟨room, one⟩ := (Bool.and_eq_true _ _).mp hp
    exact ⟨c, tr, t, plan, o, pre, r, quiet, hl, of_decide_eq_true room, bne_iff_ne.mp one⟩
  · cases hp

theorem peer_left_never_drops_out : ∃ c tr t plan o pre, HubRun sampleServer c tr ∧
    .ran t (form_match_room plan) o pre ∈ tr ∧ ¬ Unwound c tr plan pre := by
  obtain ⟨c, tr, t, plan, o, pre, r, -, h, room, one⟩ := drops_out_run
  exact ⟨c, tr, t, plan, o, pre, r, h, (peer_left_never r h room one).1⟩

/-- The player that is left waits for nothing: the run is over, and it was neither put back nor told. -/
theorem drops_out_not_unwound :
    ¬ ∀ c tr, HubRun sampleServer c tr → c.Quiet → ∀ t plan o pre,
      .ran t (form_match_room plan) o pre ∈ tr → pre.world.hub.lobbies.size < MAX_LOBBIES →
      pre.world.hub.connected plan.p.a.player_id ≠ pre.world.hub.connected plan.p.b.player_id →
      Unwound c tr plan pre := by
  intro all
  obtain ⟨c, tr, t, plan, o, pre, r, quiet, h, room, one⟩ := drops_out_run
  obtain ⟨s, -, -, -, told⟩ := all c tr r quiet t plan o pre h room one
  exact peer_left_not_sent r _ _ told

end RecompNet
