import RecompNet.Hub.Emits

/-!
# Where frames come from

The channel of a connection holds what the steps of a run put there, and no more: `HubRun.mem_sent`. Most
frames come from a pending send, which an earlier section of the same task started. The sections that
act for one connection stay in the task of that connection.
-/

namespace RecompNet

open Section Interleave

/-- The frames of a list broadcast. -/
def broadcastFrames (srv : Server) (g : HubInner) : List (String × OutMsg) :=
  let ids := g.clients.keys.filter fun id => !srv.require_login || g.authed id
  ids.map fun id => (id, (scopedList srv.lists g (game_scope_for g id)).frame)

/-- A frame for a connection, when it is registered. -/
def frameTo (g : HubInner) (p : String) (m : OutMsg) : List (String × OutMsg) :=
  if g.connected p then [(p, m)] else []

/-- The frames that a step puts on the channels. -/
def frames (srv : Server) : HubLabel → List (String × OutMsg)
  | .ran _ (send_to p m) _ pre => frameTo pre.world.hub p m
  | .ran _ broadcast_list _ pre => broadcastFrames srv pre.world.hub
  | .ran _ (welcome p) o pre => if o.welcome_sent then frameTo pre.world.hub p (.welcome p) else []
  | .came (.ws_ping p) pre => frameTo pre.world.hub p .empty
  | _ => []

lemma send_sent (w : World) (p : String) (m : OutMsg) :
    (w.send p m).sent = w.sent ++ frameTo w.hub p m := by
  unfold World.send frameTo
  split <;> simp

/-- What a section puts on the channels. -/
lemma exec_sent {srv : Server} {t s o} {pre : HubSnapshot} :
    (exec srv s o pre.world).1.sent = pre.world.sent ++ frames srv (.ran t s o pre) := by
  have same : ∀ {w : World}, w.sent = pre.world.sent → w.sent = pre.world.sent ++ [] :=
    fun e => e.trans (List.append_nil _).symm
  cases s with
  | send_to p m => exact send_sent _ p m
  | broadcast_list => rfl
  | welcome p =>
    simp only [exec, welcome_step, frames]
    split
    · exact send_sent _ p _
    · exact same rfl
  | start_failed st lid ice code =>
    apply same
    simp only [exec, start_failed_step]
    split <;> split_ifs <;> rfl
  | queue_account | queue_remove | queue_answer | form_match =>
    apply same
    simp only [exec, queue_account_step, queue_remove_step, queue_answer_step, form_match_step]
    repeat' split
    all_goals rfl
  | queue_cooldown | queue_waiting | queue_ticket | requeue_if_here | settle_declined
  | record_strike =>
    apply same
    simp only [exec, queue_cooldown_step, queue_waiting_step, queue_ticket_step,
      requeue_if_here_step, settle_declined_step, record_strike_step]
    split <;> rfl
  | queue_pools t keys rows => cases keys <;> exact same rfl
  | form_match_room plan =>
    apply same
    simp only [exec, form_match_room_step]
    split_ifs <;> rfl
  | _ => exact same rfl

/-- What an event puts on the channels. -/
lemma apply_sent {srv : Server} {e : Event} {pre : HubSnapshot} :
    (e.apply srv pre.world).sent = pre.world.sent ++ frames srv (.came e pre) := by
  cases e with
  | ws_ping p => exact send_sent _ p _
  | _ => exact (List.append_nil _).symm

/-- A frame is on a channel exactly when a step put it there. -/
theorem HubRun.mem_sent {srv c tr} (r : HubRun srv c tr) {x} :
    x ∈ c.world.sent ↔ ∃ l ∈ tr, x ∈ frames srv l := by
  induction r with
  | start => simp [hubMachine]
  | @step c tr l c' r st ih =>
    have grows : c'.world.sent = c.world.sent ++ frames srv l := by
      cases st with
      | run _ _ => exact exec_sent
      | event _ _ => exact apply_sent
    rw [grows, List.mem_append, ih, List.exists_mem_cons_iff]
    exact or_comm

/-! ## Sections of one connection -/

/-- The connection that a section acts for. -/
def Section.actor : Section → Option String
  | handle_text p .. | dispatch p .. | hello_session p .. | hello_identity p .. | client_leave p
  | clients_remove p | welcome p | create_insert p .. | join_seat p .. => some p
  | send_to p (.hello_ok _) => some p
  | _ => none

/-- A plain section acts for nobody. -/
lemma Section.plain_actor {s : Section} (h : s.plain) : s.actor = none := by
  cases s with
  | send_to q m =>
    cases m with
    | hello_ok => cases h
    | _ => rfl
  | handle_text | dispatch | hello_session | hello_identity | client_leave | clients_remove
  | welcome | create_insert | join_seat => cases h
  | _ => rfl

/-- A section that acts for a connection is started by one that does. -/
lemma Emits.actor {srv s s' p} (em : Emits srv s s') (h : s'.actor = some p) :
    s.actor = some p := by
  cases em with
  | plain hp =>
    rw [Section.plain_actor hp] at h
    cases h
  | dispatch | hello | identity | session | hello_ok | create | join | leave => exact h
  | _ => cases h

/-- A section that acts for a connection is pending in the task of that connection. -/
theorem HubRun.actor_task {srv c tr} (r : HubRun srv c tr) :
    Holds (fun _ t s => ∀ p, s.actor = some p → t = .conn p) c := by
  apply r.induct (I := fun c _ => Holds (fun _ t s => ∀ p, s.actor = some p → t = .conn p) c)
  · exact Holds.start _
  · intro c tr l c' _ ih st
    cases st with
    | @run t s rest o e _ =>
      apply Holds.run ih e
      · exact fun _ _ _ h => h
      · intro s' hs' p hp
        exact ih t s (e ▸ List.mem_cons_self) p ((exec_emits s' hs').actor hp)
    | @event e _ _ =>
      apply Holds.event ih
      · exact fun _ _ _ h => h
      · intro s hs p hp
        cases e <;> simp only [hubMachine, Event.body, List.mem_cons, List.mem_map,
          List.not_mem_nil, or_false] at hs
        case connect | text | list_tick =>
          subst hs
          cases hp
          try rfl
        case disconnect =>
          rcases hs with rfl | rfl | rfl <;> cases hp <;> rfl
        case automatch_tick => rcases hs with rfl | rfl | rfl <;> cases hp
        case wake =>
          obtain ⟨task, -, rfl⟩ := hs
          cases hp

/-- A section that was run for a connection was run in the task of that connection. -/
lemma HubRun.ran_actor {srv c tr} (r : HubRun srv c tr) {t s o pre p}
    (h : .ran t s o pre ∈ tr) (hp : s.actor = some p) : t = .conn p := by
  obtain ⟨rest, earlier, r', -, e⟩ := Run.ran_pending r h
  exact HubRun.actor_task r' t s (e ▸ List.mem_cons_self) p hp

/-- The sections that only other sections start. -/
def Section.inner : Section → Bool
  | send_to .. | dispatch .. | hello_session .. | hello_identity .. | create_insert ..
  | join_seat .. | form_match_gone _ | form_match_room _ | requeue_if_here .. | requeue_front _
  | start_commit .. => true
  | _ => false

/-- No event starts one of them. -/
lemma body_not_inner {e : Event} {w : World} : ∀ s ∈ e.body w, ¬ s.inner := by
  intro s hs
  cases e <;> simp only [Event.body, List.mem_cons, List.mem_map, List.not_mem_nil, or_false] at hs
  case connect | text | list_tick => exact hs ▸ Bool.false_ne_true
  case disconnect | automatch_tick => rcases hs with rfl | rfl | rfl <;> exact Bool.false_ne_true
  case wake =>
    obtain ⟨task, -, rfl⟩ := hs
    exact Bool.false_ne_true

/-- An inner section that was run was put in front of its task by a section before it. -/
lemma HubRun.ran_inner {srv c tr} (r : HubRun srv c tr) {t s o pre} (h : .ran t s o pre ∈ tr)
    (hi : s.inner) :
    ∃ s' o' pre', .ran t s' o' pre' ∈ tr ∧ s ∈ (exec srv s' o' pre'.world).2 := by
  rcases Run.ran_started r h with ⟨e, pre', -, -, hb⟩ | hs
  · exact absurd hi (body_not_inner s hb)
  · exact hs

/-- The identity part of a `hello` follows that `hello`. -/
lemma HubRun.identity_origin {srv c tr} (r : HubRun srv c tr) {t p name game o pre}
    (h : .ran t (hello_identity p name game) o pre ∈ tr) :
    ∃ ip msg o pre, .ran t (dispatch p ip msg) o pre ∈ tr ∧ msg.op = .hello := by
  obtain ⟨s', o', pre', hs', hmem⟩ := HubRun.ran_inner r h rfl
  cases exec_emits _ hmem with
  | plain hp => cases hp
  | identity hop => exact ⟨_, _, _, _, hs', hop⟩
  | session =>
    obtain ⟨s'', o'', pre'', hs'', hmem⟩ := HubRun.ran_inner r hs' rfl
    cases exec_emits _ hmem with
    | plain hp => cases hp
    | hello hop => exact ⟨_, _, _, _, hs'', hop⟩

/-- A pending send that was run put its frame on the channel, and no other step did so but a broadcast,
a welcome and a ping. -/
lemma mem_frames {srv : Server} {l : HubLabel} {q m} (h : (q, m) ∈ frames srv l) :
    l.pre.world.hub.connected q ∧
      ((∃ t o pre, l = .ran t (send_to q m) o pre) ∨
      (∃ t o pre, l = .ran t broadcast_list o pre ∧ (q, m) ∈ broadcastFrames srv pre.world.hub) ∨
      m = .welcome q ∨ m = .empty ∧ ∃ pre, l = .came (.ws_ping q) pre) := by
  have toOne : ∀ {g p m'}, (q, m) ∈ frameTo g p m' → g.connected q ∧ q = p ∧ m = m' := by
    intro g p m' h
    unfold frameTo at h
    split at h
    · rename_i hc
      obtain ⟨rfl, rfl⟩ := Prod.mk.inj (List.mem_singleton.mp h)
      exact ⟨hc, rfl, rfl⟩
    · cases h
  unfold frames at h
  split at h
  · obtain ⟨hc, rfl, rfl⟩ := toOne h
    exact ⟨hc, .inl ⟨_, _, _, rfl⟩⟩
  · refine ⟨?_, .inr (.inl ⟨_, _, _, rfl, h⟩)⟩
    obtain ⟨id, hid, e⟩ := List.mem_map.mp h
    obtain ⟨rfl, -⟩ := Prod.mk.inj e
    exact AList.lookup_isSome.mpr (List.mem_of_mem_filter hid)
  · split at h
    · obtain ⟨hc, rfl, rfl⟩ := toOne h
      exact ⟨hc, .inr (.inr (.inl rfl))⟩
    · cases h
  · obtain ⟨hc, rfl, rfl⟩ := toOne h
    exact ⟨hc, .inr (.inr (.inr ⟨rfl, _, rfl⟩))⟩
  · cases h

/-- A `hello_ok` answers a `hello` of the same connection. -/
theorem HubRun.hello_ok_origin {srv c tr} (r : HubRun srv c tr) {q n}
    (h : (q, .hello_ok n) ∈ c.world.sent) :
    ∃ ip msg o pre, .ran (.conn q) (dispatch q ip msg) o pre ∈ tr ∧ msg.op = .hello := by
  obtain ⟨l, hl, hf⟩ := (HubRun.mem_sent r).mp h
  rcases (mem_frames hf).2 with ⟨t, o, pre, rfl⟩ | ⟨t, o, pre, rfl, hb⟩ | hw | ⟨he, -⟩
  · obtain rfl : t = .conn q := HubRun.ran_actor r hl rfl
    obtain ⟨s', o', pre', hs', hmem⟩ := HubRun.ran_inner r hl rfl
    cases exec_emits _ hmem with
    | plain hp => cases hp
    | hello_ok => exact HubRun.identity_origin r hs'
  · obtain ⟨id, -, e⟩ := List.mem_map.mp hb
    cases e
  · cases hw
  · cases he

end RecompNet
