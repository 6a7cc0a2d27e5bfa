import RecompNet.Auth.NameSize
import RecompNet.Hub.OwnNames
import RecompNet.Hub.RowEdit
import RecompNet.Hub.UniqueName

/-!
# Names that fit

Names enter through the name gate, but the number that tells two players of a room apart is put
behind a name that was cut already. `NumbersFit` says when that number still fits; in a run whose
steps all meet it, every name in a row, in a seat and in a frame fits the field that the clients
keep it in.
-/

open scoped List

namespace RecompNet

open Section Interleave Names

/-- The display names in a frame. -/
def OutMsg.names : OutMsg → List String
  | .hello_ok name => [name]
  | .lobby_list _ players => players.map (·.display_name)
  | .created c => [c.display_name]
  | .lobby_update u => (u.slots ++ u.spectators).map (·.display_name)
  | .launch l => (l.slots ++ l.spectators).map (·.display_name)
  | .chat _ line => [line.from]
  | .server_chat _ _ line => [line.from]
  | .seat_swap_ask _ asker_name _ _ => [asker_name]
  | _ => []

/-- Every name in the frame fits. -/
def OutMsg.NamesFit (m : OutMsg) : Prop := ∀ n ∈ m.names, Storable n

/-- The names of rows and seats, and the handles of accounts. -/
structure HubInner.NamesFit (g : HubInner) : Prop where
  rows : ∀ p row, g.clients.lookup p = some row → Storable row.display_name
  seats : ∀ lid l, g.lobbies.lookup lid = some l → ∀ x ∈ l.plates, Storable x.2

/-- The handles that are carried from the accounts to the rooms of matches. -/
structure World.HandlesFit (w : World) : Prop where
  accounts : ∀ p pl, w.hub.account p = some pl → Storable pl.handle
  queue : w.automatch.Every fun t => Storable t.handle
  spawned : ∀ lid task, w.spawned.lookup lid = some task →
    Storable task.a.handle ∧ Storable task.b.handle

/-- Both sides of an offer have a handle that fits. -/
def Pending.HandlesFit (p : Pending) : Prop := ∀ x, Storable (p.ticket x).handle

def Starter.HandlesFit : Starter → Prop
  | .host .. => True
  | .server task => Storable task.a.handle ∧ Storable task.b.handle

/-- The names and handles that a pending section carries fit. -/
def Section.NamesFit : Section → Prop
  | send_to _ m => m.NamesFit
  | dispatch _ _ msg => ∀ n, msg.display_name = some n → Storable n
  | hello_session _ name _ | hello_identity _ name _ => ∀ n, name = some n → Storable n
  | set_display_name _ name => Storable name
  | queue_account req | queue_game req | queue_cooldown req _ | queue_waiting req _
  | queue_blocks req _ | queue_ticket req .. => Storable req.handle
  | queue_push _ t | requeue_if_here t _ | requeue_front t => Storable t.handle
  | settle_declined p .. | settle_notify p .. | form_match p | form_match_gone p => p.HandlesFit
  | form_match_room plan => plan.p.HandlesFit
  | form_match_spawn task => Storable task.a.handle ∧ Storable task.b.handle
  | start_prepare st .. | start_commit st .. | start_failed st .. => st.HandlesFit
  | _ => True

/-- The kinds of sections that carry a name or a handle. -/
def namedKinds : List SectionKind :=
  [.send_to .hello_ok, .send_to .lobby_list, .send_to .created, .send_to .lobby_update,
    .send_to .launch, .send_to .chat, .send_to .server_chat, .send_to .seat_swap_ask, .dispatch,
    .hello_session, .hello_identity, .set_display_name, .queue_account, .queue_game,
    .queue_cooldown, .queue_waiting, .queue_blocks, .queue_ticket, .queue_push, .requeue_if_here,
    .requeue_front, .settle_declined, .settle_notify, .form_match, .form_match_gone,
    .form_match_room, .form_match_spawn, .start_prepare, .start_commit, .start_failed]

/-- The other sections carry none. -/
lemma Section.names_fit_of_kind {s : Section} (h : s.kind ∉ namedKinds) : s.NamesFit := by
  cases s with
  | send_to p m =>
    cases m with
    | hello_ok | lobby_list | created | lobby_update | launch | chat | server_chat
    | seat_swap_ask =>
      exact absurd (by simp [namedKinds, OutMsg.kind]) h
    | _ => exact fun n hn => by cases hn
  | emit_lobby_update | broadcast_list | chat_system | destroy_lobby | client_leave | welcome
  | list_tick | clients_remove | handle_text | list_reply | create_insert | join_seat
  | join_need_mods | join_ok | join_announce | start_reason | start_abort | chat_report_record
  | queue_pools | queue_set_rtt | queue_remove | queue_answer | record_strike | take_expired
  | run_pairing | status_push | form_match_joined => trivial
  | _ => exact absurd (by simp [namedKinds]) h

/-! ## Frames -/

/-- The players of a list carry the names of their rows. -/
lemma list_names_fit {cfg : ListConfig} {g : HubInner} (fit : g.NamesFit)
    {game version : Option String} : ∀ r ∈ (lobby_list_json_filtered cfg g game version).players,
      Storable r.display_name := by
  intro r hr
  obtain ⟨c, hc, rfl⟩ := List.mem_map.mp ((List.mem_insertionSort _).mp hr)
  obtain ⟨p, hp⟩ := Assoc.Map.mem_values.mp (List.mem_of_mem_filter hc)
  exact fit.rows p c hp

lemma scoped_names_fit {cfg : ListConfig} {g : HubInner} (fit : g.NamesFit) {scope : String} :
    (scopedList cfg g scope).frame.NamesFit := by
  intro n hn
  obtain ⟨r, hr, rfl⟩ := List.mem_map.mp hn
  unfold scopedList at hr
  split at hr
  · exact list_names_fit fit r hr
  · exact list_names_fit fit r hr

/-- The rows of a table carry the names of its seats. -/
lemma seatRows_names {g : HubInner} {now : Instant} {start : Nat} {table : List (Option Slot)} {r}
    (h : r ∈ seatRows g now start table) :
    ∃ s, some s ∈ table ∧ r.display_name = s.display_name := by
  obtain ⟨⟨cell, i⟩, hi, e⟩ := List.mem_filterMap.mp h
  obtain ⟨s, rfl, rfl⟩ := Option.map_eq_some_iff.mp e
  exact ⟨s, (List.mem_zipIdx hi).2.2 ▸ List.getElem_mem _, rfl⟩

/-- The seats of a room fit, so its rows do. -/
lemma room_names_fit {l : Lobby} (fit : ∀ x ∈ l.plates, Storable x.2) {g : HubInner} {now : Instant}
    {i j : Nat} : ∀ n ∈ (seatRows g now i l.slots ++ seatRows g now j l.spectators).map
      (·.display_name), Storable n := by
  intro n hn
  obtain ⟨r, hr, rfl⟩ := List.mem_map.mp hn
  have seat : ∃ s, some s ∈ l.cells ∧ r.display_name = s.display_name := by
    rcases List.mem_append.mp hr with hr | hr
    · obtain ⟨s, hs, e⟩ := seatRows_names hr
      exact ⟨s, List.mem_append_left _ hs, e⟩
    · obtain ⟨s, hs, e⟩ := seatRows_names hr
      exact ⟨s, List.mem_append_right _ hs, e⟩
  obtain ⟨s, hs, e⟩ := seat
  exact e ▸ fit _ (Lobby.mem_plates.mpr ⟨s, hs, rfl⟩)

/-! ## One section -/

section
variable {srv : Server} {o : Answer} {w : World} {s' : Section}

/-- The name of a seat fits. -/
lemma HubInner.NamesFit.seat {g : HubInner} (fit : g.NamesFit) {lid l s}
    (hl : g.lobbies.lookup lid = some l) (hs : s ∈ l.everyone) : Storable s.display_name :=
  fit.seats lid l hl (s.player_id, s.display_name) (List.mem_map_of_mem hs)

/-- A frame without names fits. -/
lemma Section.names_fit_frame {q : String} {m : OutMsg} (none : m.names = []) :
    (send_to q m).NamesFit := by
  intro n hn
  rw [none] at hn
  cases hn

lemma refuse_names_fit {g : HubInner} {p : String} {code : Code}
    (h : s' ∈ (refuse g p code).2) : s'.NamesFit := by
  cases List.mem_singleton.mp h
  exact Section.names_fit_frame rfl

/-- The rename of a `create` or a `join` carries the name of the message. -/
lemma rename_names_fit {p : String} {said : Option String} (fit : ∀ n, said = some n → Storable n)
    (h : s' ∈ match Text.nonempty said with
      | some dn => [set_display_name p dn]
      | none => []) : s'.NamesFit := by
  split at h
  · rename_i dn hdn
    cases List.mem_singleton.mp h
    exact fit dn (Text.nonempty_eq_some.mp hdn).1
  · cases h

lemma handle_chat_names_fit {p : String} {msg : InMsg} (fit : w.hub.NamesFit)
    (h : s' ∈ (handle_chat srv w.hub p msg).2) : s'.NamesFit := by
  unfold handle_chat at h
  split at h
  · cases h
  · split at h
    · exact refuse_names_fit h
    · split at h
      · cases h
      · rename_i lid _ l hl
        split at h
        · cases h
        · rename_i sender hs
          obtain ⟨m, -, rfl⟩ := List.mem_map.mp h
          intro n hn
          cases List.mem_singleton.mp hn
          exact fit.seat hl (List.mem_of_find?_eq_some hs)

lemma handle_server_chat_names_fit {p : String} {msg : InMsg} (fit : w.hub.NamesFit)
    (h : s' ∈ (handle_server_chat srv w.hub p msg).2) : s'.NamesFit := by
  unfold handle_server_chat at h
  split at h
  · cases h
  · have titled : w.hub.KeepsNames (w.hub.recordTitle p (Text.nonempty msg.game_name)) :=
      recordTitle_keeps_names
    generalize w.hub.recordTitle p (Text.nonempty msg.game_name) = g1 at titled h
    dsimp only at h
    split at h
    · exact refuse_names_fit h
    · have filled : g1.KeepsNames (g1.setClient p fun c =>
          if c.game_name = "" then { c with game_name := game_scope_for g1 p } else c) := by
        apply HubInner.keeps_names_setClient
        intro c
        split <;> exact ⟨rfl, rfl⟩
      split at h
      · cases h
      · rename_i row' hrow'
        obtain ⟨m, -, rfl⟩ := List.mem_map.mp h
        intro n hn
        cases List.mem_singleton.mp hn
        obtain ⟨row, hrow, same, -⟩ := (titled.trans filled).rows p row' hrow'
        exact same ▸ fit.rows p row hrow

lemma handle_seat_swap_request_names_fit {p : String} {msg : InMsg} (fit : w.hub.NamesFit)
    (h : s' ∈ (handle_seat_swap_request w.hub p msg).2) : s'.NamesFit := by
  unfold handle_seat_swap_request at h
  split at h
  · cases h
  · split at h
    · cases h
    · rename_i l hl
      obtain ⟨lid, -, hl⟩ := Option.bind_eq_some_iff.mp hl
      split at h
      · cases h
      · rename_i i hi
        split at h
        · exact refuse_names_fit h
        · split at h
          · exact refuse_names_fit h
          · split at h
            · exact refuse_names_fit h
            · cases List.mem_singleton.mp h
              intro n hn
              cases List.mem_singleton.mp hn
              cases hs : (l.seat i).join with
              | none => decide
              | some s =>
                refine fit.seats lid l hl (s.player_id, s.display_name) ?_
                exact Lobby.mem_plates.mpr ⟨s, Lobby.mem_cells_of_seat hs, rfl⟩

lemma handle_automatch_queue_names_fit {p : String} {msg : InMsg} (handles : w.HandlesFit)
    (h : s' ∈ (handle_automatch_queue srv w.hub p msg).2) : s'.NamesFit := by
  unfold handle_automatch_queue at h
  split at h
  · exact refuse_names_fit h
  · split at h
    · cases h
    · rename_i row hrow
      split at h
      · exact refuse_names_fit h
      · rename_i account hacc
        split at h
        · exact refuse_names_fit h
        · cases List.mem_singleton.mp h
          exact handles.accounts p account (Option.bind_eq_some_iff.mpr ⟨row, hrow, hacc⟩)

/-- What the handler of a message starts. -/
lemma dispatch_names_fit {p ip : String} {msg : InMsg} (fit : w.hub.NamesFit)
    (handles : w.HandlesFit) (said : ∀ n, msg.display_name = some n → Storable n)
    (h : s' ∈ (dispatch_step srv o w.now w.hub p ip msg).2) : s'.NamesFit := by
  have hk := dispatch_calls s' h
  cases hop : msg.op with
  | hello =>
    simp only [dispatch_step, hop, handle_hello] at h
    have renamed : ∀ n, Text.nonempty msg.display_name = some n → Storable n :=
      fun n hn => said n (Text.nonempty_eq_some.mp hn).1
    split at h <;> (cases List.mem_singleton.mp h; exact renamed)
  | create =>
    simp only [dispatch_step, hop, handle_create] at h
    split_ifs at h
    · exact refuse_names_fit h
    · exact refuse_names_fit h
    · rcases List.mem_append.mp h with h | h
      · exact rename_names_fit said h
      · cases List.mem_singleton.mp h
        trivial
  | join =>
    simp only [dispatch_step, hop, handle_join] at h
    split at h
    · cases List.mem_singleton.mp h
      exact Section.names_fit_frame rfl
    · split_ifs at h
      · exact refuse_names_fit h
      · rcases List.mem_append.mp h with h | h
        · exact rename_names_fit said h
        · cases List.mem_singleton.mp h
          trivial
  | chat =>
    simp only [dispatch_step, hop] at h
    exact handle_chat_names_fit fit h
  | server_chat =>
    simp only [dispatch_step, hop] at h
    exact handle_server_chat_names_fit fit h
  | seat_swap_request =>
    simp only [dispatch_step, hop] at h
    exact handle_seat_swap_request_names_fit fit h
  | automatch_queue =>
    simp only [dispatch_step, hop] at h
    exact handle_automatch_queue_names_fit handles h
  | start =>
    simp only [dispatch_step, hop, handle_start] at h
    repeat' split at h
    all_goals first
      | exact refuse_names_fit h
      | (cases List.mem_singleton.mp h; trivial)
  | _ =>
    have none : ∀ k ∈ msg.op.calls, k ∉ namedKinds := by simp [hop, namedKinds]
    exact Section.names_fit_of_kind (none _ hk)

lemma queueTitles_names_fit {req : QueueRequest} {titles : List InTitle}
    (fit : Storable req.handle) (h : s' ∈ queueTitles srv req titles) : s'.NamesFit := by
  unfold queueTitles at h
  split at h <;> cases List.mem_singleton.mp h
  · exact Section.names_fit_frame rfl
  · exact Section.names_fit_frame rfl
  · exact fit

/-- A cleaned message says a name that fits. -/
lemma sanitized_name {msg clean : InMsg} (h : sanitize_in_place srv msg = .ok clean) :
    ∀ n, clean.display_name = some n → Storable n := by
  unfold sanitize_in_place at h
  dsimp only at h
  split_ifs at h
  cases h
  exact fun n hn => sanitize_storable hn

/-- The name of a row fits, or what stands for it when the row is gone. -/
lemma row_name_fits {g : HubInner} (fit : g.NamesFit) {p other : String} (ok : Storable other) :
    Storable (((g.clients.lookup p).map (·.display_name)).getD other) := by
  cases hrow : g.clients.lookup p with
  | none => exact ok
  | some row => exact fit.rows p row hrow

/-- The name that a `hello` is answered with is that of the row. -/
lemma accepted_fits {g : HubInner} {p : String} {name game : Option String} {fallback : String}
    (after : (apply_identity g p name game fallback).1.NamesFit) :
    Storable (apply_identity g p name game fallback).2.1 :=
  row_name_fits after (by decide)

lemma loserFirst_fits {p : Pending} {loser : String} (fit : p.HandlesFit) :
    Storable (p.loserFirst loser).1.handle ∧ Storable (p.loserFirst loser).2.handle := by
  unfold Pending.loserFirst
  split
  · exact ⟨fit true, fit false⟩
  · exact ⟨fit false, fit true⟩

lemma handle_text_names_fit {p ip : String} {text : Except String InMsg}
    (h : s' ∈ (handle_text_step srv w.hub p ip text).2) : s'.NamesFit := by
  unfold handle_text_step at h
  split at h
  · cases List.mem_singleton.mp h
    exact Section.names_fit_frame rfl
  · split at h
    · exact refuse_names_fit h
    · rename_i msg clean
      split at h
      · cases h
      · cases List.mem_singleton.mp h
        exact sanitized_name clean

lemma hello_identity_names_fit {p : String} {name game : Option String}
    (after : (hello_identity_step srv w.hub o p name game).1.NamesFit)
    (h : s' ∈ (hello_identity_step srv w.hub o p name game).2) : s'.NamesFit := by
  rw [hello_identity_step_hub] at after
  unfold hello_identity_step at h
  dsimp only at h
  split at h
  · exact refuse_names_fit h
  · rcases List.mem_cons.mp h with rfl | h
    · intro n hn
      cases List.mem_singleton.mp hn
      exact accepted_fits after
    · obtain ⟨lid, -, rfl⟩ := List.mem_map.mp h
      trivial

/-- A start that failed ends, or goes on with the handles that it has. -/
lemma start_failed_names_fit {st : Starter} {lid : String} {ice : Bool} {code : Code}
    (own : st.HandlesFit) (h : s' ∈ (start_failed_step w st lid ice code).2) : s'.NamesFit := by
  unfold start_failed_step at h
  cases st with
  | host p caps =>
    dsimp only at h
    split at h <;> cases List.mem_singleton.mp h
    · trivial
    · exact Section.names_fit_frame rfl
  | server task =>
    dsimp only at h
    split_ifs at h
    · cases List.mem_singleton.mp h
      trivial
    · simp only [List.mem_cons, List.not_mem_nil, or_false] at h
      rcases h with rfl | rfl | rfl
      · trivial
      · exact own.1
      · exact own.2
    · cases h
    · cases List.mem_singleton.mp h
      exact own

/-- An offer that lapsed ends for both sides, or is settled as one that somebody declined. -/
lemma settle_expired_names_fit {p : Pending} (own : p.HandlesFit)
    (h : s' ∈ settle_expired p) : s'.NamesFit := by
  unfold settle_expired at h
  dsimp only at h
  split at h
  · obtain ⟨t, -, h⟩ := List.mem_flatMap.mp h
    rcases List.mem_pair.mp h with rfl | rfl
    · trivial
    · exact Section.names_fit_frame rfl
  · cases List.mem_singleton.mp h
    exact own

/-- The room of a match: its players are told, and its start carries their handles. -/
lemma form_match_room_names_fit {plan : MatchPlan} (own : plan.p.HandlesFit)
    (h : s' ∈ (form_match_room_step srv o w plan).2) : s'.NamesFit := by
  unfold form_match_room_step at h
  dsimp only at h
  split_ifs at h
  · obtain ⟨t, -, rfl⟩ := List.mem_map.mp h
    exact Section.names_fit_frame rfl
  · cases List.mem_singleton.mp h
    exact own
  · simp only [List.mem_cons, List.not_mem_nil, or_false] at h
    rcases h with rfl | rfl | rfl | rfl
    · trivial
    · trivial
    · trivial
    · exact ⟨own true, own false⟩

/-- What a section starts carries names that fit, when its own do, those of the hub do before and
after it, and the accounts that sign in do. -/
lemma exec_names_fit {s : Section} (fit : w.hub.NamesFit) (after : (exec srv s o w).1.hub.NamesFit)
    (handles : w.HandlesFit) (own : s.NamesFit)
    (account : ∀ p name game pl, s = hello_session p name game → o.session = .player pl →
      Storable pl.handle) (h : s' ∈ (exec srv s o w).2) : s'.NamesFit := by
  by_cases plain : s'.kind ∉ namedKinds
  · exact Section.names_fit_of_kind plain
  have called : ¬ ∀ k ∈ s.calls, k ∉ namedKinds := fun none => plain (none _ (exec_calls s' h))
  cases s with
  | dispatch p ip msg => exact dispatch_names_fit fit handles own h
  | handle_text => exact handle_text_names_fit h
  | emit_lobby_update lid =>
    simp only [exec, World.lift, emit_lobby_update_step] at h
    split at h
    · cases h
    · rename_i l hl
      obtain ⟨m, -, rfl⟩ := List.mem_map.mp h
      exact room_names_fit (fit.seats lid l hl)
  | list_tick p =>
    simp only [exec, World.lift, list_tick_step] at h
    split at h
    · cases h
    · cases List.mem_singleton.mp h
      intro n hn
      obtain ⟨r, hr, rfl⟩ := List.mem_map.mp hn
      exact scoped_names_fit fit _ (List.mem_map_of_mem (List.mem_of_mem_filter hr))
  | list_reply p game version =>
    cases List.mem_singleton.mp h
    intro n hn
    obtain ⟨r, hr, rfl⟩ := List.mem_map.mp hn
    exact list_names_fit fit r hr
  | hello_session p name game =>
    simp only [exec, World.lift, hello_session_step] at h
    split at h
    · rcases List.mem_pair.mp h with rfl | rfl
      · exact Section.names_fit_frame rfl
      · exact own
    · cases List.mem_singleton.mp h
      exact own
    · rename_i pl signed
      cases List.mem_singleton.mp h
      intro n hn
      cases hn
      exact account p name game pl rfl signed
  | hello_identity => exact hello_identity_names_fit after h
  | create_insert p ip msg =>
    rcases List.mem_pair.mp h with rfl | rfl
    · intro n hn
      cases List.mem_singleton.mp hn
      exact row_name_fits fit (by decide)
    · trivial
  | start_prepare st lid caps ice =>
    simp only [exec, World.lift, start_prepare_step] at h
    repeat' split at h
    all_goals
      cases List.mem_singleton.mp h
      exact own
  | start_commit st lid caps sid sp tr ice =>
    simp only [exec, World.lift, start_commit_step] at h
    split at h
    · cases List.mem_singleton.mp h
      exact own
    · rename_i l hl
      obtain ⟨m, -, rfl⟩ := List.mem_map.mp h
      exact room_names_fit (l.launch_plates caps sid ▸ fit.seats lid l hl)
  | start_failed => exact start_failed_names_fit own h
  | queue_account req =>
    simp only [exec, queue_account_step] at h
    split_ifs at h
    · cases List.mem_singleton.mp h
      exact Section.names_fit_frame rfl
    · cases List.mem_singleton.mp h
      exact Section.names_fit_frame rfl
    · split at h
      · cases List.mem_singleton.mp h
        exact own
      · exact queueTitles_names_fit own h
  | queue_game req =>
    simp only [exec, queue_game_step] at h
    exact queueTitles_names_fit own h
  | queue_cooldown | queue_waiting =>
    simp only [exec, queue_cooldown_step, queue_waiting_step] at h
    split at h <;> cases List.mem_singleton.mp h
    · exact Section.names_fit_frame rfl
    · exact own
  | queue_blocks req keys =>
    cases List.mem_singleton.mp h
    exact own
  | queue_ticket req keys blocks =>
    simp only [exec, queue_ticket_step] at h
    split at h <;> cases List.mem_singleton.mp h
    · exact Section.names_fit_frame rfl
    · rename_i t ht
      obtain ⟨e, -, rfl⟩ := Option.map_eq_some_iff.mp ht
      exact own
  | queue_remove p =>
    obtain ⟨-, offer⟩ := handles.queue.remove_player p
    simp only [exec, queue_remove_step] at h
    split at h
    · cases h
    · rename_i q pd e
      cases List.mem_singleton.mp h
      exact offer pd (congrArg Prod.snd e)
  | queue_answer p accept id =>
    obtain ⟨-, offer⟩ := handles.queue.answer_for p accept id
    simp only [exec, queue_answer_step] at h
    split at h
    · cases h
    · rename_i q pd e
      split at h <;> (cases List.mem_singleton.mp h; exact offer pd (congrArg Prod.snd e))
  | settle_declined p loser kind =>
    cases List.mem_singleton.mp h
    exact own
  | settle_notify p loser kind =>
    rcases List.mem_pair.mp h with rfl | rfl
    · exact Section.names_fit_frame rfl
    · exact (loserFirst_fits own).2
  | requeue_if_here t reason =>
    simp only [exec, requeue_if_here_step] at h
    split at h
    · rcases List.mem_pair.mp h with rfl | rfl
      · exact own
      · exact Section.names_fit_frame rfl
    · cases h
  | take_expired =>
    obtain ⟨-, lapsed⟩ := handles.queue.take_expired srv.automatch_accept_secs w.now
    obtain ⟨p, hp, h⟩ := List.mem_flatMap.mp h
    exact settle_expired_names_fit (lapsed p hp) h
  | form_match p =>
    simp only [exec, form_match_step] at h
    split at h
    · cases h
    · split at h
      · cases h
      · cases List.mem_singleton.mp h
        exact own
  | form_match_room => exact form_match_room_names_fit own h
  | form_match_gone p =>
    cases List.mem_singleton.mp h
    have sides : ∀ (left : Prop) [Decidable left], Storable (if left then p.b else p.a).handle := by
      intro left _
      split
      · exact own false
      · exact own true
    exact sides _
  | _ => exact absurd (by simp [namedKinds]) called

end

/-! ## The numbers of a room -/

/-- What a number puts behind a name. -/
def numberSuffix (n : Nat) : String := " (" ++ toString n ++ ")"

lemma Lobby.FirstFree.unique {l : Lobby} {skip base n m} (hn : l.FirstFree skip base n)
    (hm : l.FirstFree skip base m) : n = m := by
  rcases Nat.lt_trichotomy n m with lt | e | gt
  · exact absurd (hm.2.2 n hn.1 lt) hn.2.1
  · exact e
  · exact absurd (hn.2.2 m hm.1 gt) hm.2.1

/-- A name that somebody else in the room has leaves space for the first free number. -/
def Lobby.NumberFits (l : Lobby) (p requested : String) : Prop :=
  let base := baseName requested
  l.HeldByOther (some p) base → ∀ n, l.FirstFree (some p) base n →
    base.toList.length + (numberSuffix n).toList.length ≤ NAME_MAX_CHARS ∧
      Text.byte_len base + (numberSuffix n).toList.length ≤ NAME_MAX_BYTES

/-- Whoever is named in a room where that name is taken has space for a number. -/
def NumbersFit (srv : Server) : HubLabel → Prop
  | .ran _ (hello_identity p (some name) _) _ pre =>
    ∀ l, (pre.world.hub.lobby_id_of p).bind (pre.world.hub.lobbies.lookup ·) = some l →
      l.NumberFits p name
  | .ran _ (join_seat p ip lid msg) o pre =>
    ∀ l seated, pre.world.hub.lobbies.lookup lid = some l →
      (joinOutcome srv o pre.world.hub p ip lid msg).2 = .Ok seated →
      l.NumberFits p (((pre.world.hub.clients.lookup p).map (·.display_name)).getD "Guest")
  | _ => True

lemma numbered_eq (base : String) (n : Nat) : numbered base n = base ++ numberSuffix n := by
  unfold numbered numberSuffix
  rw [String.append_assoc, String.append_assoc, String.append_assoc]

lemma numberSuffix_printable (n : Nat) : ∀ c ∈ (numberSuffix n).toList, Text.printable c := by
  intro c hc
  simp only [numberSuffix, String.toList_append, List.mem_append] at hc
  rcases hc with (hc | hc) | hc
  · have frame : " (".toList.all Text.printable := by decide
    exact List.all_eq_true.mp frame c hc
  · have digit : c ∈ Nat.toDigits 10 n := by simpa using hc
    exact Identity.digit_printable (Nat.isDigit_of_mem_toDigits (by decide) (by decide) digit)
  · have frame : ")".toList.all Text.printable := by decide
    exact List.all_eq_true.mp frame c hc

/-- The base of a name that fits does too. -/
lemma baseName_storable {requested : String} (fit : Storable requested) :
    Storable (baseName requested) := by
  unfold baseName
  dsimp only
  split
  · decide
  · exact fit.trim

/-- The name that a room gives fits exactly when the number does. -/
lemma unique_storable_iff {l : Lobby} {p requested fallback : String}
    (few : l.member_ids.length < 63) (fit : Storable requested) :
    Storable (unique_display_name l requested (some p) fallback) ↔ l.NumberFits p requested := by
  have base := baseName_storable fit
  rcases @unique_display_name_spec l requested (some p) few with
    ⟨free, e⟩ | ⟨taken, n, -, first, e⟩
  · rw [e]
    exact iff_of_true base fun taken => absurd taken free
  · rw [e, numbered_eq, storable_append_iff base (numberSuffix_printable n)]
    constructor
    · intro h _ m hm
      obtain rfl := hm.unique first
      exact h
    · exact fun h => h taken n first

/-! ## Runs -/

/-- The text of a hyphenated uuid. -/
def UuidText (id : String) : Prop :=
  id.toList.length = 36 ∧ ∀ c ∈ id.toList, Text.is_ascii_hexdigit c ∨ c = '-'

instance (id : String) : Decidable (UuidText id) :=
  decidable_of_iff (id.toList.length = 36 ∧
      id.toList.all fun c => Text.is_ascii_hexdigit c || decide (c = '-'))
    (and_congr_right fun _ => by simp)

/-- A handle as the writes of the account leave it in the database. -/
def LoadedHandle (apply : String → String) (handle : String) : Prop :=
  ∃ writes : List Identity.HandleWrite, (∀ q, .link q ∈ writes → Identity.Snowflake q.id) ∧
    Identity.load_player (writes.foldl (Identity.HandleWrite.run apply) none) = some handle

/-- What comes from outside: connections have uuids, and players are as the database has them. -/
def FromOutside (srv : Server) : HubLabel → Prop
  | .came (.connect p _) _ => UuidText p
  | .ran _ (hello_session ..) o _ => ∀ pl, o.session = .player pl → LoadedHandle srv.apply pl.handle
  | _ => True

/-- The names and handles of a snapshot fit, those of the pending sections included. -/
structure AllFit (c : HubSnapshot) : Prop where
  hub : c.world.hub.NamesFit
  handles : c.world.HandlesFit
  pending : Holds (fun _ _ s => s.NamesFit) c

/-- The name of a new connection fits. -/
lemma fresh_name_storable {p : String} (uuid : UuidText p) : Storable ("Player-" ++ tag p) := by
  have base : Storable "Player-" := by decide
  refine (storable_append_iff base ?_).mpr ?_
  · intro c hc
    rw [tag, String.toList_ofList] at hc
    rcases uuid.2 c (List.mem_of_mem_take hc) with hex | rfl
    · simp only [Text.is_ascii_hexdigit, Bool.or_eq_true, Bool.and_eq_true,
        decide_eq_true_eq] at hex
      simp only [Text.printable, Bool.and_eq_true, decide_eq_true_eq]
      omega
    · decide
  · have eight : (tag p).toList.length ≤ 8 := by
      rw [tag, String.toList_ofList]
      exact List.length_take_le _ _
    have chars : "Player-".toList.length = 7 := by decide
    have bytes : Text.byte_len "Player-" = 7 := by decide
    rw [chars, bytes]
    unfold NAME_MAX_CHARS NAME_MAX_BYTES
    omega

/-- The names that a section writes fit, when its number does. -/
lemma NumbersFit.written {srv c tr t s o} (r : HubRun srv c tr)
    (numbers : NumbersFit srv (.ran t s o c)) (fit : c.world.hub.NamesFit) (own : s.NamesFit) :
    ∀ x ∈ namesWritten srv s o c.world, Storable x.2 := by
  have few := HubRun.few_members r
  intro x hx
  cases s with
  | set_display_name p name =>
    cases List.mem_singleton.mp hx
    exact own
  | hello_identity p name game =>
    cases name with
    | none => cases hx
    | some name =>
      cases List.mem_singleton.mp hx
      dsimp only [helloName]
      split
      · exact own name rfl
      · rename_i l hl
        obtain ⟨lid, -, hl'⟩ := Option.bind_eq_some_iff.mp hl
        exact (unique_storable_iff (few lid l hl') (own name rfl)).mpr (numbers l hl)
  | create_insert p ip msg =>
    cases List.mem_singleton.mp hx
    exact row_name_fits fit (by decide)
  | join_seat p ip lid msg =>
    simp only [namesWritten] at hx
    split at hx
    · rename_i seated l ok hl
      cases List.mem_singleton.mp hx
      have name := @row_name_fits _ fit p "Guest" (by decide)
      exact (unique_storable_iff (few lid l hl) name).mpr (numbers l seated hl ok)
    · cases hx
  | form_match_room plan =>
    rcases List.mem_pair.mp hx with rfl | rfl
    · exact own true
    · exact own false
  | _ => cases hx

/-- A hub whose new names fit. -/
lemma HubInner.NamesFit.renamed {g g' : HubInner} {written} (fit : g.NamesFit)
    (renames : g.Renames g' written) (new : ∀ x ∈ written, Storable x.2) : g'.NamesFit where
  rows := by
    intro p row' hp
    rcases renames.rows p row' hp with h | ⟨row, hrow, e⟩
    · exact new _ h
    · exact e ▸ fit.rows p row hrow
  seats := by
    intro lid l' hl' x hx
    rcases renames.seats lid l' hl' x hx with h | ⟨l, hl, hx⟩
    · exact new x h
    · exact fit.seats lid l hl x hx

/-- A section keeps the handles that fit. -/
lemma World.HandlesFit.exec {srv s o w} (handles : w.HandlesFit) (own : s.NamesFit)
    (account : ∀ p name game pl, s = hello_session p name game → o.session = .player pl →
      Storable pl.handle) : (exec srv s o w).1.HandlesFit where
  accounts := by
    intro p pl h
    rcases exec_account h with old | ⟨name, game, rfl, signed⟩
    · exact handles.accounts p pl old
    · exact account p name game pl rfl signed
  queue := by
    rw [exec_automatch]
    cases s with
    | queue_push req t => exact handles.queue.push own
    | queue_set_rtt p rtt => exact handles.queue.set_rtt fun _ h => h
    | queue_remove p => exact (handles.queue.remove_player p).1
    | queue_answer p accept id => exact (handles.queue.answer_for p accept id).1
    | requeue_front t => exact handles.queue.requeue_front own
    | take_expired => exact (handles.queue.take_expired srv.automatch_accept_secs w.now).1
    | run_pairing => exact handles.queue.pair _ _ _
    | form_match p => exact handles.queue.note_pairing
    | _ => exact handles.queue
  spawned := by
    intro lid task h
    rcases spawned_exec h with old | ⟨old, rfl | ⟨lid', ice, code, rfl⟩, ha, hb⟩
    · exact handles.spawned lid task old
    · exact ha ▸ hb ▸ own
    · exact ha ▸ hb ▸ own

/-- A section keeps a snapshot in which everything fits. -/
lemma AllFit.run {srv c tr t s rest o} (r : HubRun srv c tr) (fit : AllFit c)
    (e : c.pending t = s :: rest) (outside : FromOutside srv (.ran t s o c))
    (numbers : NumbersFit srv (.ran t s o c)) :
    AllFit ((hubMachine srv).afterRun c t s rest o) := by
  have own : s.NamesFit := fit.pending t s (e ▸ List.mem_cons_self)
  have account : ∀ p name game pl, s = hello_session p name game → o.session = .player pl →
      Storable pl.handle := by
    rintro p name game pl rfl signed
    obtain ⟨writes, snowflakes, loaded⟩ := outside pl signed
    exact Identity.load_player_storable snowflakes loaded
  have after : (exec srv s o c.world).1.hub.NamesFit :=
    fit.hub.renamed exec_renames (numbers.written r fit.hub own)
  refine ⟨after, fit.handles.exec own account, ?_⟩
  apply fit.pending.run e
  · exact fun _ _ _ h => h
  · exact fun s' hs' => exec_names_fit fit.hub after fit.handles own account hs'

/-- An event keeps such a snapshot. -/
lemma AllFit.event {srv c e} (fit : AllFit c) (outside : FromOutside srv (.came e c)) :
    AllFit ((hubMachine srv).afterEvent c e) := by
  refine ⟨⟨?_, ?_⟩, ⟨?_, ?_, ?_⟩, ?_⟩
  · intro p row hrow
    rcases apply_client_back hrow with old | ⟨ip, rfl, rfl⟩
    · exact fit.hub.rows p row old
    · exact fresh_name_storable outside
  · intro lid l hl
    exact fit.hub.seats lid l ((apply_lobbies srv c.world e) ▸ hl)
  · intro p pl h
    obtain ⟨row, hrow, hacc⟩ := Option.bind_eq_some_iff.mp h
    rcases apply_client_back hrow with old | ⟨ip, rfl, rfl⟩
    · exact fit.handles.accounts p pl (Option.bind_eq_some_iff.mpr ⟨row, old, hacc⟩)
    · cases hacc
  · exact (apply_automatch srv c.world e) ▸ fit.handles.queue
  · intro lid task h
    apply fit.handles.spawned lid task
    cases e with
    | wake lid' => exact (lookup_erase_back h).2
    | ws_ping p => exact World.send_spawned c.world p .empty ▸ h
    | _ => exact h
  · apply fit.pending.event
    · exact fun _ _ _ h => h
    · intro s hs
      cases e with
      | wake lid =>
        obtain ⟨task, ht, rfl⟩ := List.mem_map.mp hs
        exact fit.handles.spawned lid task (Option.mem_toList.mp ht)
      | disconnect | automatch_tick =>
        simp only [hubMachine, Event.body, List.mem_cons, List.not_mem_nil, or_false] at hs
        rcases hs with rfl | rfl | rfl <;> trivial
      | ws_ping | pass => cases hs
      | _ =>
        cases List.mem_singleton.mp hs
        trivial

/-- In a run whose steps all meet the condition, everything fits. -/
theorem HubRun.all_fit {srv c tr} (r : HubRun srv c tr)
    (h : ∀ l ∈ tr, FromOutside srv l ∧ NumbersFit srv l) : AllFit c := by
  apply r.invariant (P := fun l => FromOutside srv l ∧ NumbersFit srv l) (I := fun c _ => AllFit c)
    ?_ ?_ h
  · have hub : HubInner.NamesFit {} := ⟨nofun, nofun⟩
    have queue : QueueInner.Every (fun t => Storable t.handle) {} :=
      ⟨fun t ht => (List.not_mem_nil ht).elim, fun p hp => (List.not_mem_nil hp).elim⟩
    have handles : World.HandlesFit {} := ⟨nofun, queue, nofun⟩
    exact ⟨hub, handles, Holds.start _⟩
  · intro c tr l c' r fit ⟨outside, numbers⟩ st
    cases st with
    | run e _ => exact fit.run r e outside numbers
    | event => exact fit.event outside

/-- A `hello` that leaves a name that fits had space for the number. -/
lemma hello_number {srv} {w : World} {p name game o}
    (few : ∀ lid l, w.hub.lobbies.lookup lid = some l → l.member_ids.length < 63)
    (fit : Storable name)
    (after : (exec srv (hello_identity p (some name) game) o w).1.hub.NamesFit) :
    ∀ l, (w.hub.lobby_id_of p).bind (w.hub.lobbies.lookup ·) = some l → l.NumberFits p name := by
  intro l hl
  obtain ⟨lid, hlid, hl'⟩ := Option.bind_eq_some_iff.mp hl
  obtain ⟨row, hrow, -⟩ := Option.bind_eq_some_iff.mp hlid
  have result : (exec srv (hello_identity p (some name) game) o w).1.hub =
      (apply_identity w.hub p (some name) game o.uuid).1 :=
    hello_identity_step_hub srv o w.hub p (some name) game
  rcases @apply_identity_cases w.hub p name game o.uuid with
    ⟨-, nowhere⟩ | ⟨lid', l', hlid', hl'', -, e⟩
  · rw [hl] at nowhere
    cases nowhere
  · obtain rfl := Option.some.inj (hlid.symm.trans hlid')
    obtain rfl := Option.some.inj (hl'.symm.trans hl'')
    rw [result, e] at after
    apply (unique_storable_iff (few lid l hl') fit).mp
    refine after.rows p { row with
      display_name := unique_display_name l name (some p) o.uuid
      game_name := game.getD row.game_name } ?_
    simp only [HubInner.setClient, HubInner.setLobby, Assoc.Map.lookup_modify_self, hrow]
    rfl

/-- Whoever a join seats has its unique name in the row. -/
lemma joined_name {srv o} {g : HubInner} {p ip lid msg seated l row}
    (ok : (joinOutcome srv o g p ip lid msg).2 = .Ok seated) (hl : g.lobbies.lookup lid = some l)
    (hrow : g.clients.lookup p = some row) :
    ∃ row', (joinOutcome srv o g p ip lid msg).1.clients.lookup p = some row' ∧
      row'.display_name = unique_display_name l row.display_name (some p) o.uuid := by
  have ends := join_ends srv o g p ip lid msg
  generalize joinOutcome srv o g p ip lid msg = out at ends ok ⊢
  cases ends with
  | refused no => exact absurd ok (no seated)
  | seated hl0 free =>
    obtain rfl := Option.some.inj (hl.symm.trans hl0)
    refine ⟨joinerRow g o p lid l row, ?_, ?_⟩
    · simp only [HubInner.setClient, HubInner.setLobby, Assoc.Map.lookup_modify_self, hrow]
      rfl
    · simp only [joinerRow, joinerSlot, hrow]
      rfl

/-- A `join` that leaves a name that fits had space for the number. -/
lemma join_number {srv} {w : World} {p ip lid msg o} (alive : w.hub.connected p)
    (few : ∀ lid l, w.hub.lobbies.lookup lid = some l → l.member_ids.length < 63)
    (fit : w.hub.NamesFit) (after : (exec srv (join_seat p ip lid msg) o w).1.hub.NamesFit) :
    ∀ l seated, w.hub.lobbies.lookup lid = some l →
      (joinOutcome srv o w.hub p ip lid msg).2 = .Ok seated →
      l.NumberFits p (((w.hub.clients.lookup p).map (·.display_name)).getD "Guest") := by
  intro l seated hl ok
  obtain ⟨row, hrow⟩ := Option.isSome_iff_exists.mp alive
  obtain ⟨row', hrow', name⟩ := joined_name ok hl hrow
  simp only [exec, World.lift, World.setHub, join_seat_step_hub] at after
  have new := after.rows p row' hrow'
  rw [name] at new
  rw [hrow]
  exact (unique_storable_iff (few lid l hl) (fit.rows p row hrow)).mp new

/-- A step from where everything fits keeps the names that fit exactly when it meets the condition.
-/
lemma AllFit.step_iff {srv c tr l c'} (r : HubRun srv c tr) (fit : AllFit c)
    (st : Step (hubMachine srv) c l c') (outside : FromOutside srv l) :
    c'.world.hub.NamesFit ↔ NumbersFit srv l := by
  constructor
  · intro after
    cases st with
    | event => trivial
    | @run t s rest o e _ =>
      cases s with
      | hello_identity p name game =>
        cases name with
        | none => trivial
        | some name =>
          have own := fit.pending t _ (e ▸ List.mem_cons_self)
          exact hello_number (HubRun.few_members r) (own name rfl) after
      | join_seat p ip lid msg =>
        have alive : c.world.hub.connected p := by
          apply HubRun.alive r
          rw [← HubRun.actor_task r t _ (e ▸ List.mem_cons_self) p rfl, e]
          exact List.cons_ne_nil _ _
        exact join_number alive (HubRun.few_members r) fit.hub after
      | _ => trivial
  · intro numbers
    cases st with
    | run e _ => exact (fit.run r e outside numbers).hub
    | event => exact (fit.event outside).hub

/-- What was sent in a run where everything fits does. -/
lemma HubRun.frames_fit {srv c tr} (r : HubRun srv c tr)
    (h : ∀ l ∈ tr, FromOutside srv l ∧ NumbersFit srv l) : ∀ x ∈ c.world.sent, x.2.NamesFit := by
  rintro ⟨q, m⟩ hx
  obtain ⟨l, hl, hf⟩ := (HubRun.mem_sent r).mp hx
  obtain ⟨later, earlier, rfl⟩ := List.append_of_mem hl
  obtain ⟨r', c', st⟩ := r.pre_reached l later earlier rfl
  have fit := HubRun.all_fit r' fun l hl =>
    h l (List.mem_append_right _ (List.mem_cons_of_mem _ hl))
  rcases (mem_frames hf).2 with ⟨t, o, pre, rfl⟩ | ⟨t, o, pre, rfl, hb⟩ | rfl | ⟨rfl, -⟩
  · cases st with
    | run e _ => exact fit.pending t _ (e ▸ List.mem_cons_self)
  · obtain ⟨id, -, e⟩ := List.mem_map.mp hb
    cases e
    exact scoped_names_fit fit.hub
  · exact fun n hn => (List.not_mem_nil hn).elim
  · exact fun n hn => (List.not_mem_nil hn).elim

/-- In a run whose connections and players are what they should be, every name of a row and a seat
fits in every state if and only if every number that is put behind a name had space; and then every
name that was sent fits, too. -/
theorem names_fit {srv c tr} (r : HubRun srv c tr) (outside : ∀ l ∈ tr, FromOutside srv l) :
    ((∀ s ∈ visited c tr, s.world.hub.NamesFit) ↔ ∀ l ∈ tr, NumbersFit srv l) ∧
      ((∀ l ∈ tr, NumbersFit srv l) → ∀ x ∈ c.world.sent, x.2.NamesFit) := by
  refine ⟨?_, fun h => HubRun.frames_fit r fun l hl => ⟨outside l hl, h l hl⟩⟩
  induction r with
  | start =>
    refine iff_of_true ?_ fun l hl => (List.not_mem_nil hl).elim
    intro s hs
    rw [visited, List.map_nil, List.mem_singleton] at hs
    subst hs
    constructor
    · intro p row hrow
      cases hrow
    · intro lid l hl
      cases hl
  | @step c tr l c' r st ih =>
    have ih := ih fun l hl => outside l (List.mem_cons_of_mem _ hl)
    rw [st.visited_cons, List.forall_mem_cons, List.forall_mem_cons, ih]
    refine and_congr_left fun numbers => ?_
    have fit := HubRun.all_fit r fun l hl => ⟨outside l (List.mem_cons_of_mem _ hl), numbers l hl⟩
    exact fit.step_iff r st (outside l List.mem_cons_self)

/-- A checker for `FromOutside` in runs of guests. -/
def guestsOnly : HubLabel → Bool
  | .came (.connect p _) _ => decide (UuidText p)
  | .ran _ (hello_session ..) _ _ => false
  | _ => true

lemma fromOutside_of_guests {srv} {tr : List HubLabel} (h : tr.all guestsOnly) :
    ∀ l ∈ tr, FromOutside srv l := by
  intro l hl
  have ok := List.all_eq_true.mp h l hl
  cases l with
  | came e pre =>
    cases e with
    | connect p ip =>
      have uuid : UuidText p := of_decide_eq_true ok
      exact uuid
    | _ => trivial
  | ran t s o pre =>
    cases s with
    | hello_session p name game => cases ok
    | _ => trivial

/-- Two guests of the same name, one of whom joins the room of the other. -/
def namesakes (name : String) : List Move :=
  let p := "6b0f1e52-3c1d-4a86-9a53-0d5f6f1c2a11"
  let q := "b2c3d4e5-0f1a-4b2c-8d3e-4f5a6b7c8d9e"
  let room := "9b1deb4d-3b7d-4bad-9bdd-2b0d7b3dcb6d"
  let o := draw "1f8a9f0e-7d2b-4b57-8f6f-2f6f2b0c9d01"
  let guest (p : String) : List Move :=
    [.event (.connect p "203.0.113.7")] ++ steps (.conn p) 1 o ++
    [say p { op := .hello, display_name := some name }] ++ steps (.conn p) 4 o
  guest p ++ [say p { op := .create }] ++ steps (.conn p) 3 (draw room) ++ steps (.conn p) 2 o ++
    guest q ++ [say q { op := .join, lobby_id := some room }] ++ steps (.conn q) 13 o

/-- Two guests called Ann, of whom one is published as `Ann (2)`. -/
theorem names_fit_namesakes : ∃ c tr, HubRun sampleServer c tr ∧
    (∃ x ∈ c.world.sent, "Ann (2)" ∈ x.2.names) ∧
    ((∀ s ∈ visited c tr, s.world.hub.NamesFit) ↔ ∀ l ∈ tr, NumbersFit sampleServer l) ∧
      ((∀ l ∈ tr, NumbersFit sampleServer l) → ∀ x ∈ c.world.sent, x.2.NamesFit) := by
  let test : HubSnapshot × List HubLabel → Bool := fun x =>
    x.2.all guestsOnly && x.1.world.sent.any fun y => y.2.names.contains "Ann (2)"
  have h : ((hubMachine sampleServer).follow (namesakes "Ann")).any test := by decide +kernel
  obtain ⟨c, tr, r, ht, -⟩ := Machine.follow_reaches h
  obtain ⟨guests, sent⟩ := Bool.and_eq_true_iff.mp ht
  obtain ⟨x, hx, named⟩ := List.any_eq_true.mp sent
  exact ⟨c, tr, r, ⟨x, hx, List.contains_iff_mem.mp named⟩,
    names_fit r (fromOutside_of_guests guests)⟩

/-- A name of thirty-two characters gets four more. -/
theorem names_fit_longest : ¬ ∀ srv c tr, HubRun srv c tr → (∀ l ∈ tr, FromOutside srv l) →
    ∀ x ∈ c.world.sent, x.2.NamesFit := by
  intro all
  let long := "aaaaaaaaaaaaaaaaaaaaaaaaaaaaaaaa (2)"
  let test : HubSnapshot × List HubLabel → Bool := fun x =>
    x.2.all guestsOnly && x.1.world.sent.any fun y => y.2.names.contains long
  have h : ((hubMachine sampleServer).follow
      (namesakes "aaaaaaaaaaaaaaaaaaaaaaaaaaaaaaaa")).any test := by decide +kernel
  obtain ⟨c, tr, r, ht, -⟩ := Machine.follow_reaches h
  obtain ⟨guests, sent⟩ := Bool.and_eq_true_iff.mp ht
  obtain ⟨x, hx, named⟩ := List.any_eq_true.mp sent
  have fits := all _ c tr r (fromOutside_of_guests guests) x hx long
    (List.contains_iff_mem.mp named)
  exact absurd fits (by decide)

end RecompNet
