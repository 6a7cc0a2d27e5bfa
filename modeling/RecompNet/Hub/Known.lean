import RecompNet.Automatch.Sides
import RecompNet.Hub.Basics

/-!
# Known connections

Whom the server speaks to. A connection is `Known` when its id was drawn and, on a server that requires a
login, when it is signed in as long as it is connected. Every id that the rooms, the queue, the grants
and the pending sections carry is known: a message of a connection that is not signed in goes no further
than the gate of `handle_text`. Two places are different. The audience of a server chat line and the
asker that a `seat_swap_answer` names are not checked, so what a pending send promises is asked for
only in runs where these name known connections (`strict`).
-/

namespace RecompNet

open Section Interleave

/-- On a closed server, the connection is signed in. -/
def Safe (srv : Server) (w : World) (q : String) : Prop :=
  srv.require_login → w.hub.connected q → w.hub.authed q

/-- The id was drawn, or is nobody's, and on a closed server its connection is signed in. -/
def Known (srv : Server) (w : World) (q : String) : Prop :=
  (q = "" ∨ q ∈ w.issued) ∧ Safe srv w q

/-- The frames that a connection without an account may be sent: the welcome, errors, and the answers to
`hello` and `ping`. -/
def OutMsg.to_guests : OutMsg → Bool
  | .welcome _ | .error _ | .bad_request _ | .unknown_op _ | .mod_not_approved _ _ | .cooldown _
  | .start_refused _ | .hello_ok _ | .pong => true
  | _ => false

/-- Whoever starts a match is known. -/
def Starter.known (srv : Server) (w : World) : Starter → Prop
  | .host p _ => Known srv w p
  | .server task => Known srv w task.a.player_id ∧ Known srv w task.b.player_id

/-- Both sides of an offer are known. -/
def Pending.known (srv : Server) (w : World) (p : Pending) : Prop :=
  Known srv w p.a.player_id ∧ Known srv w p.b.player_id

/-- The ids that a section carries are known. -/
@[simp]
def Section.known (strict : Prop) (srv : Server) (w : World) : Section → Prop
  | send_to q m => strict → Safe srv w q ∨ m.to_guests
  | handle_text p _ _ => p ∈ w.issued
  | dispatch p _ msg => Known srv w p ∨ msg.op.open_to_guests
  | list_reply p _ _ | create_insert p _ _ | join_seat p _ _ _ | join_need_mods p _ _ _
  | join_ok p _ _ | chat_report_record p _ _ => Known srv w p
  | start_prepare st _ _ _ | start_commit st _ _ _ _ _ _ | start_failed st _ _ _ => st.known srv w
  | queue_account req | queue_game req | queue_cooldown req _ | queue_waiting req _
  | queue_blocks req _ | queue_ticket req _ _ => Known srv w req.player_id
  | queue_push _ t | queue_pools t _ _ | requeue_if_here t _ | requeue_front t =>
    Known srv w t.player_id
  | settle_declined p _ _ | settle_notify p _ _ | form_match p | form_match_gone p => p.known srv w
  | form_match_room plan | form_match_joined plan _ _ _ => plan.p.known srv w
  | form_match_spawn task => Known srv w task.a.player_id ∧ Known srv w task.b.player_id
  | _ => True

/-- The ids that the world carries are known. -/
structure HubKnown (srv : Server) (w : World) : Prop where
  members : ∀ lid l, w.hub.lobbies.lookup lid = some l → ∀ m ∈ l.member_ids, Known srv w m
  host : ∀ lid l, w.hub.lobbies.lookup lid = some l → Known srv w l.host_player_id
  clients : ∀ q c, w.hub.clients.lookup q = some c →
    c.lobby_id.isSome ∨ c.pending_mod_lobby.isSome → Known srv w q
  grants : ∀ k ∈ w.hub.probe_grants, Known srv w k.1
  queue : ∀ x ∈ w.automatch.roll, Known srv w x.2
  spawned : ∀ lid task, w.spawned.lookup lid = some task →
    Known srv w task.a.player_id ∧ Known srv w task.b.player_id

/-- What a step must look like for its sends to stay among the known: the audience of a server chat line
and the asker of a swap are signed in, and no frame is under way to an id that is drawn only now. -/
def GuestsApart (srv : Server) : HubLabel → Prop
  | .ran _ (dispatch p _ msg) _ pre =>
    let g := pre.world.hub
    let titled := g.recordTitle p (Text.nonempty msg.game_name)
    (msg.op = .server_chat → (chatText srv msg.text).isSome → game_scope_for titled p ≠ "" →
      ∀ q, g.connected q → game_scope_for titled q = game_scope_for titled p → g.authed q) ∧
    (msg.op = .seat_swap_answer → ((g.lobby_id_of p).bind (g.lobbies.lookup ·)).isSome →
      g.connected (msg.asker_player_id.getD "") → g.authed (msg.asker_player_id.getD ""))
  | .came (.ws_ping p) pre => pre.world.hub.authed p
  | .came (.connect p _) pre => ∀ t m, send_to p m ∉ pre.pending t
  | _ => True

/-! ## Known stays known -/

lemma authed_iff {g : HubInner} {p : String} :
    g.authed p ↔ ∃ c, g.clients.lookup p = some c ∧ c.account.isSome := by
  unfold HubInner.authed
  cases g.clients.lookup p <;> simp

/-- Nobody is called "". -/
lemma known_nobody {srv : Server} {w : World} (h : w.Basic) : Known srv w "" := by
  refine ⟨.inl rfl, fun _ hc => ?_⟩
  exact absurd rfl (h.client_issued "" hc).1

/-- A section adds no connection and takes no account away. -/
lemma Safe.exec {srv : Server} {s : Section} {o : Answer} {w : World} {q : String}
    (h : Safe srv w q) (hb : w.Basic) : Safe srv (exec srv s o w).1 q := by
  intro hr hc
  obtain ⟨c', hc'⟩ := connected_iff.mp hc
  obtain ⟨c, hold, -, hacc⟩ := (exec_change srv s o hb.sized).client_back hc'
  obtain ⟨c0, h0, ha⟩ := authed_iff.mp (h hr (connected_iff.mpr ⟨c, hold⟩))
  cases Option.some.inj (hold.symm.trans h0)
  exact authed_iff.mpr ⟨c', hc', hacc ha⟩

lemma Known.exec {srv : Server} {s : Section} {o : Answer} {w : World} {q : String}
    (h : Known srv w q) (hb : w.Basic) : Known srv (exec srv s o w).1 q :=
  ⟨h.1.imp id fun hi => exec_issued hi, h.2.exec hb⟩

/-- Only the connection itself is another one after an event. -/
lemma Safe.apply {srv : Server} {e : Event} {w : World} {q : String} (h : Safe srv w q)
    (hq : ∀ ip, e ≠ .connect q ip) : Safe srv (e.apply srv w) q := by
  intro hr hc
  obtain ⟨c', hc'⟩ := connected_iff.mp hc
  rcases apply_client_back hc' with hold | ⟨ip, rfl, -⟩
  · obtain ⟨c0, h0, ha⟩ := authed_iff.mp (h hr (connected_iff.mpr ⟨c', hold⟩))
    cases Option.some.inj (hold.symm.trans h0)
    exact authed_iff.mpr ⟨c', hc', ha⟩
  · exact absurd rfl (hq ip)

lemma Known.apply {srv : Server} {e : Event} {w : World} {q : String} (h : Known srv w q)
    (he : e.enabled w) : Known srv (e.apply srv w) q := by
  refine ⟨h.1.imp id fun hi => apply_issued hi, h.2.apply ?_⟩
  rintro ip rfl
  rcases h.1 with h1 | h1
  · exact he.1 h1
  · exact he.2 h1

/-- Sections keep their promise when the known stay known. -/
lemma Section.known.mono {strict : Prop} {srv : Server} {w w' : World} {s : Section}
    (h : s.known strict srv w) (hi : w.issued ⊆ w'.issued)
    (hw : ∀ q, Known srv w q → Known srv w' q)
    (hs : strict → ∀ q m, s = send_to q m → Safe srv w q → Safe srv w' q) :
    s.known strict srv w' := by
  cases s with
  | send_to q m => exact fun st => (h st).imp (hs st q m rfl) id
  | handle_text => exact hi h
  | dispatch => exact h.imp (hw _) id
  | list_reply | create_insert | join_seat | join_need_mods | join_ok | chat_report_record
  | queue_account | queue_game | queue_cooldown | queue_waiting | queue_blocks | queue_ticket
  | queue_push | queue_pools | requeue_if_here | requeue_front => exact hw _ h
  | start_prepare st | start_commit st | start_failed st =>
    cases st with
    | host => exact hw _ h
    | server => exact ⟨hw _ h.1, hw _ h.2⟩
  | settle_declined | settle_notify | form_match | form_match_gone | form_match_room
  | form_match_joined | form_match_spawn => exact ⟨hw _ h.1, hw _ h.2⟩
  | _ => trivial

end RecompNet
