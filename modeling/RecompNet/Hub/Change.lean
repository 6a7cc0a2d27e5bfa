import RecompNet.Automatch.Sides
import RecompNet.Hub.Seats
import RecompNet.Hub.Server

/-!
# What a section does to the hub

Every change a section can make to the clients, the rooms and the queue, said once. Most sections `Keep`
the hub: the connections, the rooms they recorded and who sits where stay, and no path report appears.
`HubChange` lists the others: a relayed probe leaves a grant, a join without its mods a note, a path report
a proof, and rooms are created, joined, left, emptied by a kick, destroyed and formed by automatch.
-/

namespace RecompNet

open Section

/-- What most sections keep of a client's row. -/
structure ClientMeta.Keeps (c c' : ClientMeta) : Prop where
  player_id : c'.player_id = c.player_id
  lobby_id : c'.lobby_id = c.lobby_id
  account : c.account.isSome → c'.account.isSome
  pending : c'.pending_mod_lobby.isSome → c.pending_mod_lobby.isSome

/-- What most sections keep of the hub. -/
structure HubInner.Keeps (g g' : HubInner) : Prop where
  clients : ∀ q, Option.Rel ClientMeta.Keeps (g.clients.lookup q) (g'.clients.lookup q)
  lobbies : ∀ lid, Option.Rel Lobby.Shuffles (g.lobbies.lookup lid) (g'.lobbies.lookup lid)
  grants : ∀ k, k ∈ g'.probe_grants → k ∈ g.probe_grants

/-- The seat tables of the hub are no longer than the index namespace of the players. -/
def HubInner.Sized (g : HubInner) : Prop :=
  ∀ lid l, g.lobbies.lookup lid = some l → l.slots.length ≤ SPECTATOR_SLOT_BASE

lemma ClientMeta.Keeps.refl (c : ClientMeta) : c.Keeps c := ⟨rfl, rfl, id, id⟩

lemma ClientMeta.Keeps.trans {a b c : ClientMeta} (h : a.Keeps b) (k : b.Keeps c) : a.Keeps c :=
  ⟨k.player_id.trans h.player_id, k.lobby_id.trans h.lobby_id, k.account ∘ h.account,
    h.pending ∘ k.pending⟩

/-- Relating optional values by a transitive relation. -/
lemma optionRel_trans {α : Type} {R : α → α → Prop} (ht : ∀ a b c, R a b → R b c → R a c)
    {x y z : Option α} (h : Option.Rel R x y) (k : Option.Rel R y z) : Option.Rel R x z := by
  cases h with
  | none =>
    cases k
    exact .none
  | some h =>
    cases k with
    | some k => exact .some (ht _ _ _ h k)

lemma optionRel_refl {α : Type} {R : α → α → Prop} (hr : ∀ a, R a a) (x : Option α) :
    Option.Rel R x x := by
  cases x with
  | none => exact .none
  | some a => exact .some (hr a)

namespace HubInner

lemma Keeps.refl (g : HubInner) : g.Keeps g where
  clients := fun _ => optionRel_refl ClientMeta.Keeps.refl _
  lobbies := fun _ => optionRel_refl Lobby.Shuffles.refl _
  grants := fun _ h => h

lemma Keeps.trans {a b c : HubInner} (h : a.Keeps b) (k : b.Keeps c) : a.Keeps c where
  clients := fun q => optionRel_trans (fun _ _ _ => .trans) (h.clients q) (k.clients q)
  lobbies := fun lid => optionRel_trans (fun _ _ _ => .trans) (h.lobbies lid) (k.lobbies lid)
  grants := fun x hx => h.grants x (k.grants x hx)

/-- Rewriting a client's row. -/
lemma keeps_setClient {g : HubInner} {p : String} {f : ClientMeta → ClientMeta}
    (h : ∀ c : ClientMeta, c.Keeps (f c)) : g.Keeps (g.setClient p f) where
  clients := fun q => by
    rw [setClient, Assoc.Map.lookup_modify]
    cases g.clients.lookup q with
    | none => split <;> exact .none
    | some c =>
      split
      · exact .some (h c)
      · exact .some (.refl c)
  lobbies := (Keeps.refl g).lobbies
  grants := (Keeps.refl g).grants

/-- Rewriting a room. -/
lemma keeps_setLobby {g : HubInner} {lid : String} {f : Lobby → Lobby}
    (h : ∀ l, g.lobbies.lookup lid = some l → l.Shuffles (f l)) : g.Keeps (g.setLobby lid f) where
  clients := (Keeps.refl g).clients
  lobbies := fun lid' => by
    rw [setLobby, Assoc.Map.lookup_modify]
    by_cases e : lid' = lid
    · subst e
      rw [if_pos rfl]
      cases hl : g.lobbies.lookup lid' with
      | none => exact .none
      | some l => exact .some (h l hl)
    · rw [if_neg e]
      exact optionRel_refl Lobby.Shuffles.refl _
  grants := (Keeps.refl g).grants

/-- Relaying a line touches neither clients nor rooms. -/
lemma keeps_remember_chat (g : HubInner) (a n t s l gm : String) :
    g.Keeps (g.remember_chat a n t s l gm).1 where
  clients := by simpa using (Keeps.refl g).clients
  lobbies := by simpa using (Keeps.refl g).lobbies
  grants := by simp

/-- Another session id is handed out. -/
lemma keeps_next_session (g : HubInner) (n : Nat) : g.Keeps { g with next_session := n } :=
  ⟨(Keeps.refl g).clients, (Keeps.refl g).lobbies, (Keeps.refl g).grants⟩

end HubInner

/-! ## The handlers that keep the hub -/

section
variable {srv : Server} {o : Answer} {now : Instant} {g : HubInner} {p ip : String} {msg : InMsg}

lemma recordTitle_keeps {game : Option String} : g.Keeps (g.recordTitle p game) := by
  unfold HubInner.recordTitle
  split
  · exact HubInner.keeps_setClient fun c => ⟨rfl, rfl, id, id⟩
  · exact .refl g

lemma handle_set_ready_keeps : g.Keeps (handle_set_ready g p msg).1 := by
  unfold handle_set_ready
  split
  · exact .refl g
  · split
    · exact .refl g
    · apply HubInner.keeps_setLobby
      intro l _
      exact l.setMember_shuffles p fun _ => rfl

lemma handle_chat_keeps : g.Keeps (handle_chat srv g p msg).1 := by
  unfold handle_chat
  split
  · exact .refl g
  · split
    · exact .refl g
    · split
      · exact .refl g
      · split
        · exact .refl g
        · exact HubInner.keeps_remember_chat g _ _ _ _ _ _

lemma handle_server_chat_keeps : g.Keeps (handle_server_chat srv g p msg).1 := by
  unfold handle_server_chat
  split
  · exact .refl g
  · have titled : g.Keeps (g.recordTitle p (Text.nonempty msg.game_name)) := recordTitle_keeps
    generalize g.recordTitle p (Text.nonempty msg.game_name) = g1 at titled ⊢
    dsimp only
    split
    · exact titled
    · have filled : g1.Keeps (g1.setClient p fun c =>
          if c.game_name = "" then { c with game_name := game_scope_for g1 p } else c) := by
        apply HubInner.keeps_setClient
        intro c
        split <;> exact ⟨rfl, rfl, id, id⟩
      split
      · exact titled.trans filled
      · exact (titled.trans filled).trans (HubInner.keeps_remember_chat _ _ _ _ _ _ _)

lemma handle_set_match_caps_keeps : g.Keeps (handle_set_match_caps g p msg).1 := by
  unfold handle_set_match_caps
  repeat' split
  all_goals first
    | exact .refl g
    | skip
  apply HubInner.keeps_setLobby
  intro l _
  exact { Lobby.Shuffles.refl l with }

lemma handle_set_host_endpoint_keeps : g.Keeps (handle_set_host_endpoint srv g p ip msg).1 := by
  unfold handle_set_host_endpoint
  dsimp only
  repeat' split
  all_goals first
    | exact .refl g
    | skip
  apply HubInner.keeps_setLobby
  intro l _
  split
  · exact { l.clearPlayerPaths_shuffles with }
  · exact { Lobby.Shuffles.refl l with }

lemma handle_move_keeps : g.Keeps (handle_move g p msg).1 := by
  unfold handle_move
  split
  · split
    · exact .refl g
    · rename_i i j _ _ hne
      split
      · exact .refl g
      · split
        · exact .refl g
        · rename_i l hl
          split
          · exact .refl g
          · split
            · rename_i hi hj
              apply HubInner.keeps_setLobby
              intro l' hl'
              cases Option.some.inj (hl.symm.trans hl')
              exact Lobby.rearrange_shuffles hi hj hne
            · exact .refl g
            · exact .refl g
  · exact .refl g

lemma handle_seat_move_keeps (sized : g.Sized) : g.Keeps (handle_seat_move g p msg).1 := by
  unfold handle_seat_move
  repeat' split
  all_goals first
    | exact .refl g
    | skip
  rename_i l hl _ i hi _ cell hc hne _
  apply HubInner.keeps_setLobby
  intro l' hl'
  cases Option.some.inj (hl.symm.trans hl')
  obtain ⟨s, hs, -⟩ := Lobby.seat_of_eq_some (sized _ l hl) hi
  exact Lobby.rearrange_shuffles hs hc hne

lemma handle_seat_swap_answer_keeps (sized : g.Sized) :
    g.Keeps (handle_seat_swap_answer g p msg).1 := by
  unfold handle_seat_swap_answer
  dsimp only
  repeat' split
  all_goals first
    | exact .refl g
    | skip
  rename_i l hl _ _ i j hi hj hno
  apply HubInner.keeps_setLobby
  intro l' hl'
  cases Option.some.inj (hl.symm.trans hl')
  obtain ⟨s, hs, -⟩ := Lobby.seat_of_eq_some (sized _ l hl) hi
  obtain ⟨s', hs', -⟩ := Lobby.seat_of_eq_some (sized _ l hl) hj
  exact Lobby.trade_shuffles hs hs' (not_or.mp hno).2

lemma takeToken_keeps : g.Keeps (takeToken now g p).1 := by
  unfold takeToken
  split
  · exact .refl g
  · exact HubInner.keeps_setClient fun c => ⟨rfl, rfl, id, id⟩

lemma handle_signal_keeps : g.Keeps (handle_signal now g p msg).1 := by
  unfold handle_signal
  split
  · exact .refl g
  · dsimp only
    split
    · exact .refl g
    · repeat' split
      all_goals first
        | exact takeToken_keeps
        | exact .refl g

lemma handle_mod_xfer_cancel_keeps : g.Keeps (handle_mod_xfer_cancel g p).1 :=
  HubInner.keeps_setClient fun c => ⟨rfl, rfl, id, fun h => by cases h⟩

lemma handle_mod_signal_keeps : g.Keeps (handle_mod_signal g p msg).1 := by
  unfold handle_mod_signal
  dsimp only
  repeat' split
  all_goals exact .refl g

lemma handle_mod_xfer_start_keeps : g.Keeps (handle_mod_xfer_start g p msg).1 := by
  unfold handle_mod_xfer_start
  dsimp only
  repeat' split
  all_goals exact .refl g

lemma handle_mod_xfer_fail_keeps : g.Keeps (handle_mod_xfer_fail g p msg).1 := by
  unfold handle_mod_xfer_fail
  dsimp only
  repeat' split
  all_goals exact .refl g

lemma handle_chat_report_keeps : g.Keeps (handle_chat_report g p msg).1 := by
  unfold handle_chat_report
  repeat' split
  all_goals exact .refl g

lemma handle_seat_swap_request_keeps : g.Keeps (handle_seat_swap_request g p msg).1 := by
  unfold handle_seat_swap_request
  repeat' split
  all_goals exact .refl g

lemma handle_create_keeps : g.Keeps (handle_create g p ip msg).1 := by
  unfold handle_create
  repeat' split
  all_goals exact .refl g

lemma handle_join_keeps : g.Keeps (handle_join g p ip msg).1 := by
  unfold handle_join
  repeat' split
  all_goals exact .refl g

lemma handle_start_keeps : g.Keeps (handle_start g p msg).1 := by
  unfold handle_start
  repeat' split
  all_goals exact .refl g

lemma handle_close_keeps : g.Keeps (handle_close g p).1 := by
  unfold handle_close
  repeat' split
  all_goals exact .refl g

lemma handle_hello_keeps : g.Keeps (handle_hello g p msg).1 := by
  unfold handle_hello
  dsimp only
  split <;> exact .refl g

lemma handle_automatch_queue_keeps : g.Keeps (handle_automatch_queue srv g p msg).1 := by
  unfold handle_automatch_queue
  repeat' split
  all_goals exact .refl g

/-- An identity is written into the client's row and into its seat. -/
lemma apply_identity_keeps {name game : Option String} {fb : String} :
    g.Keeps (apply_identity g p name game fb).1 := by
  have named : g.Keeps (g.setClient p fun c =>
      { c with display_name := name.getD c.display_name, game_name := game.getD c.game_name }) :=
    HubInner.keeps_setClient fun c => ⟨rfl, rfl, id, id⟩
  unfold apply_identity
  dsimp only
  split
  · split
    · exact named
    · rename_i n lid _ _ l hl
      apply named.trans
      refine (HubInner.keeps_setLobby ?_).trans (HubInner.keeps_setClient fun c => ⟨rfl, rfl, id, id⟩)
      intro l _
      exact l.setMember_shuffles p fun _ => rfl
  · exact named

lemma hello_session_keeps {name game : Option String} :
    g.Keeps (hello_session_step g o p name game).1 := by
  unfold hello_session_step
  split
  · exact .refl g
  · exact .refl g
  · exact HubInner.keeps_setClient fun c => ⟨rfl, rfl, fun _ => rfl, id⟩

/-- The hub after a `hello` is the one with the identity applied. -/
lemma hello_identity_step_hub (srv : Server) (o : Answer) (g : HubInner) (p : String)
    (name game : Option String) :
    (hello_identity_step srv g o p name game).1 = (apply_identity g p name game o.uuid).1 := by
  unfold hello_identity_step refuse
  dsimp only
  split <;> rfl

lemma hello_identity_keeps {name game : Option String} :
    g.Keeps (hello_identity_step srv g o p name game).1 := by
  rw [hello_identity_step_hub]
  exact apply_identity_keeps

lemma start_prepare_keeps {st : Starter} {lid : String} {caps : Option Value} {ice : Bool} :
    g.Keeps (start_prepare_step now g st lid caps ice).1 := by
  unfold start_prepare_step
  split
  · exact .refl g
  · split
    · exact .refl g
    · split
      · exact .refl g
      · exact HubInner.keeps_next_session g _

lemma start_commit_keeps {st : Starter} {lid : String} {caps : Option Value} {sid : Nat}
    {spectates : Bool} {tr : StartTransport} {ice : Bool} :
    g.Keeps (start_commit_step now g st lid caps sid spectates tr ice).1 := by
  unfold start_commit_step
  split
  · exact .refl g
  · rename_i l hl
    apply HubInner.keeps_setLobby
    intro l' hl'
    cases Option.some.inj (hl.symm.trans hl')
    exact l.launch_shuffles caps sid

end

/-! ## The changes -/

/-- A section and the hub it leaves, by what it does to it. -/
inductive HubChange (srv : Server) (o : Answer) (w : World) : Section → HubInner → Prop where
  | keep {s g'} :
    w.hub.Keeps g' →
    HubChange srv o w s g'
  /-- A probe was relayed to the host. -/
  | grant {p ip msg g' lid} :
    msg.op = .probe_signal →
    w.hub.Keeps g' →
    HubChange srv o w (dispatch p ip msg)
      { g' with probe_grants := g'.probe_grants.insert (p, lid) w.now }
  /-- A joiner lacks the mods of the room. -/
  | want {p lid mods xfer} :
    HubChange srv o w (join_need_mods p lid mods xfer)
      (w.hub.setClient p ({ · with pending_mod_lobby := some lid }))
  | report {p ip msg lid l kind} :
    msg.op = .path_report →
    msg.path.bind normalize_ice_path = some kind →
    w.hub.lobby_id_of p = some lid →
    w.hub.lobbies.lookup lid = some l →
    l.slots.any (Lobby.holds p) →
    HubChange srv o w (dispatch p ip msg) (w.hub.setLobby lid (·.reportPath p kind w.now))
  | create {p ip msg} :
    HubChange srv o w (create_insert p ip msg) (create_insert_step srv o w.hub p ip msg).1
  | sit {p ip lid msg l seat slot ep f seated} :
    (joinOutcome srv o w.hub p ip lid msg).2 = .Ok seated →
    w.hub.lobbies.lookup lid = some l →
    freeSeat l = some seat →
    slot.player_id = p →
    (∀ c : ClientMeta, (f c).player_id = c.player_id ∧ (f c).lobby_id = some lid ∧
      (f c).account = c.account ∧ (f c).pending_mod_lobby = c.pending_mod_lobby) →
    HubChange srv o w (join_seat p ip lid msg)
      ((w.hub.setLobby lid fun _ => l.sit seat slot ep).setClient p f)
  | kick {p ip msg lid l seat s} :
    w.hub.lobby_id_of p = some lid →
    w.hub.lobbies.lookup lid = some l →
    l.host_player_id = p →
    l.seat seat = some (some s) →
    s.player_id ≠ l.host_player_id →
    HubChange srv o w (dispatch p ip msg)
      ((w.hub.setLobby lid (·.kick seat)).setClient s.player_id ({ · with lobby_id := none }))
  /-- A client leaves whose departure closes its room, or whose room is gone. -/
  | unlink {p lid} :
    w.hub.lobby_id_of p = some lid →
    HubChange srv o w (client_leave p) (w.hub.setClient p ({ · with lobby_id := none }))
  | vacate {p lid l} :
    w.hub.lobby_id_of p = some lid →
    w.hub.lobbies.lookup lid = some l →
    l.host_player_id ≠ p →
    ¬ (l.automatch ∧ player_count l ≤ 2) →
    HubChange srv o w (client_leave p)
      ((w.hub.setClient p ({ · with lobby_id := none })).setLobby lid (·.vacate p))
  | destroy {lid l} :
    w.hub.lobbies.lookup lid = some l →
    HubChange srv o w (destroy_lobby lid)
      { w.hub with
        lobbies := w.hub.lobbies.erase lid
        clients := w.hub.clients.modifyEach l.member_ids ({ · with lobby_id := none }) }
  | drop {s p} :
    s = clients_remove p ∨ s = welcome p →
    HubChange srv o w s { w.hub with clients := w.hub.clients.erase p }
  | form {plan} :
    w.hub.lobbies.size < MAX_LOBBIES →
    w.hub.connected plan.p.a.player_id →
    w.hub.connected plan.p.b.player_id →
    HubChange srv o w (form_match_room plan)
      { w.hub with
        next_session := nextSession w.hub.next_session
        lobbies := w.hub.lobbies.insert o.uuid (matchLobby srv w.hub plan o.uuid)
        clients := w.hub.clients.modifyEach [plan.p.a.player_id, plan.p.b.player_id] fun c =>
          { c with lobby_id := some o.uuid, pending_mod_lobby := none } }

section
variable {srv : Server} {o : Answer} {w : World} {p ip : String} {msg : InMsg}

/-- The host of a room names the seat of somebody else. -/
structure Kicks (g : HubInner) (p : String) (msg : InMsg) (lid : String) (l : Lobby) (i : Nat)
    (s : Slot) : Prop where
  slot : msg.slot = some i
  noted : g.lobby_id_of p = some lid
  room : g.lobbies.lookup lid = some l
  host : l.host_player_id = p
  held : l.seat i = some (some s)
  other : s.player_id ≠ p

/-- How a kick ends: refused, and the hub is as it was, or with the seat empty and its client out of
the room. -/
inductive KickEnds (g : HubInner) (p : String) (msg : InMsg) : HubInner → Prop where
  | refused : (∀ lid l i s, ¬ Kicks g p msg lid l i s) → KickEnds g p msg g
  | kicked {lid l i s} :
    Kicks g p msg lid l i s →
    KickEnds g p msg ((g.setLobby lid (·.kick i)).setClient s.player_id
      ({ · with lobby_id := none }))

/-- **How a kick ends.** -/
lemma kick_ends (g : HubInner) (p : String) (msg : InMsg) :
    KickEnds g p msg (handle_kick g p msg).1 := by
  unfold handle_kick refuse
  cases hslot : msg.slot with
  | none => exact .refused fun _ _ _ _ k => by cases hslot.symm.trans k.slot
  | some i =>
    dsimp only
    cases hlid : g.lobby_id_of p with
    | none => exact .refused fun _ _ _ _ k => by cases hlid.symm.trans k.noted
    | some lid =>
      dsimp only
      have named : ∀ {lid' l' i' s'}, Kicks g p msg lid' l' i' s' →
          g.lobbies.lookup lid = some l' ∧ l'.seat i = some (some s') := by
        intro lid' l' i' s' k
        obtain rfl := Option.some.inj (hlid.symm.trans k.noted)
        obtain rfl := Option.some.inj (hslot.symm.trans k.slot)
        exact ⟨k.room, k.held⟩
      cases hl : g.lobbies.lookup lid with
      | none => exact .refused fun _ _ _ _ k => by cases hl.symm.trans (named k).1
      | some l =>
        dsimp only
        have here : ∀ {lid' l' i' s'}, Kicks g p msg lid' l' i' s' →
            l.host_player_id = p ∧ l.seat i = some (some s') ∧ s'.player_id ≠ p := by
          intro lid' l' i' s' k
          obtain rfl := Option.some.inj (hl.symm.trans (named k).1)
          exact ⟨k.host, (named k).2, k.other⟩
        split
        · rename_i guest
          exact .refused fun _ _ _ _ k => guest (here k).1
        · rename_i host
          split
          · rename_i held
            exact .refused fun _ _ _ _ k => by cases held.symm.trans (here k).2.1
          · rename_i held
            exact .refused fun _ _ _ _ k => by cases held.symm.trans (here k).2.1
          · rename_i s held
            split
            · rename_i own
              refine .refused fun _ _ _ s' k => ?_
              obtain rfl : s = s' := by simpa [held] using (here k).2.1
              exact own.elim (fun e => (here k).2.2 (e.trans (here k).1)) (here k).2.2
            · rename_i other
              exact .kicked ⟨hslot, hlid, hl, not_not.mp host, held, (not_or.mp other).2⟩

lemma handle_kick_change : HubChange srv o w (dispatch p ip msg) (handle_kick w.hub p msg).1 := by
  have ends := kick_ends w.hub p msg
  generalize (handle_kick w.hub p msg).1 = g' at ends ⊢
  cases ends with
  | refused => exact .keep (.refl _)
  | kicked k => exact .kick k.noted k.room k.host k.held fun e => k.other (e.trans k.host)

lemma handle_path_report_change (hop : msg.op = .path_report) :
    HubChange srv o w (dispatch p ip msg) (handle_path_report w.now w.hub p msg).1 := by
  unfold handle_path_report
  split
  · exact .keep (.refl _)
  · rename_i kind hk
    split
    · exact .keep (.refl _)
    · rename_i lid hlid
      split
      · exact .keep (.refl _)
      · rename_i l hl
        split
        · rename_i hin
          exact .report hop hk hlid hl hin
        · exact .keep (.refl _)

/-- Dropping grants keeps the hub. -/
lemma retain_keeps {g : HubInner} {f : String × String → Instant → Bool} :
    g.Keeps { g with probe_grants := g.probe_grants.retain f } where
  clients := (HubInner.Keeps.refl g).clients
  lobbies := (HubInner.Keeps.refl g).lobbies
  grants := fun k hk => by
    obtain ⟨a, ha⟩ := Assoc.Map.mem_iff.mp hk
    exact Assoc.Map.mem_iff.mpr ⟨a, (Assoc.Map.lookup_retain.mp ha).1⟩

lemma handle_probe_signal_change (hop : msg.op = .probe_signal) :
    HubChange srv o w (dispatch p ip msg) (handle_probe_signal w.now w.hub p msg).1 := by
  have spent : w.hub.Keeps (takeToken w.now w.hub p).1 := takeToken_keeps
  unfold handle_probe_signal
  split
  · exact .keep (.refl _)
  · dsimp only
    split
    · exact .keep (.refl _)
    · split
      · exact .keep spent
      · have pruned := spent.trans (retain_keeps (f := fun _ since =>
          decide (w.now - since < PROBE_GRANT_TTL)))
        split
        · exact .keep pruned
        · split
          · split <;> exact .keep pruned
          · split
            · exact .keep pruned
            · exact .grant hop pruned

lemma client_leave_change : HubChange srv o w (client_leave p) (client_leave_step w.hub p).1 := by
  unfold client_leave_step
  split
  · exact .keep (.refl _)
  · rename_i lid hlid
    dsimp only
    split
    · exact .unlink hlid
    · rename_i l hl
      split
      · exact .unlink hlid
      · rename_i hno
        obtain ⟨hhost, hauto⟩ := not_or.mp hno
        exact .vacate hlid hl hhost (by simpa using hauto)

/-- The seat that a joiner gets. -/
def joinerSlot (g : HubInner) (o : Answer) (p : String) (l : Lobby) : Slot where
  player_id := p
  display_name := unique_display_name l (((g.clients.lookup p).map (·.display_name)).getD "Guest")
    (some p) o.uuid
  country := ((g.clients.lookup p).map (·.country)).getD ""

/-- The row of a joiner that got its seat. -/
def joinerRow (g : HubInner) (o : Answer) (p lid : String) (l : Lobby) (c : ClientMeta) :
    ClientMeta :=
  { c with
    lobby_id := some lid
    display_name := (joinerSlot g o p l).display_name
    game_name := if l.game_name = "" then c.game_name else l.game_name }

/-- How a join ends: refused, and the hub is as it was, or with the joiner in a free seat. -/
inductive JoinEnds (srv : Server) (o : Answer) (g : HubInner) (p ip lid : String) (msg : InMsg) :
    HubInner × SeatResult → Prop where
  | refused {r} : (∀ s, r ≠ .Ok s) → JoinEnds srv o g p ip lid msg (g, r)
  | seated {l seat} :
    g.lobbies.lookup lid = some l →
    freeSeat l = some seat →
    JoinEnds srv o g p ip lid msg
      ((g.setLobby lid fun _ => l.sit seat (joinerSlot g o p l) (own_endpoint srv.parse_ip
          ((Text.nonempty msg.guest_bind).getD "0.0.0.0:7778") ip)).setClient p
        (joinerRow g o p lid l),
      .Ok
        { slot := seat
          session_id := l.session_id
          host_endpoint := l.host_endpoint
          guest_endpoint := own_endpoint srv.parse_ip
            ((Text.nonempty msg.guest_bind).getD "0.0.0.0:7778") ip
          match_caps := l.match_caps })

/-- **How a join ends.** -/
lemma join_ends (srv : Server) (o : Answer) (g : HubInner) (p ip lid : String) (msg : InMsg) :
    JoinEnds srv o g p ip lid msg (joinOutcome srv o g p ip lid msg) := by
  have refused : ∀ code, JoinEnds srv o g p ip lid msg (g, .Err code) :=
    fun code => .refused fun s h => by cases h
  unfold joinOutcome
  cases hl : g.lobbies.lookup lid with
  | none => exact refused _
  | some l =>
    have seat : JoinEnds srv o g p ip lid msg (seat_joiner_locked srv o g lid p ip
        ((Text.nonempty msg.guest_bind).getD "0.0.0.0:7778") msg.password msg.mod_offer) := by
      unfold seat_joiner_locked
      simp only [hl]
      cases passwordError srv l msg.password with
      | some code => exact refused _
      | none =>
        dsimp only
        split
        · exact .refused fun s h => by cases h
        · cases free : freeSeat l with
          | none => exact refused _
          | some seat => exact .seated hl free
    dsimp only
    -- The checks before the seat refuse on their own; past them the seat decides.
    split
    · exact refused _
    · split
      · exact refused _
      · split
        all_goals
          split_ifs <;> first
            | exact refused _
            | exact seat

/-- The hub after a join is the one its outcome carries. -/
lemma join_seat_step_hub (srv : Server) (o : Answer) (g : HubInner) (p ip lid : String)
    (msg : InMsg) :
    (join_seat_step srv o g p ip lid msg).1 = (joinOutcome srv o g p ip lid msg).1 := by
  unfold join_seat_step
  split
  all_goals
    rename_i h
    simp [h, refuse]

lemma join_seat_change {lid : String} :
    HubChange srv o w (join_seat p ip lid msg) (join_seat_step srv o w.hub p ip lid msg).1 := by
  rw [join_seat_step_hub]
  have ends := join_ends srv o w.hub p ip lid msg
  generalize outcome : joinOutcome srv o w.hub p ip lid msg = out at ends
  cases ends with
  | refused => exact .keep (.refl _)
  | seated hl free =>
    refine .sit (congrArg Prod.snd outcome) hl free ?_ ?_
    · rfl
    · exact fun c => ⟨rfl, rfl, rfl, rfl⟩

lemma dispatch_change (sized : w.hub.Sized) :
    HubChange srv o w (dispatch p ip msg) (dispatch_step srv o w.now w.hub p ip msg).1 := by
  unfold dispatch_step
  cases hop : msg.op with
  | ping | leave | get_turn_credentials | automatch_rulesets | automatch_cancel | desync_report
  | automatch_accept | other => exact .keep (.refl _)
  | hello => exact .keep handle_hello_keeps
  | list => exact .keep recordTitle_keeps
  | create => exact .keep handle_create_keeps
  | join => exact .keep handle_join_keeps
  | set_ready => exact .keep handle_set_ready_keeps
  | chat => exact .keep handle_chat_keeps
  | server_chat => exact .keep handle_server_chat_keeps
  | set_match_caps => exact .keep handle_set_match_caps_keeps
  | set_host_endpoint => exact .keep handle_set_host_endpoint_keeps
  | path_report => exact handle_path_report_change hop
  | start => exact .keep handle_start_keeps
  | kick => exact handle_kick_change
  | move => exact .keep handle_move_keeps
  | seat_move => exact .keep (handle_seat_move_keeps sized)
  | seat_swap_request => exact .keep handle_seat_swap_request_keeps
  | seat_swap_answer => exact .keep (handle_seat_swap_answer_keeps sized)
  | close => exact .keep handle_close_keeps
  | signal => exact .keep handle_signal_keeps
  | probe_signal => exact handle_probe_signal_change hop
  | mod_signal => exact .keep handle_mod_signal_keeps
  | mod_xfer_start => exact .keep handle_mod_xfer_start_keeps
  | mod_xfer_cancel => exact .keep handle_mod_xfer_cancel_keeps
  | mod_xfer_fail => exact .keep handle_mod_xfer_fail_keeps
  | set_blocks => exact .keep (HubInner.keeps_setClient fun c => ⟨rfl, rfl, id, id⟩)
  | automatch_queue => exact .keep handle_automatch_queue_keeps
  | automatch_rtt => exact .keep (HubInner.keeps_setClient fun c => ⟨rfl, rfl, id, id⟩)
  | chat_report => exact .keep handle_chat_report_keeps

end

/-- The sections under the queue's lock or on the database, and the waits of a start task. -/
def Section.off_hub : Section → Bool
  | start_failed .. | queue_account _ | queue_cooldown .. | queue_waiting .. | queue_ticket ..
  | queue_push .. | queue_pools .. | queue_set_rtt .. | queue_remove _ | queue_answer ..
  | settle_declined .. | settle_notify .. | requeue_if_here .. | requeue_front _ | record_strike ..
  | take_expired | status_push | form_match _ | form_match_gone _ | form_match_spawn _ => true
  | _ => false

/-- They change the queue, the strikes and the sleeping start tasks at most. -/
lemma exec_off_hub {srv : Server} {s : Section} {o : Answer} {w : World} (h : s.off_hub) :
    ∃ q st sp, (exec srv s o w).1 = { w with automatch := q, strikes := st, spawned := sp } := by
  cases s with
  | start_failed st lid ice code =>
    simp only [exec, start_failed_step]
    split <;> split_ifs <;> exact ⟨_, _, _, rfl⟩
  | queue_account req =>
    simp only [exec, queue_account_step]
    split_ifs
    · exact ⟨_, _, _, rfl⟩
    · exact ⟨_, _, _, rfl⟩
    · split <;> exact ⟨_, _, _, rfl⟩
  | queue_cooldown | queue_waiting | requeue_if_here =>
    simp only [exec, queue_cooldown_step, queue_waiting_step, requeue_if_here_step]
    split <;> exact ⟨_, _, _, rfl⟩
  | queue_ticket | queue_remove =>
    simp only [exec, queue_ticket_step, queue_remove_step]
    split <;> exact ⟨_, _, _, rfl⟩
  | queue_pools t keys rows => cases keys <;> exact ⟨_, _, _, rfl⟩
  | queue_answer p accept id =>
    simp only [exec, queue_answer_step]
    split
    · exact ⟨_, _, _, rfl⟩
    · split <;> exact ⟨_, _, _, rfl⟩
  | settle_declined | record_strike =>
    simp only [exec, settle_declined_step, record_strike_step]
    split <;> exact ⟨_, _, _, rfl⟩
  | form_match p =>
    simp only [exec, form_match_step]
    split
    · exact ⟨_, _, _, rfl⟩
    · split <;> exact ⟨_, _, _, rfl⟩
  | queue_push | queue_set_rtt | settle_notify | requeue_front | take_expired | status_push
  | form_match_gone | form_match_spawn => exact ⟨_, _, _, rfl⟩
  | _ => cases h

/-- What a section does to the hub. -/
theorem exec_change (srv : Server) (s : Section) (o : Answer) {w : World} (sized : w.hub.Sized) :
    HubChange srv o w s (exec srv s o w).1.hub := by
  have same : (exec srv s o w).1.hub = w.hub → HubChange srv o w s (exec srv s o w).1.hub :=
    fun e => .keep (e ▸ .refl _)
  have off : s.off_hub → HubChange srv o w s (exec srv s o w).1.hub := by
    intro h
    obtain ⟨q, st, sp, e⟩ := exec_off_hub h
    exact same (by rw [e])
  cases s with
  | send_to p m => exact same (World.send_hub w p m)
  | emit_lobby_update lid =>
    apply same
    simp only [exec, World.lift, emit_lobby_update_step]
    split <;> rfl
  | chat_system lid text =>
    apply same
    simp only [exec, World.lift, chat_system_step]
    split <;> rfl
  | destroy_lobby lid =>
    simp only [exec, World.lift, destroy_lobby_step]
    split
    · exact .keep (.refl _)
    · rename_i l hl
      exact .destroy hl
  | client_leave p => exact client_leave_change
  | welcome p =>
    simp only [exec, welcome_step]
    split
    · exact .keep (World.send_hub w p _ ▸ .refl _)
    · exact .drop (.inr rfl)
  | clients_remove p => exact .drop (.inl rfl)
  | list_tick p =>
    apply same
    simp only [exec, World.lift, list_tick_step]
    split <;> rfl
  | handle_text p ip text =>
    apply same
    simp only [exec, World.lift, handle_text_step]
    repeat' split
    all_goals rfl
  | dispatch p ip msg => exact dispatch_change sized
  | hello_session => exact .keep hello_session_keeps
  | hello_identity => exact .keep hello_identity_keeps
  | set_display_name => exact .keep (HubInner.keeps_setClient fun c => ⟨rfl, rfl, id, id⟩)
  | create_insert p ip msg => exact .create
  | join_seat p ip lid msg => exact join_seat_change
  | join_need_mods => exact .want
  | join_ok =>
    exact .keep (HubInner.keeps_setClient fun c => ⟨rfl, rfl, id, fun h => by cases h⟩)
  | start_prepare => exact .keep start_prepare_keeps
  | start_commit => exact .keep start_commit_keeps
  | form_match_room plan =>
    simp only [exec, form_match_room_step]
    split
    · exact .keep (.refl _)
    · rename_i hsize
      split
      · exact .keep (.refl _)
      · rename_i hc
        obtain ⟨ha, hb⟩ := not_or.mp hc
        exact .form (not_le.mp hsize) (by simpa using ha) (by simpa using hb)
  | start_reason p lid caps =>
    apply same
    simp only [exec, World.lift, start_reason_step]
    split <;> rfl
  | start_failed | queue_account | queue_cooldown | queue_waiting | queue_ticket | queue_pools
  | queue_remove | queue_answer | settle_declined | record_strike | requeue_if_here
  | form_match => exact off rfl
  | _ => exact .keep (.refl _)

/-! ## The queue -/

/-- What a section leaves in the queue. -/
def queueAfter (srv : Server) (s : Section) (o : Answer) (w : World) : QueueInner :=
  let q := w.automatch
  match s with
  | queue_push _ t => q.push t
  | queue_set_rtt p rtt => q.set_rtt p rtt
  | queue_remove p => (q.remove_player p).1
  | queue_answer p accept id => (q.answer_for p accept id).1
  | requeue_front t => q.requeue_front t w.now
  | take_expired => (q.take_expired srv.automatch_accept_secs w.now).1
  | run_pairing => (q.pair srv.automatch_rematch_cooldown_secs w.now o.match_ids).1
  | form_match p => q.note_pairing p.a.account_id p.b.account_id w.now
  | _ => q

/-- The sections that touch the queue, and what they do to it. -/
lemma exec_automatch (srv : Server) (s : Section) (o : Answer) (w : World) :
    (exec srv s o w).1.automatch = queueAfter srv s o w := by
  cases s with
  | send_to p m => exact World.send_automatch w p m
  | welcome p =>
    simp only [exec, welcome_step, queueAfter]
    split
    · exact World.send_automatch w p _
    · rfl
  | start_failed st lid ice code =>
    simp only [exec, start_failed_step, queueAfter]
    split <;> split_ifs <;> rfl
  | queue_account req =>
    simp only [exec, queue_account_step, queueAfter]
    split_ifs <;> first | rfl | (split <;> rfl)
  | queue_cooldown req keys =>
    simp only [exec, queue_cooldown_step, queueAfter]
    split_ifs <;> rfl
  | queue_waiting req keys =>
    simp only [exec, queue_waiting_step, queueAfter]
    split_ifs <;> rfl
  | queue_ticket req keys blocks =>
    simp only [exec, queue_ticket_step, queueAfter]
    split <;> rfl
  | queue_pools t keys rows => cases keys <;> rfl
  | queue_remove p =>
    simp only [exec, queue_remove_step, queueAfter]
    split <;> simp_all [World.setQueue]
  | queue_answer p accept id =>
    simp only [exec, queue_answer_step, queueAfter]
    split
    · simp_all [World.setQueue]
    · split_ifs <;> simp_all [World.setQueue]
  | settle_declined p loser kind =>
    simp only [exec, settle_declined_step, record_strike_step, queueAfter]
    split_ifs <;> rfl
  | record_strike a kind g =>
    simp only [exec, record_strike_step, queueAfter]
    split_ifs <;> rfl
  | requeue_if_here t reason =>
    simp only [exec, requeue_if_here_step, queueAfter]
    split_ifs <;> rfl
  | form_match p =>
    simp only [exec, form_match_step, queueAfter]
    split
    · rfl
    · split <;> rfl
  | form_match_room plan =>
    simp only [exec, form_match_room_step, queueAfter]
    split_ifs <;> rfl
  | _ => rfl

/-- Events leave the queue alone. -/
lemma apply_automatch (srv : Server) (w : World) (e : Event) :
    (e.apply srv w).automatch = w.automatch := by
  cases e with
  | ws_ping p => exact World.send_automatch w p _
  | _ => rfl

/-- Whoever is in the queue after a section was there before, unless the section put its ticket in. -/
lemma mem_roll_exec {srv : Server} {s : Section} {o : Answer} {w : World} {x}
    (h : x ∈ (exec srv s o w).1.automatch.roll) :
    x ∈ w.automatch.roll ∨
      ∃ t, (s = requeue_front t ∨ ∃ req, s = queue_push req t) ∧ x = t.who := by
  rw [exec_automatch] at h
  cases s with
  | queue_push req t =>
    rcases List.mem_cons.mp ((QueueInner.roll_push _ t).subset h) with rfl | h
    · exact .inr ⟨t, .inr ⟨req, rfl⟩, rfl⟩
    · exact .inl h
  | requeue_front t =>
    rcases List.mem_cons.mp h with rfl | h
    · exact .inr ⟨t, .inl rfl, rfl⟩
    · exact .inl h
  | queue_set_rtt p rtt => exact .inl ((QueueInner.roll_set_rtt _ p rtt) ▸ h)
  | queue_remove p => exact .inl ((QueueInner.roll_remove_player _ p).subset h)
  | queue_answer p accept id => exact .inl ((QueueInner.roll_answer_for _ p accept id).subset h)
  | take_expired => exact .inl ((QueueInner.roll_take_expired _ _ _).subset h)
  | run_pairing => exact .inl ((QueueInner.roll_pair _ _ _ _).subset h)
  | _ => exact .inl h

end RecompNet
