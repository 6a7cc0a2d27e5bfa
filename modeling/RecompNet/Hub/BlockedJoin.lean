import RecompNet.Hub.Server

/-!
# A join across a block

What a client hears that asks for a room whose host it blocked, or was blocked by. The check stands before
every other check of the room, so that the answer does not depend on the room; but its code is
`no_such_lobby`, and that of a room that is not there is `gone`.
-/

namespace RecompNet

open Section Interleave

/-- The frames that a client is sent on the way from one world to a later one. -/
def heard (w w' : World) (p : String) : List OutMsg :=
  ((w'.sent.drop w.sent.length).filter (·.1 = p)).map (·.2)

/-- The frames that a client is sent while the handler of its message runs alone, and what of the handler
is left when the answers are used up. -/
def repliesTo (srv : Server) (os : List Answer) (w : World) (p peer_ip : String) (msg : InMsg) :
    List OutMsg × List Section :=
  let r := (hubMachine srv).solo os [handle_text p peer_ip (.ok msg)] w
  (heard w r.1 p, r.2)

/-- The hub without one room. -/
def HubInner.without (g : HubInner) (lid : String) : HubInner :=
  { g with lobbies := g.lobbies.erase lid }

/-- The world without one room. -/
def World.without (w : World) (lid : String) : World := w.setHub (w.hub.without lid)

/-- Is a join turned away before the room is looked up? The server's name and password checks refuse it,
it comes from a connection that must sign in first, or the client is in a room. -/
def TurnedAway (srv : Server) (g : HubInner) (p : String) (msg : InMsg) : Prop :=
  (∃ code, sanitize_in_place srv msg = .error code) ∨ (srv.require_login ∧ ¬ g.authed p) ∨
    (g.lobby_id_of p).isSome

/-- The answer to a join that the room's own checks refuse with `code`. -/
def joinReply (srv : Server) (g : HubInner) (p : String) (msg : InMsg) (code : Code) :
    List OutMsg :=
  match sanitize_in_place srv msg with
  | .error bad => [.error bad]
  | .ok _ =>
    if srv.require_login ∧ !g.authed p then []
    else if (g.lobby_id_of p).isSome then [.error .already_in_lobby]
    else [.error code]

/-- Cleaning a message changes neither its op nor the room it names. -/
lemma sanitize_in_place_keeps {srv : Server} {msg msg' : InMsg}
    (h : sanitize_in_place srv msg = .ok msg') :
    msg'.op = msg.op ∧ msg'.lobby_id = msg.lobby_id := by
  unfold sanitize_in_place at h
  dsimp only at h
  split_ifs at h
  cases h
  exact ⟨rfl, rfl⟩

/-- A new display name has nothing to do with blocks. -/
lemma blocked_between_rename {g : HubInner} {p name q : String} :
    blocked_between (handle_set_display_name g p name).1 p q = blocked_between g p q := by
  have row : ∀ x, ((handle_set_display_name g p name).1.clients.lookup x).map
      (fun c => (c.account_id, c.blocks)) =
      (g.clients.lookup x).map fun c => (c.account_id, c.blocks) := by
    intro x
    simp only [handle_set_display_name, HubInner.setClient, Assoc.Map.lookup_modify]
    split
    · rw [Option.map_map]
      rfl
    · rfl
  have hp := row p
  have hq := row q
  unfold blocked_between
  generalize (handle_set_display_name g p name).1.clients.lookup p = x at hp ⊢
  generalize (handle_set_display_name g p name).1.clients.lookup q = y at hq ⊢
  cases x <;> cases y <;> cases h : g.clients.lookup p <;> cases h' : g.clients.lookup q <;>
    simp_all

/-- A handler that has one frame left to send. -/
lemma solo_send {srv : Server} {o : Answer} {os : List Answer} {w : World} {p : String} {m : OutMsg} :
    (hubMachine srv).solo (o :: os) [send_to p m] w = (w.send p m, []) := by
  rw [Machine.solo_cons]
  exact Machine.solo_done _ os _

/-- The frame that a connected client is sent is what it hears. -/
lemma heard_send {w w' : World} {p : String} {m : OutMsg} (hc : w'.hub.connected p)
    (same : w'.sent = w.sent) : heard w (w'.send p m) p = [m] := by
  unfold heard World.send
  rw [if_pos hc, same]
  simp

/-- Nothing is heard when nothing is sent. -/
lemma heard_nothing {w : World} {p : String} : heard w w p = [] := by
  simp [heard]

/-- The last sections of a join that the room's checks refuse. -/
lemma join_seat_alone {srv : Server} {o o' : Answer} {os : List Answer} {w w' : World}
    {p ip lid : String} {msg : InMsg} {code : Code} (hc : w'.hub.connected p)
    (same : w'.sent = w.sent)
    (refused : joinOutcome srv o w'.hub p ip lid msg = (w'.hub, .Err code)) :
    let r := (hubMachine srv).solo (o :: o' :: os) [join_seat p ip lid msg] w'
    (heard w r.1 p, r.2) = ([.error code], []) := by
  have step : exec srv (join_seat p ip lid msg) o w' = (w', [send_to p (.error code)]) := by
    simp only [exec, join_seat_step, refused]
    rfl
  have run : (hubMachine srv).solo (o :: o' :: os) [join_seat p ip lid msg] w' =
      (w'.send p (.error code), []) := by
    rw [Machine.solo_cons]
    show (hubMachine srv).solo (o' :: os) ((exec srv (join_seat p ip lid msg) o w').2 ++ [])
      (exec srv (join_seat p ip lid msg) o w').1 = _
    rw [step]
    exact solo_send
  rw [run]
  exact Prod.ext (heard_send hc same) rfl

/-- A new display name signs nobody off. -/
lemma connected_rename {g : HubInner} {p name q : String} :
    (handle_set_display_name g p name).1.connected q = g.connected q := by
  simp only [handle_set_display_name, HubInner.setClient, HubInner.connected, Assoc.Map.lookup_modify]
  split
  · rw [Option.isSome_map]
  · rfl

/-- A join past the gates, run alone, when the room's checks refuse it. -/
lemma dispatch_join_alone {srv : Server} {o1 o2 o3 o4 : Answer} {os : List Answer} {w : World}
    {p ip lid : String} {msg : InMsg} {code : Code} (hc : w.hub.connected p)
    (hop : msg.op = .join) (hlid : Text.nonempty msg.lobby_id = some lid)
    (refused : ∀ g', g' = w.hub ∨ (∃ name, g' = (handle_set_display_name w.hub p name).1) →
      ∀ o msg', joinOutcome srv o g' p ip lid msg' = (g', .Err code)) :
    let r := (hubMachine srv).solo (o1 :: o2 :: o3 :: o4 :: os) [dispatch p ip msg] w
    (heard w r.1 p, r.2) =
      ([.error (if (w.hub.lobby_id_of p).isSome then .already_in_lobby else code)], []) := by
  intro r
  have first : r = (hubMachine srv).solo (o2 :: o3 :: o4 :: os)
      ((handle_join w.hub p ip msg).2 ++ []) (w.setHub (handle_join w.hub p ip msg).1) := by
    simp only [r, Machine.solo_cons]
    simp only [hubMachine, exec, dispatch_step, hop, World.lift]
  unfold handle_join at first
  simp only [hlid] at first
  by_cases inside : (w.hub.lobby_id_of p).isSome
  · rw [if_pos inside] at first ⊢
    have told : r = (w.send p (.error .already_in_lobby), []) := first.trans solo_send
    rw [told]
    exact Prod.ext (heard_send hc rfl) rfl
  · rw [if_neg inside] at first ⊢
    rw [first]
    cases hn : Text.nonempty msg.display_name with
    | none => exact join_seat_alone hc rfl (refused _ (.inl rfl) _ _)
    | some dn =>
      have seat := @join_seat_alone srv o3 o4 os w
        (w.setHub (handle_set_display_name w.hub p dn).1) p ip lid msg code
        (connected_rename.trans hc) rfl (refused _ (.inr ⟨dn, rfl⟩) o3 msg)
      exact seat

/-- A message is read and gated in one section. -/
lemma repliesTo_gated {srv : Server} {o : Answer} {os : List Answer} {w : World} {p ip : String}
    {msg : InMsg} {ss : List Section}
    (h : handle_text_step srv w.hub p ip (.ok msg) = (w.hub, ss)) :
    repliesTo srv (o :: os) w p ip msg =
      (heard w ((hubMachine srv).solo os ss w).1 p, ((hubMachine srv).solo os ss w).2) := by
  have first : (hubMachine srv).solo (o :: os) [handle_text p ip (.ok msg)] w =
      (hubMachine srv).solo os ss w := by
    rw [Machine.solo_cons]
    simp only [hubMachine, exec, World.lift, h, List.append_nil]
    rfl
  unfold repliesTo
  rw [first]

/-- A whole join, run alone, when the room's checks refuse it. -/
lemma join_alone {srv : Server} {os : List Answer} {w : World} {p ip lid : String} {msg : InMsg}
    {code : Code} (hc : w.hub.connected p) (hop : msg.op = .join)
    (hlid : Text.nonempty msg.lobby_id = some lid) (hos : 5 ≤ os.length)
    (refused : ∀ g', g' = w.hub ∨ (∃ name, g' = (handle_set_display_name w.hub p name).1) →
      ∀ o msg', joinOutcome srv o g' p ip lid msg' = (g', .Err code)) :
    repliesTo srv os w p ip msg = (joinReply srv w.hub p msg code, []) := by
  obtain ⟨o1, o2, o3, o4, o5, os, rfl⟩ : ∃ o1 o2 o3 o4 o5 os', os =
      o1 :: o2 :: o3 :: o4 :: o5 :: os' := by
    match os, hos with
    | o1 :: o2 :: o3 :: o4 :: o5 :: os, _ => exact ⟨o1, o2, o3, o4, o5, os, rfl⟩
  unfold joinReply
  cases hs : sanitize_in_place srv msg with
  | error bad =>
    have step : handle_text_step srv w.hub p ip (.ok msg) =
        (w.hub, [send_to p (.error bad)]) := by
      simp only [handle_text_step, hs]
      rfl
    rw [repliesTo_gated step, solo_send]
    exact Prod.ext (heard_send hc rfl) rfl
  | ok msg' =>
    obtain ⟨hop', hlid'⟩ := sanitize_in_place_keeps hs
    rw [hop] at hop'
    rw [← hlid'] at hlid
    by_cases shut : srv.require_login ∧ !w.hub.authed p
    · have step : handle_text_step srv w.hub p ip (.ok msg) = (w.hub, []) := by
        simp only [handle_text_step, hs, hop']
        exact if_pos ⟨shut.1, rfl, shut.2⟩
      rw [repliesTo_gated step, Machine.solo_done]
      simp only [if_pos shut]
      exact Prod.ext heard_nothing rfl
    · have step : handle_text_step srv w.hub p ip (.ok msg) = (w.hub, [dispatch p ip msg']) := by
        simp only [handle_text_step, hs, hop']
        exact if_neg fun h => shut ⟨h.1, h.2.2⟩
      have rest := @dispatch_join_alone srv o2 o3 o4 o5 os w p ip lid msg' _ hc hop' hlid refused
      rw [repliesTo_gated step]
      simp only [if_neg shut]
      rw [rest]
      split <;> rfl

/-- The checks of a join find nothing where there is no room. -/
lemma joinOutcome_gone {srv : Server} {o : Answer} {g : HubInner} {p ip lid : String} {msg : InMsg}
    (h : g.lobbies.lookup lid = none) : joinOutcome srv o g p ip lid msg = (g, .Err .gone) := by
  simp only [joinOutcome, h]

/-- The checks of a join stop at a block. -/
lemma joinOutcome_blocked {srv : Server} {o : Answer} {g : HubInner} {p ip lid : String}
    {msg : InMsg} {l : Lobby} (h : g.lobbies.lookup lid = some l) (host : l.host_player_id ≠ "")
    (hb : blocked_between g p l.host_player_id) :
    joinOutcome srv o g p ip lid msg = (g, .Err .no_such_lobby) := by
  simp only [joinOutcome, h, if_pos (And.intro host hb)]

/-- Who is blocked is connected. -/
lemma blocked_between_connected {g : HubInner} {p q : String} (h : blocked_between g p q) :
    g.connected p := by
  unfold blocked_between at h
  unfold HubInner.connected
  cases hp : g.clients.lookup p with
  | none => simp [hp] at h
  | some c => rfl

/-- **A join for the room of a blocked host.** Its reply is that of a join for a room that is gone exactly
when it is turned away before the room is looked up. -/
theorem blocked_join_iff {srv : Server} {os : List Answer} {w : World} {p ip lid : String}
    {msg : InMsg} {l : Lobby} (hl : w.hub.lobbies.lookup lid = some l)
    (host : l.host_player_id ≠ "") (hb : blocked_between w.hub p l.host_player_id)
    (hop : msg.op = .join) (hlid : Text.nonempty msg.lobby_id = some lid) (hos : 5 ≤ os.length) :
    repliesTo srv os w p ip msg = repliesTo srv os (w.without lid) p ip msg ↔
      TurnedAway srv w.hub p msg := by
  have hc := blocked_between_connected hb
  have here : repliesTo srv os w p ip msg = (joinReply srv w.hub p msg .no_such_lobby, []) := by
    refine join_alone hc hop hlid hos ?_
    rintro g' (rfl | ⟨name, rfl⟩) o msg'
    · exact joinOutcome_blocked hl host hb
    · exact joinOutcome_blocked (by exact hl) host (blocked_between_rename.trans hb)
  have there : repliesTo srv os (w.without lid) p ip msg = (joinReply srv w.hub p msg .gone, []) := by
    have gone : (w.hub.without lid).lobbies.lookup lid = none := by
      simp [HubInner.without]
    refine join_alone (w := w.without lid) hc hop hlid hos ?_
    rintro g' (rfl | ⟨name, rfl⟩) o msg'
    · exact joinOutcome_gone gone
    · exact joinOutcome_gone gone
  rw [here, there]
  unfold joinReply TurnedAway
  cases sanitize_in_place srv msg with
  | error bad => simp
  | ok msg' =>
    dsimp only
    by_cases shut : srv.require_login ∧ !w.hub.authed p
    · rw [if_pos shut, if_pos shut]
      rw [Bool.not_eq_true'] at shut
      simp [shut]
    · rw [if_neg shut, if_neg shut]
      by_cases inside : (w.hub.lobby_id_of p).isSome
      · rw [if_pos inside, if_pos inside]
        simp [inside]
      · rw [if_neg inside, if_neg inside]
        simpa [inside] using shut

/-- A player opens a room and blocks another one. -/
def blocksAfterCreate (p q room : String) : List Move :=
  let o := draw "9d3c7a55-51b0-4c11-b1ab-3e0c5b7d8e44"
  signIn p alice o ++ signIn q bob o ++ [say p { op := .create }] ++
    steps (.conn p) 3 (draw room) ++ steps (.conn p) 2 o ++
    [say p { op := .set_blocks, accounts := some [bob.id] }] ++
    steps (.conn p) 2 o

/-- Is there a room of this id whose host blocked the player, and is the player free to join? -/
def hostBlocks (room q : String) (w : World) : Bool :=
  (w.hub.lobbies.lookup room).any fun l =>
    l.host_player_id != "" && blocked_between w.hub q l.host_player_id &&
      !(w.hub.lobby_id_of q).isSome

/-- The run of that schedule, and a join of the player that is blocked. -/
lemma blocks_after_create_run : ∃ c tr q lid l, HubRun sampleServer c tr ∧
    c.world.hub.lobbies.lookup lid = some l ∧ l.host_player_id ≠ "" ∧
    blocked_between c.world.hub q l.host_player_id ∧ Text.nonempty (some lid) = some lid ∧
    ¬ TurnedAway sampleServer c.world.hub q { op := .join, lobby_id := some lid } := by
  let p := "6b0f1e52-3c1d-4a86-9a53-0d5f6f1c2a11"
  let q := "c4d1c1a0-5f0e-4a53-8d43-9f4b1f7f3b22"
  let room := "1f8a9f0e-7d2b-4b57-8f6f-2f6f2b0c9d01"
  let test : HubSnapshot × List HubLabel → Bool := fun x => hostBlocks room q x.1.world
  have h : ((hubMachine sampleServer).follow (blocksAfterCreate p q room)).any test := by
    decide +kernel
  obtain ⟨c, tr, r, ht, -⟩ := Machine.follow_reaches h
  obtain ⟨l, hl, hb⟩ := (Option.any_eq_true _ _).mp ht
  simp only [Bool.and_eq_true, Bool.not_eq_true', bne_iff_ne] at hb
  refine ⟨c, tr, q, room, l, r, hl, hb.1.1, hb.1.2, by decide, ?_⟩
  rintro (⟨code, bad⟩ | ⟨shut, -⟩ | inside)
  · cases bad
  · cases shut
  · simp [hb.2] at inside

theorem blocked_join_iff_blocks_after_create : ∃ c tr q lid, HubRun sampleServer c tr ∧
    ∀ os : List Answer, 5 ≤ os.length →
      (repliesTo sampleServer os c.world q "" { op := .join, lobby_id := some lid } =
        repliesTo sampleServer os (c.world.without lid) q "" { op := .join, lobby_id := some lid } ↔
      TurnedAway sampleServer c.world.hub q { op := .join, lobby_id := some lid }) := by
  obtain ⟨c, tr, q, lid, l, r, hl, host, hb, hlid, -⟩ := blocks_after_create_run
  exact ⟨c, tr, q, lid, r, fun os hos => blocked_join_iff hl host hb rfl hlid hos⟩

/-- The blocked player is told that the room is not there, in a word that no closed room answers with. -/
theorem blocked_join_tells :
    ¬ ∀ srv c tr os p ip lid msg l, HubRun srv c tr → c.world.hub.lobbies.lookup lid = some l →
      l.host_player_id ≠ "" → blocked_between c.world.hub p l.host_player_id → msg.op = .join →
      Text.nonempty msg.lobby_id = some lid → 5 ≤ os.length →
      repliesTo srv os c.world p ip msg = repliesTo srv os (c.world.without lid) p ip msg := by
  intro all
  obtain ⟨c, tr, q, lid, l, r, hl, host, hb, hlid, free⟩ := blocks_after_create_run
  have hos : 5 ≤ (List.replicate 5 (draw "room")).length := by decide
  have same := all sampleServer c tr _ q "" lid { op := .join, lobby_id := some lid } l r hl host hb
    rfl hlid hos
  exact free ((blocked_join_iff hl host hb rfl hlid hos).mp same)

end RecompNet
