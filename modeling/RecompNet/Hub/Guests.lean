import RecompNet.Hub.Calls
import RecompNet.Hub.Origin
import RecompNet.Hub.Passes

/-!
# Guests

What a connection without an account may do. `GuestPolicy` and `guest_refusal` (`identity.rs`) are the
policy that the configuration asks for; the gate of `handle_text` is built from `discord_required`
alone, so the two levers for chat and for hosting act on a closed server only, where they are not needed.
-/

namespace RecompNet

open Section Interleave

/-- The fields of the configuration that the policy is made of. -/
structure Config where
  discord_required : Bool := false
  guest_can_chat : Bool := true
  guest_can_host : Bool := true

/-- What an unauthenticated client is allowed to do. -/
structure GuestPolicy where
  discord_required : Bool := false
  can_chat : Bool := true
  can_host : Bool := true

def GuestPolicy.from_config (c : Config) : GuestPolicy where
  discord_required := c.discord_required
  can_chat := c.guest_can_chat
  can_host := c.guest_can_host

/-- Why a guest was turned away from `op`, or `none` when it may proceed. -/
def guest_refusal (p : GuestPolicy) (op : String) : Option String :=
  if op ∉ ["chat", "server_chat", "create"] then none
  else if p.discord_required then some "login_required"
  else if (op = "chat" ∨ op = "server_chat") ∧ !p.can_chat then some "login_required_chat"
  else if op = "create" ∧ !p.can_host then some "login_required_host"
  else none

/-- `WsLobbyHub::with_require_login`, with the switch that `main` passes. -/
def Server.with_config (srv : Server) (config : Config) : Server :=
  { srv with require_login := config.discord_required }

/-- Is the frame a relayed chat line? -/
def OutMsg.is_line (m : OutMsg) : Prop := m.kind = .chat ∨ m.kind = .server_chat

/-- A line that a connection sent while it had no account is on a channel. -/
def RelaysGuestLine (srv : Server) (c : HubSnapshot) (tr : List HubLabel) : Prop :=
  ∃ t p ip msg o pre q m, .ran t (dispatch p ip msg) o pre ∈ tr ∧ ¬ pre.world.hub.authed p ∧
    m.is_line ∧ send_to q m ∈ (exec srv (dispatch p ip msg) o pre.world).2 ∧ (q, m) ∈ c.world.sent

/-- A connection without an account is the host of a room. -/
def GuestHosts (c : HubSnapshot) : Prop :=
  ∃ lid l, c.world.hub.lobbies.lookup lid = some l ∧
    c.world.hub.connected l.host_player_id ∧ ¬ c.world.hub.authed l.host_player_id

/-- The messages of connections without an account that are dispatched are those that the policy lets
through. -/
def DispatchAgrees (srv : Server) (policy : GuestPolicy) (tr : List HubLabel) : Prop :=
  ∀ t p ip text o pre msg, .ran t (handle_text p ip text) o pre ∈ tr → ¬ pre.world.hub.authed p →
    dispatch p ip msg ∈ (exec srv (handle_text p ip text) o pre.world).2 →
    guest_refusal policy msg.op.text = none

/-! ## A closed server -/

/-- Who has a line relayed is connected. -/
lemma line_connected {srv o w p ip msg q m}
    (h : send_to q m ∈ (exec srv (dispatch p ip msg) o w).2) (hm : m.is_line) :
    w.hub.connected p := by
  have hk := exec_calls _ h
  have op : msg.op = .chat ∨ msg.op = .server_chat := by
    cases hop : msg.op <;> rcases hm with hm | hm <;> simp [hop, hm] at hk ⊢
  have refused : ∀ {g : HubInner} {code}, send_to q m ∉ (refuse g p code).2 := by
    intro g code h
    cases List.mem_singleton.mp h
    rcases hm with hm | hm <;> cases hm
  rcases op with hop | hop <;> simp only [exec, World.lift, dispatch_step, hop] at h
  · unfold handle_chat at h
    split at h
    · cases h
    · cases hc : w.hub.clients.lookup p with
      | none =>
        simp only [HubInner.lobby_id_of, hc, Option.bind_none] at h
        exact absurd h refused
      | some c => exact connected_iff.mpr ⟨c, hc⟩
  · unfold handle_server_chat at h
    split at h
    · cases h
    · dsimp only at h
      split at h
      · exact absurd h refused
      · split at h
        · cases h
        · rename_i c hc
          obtain ⟨c1, hc1, -⟩ := lookup_setClient_back hc
          cases hgame : Text.nonempty msg.game_name with
          | none =>
            simp only [HubInner.recordTitle, hgame] at hc1
            exact connected_iff.mpr ⟨c1, hc1⟩
          | some game =>
            simp only [HubInner.recordTitle, hgame] at hc1
            obtain ⟨c2, hc2, -⟩ := lookup_setClient_back hc1
            exact connected_iff.mpr ⟨c2, hc2⟩

/-- On a closed server, nobody hears a line of a guest. -/
lemma closed_relays_none {srv c tr} (r : HubRun srv c tr) (closed : srv.require_login) :
    ¬ RelaysGuestLine srv c tr := by
  rintro ⟨t, p, ip, msg, o, pre, q, m, ran, guest, line, sends, -⟩
  obtain ⟨rest, earlier, r', -, e⟩ := Run.ran_pending r ran
  have known := (HubRun.all_known r').2 t _ (e ▸ List.mem_cons_self)
  rcases known with ⟨-, safe⟩ | free
  · exact guest (safe closed (line_connected sends line))
  · have hk := exec_calls _ sends
    cases hop : msg.op <;> rcases line with hm | hm <;> simp [hop, hm] at hk
    all_goals simp [hop, ClientOp.open_to_guests] at free

/-- On a closed server, no guest hosts a room. -/
lemma closed_hosts_none {srv c tr} (r : HubRun srv c tr) (closed : srv.require_login) :
    ¬ GuestHosts c := by
  rintro ⟨lid, l, hl, conn, guest⟩
  have known := (HubRun.all_known r).1.host lid l hl
  exact guest (known.2 closed conn)

/-- What the gate lets through. -/
lemma dispatched_open {srv o w p ip text msg}
    (h : dispatch p ip msg ∈ (exec srv (handle_text p ip text) o w).2) (guest : ¬ w.hub.authed p)
    (closed : srv.require_login) : msg.op.open_to_guests := by
  simp only [exec, World.lift, handle_text_step] at h
  split at h
  · cases List.mem_singleton.mp h
  · split at h
    · cases List.mem_singleton.mp h
    · split at h
      · cases h
      · rename_i open_
        cases List.mem_singleton.mp h
        by_contra shut
        exact open_ ⟨closed, by simpa using shut, by simpa using guest⟩

/-- The policy turns nobody away from the ops that are open to guests. -/
lemma refusal_open {policy : GuestPolicy} {op : ClientOp} (h : op.open_to_guests) :
    guest_refusal policy op.text = none := by
  cases op with
  | hello | ping => simp [guest_refusal, ClientOp.text]
  | _ => cases h

/-- A policy that leaves both levers alone turns nobody away on an open server. -/
lemma refusal_none {policy : GuestPolicy} {op : String} (hd : policy.discord_required = false)
    (hc : policy.can_chat) (hh : policy.can_host) : guest_refusal policy op = none := by
  simp [guest_refusal, hd, hc, hh]

/-! ## An open server -/

/-- A connection that never signs in. -/
def visitor : String := "c4d1c1a0-5f0e-4a53-8d43-9f4b1f7f3b22"

def visitorAnswer : Answer := draw "1f8a9f0e-7d2b-4b57-8f6f-2f6f2b0c9d01"

/-- The world in which it has been welcomed. -/
def visitorWorld (srv : Server) : World where
  hub := { clients := AList.insert visitor (freshClient srv visitor "198.51.100.4") ∅ }
  issued := [visitor]
  sent := [(visitor, .welcome visitor)]

lemma visitor_possible {w : World} (issued : w.issued = [visitor])
    (idle : w.automatch.tickets = []) : visitorAnswer.possible w := by
  unfold Answer.possible
  rw [issued, idle]
  decide

/-- A message that passes `sanitize_in_place` is dispatched on an open server, first thing. -/
lemma visitor_dispatched {srv : Server} (msg : InMsg) (open_ : srv.require_login = false)
    (clean : sanitize_in_place srv msg = .ok msg) :
    ∃ c tr, HubRun srv c tr ∧ c.world = visitorWorld srv ∧
      c.pending (.conn visitor) = [dispatch visitor "198.51.100.4" msg] ∧
      ∀ policy, DispatchAgrees srv policy tr → guest_refusal policy msg.op.text = none := by
  let M := hubMachine srv
  let t : Tid := .conn visitor
  let ip := "198.51.100.4"
  let c1 := M.afterEvent ⟨M.start, fun _ => []⟩ (.connect visitor ip)
  let c2 := M.afterRun c1 t (welcome visitor) [] visitorAnswer
  let c3 := M.afterEvent c2 (.text visitor (.ok msg))
  let c4 := M.afterRun c3 t (handle_text visitor ip (.ok msg)) [] visitorAnswer
  have r1 : HubRun srv c1 _ :=
    Run.start.step (.event rfl (show visitor ≠ "" ∧ visitor ∉ ([] : List String) by decide))
  have r2 : HubRun srv c2 _ := r1.step (.run rfl (visitor_possible rfl rfl))
  have r3 : HubRun srv c3 _ := r2.step (.event rfl rfl)
  have r4 : HubRun srv c4 _ := r3.step (.run rfl (visitor_possible rfl rfl))
  have step : handle_text_step srv (visitorWorld srv).hub visitor ip (.ok msg) =
      ((visitorWorld srv).hub, [dispatch visitor ip msg]) := by
    simp [handle_text_step, clean, open_]
  have out : (exec srv (handle_text visitor ip (.ok msg)) visitorAnswer c3.world).2 =
      [dispatch visitor ip msg] := congrArg Prod.snd step
  refine ⟨c4, _, r4, ?_, ?_, fun policy agrees => ?_⟩
  · exact congrArg (fun x => World.setHub (visitorWorld srv) x.1) step
  · show _ ++ [] = _
    rw [List.append_nil]
    exact out
  · refine agrees t visitor ip (.ok msg) visitorAnswer c3 msg List.mem_cons_self ?_ ?_
    · exact Bool.false_ne_true
    · exact out ▸ List.mem_singleton_self _

/-- A chat line of the visitor. -/
def visitorLine : InMsg where
  op := .server_chat
  text := some "anyone for a match?"
  game_name := some "Example Game"

/-- On every open server a guest chats. -/
lemma open_relays {srv : Server} (open_ : srv.require_login = false) :
    ∃ c tr, HubRun srv c tr ∧ RelaysGuestLine srv c tr := by
  obtain ⟨c, tr, r, world, pending, -⟩ := visitor_dispatched visitorLine open_ rfl
  let s := dispatch visitor "198.51.100.4" visitorLine
  have alone : ¬ (visitorWorld srv).hub.authed visitor := Bool.false_ne_true
  obtain ⟨m, started, conn, line⟩ : ∃ m,
      (exec srv s visitorAnswer (visitorWorld srv)).2 = [send_to visitor m] ∧
      (exec srv s visitorAnswer (visitorWorld srv)).1.hub.connected visitor ∧ m.is_line :=
    ⟨_, rfl, rfl, .inr rfl⟩
  have possible : visitorAnswer.possible (visitorWorld srv) ∧
      visitorAnswer.possible (exec srv s visitorAnswer (visitorWorld srv)).1 :=
    ⟨visitor_possible rfl rfl, visitor_possible rfl rfl⟩
  rw [← world] at alone started conn possible
  obtain ⟨r1, pending1⟩ := r.run_next pending possible.1
  obtain ⟨r2, -⟩ := r1.run_next (pending1.trans (congrArg (· ++ []) started)) possible.2
  refine ⟨_, _, r2, .conn visitor, visitor, "198.51.100.4", visitorLine, visitorAnswer, c, visitor, m,
    ?_, alone, line, ?_, ?_⟩
  · exact List.mem_cons_of_mem _ List.mem_cons_self
  · exact started ▸ List.mem_singleton_self _
  · refine (HubRun.mem_sent r2).mpr ⟨_, List.mem_cons_self, ?_⟩
    have sent : frameTo (exec srv s visitorAnswer c.world).1.hub visitor m = [(visitor, m)] :=
      if_pos conn
    show (visitor, m) ∈ frameTo (exec srv s visitorAnswer c.world).1.hub visitor m
    exact sent ▸ List.mem_singleton_self _

/-- On every open server a guest hosts a room. -/
lemma open_hosts {srv : Server} (open_ : srv.require_login = false) :
    ∃ c tr, HubRun srv c tr ∧ GuestHosts c := by
  let msg : InMsg := { op := .create }
  obtain ⟨c, tr, r, world, pending, -⟩ := visitor_dispatched msg open_ rfl
  let s := dispatch visitor "198.51.100.4" msg
  let s' := create_insert visitor "198.51.100.4" msg
  obtain ⟨started, hosts⟩ : exec srv s visitorAnswer (visitorWorld srv) = (visitorWorld srv, [s']) ∧
      ∃ lid l, (exec srv s' visitorAnswer (visitorWorld srv)).1.hub.lobbies.lookup lid = some l ∧
        (exec srv s' visitorAnswer (visitorWorld srv)).1.hub.connected l.host_player_id ∧
        ¬ (exec srv s' visitorAnswer (visitorWorld srv)).1.hub.authed l.host_player_id :=
    ⟨rfl, visitorAnswer.uuid, createdLobby srv (visitorWorld srv).hub visitorAnswer visitor
      "198.51.100.4" msg, rfl, rfl, Bool.false_ne_true⟩
  have possible : visitorAnswer.possible (visitorWorld srv) := visitor_possible rfl rfl
  rw [← world] at started hosts possible
  have same : ((hubMachine srv).exec s visitorAnswer c.world).1 = c.world :=
    congrArg Prod.fst started
  obtain ⟨r1, pending1⟩ := r.run_next pending possible
  have later : ((hubMachine srv).afterRun c (.conn visitor) s [] visitorAnswer).world = c.world := same
  obtain ⟨r2, -⟩ := r1.run_next (pending1.trans (congrArg (·.2 ++ []) started))
    (show visitorAnswer.possible _ from later.symm ▸ possible)
  refine ⟨_, _, r2, ?_⟩
  unfold GuestHosts
  simp only [Machine.afterRun] at later ⊢
  rw [later]
  exact hosts

/-- **The policy and the gate.** For every configuration, the lever for chat is kept exactly when sign-in is
required or the lever is left alone, the lever for hosting likewise, and what is dispatched agrees with
`guest_refusal` exactly when sign-in is required or both are left alone. -/
theorem guest_policy_kept_iff (srv : Server) (config : Config) :
    ((config.guest_can_chat = false → ∀ c tr, HubRun (srv.with_config config) c tr →
        ¬ RelaysGuestLine (srv.with_config config) c tr) ↔
      config.discord_required ∨ config.guest_can_chat) ∧
    ((config.guest_can_host = false → ∀ c tr, HubRun (srv.with_config config) c tr →
        ¬ GuestHosts c) ↔
      config.discord_required ∨ config.guest_can_host) ∧
    ((∀ c tr, HubRun (srv.with_config config) c tr →
        DispatchAgrees (srv.with_config config) (.from_config config) tr) ↔
      config.discord_required ∨ config.guest_can_chat ∧ config.guest_can_host) := by
  refine ⟨?_, ?_, ?_⟩
  · constructor
    · intro keeps
      by_contra pulled
      obtain ⟨hd, hc⟩ := not_or.mp pulled
      obtain ⟨c, tr, r, relays⟩ := @open_relays (srv.with_config config) (Bool.eq_false_iff.mpr hd)
      exact keeps (by simpa using hc) c tr r relays
    · rintro (hd | hc) off c tr r
      · exact closed_relays_none r hd
      · rw [off] at hc
        cases hc
  · constructor
    · intro keeps
      by_contra pulled
      obtain ⟨hd, hh⟩ := not_or.mp pulled
      obtain ⟨c, tr, r, hosts⟩ := @open_hosts (srv.with_config config) (Bool.eq_false_iff.mpr hd)
      exact keeps (by simpa using hh) c tr r hosts
    · rintro (hd | hh) off c tr r
      · exact closed_hosts_none r hd
      · rw [off] at hh
        cases hh
  · constructor
    · intro agrees
      by_contra pulled
      obtain ⟨hd, hb⟩ := not_or.mp pulled
      apply hb
      have hd : (srv.with_config config).require_login = false := Bool.eq_false_iff.mpr hd
      have off : config.discord_required = false := hd
      constructor
      · obtain ⟨c, tr, r, -, -, free⟩ := visitor_dispatched visitorLine hd rfl
        have free := free _ (agrees c tr r)
        simpa [guest_refusal, GuestPolicy.from_config, visitorLine, ClientOp.text, off] using free
      · obtain ⟨c, tr, r, -, -, free⟩ := visitor_dispatched { op := .create } hd rfl
        have free := free _ (agrees c tr r)
        simpa [guest_refusal, GuestPolicy.from_config, ClientOp.text, off] using free
    · rintro (hd | ⟨hc, hh⟩) c tr r t p ip text o pre msg ran guest out
      · exact refusal_open (dispatched_open out guest hd)
      · cases hd : config.discord_required with
        | true => exact refusal_open (dispatched_open out guest hd)
        | false => exact refusal_none hd hc hh

/-- With both levers pulled and sign-in not required, a guest still chats and hosts. -/
theorem visitor_chats_and_hosts :
    ¬ ∀ srv config,
      (config.guest_can_chat = false → ∀ c tr, HubRun (Server.with_config srv config) c tr →
        ¬ RelaysGuestLine (srv.with_config config) c tr) ∧
      (config.guest_can_host = false → ∀ c tr, HubRun (srv.with_config config) c tr →
        ¬ GuestHosts c) := by
  intro all
  let config : Config := { guest_can_chat := false, guest_can_host := false }
  obtain ⟨chat, -⟩ := all sampleServer config
  obtain ⟨c, tr, r, relays⟩ := @open_relays (sampleServer.with_config config) rfl
  exact chat rfl c tr r relays

end RecompNet
