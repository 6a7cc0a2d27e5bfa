import RecompNet.Hub.Basics
import RecompNet.Hub.Calls

/-!
# Chat lines and their ids

`remember_chat` numbers the lines that the server relays and keeps the last of them in the ring. The id
of a line is its number in hexadecimal, so two lines of one process never share an id. Only the two chat
handlers touch the ring and the counter.
-/

namespace RecompNet

open Section Interleave

/-- The id of the `n`-th line. -/
def chatId (n : Nat) : String := String.ofList (Nat.toDigits 16 n)

/-- The value of a hexadecimal digit. -/
def hexValue (c : Char) : Nat := if c.toNat < 97 then c.toNat - 48 else c.toNat - 87

/-- The number of the line with an id. -/
def lineNo (mid : String) : Nat := mid.toList.foldl (fun n c => 16 * n + hexValue c) 0

lemma hexValue_digitChar {n : Nat} (h : n < 16) : hexValue n.digitChar = n := by
  have all : ∀ n < 16, hexValue n.digitChar = n := by decide
  exact all n h

/-- The id of a line names its number. -/
@[simp] lemma lineNo_chatId (n : Nat) : lineNo (chatId n) = n := by
  unfold lineNo chatId
  rw [String.toList_ofList]
  induction n using Nat.strong_induction_on with
  | _ n ih =>
    rw [Nat.toDigits_eq_if (by decide)]
    split
    · rename_i small
      simp [hexValue_digitChar small]
    · rename_i large
      have smaller : n / 16 < n := Nat.div_lt_self (by omega) (by decide)
      rw [List.foldl_append, ih _ smaller]
      simp only [List.foldl_cons, List.foldl_nil]
      rw [hexValue_digitChar (Nat.mod_lt _ (by decide))]
      exact Nat.div_add_mod n 16

lemma chatId_injective {m n : Nat} (h : chatId m = chatId n) : m = n := by
  rw [← lineNo_chatId m, h, lineNo_chatId]

/-- An id has no white space. -/
lemma chatId_plain {n : Nat} : ∀ c ∈ (chatId n).toList, Text.is_whitespace c = false := by
  have digit : ∀ n < 16, Text.is_whitespace n.digitChar = false := by decide
  unfold chatId
  rw [String.toList_ofList]
  induction n using Nat.strong_induction_on with
  | _ n ih =>
    rw [Nat.toDigits_eq_if (by decide)]
    intro c hc
    split at hc
    · rename_i small
      rw [List.mem_singleton.mp hc]
      exact digit n small
    · rename_i large
      rcases List.mem_append.mp hc with hc | hc
      · exact ih _ (Nat.div_lt_self (by omega) (by decide)) c hc
      · rw [List.mem_singleton.mp hc]
        exact digit _ (Nat.mod_lt _ (by decide))

/-- The id of a line below a power of sixteen is as short as its exponent. -/
lemma chatId_length {n k : Nat} (hk : 0 < k) (h : n < 16 ^ k) : (chatId n).toList.length ≤ k := by
  unfold chatId
  rw [String.toList_ofList]
  exact (Nat.length_toDigits_le_iff (by decide) hk).mpr h

namespace HubInner

/-- What the server remembers of the chat. -/
def chat (g : HubInner) : List ChatLine × Nat := (g.chat_ring, g.next_chat_id)

/-- What a hub holds beside clients, rooms and grants: the chat, and the session counter. -/
def registers (g : HubInner) : (List ChatLine × Nat) × Nat := (g.chat, g.next_session)

@[simp] lemma registers_recordTitle (g : HubInner) (p : String) (game : Option String) :
    (g.recordTitle p game).registers = g.registers := by
  unfold recordTitle
  split <;> rfl

@[simp] lemma chat_setClient (g : HubInner) (p : String) (f : ClientMeta → ClientMeta) :
    (g.setClient p f).chat = g.chat := rfl

@[simp] lemma chat_setLobby (g : HubInner) (lid : String) (f : Lobby → Lobby) :
    (g.setLobby lid f).chat = g.chat := rfl

@[simp] lemma chat_recordTitle (g : HubInner) (p : String) (game : Option String) :
    (g.recordTitle p game).chat = g.chat := congrArg Prod.fst (registers_recordTitle g p game)

end HubInner

/-- Does the section take a session id from the counter, when it goes through? -/
def Section.allocates : Section → Bool
  | create_insert .. | start_prepare .. | form_match_room .. => true
  | _ => false

lemma apply_identity_registers {g p name game fallback} :
    (apply_identity g p name game fallback).1.registers = g.registers := by
  unfold apply_identity
  dsimp only
  split
  · split <;> rfl
  · rfl

lemma joinOutcome_registers {srv o g p ip lid msg} :
    (joinOutcome srv o g p ip lid msg).1.registers = g.registers := by
  have ends := join_ends srv o g p ip lid msg
  generalize joinOutcome srv o g p ip lid msg = out at ends ⊢
  cases ends <;> rfl

/-- The handlers but those of the chat leave both alone. -/
lemma dispatch_registers {srv o now g p ip msg} (hc : msg.op ≠ .chat) (hs : msg.op ≠ .server_chat) :
    (dispatch_step srv o now g p ip msg).1.registers = g.registers := by
  unfold dispatch_step
  cases hop : msg.op with
  | chat => exact absurd hop hc
  | server_chat => exact absurd hop hs
  | hello =>
    dsimp only [handle_hello]
    split <;> rfl
  | ping | get_turn_credentials | desync_report | other | leave | automatch_cancel
  | automatch_accept | mod_xfer_cancel | set_blocks | automatch_rulesets | automatch_rtt => rfl
  | list => simp [handle_list]
  | create | join =>
    dsimp only [handle_create, handle_join, refuse]
    repeat' split
    all_goals rfl
  | set_ready | set_match_caps | move | seat_move | seat_swap_answer =>
    dsimp only [handle_set_ready, handle_set_match_caps, handle_move, handle_seat_move,
      handle_seat_swap_answer, refuse]
    repeat' split
    all_goals rfl
  | set_host_endpoint | kick | start | close =>
    dsimp only [handle_set_host_endpoint, handle_kick, handle_start, handle_close, refuse]
    repeat' split
    all_goals rfl
  | path_report | seat_swap_request | signal =>
    dsimp only [handle_path_report, handle_seat_swap_request, handle_signal, takeToken, refuse]
    repeat' split
    all_goals rfl
  | probe_signal =>
    dsimp only [handle_probe_signal, takeToken]
    repeat' split
    all_goals rfl
  | mod_signal | mod_xfer_start | mod_xfer_fail =>
    dsimp only [handle_mod_signal, handle_mod_xfer_start, handle_mod_xfer_fail, refuse]
    repeat' split
    all_goals rfl
  | automatch_queue | chat_report =>
    dsimp only [handle_automatch_queue, handle_chat_report, refuse]
    repeat' split
    all_goals rfl

/-- The sections that neither relay a line nor take a session id leave both alone. -/
lemma exec_registers {srv s o w}
    (h : ∀ p ip msg, s = dispatch p ip msg → msg.op ≠ .chat ∧ msg.op ≠ .server_chat)
    (keeps : s.allocates = false) : (exec srv s o w).1.hub.registers = w.hub.registers := by
  have off : s.off_hub → (exec srv s o w).1.hub.registers = w.hub.registers := by
    intro h
    obtain ⟨q, st, sp, e⟩ := exec_off_hub h
    rw [e]
  cases s with
  | send_to p m => exact congrArg HubInner.registers (World.send_hub w p m)
  | emit_lobby_update | chat_system | destroy_lobby | start_reason =>
    simp only [exec, World.lift, emit_lobby_update_step, chat_system_step, destroy_lobby_step,
      start_reason_step, refuse]
    split <;> rfl
  | client_leave p =>
    simp only [exec, World.lift, client_leave_step]
    repeat' split
    all_goals rfl
  | welcome p =>
    simp only [exec, welcome_step]
    split
    · exact congrArg HubInner.registers (World.send_hub w p _)
    · rfl
  | list_tick p =>
    simp only [exec, World.lift, list_tick_step]
    split <;> rfl
  | handle_text p ip text =>
    simp only [exec, World.lift, handle_text_step, refuse]
    repeat' split
    all_goals rfl
  | dispatch p ip msg => exact dispatch_registers (h p ip msg rfl).1 (h p ip msg rfl).2
  | hello_session p name game =>
    simp only [exec, World.lift, hello_session_step]
    split <;> rfl
  | hello_identity p name game =>
    refine Eq.trans ?_ (@apply_identity_registers w.hub p name game o.uuid)
    exact congrArg HubInner.registers (hello_identity_step_hub srv o w.hub p name game)
  | join_seat p ip lid msg =>
    refine Eq.trans ?_ (@joinOutcome_registers srv o w.hub p ip lid msg)
    exact congrArg HubInner.registers (join_seat_step_hub srv o w.hub p ip lid msg)
  | start_commit =>
    simp only [exec, World.lift, start_commit_step]
    split <;> rfl
  | create_insert | start_prepare | form_match_room => cases keeps
  | start_failed | queue_account | queue_cooldown | queue_waiting | queue_ticket | queue_pools
  | queue_remove | queue_answer | settle_declined | record_strike | requeue_if_here
  | form_match => exact off rfl
  | _ => rfl

/-- The other sections leave the chat alone. -/
lemma exec_chat {srv s o w}
    (h : ∀ p ip msg, s = dispatch p ip msg → msg.op ≠ .chat ∧ msg.op ≠ .server_chat) :
    (exec srv s o w).1.hub.chat = w.hub.chat := by
  cases takes : s.allocates with
  | false => exact congrArg Prod.fst (exec_registers h takes)
  | true =>
    cases s with
    | create_insert => rfl
    | start_prepare =>
      simp only [exec, World.lift, start_prepare_step]
      repeat' split
      all_goals rfl
    | form_match_room =>
      simp only [exec, form_match_room_step]
      split_ifs <;> rfl
    | _ => cases takes

/-! ## Relaying a line -/

/-- The line of a chat frame. -/
def OutMsg.line : OutMsg → Option ChatFrame
  | .chat _ line => some line
  | .server_chat _ _ line => some line
  | _ => none

/-- What a chat handler does: nothing to the chat, or it numbers one line and relays it to the targets. -/
inductive Relays (p : String) (g : HubInner) : HubStep → Prop where
  | nothing {g' ss} :
    g'.chat = g.chat →
    (∀ q m, send_to q m ∈ ss → m.line = none) →
    Relays p g (g', ss)
  | line {g0 : HubInner} {from_account name text scope lobby_id game_name : String}
      {targets : List String} {frame : ChatFrame → OutMsg} :
    g0.chat = g.chat →
    from_account = account_of g p →
    (frame = .chat lobby_id ∧ g.lobby_id_of p = some lobby_id ∨
      ∃ country, frame = .server_chat game_name country) →
    Relays p g
      ((g0.remember_chat from_account name text scope lobby_id game_name).1,
        targets.map fun m => send_to m (frame
          { mid := chatId g0.next_chat_id
            from_player_id := p
            from_account := from_account
            «from» := name
            text := text }))

lemma relays_refuse {p g g'} {code : Code} (h : g'.chat = g.chat) :
    Relays p g (refuse g' p code) := by
  refine .nothing h fun q m hm => ?_
  cases List.mem_singleton.mp hm
  rfl

lemma relays_silent {p g g'} (h : g'.chat = g.chat) : Relays p g (g', []) :=
  .nothing h fun q m hm => by cases hm

lemma handle_chat_relays {srv g p msg} : Relays p g (handle_chat srv g p msg) := by
  unfold handle_chat
  split
  · exact relays_silent rfl
  · split
    · exact relays_refuse rfl
    · rename_i lid hlid
      split
      · exact relays_silent rfl
      · split
        · exact relays_silent rfl
        · exact .line rfl rfl (.inl ⟨rfl, hlid⟩)

/-- Rewriting a title leaves the accounts alone. -/
lemma account_of_setClient {g : HubInner} {p q : String} {f : ClientMeta → ClientMeta}
    (h : ∀ c, (f c).account = c.account) : account_of (g.setClient p f) q = account_of g q := by
  simp only [account_of, HubInner.setClient, Assoc.Map.lookup_modify]
  split
  · cases g.clients.lookup q with
    | none => rfl
    | some c => simp [ClientMeta.account_id, h]
  · rfl

lemma account_of_recordTitle {g : HubInner} {p q : String} {game : Option String} :
    account_of (g.recordTitle p game) q = account_of g q := by
  unfold HubInner.recordTitle
  split
  · exact account_of_setClient fun c => rfl
  · rfl

lemma handle_server_chat_relays {srv g p msg} : Relays p g (handle_server_chat srv g p msg) := by
  unfold handle_server_chat
  split
  · exact relays_silent rfl
  · dsimp only
    split
    · exact relays_refuse (HubInner.chat_recordTitle _ _ _)
    · split
      · exact relays_silent (HubInner.chat_recordTitle _ _ _)
      · rename_i sender hsender
        refine .line (HubInner.chat_recordTitle _ _ _) ?_ (.inr ⟨_, rfl⟩)
        rw [← @account_of_recordTitle g p p (Text.nonempty msg.game_name)]
        rw [← account_of_setClient (p := p) (f := fun c =>
          if c.game_name = "" then { c with game_name := _ } else c)]
        · unfold account_of
          rw [hsender]
          rfl
        · intro c
          split <;> rfl

/-- A line is relayed by a chat handler, as `Relays` says. -/
lemma line_started {srv s o w q m a} (h : send_to q m ∈ (exec srv s o w).2) (hm : m.line = some a) :
    ∃ p ip msg, s = dispatch p ip msg ∧ (msg.op = .chat ∨ msg.op = .server_chat) ∧
      Relays p w.hub ((exec srv s o w).1.hub, (exec srv s o w).2) := by
  have hk : m.kind = .chat ∨ m.kind = .server_chat := by
    cases m with
    | chat => exact .inl rfl
    | server_chat => exact .inr rfl
    | _ => cases hm
  have called := exec_calls _ h
  cases s with
  | dispatch p ip msg =>
    refine ⟨p, ip, msg, rfl, ?_⟩
    cases hop : msg.op with
    | chat =>
      refine ⟨.inl rfl, ?_⟩
      simp only [exec, World.lift, World.setHub, dispatch_step, hop]
      exact handle_chat_relays
    | server_chat =>
      refine ⟨.inr rfl, ?_⟩
      simp only [exec, World.lift, World.setHub, dispatch_step, hop]
      exact handle_server_chat_relays
    | _ => rcases hk with hk | hk <;> simp [hop, hk] at called
  | _ => rcases hk with hk | hk <;> simp [hk] at called

/-! ### The text and the hearers of a line -/

lemma handle_chat_text {srv g p msg q m a} (h : send_to q m ∈ (handle_chat srv g p msg).2)
    (hm : m.line = some a) : chatText srv msg.text = some a.text := by
  unfold handle_chat at h
  split at h
  · cases h
  · rename_i text htext
    repeat' split at h
    · cases List.mem_singleton.mp h
      cases hm
    · cases h
    · cases h
    · obtain ⟨_, -, e⟩ := List.mem_map.mp h
      cases e
      cases hm
      exact htext

lemma handle_server_chat_text {srv g p msg q m a}
    (h : send_to q m ∈ (handle_server_chat srv g p msg).2) (hm : m.line = some a) :
    chatText srv msg.text = some a.text := by
  unfold handle_server_chat at h
  split at h
  · cases h
  · rename_i text htext
    dsimp only at h
    repeat' split at h
    · cases List.mem_singleton.mp h
      cases hm
    · cases h
    · obtain ⟨_, -, e⟩ := List.mem_map.mp h
      cases e
      cases hm
      exact htext

/-- The text of a line is what the chat rules leave of a message. -/
lemma line_text {srv s o w q m a} (h : send_to q m ∈ (exec srv s o w).2) (hm : m.line = some a) :
    ∃ raw, chatText srv raw = some a.text := by
  obtain ⟨p, ip, msg, rfl, hop, -⟩ := line_started h hm
  rcases hop with hop | hop <;>
    simp only [exec, World.lift, World.setHub, dispatch_step, hop] at h
  · exact ⟨_, handle_chat_text h hm⟩
  · exact ⟨_, handle_server_chat_text h hm⟩

/-- A sender hears its own line, so a line that is numbered is sent to somebody. -/
lemma handle_chat_told {srv g p msg} : (handle_chat srv g p msg).1.chat = g.chat ∨
    (handle_chat srv g p msg).2 ≠ [] := by
  unfold handle_chat
  split
  · exact .inl rfl
  · split
    · exact .inl rfl
    · split
      · exact .inl rfl
      · split
        · exact .inl rfl
        · rename_i sender hsender
          right
          have seated := List.mem_of_find?_eq_some hsender
          exact List.ne_nil_of_mem (List.mem_map_of_mem (List.mem_map_of_mem seated))

/-- Recording a title keeps the ids of the rows. -/
lemma recordTitle_back {g : HubInner} {p q : String} {game : Option String} {c'}
    (h : (g.recordTitle p game).clients.lookup q = some c') :
    ∃ c, g.clients.lookup q = some c ∧ c'.player_id = c.player_id := by
  unfold HubInner.recordTitle at h
  split at h
  · obtain ⟨c, hc, h⟩ := lookup_setClient_back h
    refine ⟨c, hc, ?_⟩
    rcases h with ⟨-, rfl⟩ | ⟨-, rfl⟩ <;> rfl
  · exact ⟨c', h, rfl⟩

/-- A client with a title hears the server chat of that title, once the title is recorded. -/
lemma mem_audience {g : HubInner} {p scope : String} {sender : ClientMeta} {f}
    (hf : f = fun c : ClientMeta => if c.game_name = "" then { c with game_name := scope } else c)
    (hs : (g.setClient p f).clients.lookup p = some sender) (key : sender.player_id = p)
    (named : game_scope_for g p = scope) (hne : scope ≠ "") :
    p ∈ chatAudience (g.setClient p f) scope := by
  obtain ⟨c, hc, ⟨off, -⟩ | ⟨-, e⟩⟩ := lookup_setClient_back hs
  · exact absurd rfl off
  have titled : sender.game_name = scope := by
    rw [e, hf]
    simp only [game_scope_for, hc] at named
    dsimp only
    split
    · rfl
    · rename_i own
      rwa [if_pos own] at named
  have counts : game_scope_for (g.setClient p f) p = scope := by
    simp only [game_scope_for, hs, titled, ne_eq, hne, not_false_eq_true, if_true]
  refine List.mem_map.mpr ⟨sender, ?_, key⟩
  rw [List.mem_filter, key, counts]
  exact ⟨Assoc.Map.mem_values.mpr ⟨p, hs⟩, by simp⟩

lemma handle_server_chat_told {srv g p msg}
    (key : ∀ q c, g.clients.lookup q = some c → c.player_id = q) :
    (handle_server_chat srv g p msg).1.chat = g.chat ∨ (handle_server_chat srv g p msg).2 ≠ [] := by
  unfold handle_server_chat
  split
  · exact .inl rfl
  · dsimp only
    split
    · exact .inl (HubInner.chat_recordTitle _ _ _)
    · rename_i named
      split
      · exact .inl (HubInner.chat_recordTitle _ _ _)
      · rename_i sender hsender
        right
        obtain ⟨c1, hc1, h1⟩ := lookup_setClient_back hsender
        obtain ⟨c0, hc0, h0⟩ := recordTitle_back hc1
        have own : sender.player_id = p := by
          rw [← key p c0 hc0, ← h0]
          rcases h1 with ⟨-, rfl⟩ | ⟨-, rfl⟩
          · rfl
          · split <;> rfl
        have hears := mem_audience rfl hsender own rfl named
        exact List.ne_nil_of_mem (List.mem_map_of_mem hears)

/-- The id of a line is its number. -/
lemma line_mid {srv s o w q m a} (h : send_to q m ∈ (exec srv s o w).2) (hm : m.line = some a) :
    a.mid = chatId w.hub.next_chat_id := by
  obtain ⟨p, ip, msg, -, -, hr⟩ := line_started h hm
  generalize (exec srv s o w).1.hub = g' at hr
  generalize (exec srv s o w).2 = ss at h hr
  cases hr with
  | nothing _ silent =>
    rw [silent q m h] at hm
    cases hm
  | @line g0 _ _ _ _ _ _ _ frame same _ kind =>
    have no : g0.next_chat_id = w.hub.next_chat_id := congrArg Prod.snd same
    obtain ⟨q0, -, e⟩ := List.mem_map.mp h
    obtain ⟨-, rfl⟩ := send_to.inj e
    rcases kind with ⟨rfl, -⟩ | ⟨country, rfl⟩ <;> cases hm
    · exact congrArg chatId no
    · exact congrArg chatId no

/-- What a section does to the chat: nothing, or what `Relays` says. -/
lemma exec_chat_cases {srv s o w} : (exec srv s o w).1.hub.chat = w.hub.chat ∨
    ∃ p ip msg, s = dispatch p ip msg ∧ (msg.op = .chat ∨ msg.op = .server_chat) ∧
      Relays p w.hub ((exec srv s o w).1.hub, (exec srv s o w).2) := by
  by_cases h : ∃ p ip msg, s = dispatch p ip msg ∧ (msg.op = .chat ∨ msg.op = .server_chat)
  · obtain ⟨p, ip, msg, rfl, hop⟩ := h
    refine .inr ⟨p, ip, msg, rfl, hop, ?_⟩
    rcases hop with hop | hop <;> simp only [exec, World.lift, World.setHub, dispatch_step, hop]
    · exact handle_chat_relays
    · exact handle_server_chat_relays
  · refine .inl (exec_chat fun p ip msg e => ?_)
    exact ⟨fun hc => h ⟨p, ip, msg, e, .inl hc⟩, fun hs => h ⟨p, ip, msg, e, .inr hs⟩⟩

/-- What is remembered of a frame. -/
def ChatFrame.IsOf (a : ChatFrame) (line : ChatLine) : Prop :=
  line.id = a.mid ∧ line.text = a.text ∧ line.from_account = a.from_account

/-- A line of the ring was in it before, or the section relays it. -/
lemma exec_ring {srv s o w line}
    (key : ∀ q c, w.hub.clients.lookup q = some c → c.player_id = q)
    (h : line ∈ (exec srv s o w).1.hub.chat_ring) :
    line ∈ w.hub.chat_ring ∨
      ∃ q m a, send_to q m ∈ (exec srv s o w).2 ∧ m.line = some a ∧ a.IsOf line := by
  rcases @exec_chat_cases srv s o w with same | ⟨p, ip, msg, rfl, hop, hr⟩
  · have ring : (exec srv s o w).1.hub.chat_ring = w.hub.chat_ring := congrArg Prod.fst same
    exact .inl (ring ▸ h)
  have told : (exec srv (dispatch p ip msg) o w).1.hub.chat = w.hub.chat ∨
      (exec srv (dispatch p ip msg) o w).2 ≠ [] := by
    rcases hop with hop | hop <;> simp only [exec, World.lift, World.setHub, dispatch_step, hop]
    · exact handle_chat_told
    · exact handle_server_chat_told key
  generalize (exec srv (dispatch p ip msg) o w).1.hub = g' at h hr told
  generalize (exec srv (dispatch p ip msg) o w).2 = ss at hr told ⊢
  cases hr with
  | nothing same =>
    have ring : g'.chat_ring = w.hub.chat_ring := congrArg Prod.fst same
    exact .inl (ring ▸ h)
  | @line g0 from_account name text scope lobby_id game_name targets frame same _ kind =>
    have ring : g0.chat_ring = w.hub.chat_ring := congrArg Prod.fst same
    simp only [HubInner.remember_chat] at h
    rcases List.mem_append.mp (List.mem_of_mem_drop h) with old | new
    · exact .inl (ring ▸ old)
    right
    obtain rfl := List.mem_singleton.mp new
    have moved : (g0.remember_chat from_account name text scope lobby_id game_name).1.chat ≠
        w.hub.chat := by
      intro e
      have counted : g0.next_chat_id + 1 = w.hub.next_chat_id := congrArg Prod.snd e
      have before : g0.next_chat_id = w.hub.next_chat_id := congrArg Prod.snd same
      omega
    rcases told with e | told
    · exact absurd e moved
    obtain ⟨s', hs'⟩ := List.exists_mem_of_ne_nil _ told
    obtain ⟨q, -, rfl⟩ := List.mem_map.mp hs'
    let a : ChatFrame :=
      { mid := chatId g0.next_chat_id
        from_player_id := p
        from_account := from_account
        «from» := name
        text := text }
    refine ⟨q, _, a, hs', ?_, rfl, rfl, rfl⟩
    rcases kind with ⟨rfl, -⟩ | ⟨country, rfl⟩ <;> rfl

/-- The counter only grows. -/
lemma exec_next_chat {srv s o w} :
    w.hub.next_chat_id ≤ (exec srv s o w).1.hub.next_chat_id := by
  rcases @exec_chat_cases srv s o w with same | ⟨p, ip, msg, -, -, h⟩
  · exact (congrArg Prod.snd same).ge
  · generalize (exec srv s o w).1.hub = g' at h ⊢
    generalize (exec srv s o w).2 = ss at h
    cases h with
    | nothing same => exact (congrArg Prod.snd same).ge
    | @line g0 _ _ _ _ _ _ _ _ same =>
      have : g0.next_chat_id = w.hub.next_chat_id := congrArg Prod.snd same
      show _ ≤ g0.next_chat_id + 1
      omega

/-- An event leaves the chat alone. -/
lemma apply_chat {srv : Server} {w : World} {e : Event} : (e.apply srv w).hub.chat = w.hub.chat := by
  cases e with
  | ws_ping p => exact congrArg HubInner.chat (World.send_hub w p .empty)
  | _ => rfl

end RecompNet
