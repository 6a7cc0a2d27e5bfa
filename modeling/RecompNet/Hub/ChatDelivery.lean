import RecompNet.Hub.Reports

/-!
# The delivery of chat lines

What becomes of a line from its dispatch to the channels of those who hear it: the members of the
room that its speaker sits in, or the clients of its title. Every hearer is sent the line as often
as it is listed, unless it is gone by then, and nobody else is sent it; and whoever hears one
speaker hears its lines in the order in which they were said. (The lines of two speakers may
overtake each other.)
-/

namespace RecompNet

open Section Interleave

/-! ## What a client says -/

/-- A message `msg` of `p` makes the line `m`, for these hearers. -/
inductive Says (srv : Server) (g g' : HubInner) (p : String) (msg : InMsg) :
    OutMsg → List String → Prop where
  | room {lid l seat text} :
    msg.op = .chat →
    chatText srv msg.text = some text →
    g.lobby_id_of p = some lid →
    g.lobbies.lookup lid = some l →
    seat ∈ l.everyone →
    seat.player_id = p →
    Says srv g g' p msg
      (.chat lid ⟨chatId g.next_chat_id, p, account_of g p, seat.display_name, text⟩) l.member_ids
  | title {scope row text hearers} :
    msg.op = .server_chat →
    chatText srv msg.text = some text →
    g'.clients.lookup p = some row →
    scope ≠ "" →
    game_scope_for g' p = scope →
    hearers.Nodup →
    (∀ q, q ∈ hearers ↔ g'.connected q ∧ game_scope_for g' q = scope) →
    Says srv g g' p msg
      (.server_chat scope row.country
        ⟨chatId g.next_chat_id, p, account_of g p, row.display_name, text⟩) hearers

/-- In this step `p` says `m` to `hearers`. -/
def Speaks (srv : Server) (l : HubLabel) (p : String) (m : OutMsg) (hearers : List String) : Prop :=
  ∃ ip msg o pre, l = .ran (.conn p) (dispatch p ip msg) o pre ∧
    (exec srv (dispatch p ip msg) o pre.world).2 = hearers.map (send_to · m) ∧
    Says srv pre.world.hub (exec srv (dispatch p ip msg) o pre.world).1.hub p msg m hearers

section
variable {srv : Server} {g g' : HubInner} {p q : String} {msg : InMsg} {m : OutMsg} {a : ChatFrame}
  {hearers : List String}

/-- What is said is a line, of the speaker, under the next number. -/
lemma Says.line (h : Says srv g g' p msg m hearers) :
    ∃ a, m.line = some a ∧ a.mid = chatId g.next_chat_id ∧ a.from_player_id = p := by
  cases h with
  | room => exact ⟨_, rfl, rfl, rfl⟩
  | title => exact ⟨_, rfl, rfl, rfl⟩

lemma handle_chat_speaks (h : send_to q m ∈ (handle_chat srv g p msg).2) (hm : m.line = some a)
    (hop : msg.op = .chat) : ∃ hearers, q ∈ hearers ∧
      (handle_chat srv g p msg).2 = hearers.map (send_to · m) ∧
      Says srv g (handle_chat srv g p msg).1 p msg m hearers := by
  unfold handle_chat at h ⊢
  split at h
  · cases h
  · rename_i text htext
    split at h
    · cases List.mem_singleton.mp h
      cases hm
    · rename_i lid hlid
      split at h
      · cases h
      · rename_i l hl
        split at h
        · cases h
        · rename_i seat hseat
          obtain ⟨q', hq, e⟩ := List.mem_map.mp h
          obtain ⟨rfl, rfl⟩ := send_to.inj e
          have own := List.find?_some hseat
          exact ⟨l.member_ids, hq, rfl, .room hop htext hlid hl (List.mem_of_find?_eq_some hseat)
            (of_decide_eq_true own)⟩

/-- The clients of a title, each once. -/
lemma mem_chatAudience {scope : String}
    (key : ∀ q c, g.clients.lookup q = some c → c.player_id = q) :
    q ∈ chatAudience g scope ↔ g.connected q ∧ game_scope_for g q = scope := by
  simp only [chatAudience, List.mem_map, List.mem_filter, Assoc.Map.mem_values, decide_eq_true_eq]
  constructor
  · rintro ⟨c, ⟨⟨q', hc⟩, same⟩, rfl⟩
    obtain rfl := key q' c hc
    exact ⟨connected_iff.mpr ⟨c, hc⟩, same⟩
  · rintro ⟨here, same⟩
    obtain ⟨c, hc⟩ := connected_iff.mp here
    refine ⟨c, ⟨⟨q, hc⟩, ?_⟩, key q c hc⟩
    rw [key q c hc]
    exact same

lemma chatAudience_nodup {scope : String}
    (key : ∀ q c, g.clients.lookup q = some c → c.player_id = q) :
    (chatAudience g scope).Nodup := by
  have keys : g.clients.values.map (·.player_id) = g.clients.keys := by
    rw [Assoc.Map.values, List.map_map]
    refine List.map_congr_left fun x hx => ?_
    exact key x.1 x.2 (AList.mem_lookup_iff.mpr hx)
  have once : (g.clients.values.map (·.player_id)).Nodup := keys ▸ g.clients.keys_nodup
  exact once.sublist (List.filter_sublist.map _)

lemma handle_server_chat_speaks (key : ∀ q c, g.clients.lookup q = some c → c.player_id = q)
    (h : send_to q m ∈ (handle_server_chat srv g p msg).2) (hm : m.line = some a)
    (hop : msg.op = .server_chat) : ∃ hearers, q ∈ hearers ∧
      (handle_server_chat srv g p msg).2 = hearers.map (send_to · m) ∧
      Says srv g (handle_server_chat srv g p msg).1 p msg m hearers := by
  unfold handle_server_chat at h ⊢
  split at h
  · cases h
  · rename_i text htext
    dsimp only at h ⊢
    split at h
    · cases List.mem_singleton.mp h
      cases hm
    · rename_i named
      split at h
      · cases h
      · rename_i row hrow
        generalize hg : (g.recordTitle p (Text.nonempty msg.game_name)).setClient p _ = g2
          at h hrow ⊢
        have titled : ∀ q c, g2.clients.lookup q = some c → c.player_id = q := by
          intro q c hc
          obtain ⟨c1, hc1, h1⟩ := lookup_setClient_back (hg ▸ hc)
          obtain ⟨c0, hc0, h0⟩ := recordTitle_back hc1
          rw [← key q c0 hc0, ← h0]
          rcases h1 with ⟨-, rfl⟩ | ⟨-, rfl⟩
          · rfl
          · split <;> rfl
        have account : row.account_id = account_of g p := by
          have same : account_of g2 p = account_of g p := by
            rw [← hg, account_of_setClient, account_of_recordTitle]
            intro c
            split <;> rfl
          rw [← same, account_of, hrow]
          rfl
        have number : g2.next_chat_id = g.next_chat_id := by
          have same : g2.chat = g.chat := by
            rw [← hg, HubInner.chat_setClient, HubInner.chat_recordTitle]
          exact congrArg Prod.snd same
        have hears := mem_audience rfl (hg ▸ hrow) (titled p row hrow) rfl named
        rw [hg, mem_chatAudience titled] at hears
        obtain ⟨q', hq, e⟩ := List.mem_map.mp h
        obtain ⟨rfl, rfl⟩ := send_to.inj e
        rw [if_neg named, account]
        refine ⟨_, hq, rfl, ?_⟩
        have mid : (g2.remember_chat (account_of g p) row.display_name text "server" ""
            (game_scope_for (g.recordTitle p (Text.nonempty msg.game_name)) p)).2 =
              chatId g.next_chat_id := by
          rw [← number]
          rfl
        rw [mid]
        have clients := @HubInner.remember_chat_clients g2 (account_of g p) row.display_name text
          "server" "" (game_scope_for (g.recordTitle p (Text.nonempty msg.game_name)) p)
        have lobbies := @HubInner.remember_chat_lobbies g2 (account_of g p) row.display_name text
          "server" "" (game_scope_for (g.recordTitle p (Text.nonempty msg.game_name)) p)
        generalize (g2.remember_chat _ _ _ _ _ _).1 = g' at clients lobbies ⊢
        have scopes : ∀ q, game_scope_for g' q = game_scope_for g2 q := by
          intro q
          rw [game_scope_for, clients, lobbies]
          rfl
        refine .title hop htext (clients ▸ hrow) named ((scopes p).trans hears.2)
          (chatAudience_nodup titled) fun q => ?_
        rw [mem_chatAudience titled, scopes, HubInner.connected, HubInner.connected, clients]

end

section
variable {srv : Server} {c : HubSnapshot} {tr : List HubLabel} {t : Tid} {s : Section} {o : Answer}
  {pre : HubSnapshot} {p q : String} {m : OutMsg} {a : ChatFrame} {hearers : List String}

/-- Whatever step starts to relay a line, somebody says the line in it. -/
lemma HubRun.line_said (r : HubRun srv c tr) (ran : .ran t s o pre ∈ tr)
    (h : send_to q m ∈ (exec srv s o pre.world).2) (hm : m.line = some a) :
    ∃ hearers, q ∈ hearers ∧ Speaks srv (.ran t s o pre) a.from_player_id m hearers := by
  obtain ⟨p, ip, msg, rfl, hop, -⟩ := line_started h hm
  obtain rfl : t = .conn p := HubRun.ran_actor r ran rfl
  obtain ⟨rest, earlier, r', -, -⟩ := r.ran_pending ran
  have key := (HubRun.basic r').client_key
  have said : ∃ hearers, q ∈ hearers ∧
      (exec srv (dispatch p ip msg) o pre.world).2 = hearers.map (send_to · m) ∧
      Says srv pre.world.hub (exec srv (dispatch p ip msg) o pre.world).1.hub p msg m hearers := by
    rcases hop with hop | hop <;>
      simp only [exec, World.lift, World.setHub, dispatch_step, hop] at h ⊢
    · exact handle_chat_speaks h hm hop
    · exact handle_server_chat_speaks key h hm hop
  obtain ⟨hearers, hq, sends, spoken⟩ := said
  obtain ⟨a', ha, -, rfl⟩ := spoken.line
  obtain rfl := Option.some.inj (hm.symm.trans ha)
  exact ⟨hearers, hq, ip, msg, o, pre, rfl, sends, spoken⟩

/-- Who runs the send of a line is the task of its speaker. -/
lemma HubRun.line_task (r : HubRun srv c tr) (ran : .ran t (send_to q m) o pre ∈ tr)
    (hm : m.line = some a) : t = .conn a.from_player_id ∧ Relayed srv tr a := by
  rcases r.ran_started ran with ⟨e, pre', -, -, hb⟩ | ⟨s', o', pre', ran', h⟩
  · exact absurd rfl (body_not_inner _ hb)
  · obtain ⟨hearers, -, ip, msg, o1, pre1, e, -⟩ := HubRun.line_said r ran' h hm
    cases e
    exact ⟨rfl, _, _, _, _, _, _, ran', h, hm⟩

end

/-! ## Nothing is lost or doubled -/

/-- Does the frame convey the line `mid` to `q`? -/
def conveys (q mid : String) (x : String × OutMsg) : Bool := x.1 = q && x.2.line.any (·.mid = mid)

/-- The send of such a frame. -/
def Section.conveys (q mid : String) : Section → Bool
  | send_to q' m => RecompNet.conveys q mid (q', m)
  | _ => false

/-- Does the step run such a send? -/
def sends (q mid : String) : HubLabel → Bool
  | .ran _ s _ _ => s.conveys q mid
  | .came .. => false

/-- Does it run in vain, since the hearer has gone? -/
def misses (q mid : String) : HubLabel → Bool
  | .ran _ s _ pre => s.conveys q mid && !pre.world.hub.connected q
  | .came .. => false

section
variable {srv : Server} {c : HubSnapshot} {tr : List HubLabel} {t : Tid} {l : HubLabel}
  {p q mid : String} {m : OutMsg} {a : ChatFrame} {hearers : List String}

lemma conveys_iff {x : String × OutMsg} :
    conveys q mid x ↔ x.1 = q ∧ ∃ a, x.2.line = some a ∧ a.mid = mid := by
  simp [conveys, Option.any_eq_true]

lemma Section.conveys_iff {s : Section} (h : s.conveys q mid) :
    ∃ m a, s = send_to q m ∧ m.line = some a ∧ a.mid = mid := by
  cases s with
  | send_to q' m =>
    obtain ⟨rfl, a, hm, e⟩ := RecompNet.conveys_iff.mp h
    exact ⟨m, a, rfl, hm, e⟩
  | _ => cases h

/-- A line comes on a channel by a send. -/
lemma mem_line_frames (h : (q, m) ∈ frames srv l) (hm : m.line = some a) :
    ∃ t o pre, l = .ran t (send_to q m) o pre := by
  rcases (mem_frames h).2 with sent | ⟨t, o, pre, -, hb⟩ | rfl | ⟨rfl, -⟩
  · exact sent
  · obtain ⟨id, -, e⟩ := List.mem_map.mp hb
    cases e
    cases hm
  · cases hm
  · cases hm

/-- A send puts its line on the channel of a hearer that is there, and no other step does so. -/
lemma frames_conveys : (frames srv l).countP (conveys q mid) + (if misses q mid l then 1 else 0) =
    if sends q mid l then 1 else 0 := by
  cases sent : sends q mid l with
  | true =>
    cases l with
    | came => cases sent
    | ran t s o pre =>
      obtain ⟨m, a, rfl, hm, e⟩ := Section.conveys_iff sent
      have own : conveys q mid (q, m) := sent
      simp only [frames, frameTo, misses, Section.conveys, own, Bool.true_and]
      cases pre.world.hub.connected q <;> simp [own]
  | false =>
    have none : (frames srv l).countP (conveys q mid) = 0 := by
      rw [List.countP_eq_zero]
      rintro ⟨q', m⟩ hx h
      obtain ⟨-, a, hm, -⟩ := conveys_iff.mp h
      obtain ⟨t, o, pre, rfl⟩ := mem_line_frames hx hm
      exact absurd (sent.symm.trans h) Bool.false_ne_true
    have missed : misses q mid l = false := by
      cases l with
      | ran t s o pre =>
        replace sent : s.conveys q mid = false := sent
        simp only [misses, sent, Bool.false_and]
      | came => rfl
    rw [none, missed]
    rfl

/-- What came on the channel of `q`, and what was sent to it in vain. -/
lemma HubRun.sent_count (r : HubRun srv c tr) :
    c.world.sent.countP (conveys q mid) + tr.countP (misses q mid) = tr.countP (sends q mid) := by
  induction r with
  | start => rfl
  | @step c tr l c' r st ih =>
    have grows : c'.world.sent = c.world.sent ++ frames srv l := by
      cases st with
      | run _ _ => exact exec_sent
      | event _ _ => exact apply_sent
    have new := @frames_conveys srv l q mid
    rw [grows, List.countP_append, List.countP_cons, List.countP_cons]
    omega

/-- A step that starts no such send. -/
lemma handed_none (h : ∀ s o pre m a, l = .ran t s o pre →
    send_to q m ∈ (exec srv s o pre.world).2 → m.line = some a → a.mid ≠ mid) :
    (hubMachine srv).handed (Section.conveys q mid) t l = 0 := by
  cases l with
  | ran t' s o pre =>
    simp only [Machine.handed]
    split_ifs with same
    · subst same
      rw [List.countP_eq_zero]
      intro s' hs' carried
      obtain ⟨m, a, rfl, hm, e⟩ := Section.conveys_iff carried
      exact h s o pre m a rfl hs' hm e
    · rfl
  | came e pre =>
    simp only [Machine.handed]
    split_ifs
    · rw [List.countP_eq_zero]
      intro s' hs' carried
      obtain ⟨m, a, rfl, -⟩ := Section.conveys_iff carried
      exact absurd rfl (body_not_inner _ hs')
    · rfl

/-- What is said to a hearer is handed to the task of the speaker as often as the hearer is
listed. -/
lemma Speaks.handed (h : Speaks srv l p m hearers) (hm : m.line = some a) :
    (hubMachine srv).handed (Section.conveys q a.mid) (.conn p) l = hearers.count q := by
  obtain ⟨ip, msg, o, pre, rfl, sends, -⟩ := h
  simp only [Machine.handed, if_true]
  show List.countP _ (exec srv (dispatch p ip msg) o pre.world).2 = _
  rw [sends, List.countP_map, List.count]
  refine List.countP_congr fun q' _ => ?_
  simp [Section.conveys, RecompNet.conveys, hm]

end

/-- A line is handed on in the step that says it, and in no other. -/
lemma HubRun.handed_once {srv c tr} (r : HubRun srv c tr) {l p m hearers a q} (hl : l ∈ tr)
    (h : Speaks srv l p m hearers) (hm : m.line = some a) (hq : q ∈ hearers) :
    (tr.map ((hubMachine srv).handed (Section.conveys q a.mid) (.conn p))).sum =
      hearers.count q := by
  induction r with
  | start => cases hl
  | @step c tr l' c' r st ih =>
    rw [List.map_cons, List.sum_cons]
    rcases List.mem_cons.mp hl with rfl | hl
    · -- The lines of the earlier steps have smaller numbers.
      have earlier : (tr.map ((hubMachine srv).handed (Section.conveys q a.mid) (.conn p))).sum =
          0 := by
        apply List.sum_eq_zero
        intro n hn
        obtain ⟨l1, hl1, rfl⟩ := List.mem_map.mp hn
        refine handed_none fun s o pre m1 a1 e hs hm1 same => ?_
        obtain ⟨k, below, hk⟩ := HubRun.relayed_below r ⟨_, s, o, pre, q, m1, e ▸ hl1, hs, hm1⟩
        obtain ⟨ip, msg, o2, pre2, e2, -, spoken⟩ := h
        obtain rfl : pre2 = c := st.label_pre ▸ e2 ▸ rfl
        obtain ⟨a2, hm2, number, -⟩ := spoken.line
        obtain rfl := Option.some.inj (hm.symm.trans hm2)
        exact absurd (chatId_injective (hk.symm.trans (same.trans number))) below.ne
      rw [h.handed hm, earlier, Nat.add_zero]
    · -- And the line of a later step has a greater one.
      have later : (hubMachine srv).handed (Section.conveys q a.mid) (.conn p) l' = 0 := by
        refine handed_none fun s o pre m1 a1 e hs hm1 same => ?_
        obtain ⟨ip, msg, o2, pre2, e2, sends, -⟩ := h
        have relayed : Relayed srv tr a := by
          refine ⟨_, _, o2, pre2, q, m, e2 ▸ hl, ?_, hm⟩
          rw [sends]
          exact List.mem_map_of_mem hq
        obtain ⟨k, below, hk⟩ := HubRun.relayed_below r relayed
        obtain rfl : pre = c := st.label_pre ▸ e ▸ rfl
        exact absurd (chatId_injective ((line_mid hs hm1).symm.trans (same.trans hk))) below.ne'
      rw [later, Nat.zero_add]
      exact ih hl

/-- A line is neither lost nor doubled: a hearer was sent it, was sent it in vain or is still to be
sent it, as often as it is listed. -/
theorem HubRun.delivered {srv c tr} (r : HubRun srv c tr) {l p m hearers a q} (hl : l ∈ tr)
    (h : Speaks srv l p m hearers) (hm : m.line = some a) (hq : q ∈ hearers) :
    c.world.sent.countP (conveys q a.mid) + tr.countP (misses q a.mid) +
      (c.pending (.conn p)).countP (Section.conveys q a.mid) = hearers.count q := by
  have own : ∀ l' ∈ tr, sends q a.mid l' ↔ Label.runs (Section.conveys q a.mid) (.conn p) l' := by
    intro l' hl'
    cases l' with
    | came => exact .rfl
    | ran t s o pre =>
      simp only [sends, Label.runs, Bool.and_eq_true, decide_eq_true_eq]
      refine ⟨fun carried => ⟨?_, carried⟩, And.right⟩
      obtain ⟨m1, a1, rfl, hm1, same⟩ := Section.conveys_iff carried
      obtain ⟨rfl, relayed⟩ := HubRun.line_task r hl' hm1
      obtain ⟨ip, msg, o2, pre2, e2, sends, spoken⟩ := h
      have relayed' : Relayed srv tr a := by
        refine ⟨_, _, o2, pre2, q, m, e2 ▸ hl, ?_, hm⟩
        rw [sends]
        exact List.mem_map_of_mem hq
      obtain rfl := HubRun.relayed_unique r relayed relayed' same
      obtain ⟨a2, hm2, -, rfl⟩ := spoken.line
      rw [Option.some.inj (hm.symm.trans hm2)]
  rw [HubRun.sent_count r, List.countP_congr own, ← HubRun.handed_once r hl h hm hq]
  exact (r.conserved _ _).symm

/-! ## One speaker, one order -/

/-- The line of `p` that a frame conveys to `q`. -/
def lineFrom (p q : String) (x : String × OutMsg) : Option ChatFrame :=
  if x.1 = q then x.2.line.filter (·.from_player_id = p) else none

/-- The same of a section. -/
def Section.lineFrom (p q : String) : Section → Option ChatFrame
  | send_to q' m => RecompNet.lineFrom p q (q', m)
  | _ => none

/-- What `q` has heard of `p`, and what the task of `p` has yet to send it. -/
def heardFrom (c : HubSnapshot) (p q : String) : List ChatFrame :=
  c.world.sent.filterMap (lineFrom p q)

def unheard (c : HubSnapshot) (p q : String) : List ChatFrame :=
  (c.pending (.conn p)).filterMap (Section.lineFrom p q)

/-- The sections that come to a line of the client. -/
def Section.asks : Section → Bool
  | handle_text .. | dispatch .. => true
  | _ => false

/-- The send of a line. -/
def Section.tells : Section → Bool
  | send_to _ m => m.line.isSome
  | _ => false

section
variable {srv : Server} {c c' : HubSnapshot} {tr : List HubLabel} {l : HubLabel} {t : Tid}
  {s : Section} {o : Answer} {w : World} {p q : String} {m : OutMsg} {a : ChatFrame}

lemma lineFrom_eq_some {x : String × OutMsg} :
    lineFrom p q x = some a ↔ x.1 = q ∧ x.2.line = some a ∧ a.from_player_id = p := by
  simp only [lineFrom, Option.ite_none_right_eq_some, Option.filter_eq_some_iff, decide_eq_true_eq]

lemma Section.lineFrom_eq_some :
    s.lineFrom p q = some a ↔ ∃ m, s = send_to q m ∧ m.line = some a ∧ a.from_player_id = p := by
  cases s with
  | send_to q' m =>
    rw [Section.lineFrom, RecompNet.lineFrom_eq_some]
    constructor
    · rintro ⟨rfl, h⟩
      exact ⟨m, rfl, h⟩
    · rintro ⟨m', e, h⟩
      obtain ⟨rfl, rfl⟩ := send_to.inj e
      exact ⟨rfl, h⟩
  | _ => simp [Section.lineFrom]

lemma Section.tells_iff : s.tells ↔ ∃ q m a, s = send_to q m ∧ m.line = some a := by
  cases s with
  | send_to q m => simp [Section.tells, Option.isSome_iff_exists]
  | _ => simp [Section.tells]

/-- No event starts the send of a line. -/
lemma body_tells {e : Event} : ∀ s ∈ e.body w, s.tells = false := by
  intro s hs
  by_contra tells
  obtain ⟨q, m, a, rfl, -⟩ := Section.tells_iff.mp ((Bool.not_eq_false _).mp tells)
  exact absurd rfl (body_not_inner _ hs)

/-- A message is dispatched in the section that took it. -/
lemma exec_asks : ∀ s' ∈ (exec srv s o w).2, s'.asks → ∃ p ip text, s = handle_text p ip text := by
  intro s' hs' asks
  cases exec_emits s' hs' with
  | dispatch => exact ⟨_, _, _, rfl⟩
  | plain hp =>
    cases s' with
    | handle_text | dispatch => cases hp
    | _ => cases asks
  | _ => cases asks

/-- And its line is sent on from there. -/
lemma exec_tells : ∀ s' ∈ (exec srv s o w).2, s'.tells → ∃ p ip msg, s = dispatch p ip msg := by
  intro s' hs' tells
  obtain ⟨q, m, a, rfl, hm⟩ := Section.tells_iff.mp tells
  obtain ⟨p, ip, msg, e, -⟩ := line_started hs' hm
  exact ⟨p, ip, msg, e⟩

/-- While a message of a client is not dispatched yet, its task has no line to send. -/
theorem HubRun.lines_last (r : HubRun srv c tr) (t : Tid) :
    (c.pending t).Pairwise fun s s' => s.asks → s'.tells = false := by
  refine r.tasks (A := fun _ ss => ss.Pairwise fun s s' => s.asks → s'.tells = false) ?_ ?_ ?_ t
  · exact fun _ => .nil
  · intro t s rest o w h
    obtain ⟨first, rest_last⟩ := List.pairwise_cons.mp h
    refine List.pairwise_append.mpr ⟨?_, rest_last, ?_⟩
    · refine List.pairwise_of_forall_mem_list fun s1 h1 s2 h2 asks => ?_
      by_contra tells
      obtain ⟨p, ip, text, rfl⟩ := exec_asks s1 h1 asks
      obtain ⟨_, _, _, e⟩ := exec_tells s2 h2 ((Bool.not_eq_false _).mp tells)
      cases e
    · intro s1 h1 s2 h2 asks
      obtain ⟨p, ip, text, rfl⟩ := exec_asks s1 h1 asks
      exact first s2 h2 rfl
  · intro e w
    exact List.pairwise_of_forall_mem_list fun s1 h1 s2 h2 _ => body_tells s2 h2

/-- What a step adds to what `q` has heard of `p`. -/
lemma heard_step (st : Step (hubMachine srv) c l c') :
    heardFrom c' p q = heardFrom c p q ∨ ∃ t m o a, l = .ran t (send_to q m) o c ∧ m.line = some a ∧
      a.from_player_id = p ∧ heardFrom c' p q = heardFrom c p q ++ [a] := by
  have grows : c'.world.sent = c.world.sent ++ frames srv l := by
    cases st with
    | run _ _ => exact exec_sent
    | event _ _ => exact apply_sent
  have split : heardFrom c' p q = heardFrom c p q ++ (frames srv l).filterMap (lineFrom p q) := by
    rw [heardFrom, grows, List.filterMap_append]
    rfl
  rw [split]
  cases new : (frames srv l).filterMap (lineFrom p q) with
  | nil => exact .inl (List.append_nil _)
  | cons a as =>
    right
    have ha : a ∈ (frames srv l).filterMap (lineFrom p q) := new ▸ List.mem_cons_self
    obtain ⟨⟨q', m⟩, hx, h⟩ := List.mem_filterMap.mp ha
    obtain ⟨rfl, hm, own⟩ := lineFrom_eq_some.mp h
    obtain ⟨t, o, pre, rfl⟩ := mem_line_frames hx hm
    obtain rfl : pre = c := st.label_pre
    refine ⟨t, m, o, a, rfl, hm, own, ?_⟩
    have one : frames srv (.ran t (send_to q' m) o pre) = [(q', m)] := if_pos (mem_frames hx).1
    rw [one, List.filterMap_cons, h] at new
    rw [← new]
    rfl

/-- An event starts the send of no line. -/
lemma unheard_event {e : Event} (idle : c.pending ((hubMachine srv).task e) = []) :
    unheard ((hubMachine srv).afterEvent c e) p q = unheard c p q := by
  by_cases ht : (hubMachine srv).task e = .conn p
  · rw [unheard, unheard, ← ht, idle]
    simp only [Machine.afterEvent, Function.update_self]
    rw [List.filterMap_nil, List.filterMap_eq_nil_iff]
    intro s hs
    by_contra some
    obtain ⟨a, h⟩ := Option.ne_none_iff_exists'.mp some
    obtain ⟨m, rfl, -⟩ := Section.lineFrom_eq_some.mp h
    exact absurd rfl (body_not_inner _ hs)
  · simp only [unheard, Machine.afterEvent, Function.update_of_ne (Ne.symm ht)]

/-- What the task of `p` has to send after a section is what the section started and the rest. -/
lemma unheard_run {rest : List Section} :
    unheard ((hubMachine srv).afterRun c (.conn p) s rest o) p q =
      (exec srv s o c.world).2.filterMap (Section.lineFrom p q) ++
        rest.filterMap (Section.lineFrom p q) := by
  simp only [unheard, Machine.afterRun, Function.update_self, List.filterMap_append]
  rfl

/-- A section that starts to send a line sends the newest one, with no older one on the way. -/
lemma unheard_new {rest : List Section} (r : HubRun srv c tr) (e : c.pending (.conn p) = s :: rest)
    (new : (exec srv s o c.world).2.filterMap (Section.lineFrom p q) ≠ []) :
    ∀ a ∈ unheard ((hubMachine srv).afterRun c (.conn p) s rest o) p q,
      lineNo a.mid = c.world.hub.next_chat_id := by
  have started : ∀ a ∈ (exec srv s o c.world).2.filterMap (Section.lineFrom p q),
      ∃ m, send_to q m ∈ (exec srv s o c.world).2 ∧ m.line = some a := by
    intro a ha
    obtain ⟨s', hs', h⟩ := List.mem_filterMap.mp ha
    obtain ⟨m, rfl, hm, -⟩ := Section.lineFrom_eq_some.mp h
    exact ⟨m, hs', hm⟩
  obtain ⟨a0, h0⟩ := List.exists_mem_of_ne_nil _ new
  obtain ⟨m0, h0, hm0⟩ := started a0 h0
  obtain ⟨p', ip, msg, rfl, -⟩ := line_started h0 hm0
  have idle : rest.filterMap (Section.lineFrom p q) = [] := by
    have last := HubRun.lines_last r (.conn p)
    rw [e] at last
    rw [List.filterMap_eq_nil_iff]
    intro s' hs'
    have untold := List.rel_of_pairwise_cons last hs' rfl
    by_contra some
    obtain ⟨a, h⟩ := Option.ne_none_iff_exists'.mp some
    obtain ⟨m, rfl, hm, -⟩ := Section.lineFrom_eq_some.mp h
    exact absurd (Section.tells_iff.mpr ⟨q, m, a, rfl, hm⟩) (Bool.eq_false_iff.mp untold)
  rw [unheard_run, idle, List.append_nil]
  intro a ha
  obtain ⟨m, hs', hm⟩ := started a ha
  exact (started_numbered hs' hm).1

/-- What is heard and unheard stays, as far as it is not lost on the way, or a new line comes to it,
when nothing else is on the way. -/
lemma heard_unheard_step (r : HubRun srv c tr) (st : Step (hubMachine srv) c l c') :
    (heardFrom c' p q ++ unheard c' p q).Sublist (heardFrom c p q ++ unheard c p q) ∨
      heardFrom c' p q = heardFrom c p q ∧
        ∀ a ∈ unheard c' p q, lineNo a.mid = c.world.hub.next_chat_id := by
  rcases heard_step (p := p) (q := q) st with same | ⟨t, m, o, a, rfl, hm, own, more⟩
  · cases st with
    | @run t s rest o e _ =>
      by_cases ht : t = .conn p
      · subst ht
        by_cases new : (exec srv s o c.world).2.filterMap (Section.lineFrom p q) = []
        · left
          rw [same, unheard_run, new, unheard, e]
          exact ((List.sublist_cons_self _ _).filterMap _).append_left _
        · exact .inr ⟨same, unheard_new r e new⟩
      · left
        have stays : unheard ((hubMachine srv).afterRun c t s rest o) p q = unheard c p q := by
          simp only [unheard, Machine.afterRun, Function.update_of_ne (Ne.symm ht)]
        rw [same, stays]
    | event idle _ =>
      left
      rw [same, unheard_event idle]
  · -- A line of `p` is sent by the task of `p`, which had it to send next.
    left
    obtain ⟨rfl, -⟩ := HubRun.line_task (r.step st) List.mem_cons_self hm
    subst own
    cases st with
    | @run _ _ rest _ e _ =>
      have next : unheard c a.from_player_id q =
          a :: rest.filterMap (Section.lineFrom a.from_player_id q) := by
        rw [unheard, e, List.filterMap_cons, Section.lineFrom_eq_some.mpr ⟨m, rfl, hm, rfl⟩]
      rw [more, unheard_run, next, List.append_assoc]
      rfl

/-- Whoever hears a client hears its lines in the order in which it said them. -/
theorem HubRun.heard_sorted (r : HubRun srv c tr) (p q : String) :
    (heardFrom c p q ++ unheard c p q).Pairwise fun a b => lineNo a.mid ≤ lineNo b.mid := by
  apply r.induct (I := fun c _ => (heardFrom c p q ++ unheard c p q).Pairwise fun a b =>
    lineNo a.mid ≤ lineNo b.mid)
  · exact .nil
  · intro c tr l c' r ih st
    rcases heard_unheard_step r st with less | ⟨same, new⟩
    · exact ih.sublist less
    · refine List.pairwise_append.mpr ⟨same ▸ (List.pairwise_append.mp ih).1, ?_, ?_⟩
      · refine List.pairwise_of_forall_mem_list fun a ha b hb => ?_
        rw [new a ha, new b hb]
      · intro a ha b hb
        rw [new b hb]
        obtain ⟨⟨q', m⟩, hx, h⟩ := List.mem_filterMap.mp (same ▸ ha)
        obtain ⟨-, hm, -⟩ := lineFrom_eq_some.mp h
        exact ((HubRun.numbered r).below m a (.inr ⟨q', hx⟩) hm).le

end

/-! ## Delivery -/

/-- **The delivery of chat lines.** What a client is sent of a chat was said by somebody, and the
client is among the hearers; no line is lost or doubled on its way to a hearer that is there; the
lines of one speaker come to a hearer in the order in which they were said. -/
theorem chat_delivered {srv c tr} (r : HubRun srv c tr) :
    (∀ q m, (q, m) ∈ c.world.sent → m.line.isSome → ∃ l ∈ tr, ∃ p hearers, q ∈ hearers ∧
      Speaks srv l p m hearers) ∧
    (∀ l ∈ tr, ∀ p m hearers a, Speaks srv l p m hearers → m.line = some a → ∀ q ∈ hearers,
      c.world.sent.countP (conveys q a.mid) + tr.countP (misses q a.mid) +
        (c.pending (.conn p)).countP (Section.conveys q a.mid) = hearers.count q) ∧
    ∀ p q, (heardFrom c p q).Pairwise fun a b => lineNo a.mid ≤ lineNo b.mid := by
  refine ⟨?_, ?_, ?_⟩
  · intro q m sent line
    obtain ⟨a, hm⟩ := Option.isSome_iff_exists.mp line
    obtain ⟨l, hl, hx⟩ := (HubRun.mem_sent r).mp sent
    obtain ⟨t, o, pre, rfl⟩ := mem_line_frames hx hm
    obtain ⟨s', o', pre', ran, started⟩ := HubRun.ran_inner r hl rfl
    obtain ⟨hearers, hq, speaks⟩ := HubRun.line_said r ran started hm
    exact ⟨_, ran, _, hearers, hq, speaks⟩
  · intro l hl p m hearers a speaks hm q hq
    exact HubRun.delivered r hl speaks hm hq
  · intro p q
    exact (List.pairwise_append.mp (HubRun.heard_sorted r p q)).1

/-- Two guests in the chat of a title: the first says a line, then the second does. -/
def titleTalk (p q : String) : List Move :=
  let o := draw "9b1deb4d-3b7d-4bad-9bdd-2b0d7b3dcb6d"
  [.event (.connect p "203.0.113.7")] ++ steps (.conn p) 1 o ++
    [.event (.connect q "198.51.100.4")] ++ steps (.conn q) 1 o ++
    [say p { op := .server_chat, game_name := some "Example Game", text := some "anyone?" }] ++
    steps (.conn p) 3 o ++
    [say q { op := .server_chat, game_name := some "Example Game", text := some "here" }] ++
    steps (.conn q) 4 o

/-- Was this text put on the channel of `p`? -/
def hears (p text : String) (x : String × OutMsg) : Bool :=
  x.1 = p && x.2.line.any (·.text = text)

/-- The first guest hears the second one. -/
theorem chat_delivered_two : ∃ c tr p q m a l hearers, HubRun sampleServer c tr ∧
    (p, m) ∈ c.world.sent ∧ m.line = some a ∧ a.text = "here" ∧ l ∈ tr ∧ p ∈ hearers ∧
    Speaks sampleServer l q m hearers ∧
    c.world.sent.countP (conveys p a.mid) + tr.countP (misses p a.mid) +
      (c.pending (.conn q)).countP (Section.conveys p a.mid) = hearers.count p ∧
    (heardFrom c q p).Pairwise fun a b => lineNo a.mid ≤ lineNo b.mid := by
  let p := "6b0f1e52-3c1d-4a86-9a53-0d5f6f1c2a11"
  let q := "c4d1c1a0-5f0e-4a53-8d43-9f4b1f7f3b22"
  have h : ((hubMachine sampleServer).follow (titleTalk p q)).any fun x =>
      x.1.world.sent.any (hears p "here") := by
    decide +kernel
  obtain ⟨c, tr, r, ht, -⟩ := Machine.follow_reaches h
  obtain ⟨⟨p', m⟩, sent, heard⟩ := List.any_eq_true.mp ht
  simp only [hears, Bool.and_eq_true, decide_eq_true_eq, Option.any_eq_true] at heard
  obtain ⟨rfl, a, hm, text⟩ := heard
  obtain ⟨said, kept, sorted⟩ := chat_delivered r
  obtain ⟨l, hl, q', hearers, hp, speaks⟩ := said _ m sent (Option.isSome_iff_exists.mpr ⟨a, hm⟩)
  exact ⟨c, tr, _, q', m, a, l, hearers, r, sent, hm, text, hl, hp, speaks,
    kept l hl q' m hearers a speaks hm _ hp, sorted q' _⟩

end RecompNet
