import RecompNet.Hub.Reports
import RecompNet.Lib.Tail

/-!
# What a report is evidence of

A chat report turns lines of the ring into a record (`handle_chat_report`): the first line it names, the
lines before that one as context, and a transcript of every line it names. Here each of the three is
compared with what the ring holds: the earlier lines of the same room, the distinct lines named in the
order they were relayed, and the lines that can be reported at all.
-/

open scoped List

namespace RecompNet

open Section Interleave

/-- A line as a record shows it. -/
def ChatLine.shown (l : ChatLine) : String := l.from_name ++ ": " ++ l.text

/-- Lines as a record shows them. -/
def transcript (ls : List ChatLine) : String := "\n".intercalate (ls.map ChatLine.shown)

/-! ## Lines and their numbers -/

/-- The ring holds lines of the process in the order of their numbers. -/
structure HubInner.RingNumbered (g : HubInner) : Prop where
  numbered : ∀ l ∈ g.chat_ring, ∃ n < g.next_chat_id, l.id = chatId n
  order : g.chat_ring.Pairwise fun a b => lineNo a.id < lineNo b.id

namespace HubInner.RingNumbered

variable {g g' : HubInner}

lemma of_chat (h : g.RingNumbered) (same : g'.chat = g.chat) : g'.RingNumbered := by
  have ring : g'.chat_ring = g.chat_ring := congrArg Prod.fst same
  have next : g'.next_chat_id = g.next_chat_id := congrArg Prod.snd same
  constructor
  · rw [ring, next]
    exact h.numbered
  · rw [ring]
    exact h.order

/-- The ring with a new line ends with it. -/
lemma ring_remember (g : HubInner) (account name text scope lobby_id game_name : String) :
    ∃ line n, line.id = chatId g.next_chat_id ∧
      (g.remember_chat account name text scope lobby_id game_name).1.chat_ring =
        (g.chat_ring ++ [line]).drop n := by
  simp only [remember_chat]
  exact ⟨_, _, rfl, rfl⟩

lemma next_remember (g : HubInner) (account name text scope lobby_id game_name : String) :
    (g.remember_chat account name text scope lobby_id game_name).1.next_chat_id =
      g.next_chat_id + 1 := by
  simp only [remember_chat]

/-- A new line has the highest number. -/
lemma remember (h : g.RingNumbered) {account name text scope lobby_id game_name : String} :
    (g.remember_chat account name text scope lobby_id game_name).1.RingNumbered := by
  obtain ⟨line, n, id, ring⟩ := ring_remember g account name text scope lobby_id game_name
  constructor
  · intro l hl
    rw [ring] at hl
    rw [next_remember]
    rcases List.mem_append.mp (List.mem_of_mem_drop hl) with old | new
    · obtain ⟨k, hk, e⟩ := h.numbered l old
      exact ⟨k, Nat.lt_succ_of_lt hk, e⟩
    · obtain rfl := List.mem_singleton.mp new
      exact ⟨g.next_chat_id, Nat.lt_succ_self _, id⟩
  · rw [ring]
    refine List.Pairwise.sublist (List.drop_sublist _ _) ?_
    refine List.pairwise_append.mpr ⟨h.order, List.pairwise_singleton _ _, ?_⟩
    intro a ha b hb
    obtain ⟨k, hk, e⟩ := h.numbered a ha
    obtain rfl := List.mem_singleton.mp hb
    rwa [e, id, lineNo_chatId, lineNo_chatId]

/-- Two lines of the ring with one id are one line. -/
lemma unique (h : g.RingNumbered) {a b : ChatLine} (ha : a ∈ g.chat_ring) (hb : b ∈ g.chat_ring)
    (same : a.id = b.id) : a = b := by
  have apart : (g.chat_ring.map (·.id)).Nodup := by
    refine List.pairwise_map.mpr (h.order.imp fun lt e => ?_)
    rw [e] at lt
    exact Nat.lt_irrefl _ lt
  exact List.inj_on_of_nodup_map apart ha hb same

end HubInner.RingNumbered

/-- The ring of a run is numbered. -/
theorem HubRun.ring_numbered {srv c tr} (r : HubRun srv c tr) : c.world.hub.RingNumbered := by
  apply r.induct (I := fun c _ => c.world.hub.RingNumbered)
  · constructor
    · intro l h
      cases h
    · exact List.Pairwise.nil
  · intro c tr l c' r ih st
    cases st with
    | @run t s rest o e _ =>
      rcases @exec_chat_cases srv s o c.world with same | ⟨p, ip, msg, -, -, h⟩
      · exact ih.of_chat same
      · show (exec srv s o c.world).1.hub.RingNumbered
        generalize (exec srv s o c.world).1.hub = g' at h ⊢
        generalize (exec srv s o c.world).2 = ss at h
        cases h with
        | nothing same => exact ih.of_chat same
        | line same => exact (ih.of_chat same).remember
    | event _ _ => exact ih.of_chat apply_chat

/-- The line of an id, when the ring still holds it. -/
def HubInner.line_of (g : HubInner) (mid : String) : Option ChatLine :=
  (g.chat_with_context mid).map (·.1)

lemma HubInner.line_of_eq {g : HubInner} {mid : String} :
    g.line_of mid = g.chat_ring.find? (·.id = mid) := by
  unfold line_of chat_with_context
  rw [List.find?_eq_bind_findIdx?_getElem?]
  cases g.chat_ring.findIdx? (·.id = mid) with
  | none => rfl
  | some idx =>
    dsimp only [Option.bind_some]
    rw [Option.map_map]
    exact Option.map_id'

lemma HubInner.RingNumbered.line_of_iff {g : HubInner} (h : g.RingNumbered) {mid : String}
    {l : ChatLine} : g.line_of mid = some l ↔ l ∈ g.chat_ring ∧ l.id = mid := by
  rw [HubInner.line_of_eq]
  constructor
  · intro found
    exact ⟨List.mem_of_find?_eq_some found, by simpa using List.find?_some found⟩
  · rintro ⟨here, rfl⟩
    cases found : g.chat_ring.find? (·.id = l.id) with
    | none => simpa using List.find?_eq_none.mp found l here
    | some l' =>
      have id : l'.id = l.id := by simpa using List.find?_some found
      rw [h.unique (List.mem_of_find?_eq_some found) here id]

/-! ## The context -/

/-- Was a line said in the room of `m`: in its lobby, or in the channel of its title? -/
def ChatLine.shares_room (m l : ChatLine) : Bool :=
  l.scope = m.scope && l.lobby_id = m.lobby_id && (m.scope ≠ "server" || l.game_name = m.game_name)

/-- What the context is selected by: the scope and the lobby, which every title's channel shares. -/
def ChatLine.shares_scope (m l : ChatLine) : Bool := l.scope = m.scope && l.lobby_id = m.lobby_id

/-- The lines that the context of `m` is made of, when `before` is what the ring holds before `m`. -/
def contextLines (before : List ChatLine) (m : ChatLine) : List ChatLine :=
  (before.rtake CHAT_CONTEXT_LINES).filter m.shares_scope

/-- The most recent earlier lines of the room of `m`. -/
def roomLines (before : List ChatLine) (m : ChatLine) : List ChatLine :=
  (before.filter m.shares_room).rtake CHAT_CONTEXT_LINES

/-- What `chat_with_context` returns for the first line with its id. -/
lemma chat_with_context_split {g : HubInner} {before after : List ChatLine} {m : ChatLine}
    (ring : g.chat_ring = before ++ m :: after) (first : ∀ l ∈ before, l.id ≠ m.id) :
    g.chat_with_context m.id = some (m, transcript (contextLines before m)) := by
  have idx : g.chat_ring.findIdx? (·.id = m.id) = some before.length := by
    rw [ring, List.findIdx?_append]
    have none : before.findIdx? (·.id = m.id) = none := by
      rw [List.findIdx?_eq_none_iff]
      intro l hl
      exact decide_eq_false (first l hl)
    simp [none, List.findIdx?_cons]
  have here : g.chat_ring[before.length]? = some m := by simp [ring]
  have earlier : g.chat_ring.take before.length = before := by simp [ring]
  unfold HubInner.chat_with_context
  simp only [idx, here, earlier]
  rfl

lemma shown_length (l : ChatLine) : 2 ≤ l.shown.length := by
  have two : (": " : String).length = 2 := by decide
  unfold ChatLine.shown
  rw [String.length_append, String.length_append, two]
  omega

/-- A record of more lines is longer. -/
lemma transcript_longer {x y : List ChatLine} (h : x ≠ []) :
    (transcript y).length < (transcript (x ++ y)).length := by
  have some_text : 0 < (transcript x).length := by
    cases x with
    | nil => exact absurd rfl h
    | cons l ls =>
      have shown := shown_length l
      unfold transcript
      cases ls with
      | nil => simpa using by omega
      | cons l' ls =>
        rw [List.map_cons, List.map_cons, String.intercalate_cons_cons]
        simp only [String.length_append]
        omega
  by_cases hy : y = []
  · rw [hy, List.append_nil]
    exact some_text
  · have split : transcript (x ++ y) = transcript x ++ "\n" ++ transcript y := by
      unfold transcript
      rw [List.map_append, String.intercalate_append_of_ne_nil]
      · exact fun e => h (List.map_eq_nil_iff.mp e)
      · exact fun e => hy (List.map_eq_nil_iff.mp e)
    rw [split, String.length_append, String.length_append]
    omega

/-- The context is made of lines of the room alone. -/
def OneRoom (before : List ChatLine) (m : ChatLine) : Prop :=
  ∀ l ∈ before.rtake CHAT_CONTEXT_LINES, m.shares_scope l → m.shares_room l

/-- Other rooms took no place in the window from an older line of the room. -/
def WindowEnough (before : List ChatLine) (m : ChatLine) : Prop :=
  (∀ l ∈ before.rtake CHAT_CONTEXT_LINES, m.shares_room l) ∨
    ∀ l ∈ before.rdrop CHAT_CONTEXT_LINES, ¬ m.shares_room l

/-- The context of one room is the end of the room's most recent lines. -/
lemma contextLines_suffix {before : List ChatLine} {m : ChatLine} (one : OneRoom before m) :
    ∃ older, roomLines before m = older ++ contextLines before m := by
  have window : contextLines before m = (before.rtake CHAT_CONTEXT_LINES).filter m.shares_room := by
    apply List.filter_congr
    intro l hl
    exact Bool.eq_iff_iff.mpr ⟨one l hl, fun h => (Bool.and_eq_true_iff.mp h).1⟩
  have short : ((before.rtake CHAT_CONTEXT_LINES).filter m.shares_room).length ≤
      CHAT_CONTEXT_LINES := by
    refine (List.length_filter_le ..).trans ?_
    rw [List.length_rtake]
    exact Nat.min_le_left ..
  have split : before.filter m.shares_room =
      (before.rdrop CHAT_CONTEXT_LINES).filter m.shares_room ++
        (before.rtake CHAT_CONTEXT_LINES).filter m.shares_room := by
    rw [← List.filter_append, List.rdrop_append_rtake]
  rw [window, roomLines, split, List.rtake_append_of_le short]
  exact ⟨_, rfl⟩

/-- **The context of a reported line.** It shows the most recent earlier lines of the line's room iff no
other title's channel spoke within the window and no other room took a place in it from an older line of
the room. Where no other title spoke, the text shows whether it does. -/
theorem context_of_room {g : HubInner} {before after : List ChatLine} {m : ChatLine}
    (ring : g.chat_ring = before ++ m :: after) (first : ∀ l ∈ before, l.id ≠ m.id) :
    g.chat_with_context m.id = some (m, transcript (contextLines before m)) ∧
    (contextLines before m = roomLines before m ↔ OneRoom before m ∧ WindowEnough before m) ∧
    (OneRoom before m →
      (g.chat_with_context m.id = some (m, transcript (roomLines before m)) ↔
        WindowEnough before m)) := by
  have sub : ∀ l, m.shares_room l → m.shares_scope l := fun l h => (Bool.and_eq_true_iff.mp h).1
  have exact_iff : contextLines before m = roomLines before m ↔
      OneRoom before m ∧ WindowEnough before m := List.filter_rtake_iff sub
  have returned := chat_with_context_split ring first
  refine ⟨returned, exact_iff, fun one => ?_⟩
  rw [returned]
  constructor
  · intro same
    have texts : transcript (contextLines before m) = transcript (roomLines before m) :=
      (Prod.mk.inj (Option.some.inj same)).2
    obtain ⟨older, e⟩ := contextLines_suffix one
    by_cases none : older = []
    · rw [none, List.nil_append] at e
      exact (exact_iff.mp e.symm).2
    · have longer := @transcript_longer older (contextLines before m) none
      rw [← e, texts] at longer
      exact absurd longer (Nat.lt_irrefl _)
  · intro enough
    rw [exact_iff.mpr ⟨one, enough⟩]

/-- A line of another title's channel, and one of this title's. -/
def carolLine : ChatLine := ⟨"1", "acc-carol", "Carol", "over here", "server", "", "Other Game"⟩
def bobLine : ChatLine := ⟨"2", "acc-bob", "Bob", "good game", "server", "", "Example Game"⟩

/-- The channel of one title is context for a line of another. -/
theorem context_of_title : ¬ ∀ (g : HubInner) before m after, g.chat_ring = before ++ m :: after →
    (∀ l ∈ before, l.id ≠ m.id) →
    g.chat_with_context m.id = some (m, transcript (roomLines before m)) := by
  intro all
  have said := all { chat_ring := [carolLine, bobLine] } [carolLine] bobLine [] rfl (by decide)
  have texts := congrArg (Option.map (·.2.length)) said
  exact absurd texts (by decide)

def aliceLine (n : Nat) : ChatLine :=
  ⟨chatId n, "acc-alice", "Alice", "one more?", "server", "", "Example Game"⟩

/-- After eight lines of the channel the last six are shown, and a line said in a lobby is left out. -/
theorem context_of_room_channel :
    let talk := (List.range 8).map aliceLine
    let other : ChatLine := { carolLine with scope := "lobby", lobby_id := "lobby-1" }
    let m := { bobLine with id := chatId 9 }
    ({ chat_ring := talk ++ [m] } : HubInner).chat_with_context m.id =
      some (m, transcript (talk.drop 2)) ∧
    ({ chat_ring := [aliceLine 2, other, aliceLine 3, m] } : HubInner).chat_with_context m.id =
      some (m, transcript [aliceLine 2, aliceLine 3]) := by
  intro talk other m
  constructor
  · obtain ⟨-, -, text⟩ := @context_of_room { chat_ring := talk ++ [m] } talk [] m rfl (by decide)
    have one : OneRoom talk m := by
      show ∀ l ∈ talk.rtake CHAT_CONTEXT_LINES, _
      decide
    have enough : WindowEnough talk m := by
      left
      decide
    exact (text one).mpr enough
  · obtain ⟨-, -, text⟩ := @context_of_room { chat_ring := [aliceLine 2, other, aliceLine 3, m] }
      [aliceLine 2, other, aliceLine 3] [] m rfl (by decide)
    have one : OneRoom [aliceLine 2, other, aliceLine 3] m := by
      show ∀ l ∈ [aliceLine 2, other, aliceLine 3], _
      decide
    have enough : WindowEnough [aliceLine 2, other, aliceLine 3] m := .inr (List.forall_mem_nil _)
    exact (text one).mpr enough

/-! ## The transcript -/

/-- Every id that a report names. -/
def namedIds (msg : InMsg) : List String :=
  let ids := msg.mids.getD []
  let ids := if ids = [] then msg.mid.toList else ids
  ids.filter (· ≠ "")

lemma reportedIds_eq (msg : InMsg) : reportedIds msg = (namedIds msg).take 16 := rfl

/-- The lines that a report lists. -/
def reportedLines (g : HubInner) (msg : InMsg) : List ChatLine := (reportedIds msg).filterMap g.line_of

/-- The lines of the ring that a report names, in the order they were relayed. -/
def namedLines (g : HubInner) (msg : InMsg) : List ChatLine :=
  g.chat_ring.filter (·.id ∈ namedIds msg)

/-- What a report that is handed to the store says, and of which line. -/
structure Files (g : HubInner) (p : String) (msg : InMsg) (mid : String) (r : ChatReport)
    (account : Player) (line : ChatLine) : Prop where
  named : (namedIds msg).head? = some mid
  signed : (g.clients.lookup p).bind (·.account) = some account
  found : g.line_of mid = some line
  attributed : line.from_account ≠ "" ∧ line.from_account ≠ account.id
  reporter_id : r.reporter_id = account.id
  accused_id : r.accused_id = line.from_account
  message_id : r.message_id = line.id
  transcript : r.transcript = RecompNet.transcript (reportedLines g msg)
  message_count : r.message_count = (reportedLines g msg).length

lemma head?_reportedIds {msg : InMsg} : (reportedIds msg).head? = (namedIds msg).head? := by
  rw [reportedIds_eq]
  cases namedIds msg <;> rfl

/-- A report that is filed is about its first line. -/
lemma handle_chat_report_files {g : HubInner} {p q mid : String} {msg : InMsg} {r : ChatReport}
    (h : chat_report_record q mid r ∈ (handle_chat_report g p msg).2) :
    q = p ∧ ∃ account line, Files g p msg mid r account line := by
  unfold handle_chat_report at h
  cases hids : reportedIds msg with
  | nil =>
    rw [hids] at h
    cases List.mem_singleton.mp h
  | cons mid' ids =>
    rw [hids] at h
    dsimp only at h
    split at h
    · cases List.mem_singleton.mp h
    rename_i account signed
    split at h
    · cases List.mem_singleton.mp h
    rename_i line context found
    split at h
    · cases List.mem_singleton.mp h
    rename_i other
    cases List.mem_singleton.mp h
    refine ⟨rfl, account, line, ?_, signed, ?_, not_or.mp other, rfl, rfl, rfl, ?_, ?_⟩
    · rw [← head?_reportedIds, hids]
      rfl
    · rw [HubInner.line_of, found]
      rfl
    · rw [reportedLines, hids]
      rfl
    · rw [reportedLines, hids]
      rfl

/-- A report about another account's line is handed to the store. -/
lemma handle_chat_report_hands {g : HubInner} {p mid : String} {msg : InMsg} {account : Player}
    {line : ChatLine} (named : (namedIds msg).head? = some mid)
    (signed : (g.clients.lookup p).bind (·.account) = some account)
    (found : g.line_of mid = some line)
    (attributed : line.from_account ≠ "" ∧ line.from_account ≠ account.id) :
    ∃ r, (handle_chat_report g p msg).2 = [chat_report_record p mid r] := by
  rw [← head?_reportedIds] at named
  obtain ⟨⟨line', context⟩, full, rfl⟩ := Option.map_eq_some_iff.mp found
  unfold handle_chat_report
  cases hids : reportedIds msg with
  | nil =>
    rw [hids] at named
    cases named
  | cons mid' ids =>
    rw [hids] at named
    obtain rfl := Option.some.inj named
    simp only [signed, full, not_or.mpr attributed, if_false]
    exact ⟨_, rfl⟩

/-- The ids that still name a line come in the order of the lines, each once, and none of them is cut
off. -/
structure SentInOrder (g : HubInner) (msg : InMsg) : Prop where
  order : ((reportedIds msg).filter fun mid => (g.line_of mid).isSome).Pairwise
    (lineNo · < lineNo ·)
  whole : ∀ mid ∈ namedIds msg, (g.line_of mid).isSome → mid ∈ reportedIds msg

lemma mem_reportedLines {g : HubInner} {msg : InMsg} {l : ChatLine} :
    l ∈ reportedLines g msg ↔ ∃ mid ∈ reportedIds msg, g.line_of mid = some l :=
  List.mem_filterMap

/-- The numbers of the listed lines are those of the ids that name a line. -/
lemma reportedLines_ids {g : HubInner} (h : g.RingNumbered) (msg : InMsg) :
    (reportedLines g msg).map (·.id) =
      (reportedIds msg).filter fun mid => (g.line_of mid).isSome := by
  unfold reportedLines
  induction reportedIds msg with
  | nil => rfl
  | cons mid ids ih =>
    cases found : g.line_of mid with
    | none =>
      rw [List.filterMap_cons_none found, ih, List.filter_cons_of_neg (by simp [found])]
    | some l =>
      rw [List.filterMap_cons_some found, List.filter_cons_of_pos (by simp [found]), List.map_cons, ih,
        (h.line_of_iff.mp found).2]

/-- A report lists the lines it names, in their order, iff its ids come so. -/
lemma reportedLines_eq_iff {g : HubInner} (h : g.RingNumbered) {msg : InMsg} :
    reportedLines g msg = namedLines g msg ↔ SentInOrder g msg := by
  have ring_order : (namedLines g msg).Pairwise fun a b => lineNo a.id < lineNo b.id :=
    h.order.sublist List.filter_sublist
  have by_ids : (reportedLines g msg).Pairwise (fun a b => lineNo a.id < lineNo b.id) ↔
      ((reportedIds msg).filter fun mid => (g.line_of mid).isSome).Pairwise (lineNo · < lineNo ·) := by
    rw [← reportedLines_ids h, List.pairwise_map]
  constructor
  · intro same
    refine ⟨by_ids.mp (same ▸ ring_order), fun mid hmid found => ?_⟩
    obtain ⟨l, hl⟩ := Option.isSome_iff_exists.mp found
    obtain ⟨here, id⟩ := h.line_of_iff.mp hl
    have listed : l ∈ reportedLines g msg := by
      rw [same]
      exact List.mem_filter.mpr ⟨here, decide_eq_true (id ▸ hmid)⟩
    obtain ⟨mid', hmid', hl'⟩ := mem_reportedLines.mp listed
    rw [← id, (h.line_of_iff.mp hl').2]
    exact hmid'
  · rintro ⟨order, whole⟩
    have : Std.Irrefl fun a b : ChatLine => lineNo a.id < lineNo b.id := ⟨fun a => Nat.lt_irrefl _⟩
    have : Std.Antisymm fun a b : ChatLine => lineNo a.id < lineNo b.id :=
      ⟨fun a b lt gt => absurd gt (Nat.lt_asymm lt)⟩
    refine List.Pairwise.eq_of_mem_iff (by_ids.mpr order) ring_order fun l => ?_
    rw [mem_reportedLines, namedLines, List.mem_filter, decide_eq_true_eq]
    constructor
    · rintro ⟨mid, hmid, hl⟩
      obtain ⟨here, rfl⟩ := h.line_of_iff.mp hl
      exact ⟨here, List.mem_of_mem_take hmid⟩
    · rintro ⟨here, hid⟩
      have found := h.line_of_iff.mpr ⟨here, rfl⟩
      exact ⟨l.id, whole l.id hid (by rw [found]; rfl), found⟩

/-- A column keeps a text as it is iff the text is trimmed and fits. -/
lemma clamp_eq_iff {s : String} {n : Nat} :
    Moderation.clamp s n = s ↔ Text.Trimmed s.toList ∧ s.toList.length ≤ n := by
  constructor
  · intro e
    have cut : (Text.trimChars s.toList).take n = s.toList := by
      have chars := congrArg String.toList e
      rwa [Moderation.clamp, String.toList_ofList] at chars
    have len := congrArg List.length cut
    rw [List.length_take] at len
    have shorter := Text.trimChars_length s.toList
    have all : Text.trimChars s.toList = s.toList := by
      rwa [List.take_of_length_le (by omega)] at cut
    refine ⟨?_, by omega⟩
    rw [← all]
    exact Text.trimChars_trimmed _
  · rintro ⟨trimmed, short⟩
    exact clamp_of_short trimmed short

/-- The column of a transcript keeps these lines as they are shown. -/
def FitsColumn (ls : List ChatLine) : Prop :=
  Text.Trimmed (transcript ls).toList ∧ (transcript ls).toList.length ≤ 8192

lemma dispatch_chat_report {srv : Server} {c : HubSnapshot} {p ip : String} {msg : InMsg}
    {o : Answer} (hop : msg.op = .chat_report) :
    (exec srv (dispatch p ip msg) o c.world).2 = (handle_chat_report c.world.hub p msg).2 := by
  simp only [exec, World.lift, dispatch_step, hop]

/-- **The transcript of a report.** In every run the row of a report that is filed counts the lines it
lists, and it lists each line of the ring that the report names, once and in the order of relaying, iff
the ids were sent in that order without repetition, none of them past the sixteenth, and the text fits. -/
theorem report_lists_named {srv c tr} (r : HubRun srv c tr) {p ip q mid : String} {msg : InMsg}
    {o : Answer} {rep : ChatReport} (hop : msg.op = .chat_report)
    (h : chat_report_record q mid rep ∈ (exec srv (dispatch p ip msg) o c.world).2)
    (x : Moderation.StoreAnswer) :
    let row := Moderation.reportRow x rep
    let listed := reportedLines c.world.hub msg
    let named := namedLines c.world.hub msg
    row.message_count = listed.length ∧
    (row.transcript = transcript listed ∧ listed = named ↔
      SentInOrder c.world.hub msg ∧ FitsColumn named) := by
  intro row listed named
  rw [dispatch_chat_report hop] at h
  obtain ⟨-, account, line, files⟩ := handle_chat_report_files h
  have ordered := @reportedLines_eq_iff c.world.hub (HubRun.ring_numbered r) msg
  constructor
  · show min rep.message_count 64 = _
    rw [files.message_count]
    apply Nat.min_eq_left
    have sixteen : (reportedIds msg).length ≤ 16 := List.length_take_le _ _
    exact (List.length_filterMap_le _ _).trans (sixteen.trans (by decide))
  · have stored : row.transcript = Moderation.clamp (transcript listed) 8192 :=
      congrArg (Moderation.clamp · 8192) files.transcript
    rw [stored, clamp_eq_iff, ← ordered]
    constructor
    · rintro ⟨fits, same⟩
      exact ⟨same, same ▸ fits⟩
    · rintro ⟨same, fits⟩
      refine ⟨?_, same⟩
      rw [show listed = named from same]
      exact fits

/-- Alice and Bob sign in, and Bob says a line. -/
def bobSpeaks (p q : String) : List Move :=
  let o := draw "9b1deb4d-3b7d-4bad-9bdd-2b0d7b3dcb6d"
  signIn p alice o ++ signIn q bob o ++
    [say q { op := .server_chat, game_name := some "Example Game", text := some "good game" }] ++
    steps (.conn q) 3 o

/-- A report of one line, named twice. -/
def namedTwice : InMsg where
  op := .chat_report
  mids := some ["1", "1"]

/-- Does the report of one line say that it is about two? -/
def countsTwice (g : HubInner) (p : String) : Bool :=
  match (handle_chat_report g p namedTwice).2 with
  | [chat_report_record _ _ rep] =>
    rep.message_count = 2 && (namedLines g namedTwice).length = 1
  | _ => false

/-- A line that is named twice is counted twice. -/
theorem report_counts_twice : ¬ ∀ c tr, HubRun sampleServer c tr → ∀ p ip q mid msg o rep,
    msg.op = .chat_report →
    chat_report_record q mid rep ∈ (exec sampleServer (dispatch p ip msg) o c.world).2 →
    ∀ x, (Moderation.reportRow x rep).message_count = (namedLines c.world.hub msg).length := by
  intro all
  let p := "6b0f1e52-3c1d-4a86-9a53-0d5f6f1c2a11"
  let q := "c4d1c1a0-5f0e-4a53-8d43-9f4b1f7f3b22"
  have h : ((hubMachine sampleServer).follow (bobSpeaks p q)).any fun x =>
      countsTwice x.1.world.hub p := by decide +kernel
  obtain ⟨c, tr, r, ht, -⟩ := Machine.follow_reaches h
  unfold countsTwice at ht
  split at ht
  · rename_i p' mid rep handed
    obtain ⟨two, one⟩ := (Bool.and_eq_true _ _).mp ht
    have counted := all c tr r p "203.0.113.7" p' mid namedTwice (draw "") rep rfl (by
      rw [dispatch_chat_report rfl, handed]
      exact List.mem_singleton_self _) {}
    rw [of_decide_eq_true one] at counted
    have more : min rep.message_count 64 = 1 := counted
    rw [of_decide_eq_true two] at more
    exact absurd more (by decide)
  · cases ht

/-- Bob says two lines more. -/
def bobTalks (p q : String) : List Move :=
  let o := draw "9b1deb4d-3b7d-4bad-9bdd-2b0d7b3dcb6d"
  let say_line (line : String) : List Move :=
    [say q { op := .server_chat, game_name := some "Example Game", text := some line }] ++
      steps (.conn q) 3 o
  bobSpeaks p q ++ say_line "again?" ++ say_line "you are slow"

/-- A report of the first line and the third, and of one that is not in the ring. -/
def namedInOrder : InMsg := { namedTwice with mids := some ["1", "3", "7"] }

/-- Are Bob's two lines reported? -/
def reportsBob (g : HubInner) (p : String) : Bool :=
  match (handle_chat_report g p namedInOrder).2 with
  | [chat_report_record _ _ _] => (namedLines g namedInOrder).map (fun l => (l.from_name, l.text)) =
      [("Bob", "good game"), ("Bob", "you are slow")]
  | _ => false

/-- Lines that are named in order are listed. -/
theorem report_lists_named_two : ∃ c tr p mid rep, HubRun sampleServer c tr ∧
    chat_report_record p mid rep ∈ (handle_chat_report c.world.hub p namedInOrder).2 ∧
    (Moderation.reportRow {} rep).message_count = 2 ∧
    (Moderation.reportRow {} rep).transcript = "Bob: good game\nBob: you are slow" := by
  let p := "6b0f1e52-3c1d-4a86-9a53-0d5f6f1c2a11"
  let q := "c4d1c1a0-5f0e-4a53-8d43-9f4b1f7f3b22"
  have h : ((hubMachine sampleServer).follow (bobTalks p q)).any fun x =>
      reportsBob x.1.world.hub p := by decide +kernel
  obtain ⟨c, tr, r, ht, -⟩ := Machine.follow_reaches h
  unfold reportsBob at ht
  split at ht
  · rename_i p' mid rep handed
    have here : chat_report_record p' mid rep ∈
        (handle_chat_report c.world.hub p namedInOrder).2 := by
      rw [handed]
      exact List.mem_singleton_self _
    obtain ⟨rfl, -⟩ := handle_chat_report_files here
    have inside : chat_report_record p mid rep ∈
        (exec sampleServer (dispatch p "203.0.113.7" namedInOrder) (draw "") c.world).2 := by
      rwa [dispatch_chat_report rfl]
    obtain ⟨counted, exactly⟩ := @report_lists_named sampleServer c tr r p "203.0.113.7" p mid
      namedInOrder (draw "") rep rfl inside {}
    have in_order : SentInOrder c.world.hub namedInOrder := by
      constructor
      · have ids : (reportedIds namedInOrder).Pairwise (lineNo · < lineNo ·) := by decide
        exact ids.sublist List.filter_sublist
      · exact fun mid hmid _ => hmid
    have text : transcript (namedLines c.world.hub namedInOrder) =
        "Bob: good game\nBob: you are slow" := by
      have shown : ∀ ls : List ChatLine, transcript ls =
          "\n".intercalate ((ls.map fun l => (l.from_name, l.text)).map fun x =>
            x.1 ++ ": " ++ x.2) := by
        intro ls
        rw [List.map_map]
        rfl
      rw [shown, of_decide_eq_true ht]
      decide
    have fits : FitsColumn (namedLines c.world.hub namedInOrder) := by
      unfold FitsColumn
      rw [text]
      decide
    obtain ⟨listed, same⟩ := exactly.mpr ⟨in_order, fits⟩
    refine ⟨c, tr, p, mid, rep, r, here, ?_, ?_⟩
    · have two := congrArg List.length (of_decide_eq_true ht)
      rw [List.length_map] at two
      rw [counted, same, two]
      rfl
    · rw [listed, same, text]
  · cases ht

/-! ## Which reports are filed -/

/-- A line that an account can be held to, by another one. -/
def Reportable (reporter : String) (l : ChatLine) : Prop :=
  l.from_account ≠ "" ∧ l.from_account ≠ reporter

/-- A report is filed that covers a reportable line: it is handed to the store, which accepts it. -/
def CoversLine (g : HubInner) (p : String) (msg : InMsg) (x : Moderation.StoreAnswer)
    (rows : List Moderation.ReportRow) (reporter : String) : Prop :=
  ∃ mid r l, chat_report_record p mid r ∈ (handle_chat_report g p msg).2 ∧
    (Moderation.record x rows r).1.accepted ∧
    l ∈ reportedLines g msg ∧ Reportable reporter l ∧
    r.message_id = l.id ∧ r.accused_id = l.from_account

/-- A store below the limit accepts. -/
lemma record_accepts {x : Moderation.StoreAnswer} {rows : List Moderation.ReportRow}
    {r : ChatReport} (below : x.recent_report_count < Moderation.REPORTS_PER_HOUR)
    (ok : x.insert_ok) : (Moderation.record x rows r).1.accepted := by
  unfold Moderation.record
  rw [if_neg (Nat.not_le.mpr below)]
  simp only [ok, Bool.not_true, Bool.false_eq_true, if_false]
  split
  · exact .inr rfl
  · exact .inl rfl

/-- **Which reports are filed.** Below the rate limit a report of a signed-in player is filed, and covers a
line that can be reported, iff the first id it names still resolves to one; and it lists no line that
cannot be reported iff no id it names resolves to such a line. -/
theorem report_covers_iff {g : HubInner} {p : String} {msg : InMsg} {account : Player}
    (signed : (g.clients.lookup p).bind (·.account) = some account)
    {x : Moderation.StoreAnswer} {rows : List Moderation.ReportRow}
    (below : x.recent_report_count < Moderation.REPORTS_PER_HOUR) (ok : x.insert_ok) :
    (CoversLine g p msg x rows account.id ↔
      ∃ mid l, (namedIds msg).head? = some mid ∧ g.line_of mid = some l ∧
        Reportable account.id l) ∧
    ((∀ l ∈ reportedLines g msg, Reportable account.id l) ↔
      ∀ mid ∈ reportedIds msg, ∀ l, g.line_of mid = some l → Reportable account.id l) := by
  constructor
  · constructor
    · rintro ⟨mid, r, l, handed, -, -, -, -, -⟩
      obtain ⟨-, account', line, files⟩ := handle_chat_report_files handed
      obtain rfl := Option.some.inj (signed.symm.trans files.signed)
      exact ⟨mid, line, files.named, files.found, files.attributed⟩
    · rintro ⟨mid, l, named, found, reportable⟩
      obtain ⟨r, handed⟩ := handle_chat_report_hands named signed found reportable
      have inside : chat_report_record p mid r ∈ (handle_chat_report g p msg).2 := by
        rw [handed]
        exact List.mem_singleton_self _
      obtain ⟨-, account', line, files⟩ := handle_chat_report_files inside
      obtain rfl := Option.some.inj (found.symm.trans files.found)
      refine ⟨mid, r, l, inside, record_accepts below ok, ?_, reportable, files.message_id,
        files.accused_id⟩
      rw [mem_reportedLines]
      exact ⟨mid, List.mem_of_mem_head? (head?_reportedIds.trans named), found⟩
  · constructor
    · intro all mid hmid l found
      exact all l (mem_reportedLines.mpr ⟨mid, hmid, found⟩)
    · intro all l hl
      obtain ⟨mid, hmid, found⟩ := mem_reportedLines.mp hl
      exact all mid hmid l found

/-- A report of a line that is gone and of one that is not. -/
def namesExpired : InMsg where
  op := .chat_report
  mids := some ["0", "1"]

/-- The line that is gone fails the report. -/
theorem report_fails_expired : ¬ ∀ c tr, HubRun sampleServer c tr → ∀ p msg account x rows,
    (c.world.hub.clients.lookup p).bind (·.account) = some account →
    x.recent_report_count < Moderation.REPORTS_PER_HOUR → x.insert_ok →
    (namedIds msg).length ≤ 16 →
    (∃ l ∈ reportedLines c.world.hub msg, Reportable account.id l) →
    CoversLine c.world.hub p msg x rows account.id := by
  intro all
  let p := "6b0f1e52-3c1d-4a86-9a53-0d5f6f1c2a11"
  let q := "c4d1c1a0-5f0e-4a53-8d43-9f4b1f7f3b22"
  let test : HubSnapshot × List HubLabel → Bool := fun x =>
    ((x.1.world.hub.clients.lookup p).bind (·.account)).any (·.id = "acc-alice") &&
      ((reportedLines x.1.world.hub namesExpired).any (·.from_account = "acc-bob") &&
        (x.1.world.hub.line_of "0").isNone)
  have h : ((hubMachine sampleServer).follow (bobSpeaks p q)).any test := by decide +kernel
  obtain ⟨c, tr, r, ht, -⟩ := Machine.follow_reaches h
  obtain ⟨signed, ht⟩ := (Bool.and_eq_true _ _).mp ht
  obtain ⟨said, gone⟩ := (Bool.and_eq_true _ _).mp ht
  obtain ⟨account, signed, own⟩ := (Option.any_eq_true _ _).mp signed
  obtain ⟨l, listed, others⟩ := List.any_eq_true.mp said
  have reportable : Reportable account.id l := by
    unfold Reportable
    rw [of_decide_eq_true own, of_decide_eq_true others]
    decide
  obtain ⟨mid, rep, -, handed, -⟩ :=
    all c tr r p namesExpired account {} [] signed (by decide) rfl (by decide) ⟨l, listed, reportable⟩
  obtain ⟨-, account', line, files⟩ := handle_chat_report_files handed
  have first : mid = "0" := (Option.some.inj files.named).symm
  have found := files.found
  rw [first, Option.isNone_iff_eq_none.mp gone] at found
  cases found

/-- The line that is there is reported when it is named first. -/
theorem report_covers_iff_first : ∃ c tr p reporter, HubRun sampleServer c tr ∧
    CoversLine c.world.hub p { namesExpired with mids := some ["1", "0"] } {} [] reporter := by
  let p := "6b0f1e52-3c1d-4a86-9a53-0d5f6f1c2a11"
  let q := "c4d1c1a0-5f0e-4a53-8d43-9f4b1f7f3b22"
  let test : HubSnapshot × List HubLabel → Bool := fun x =>
    ((x.1.world.hub.clients.lookup p).bind (·.account)).any (·.id = "acc-alice") &&
      (x.1.world.hub.line_of "1").any (·.from_account = "acc-bob")
  have h : ((hubMachine sampleServer).follow (bobSpeaks p q)).any test := by decide +kernel
  obtain ⟨c, tr, r, ht, -⟩ := Machine.follow_reaches h
  obtain ⟨signed, said⟩ := (Bool.and_eq_true _ _).mp ht
  obtain ⟨account, signed, own⟩ := (Option.any_eq_true _ _).mp signed
  obtain ⟨l, found, others⟩ := (Option.any_eq_true _ _).mp said
  have reportable : Reportable account.id l := by
    unfold Reportable
    rw [of_decide_eq_true own, of_decide_eq_true others]
    decide
  obtain ⟨covered, -⟩ := @report_covers_iff c.world.hub p
    { namesExpired with mids := some ["1", "0"] } account signed {} [] (by decide) rfl
  exact ⟨c, tr, p, account.id, r, covered.mpr ⟨"1", l, by decide, found, reportable⟩⟩

end RecompNet
