import RecompNet.Hub.BlockedJoin
import RecompNet.Hub.Origin
import RecompNet.Hub.Offers

/-!
# Blocks in the lobby lists

A block hides the rooms of each side from the other, and each side itself. Three sections build a list:
the reply to `list` and the broadcast as they find the hub, the tick with the rows that a block hides
taken out. `lists_apart_iff` says for which of these lists nothing crosses a block.
-/

namespace RecompNet

open Section Interleave

/-- Nothing in a list crosses a block with its viewer. -/
structure LobbyList.Apart (v : LobbyList) (g : HubInner) (p : String) : Prop where
  rooms : ∀ row ∈ v.lobbies, ∀ l, g.lobbies.lookup row.lobby_id = some l →
    ¬ blocked_between g p l.host_player_id
  players : ∀ q c, g.clients.lookup q = some c → q ≠ p → onlinePlayerRow g c ∈ v.players →
    ¬ blocked_between g p q

/-- The title that a scope filters by. -/
def scopeFilter (scope : String) : Option String := if scope = "" then none else some scope

/-- The lists that a step builds, and whom they are for. -/
def lists (srv : Server) : HubLabel → List (String × LobbyList)
  | .ran _ (list_reply p game version) _ pre =>
    [(p, lobby_list_json_filtered srv.lists pre.world.hub game version)]
  | .ran _ broadcast_list _ pre =>
    let g := pre.world.hub
    let ids := g.clients.keys.filter fun id => !srv.require_login || g.authed id
    ids.map fun id => (id, scopedList srv.lists g (game_scope_for g id))
  | .ran _ (list_tick p) _ pre =>
    let g := pre.world.hub
    if !g.connected p ∨ (srv.require_login ∧ !g.authed p) then []
    else [(p, lobby_list_json_for srv.lists g p)]
  | _ => []

/-! ## Where lists come from -/

/-- A section that starts the sending of a list builds it. -/
lemma exec_lists {srv t s o q rooms players} {pre : HubSnapshot}
    (hs : send_to q (.lobby_list rooms players) ∈ (exec srv s o pre.world).2) :
    (q, ⟨rooms, players⟩) ∈ lists srv (.ran t s o pre) := by
  have called : ¬ ∀ k ∈ s.calls, k ≠ .send_to .lobby_list :=
    fun none => none _ (exec_calls _ hs) rfl
  cases s with
  | list_reply p game version =>
    simp only [exec, World.lift, list_reply_step, List.mem_singleton] at hs
    cases hs
    exact List.mem_singleton_self _
  | list_tick p =>
    simp only [exec, World.lift, list_tick_step] at hs
    split at hs
    · cases hs
    · rename_i shown
      cases List.mem_singleton.mp hs
      simp only [lists, if_neg shown]
      exact List.mem_singleton_self _
  | dispatch p ip msg => cases hop : msg.op <;> exact absurd (by simp [hop]) called
  | _ => exact absurd (by simp) called

/-- Every list that is on a channel was built by a step of the run. -/
theorem HubRun.lists_built {srv c tr} (r : HubRun srv c tr) {q rooms players}
    (h : (q, .lobby_list rooms players) ∈ c.world.sent) :
    ∃ l ∈ tr, (q, ⟨rooms, players⟩) ∈ lists srv l := by
  obtain ⟨l, hl, hf⟩ := (HubRun.mem_sent r).mp h
  rcases (mem_frames hf).2 with ⟨t, o, pre, rfl⟩ | ⟨t, o, pre, rfl, hb⟩ | e | ⟨e, -⟩
  · obtain ⟨s', o', pre', hm, hs, -⟩ := HubRun.ran_called r hl fun e w hb => by
      simpa using body_kinds hb
    exact ⟨_, hm, exec_lists hs⟩
  · refine ⟨_, hl, ?_⟩
    obtain ⟨q', hq, e⟩ := List.mem_map.mp hb
    cases e
    exact List.mem_map.mpr ⟨_, hq, rfl⟩
  · cases e
  · cases e

/-! ## What a list shows -/

/-- The scope that holds no room and nobody else that a block separates from the viewer. -/
structure Unblocked (srv : Server) (g : HubInner) (p : String) (game version : Option String) :
    Prop where
  rooms : ∀ lid l, g.lobbies.lookup lid = some l → l.listed game version →
    ¬ blocked_between g p l.host_player_id
  players : ∀ q c, g.clients.lookup q = some c → q ≠ p → c.listed srv.require_login game →
    ¬ blocked_between g p q

/-- The list of a scope is the list filtered by its title. -/
lemma scopedList_eq {cfg : ListConfig} {g : HubInner} {scope : String} :
    scopedList cfg g scope = lobby_list_json_filtered cfg g (scopeFilter scope) none := by
  unfold scopedList scopeFilter
  split <;> rfl

/-- A client's row tells whether it is listed. -/
lemma listed_of_row {g : HubInner} {c c' : ClientMeta} {login : Bool} {game : Option String}
    (same : onlinePlayerRow g c = onlinePlayerRow g c') : c.listed login game = c'.listed login game := by
  have title : c.game_name = c'.game_name := congrArg OnlinePlayerRow.game_name same
  have account : c.account_id = c'.account_id := congrArg OnlinePlayerRow.account same
  have signed : c.account.isSome = c'.account.isSome := by
    unfold ClientMeta.account_id at account
    cases ha : c.account with
    | none =>
      cases hb : c'.account with
      | none => rfl
      | some b =>
        rw [ha, hb] at account
        exact absurd account.symm b.id_ne
    | some a =>
      cases hb : c'.account with
      | none =>
        rw [ha, hb] at account
        exact absurd account a.id_ne
      | some b => rfl
  unfold ClientMeta.listed
  rw [title, signed]

/-- The players of a list are the listed clients. -/
lemma mem_filtered_players {cfg : ListConfig} {g : HubInner} {game version : Option String} {q c}
    (hc : g.clients.lookup q = some c) :
    onlinePlayerRow g c ∈ (lobby_list_json_filtered cfg g game version).players ↔
      c.listed cfg.require_login game := by
  simp only [lobby_list_json_filtered, List.mem_insertionSort, List.mem_map, List.mem_filter]
  constructor
  · rintro ⟨c', ⟨-, listed⟩, same⟩
    exact listed_of_row same ▸ listed
  · intro listed
    exact ⟨c, ⟨Assoc.Map.mem_values.mpr ⟨q, hc⟩, listed⟩, rfl⟩

/-- The rooms of a list are the listed rooms. -/
lemma mem_filtered_rooms {cfg : ListConfig} {g : HubInner} {game version : Option String} {row} :
    row ∈ (lobby_list_json_filtered cfg g game version).lobbies ↔
      ∃ lid l, g.lobbies.lookup lid = some l ∧ l.listed game version ∧ lobbyListRow g l = row := by
  simp only [lobby_list_json_filtered, List.mem_map, List.mem_filter, Assoc.Map.mem_values]
  constructor
  · rintro ⟨l, ⟨⟨lid, hl⟩, listed⟩, same⟩
    exact ⟨lid, l, hl, listed, same⟩
  · rintro ⟨lid, l, hl, listed, same⟩
    exact ⟨l, ⟨⟨lid, hl⟩, listed⟩, same⟩

/-- A list that is sent as it is shows nothing across a block exactly if its scope holds nothing. -/
lemma filtered_apart_iff {srv : Server} {w : World} (basic : w.Basic) {p : String}
    {game version : Option String} :
    (lobby_list_json_filtered srv.lists w.hub game version).Apart w.hub p ↔
      Unblocked srv w.hub p game version := by
  constructor
  · rintro ⟨rooms, players⟩
    constructor
    · intro lid l hl listed
      have key : w.hub.lobbies.lookup (lobbyListRow w.hub l).lobby_id = some l := by
        show w.hub.lobbies.lookup l.lobby_id = some l
        rwa [basic.lobby_key lid l hl]
      exact rooms _ (mem_filtered_rooms.mpr ⟨lid, l, hl, listed, rfl⟩) l key
    · intro q c hc other listed
      exact players q c hc other ((mem_filtered_players hc).mpr listed)
  · rintro ⟨rooms, players⟩
    constructor
    · intro row hrow l hl
      obtain ⟨lid, l', hl', listed, rfl⟩ := mem_filtered_rooms.mp hrow
      have key : w.hub.lobbies.lookup lid = some l := by
        rw [← basic.lobby_key lid l' hl']
        exact hl
      obtain rfl := Option.some.inj (hl'.symm.trans key)
      exact rooms lid l' hl' listed
    · intro q c hc other shown
      exact players q c hc other ((mem_filtered_players hc).mp shown)

/-- The search by tag hides every listed client that a block separates from the viewer. -/
def TagsHide (srv : Server) (g : HubInner) (p : String) : Prop :=
  ∀ q c, g.clients.lookup q = some c → q ≠ p →
    c.listed srv.require_login (scopeFilter (game_scope_for g p)) → blocked_between g p q →
    ¬ Text.starts_with p (tag q) ∧
      ∃ other, clientWithTag g (tag q) = some other ∧ blocked_between g p other

/-- An id begins with its tag. -/
lemma starts_with_tag (p : String) : Text.starts_with p (tag p) := by
  unfold Text.starts_with tag
  rw [String.toList_ofList, List.isPrefixOf_iff_prefix]
  exact List.take_prefix 8 _

/-- A connected client is found by its tag, or another one is. -/
lemma clientWithTag_isSome {g : HubInner} {q : String} (h : g.connected q) :
    (clientWithTag g (tag q)).isSome := by
  unfold clientWithTag
  rw [List.find?_isSome]
  exact ⟨q, AList.mem_keys.mp (AList.lookup_isSome.mp h), starts_with_tag q⟩

/-- Whom the filtered list shows: the viewer, and whose tag does not find a client that a block
separates from it. -/
lemma mem_for_players {srv : Server} {w : World} (basic : w.Basic) {p q c}
    (here : w.hub.connected p) (hc : w.hub.clients.lookup q = some c) :
    onlinePlayerRow w.hub c ∈ (lobby_list_json_for srv.lists w.hub p).players ↔
      c.listed srv.require_login (scopeFilter (game_scope_for w.hub p)) ∧
        (Text.starts_with p (tag q) ∨ ∀ other, clientWithTag w.hub (tag q) = some other →
          ¬ blocked_between w.hub p other) := by
  obtain ⟨me, hme⟩ := connected_iff.mp here
  have mine : me.player_id = p := basic.client_key p me hme
  have tagged : (onlinePlayerRow w.hub c).tag = tag q := congrArg tag (basic.client_key q c hc)
  simp only [lobby_list_json_for, scopedList_eq, List.mem_filter, mem_filtered_players hc, tagged, hme,
    Option.any_some, mine]
  apply and_congr_right'
  by_cases own : Text.starts_with p (tag q)
  · simp [own]
  · rw [or_iff_right own]
    obtain ⟨other, found⟩ := Option.isSome_iff_exists.mp
      (clientWithTag_isSome (connected_iff.mpr ⟨c, hc⟩))
    simp [own, found]

/-- A list that is filtered for its viewer shows nothing across a block exactly if the tags tell whom
it is about. -/
lemma for_apart_iff {srv : Server} {w : World} (basic : w.Basic) {p : String}
    (here : w.hub.connected p) :
    (lobby_list_json_for srv.lists w.hub p).Apart w.hub p ↔ TagsHide srv w.hub p := by
  constructor
  · rintro ⟨-, players⟩ q c hc other listed blocked
    have hidden : ¬ _ := fun shown => players q c hc other shown blocked
    rw [mem_for_players basic here hc] at hidden
    obtain ⟨own, finds⟩ := not_or.mp fun h => hidden ⟨listed, h⟩
    push Not at finds
    exact ⟨own, finds⟩
  · intro hide
    constructor
    · intro row hrow l hl
      have kept := (List.mem_filter.mp hrow).2
      simp only [hl, Bool.not_eq_true'] at kept
      exact kept ▸ Bool.false_ne_true
    · intro q c hc other shown blocked
      obtain ⟨listed, passes⟩ := (mem_for_players basic here hc).mp shown
      obtain ⟨own, other', found, blocked'⟩ := hide q c hc other listed blocked
      rcases passes with starts | finds
      · exact own starts
      · exact finds other' found blocked'

/-! ## The lists of a run -/

/-- Nothing that a step puts into a list crosses a block with the viewer: a reply and a broadcast hold
what their scope holds, a tick what its search by tag does not hide. -/
def Screened (srv : Server) : HubLabel → Prop
  | .ran _ (list_reply p game version) _ pre => Unblocked srv pre.world.hub p game version
  | .ran _ broadcast_list _ pre => ∀ p, pre.world.hub.connected p →
    (srv.require_login → pre.world.hub.authed p) →
    Unblocked srv pre.world.hub p (scopeFilter (game_scope_for pre.world.hub p)) none
  | .ran _ (list_tick p) _ pre => pre.world.hub.connected p →
    (srv.require_login → pre.world.hub.authed p) → TagsHide srv pre.world.hub p
  | _ => True

/-- The lists of a step show nothing across a block exactly if it is screened. -/
lemma lists_screened {srv : Server} {l : HubLabel} (basic : l.pre.world.Basic) :
    (∀ q v, (q, v) ∈ lists srv l → v.Apart l.pre.world.hub q) ↔ Screened srv l := by
  cases l with
  | came e pre => simp [lists, Screened]
  | ran t s o pre =>
    have basic : pre.world.Basic := basic
    cases s with
    | list_reply p game version =>
      simp only [lists, Screened, List.mem_singleton, Prod.mk.injEq, and_imp, forall_eq_apply_imp_iff,
        forall_eq]
      exact filtered_apart_iff basic
    | broadcast_list =>
      simp only [lists, Screened, List.mem_map, List.mem_filter, Bool.or_eq_true, Bool.not_eq_true']
      constructor
      · intro apart p here signed
        have known : srv.require_login = false ∨ pre.world.hub.authed p := by
          cases h : srv.require_login with
          | false => exact .inl rfl
          | true => exact .inr (signed h)
        refine (filtered_apart_iff basic).mp (scopedList_eq ▸ apart p _ ⟨p, ⟨?_, known⟩, rfl⟩)
        exact AList.mem_keys.mp (AList.lookup_isSome.mp here)
      · rintro screened q v ⟨p, ⟨hp, signed⟩, e⟩
        cases e
        rw [scopedList_eq]
        refine (filtered_apart_iff basic).mpr
          (screened q (AList.lookup_isSome.mpr (AList.mem_keys.mpr hp)) fun h => ?_)
        exact signed.resolve_left (ne_false_of_eq_true h)
    -- The tick serves nobody who is gone, nor a guest of a closed server.
    | list_tick p =>
      simp only [lists, Screened]
      split
      · rename_i out
        constructor
        · rintro - here signed
          rcases out with gone | ⟨shut, guest⟩
          · exact absurd here (by simpa using gone)
          · exact absurd (signed shut) (by simpa using guest)
        · intro _ q v h
          cases h
      · rename_i shown
        obtain ⟨here, signed⟩ := not_or.mp shown
        have here : pre.world.hub.connected p := by simpa using here
        have signed : srv.require_login → pre.world.hub.authed p := by simpa using signed
        simp only [List.mem_singleton, Prod.mk.injEq, and_imp, forall_eq_apply_imp_iff, forall_eq]
        exact (for_apart_iff basic here).trans ⟨fun h _ _ => h, fun h => h here signed⟩
    | _ => simp [lists, Screened]

/-- Every list on a channel was built by a step of the run, and exactly where the steps are screened
does no list show a room or a player across a block. -/
theorem lists_apart_iff {srv c tr} (r : HubRun srv c tr) :
    (∀ q rooms players, (q, .lobby_list rooms players) ∈ c.world.sent →
      ∃ l ∈ tr, (q, ⟨rooms, players⟩) ∈ lists srv l) ∧
    ((∀ l ∈ tr, ∀ q v, (q, v) ∈ lists srv l → v.Apart l.pre.world.hub q) ↔
      ∀ l ∈ tr, Screened srv l) := by
  refine ⟨fun q rooms players h => HubRun.lists_built r h, ?_⟩
  apply forall₂_congr
  intro l hl
  obtain ⟨later, earlier, rfl⟩ := List.append_of_mem hl
  exact lists_screened (HubRun.basic (r.pre_reached _ _ _ rfl).1)

/-- Alice opens a room and blocks Bob, who then signs in and asks for the list. -/
def listsAfterBlock (p q room : String) : List Move :=
  let o := draw "9d3c7a55-51b0-4c11-b1ab-3e0c5b7d8e44"
  signIn p alice o ++ [say p { op := .create }] ++ steps (.conn p) 3 (draw room) ++
    steps (.conn p) 2 o ++ [say p { op := .set_blocks, accounts := some [bob.id] }] ++
    steps (.conn p) 2 o ++ signIn q bob o ++ [say q { op := .list }] ++ steps (.conn q) 4 o

/-- The list that Alice gets on her tick. -/
theorem lists_apart_iff_tick : ∃ c tr, HubRun sampleServer c tr ∧
    (∃ x ∈ c.world.sent, x.2.kind = .lobby_list) ∧
    (∀ q rooms players, (q, .lobby_list rooms players) ∈ c.world.sent →
      ∃ l ∈ tr, (q, ⟨rooms, players⟩) ∈ lists sampleServer l) ∧
    ((∀ l ∈ tr, ∀ q v, (q, v) ∈ lists sampleServer l → v.Apart l.pre.world.hub q) ↔
      ∀ l ∈ tr, Screened sampleServer l) := by
  let p := "6b0f1e52-3c1d-4a86-9a53-0d5f6f1c2a11"
  let o := draw "9d3c7a55-51b0-4c11-b1ab-3e0c5b7d8e44"
  let ms := signIn p alice o ++ [.event (.list_tick p)] ++ steps (.tick p) 2 o
  have h : ((hubMachine sampleServer).follow ms).any fun x =>
      x.1.world.sent.any fun y => y.2.kind = .lobby_list := by decide +kernel
  obtain ⟨c, tr, r, ht, -⟩ := Machine.follow_reaches h
  obtain ⟨x, hx, list⟩ := List.any_eq_true.mp ht
  exact ⟨c, tr, r, ⟨x, hx, of_decide_eq_true list⟩, lists_apart_iff r⟩

/-- The reply to `list` shows Bob the room of Alice, who blocked him. -/
theorem blocked_room_listed : ¬ ∀ c tr, HubRun sampleServer c tr → ∀ q rooms players,
    (q, .lobby_list rooms players) ∈ c.world.sent → ∃ l ∈ tr,
      (q, ⟨rooms, players⟩) ∈ lists sampleServer l ∧
        (⟨rooms, players⟩ : LobbyList).Apart l.pre.world.hub q := by
  intro all
  let p := "6b0f1e52-3c1d-4a86-9a53-0d5f6f1c2a11"
  let q := "c4d1c1a0-5f0e-4a53-8d43-9f4b1f7f3b22"
  let room := "1f8a9f0e-7d2b-4b57-8f6f-2f6f2b0c9d01"
  let crosses (g : HubInner) (v : LobbyList) : Bool := v.lobbies.any fun row =>
    (g.lobbies.lookup row.lobby_id).any fun l => blocked_between g q l.host_player_id
  let test : HubSnapshot × List HubLabel → Bool := fun x =>
    (x.1.world.sent.any fun y => y.1 = q && y.2.kind = .lobby_list) &&
      x.2.all fun l => (lists sampleServer l).all fun y =>
        y.1 ≠ q || crosses l.pre.world.hub y.2
  have h : ((hubMachine sampleServer).follow (listsAfterBlock p q room)).any test := by
    decide +kernel
  obtain ⟨c, tr, r, ht, -⟩ := Machine.follow_reaches h
  obtain ⟨got, shown⟩ := (Bool.and_eq_true _ _).mp ht
  obtain ⟨⟨q', m⟩, hm, list⟩ := List.any_eq_true.mp got
  simp only [Bool.and_eq_true, decide_eq_true_eq] at list
  obtain ⟨rfl, kind⟩ := list
  cases m with
  | lobby_list rooms players =>
    obtain ⟨l, hl, built, apart⟩ := all c tr r _ rooms players hm
    have crossed := List.all_eq_true.mp (List.all_eq_true.mp shown l hl) _ built
    simp only [ne_eq, not_true, decide_false, Bool.false_or, crosses, List.any_eq_true,
      Option.any_eq_true] at crossed
    obtain ⟨row, hrow, room', hroom, blocked⟩ := crossed
    exact apart.rooms row hrow room' hroom blocked
  | _ => cases kind

end RecompNet
