import RecompNet.Hub.Seating
import RecompNet.Hub.NameFits

/-!
# The names in a room

Joins and renames tell the members of a room apart and write one name to the seat and to the row;
the room of a match takes the names from the tickets instead. `NamesRight` says what a step must
look like for the names to stay apart and the two tables to agree.
-/

open scoped List

namespace RecompNet

open Section Interleave HubInner Roster

/-- The name in the row of a client. -/
def HubInner.name_of (g : HubInner) (p : String) : Option String :=
  (g.clients.lookup p).map (·.display_name)

/-- The seats of each room carry different names, and each the name in the row of its client. -/
structure WellNamed (g : HubInner) : Prop where
  apart : ∀ lid l, g.lobbies.lookup lid = some l → (l.everyone.map (·.display_name)).Nodup
  rows : ∀ lid l, g.lobbies.lookup lid = some l →
    ∀ s ∈ l.everyone, g.name_of s.player_id = some s.display_name

/-- All seats of a client carry a name. -/
def HubInner.ShownAs (g : HubInner) (p name : String) : Prop :=
  ∀ lid l, g.lobbies.lookup lid = some l → ∀ n, (p, n) ∈ l.plates → n = name

/-- A client has no seat. -/
def HubInner.Standing (g : HubInner) (p : String) : Prop :=
  ∀ lid l, g.lobbies.lookup lid = some l → p ∉ l.member_ids

/-- The step keeps the names of a room apart and those of a client alike. -/
def NamesRight (srv : Server) : HubLabel → Prop
  | .ran _ (set_display_name p name) _ pre => pre.world.hub.ShownAs p name
  | .ran _ (hello_identity p (some name) _) o pre =>
    let g := pre.world.hub
    ∀ lid l, g.lobbies.lookup lid = some l → g.lobby_id_of p ≠ some lid →
      ∀ n, (p, n) ∈ l.plates → n = helloName g p name o.uuid
  | .ran _ (join_seat p ip lid msg) o pre =>
    let g := pre.world.hub
    ∀ l seated, g.lobbies.lookup lid = some l → (joinOutcome srv o g p ip lid msg).2 = .Ok seated →
      p ∉ l.member_ids ∧
        g.ShownAs p (unique_display_name l ((g.name_of p).getD "Guest") (some p) o.uuid)
  | .ran _ (form_match_room plan) _ pre =>
    let g := pre.world.hub
    g.lobbies.size < MAX_LOBBIES → g.connected plan.p.a.player_id → g.connected plan.p.b.player_id →
      plan.p.a.handle ≠ plan.p.b.handle ∧ g.name_of plan.p.a.player_id = some plan.p.a.handle ∧
        g.name_of plan.p.b.player_id = some plan.p.b.handle
  | .ran _ (clients_remove p) _ pre => pre.world.hub.Standing p
  | .ran _ (welcome p) o pre => o.welcome_sent = false → pre.world.hub.Standing p
  | _ => True

/-! ## One room -/

/-- The members of a room have one seat each and different names, and each the name that `name`
says.
-/
structure Lobby.NamedBy (l : Lobby) (name : String → Option String) : Prop where
  once : l.member_ids.Nodup
  rows : ∀ p n, (p, n) ∈ l.plates → name p = some n
  apart : ∀ p q n, (p, n) ∈ l.plates → (q, n) ∈ l.plates → p = q

section
variable {l l' : Lobby} {name name' : String → Option String} {p u : String}

lemma Lobby.member_ids_plates (l : Lobby) : l.member_ids = l.plates.map (·.1) := by
  rw [Lobby.member_ids, Lobby.plates, List.map_map]
  rfl

lemma Lobby.names_plates (l : Lobby) : l.everyone.map (·.display_name) = l.plates.map (·.2) := by
  rw [Lobby.plates, List.map_map]
  rfl

lemma Lobby.mem_members : p ∈ l.member_ids ↔ ∃ n, (p, n) ∈ l.plates := by
  rw [l.member_ids_plates, List.mem_map]
  constructor
  · rintro ⟨⟨q, n⟩, h, rfl⟩
    exact ⟨n, h⟩
  · rintro ⟨n, h⟩
    exact ⟨_, h, rfl⟩

/-- If of a list of pairs the first ones are different and none of the second ones stands beside
two, then those are different, too. -/
lemma nodup_snd {α β : Type} {xs : List (α × β)} (once : (xs.map (·.1)).Nodup)
    (apart : ∀ p q n, (p, n) ∈ xs → (q, n) ∈ xs → p = q) : (xs.map (·.2)).Nodup := by
  refine once.of_map.map_on ?_
  rintro ⟨p, n⟩ hp ⟨q, m⟩ hq e
  obtain rfl : n = m := e
  rw [apart p q n hp hq]

lemma wellNamed_iff {g : HubInner} :
    WellNamed g ↔ ∀ lid l, g.lobbies.lookup lid = some l → l.NamedBy g.name_of := by
  constructor
  · rintro ⟨apart, rows⟩ lid l hl
    have own : ∀ p n, (p, n) ∈ l.plates → g.name_of p = some n := by
      intro p n hn
      obtain ⟨s, hs, e⟩ := List.mem_map.mp hn
      cases e
      exact rows lid l hl s hs
    have names := apart lid l hl
    rw [l.names_plates] at names
    refine ⟨?_, own, fun p q n hp hq => ?_⟩
    · -- Two seats of one client would carry the name of its row both.
      have swapped : ((l.plates.map Prod.swap).map (·.2)).Nodup := by
        apply nodup_snd
        · rw [List.map_map]
          exact names
        · intro n m p hn hm
          obtain ⟨x, hx, ex⟩ := List.mem_map.mp hn
          obtain ⟨y, hy, ey⟩ := List.mem_map.mp hm
          obtain rfl : x = (p, n) := Prod.swap_injective ex
          obtain rfl : y = (p, m) := Prod.swap_injective ey
          exact Option.some.inj ((own _ _ hx).symm.trans (own _ _ hy))
      rw [List.map_map] at swapped
      rw [l.member_ids_plates]
      exact swapped
    · have same := List.inj_on_of_nodup_map names hp hq rfl
      exact congrArg Prod.fst same
  · intro named
    constructor
    · intro lid l hl
      rw [l.names_plates]
      exact nodup_snd (l.member_ids_plates ▸ (named lid l hl).once) (named lid l hl).apart
    · intro lid l hl s hs
      exact (named lid l hl).rows _ _ (List.mem_map.mpr ⟨s, hs, rfl⟩)

/-- No plate is put up. -/
lemma Lobby.NamedBy.keeps (h : l.NamedBy name) (once : l'.member_ids.Nodup)
    (sub : l'.plates ⊆ l.plates) (same : ∀ p n, (p, n) ∈ l'.plates → name' p = name p) :
    l'.NamedBy name' where
  once := once
  rows p n hn := (same p n hn).trans (h.rows p n (sub hn))
  apart p q n hp hq := h.apart p q n (sub hp) (sub hq)

/-- One member gets a plate with a name that nobody else has. -/
lemma Lobby.NamedBy.one (h : l.NamedBy name) (once : l'.member_ids.Nodup) (free : ¬ l.HeldByOther (some p) u)
    (plates : ∀ q n, (q, n) ∈ l'.plates → q = p ∧ n = u ∨ q ≠ p ∧ (q, n) ∈ l.plates)
    (own : name' p = some u) (others : ∀ q, q ≠ p → name' q = name q) : l'.NamedBy name' := by
  -- Nobody else has the new name.
  have apart : ∀ q n, q ≠ p → (q, n) ∈ l.plates → n ≠ u := by
    rintro q n ne hn rfl
    obtain ⟨s, hs, e⟩ := List.mem_map.mp hn
    cases e
    exact free ⟨s, hs, fun e => ne (Option.some.inj e), rfl⟩
  refine ⟨once, fun q n hn => ?_, fun q r n hq hr => ?_⟩
  · rcases plates q n hn with ⟨rfl, rfl⟩ | ⟨ne, old⟩
    · exact own
    · exact (others q ne).trans (h.rows q n old)
  · rcases plates q n hq with ⟨rfl, rfl⟩ | ⟨ne, old⟩
    · rcases plates r n hr with ⟨rfl, -⟩ | ⟨ne, old⟩
      · rfl
      · exact absurd rfl (apart r n ne old)
    · rcases plates r n hr with ⟨rfl, rfl⟩ | ⟨ne', old'⟩
      · exact absurd rfl (apart q _ ne old)
      · exact h.apart q r n old old'

/-- A room gives a name that none of the others has. -/
lemma unique_untaken {n fallback : String} (few : l.member_ids.length < 63) :
    ¬ l.HeldByOther (some p) (unique_display_name l n (some p) fallback) := by
  rcases @unique_display_name_spec l n (some p) few with ⟨free, e⟩ | ⟨-, k, -, first, e⟩
  · rwa [e]
  · rw [e]
    exact first.2.1

end

/-! ## Rows -/

section
variable {g g' : HubInner} {p q : String} {f : ClientMeta → ClientMeta}

lemma name_of_setClient : (g.setClient p f).name_of q =
    if q = p then (g.clients.lookup q).map fun c => (f c).display_name else g.name_of q := by
  simp only [name_of, setClient, Assoc.Map.lookup_modify]
  split
  · rw [Option.map_map]
    rfl
  · rfl

lemma name_of_kept (h : ∀ c, (f c).display_name = c.display_name) :
    (g.setClient p f).name_of = g.name_of := by
  funext q
  rw [name_of_setClient]
  split
  · rw [name_of]
    exact Option.map_congr fun c _ => h c
  · rfl

lemma name_of_renamed {u : String} (here : (g.name_of p).isSome) (h : ∀ c, (f c).display_name = u) :
    (g.setClient p f).name_of p = some u := by
  obtain ⟨n, hn⟩ := Option.isSome_iff_exists.mp here
  obtain ⟨c, hc, -⟩ := Option.map_eq_some_iff.mp hn
  rw [name_of_setClient, if_pos rfl, hc, Option.map_some, h]

lemma name_of_other (ne : q ≠ p) : (g.setClient p f).name_of q = g.name_of q := by
  rw [name_of_setClient, if_neg ne]

lemma name_of_connected : (g.name_of p).isSome ↔ g.connected p := by
  rw [name_of, Option.isSome_map]
  rfl

/-- Rows whose names are kept, and that stay. -/
lemma name_of_back (back : ∀ row', g'.clients.lookup p = some row' →
      ∃ row, g.clients.lookup p = some row ∧ row'.display_name = row.display_name)
    (stays : g'.connected p) : g'.name_of p = g.name_of p := by
  obtain ⟨row', hrow'⟩ := connected_iff.mp stays
  obtain ⟨row, hrow, e⟩ := back row' hrow'
  rw [name_of, name_of, hrow, hrow', Option.map_some, Option.map_some, e]

end

/-! ## One step -/

section
variable {srv : Server} {s : Section} {o : Answer} {w : World}

/-- Rosters without doubles stay so where nobody is seated. -/
lemma rosters_once {g' : HubInner} (step : SeatStep srv s o w g') (nobody : seatedBy srv s o w = [])
    (once : ∀ lid, (w.hub.register.roster lid).Nodup) (lid : String) :
    (g'.register.roster lid).Nodup := by
  cases step with
  | stay rosters | forget _ rosters | drop _ rosters => exact (rosters lid).nodup_iff.mpr (once lid)
  | @enter lid0 here elsewhere =>
    by_cases e : lid = lid0
    · subst e
      rw [nobody, List.nil_append] at here
      exact here.nodup_iff.mpr (once lid)
    · exact (elsewhere lid e).nodup_iff.mpr (once lid)
  | @take p lid0 _ here elsewhere =>
    by_cases e : lid = lid0
    · subst e
      exact (here (once lid)).nodup_iff.mpr ((once lid).erase p)
    · exact (elsewhere lid e).nodup_iff.mpr (once lid)
  | @dissolve lid0 _ here elsewhere =>
    by_cases e : lid = lid0
    · subst e
      rw [here]
      exact List.nodup_nil
    · exact (elsewhere lid e).nodup_iff.mpr (once lid)

/-- A section that writes no name seats nobody. -/
lemma seats_nobody (h : s.kind ∉ namingKinds) : seatedBy srv s o w = [] := by
  cases s with
  | create_insert | join_seat | form_match_room => simp [namingKinds, Section.kind] at h
  | _ => rfl

end

section
variable {g g' : HubInner} {p u : String} {f : ClientMeta → ClientMeta}

/-- Only the rooms and the names in the rows matter. -/
lemma wellNamed_congr (rooms : g'.lobbies = g.lobbies) (names : g'.name_of = g.name_of) :
    WellNamed g' ↔ WellNamed g := by
  rw [wellNamed_iff, wellNamed_iff, rooms, names]

lemma wellNamed_kept (h : ∀ c, (f c).display_name = c.display_name) :
    WellNamed (g.setClient p f) ↔ WellNamed g := wellNamed_congr rfl (name_of_kept h)

lemma WellNamed.has_name (named : WellNamed g) {lid l} (hl : g.lobbies.lookup lid = some l)
    (hp : p ∈ l.member_ids) : (g.name_of p).isSome := by
  obtain ⟨n, hn⟩ := Lobby.mem_members.mp hp
  rw [(wellNamed_iff.mp named lid l hl).rows p n hn]
  rfl

/-- A row is dropped. -/
lemma dropped_iff (named : WellNamed g) :
    WellNamed { g with clients := g.clients.erase p } ↔ g.Standing p := by
  have gone : ({ g with clients := g.clients.erase p } : HubInner).name_of p = none := by
    rw [name_of, AList.lookup_erase]
    rfl
  rw [wellNamed_iff]
  constructor
  · intro after lid l hl hp
    obtain ⟨n, hn⟩ := Lobby.mem_members.mp hp
    have row := (after lid l hl).rows p n hn
    rw [gone] at row
    cases row
  · intro standing lid l hl
    have here := wellNamed_iff.mp named lid l hl
    refine here.keeps here.once (List.Subset.refl _) fun q n hn => ?_
    have ne : q ≠ p := by
      rintro rfl
      exact standing lid l hl (Lobby.mem_members.mpr ⟨n, hn⟩)
    rw [name_of, name_of, AList.lookup_erase_ne ne]

/-- A row is renamed. -/
lemma renamed_iff (named : WellNamed g) (name : ∀ c, (f c).display_name = u) :
    WellNamed (g.setClient p f) ↔ g.ShownAs p u := by
  rw [wellNamed_iff]
  constructor
  · intro after lid l hl n hn
    have row := (after lid l hl).rows p n hn
    have here := named.has_name hl (Lobby.mem_members.mpr ⟨n, hn⟩)
    rw [name_of_renamed here name] at row
    exact (Option.some.inj row).symm
  · intro shown lid l hl
    have here := wellNamed_iff.mp named lid l hl
    refine here.keeps here.once (List.Subset.refl _) fun q n hn => ?_
    by_cases own : q = p
    · subst own
      rw [here.rows q n hn, shown lid l hl n hn]
      exact name_of_renamed (named.has_name hl (Lobby.mem_members.mpr ⟨n, hn⟩)) name
    · exact name_of_other own

/-- A row is renamed, and in one room a plate is put up with the same name. -/
lemma plate_iff (named : WellNamed g) (rows : g'.name_of p = some u)
    (others : ∀ q, q ≠ p → g'.name_of q = g.name_of q) {lid l l'}
    (hl : g.lobbies.lookup lid = some l) (hl' : g'.lobbies.lookup lid = some l')
    (rooms : ∀ lid', lid' ≠ lid → g'.lobbies.lookup lid' = g.lobbies.lookup lid')
    (once : l'.member_ids.Nodup) (free : ¬ l.HeldByOther (some p) u)
    (plates : ∀ q n, (q, n) ∈ l'.plates → q = p ∧ n = u ∨ q ≠ p ∧ (q, n) ∈ l.plates) :
    WellNamed g' ↔ ∀ lid' l, g.lobbies.lookup lid' = some l → lid' ≠ lid →
      ∀ n, (p, n) ∈ l.plates → n = u := by
  rw [wellNamed_iff]
  constructor
  · intro after lid' l0 hl0 ne n hn
    have row := (after lid' l0 ((rooms lid' ne).trans hl0)).rows p n hn
    rw [rows] at row
    exact (Option.some.inj row).symm
  · intro elsewhere lid' l0 hl0
    by_cases here : lid' = lid
    · subst here
      obtain rfl := Option.some.inj (hl'.symm.trans hl0)
      exact (wellNamed_iff.mp named _ l hl).one once free plates rows others
    · have old := (rooms lid' here).symm.trans hl0
      have kept := wellNamed_iff.mp named lid' l0 old
      refine kept.keeps kept.once (List.Subset.refl _) fun q n hn => ?_
      by_cases own : q = p
      · subst own
        rw [rows, kept.rows q n hn, elsewhere lid' l0 old here n hn]
      · exact others q own

/-- Somebody is seated under a name that nobody else in the room has. -/
lemma seated_iff {lid : String} {l : Lobby} {seat : Nat} {slot : Slot} {ep : String}
    (named : WellNamed g) (hl : g.lobbies.lookup lid = some l) (empty : l.seat seat = some none)
    (alive : g.connected p) (owner : slot.player_id = p) (plate : slot.display_name = u)
    (row : ∀ c, (f c).display_name = u) (free : ¬ l.HeldByOther (some p) u) :
    WellNamed ((g.setLobby lid fun _ => l.sit seat slot ep).setClient p f) ↔
      p ∉ l.member_ids ∧ g.ShownAs p u := by
  have perm := Lobby.sit_members empty slot ep
  rw [owner] at perm
  -- A second seat for the same client is one too many.
  have once : (l.sit seat slot ep).member_ids.Nodup ↔ p ∉ l.member_ids := by
    rw [perm.nodup_iff, List.nodup_cons]
    exact and_iff_left (wellNamed_iff.mp named lid l hl).once
  have here : ((g.setLobby lid fun _ => l.sit seat slot ep).setClient p f).lobbies.lookup lid =
      some (l.sit seat slot ep) := by
    simp only [setClient, setLobby, Assoc.Map.lookup_modify_self, hl, Option.map_some]
  have step : p ∉ l.member_ids →
      (WellNamed ((g.setLobby lid fun _ => l.sit seat slot ep).setClient p f) ↔
        ∀ lid' l', g.lobbies.lookup lid' = some l' → lid' ≠ lid → ∀ n, (p, n) ∈ l'.plates →
          n = u) := by
    intro out
    refine plate_iff named ?_ ?_ hl here ?_ (once.mpr out) free ?_
    · exact name_of_renamed (name_of_connected.mpr alive) row
    · exact fun q ne => name_of_other ne
    · exact fun lid' ne => Assoc.Map.lookup_modify_ne ne
    · intro q n hn
      rcases List.mem_cons.mp (l.sit_plates seat slot ep hn) with new | old
      · cases new
        exact .inl ⟨owner, plate⟩
      · refine .inr ⟨?_, old⟩
        rintro rfl
        exact out (Lobby.mem_members.mpr ⟨n, old⟩)
  constructor
  · intro after
    have out := once.mp (wellNamed_iff.mp after lid _ here).once
    refine ⟨out, fun lid' l' hl' n hn => ?_⟩
    by_cases own : lid' = lid
    · subst own
      obtain rfl := Option.some.inj (hl.symm.trans hl')
      exact absurd (Lobby.mem_members.mpr ⟨n, hn⟩) out
    · exact (step out).mp after lid' l' hl' own n hn
  · rintro ⟨out, shown⟩
    exact (step out).mpr fun lid' l' hl' _ => shown lid' l' hl'

end

section
variable {srv : Server} {s : Section} {o : Answer} {c : HubSnapshot} {t : Tid}

/-- A section that writes no name and drops no row of a member. -/
lemma WellNamed.exec_keeps (named : WellNamed c.world.hub) (basic : c.world.Basic)
    (fresh : o.uuid ∉ c.world.issued) (writes : s.kind ∉ namingKinds)
    (removes : ∀ p, s ≠ clients_remove p) (welcomes : ∀ p, s ≠ welcome p) :
    WellNamed (exec srv s o c.world).1.hub := by
  have keeps := @exec_keeps_names srv s o c.world writes
  have once : ∀ lid, (c.world.hub.register.roster lid).Nodup := by
    intro lid
    cases hl : c.world.hub.lobbies.lookup lid with
    | none =>
      simp only [HubInner.register, hl]
      exact List.nodup_nil
    | some l =>
      rw [roster_of_lookup hl]
      exact (wellNamed_iff.mp named lid l hl).once
  have step := @exec_seat_step srv s o c.world basic fresh
  have rosters := rosters_once step (seats_nobody writes) once
  rw [wellNamed_iff]
  intro lid l' hl'
  obtain ⟨l, hl, sub⟩ := keeps.seats lid l' hl'
  refine (wellNamed_iff.mp named lid l hl).keeps (roster_of_lookup hl' ▸ rosters lid) sub ?_
  intro p n hn
  apply name_of_back
  · intro row' hrow'
    obtain ⟨row, hrow, e, -⟩ := keeps.rows p row' hrow'
    exact ⟨row, hrow, e⟩
  · have here := named.has_name hl (Lobby.mem_members.mpr ⟨n, sub hn⟩)
    exact (exec_change srv s o basic.sized).client_stays (name_of_connected.mp here) (removes p)
      (welcomes p)

/-- A fresh room comes to the others. -/
lemma WellNamed.insert_iff {g g' : HubInner} (named : WellNamed g) {lid : String} {l : Lobby}
    (rooms : g'.lobbies = g.lobbies.insert lid l) (names : g'.name_of = g.name_of) :
    WellNamed g' ↔ l.NamedBy g.name_of := by
  rw [wellNamed_iff, rooms, names]
  constructor
  · intro after
    exact after lid l (AList.lookup_insert _)
  · intro new lid' l' hl'
    rcases lookup_insert_back hl' with ⟨-, old⟩ | ⟨-, rfl⟩
    · exact wellNamed_iff.mp named lid' l' old
    · exact new

/-- A room of one, under the name in its row. -/
lemma created_named {p ip : String} {msg : InMsg} (named : WellNamed c.world.hub)
    (alive : c.world.hub.connected p) :
    WellNamed (exec srv (create_insert p ip msg) o c.world).1.hub := by
  have names : (exec srv (create_insert p ip msg) o c.world).1.hub.name_of =
      c.world.hub.name_of := by
    refine Eq.trans (name_of_kept ?_) ?_
    · exact fun _ => rfl
    · rfl
  refine (named.insert_iff rfl names).mpr ?_
  obtain ⟨n, hn⟩ := Option.isSome_iff_exists.mp (name_of_connected.mpr alive)
  have plates := @createdLobby_plates srv c.world.hub o p ip msg
  rw [show (c.world.hub.clients.lookup p).map (·.display_name) = some n from hn] at plates
  refine ⟨?_, ?_, ?_⟩
  · rw [createdLobby_members]
    exact List.nodup_singleton p
  · intro q m hm
    rw [plates] at hm
    cases List.mem_singleton.mp hm
    exact hn
  · intro q r m hq hr
    rw [plates] at hq hr
    cases List.mem_singleton.mp hq
    cases List.mem_singleton.mp hr
    rfl

/-- The room of a match takes its names from the tickets. -/
lemma matched_iff {plan : MatchPlan} (named : WellNamed c.world.hub) :
    WellNamed (exec srv (form_match_room plan) o c.world).1.hub ↔
      NamesRight srv (.ran t (form_match_room plan) o c) := by
  simp only [NamesRight, exec, form_match_room_step]
  by_cases full : MAX_LOBBIES ≤ c.world.hub.lobbies.size
  · rw [if_pos full]
    exact iff_of_true named fun few => absurd full (Nat.not_le.mpr few)
  rw [if_neg full]
  by_cases gone : !c.world.hub.connected plan.p.a.player_id ∨
      !c.world.hub.connected plan.p.b.player_id
  · rw [if_pos gone]
    refine iff_of_true named fun _ ha hb => ?_
    rw [ha, hb] at gone
    rcases gone with h | h <;> cases h
  rw [if_neg gone]
  obtain ⟨ha, hb⟩ := not_or.mp gone
  rw [Bool.not_eq_true', Bool.not_eq_false] at ha hb
  refine (named.insert_iff rfl ?_).trans ?_
  · funext q
    simp only [name_of, Assoc.Map.lookup_modifyEach]
    split
    · cases c.world.hub.clients.lookup q <;> rfl
    · rfl
  have plates := @matchLobby_plates srv c.world.hub plan o.uuid
  constructor
  · intro room _ _ _
    -- One connection that is both sides has two seats.
    have other : plan.p.a.player_id ≠ plan.p.b.player_id := by
      have once := room.once
      rw [matchLobby_members] at once
      simpa using once
    refine ⟨fun same => other ?_, ?_, ?_⟩
    · apply room.apart _ _ plan.p.a.handle
      · simp [plates]
      · simp [plates, same]
    · exact room.rows _ _ (by simp [plates])
    · exact room.rows _ _ (by simp [plates])
  · intro right
    obtain ⟨apart, rowA, rowB⟩ := right (Nat.not_le.mp full) ha hb
    -- One row does not carry two names.
    have other : plan.p.a.player_id ≠ plan.p.b.player_id := by
      intro e
      rw [e] at rowA
      exact apart (Option.some.inj (rowA.symm.trans rowB))
    refine ⟨?_, ?_, ?_⟩
    · rw [matchLobby_members]
      simpa using other
    · intro q n hn
      rw [plates] at hn
      rcases List.mem_pair.mp hn with e | e <;> cases e
      · exact rowA
      · exact rowB
    · intro q r n hq hr
      rw [plates] at hq hr
      rcases List.mem_pair.mp hq with e | e <;> rcases List.mem_pair.mp hr with e' | e' <;>
        simp_all

/-- A join seats somebody who has no seat there under a name that nobody there has. -/
lemma joined_iff {p ip lid : String} {msg : InMsg} (named : WellNamed c.world.hub)
    (basic : c.world.Basic)
    (few : ∀ lid l, c.world.hub.lobbies.lookup lid = some l → l.member_ids.length < 63)
    (alive : ∀ seated, (joinOutcome srv o c.world.hub p ip lid msg).2 = .Ok seated →
      c.world.hub.connected p) :
    WellNamed (exec srv (join_seat p ip lid msg) o c.world).1.hub ↔
      NamesRight srv (.ran t (join_seat p ip lid msg) o c) := by
  simp only [NamesRight, exec, World.lift, World.setHub, join_seat_step_hub]
  have ends := join_ends srv o c.world.hub p ip lid msg
  generalize joinOutcome srv o c.world.hub p ip lid msg = out at ends alive ⊢
  cases ends with
  | refused no => exact iff_of_true named fun l seated _ ok => absurd ok (no seated)
  | @seated l seat hl free =>
    have empty := Lobby.seat_freeSeat (basic.sized lid l hl) free
    refine Iff.trans (seated_iff named hl empty (alive _ rfl) rfl rfl (fun _ => rfl)
      (unique_untaken (few lid l hl))) ?_
    constructor
    · intro right l0 _ hl0 _
      obtain rfl := Option.some.inj (hl.symm.trans hl0)
      exact right
    · exact fun right => right l _ hl rfl

/-- A `hello` renames its sender in the room that it recorded, and nowhere else. -/
lemma greeted_iff {p name : String} {game : Option String} (named : WellNamed c.world.hub)
    (few : ∀ lid l, c.world.hub.lobbies.lookup lid = some l → l.member_ids.length < 63)
    (alive : c.world.hub.connected p) :
    WellNamed (exec srv (hello_identity p (some name) game) o c.world).1.hub ↔
      NamesRight srv (.ran t (hello_identity p (some name) game) o c) := by
  show WellNamed (hello_identity_step srv c.world.hub o p (some name) game).1 ↔ _
  rw [hello_identity_step_hub]
  rcases @apply_identity_cases c.world.hub p name game o.uuid with
    ⟨e, nowhere⟩ | ⟨lid, l, hlid, hl, -, e⟩
  · -- No room: the row alone is renamed.
    have asked : helloName c.world.hub p name o.uuid = name := by simp only [helloName, nowhere]
    rw [e]
    refine Iff.trans (renamed_iff (u := name) named ?_) ?_
    · exact fun _ => rfl
    simp only [NamesRight, asked]
    constructor
    · intro shown lid l hl _
      exact shown lid l hl
    · intro shown lid l hl
      apply shown lid l hl
      intro noted
      rw [noted, Option.bind_some, hl] at nowhere
      cases nowhere
  · -- The seat in the noted room and the row get the same unique name.
    let unique := unique_display_name l name (some p) o.uuid
    let renamed := l.setMember p ({ · with display_name := unique })
    have asked : helloName c.world.hub p name o.uuid = unique := by
      simp [helloName, hlid, hl, unique]
    have members : renamed.member_ids ~ l.member_ids :=
      (l.setMember_shuffles (f := ({ · with display_name := unique })) p fun _ => rfl).members
    have once := (wellNamed_iff.mp named lid l hl).once
    have other : ∀ lid', some lid ≠ some lid' ↔ lid' ≠ lid := fun lid' => by simp [eq_comm]
    simp only [NamesRight, asked, hlid, other]
    have here : (apply_identity c.world.hub p (some name) game o.uuid).1.lobbies.lookup lid =
        some renamed := by
      rw [e]
      simp only [setClient, setLobby, Assoc.Map.lookup_modify_self, hl, Option.map_some, renamed,
        unique]
    refine plate_iff named ?_ ?_ hl here ?_ (members.nodup_iff.mpr once)
      (unique_untaken (few lid l hl)) ?_
    · rw [e]
      refine name_of_renamed ?_ fun _ => rfl
      obtain ⟨row, hrow⟩ := Option.isSome_iff_exists.mp alive
      simp [name_of, setClient, setLobby, hrow]
    · intro q ne
      rw [e]
      exact (name_of_other ne).trans (name_of_other ne)
    · intro lid' ne
      rw [e]
      exact Assoc.Map.lookup_modify_ne ne
    · intro q n hn
      by_cases own : q = p
      · subst own
        have seated := members.subset (Lobby.mem_members.mpr ⟨n, hn⟩)
        exact .inl ⟨rfl, Lobby.rename_once (List.count_eq_one_of_mem once seated) hn⟩
      · rcases Lobby.rename_plates _ hn with new | old
        · cases new
          exact absurd rfl own
        · exact .inr ⟨own, old⟩

end

/-- A step of a run keeps the rooms well named exactly when it meets the condition. -/
lemma WellNamed.run_iff {srv : Server} {c : HubSnapshot} {tr t s rest o} (r : HubRun srv c tr)
    (named : WellNamed c.world.hub) (e : c.pending t = s :: rest)
    (fresh : o.uuid ∉ c.world.issued) :
    WellNamed (exec srv s o c.world).1.hub ↔ NamesRight srv (.ran t s o c) := by
  have basic := HubRun.basic r
  have few := HubRun.few_members r
  have other : s.kind ∉ namingKinds → (∀ p, s ≠ clients_remove p) → (∀ p, s ≠ welcome p) →
      WellNamed (exec srv s o c.world).1.hub :=
    named.exec_keeps basic fresh
  cases s with
  | set_display_name p name => exact renamed_iff named fun _ => rfl
  | hello_session p name game =>
    refine iff_of_true ?_ trivial
    simp only [exec, World.lift, World.setHub, hello_session_step]
    split
    · exact named
    · exact named
    · refine (wellNamed_kept ?_).mpr named
      exact fun _ => rfl
  | hello_identity p name game =>
    cases name with
    | none =>
      refine iff_of_true ?_ trivial
      show WellNamed (hello_identity_step srv c.world.hub o p none game).1
      rw [hello_identity_step_hub]
      refine (wellNamed_kept ?_).mpr named
      exact fun _ => rfl
    | some name =>
      apply greeted_iff named few
      obtain rfl : t = .conn p := HubRun.actor_task r t _ (e ▸ List.mem_cons_self) p rfl
      exact HubRun.alive r p (e ▸ List.cons_ne_nil _ _)
  | create_insert p ip msg =>
    refine iff_of_true (created_named named ?_) trivial
    exact HubRun.seats_connected r (o := o) e (List.mem_singleton_self p)
  | join_seat p ip lid msg =>
    refine joined_iff named basic few fun seated ok => HubRun.seats_connected r (o := o) e ?_
    simp only [seatedBy, ok, List.mem_singleton]
  | form_match_room plan => exact matched_iff named
  | clients_remove p => exact dropped_iff named
  | welcome p =>
    simp only [NamesRight, exec, welcome_step]
    split
    · rename_i sent
      rw [World.send_hub]
      exact iff_of_true named fun failed => absurd (sent.symm.trans failed) (by decide)
    · rename_i failed
      rw [forall_prop_of_true (Bool.eq_false_iff.mpr failed)]
      exact dropped_iff named
  | _ =>
    refine iff_of_true (other ?_ (fun p h => ?_) fun p h => ?_) trivial
    · simp [namingKinds]
    · cases h
    · cases h

/-- A connection, a timer and a message leave the rooms well named. -/
lemma WellNamed.event {srv : Server} {w : World} {ev : Event} (named : WellNamed w.hub)
    (basic : w.Basic) (enabled : ev.enabled w) : WellNamed (ev.apply srv w).hub := by
  rw [wellNamed_iff, apply_lobbies]
  intro lid l hl
  have here := wellNamed_iff.mp named lid l hl
  refine here.keeps here.once (List.Subset.refl _) fun p n hn => ?_
  have seated := name_of_connected.mp (named.has_name hl (Lobby.mem_members.mpr ⟨n, hn⟩))
  apply name_of_back
  · intro row' hrow'
    rcases apply_client_back hrow' with old | ⟨ip, rfl, rfl⟩
    · exact ⟨row', old, rfl⟩
    · -- The id of a new connection was never drawn, so nobody sits under it.
      exact absurd (basic.client_issued p seated).2 enabled.2
  · exact connected_apply seated

/-- In a run, the seats of each room carry different names, and each the name in the row of its
client, in every state if and only if every step meets the condition. -/
theorem room_names_iff {srv c tr} (r : HubRun srv c tr) :
    (∀ s ∈ visited c tr, WellNamed s.world.hub) ↔ ∀ l ∈ tr, NamesRight srv l := by
  induction r with
  | start =>
    refine iff_of_true ?_ fun l hl => (List.not_mem_nil hl).elim
    intro s hs
    rw [visited, List.map_nil, List.mem_singleton] at hs
    subst hs
    constructor
    · intro lid l hl
      cases hl
    · intro lid l hl
      cases hl
  | @step c tr l c' r st ih =>
    rw [st.visited_cons, List.forall_mem_cons, List.forall_mem_cons, ← ih]
    refine and_congr_left fun before => ?_
    have named : WellNamed c.world.hub := before c (by simp [visited])
    cases st with
    | run e ho => exact named.run_iff r e ho.2.1
    | event _ enabled => exact iff_of_true (named.event (HubRun.basic r) enabled) trivial

/-- Does the step rename or seat only clients without a seat, and match only players whose names
differ and are those in their rows? -/
def namesRight : HubLabel → Bool
  | .ran _ (set_display_name p _) _ pre | .ran _ (hello_identity p ..) _ pre
  | .ran _ (join_seat p ..) _ pre | .ran _ (clients_remove p) _ pre | .ran _ (welcome p) _ pre =>
    pre.world.hub.lobbies.values.all fun l => p ∉ l.member_ids
  | .ran _ (form_match_room plan) _ pre =>
    plan.p.a.handle ≠ plan.p.b.handle &&
      [plan.p.a, plan.p.b].all fun x => pre.world.hub.name_of x.player_id = some x.handle
  | _ => true

lemma namesRight_sound {srv} {l : HubLabel} (h : namesRight l) : NamesRight srv l := by
  have standing : ∀ {g : HubInner} {p}, (g.lobbies.values.all fun l => p ∉ l.member_ids) →
      g.Standing p := by
    intro g p all lid l hl
    exact of_decide_eq_true (List.all_eq_true.mp all l (Assoc.Map.mem_values.mpr ⟨lid, hl⟩))
  have shown : ∀ {g : HubInner} {p name}, g.Standing p → g.ShownAs p name :=
    fun out lid l hl n hn => absurd (Lobby.mem_members.mpr ⟨n, hn⟩) (out lid l hl)
  cases l with
  | came => trivial
  | ran t s o pre =>
    cases s with
    | set_display_name p name => exact shown (standing h)
    | hello_identity p name game =>
      cases name with
      | none => trivial
      | some name => exact fun lid l hl _ n hn => shown (standing h) lid l hl n hn
    | join_seat p ip lid msg => exact fun l _ hl _ => ⟨standing h lid l hl, shown (standing h)⟩
    | clients_remove p => exact standing h
    | welcome p => exact fun _ => standing h
    | form_match_room plan =>
      obtain ⟨apart, rows⟩ := (Bool.and_eq_true _ _).mp h
      have row := List.all_eq_true.mp rows
      exact fun _ _ _ => ⟨of_decide_eq_true apart, of_decide_eq_true (row _ List.mem_cons_self),
        of_decide_eq_true (row _ (List.mem_cons_of_mem _ List.mem_cons_self))⟩
    | _ => trivial

/-- Alice and somebody else queue, both accept, and their room is made. -/
def matchedWith (other : Player) (p q room : String) : List Move :=
  let o := draw "9b1deb4d-3b7d-4bad-9bdd-2b0d7b3dcb6d"
  let m1 := draw o.uuid ["m1"]
  let m2 := draw o.uuid ["m2"]
  let yes : InMsg := { op := .automatch_accept, accept := some true }
  signIn p alice m1 ++ [say p queueUp] ++ steps (.conn p) 12 m1 ++
    signIn q other m2 ++ [say q queueUp] ++ steps (.conn q) 12 m2 ++ steps (.conn q) 2 o ++
    [say p yes] ++ steps (.conn p) 4 o ++ [say q yes] ++ steps (.conn q) 6 (draw room) ++
    steps (.conn q) 8 o

/-- The room of Alice and Bob. -/
theorem room_names_iff_matched : ∃ c tr, HubRun sampleServer c tr ∧
    (∃ lid l, c.world.hub.lobbies.lookup lid = some l ∧
      l.everyone.map (·.display_name) = ["Alice", "Bob"]) ∧
    ∀ s ∈ visited c tr, WellNamed s.world.hub := by
  let p := "6b0f1e52-3c1d-4a86-9a53-0d5f6f1c2a11"
  let q := "c4d1c1a0-5f0e-4a53-8d43-9f4b1f7f3b22"
  let room := "1f8a9f0e-7d2b-4b57-8f6f-2f6f2b0c9d01"
  let test : HubSnapshot × List HubLabel → Bool := fun x =>
    ((x.1.world.hub.lobbies.lookup room).any fun l =>
      l.everyone.map (·.display_name) = ["Alice", "Bob"]) && x.2.all namesRight
  have h : ((hubMachine sampleServer).follow (matchedWith bob p q room)).any test := by
    decide +kernel
  obtain ⟨c, tr, r, ht, -⟩ := Machine.follow_reaches h
  obtain ⟨made, right⟩ := (Bool.and_eq_true _ _).mp ht
  obtain ⟨l, hl, names⟩ := (Option.any_eq_true _ _).mp made
  refine ⟨c, tr, r, ⟨room, l, hl, of_decide_eq_true names⟩, ?_⟩
  exact (room_names_iff r).mpr fun l hl => namesRight_sound (List.all_eq_true.mp right l hl)

/-- Two accounts of one handle are matched, and both seats of their room read alike. -/
theorem matched_namesakes :
    ¬ ∀ c tr, HubRun sampleServer c tr → c.Quiet → WellNamed c.world.hub := by
  intro all
  let p := "6b0f1e52-3c1d-4a86-9a53-0d5f6f1c2a11"
  let q := "c4d1c1a0-5f0e-4a53-8d43-9f4b1f7f3b22"
  let room := "1f8a9f0e-7d2b-4b57-8f6f-2f6f2b0c9d01"
  let ms := matchedWith { bob with handle := "Alice" } p q room
  let test : HubSnapshot × List HubLabel → Bool := fun x =>
    (x.1.world.hub.lobbies.lookup room).any fun l =>
      l.everyone.map (·.display_name) = ["Alice", "Alice"]
  have movers : ∀ m ∈ ms, (hubMachine sampleServer).mover m ∈ [.conn p, .conn q] := by decide
  have h : ((hubMachine sampleServer).follow ms).any fun x =>
      test x && [.conn p, .conn q].all fun t => (x.1.pending t).isEmpty := by
    decide +kernel
  obtain ⟨c, tr, r, ht, quiet⟩ := Machine.follow_quiet _ movers h
  obtain ⟨l, hl, names⟩ := (Option.any_eq_true _ _).mp ht
  have apart := (all c tr r quiet).apart room l hl
  rw [of_decide_eq_true names] at apart
  exact absurd apart (by decide)

end RecompNet
