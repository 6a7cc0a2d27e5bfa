import RecompNet.Auth.Identity
import RecompNet.Hub.RoomEdit
import RecompNet.Hub.RowEdit
import RecompNet.Hub.Tasks

/-!
# Names in rows and seats

The row of a client and its seats carry a name each. `NameOf` is what the room makes of a handle; the rest
says which sections write a name, and that the others leave the rows and the seats as they were.
-/

open scoped List

namespace RecompNet

open Section Interleave

/-- The handle, or the handle with a number that tells it apart in a room. -/
def NameOf (handle name : String) : Prop :=
  name = handle ∨ ∃ n, 2 ≤ n ∧ name = handle ++ " (" ++ toString n ++ ")"

/-! ## The plates of a room -/

/-- Who sits in a room, and under which name. -/
def Lobby.plates (l : Lobby) : List (String × String) :=
  l.everyone.map fun s => (s.player_id, s.display_name)

namespace Lobby

lemma plates_eq_cells (l : Lobby) :
    l.plates = (l.cells.filterMap id).map fun s => (s.player_id, s.display_name) := by
  rw [plates, everyone_eq_cells]

/-- The plates are those of the occupied cells. -/
lemma mem_plates {l : Lobby} {x} :
    x ∈ l.plates ↔ ∃ s, some s ∈ l.cells ∧ (s.player_id, s.display_name) = x := by
  simp [plates_eq_cells]

/-- Rewriting seats without their names. -/
lemma plates_congr {l l' : Lobby}
    (h : l'.cells.map (Option.map fun s => (s.player_id, s.display_name)) =
      l.cells.map (Option.map fun s => (s.player_id, s.display_name))) : l'.plates = l.plates := by
  rw [plates_eq_cells, plates_eq_cells, ← filterMap_id_map, h, filterMap_id_map]

lemma plates_subset {l l' : Lobby}
    (h : l'.cells.map (Option.map fun s => (s.player_id, s.display_name)) =
      l.cells.map (Option.map fun s => (s.player_id, s.display_name))) : l'.plates ⊆ l.plates :=
  plates_congr h ▸ List.Subset.refl _

/-- What a cell holds after a write was there before, or was written. -/
lemma mem_cells_setSeat {l : Lobby} {i v c} (h : c ∈ (l.setSeat i v).cells) :
    c ∈ l.cells ∨ c = v := by
  unfold setSeat cells at h
  unfold cells
  split at h <;> rcases List.mem_append.mp h with h | h
  · exact .inl (List.mem_append_left _ h)
  · rcases List.mem_or_eq_of_mem_set h with h | rfl
    · exact .inl (List.mem_append_right _ h)
    · exact .inr rfl
  · rcases List.mem_or_eq_of_mem_set h with h | rfl
    · exact .inl (List.mem_append_left _ h)
    · exact .inr rfl
  · exact .inl (List.mem_append_right _ h)

/-- Who is taken from a seat was in a cell. -/
lemma mem_cells_of_seat {l : Lobby} {i s} (h : (l.seat i).join = some s) : some s ∈ l.cells :=
  List.mem_of_getElem? (cells_place (Option.join_eq_some_iff.mp h))

lemma setSeat_none_plates (l : Lobby) (i : Nat) : (l.setSeat i none).plates ⊆ l.plates := by
  intro x hx
  obtain ⟨s, hs, e⟩ := mem_plates.mp hx
  rcases mem_cells_setSeat hs with h | h
  · exact mem_plates.mpr ⟨s, h, e⟩
  · cases h

lemma setSeat_plates (l : Lobby) (i : Nat) (s : Slot) :
    (l.setSeat i (some s)).plates ⊆ (s.player_id, s.display_name) :: l.plates := by
  intro x hx
  obtain ⟨r, hr, rfl⟩ := mem_plates.mp hx
  rcases mem_cells_setSeat hr with h | h
  · exact List.mem_cons_of_mem _ (mem_plates.mpr ⟨r, h, rfl⟩)
  · cases h
    exact List.mem_cons_self

/-- Exchanging two seats puts no other plate up. -/
lemma swapSeats_plates (l : Lobby) (i j : Nat) : (l.swapSeats i j).plates ⊆ l.plates := by
  intro x hx
  obtain ⟨s, hs, e⟩ := mem_plates.mp hx
  refine mem_plates.mpr ⟨s, ?_, e⟩
  have emptied : ∀ {l' : Lobby} {k}, some s ∈ (l'.setSeat k none).cells → some s ∈ l'.cells :=
    fun h => (mem_cells_setSeat h).resolve_right (by simp)
  rcases mem_cells_setSeat hs with hs | second
  · rcases mem_cells_setSeat hs with hs | first
    · exact emptied (emptied hs)
    · exact mem_cells_of_seat first.symm
  · exact emptied (mem_cells_of_seat second.symm)

@[simp] lemma mapPlayers_plates (l : Lobby) (f : Slot → Slot)
    (h : ∀ s, ((f s).player_id, (f s).display_name) = (s.player_id, s.display_name)) :
    (l.mapPlayers f).plates = l.plates := by
  apply plates_congr
  simp [cells, mapPlayers, Function.comp_def, h]

@[simp] lemma unready_plates (l : Lobby) : l.unready.plates = l.plates :=
  mapPlayers_plates l _ fun _ => rfl

lemma clearPlayerPaths_plates (l : Lobby) : l.clearPlayerPaths.plates ⊆ l.plates := by
  rw [clearPlayerPaths, mapPlayers_plates l Slot.clearPath fun _ => rfl]
  exact List.Subset.refl _

@[simp] lemma clear_paths_plates (l : Lobby) : (clear_lobby_ice_paths l).plates = l.plates := by
  apply plates_congr
  simp [cells, clear_lobby_ice_paths, mapSeats, Slot.clearPath, Function.comp_def]

lemma rearrange_plates (l : Lobby) (i j : Nat) : (l.rearrange i j).plates ⊆ l.plates := by
  rw [rearrange, clear_paths_plates, unready_plates]
  exact l.swapSeats_plates i j

lemma trade_plates (l : Lobby) (i j : Nat) : (l.trade i j).plates ⊆ l.plates := by
  unfold trade
  dsimp only
  split
  · rw [clear_paths_plates, unready_plates]
    exact l.swapSeats_plates i j
  · rw [unready_plates]
    exact l.swapSeats_plates i j

lemma reportPath_plates (l : Lobby) (p : String) (kind : IcePath) (now : Instant) :
    (l.reportPath p kind now).plates ⊆ l.plates := by
  refine plates_subset ?_
  simp only [cells, reportPath, setPlayer, List.map_append]
  rw [map_updateFirst]
  rintro (_ | s) <;> rfl

/-- Rewriting one member's seat, when it keeps the owner and the name. -/
lemma setMember_plates (l : Lobby) (p : String) {f : Slot → Slot}
    (h : ∀ s, ((f s).player_id, (f s).display_name) = (s.player_id, s.display_name)) :
    (l.setMember p f).plates ⊆ l.plates := by
  have kept : ∀ (c : Option Slot → Bool) (xs : List (Option Slot)),
      (updateFirst c (Option.map f) xs).map (Option.map fun s => (s.player_id, s.display_name)) =
        xs.map (Option.map fun s => (s.player_id, s.display_name)) := fun c xs =>
    map_updateFirst c _ _ (fun s => by cases s <;> simp [h]) xs
  unfold setMember
  split
  · exact plates_subset (by simp only [cells, setPlayer, List.map_append, kept])
  · exact plates_subset (by simp only [cells, List.map_append, kept])

@[simp] lemma launch_plates (l : Lobby) (caps : Option Value) (sid : Nat) :
    (l.launch caps sid).plates = l.plates := l.unready_plates

lemma sit_plates (l : Lobby) (i : Nat) (s : Slot) (ep : String) :
    (l.sit i s ep).plates ⊆ (s.player_id, s.display_name) :: l.plates := by
  have same : (l.sit i s ep).plates = (l.setSeat i (some s)).plates := by
    show (clear_lobby_ice_paths (l.setSeat i (some s)).unready).plates = _
    rw [clear_paths_plates, unready_plates]
  rw [same]
  exact l.setSeat_plates i s

lemma kick_plates (l : Lobby) (i : Nat) : (l.kick i).plates ⊆ l.plates := by
  have same : (l.kick i).plates = (l.setSeat i none).plates := by
    rw [kick, clear_paths_plates]
    exact unready_plates _
  rw [same]
  exact l.setSeat_none_plates i

lemma vacate_plates (l : Lobby) (p : String) : (l.vacate p).plates ⊆ l.plates := by
  rw [vacate, clear_paths_plates]
  intro x hx
  obtain ⟨s, hs, e⟩ := mem_plates.mp hx
  refine mem_plates.mpr ⟨s, ?_, e⟩
  simp only [cells, ← List.map_append] at hs
  obtain ⟨c, hc, e⟩ := List.mem_map.mp hs
  split_ifs at e
  exact e ▸ hc

end Lobby

/-! ## Sections that write no name -/

/-- No row has another name or account, and no room another plate. -/
structure HubInner.KeepsNames (g g' : HubInner) : Prop where
  rows : ∀ p row', g'.clients.lookup p = some row' → ∃ row, g.clients.lookup p = some row ∧
    row'.display_name = row.display_name ∧ row'.account = row.account
  seats : ∀ lid l', g'.lobbies.lookup lid = some l' →
    ∃ l, g.lobbies.lookup lid = some l ∧ l'.plates ⊆ l.plates

namespace HubInner

lemma KeepsNames.refl (g : HubInner) : g.KeepsNames g where
  rows := fun _ row h => ⟨row, h, rfl, rfl⟩
  seats := fun _ l h => ⟨l, h, List.Subset.refl _⟩

lemma KeepsNames.trans {a b c : HubInner} (h : a.KeepsNames b) (k : b.KeepsNames c) :
    a.KeepsNames c where
  rows := fun p row'' h'' => by
    obtain ⟨row', h', name', account'⟩ := k.rows p row'' h''
    obtain ⟨row, h, name, account⟩ := h.rows p row' h'
    exact ⟨row, h, name'.trans name, account'.trans account⟩
  seats := fun lid l'' h'' => by
    obtain ⟨l', h', sub'⟩ := k.seats lid l'' h''
    obtain ⟨l, h, sub⟩ := h.seats lid l' h'
    exact ⟨l, h, List.Subset.trans sub' sub⟩

lemma keeps_names_setClient {g : HubInner} {p : String} {f : ClientMeta → ClientMeta}
    (h : ∀ c : ClientMeta, (f c).display_name = c.display_name ∧ (f c).account = c.account) :
    g.KeepsNames (g.setClient p f) where
  rows := fun q row' hq => by
    obtain ⟨row, hrow, ⟨-, e⟩ | ⟨-, e⟩⟩ := lookup_setClient_back hq
    · exact ⟨row, hrow, e ▸ ⟨rfl, rfl⟩⟩
    · exact ⟨row, hrow, e ▸ h row⟩
  seats := (KeepsNames.refl g).seats

end HubInner

open HubInner

lemma recordTitle_keeps_names {g : HubInner} {p game} : g.KeepsNames (g.recordTitle p game) := by
  unfold recordTitle
  split
  · exact keeps_names_setClient fun _ => ⟨rfl, rfl⟩
  · exact .refl g

/-- The sections that write a name or an account. -/
def namingKinds : List SectionKind :=
  [.set_display_name, .hello_session, .hello_identity, .create_insert, .join_seat, .form_match_room]

/-- The other sections write neither into a row. -/
lemma RowEdit.keeps_names {o w q c s c'} (h : RowEdit o w q c s c') (other : s.kind ∉ namingKinds) :
    c'.display_name = c.display_name ∧ c'.account = c.account := by
  cases h with
  | sign_in | identity | set_display_name | sit => simp [namingKinds, Section.kind] at other
  | _ => exact ⟨rfl, rfl⟩

/-- They put no plate up. -/
lemma RoomEdit.keeps_names {srv o w lid l s l'} (h : RoomEdit srv o w lid l s l')
    (other : s.kind ∉ namingKinds) : l'.plates ⊆ l.plates := by
  cases h with
  | rename | sit => simp [namingKinds, Section.kind] at other
  | same | set_match_caps => exact List.Subset.refl _
  | set_ready _ _ marks =>
    apply l.setMember_plates
    intro s
    obtain ⟨_, _, _, _, e⟩ := marks s
    rw [e]
  | set_host_endpoint _ _ _ paths =>
    rcases paths with ⟨rfl, -⟩ | rfl
    · exact List.Subset.refl _
    · exact l.clearPlayerPaths_plates
  | path_report => exact l.reportPath_plates _ _ _
  | move | seat_move => exact l.rearrange_plates _ _
  | seat_swap_answer => exact l.trade_plates _ _
  | kick => exact l.kick_plates _
  | vacate => exact l.vacate_plates _
  | launch => exact l.launch_plates _ _ ▸ List.Subset.refl _

/-- The other sections leave the names alone. -/
theorem exec_keeps_names {srv : Server} {s : Section} {o : Answer} {w : World}
    (h : s.kind ∉ namingKinds) :
    w.hub.KeepsNames (exec srv s o w).1.hub := by
  constructor
  · intro q row' hq
    obtain ⟨row, hrow, edit⟩ := exec_row q row' hq
    exact ⟨row, hrow, edit.keeps_names h⟩
  · intro lid l' hl'
    rcases exec_room hl' with ⟨l, hl, edit⟩ | ⟨p, ip, msg, rfl, -⟩ | ⟨plan, rfl, -⟩
    · exact ⟨l, hl, edit.keeps_names h⟩
    · simp [namingKinds, Section.kind] at h
    · simp [namingKinds, Section.kind] at h

/-! ## Sections that write a name -/

/-- The account of a connected client. -/
def HubInner.account (g : HubInner) (p : String) : Option Player :=
  (g.clients.lookup p).bind (·.account)

/-- The name that a `hello` leaves in the row, given the name that it asks for. -/
def helloName (g : HubInner) (p name fallback : String) : String :=
  match (g.lobby_id_of p).bind (g.lobbies.lookup ·) with
  | none => name
  | some l => unique_display_name l name (some p) fallback

/-- The names that a section writes into rows and seats, and whose they are. -/
def namesWritten (srv : Server) (s : Section) (o : Answer) (w : World) : List (String × String) :=
  match s with
  | set_display_name p name => [(p, name)]
  | hello_identity p name _ => name.toList.map fun n => (p, helloName w.hub p n o.uuid)
  | create_insert p .. => [(p, ((w.hub.clients.lookup p).map (·.display_name)).getD "Host")]
  | join_seat p ip lid msg =>
    match (joinOutcome srv o w.hub p ip lid msg).2, w.hub.lobbies.lookup lid with
    | .Ok _, some l =>
      let requested := ((w.hub.clients.lookup p).map (·.display_name)).getD "Guest"
      [(p, unique_display_name l requested (some p) o.uuid)]
    | _, _ => []
  | form_match_room plan =>
    [(plan.p.a.player_id, plan.p.a.handle), (plan.p.b.player_id, plan.p.b.handle)]
  | _ => []

/-- Every name is an old one, or one that was written. -/
structure HubInner.Renames (g g' : HubInner) (written : List (String × String)) : Prop where
  rows : ∀ p row', g'.clients.lookup p = some row' → (p, row'.display_name) ∈ written ∨
    ∃ row, g.clients.lookup p = some row ∧ row'.display_name = row.display_name
  seats : ∀ lid l', g'.lobbies.lookup lid = some l' → ∀ x ∈ l'.plates, x ∈ written ∨
    ∃ l, g.lobbies.lookup lid = some l ∧ x ∈ l.plates

lemma HubInner.KeepsNames.renames {g g' : HubInner} (h : g.KeepsNames g') {written} :
    g.Renames g' written where
  rows := fun p row' hp => by
    obtain ⟨row, hrow, name, -⟩ := h.rows p row' hp
    exact .inr ⟨row, hrow, name⟩
  seats := fun lid l' hl' x hx => by
    obtain ⟨l, hl, sub⟩ := h.seats lid l' hl'
    exact .inr ⟨l, hl, sub hx⟩

/-! ## What changes -/

namespace HubInner

lemma Renames.refl {g : HubInner} {written} : g.Renames g written := (KeepsNames.refl g).renames

/-- Rewriting a row, when the name is an old one or one of those written. -/
lemma renames_setClient {g : HubInner} {p : String} {f : ClientMeta → ClientMeta} {written}
    (h : ∀ row, g.clients.lookup p = some row →
      (p, (f row).display_name) ∈ written ∨ (f row).display_name = row.display_name) :
    g.Renames (g.setClient p f) written where
  rows := fun q row' hq => by
    obtain ⟨row, hrow, ⟨-, rfl⟩ | ⟨rfl, rfl⟩⟩ := lookup_setClient_back hq
    · exact .inr ⟨_, hrow, rfl⟩
    · exact (h row hrow).imp id fun name => ⟨row, hrow, name⟩
  seats := fun lid l hl x hx => .inr ⟨l, hl, hx⟩

/-- Rewriting a room, when its plates are old ones or written. -/
lemma renames_setLobby {g : HubInner} {lid : String} {f : Lobby → Lobby} {written}
    (h : ∀ l, g.lobbies.lookup lid = some l → ∀ x ∈ (f l).plates, x ∈ written ∨ x ∈ l.plates) :
    g.Renames (g.setLobby lid f) written where
  rows := (Renames.refl (g := g)).rows
  seats := fun lid' l' hl' x hx => by
    obtain ⟨l, hl, ⟨-, rfl⟩ | ⟨rfl, rfl⟩⟩ := lookup_setLobby_back hl'
    · exact .inr ⟨_, hl, hx⟩
    · exact (h l hl x hx).imp id fun hx => ⟨l, hl, hx⟩

/-- Adding a room whose plates are written. -/
lemma renames_insert {g : HubInner} {lid : String} {l : Lobby} {written}
    (h : l.plates ⊆ written) : g.Renames { g with lobbies := g.lobbies.insert lid l } written where
  rows := (Renames.refl (g := g)).rows
  seats := fun lid' l' hl' x hx => by
    rcases lookup_insert_back hl' with ⟨-, hl'⟩ | ⟨-, rfl⟩
    · exact .inr ⟨l', hl', hx⟩
    · exact .inl (h hx)

lemma Renames.trans {a b c : HubInner} {written} (h : a.Renames b written)
    (k : b.Renames c written) : a.Renames c written where
  rows := fun p row'' h'' => by
    rcases k.rows p row'' h'' with new | ⟨row', h', e'⟩
    · exact .inl new
    · rcases h.rows p row' h' with new | ⟨row, hrow, e⟩
      · exact .inl (e' ▸ new)
      · exact .inr ⟨row, hrow, e'.trans e⟩
  seats := fun lid l'' h'' x hx => by
    rcases k.seats lid l'' h'' x hx with new | ⟨l', h', hx'⟩
    · exact .inl new
    · exact h.seats lid l' h' x hx'

end HubInner

/-- A rewritten element comes from the list, or is the rewriting of one that was found. -/
lemma mem_updateFirst {α : Type} {c : α → Bool} {f : α → α} {xs : List α} {y}
    (h : y ∈ updateFirst c f xs) : y ∈ xs ∨ ∃ x ∈ xs, c x ∧ y = f x := by
  induction xs with
  | nil => cases h
  | cons x xs ih =>
    simp only [updateFirst] at h
    split at h
    · rename_i found
      rcases List.mem_cons.mp h with rfl | h
      · exact .inr ⟨x, List.mem_cons_self, found, rfl⟩
      · exact .inl (List.mem_cons_of_mem _ h)
    · rcases List.mem_cons.mp h with rfl | h
      · exact .inl List.mem_cons_self
      · rcases ih h with h | ⟨x', hx', found, e⟩
        · exact .inl (List.mem_cons_of_mem _ h)
        · exact .inr ⟨x', List.mem_cons_of_mem _ hx', found, e⟩

/-- What is in a cell after a member's seat was rewritten. -/
lemma Lobby.mem_cells_setMember {l : Lobby} {p f c} (h : c ∈ (l.setMember p f).cells) :
    c ∈ l.cells ∨ ∃ s, some s ∈ l.cells ∧ s.player_id = p ∧ c = some (f s) := by
  have found : ∀ {xs : List (Option Slot)}, c ∈ updateFirst (holds p) (Option.map f) xs →
      c ∈ xs ∨ ∃ s, some s ∈ xs ∧ s.player_id = p ∧ c = some (f s) := by
    intro xs h
    rcases mem_updateFirst h with h | ⟨x, hx, hp, rfl⟩
    · exact .inl h
    · obtain ⟨s, rfl, hs⟩ := holds_eq_true.mp hp
      exact .inr ⟨s, hx, hs, rfl⟩
  unfold setMember at h
  unfold cells
  split at h <;> rcases List.mem_append.mp h with h | h
  · rcases found h with h | ⟨s, hs, e⟩
    · exact .inl (List.mem_append_left _ h)
    · exact .inr ⟨s, List.mem_append_left _ hs, e⟩
  · exact .inl (List.mem_append_right _ h)
  · exact .inl (List.mem_append_left _ h)
  · rcases found h with h | ⟨s, hs, e⟩
    · exact .inl (List.mem_append_right _ h)
    · exact .inr ⟨s, List.mem_append_right _ hs, e⟩

/-- Renaming a member puts one plate up. -/
lemma Lobby.rename_plates {l : Lobby} {p name : String} :
    ∀ x ∈ (l.setMember p ({ · with display_name := name })).plates,
      x = (p, name) ∨ x ∈ l.plates := by
  intro x hx
  obtain ⟨s, hs, rfl⟩ := mem_plates.mp hx
  rcases mem_cells_setMember hs with hs | ⟨s0, -, hp, e⟩
  · exact .inr (mem_plates.mpr ⟨s, hs, rfl⟩)
  · cases e
    exact .inl (Prod.ext hp rfl)

/-- Where a `hello` with a name leaves the hub: the row renamed, and with it the seat when there is one. -/
lemma apply_identity_cases {g : HubInner} {p n game fallback} :
    ((apply_identity g p (some n) game fallback).1 = g.setClient p (fun c =>
        { c with display_name := n, game_name := game.getD c.game_name }) ∧
      (g.lobby_id_of p).bind (g.lobbies.lookup ·) = none) ∨
    ∃ lid l, g.lobby_id_of p = some lid ∧ g.lobbies.lookup lid = some l ∧
      (apply_identity g p (some n) game fallback).2.2 =
        (if (l.everyone.find? (·.player_id = p)).any
          (·.display_name ≠ unique_display_name l n (some p) fallback) then some lid else none) ∧
      (apply_identity g p (some n) game fallback).1 =
        ((g.setClient p fun c =>
            { c with display_name := n, game_name := game.getD c.game_name }).setLobby lid
          (·.setMember p ({ · with display_name := unique_display_name l n (some p) fallback }))).setClient
          p ({ · with display_name := unique_display_name l n (some p) fallback }) := by
  have noted : (g.setClient p fun c => { c with
      display_name := n, game_name := game.getD c.game_name }).lobby_id_of p = g.lobby_id_of p := by
    simp only [lobby_id_of, setClient, Assoc.Map.lookup_modify_self]
    cases g.clients.lookup p <;> rfl
  simp only [apply_identity, Option.getD_some, noted]
  cases hlid : g.lobby_id_of p with
  | none => exact .inl ⟨rfl, rfl⟩
  | some lid =>
    cases hl : g.lobbies.lookup lid with
    | none =>
      refine .inl ⟨?_, hl⟩
      simp only [setClient, hl]
    | some l =>
      refine .inr ⟨lid, l, rfl, hl, ?_, ?_⟩
      · simp only [setClient, hl]
      · simp only [setClient, setLobby, hl]

lemma apply_identity_renames {g : HubInner} {p name game fallback} :
    g.Renames (apply_identity g p name game fallback).1
      (name.toList.map fun n => (p, helloName g p n fallback)) := by
  cases name with
  | none => exact renames_setClient fun _ _ => .inr rfl
  | some n =>
    rcases @apply_identity_cases g p n game fallback with ⟨e, none⟩ | ⟨lid, l, hlid, hl, -, e⟩
    · rw [e]
      refine renames_setClient fun _ _ => .inl ?_
      simp [helloName, none]
    · have name : helloName g p n fallback = unique_display_name l n (some p) fallback := by
        simp [helloName, hlid, hl]
      rw [e]
      refine ⟨fun q row' hq => ?_, fun lid' l' hl' x hx => ?_⟩
      · obtain ⟨row1, h1, ⟨ne, rfl⟩ | ⟨rfl, rfl⟩⟩ := lookup_setClient_back hq
        · obtain ⟨row, hrow, ⟨-, e⟩ | ⟨e, -⟩⟩ := lookup_setClient_back h1
          · exact .inr ⟨row, hrow, e ▸ rfl⟩
          · exact absurd e ne
        · left
          simp [name]
      · obtain ⟨l1, h1, ⟨-, rfl⟩ | ⟨rfl, rfl⟩⟩ := lookup_setLobby_back hl'
        · exact .inr ⟨_, h1, hx⟩
        · rcases Lobby.rename_plates x hx with rfl | hx
          · left
            simp [name]
          · exact .inr ⟨l1, h1, hx⟩

/-- A successful join seats the joiner under its unique name. -/
lemma joinOutcome_renames {srv o} {g : HubInner} {p ip lid msg} :
    g.Renames (joinOutcome srv o g p ip lid msg).1
      (match (joinOutcome srv o g p ip lid msg).2, g.lobbies.lookup lid with
        | .Ok _, some l => [(p, unique_display_name l
            (((g.clients.lookup p).map (·.display_name)).getD "Guest") (some p) o.uuid)]
        | _, _ => []) := by
  have ends := join_ends srv o g p ip lid msg
  generalize joinOutcome srv o g p ip lid msg = out at ends ⊢
  cases ends with
  | refused => exact .refl
  | @seated l seat hl free =>
    rw [hl]
    dsimp only
    apply Renames.trans (renames_setLobby _) (renames_setClient _)
    · intro l' hl' x hx
      obtain rfl := Option.some.inj (hl.symm.trans hl')
      exact (List.mem_cons.mp (l.sit_plates _ _ _ hx)).imp List.mem_singleton.mpr id
    · exact fun _ _ => .inl (List.mem_singleton_self _)

/-- With one element to rewrite, all that meet the condition are rewritten. -/
lemma updateFirst_once {α : Type} {c : α → Bool} {f : α → α} {xs : List α} (once : xs.countP c ≤ 1)
    {y} (h : y ∈ updateFirst c f xs) (hy : c y) : ∃ x, y = f x := by
  induction xs with
  | nil => cases h
  | cons x xs ih =>
    simp only [updateFirst] at h
    split at h
    · rename_i found
      rcases List.mem_cons.mp h with rfl | h
      · exact ⟨x, rfl⟩
      · rw [List.countP_cons_of_pos found] at once
        have rest : xs.countP c = 0 := by omega
        exact absurd hy (List.countP_eq_zero.mp rest y h)
    · rename_i other
      rw [List.countP_cons_of_neg other] at once
      rcases List.mem_cons.mp h with rfl | h
      · exact absurd hy other
      · exact ih once h

/-- The seats of a member are the cells that hold it. -/
lemma Lobby.count_member (l : Lobby) (p : String) : l.member_ids.count p = l.cells.countP (holds p) := by
  rw [member_ids_eq_cells, List.count, List.countP_map, List.countP_filterMap]
  congr 1
  funext c
  cases c with
  | none => rfl
  | some s => exact Bool.beq_eq_decide_eq s.player_id p

/-- Renaming a member with one seat leaves it no other plate. -/
lemma Lobby.rename_once {l : Lobby} {p name n : String} (once : l.member_ids.count p = 1)
    (h : (p, n) ∈ (l.setMember p ({ · with display_name := name })).plates) : n = name := by
  obtain ⟨s, hs, e⟩ := mem_plates.mp h
  obtain ⟨hp, rfl⟩ := Prod.mk.inj e
  have mine : holds p (some s) := holds_eq_true.mpr ⟨s, rfl, hp⟩
  have renamed : ∀ {xs : List (Option Slot)}, xs.countP (holds p) ≤ 1 →
      some s ∈ updateFirst (holds p) (Option.map ({ · with display_name := name })) xs →
      s.display_name = name := by
    intro xs few hs
    obtain ⟨c, e⟩ := updateFirst_once few hs mine
    cases c with
    | none => cases e
    | some s0 =>
      cases e
      rfl
  rw [count_member, cells, List.countP_append] at once
  unfold setMember at hs
  split at hs
  · rename_i seated
    obtain ⟨c, hc, hold⟩ := List.any_eq_true.mp seated
    have one := List.countP_pos_iff.mpr ⟨c, hc, hold⟩
    rcases List.mem_append.mp hs with hs | hs
    · exact renamed (by omega) hs
    · have rest : l.spectators.countP (holds p) = 0 := by omega
      exact absurd mine (List.countP_eq_zero.mp rest _ hs)
  · rename_i standing
    rcases List.mem_append.mp hs with hs | hs
    · exact absurd (List.any_eq_true.mpr ⟨some s, hs, mine⟩) standing
    · exact renamed (by omega) hs

lemma createdLobby_plates {srv} {g : HubInner} {o p ip msg} :
    (createdLobby srv g o p ip msg).plates =
      [(p, ((g.clients.lookup p).map (·.display_name)).getD "Host")] := by
  have two : ∃ n, clamp (msg.max_slots.getD 2) 2 MAX_SLOTS = n + 1 := by
    refine ⟨clamp (msg.max_slots.getD 2) 2 MAX_SLOTS - 1, ?_⟩
    unfold clamp MAX_SLOTS
    omega
  obtain ⟨n, hn⟩ := two
  simp only [Lobby.plates, Lobby.everyone, createdLobby, hn, filterMap_replicate_none,
    List.replicate_succ, List.set_cons_zero]
  simp

lemma matchLobby_plates {srv} {g : HubInner} {plan lid} : (matchLobby srv g plan lid).plates =
    [(plan.p.a.player_id, plan.p.a.handle), (plan.p.b.player_id, plan.p.b.handle)] := by
  simp [Lobby.plates, Lobby.everyone, matchLobby, plan.rs.max_slots_two, matchSlot,
    List.replicate_succ]

/-- What a section writes is all that changes. -/
theorem exec_renames {srv : Server} {s : Section} {o : Answer} {w : World} :
    w.hub.Renames (exec srv s o w).1.hub (namesWritten srv s o w) := by
  by_cases other : s.kind ∉ namingKinds
  · exact (exec_keeps_names other).renames
  cases s with
  | set_display_name p name => exact renames_setClient fun _ _ => .inl List.mem_cons_self
  | hello_session p name game =>
    simp only [exec, World.lift, World.setHub, hello_session_step]
    split
    · exact .refl
    · exact .refl
    · exact renames_setClient fun _ _ => .inr rfl
  | hello_identity p name game =>
    simp only [exec, World.lift, World.setHub, hello_identity_step_hub]
    exact apply_identity_renames
  | create_insert p ip msg =>
    have added : w.hub.Renames { w.hub with
        next_session := nextSession w.hub.next_session
        lobbies := w.hub.lobbies.insert o.uuid (createdLobby srv w.hub o p ip msg) }
        (namesWritten srv (create_insert p ip msg) o w) := by
      refine ⟨(Renames.refl (g := w.hub)).rows, (renames_insert ?_).seats⟩
      rw [createdLobby_plates]
      exact List.Subset.refl _
    exact added.trans (renames_setClient fun _ _ => .inr rfl)
  | join_seat p ip lid msg =>
    simp only [exec, World.lift, World.setHub, join_seat_step_hub, namesWritten]
    exact joinOutcome_renames
  | form_match_room plan =>
    simp only [exec, form_match_room_step]
    split_ifs
    · exact .refl
    · exact .refl
    · constructor
      · intro q row' hq
        obtain ⟨row, hrow, ⟨-, rfl⟩ | ⟨-, rfl⟩⟩ := lookup_modifyEach_back hq
        · exact .inr ⟨_, hrow, rfl⟩
        · exact .inr ⟨row, hrow, rfl⟩
      · refine (renames_insert (g := w.hub) ?_).seats
        rw [matchLobby_plates]
        exact List.Subset.refl _
  | _ => exact absurd (by simp [namingKinds, Section.kind]) other

/-! ## Sections that attach an account -/

lemma account_setClient {g : HubInner} {q : String} {f : ClientMeta → ClientMeta}
    (h : ∀ c, (f c).account = c.account) : (g.setClient q f).account = g.account := by
  funext p
  simp only [account, setClient, Assoc.Map.lookup_modify]
  split
  · cases g.clients.lookup p with
    | none => rfl
    | some c => exact h c
  · rfl

lemma apply_identity_account {g : HubInner} {p name game fallback} :
    (apply_identity g p name game fallback).1.account = g.account := by
  have titled : ∀ n : String, (g.setClient p fun c =>
      { c with display_name := n, game_name := game.getD c.game_name }).account = g.account :=
    fun n => account_setClient fun _ => rfl
  cases name with
  | none => exact account_setClient fun _ => rfl
  | some n =>
    rcases @apply_identity_cases g p n game fallback with ⟨e, -⟩ | ⟨lid, l, -, -, -, e⟩
    · rw [e]
      exact titled n
    · rw [e]
      refine (account_setClient ?_).trans (titled n)
      exact fun _ => rfl

/-- Only the session of a `hello` writes the account of a row. -/
lemma RowEdit.account {o w q c s c'} (h : RowEdit o w q c s c') : c'.account = c.account ∨
    ∃ name game pl, s = hello_session q name game ∧ o.session = .player pl ∧
      c'.account = some pl := by
  cases h with
  | sign_in signed => exact .inr ⟨_, _, _, rfl, signed, rfl⟩
  | _ => exact .inl rfl

/-- A connection gets an account from the session of its `hello` alone. -/
lemma exec_account {srv : Server} {s : Section} {o : Answer} {w : World} {p : String} {pl : Player}
    (h : (exec srv s o w).1.hub.account p = some pl) : w.hub.account p = some pl ∨
      ∃ name game, s = hello_session p name game ∧ o.session = .player pl := by
  obtain ⟨row', hrow', has⟩ := Option.bind_eq_some_iff.mp h
  obtain ⟨row, hrow, edit⟩ := exec_row p row' hrow'
  rcases edit.account with same | ⟨name, game, pl', rfl, signed, given⟩
  · exact .inl (Option.bind_eq_some_iff.mpr ⟨row, hrow, same ▸ has⟩)
  · obtain rfl := Option.some.inj (given.symm.trans has)
    exact .inr ⟨name, game, rfl, signed⟩

end RecompNet
