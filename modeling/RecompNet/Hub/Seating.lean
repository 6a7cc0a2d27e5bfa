import RecompNet.Lib.Roster
import RecompNet.Hub.Entering
import RecompNet.Hub.Stale

/-!
# Who sits where

The seats of the rooms and the `lobby_id` of the clients are written in separate sections of many
handlers. `SeatStep` says what one section does to both tables, read as a register of rosters and notes.
A create and a join check that the client has no room before they seat it, and the forming of a match room
does not. In a run whose match rooms seat only clients that are free, the register is sound in every state,
and with no handler in flight the two tables say the same.
-/

open scoped List

namespace RecompNet

open Section Interleave Roster

/-- The rosters of the rooms and the rooms that the clients recorded. -/
def HubInner.register (g : HubInner) : Register String String where
  roster := fun lid => ((g.lobbies.lookup lid).map (·.member_ids)).getD []
  note := g.lobby_id_of

/-- The clients that a section seats. -/
def seatedBy (srv : Server) (s : Section) (o : Answer) (w : World) : List String :=
  match s with
  | create_insert p _ _ => [p]
  | join_seat p ip lid msg =>
    match (joinOutcome srv o w.hub p ip lid msg).2 with
    | .Ok _ => [p]
    | _ => []
  | form_match_room plan =>
    let a := plan.p.a.player_id
    let b := plan.p.b.player_id
    if w.hub.lobbies.size < MAX_LOBBIES ∧ w.hub.connected a ∧ w.hub.connected b then [a, b] else []
  | _ => []

section
variable {g g' : HubInner}

lemma mem_roster {p lid : String} :
    p ∈ g.register.roster lid ↔ ∃ l, g.lobbies.lookup lid = some l ∧ p ∈ l.member_ids := by
  cases h : g.lobbies.lookup lid <;> simp [HubInner.register, h]

lemma roster_of_lookup {lid : String} {l : Lobby} (h : g.lobbies.lookup lid = some l) :
    g.register.roster lid = l.member_ids := by
  simp [HubInner.register, h]

lemma roster_setLobby {lid lid' : String} {f : Lobby → Lobby} :
    (g.setLobby lid f).register.roster lid' =
      if lid' = lid then ((g.lobbies.lookup lid').map fun l => (f l).member_ids).getD []
      else g.register.roster lid' := by
  simp only [HubInner.register, HubInner.setLobby, Assoc.Map.lookup_modify]
  split
  · cases g.lobbies.lookup lid' <;> rfl
  · rfl

lemma note_setClient {p q : String} {f : ClientMeta → ClientMeta} :
    (g.setClient p f).lobby_id_of q =
      if q = p then (g.clients.lookup q).bind fun c => (f c).lobby_id else g.lobby_id_of q := by
  simp only [HubInner.lobby_id_of, HubInner.setClient, Assoc.Map.lookup_modify]
  split
  · cases g.clients.lookup q <;> rfl
  · rfl

/-- Erasing a note. -/
lemma note_erased {p q : String} {f : ClientMeta → ClientMeta} (h : ∀ c, (f c).lobby_id = none) :
    (g.setClient p f).lobby_id_of q = if q = p then none else g.lobby_id_of q := by
  rw [note_setClient]
  split
  · cases g.clients.lookup q with
    | none => rfl
    | some c => exact h c
  · rfl

lemma keeps_roster (h : g.Keeps g') (lid : String) :
    g'.register.roster lid ~ g.register.roster lid := by
  have rel := h.lobbies lid
  unfold HubInner.register
  dsimp only
  generalize g.lobbies.lookup lid = x at rel ⊢
  generalize g'.lobbies.lookup lid = y at rel ⊢
  cases rel with
  | none => exact .refl _
  | some k => exact k.members

lemma keeps_note (h : g.Keeps g') : g'.lobby_id_of = g.lobby_id_of := by
  funext q
  have rel := h.clients q
  unfold HubInner.lobby_id_of
  generalize g.clients.lookup q = x at rel ⊢
  generalize g'.clients.lookup q = y at rel ⊢
  cases rel with
  | none => rfl
  | some k => exact k.lobby_id

end

/-- What a section does to the register. -/
inductive SeatStep (srv : Server) (s : Section) (o : Answer) (w : World) (g' : HubInner) : Prop where
  | stay :
    (∀ lid, g'.register.roster lid ~ w.hub.register.roster lid) →
    g'.register.note = w.hub.register.note →
    SeatStep srv s o w g'
  | enter {lid} :
    g'.register.roster lid ~ seatedBy srv s o w ++ w.hub.register.roster lid →
    (∀ lid', lid' ≠ lid → g'.register.roster lid' ~ w.hub.register.roster lid') →
    (∀ q, (q ∈ seatedBy srv s o w → w.hub.connected q) →
      g'.register.note q = if q ∈ seatedBy srv s o w then some lid else w.hub.register.note q) →
    SeatStep srv s o w g'
  /-- A client leaves a room that its departure closes, or that is gone. -/
  | forget {p} :
    s = client_leave p →
    (∀ lid, g'.register.roster lid ~ w.hub.register.roster lid) →
    (∀ q, g'.register.note q = if q = p then none else w.hub.register.note q) →
    SeatStep srv s o w g'
  | drop {p} :
    s = clients_remove p ∨ s = welcome p →
    (∀ lid, g'.register.roster lid ~ w.hub.register.roster lid) →
    (∀ q, g'.register.note q = if q = p then none else w.hub.register.note q) →
    SeatStep srv s o w g'
  | take {p lid} :
    w.hub.register.note p = some lid ∨ p ∈ w.hub.register.roster lid →
    ((w.hub.register.roster lid).Nodup →
      g'.register.roster lid ~ (w.hub.register.roster lid).erase p) →
    (∀ lid', lid' ≠ lid → g'.register.roster lid' ~ w.hub.register.roster lid') →
    (∀ q, g'.register.note q = if q = p then none else w.hub.register.note q) →
    SeatStep srv s o w g'
  | dissolve {lid} :
    s = destroy_lobby lid →
    g'.register.roster lid = [] →
    (∀ lid', lid' ≠ lid → g'.register.roster lid' ~ w.hub.register.roster lid') →
    (∀ q, g'.register.note q =
      if q ∈ w.hub.register.roster lid then none else w.hub.register.note q) →
    SeatStep srv s o w g'

lemma keeps_seat_step {srv s o w} {g' : HubInner} (h : w.hub.Keeps g') : SeatStep srv s o w g' :=
  .stay (keeps_roster h) (keeps_note h)

/-- A new room starts with the roster it is made with. -/
lemma roster_insert {g g' : HubInner} {lid lid' : String} {l : Lobby}
    (h : g'.lobbies = g.lobbies.insert lid l) :
    g'.register.roster lid' = if lid' = lid then l.member_ids else g.register.roster lid' := by
  unfold HubInner.register
  dsimp only
  rw [h]
  split
  · rename_i e
    subst e
    rw [AList.lookup_insert]
    rfl
  · rename_i e
    rw [AList.lookup_insert_ne e]

/-- A connected client has a row to note a room in. -/
lemma note_entered {g : HubInner} {p q lid : String} {f : ClientMeta → ClientMeta}
    (h : ∀ c, (f c).lobby_id = some lid) (hc : q = p → g.connected q) :
    (g.setClient p f).lobby_id_of q = if q = p then some lid else g.lobby_id_of q := by
  rw [note_setClient]
  split
  · rename_i e
    obtain ⟨c, hq⟩ := connected_iff.mp (hc e)
    rw [hq]
    exact h c
  · rfl

/-- What a section does to the register. -/
theorem exec_seat_step {srv s o} {w : World} (basic : w.Basic) (fresh : o.uuid ∉ w.issued) :
    SeatStep srv s o w (exec srv s o w).1.hub := by
  have new : w.hub.lobbies.lookup o.uuid = none := by
    cases h : w.hub.lobbies.lookup o.uuid with
    | none => rfl
    | some l => exact absurd (basic.lobby_issued _ l h) fresh
  have empty : w.hub.register.roster o.uuid = [] := by simp [HubInner.register, new]
  have change := exec_change srv s o basic.sized
  generalize (exec srv s o w).1.hub = g' at change ⊢
  cases change with
  | keep hk => exact keeps_seat_step hk
  | grant _ hk =>
    have note := keeps_note hk
    exact .stay (fun lid => keeps_roster hk lid) note
  | want =>
    refine .stay (fun _ => .refl _) ?_
    funext q
    refine note_setClient.trans ?_
    split
    · rfl
    · rfl
  | @report p ip msg lid l kind _ _ _ hl _ =>
    refine .stay (fun lid' => ?_) rfl
    rw [roster_setLobby]
    split
    · rename_i e
      subst e
      simp [hl, HubInner.register, Lobby.reportPath_members]
    · exact .refl _
  | @create p ip msg =>
    refine @SeatStep.enter srv _ o w _ o.uuid ?_ ?_ ?_
    · rw [roster_insert rfl, if_pos rfl, createdLobby_members, empty]
      exact .refl _
    · intro lid' ne
      rw [roster_insert rfl, if_neg ne]
    · intro q hq
      simp only [seatedBy, List.mem_singleton] at hq ⊢
      exact note_entered (fun _ => rfl) hq
  | @sit p ip lid msg l seat slot ep f seated hok hl hfree hslot hf =>
    have one : seatedBy srv (join_seat p ip lid msg) o w = [p] := by simp only [seatedBy, hok]
    have free := Lobby.seat_freeSeat (basic.sized _ _ hl) hfree
    refine @SeatStep.enter srv _ o w _ lid ?_ ?_ ?_
    · rw [one]
      refine (List.Perm.of_eq roster_setLobby).trans ?_
      rw [if_pos rfl, hl, roster_of_lookup hl]
      exact hslot ▸ Lobby.sit_members free slot ep
    · intro lid' ne
      refine (List.Perm.of_eq roster_setLobby).trans ?_
      rw [if_neg ne]
    · intro q hq
      rw [one] at hq ⊢
      simp only [List.mem_singleton] at hq ⊢
      exact note_entered (fun c => (hf c).2.1) hq
  | @kick p ip msg lid l seat s hlid hl _ hseat _ =>
    refine @SeatStep.take srv _ o w _ s.player_id lid ?_ ?_ ?_ ?_
    · exact .inr (mem_roster.mpr ⟨l, hl, Lobby.mem_of_seat hseat⟩)
    · intro _
      refine (List.Perm.of_eq roster_setLobby).trans ?_
      rw [if_pos rfl, hl, roster_of_lookup hl]
      exact (List.cons_perm_iff_perm_erase.mp (Lobby.kick_members hseat)).2
    · intro lid' ne
      refine (List.Perm.of_eq roster_setLobby).trans ?_
      rw [if_neg ne]
    · exact fun q => note_erased fun _ => rfl
  | @unlink p lid hlid =>
    exact .forget rfl (fun _ => .refl _) fun q => note_erased fun _ => rfl
  | @vacate p lid l hlid hl _ _ =>
    refine @SeatStep.take srv _ o w _ p lid (.inl hlid) ?_ ?_ ?_
    · intro once
      refine (List.Perm.of_eq roster_setLobby).trans ?_
      rw [roster_of_lookup hl] at once ⊢
      rw [if_pos rfl, List.Nodup.erase_eq_filter once]
      show (((w.hub.lobbies.lookup lid).map fun l => (l.vacate p).member_ids).getD []) ~ _
      rw [hl, Option.map_some, Option.getD_some, Lobby.vacate_members]
      exact .of_eq (List.filter_congr fun q _ => by by_cases e : q = p <;> simp [e])
    · intro lid' ne
      refine (List.Perm.of_eq roster_setLobby).trans ?_
      rw [if_neg ne]
      exact .refl _
    · exact fun q => note_erased fun _ => rfl
  | @destroy lid l hl =>
    refine @SeatStep.dissolve srv _ o w _ lid rfl ?_ ?_ ?_
    · simp [HubInner.register]
    · intro lid' ne
      simp only [HubInner.register]
      rw [AList.lookup_erase_ne ne]
    · intro q
      rw [roster_of_lookup hl]
      simp only [HubInner.register, HubInner.lobby_id_of, Assoc.Map.lookup_modifyEach]
      split
      · cases w.hub.clients.lookup q <;> rfl
      · rfl
  | @drop s p hs =>
    refine .drop hs (fun _ => .refl _) fun q => ?_
    simp only [HubInner.register, HubInner.lobby_id_of]
    split
    · rename_i e
      subst e
      rw [AList.lookup_erase]
      rfl
    · rename_i e
      rw [AList.lookup_erase_ne e]
  | @form plan hsize ha hb =>
    have both : seatedBy srv (form_match_room plan) o w =
        [plan.p.a.player_id, plan.p.b.player_id] := if_pos ⟨hsize, ha, hb⟩
    refine @SeatStep.enter srv _ o w _ o.uuid ?_ ?_ ?_
    · rw [roster_insert rfl, if_pos rfl, matchLobby_members, empty, both]
      exact .refl _
    · intro lid' ne
      rw [roster_insert rfl, if_neg ne]
    · intro q hq
      rw [both] at hq ⊢
      simp only [HubInner.register, HubInner.lobby_id_of, Assoc.Map.lookup_modifyEach]
      split
      · rename_i here
        obtain ⟨c, hc⟩ := connected_iff.mp (hq here)
        rw [hc]
        rfl
      · rfl

/-! ## Runs -/

/-- A match room seats two clients that have no seat and are not on their way to one; one whose connection
is being taken apart has its leave still to come. -/
def FormsFree (srv : Server) : HubLabel → Prop
  | .ran _ (form_match_room plan) o pre =>
    (seatedBy srv (form_match_room plan) o pre.world).Nodup ∧
      ∀ p ∈ seatedBy srv (form_match_room plan) o pre.world,
        (∀ lid l, pre.world.hub.lobbies.lookup lid = some l → p ∉ l.member_ids) ∧
          ¬ Entering pre p ∧
          (clients_remove p ∈ pre.pending (.conn p) → client_leave p ∈ pre.pending (.conn p))
  | _ => True

/-- The step seats only clients that have no seat, and none whose connection was taken out of its room for
good. -/
def SeatsFree (srv : Server) : HubLabel → Prop
  | .ran _ s o pre =>
    (seatedBy srv s o pre.world).Nodup ∧ ∀ p ∈ seatedBy srv s o pre.world,
      (∀ lid, p ∉ pre.world.hub.register.roster lid) ∧
        (clients_remove p ∈ pre.pending (.conn p) → client_leave p ∈ pre.pending (.conn p))
  | .came .. => True

/-- The room is about to be destroyed by the task of a client. -/
def ClosedBy (c : HubSnapshot) (p lid : String) : Prop := destroy_lobby lid ∈ c.pending (.conn p)

/-- Seats and recorded rooms in every state of such a run. -/
structure SeatsSound (c : HubSnapshot) : Prop where
  sound : c.world.hub.register.Sound (ClosedBy c)
  parted : ∀ p, clients_remove p ∈ c.pending (.conn p) → client_leave p ∉ c.pending (.conn p) →
    c.world.hub.lobby_id_of p = none
  unwelcomed : ∀ p, welcome p ∈ c.pending (.conn p) → c.world.hub.lobby_id_of p = none
  entering : ∀ p, Entering c p → ∀ lid, p ∉ c.world.hub.register.roster lid

/-- A destroyed room has no roster. -/
lemma destroyed_empty {srv o w lid} :
    (exec srv (destroy_lobby lid) o w).1.hub.register.roster lid = [] := by
  simp only [exec, World.lift, World.setHub, destroy_lobby_step]
  split
  · rename_i h
    simp [HubInner.register, h]
  · simp [HubInner.register]

/-- A client that leaves forgets its room. -/
lemma left_unnoted {srv o w p} :
    (exec srv (client_leave p) o w).1.hub.lobby_id_of p = none := by
  have erased : ∀ f : ClientMeta → ClientMeta, (∀ c, (f c).lobby_id = none) →
      (w.hub.setClient p f).lobby_id_of p = none := by
    intro f hf
    rw [note_erased hf, if_pos rfl]
  simp only [exec, World.lift, World.setHub, client_leave_step]
  split
  · assumption
  · split
    · exact erased _ fun _ => rfl
    · split
      · exact erased _ fun _ => rfl
      · exact erased _ fun _ => rfl

/-- A client that leaves a room and keeps its seat there has the room destroyed. -/
lemma left_closes {srv o w p lid} (hlid : w.hub.lobby_id_of p = some lid)
    (hp : p ∈ (exec srv (client_leave p) o w).1.hub.register.roster lid) :
    destroy_lobby lid ∈ (exec srv (client_leave p) o w).2 := by
  simp only [exec, World.lift, World.setHub, client_leave_step, hlid] at hp ⊢
  cases hl : w.hub.lobbies.lookup lid with
  | none =>
    have gone : (w.hub.setClient p ({ · with lobby_id := none })).lobbies.lookup lid = none := hl
    simp only [gone] at hp
    obtain ⟨l, hl', -⟩ := mem_roster.mp hp
    exact absurd (gone.symm.trans hl') (by simp)
  | some l =>
    have here : (w.hub.setClient p ({ · with lobby_id := none })).lobbies.lookup lid = some l := hl
    simp only [here] at hp ⊢
    split at hp
    · rename_i closes
      rw [if_pos closes]
      exact List.mem_singleton_self _
    · exfalso
      dsimp only at hp
      rw [roster_setLobby, if_pos rfl, here, Option.map_some, Option.getD_some,
        Lobby.vacate_members] at hp
      simpa using List.of_mem_filter hp

/-- A section seats clients only in their own tasks, or from their tickets. -/
lemma seatedBy_cases {srv s o w p} (h : p ∈ seatedBy srv s o w) :
    s.actor = some p ∨ (p ∈ s.carries ∧ w.hub.connected p) := by
  cases s with
  | create_insert q ip msg => exact .inl (congrArg some (List.mem_singleton.mp h).symm)
  | join_seat q ip lid msg =>
    simp only [seatedBy] at h
    split at h
    · exact .inl (congrArg some (List.mem_singleton.mp h).symm)
    · cases h
  | form_match_room plan =>
    simp only [seatedBy] at h
    split_ifs at h with builds
    · refine .inr ⟨h, ?_⟩
      rcases List.mem_pair.mp h with rfl | rfl
      · exact builds.2.1
      · exact builds.2.2
    · cases h
  | _ => cases h

/-- Nobody notes a room but whom the section seats. -/
lemma SeatStep.unnoted {srv s o w g' p} (h : SeatStep srv s o w g')
    (hp : w.hub.lobby_id_of p = none) (out : p ∉ seatedBy srv s o w) : g'.lobby_id_of p = none := by
  cases h with
  | stay _ note => exact (congrFun note p).trans hp
  | enter _ _ notes =>
    refine (notes p fun h => absurd h out).trans ?_
    rw [if_neg out]
    exact hp
  | forget _ _ notes | drop _ _ notes | take _ _ _ notes | dissolve _ _ _ notes =>
    refine (notes p).trans ?_
    split
    · rfl
    · exact hp

/-- Nobody has a seat but whom the section seats. -/
lemma SeatStep.unseated {srv s o w g' p} (h : SeatStep srv s o w g')
    (once : ∀ lid, (w.hub.register.roster lid).Nodup)
    (hp : ∀ lid, p ∉ w.hub.register.roster lid) (out : p ∉ seatedBy srv s o w) :
    ∀ lid, p ∉ g'.register.roster lid := by
  intro lid hm
  cases h with
  | stay rosters _ | forget _ rosters _ | drop _ rosters _ => exact hp lid ((rosters lid).subset hm)
  | @enter here rosters elsewhere _ =>
    by_cases e : lid = here
    · subst e
      rcases List.mem_append.mp (rosters.subset hm) with new | old
      · exact out new
      · exact hp _ old
    · exact hp lid ((elsewhere lid e).subset hm)
  | @take q here _ rosters elsewhere _ =>
    by_cases e : lid = here
    · subst e
      exact hp _ (List.mem_of_mem_erase ((rosters (once _)).subset hm))
    · exact hp lid ((elsewhere lid e).subset hm)
  | @dissolve here _ empty elsewhere _ =>
    by_cases e : lid = here
    · subst e
      rw [empty] at hm
      cases hm
    · exact hp lid ((elsewhere lid e).subset hm)

/-- A connection that was taken out of its room for good, or that was not welcomed, is not seated. -/
lemma SeatsFree.spared {srv c tr t s rest o} (r : HubRun srv c tr) (e : c.pending t = s :: rest)
    (free : SeatsFree srv (.ran t s o c)) {p}
    (h : (clients_remove p ∈ c.pending (.conn p) ∧ client_leave p ∉ c.pending (.conn p)) ∨
      welcome p ∈ c.pending (.conn p)) : p ∉ seatedBy srv s o c.world := by
  intro hp
  rcases h with ⟨going, left⟩ | h
  · exact left ((free.2 p hp).2 going)
  · rcases seatedBy_cases hp with actor | ⟨carried, -⟩
    · obtain rfl : t = .conn p := HubRun.actor_task r t s (e ▸ List.mem_cons_self) p actor
      have only := (HubRun.wellEnded r (.conn p)).first p h
      rw [e] at only
      obtain ⟨rfl, -⟩ := List.cons.inj only
      cases hp
    · exact (HubRun.unwelcomed r p h).pending t s (e ▸ List.mem_cons_self) carried

/-- Whom a section seats by a create or a join of its own. -/
lemma seatedBy_enters {srv s o w p} (h : p ∈ seatedBy srv s o w) :
    (seatedBy srv s o w = [p] ∧ s.enters = some p) ∨ ∃ plan, s = form_match_room plan := by
  cases s with
  | create_insert q ip msg =>
    cases List.mem_singleton.mp h
    exact .inl ⟨rfl, rfl⟩
  | join_seat q ip lid msg =>
    simp only [seatedBy] at h ⊢
    split at h
    · cases List.mem_singleton.mp h
      exact .inl ⟨rfl, rfl⟩
    · cases h
  | form_match_room plan => exact .inr ⟨plan, rfl⟩
  | _ => cases h

/-- Creates and joins seat only clients without a seat, since they checked for it, and match rooms do by
the condition on them. -/
lemma SeatsSound.seats_free {srv c tr t s rest o} (r : HubRun srv c tr) (h : SeatsSound c)
    (e : c.pending t = s :: rest) (forms : FormsFree srv (.ran t s o c)) :
    SeatsFree srv (.ran t s o c) := by
  have own : ∀ p, s.enters = some p → Entering c p := by
    intro p hp
    obtain rfl := HubRun.actor_task r t s (e ▸ List.mem_cons_self) p (enters_actor hp)
    exact ⟨s, e ▸ List.mem_cons_self, hp⟩
  by_cases formed : ∃ plan, s = form_match_room plan
  · obtain ⟨plan, rfl⟩ := formed
    refine ⟨forms.1, fun p hp => ⟨fun lid hm => ?_, (forms.2 p hp).2.2⟩⟩
    obtain ⟨l, hl, hm⟩ := mem_roster.mp hm
    exact (forms.2 p hp).1 lid l hl hm
  · have one : ∀ p ∈ seatedBy srv s o c.world, seatedBy srv s o c.world = [p] ∧ Entering c p := by
      intro p hp
      obtain ⟨only, enters⟩ := (seatedBy_enters hp).resolve_right formed
      exact ⟨only, own p enters⟩
    constructor
    · cases hs : seatedBy srv s o c.world with
      | nil => exact List.nodup_nil
      | cons p ps =>
        rw [← hs, (one p (hs ▸ List.mem_cons_self)).1]
        exact List.nodup_singleton p
    · intro p hp
      refine ⟨h.entering p (one p hp).2, fun going => ?_⟩
      exact absurd going (HubRun.entering_stays r (one p hp).2)

/-- Whoever is on its way into a room has no seat. -/
lemma SeatsSound.entering_run {srv c tr t s rest o} (r : HubRun srv c tr) (h : SeatsSound c)
    (e : c.pending t = s :: rest) (ho : o.possible c.world) (forms : FormsFree srv (.ran t s o c))
    {p} (hp : Entering ((hubMachine srv).afterRun c t s rest o) p) :
    ∀ lid, p ∉ (exec srv s o c.world).1.hub.register.roster lid := by
  have step := @exec_seat_step srv s o c.world (HubRun.basic r) ho.2.1
  -- p has no seat, and the step does not seat it
  suffices before : (∀ lid, p ∉ c.world.hub.register.roster lid) ∧ p ∉ seatedBy srv s o c.world from
    step.unseated h.sound.once before.1 before.2
  obtain ⟨s', hs', enters⟩ := hp
  by_cases ht : t = .conn p
  · subst ht
    simp only [Machine.afterRun, Function.update_self, List.mem_append] at hs'
    rcases hs' with new | old
    · -- the check found it in no room, and its task is about nothing else
      obtain ⟨ip, msg, front, rfl, outside, -⟩ := exec_enters new enters
      have last : OpensLast (dispatch p ip msg :: rest) := e ▸ HubRun.opens_last r (.conn p)
      have alone := last.head (by simp [openingKinds])
      refine ⟨fun lid hm => ?_, List.not_mem_nil⟩
      rcases h.sound.noted p lid hm with noted | closing
      · cases outside.symm.trans noted
      · rw [ClosedBy, e, alone] at closing
        cases List.mem_singleton.mp closing
    · -- a rename seats nobody
      have last : OpensLast (s :: rest) := e ▸ HubRun.opens_last r (.conn p)
      have kind := last.before old (enters_opening enters)
      refine ⟨h.entering p ⟨s', e ▸ List.mem_cons_of_mem _ old, enters⟩, ?_⟩
      cases s with
      | set_display_name => exact List.not_mem_nil
      | _ => cases kind
  · simp only [Machine.afterRun, Function.update_of_ne (Ne.symm ht)] at hs'
    have was : Entering c p := ⟨s', hs', enters⟩
    refine ⟨h.entering p was, fun seated => ?_⟩
    rcases seatedBy_enters seated with ⟨-, own⟩ | ⟨plan, rfl⟩
    · exact ht (HubRun.actor_task r t s (e ▸ List.mem_cons_self) p (enters_actor own))
    · exact (forms.2 p seated).2.1 was

/-- Whom a section seats is connected. -/
lemma HubRun.seats_connected {srv c tr t s rest o} (r : HubRun srv c tr)
    (e : c.pending t = s :: rest) {p} (hp : p ∈ seatedBy srv s o c.world) :
    c.world.hub.connected p := by
  rcases seatedBy_cases hp with actor | ⟨-, hc⟩
  · obtain rfl : t = .conn p := HubRun.actor_task r t s (e ▸ List.mem_cons_self) p actor
    exact HubRun.alive r p (e ▸ List.cons_ne_nil _ _)
  · exact hc

/-- What a task still has to run after one of its sections, apart from that section. -/
lemma pending_kept {srv c t s rest o t' s'} (e : c.pending t = s :: rest) (h : s' ∈ c.pending t')
    (other : s' ≠ s) : s' ∈ ((hubMachine srv).afterRun c t s rest o).pending t' := by
  by_cases ht : t' = t
  · subst ht
    simp only [Machine.afterRun, Function.update_self]
    rw [e] at h
    rcases List.mem_cons.mp h with rfl | h
    · exact absurd rfl other
    · exact List.mem_append_right _ h
  · simpa only [Machine.afterRun, Function.update_of_ne ht] using h

/-- A final section was pending before. -/
lemma final_pending {srv c t s rest o t' s'} (e : c.pending t = s :: rest) (hf : s'.final)
    (h : s' ∈ ((hubMachine srv).afterRun c t s rest o).pending t') : s' ∈ c.pending t' := by
  by_cases ht : t' = t
  · subst ht
    simp only [Machine.afterRun, Function.update_self, List.mem_append] at h
    rcases h with h | h
    · exact absurd hf (exec_not_final _ h)
    · exact e ▸ List.mem_cons_of_mem _ h
  · simpa only [Machine.afterRun, Function.update_of_ne ht] using h

/-- A section keeps the register sound. -/
lemma SeatsSound.run {srv c tr t s rest o} (r : HubRun srv c tr) (h : SeatsSound c)
    (e : c.pending t = s :: rest) (ho : o.possible c.world) (forms : FormsFree srv (.ran t s o c)) :
    SeatsSound ((hubMachine srv).afterRun c t s rest o) := by
  have step := @exec_seat_step srv s o c.world (HubRun.basic r) ho.2.1
  have free := h.seats_free r e forms
  have spared := fun p => SeatsFree.spared r e free (p := p)
  have closing : ∀ p lid, p ∈ (exec srv s o c.world).1.hub.register.roster lid →
      ClosedBy c p lid → ClosedBy ((hubMachine srv).afterRun c t s rest o) p lid := by
    intro p lid hp hd
    apply pending_kept e hd
    rintro rfl
    rw [destroyed_empty] at hp
    cases hp
  constructor
  · cases step with
    | stay rosters notes => exact h.sound.stay rosters notes closing
    | enter here elsewhere notes =>
      apply h.sound.enter free.1 _ here elsewhere _ closing
      · exact fun p hp => (free.2 p hp).1
      · exact fun p => notes p (HubRun.seats_connected r e)
    -- The seat is kept for a moment where the departure closes the room; the task closes it next.
    | @forget p hs rosters notes =>
      apply h.sound.forget rosters notes closing
      intro lid hn hp
      subst hs
      obtain rfl : t = .conn p := HubRun.actor_task r t _ (e ▸ List.mem_cons_self) p rfl
      have closes := @left_closes srv o _ _ _ hn hp
      simp only [ClosedBy, Machine.afterRun, Function.update_self]
      exact List.mem_append_left _ closes
    -- A row goes last in its task, when its room was left before.
    | @drop p hs rosters notes =>
      apply h.sound.forget rosters notes closing
      intro lid hn _
      have bare : c.world.hub.lobby_id_of p = none := by
        obtain rfl := HubRun.removes_own r e hs
        have alone : rest = [] :=
          HubRun.removed_last r e (by rcases hs with rfl | rfl <;> simp [Section.final])
        rw [alone] at e
        rcases hs with rfl | rfl
        · exact h.parted p (e ▸ List.mem_cons_self) (by simp [e])
        · exact h.unwelcomed p (e ▸ List.mem_cons_self)
      exact absurd (bare.symm.trans hn) (by simp)
    | @take p lid here once elsewhere notes =>
      have was : p ∈ c.world.hub.register.roster lid := by
        rcases here with hn | hp
        · exact h.sound.enrolled p lid hn
        · exact hp
      exact h.sound.take was (once (h.sound.once lid)) elsewhere notes closing
    | dissolve _ here elsewhere notes => exact h.sound.dissolve here elsewhere notes closing
  · intro p hr hl
    have before := final_pending e (by simp [Section.final]) hr
    by_cases leaves : s = client_leave p
    · subst leaves
      exact @left_unnoted srv o _ p
    · have stayed : client_leave p ∉ c.pending (.conn p) :=
        fun hc => hl (pending_kept e hc (Ne.symm leaves))
      exact step.unnoted (h.parted p before stayed) (spared p (.inl ⟨before, stayed⟩))
  · intro p hw
    have before := final_pending e (by simp [Section.final]) hw
    exact step.unnoted (h.unwelcomed p before) (spared p (.inr before))
  · exact fun p hp => h.entering_run r e ho forms hp

/-- An event keeps the rosters. -/
lemma apply_roster {srv : Server} {w : World} {e : Event} (lid : String) :
    (e.apply srv w).hub.register.roster lid = w.hub.register.roster lid := by
  unfold HubInner.register
  rw [apply_lobbies]

/-- An event makes a connection without a room at most. -/
lemma apply_note {srv : Server} {w : World} {e : Event} (p : String) :
    (e.apply srv w).hub.lobby_id_of p = w.hub.lobby_id_of p ∨
      (∃ ip, e = .connect p ip) ∧ (e.apply srv w).hub.lobby_id_of p = none := by
  cases e with
  | connect q ip =>
    by_cases h : p = q
    · subst h
      refine .inr ⟨⟨ip, rfl⟩, ?_⟩
      simp only [HubInner.lobby_id_of, Event.apply, AList.lookup_insert]
      rfl
    · left
      simp only [HubInner.lobby_id_of, Event.apply, AList.lookup_insert_ne h]
  | ws_ping q => exact .inl (congrFun (congrArg HubInner.lobby_id_of (World.send_hub w q .empty)) p)
  | _ => exact .inl rfl

/-- An event keeps the register sound. -/
lemma SeatsSound.event {srv c e} (basic : c.world.Basic) (h : SeatsSound c)
    (idle : c.pending ((hubMachine srv).task e) = []) (enabled : (hubMachine srv).enabled e c.world) :
    SeatsSound ((hubMachine srv).afterEvent c e) := by
  -- The id of a new connection was never drawn, so no row could have noted a room under it.
  have notes : (e.apply srv c.world).hub.lobby_id_of = c.world.hub.lobby_id_of := by
    funext p
    rcases @apply_note srv c.world e p with same | ⟨⟨ip, rfl⟩, none⟩
    · exact same
    · rw [none]
      cases hn : c.world.hub.lobby_id_of p with
      | none => rfl
      | some lid =>
        obtain ⟨row, hrow, -⟩ := Option.bind_eq_some_iff.mp hn
        exact absurd (basic.client_issued p (connected_iff.mpr ⟨row, hrow⟩)).2 enabled.2
  have busy : ∀ t s, s ∈ c.pending t → s ∈ ((hubMachine srv).afterEvent c e).pending t := by
    intro t s hs
    have other : t ≠ (hubMachine srv).task e := by
      rintro rfl
      rw [idle] at hs
      cases hs
    simpa only [Machine.afterEvent, Function.update_of_ne other] using hs
  have back : ∀ t s, s ∈ ((hubMachine srv).afterEvent c e).pending t →
      s ∈ c.pending t ∨ t = (hubMachine srv).task e ∧ s ∈ e.body c.world := by
    intro t s hs
    by_cases ht : t = (hubMachine srv).task e
    · subst ht
      simp only [Machine.afterEvent, Function.update_self] at hs
      exact .inr ⟨rfl, hs⟩
    · simp only [Machine.afterEvent, Function.update_of_ne ht] at hs
      exact .inl hs
  constructor
  · -- the register
    apply h.sound.stay
    · exact fun lid => .of_eq (apply_roster lid)
    · exact notes
    · exact fun p lid _ hd => busy _ _ hd
  · intro p hr hl
    refine (congrFun notes p).trans ?_
    rcases back _ _ hr with hr | ⟨ht, hb⟩
    · exact h.parted p hr fun hc => hl (busy _ _ hc)
    · -- Only a disconnect is about to remove the row, and it leaves first.
      exfalso
      cases e <;> simp only [Event.body, List.mem_cons, List.mem_map, List.not_mem_nil, or_false,
        reduceCtorEq, and_false, exists_false, false_or] at hb
      case disconnect q =>
        cases hb
        apply hl
        show client_leave p ∈ Function.update c.pending (.conn p) _ _
        rw [Function.update_self]
        exact List.mem_cons_of_mem _ List.mem_cons_self
  · intro p hw
    refine (congrFun notes p).trans ?_
    rcases back _ _ hw with hw | ⟨ht, hb⟩
    · exact h.unwelcomed p hw
    · cases e <;> simp only [Event.body, List.mem_cons, List.mem_map, List.not_mem_nil, or_false,
        reduceCtorEq, and_false, exists_false] at hb
      -- A new connection has no row yet.
      case connect q ip =>
        cases hb
        cases hn : c.world.hub.lobby_id_of p with
        | none => rfl
        | some lid =>
          obtain ⟨row, hrow, -⟩ := Option.bind_eq_some_iff.mp hn
          exact absurd (basic.client_issued p (connected_iff.mpr ⟨row, hrow⟩)).2 enabled.2
  · rintro p ⟨s, hs, enters⟩ lid hm
    rcases back _ _ hs with hs | ⟨-, hb⟩
    · exact h.entering p ⟨s, hs, enters⟩ lid (@apply_roster srv _ e lid ▸ hm)
    · -- no event starts a create or a join
      refine body_not_inner s hb ?_
      cases s with
      | create_insert | join_seat => rfl
      | _ => cases enters

/-- In a run whose match rooms seat only clients that are free, the register is sound in every state. -/
theorem HubRun.seats_sound {srv c tr} (r : HubRun srv c tr) (free : ∀ l ∈ tr, FormsFree srv l) :
    SeatsSound c := by
  refine r.invariant (P := FormsFree srv) (I := fun c _ => SeatsSound c) ?_ ?_ free
  · constructor
    · constructor
      · exact fun lid => List.nodup_nil
      · intro p lid lid' hp
        cases hp
      · intro p lid hp
        cases hp
      · intro p lid hn
        cases hn
    · intro p hr
      cases hr
    · intro p hw
      cases hw
    · rintro p ⟨s, hs, -⟩
      cases hs
  · intro c tr l c' r ih free st
    cases st with
    | run e ho => exact ih.run r e ho free
    | event idle enabled => exact ih.event (HubRun.basic r) idle enabled

/-! ## Hosts -/

/-- A section that leaves a room standing leaves its host seated. -/
theorem RoomChange.host_stays {srv o w lid l s l'} (h : RoomChange srv o w lid l s l')
    (sized : w.hub.Sized) (hl : w.hub.lobbies.lookup lid = some l)
    (hm : l.host_player_id ∈ l.member_ids) : l.host_player_id ∈ l'.member_ids := by
  cases h with
  | stay k => exact k.members.symm.subset hm
  | report =>
    rw [Lobby.reportPath_members]
    exact hm
  | sit hfree _ =>
    have free := Lobby.seat_freeSeat (sized _ _ hl) hfree
    exact (Lobby.sit_members free _ _).symm.subset (List.mem_cons_of_mem _ hm)
  -- The host does not kick itself.
  | kick _ _ hseat hne =>
    rcases List.mem_cons.mp ((Lobby.kick_members hseat).symm.subset hm) with e | hm
    · exact absurd e.symm hne
    · exact hm
  -- A host that leaves destroys its room instead.
  | vacate hhost _ =>
    rw [Lobby.vacate_members]
    exact List.mem_filter.mpr ⟨hm, by simpa using hhost⟩

/-- The host of a room that people made is seated in it. -/
def HubInner.Hosted (g : HubInner) : Prop :=
  ∀ lid l, g.lobbies.lookup lid = some l → l.automatch = false → l.host_player_id ∈ l.member_ids

theorem HubRun.hosted {srv c tr} (r : HubRun srv c tr) : c.world.hub.Hosted := by
  apply r.induct (I := fun c _ => c.world.hub.Hosted)
  · intro lid l hl
    cases hl
  · intro c tr l c' r ih st lid l' hl' made
    have basic := HubRun.basic r
    cases st with
    | @run t s rest o e ho =>
      rcases (exec_change srv s o basic.sized).room_back hl' with ⟨l, hl, change⟩ |
        ⟨p, ip, msg, -, rfl, rfl⟩ | ⟨plan, -, -, -, -, rfl, rfl⟩
      · rw [change.frame.host]
        exact change.host_stays basic.sized hl (ih lid l hl (change.frame.automatch ▸ made))
      · rw [createdLobby_members]
        exact List.mem_singleton_self _
      · cases made
    | event _ _ => exact ih lid l' ((apply_lobbies srv c.world _) ▸ hl') made

/-! ## With no handler in flight -/

/-- The seats of the rooms and the rows of the clients say the same. -/
structure WellSeated (g : HubInner) : Prop where
  recorded : ∀ p row lid, g.clients.lookup p = some row →
    (row.lobby_id = some lid ↔ ∃ l, g.lobbies.lookup lid = some l ∧ p ∈ l.member_ids)
  one_seat : ∀ lid l, g.lobbies.lookup lid = some l → l.member_ids.Nodup
  one_room : ∀ p lid l lid' l', g.lobbies.lookup lid = some l → g.lobbies.lookup lid' = some l' →
    p ∈ l.member_ids → p ∈ l'.member_ids → lid = lid'
  connected : ∀ p lid l, g.lobbies.lookup lid = some l → p ∈ l.member_ids → g.connected p
  hosted : ∀ lid l, g.lobbies.lookup lid = some l → l.automatch = false →
    l.host_player_id ∈ l.member_ids

/-- In a run whose match rooms seat only clients that are free, seats and rows say the same whenever no
handler is in flight. -/
theorem well_seated {srv c tr} (r : HubRun srv c tr) (free : ∀ l ∈ tr, FormsFree srv l)
    (quiet : c.Quiet) : WellSeated c.world.hub := by
  have sound := (HubRun.seats_sound r free).sound
  have noted : ∀ p lid l, c.world.hub.lobbies.lookup lid = some l → p ∈ l.member_ids →
      c.world.hub.lobby_id_of p = some lid := by
    intro p lid l hl hp
    rcases sound.noted p lid (mem_roster.mpr ⟨l, hl, hp⟩) with hn | hd
    · exact hn
    · rw [ClosedBy, quiet] at hd
      cases hd
  constructor
  · intro p row lid hrow
    have note : c.world.hub.lobby_id_of p = row.lobby_id := by
      simp only [HubInner.lobby_id_of, hrow, Option.bind_some]
    constructor
    · intro hn
      exact mem_roster.mp (sound.enrolled p lid (note.trans hn))
    · rintro ⟨l, hl, hp⟩
      exact note.symm.trans (noted p lid l hl hp)
  · intro lid l hl
    exact roster_of_lookup hl ▸ sound.once lid
  · intro p lid l lid' l' hl hl' hp hp'
    exact sound.apart p lid lid' (mem_roster.mpr ⟨l, hl, hp⟩) (mem_roster.mpr ⟨l', hl', hp'⟩)
  · intro p lid l hl hp
    obtain ⟨row, hrow, -⟩ := Option.bind_eq_some_iff.mp (noted p lid l hl hp)
    exact connected_iff.mpr ⟨row, hrow⟩
  · exact HubRun.hosted r

/-! ## A match formed for a seated player -/

/-- Alice waits in the queue and joins Carol's room; then her match forms, Carol closes the room, and
Alice's socket closes. -/
def matchedElsewhere (p q r : String) : List Move :=
  let other := "2a7d4c11-0b9e-47a5-9f0c-6d8e3b5a1c44"
  let o := draw "9b1deb4d-3b7d-4bad-9bdd-2b0d7b3dcb6d"
  let m1 := draw o.uuid ["m1"]
  let m2 := draw o.uuid ["m2"]
  let yes : InMsg := { op := .automatch_accept, accept := some true }
  signIn r carol o ++ [say r { op := .create }] ++ steps (.conn r) 3 (draw other) ++
    steps (.conn r) 2 o ++
    signIn p alice m1 ++ [say p queueUp] ++ steps (.conn p) 12 m1 ++
    [say p { op := .join, lobby_id := some other }] ++ steps (.conn p) 13 m2 ++
    signIn q bob m2 ++ [say q queueUp] ++ steps (.conn q) 12 m2 ++ steps (.conn q) 2 o ++
    [say p yes] ++ steps (.conn p) 4 o ++ [say q yes] ++
    steps (.conn q) 6 (draw "1f8a9f0e-7d2b-4b57-8f6f-2f6f2b0c9d01") ++ steps (.conn q) 8 o ++
    [say r { op := .close }] ++ steps (.conn r) 6 o ++ [.event (.disconnect p)] ++
    steps (.conn p) 3 o

/-- The match room is left with a seat of somebody who is gone. -/
lemma matched_elsewhere_run : ∃ c tr lid l p, HubRun sampleServer c tr ∧ c.Quiet ∧
    c.world.hub.lobbies.lookup lid = some l ∧ l.automatch ∧ p ∈ l.member_ids ∧
    ¬ c.world.hub.connected p := by
  let p := "6b0f1e52-3c1d-4a86-9a53-0d5f6f1c2a11"
  let q := "c4d1c1a0-5f0e-4a53-8d43-9f4b1f7f3b22"
  let r := "5e2c7f3a-9a41-4c0e-8b64-7a1f0d3c9b33"
  let lid := "1f8a9f0e-7d2b-4b57-8f6f-2f6f2b0c9d01"
  let test : HubSnapshot × List HubLabel → Bool := fun x =>
    (x.1.world.hub.lobbies.lookup lid).any fun l =>
      l.automatch && p ∈ l.member_ids && !x.1.world.hub.connected p
  have movers : ∀ m ∈ matchedElsewhere p q r,
      (hubMachine sampleServer).mover m ∈ [.conn p, .conn q, .conn r] := by decide
  have h : ((hubMachine sampleServer).follow (matchedElsewhere p q r)).any fun x =>
      test x && [.conn p, .conn q, .conn r].all fun t => (x.1.pending t).isEmpty := by
    decide
  obtain ⟨c, tr, run, ht, quiet⟩ := Machine.follow_quiet _ movers h
  obtain ⟨l, hl, hp⟩ := (Option.any_eq_true _ _).mp ht
  obtain ⟨hp, gone⟩ := (Bool.and_eq_true _ _).mp hp
  obtain ⟨auto, seated⟩ := (Bool.and_eq_true _ _).mp hp
  refine ⟨c, tr, lid, l, p, run, quiet, hl, auto, of_decide_eq_true seated, ?_⟩
  simpa using gone

/-- Seats and rows do not always say the same. -/
theorem matched_elsewhere_ghost :
    ¬ ∀ c tr, HubRun sampleServer c tr → c.Quiet → WellSeated c.world.hub := by
  intro all
  obtain ⟨c, tr, lid, l, p, r, quiet, hl, -, hp, gone⟩ := matched_elsewhere_run
  exact gone ((all c tr r quiet).connected p lid l hl hp)

/-- Does the step form no match room for clients that are seated, on their way to a seat, or about to go? -/
def formsFree (srv : Server) : HubLabel → Bool
  | .ran _ (form_match_room plan) o pre =>
    let seated := seatedBy srv (form_match_room plan) o pre.world
    decide seated.Nodup && seated.all fun p =>
      (pre.world.hub.lobbies.values.all fun l => p ∉ l.member_ids) &&
        (pre.pending (.conn p)).all fun s =>
          s.kind ∉ [SectionKind.create_insert, .join_seat, .clients_remove]
  | _ => true

lemma formsFree_sound {srv} {l : HubLabel} (h : formsFree srv l) : FormsFree srv l := by
  cases l with
  | came => trivial
  | ran t s o pre =>
    cases s with
    | form_match_room plan =>
      obtain ⟨distinct, free⟩ := (Bool.and_eq_true _ _).mp h
      refine ⟨of_decide_eq_true distinct, fun p hp => ?_⟩
      obtain ⟨rooms, stays⟩ := (Bool.and_eq_true _ _).mp (List.all_eq_true.mp free p hp)
      have idle : ∀ s ∈ pre.pending (.conn p),
          s.kind ∉ [SectionKind.create_insert, .join_seat, .clients_remove] :=
        fun s hs => of_decide_eq_true (List.all_eq_true.mp stays s hs)
      refine ⟨fun lid l hl => ?_, ?_, fun hr => ?_⟩
      · have hv : l ∈ pre.world.hub.lobbies.values := Assoc.Map.mem_values.mpr ⟨lid, hl⟩
        exact of_decide_eq_true (List.all_eq_true.mp rooms l hv)
      · rintro ⟨s, hs, enters⟩
        have kind := idle s hs
        cases s with
        | create_insert | join_seat => simp at kind
        | _ => cases enters
      · have kind := idle _ hr
        simp at kind
    | _ => trivial

/-- Alice and Bob queue and accept each other, and their room is formed under the id `lid`. -/
def pairUp (p q lid : String) : List Move :=
  let o := draw "9b1deb4d-3b7d-4bad-9bdd-2b0d7b3dcb6d"
  let m1 := draw o.uuid ["m1"]
  let m2 := draw o.uuid ["m2"]
  let yes : InMsg := { op := .automatch_accept, accept := some true }
  signIn p alice m1 ++ [say p queueUp] ++ steps (.conn p) 12 m1 ++
    signIn q bob m2 ++ [say q queueUp] ++ steps (.conn q) 12 m2 ++ steps (.conn q) 2 o ++
    [say p yes] ++ steps (.conn p) 4 o ++ [say q yes] ++ steps (.conn q) 6 (draw lid) ++
    steps (.conn q) 8 o

def joinsRoom (p lid : String) : HubLabel → Bool
  | .ran _ (join_seat p' _ lid' _) _ _ => p' = p && lid' = lid
  | _ => false

/-- A guest joins another guest's room, Alice and Bob are matched, and the first guest's socket
closes. -/
theorem well_seated_match : ∃ c tr lid room p q r g, HubRun sampleServer c tr ∧
    (∃ l, c.world.hub.lobbies.lookup lid = some l ∧ l.automatch ∧ l.member_ids = [p, q]) ∧
    (∃ l, c.world.hub.lobbies.lookup room = some l ∧ l.member_ids = [r]) ∧
    (∃ t ip msg o pre, .ran t (join_seat g ip room msg) o pre ∈ tr) ∧
    ¬ c.world.hub.connected g ∧ WellSeated c.world.hub := by
  let p := "6b0f1e52-3c1d-4a86-9a53-0d5f6f1c2a11"
  let q := "c4d1c1a0-5f0e-4a53-8d43-9f4b1f7f3b22"
  let r := "5e2c7f3a-9a41-4c0e-8b64-7a1f0d3c9b33"
  let g := "8f14e45f-ceea-467f-a0e6-2b1f0d3c9b44"
  let room := "2a7d4c11-0b9e-47a5-9f0c-6d8e3b5a1c44"
  let lid := "1f8a9f0e-7d2b-4b57-8f6f-2f6f2b0c9d01"
  let o := draw "9b1deb4d-3b7d-4bad-9bdd-2b0d7b3dcb6d"
  let ms := roomOfTwo r g room o ++ pairUp p q lid ++ [.event (.disconnect g)] ++
    steps (.conn g) 8 o
  let test : HubSnapshot × List HubLabel → Bool := fun x =>
    ((x.1.world.hub.lobbies.lookup lid).any fun l => l.automatch && l.member_ids = [p, q]) &&
      ((x.1.world.hub.lobbies.lookup room).any fun l => l.member_ids = [r]) &&
        x.2.any (joinsRoom g room) && !x.1.world.hub.connected g && x.2.all (formsFree sampleServer)
  have movers : ∀ m ∈ ms, (hubMachine sampleServer).mover m ∈
      [.conn r, .conn g, .conn p, .conn q] := by decide
  have h : ((hubMachine sampleServer).follow ms).any fun x =>
      test x && [.conn r, .conn g, .conn p, .conn q].all fun t => (x.1.pending t).isEmpty := by
    decide +kernel
  obtain ⟨c, tr, run, ht, quiet⟩ := Machine.follow_quiet _ movers h
  obtain ⟨ht, free⟩ := (Bool.and_eq_true _ _).mp ht
  obtain ⟨ht, gone⟩ := (Bool.and_eq_true _ _).mp ht
  obtain ⟨ht, joined⟩ := (Bool.and_eq_true _ _).mp ht
  obtain ⟨matched, left⟩ := (Bool.and_eq_true _ _).mp ht
  refine ⟨c, tr, lid, room, p, q, r, g, run, ?_, ?_, ?_, by simpa using gone, ?_⟩
  · obtain ⟨l, hl, h⟩ := (Option.any_eq_true _ _).mp matched
    obtain ⟨auto, seats⟩ := (Bool.and_eq_true _ _).mp h
    exact ⟨l, hl, auto, of_decide_eq_true seats⟩
  · obtain ⟨l, hl, h⟩ := (Option.any_eq_true _ _).mp left
    exact ⟨l, hl, of_decide_eq_true h⟩
  · obtain ⟨x, hx, hj⟩ := List.any_eq_true.mp joined
    cases x with
    | came => cases hj
    | ran t s o' pre =>
      cases s with
      | join_seat p' ip lid' msg =>
        obtain ⟨hp, hr⟩ := (Bool.and_eq_true _ _).mp hj
        obtain rfl := of_decide_eq_true hp
        obtain rfl := of_decide_eq_true hr
        exact ⟨t, ip, msg, o', pre, hx⟩
      | _ => cases hj
  · exact well_seated run (fun x hx => formsFree_sound (List.all_eq_true.mp free x hx)) quiet

end RecompNet
