import RecompNet.Hub.Calls
import RecompNet.Hub.RoomEdit
import RecompNet.Hub.RowEdit
import RecompNet.Hub.Origin

/-!
# The gate of a join

What a joiner must bring before `seat_joiner_locked` gives it a seat or `handle_join` notes that it
wants the mods of a room. The checks are read under one lock and the note is written under a later
one, so a note in a client's row stands for a join that passed the gate at some earlier step.
-/

namespace RecompNet

open Section Interleave

/-- What a room asks of every joiner. -/
structure JoinGate (srv : Server) (g : HubInner) (l : Lobby) (p : String) (msg : InMsg) :
    Prop where
  apart : blocked_between g p l.host_player_id = false
  disc : normalize_disc_fp msg.disc_fp = l.disc_fp
  version : normalize_game_version msg.game_version = l.game_version
  game : ∀ want, Text.nonempty msg.game_name = some want → want = l.game_name
  password : ∀ hash, l.password_hash = some hash → ∃ salt pw, l.password_salt = some salt ∧
    msg.password = some pw ∧ srv.hash_password pw salt = hash

/-- The id and the version of a row of a mod list, under either of their key names. -/
def modId (row : Value) : Option String := ((row.get "id").or (row.get "i")).bind Value.as_str
def modVersion (row : Value) : Option String := ((row.get "ver").or (row.get "v")).bind Value.as_str

/-- The mods that a joiner offers. -/
def offeredMods (offer : Option Value) : List Value :=
  ((offer.bind fun o => (o.get "pkgs").or (o.get "mods")).bind Value.as_array).getD []

/-- Every mod of the room with an id is offered in its version. -/
def HasMods (l : Lobby) (msg : InMsg) : Prop :=
  ∀ row ∈ required_mod_rows l.match_caps, ∀ id, modId row = some id → id ≠ "" →
    ∃ own ∈ offeredMods msg.mod_offer, modId own = some id ∧
      modVersion own = some ((modVersion row).getD "")

/-- The joiner `p` takes the empty seat `i`, one of the players' when there was one, and every other
seat keeps who sat in it. -/
structure TakesSeat (l l' : Lobby) (p : String) (i : Nat) : Prop where
  empty : l.seat i = some none
  taken : ∃ s, l'.seat i = some (some s) ∧ s.player_id = p
  others : ∀ j ≠ i, (l'.seat j).map (Option.map (·.player_id)) =
    (l.seat j).map (Option.map (·.player_id))
  player : ∀ j, ¬ is_spectator_seat j → l.seat j = some none → ¬ is_spectator_seat i

/-! ## Rooms are well formed -/

/-- A room has as many player seats as it says, and a salt exactly when it has a password. -/
structure Lobby.Fit (l : Lobby) : Prop where
  seats : l.slots.length = l.max_slots
  salted : l.password_hash.isSome = l.password_salt.isSome

/-- A rewritten room fits as before. -/
lemma Lobby.Fit.of_fixed {l l' : Lobby} (h : l.Fit) (same : l'.fixed = l.fixed) : l'.Fit where
  seats := by
    have seats : l'.slots.length = l.slots.length := congrArg (fun x => x.2.1) same
    have most : l'.max_slots = l.max_slots := congrArg (fun x => x.1.max_slots) same
    rw [seats, most, h.seats]
  salted := by
    have hash : l'.password_hash = l.password_hash := congrArg (fun x => x.1.password_hash) same
    have salt : l'.password_salt = l.password_salt := congrArg (fun x => x.1.password_salt) same
    rw [hash, salt, h.salted]

/-- Every room of a run fits. -/
theorem HubRun.rooms_fit {srv c tr} (r : HubRun srv c tr) :
    ∀ lid l, c.world.hub.lobbies.lookup lid = some l → l.Fit := by
  induction r with
  | start =>
    intro lid l hl
    cases hl
  | @step c tr l c' r st ih =>
    intro lid l' hl'
    cases st with
    | @run t s rest o e ho =>
      rcases exec_room hl' with ⟨l, hl, edit⟩ | ⟨p, ip, msg, -, -, rfl⟩ | ⟨plan, -, -, rfl⟩
      · exact (ih lid l hl).of_fixed edit.fixed
      · refine ⟨?_, ?_⟩
        · simp [createdLobby]
        · simp only [createdLobby]
          cases Text.nonempty msg.password <;> rfl
      · refine ⟨?_, rfl⟩
        simp [matchLobby]
    | @event e _ _ =>
      have same : (e.apply srv c.world).hub.lobbies = c.world.hub.lobbies := apply_lobbies srv _ e
      exact ih lid l' (same ▸ hl')

/-! ## The seat -/

namespace Lobby

lemma seat_mapSeats (l : Lobby) (f : Slot → Slot) (i : Nat) :
    (l.mapSeats f).seat i = (l.seat i).map (Option.map f) := by
  unfold seat mapSeats
  split <;> simp

lemma owner_mapPlayers (l : Lobby) {f : Slot → Slot} (h : ∀ s, (f s).player_id = s.player_id)
    (i : Nat) : ((l.mapPlayers f).seat i).map (Option.map (·.player_id)) =
      (l.seat i).map (Option.map (·.player_id)) := by
  unfold seat mapPlayers
  split
  · rfl
  · simp [Function.comp_def, h]

/-- A seated joiner changes the owner of its own seat alone. -/
lemma owner_sit (l : Lobby) (i j : Nat) (s : Slot) (ep : String) :
    ((l.sit i s ep).seat j).map (Option.map (·.player_id)) =
      ((l.setSeat i (some s)).seat j).map (Option.map (·.player_id)) := by
  have sat : (l.sit i s ep).seat j =
      ((l.setSeat i (some s)).unready.mapSeats Slot.clearPath).seat j := rfl
  rw [sat, seat_mapSeats]
  simp only [Option.map_map]
  have keeps : (fun s : Slot => s.player_id) ∘ Slot.clearPath = fun s => s.player_id := rfl
  rw [← owner_mapPlayers (l.setSeat i (some s)) (f := ({ · with ready := false }))
    (fun _ => rfl) j]
  congr 1
  funext c
  cases c <;> rfl

end Lobby

/-- A free seat goes to the joiner, and nothing else changes hands. -/
lemma sit_takes {l : Lobby} {i p s ep} (fit : l.Fit) (small : l.slots.length ≤ SPECTATOR_SLOT_BASE)
    (free : freeSeat l = some i) (own : s.player_id = p) : TakesSeat l (l.sit i s ep) p i where
  empty := Lobby.seat_freeSeat small free
  taken := by
    have here := l.owner_sit i i s ep
    rw [Lobby.seat_setSeat_self (Lobby.seat_freeSeat small free)] at here
    obtain ⟨c, hc, e⟩ := Option.map_eq_some_iff.mp here
    obtain ⟨s', rfl, same⟩ := Option.map_eq_some_iff.mp e
    exact ⟨s', hc, same.trans own⟩
  others := by
    intro j ne
    rw [l.owner_sit i j s ep, Lobby.seat_setSeat_ne ne.symm]
  player := by
    intro j player empty
    have open_ : none ∈ l.slots := by
      simp only [Lobby.seat, player, if_false, Bool.false_eq_true] at empty
      exact List.mem_of_getElem? empty
    have some_free : ¬ (l.max_slots ≤ player_count l ∨ l.slots.all (·.isSome)) := by
      rintro (full | full)
      · have below : player_count l < l.slots.length := by
          refine List.countP_le_length.lt_of_ne fun all => ?_
          exact absurd (List.countP_eq_length.mp all none open_) (by simp)
        rw [fit.seats] at below
        omega
      · exact absurd (List.all_eq_true.mp full none open_) (by simp)
    unfold freeSeat at free
    rw [if_neg some_free] at free
    obtain ⟨below, -⟩ := List.findIdx?_eq_some_iff_getElem.mp free
    simp only [is_spectator_seat, decide_eq_true_eq]
    omega

/-! ## The checks -/

/-- The password check lets a joiner through that knows the password. -/
lemma passwordError_none {srv : Server} {l : Lobby} {password : Option String} (fit : l.Fit)
    (h : passwordError srv l password = none) : ∀ hash, l.password_hash = some hash →
      ∃ salt pw, l.password_salt = some salt ∧ password = some pw ∧
        srv.hash_password pw salt = hash := by
  intro hash hashed
  have salted : l.password_salt.isSome := fit.salted ▸ Option.isSome_iff_exists.mpr ⟨hash, hashed⟩
  obtain ⟨salt, hs⟩ := Option.isSome_iff_exists.mp salted
  simp only [passwordError, hashed, hs] at h
  split at h
  · cases h
  · rename_i pw said
    obtain ⟨rfl, -⟩ := Text.nonempty_eq_some.mp said
    split at h
    · cases h
    · rename_i right
      exact ⟨salt, pw, hs, rfl, not_not.mp right⟩

/-- An offer with nothing missing has every mod. -/
lemma hasMods_of_missing {l : Lobby} {msg : InMsg}
    (h : missingMods l.match_caps msg.mod_offer = []) : HasMods l msg := by
  intro row hrow id hid ne
  have kept := List.filter_eq_nil_iff.mp h row hrow
  have known : ((((row.get "id").or (row.get "i")).bind Value.as_str).getD "") = id := by
    rw [modId] at hid
    rw [hid]
    rfl
  simp only [known, Bool.and_eq_true, decide_eq_true_eq, Bool.not_eq_true', not_and,
    Bool.not_eq_false] at kept
  have found := kept ne
  unfold guest_has_pkg at found
  split at found
  · cases found
  · rename_i arr harr
    obtain ⟨own, hown, e⟩ := List.any_eq_true.mp found
    simp only [Bool.and_eq_true, decide_eq_true_eq] at e
    refine ⟨own, ?_, e.1, e.2⟩
    rw [offeredMods, harr]
    exact hown

/-- What comes of a join: a refusal that changes nothing, the mods a joiner past the gate lacks, or
a seat for one that has them. -/
inductive JoinResult (srv : Server) (g : HubInner) (lid p : String) (msg : InMsg) :
    HubInner × SeatResult → Prop where
  | refused {code} : JoinResult srv g lid p msg (g, .Err code)
  | mods {l mods xfer} :
    g.lobbies.lookup lid = some l →
    JoinGate srv g l p msg →
    JoinResult srv g lid p msg (g, .NeedMods mods xfer)
  | seated {l i s ep f seated} :
    g.lobbies.lookup lid = some l →
    JoinGate srv g l p msg →
    HasMods l msg →
    freeSeat l = some i →
    s.player_id = p →
    JoinResult srv g lid p msg
      ((g.setLobby lid fun _ => l.sit i s ep).setClient p f, .Ok seated)

/-- Nobody blocks the host of an automatch room, which is nobody. -/
lemma blocked_nobody {w : World} (basic : w.Basic) (p : String) :
    blocked_between w.hub p "" = false := by
  have absent : w.hub.clients.lookup "" = none := by
    by_contra some
    have connected : w.hub.connected "" := Option.isSome_iff_ne_none.mpr some
    exact (basic.client_issued "" connected).1 rfl
  unfold blocked_between
  rw [absent]
  cases w.hub.clients.lookup p <;> rfl

lemma seat_joiner_result {srv o g lid p ip bind l msg} (fit : l.Fit)
    (hl : g.lobbies.lookup lid = some l) (apart : blocked_between g p l.host_player_id = false)
    (disc : normalize_disc_fp msg.disc_fp = l.disc_fp)
    (version : normalize_game_version msg.game_version = l.game_version)
    (game : ∀ want, Text.nonempty msg.game_name = some want → want = l.game_name) :
    JoinResult srv g lid p msg
      (seat_joiner_locked srv o g lid p ip bind msg.password msg.mod_offer) := by
  unfold seat_joiner_locked
  dsimp only
  rw [hl]
  dsimp only
  cases pw : passwordError srv l msg.password with
  | some code => exact .refused
  | none =>
    have gate : JoinGate srv g l p msg := ⟨apart, disc, version, game, passwordError_none fit pw⟩
    dsimp only
    split
    · exact .mods hl gate
    · rename_i none
      cases hf : freeSeat l with
      | none => exact .refused
      | some i => exact .seated hl gate (hasMods_of_missing (not_not.mp none)) hf rfl

/-- **The gate of a join.** -/
theorem joinOutcome_result {srv o p ip lid msg} {w : World} (basic : w.Basic)
    (fit : ∀ lid l, w.hub.lobbies.lookup lid = some l → l.Fit) :
    JoinResult srv w.hub lid p msg (joinOutcome srv o w.hub p ip lid msg) := by
  unfold joinOutcome
  cases hl : w.hub.lobbies.lookup lid with
  | none => exact .refused
  | some l =>
    dsimp only
    split
    · exact .refused
    · rename_i unblocked
      have apart : blocked_between w.hub p l.host_player_id = false := by
        by_cases host : l.host_player_id = ""
        · rw [host]
          exact blocked_nobody basic p
        · exact Bool.eq_false_iff.mpr fun h => unblocked ⟨host, h⟩
      split
      · exact .refused
      · rename_i same
        have disc : normalize_disc_fp msg.disc_fp = l.disc_fp := by
          unfold disc_fp_mismatch at same
          split at same
          · rename_i both
            exact both.2.trans both.1.symm
          · exact (not_not.mp fun ne => same (decide_eq_true ne)).symm
        have seat := @seat_joiner_result srv o w.hub lid p ip
          ((Text.nonempty msg.guest_bind).getD "0.0.0.0:7778") l msg (fit lid l hl) hl apart disc
        split
        · rename_i want said
          split
          · exact .refused
          · rename_i game
            split
            · exact .refused
            · rename_i version
              refine seat (not_not.mp version).symm ?_
              intro want' h
              rw [said] at h
              exact (Option.some.inj h).symm.trans (not_not.mp game).symm
        · rename_i silent
          split
          · exact .refused
          · rename_i version
            refine seat (not_not.mp version).symm ?_
            intro want h
            rw [silent] at h
            cases h

/-! ## Runs -/

/-- A note that a client wants the mods of a room stands for a join that passed the gate. -/
theorem HubRun.grants_gated {srv c tr} (r : HubRun srv c tr) : ∀ q row lid,
    c.world.hub.clients.lookup q = some row → row.pending_mod_lobby = some lid →
      ∃ t ip msg o pre l, .ran t (join_seat q ip lid msg) o pre ∈ tr ∧
        pre.world.hub.lobbies.lookup lid = some l ∧ JoinGate srv pre.world.hub l q msg := by
  induction r with
  | start =>
    intro q row lid h
    cases h
  | @step c tr l c' r st ih =>
    intro q row' lid hrow' wants
    have old : ∀ row, c.world.hub.clients.lookup q = some row → row.pending_mod_lobby = some lid →
        ∃ t ip msg o pre room, .ran t (join_seat q ip lid msg) o pre ∈ l :: tr ∧
          pre.world.hub.lobbies.lookup lid = some room ∧ JoinGate srv pre.world.hub room q msg := by
      intro row hrow wants
      obtain ⟨t, ip, msg, o, pre, room, ran, rest⟩ := ih q row lid hrow wants
      exact ⟨t, ip, msg, o, pre, room, List.mem_cons_of_mem _ ran, rest⟩
    cases st with
    | @run t s rest o e ho =>
      obtain ⟨row, hrow, edit⟩ := exec_row q row' hrow'
      cases edit with
      | @want lid' mods xfer =>
        obtain rfl := Option.some.inj wants
        have here : join_need_mods q lid' mods xfer ∈ c.pending t := e ▸ List.mem_cons_self
        rcases r.pending_started t _ here with ⟨e', pre, -, -, hb⟩ | ⟨s', o', pre, ran, hs⟩
        · cases e' <;> simp [hubMachine, Event.body] at hb
        · have called : SectionKind.join_need_mods ∈ s'.calls := exec_calls _ hs
          cases s' with
          | join_seat p ip lid msg =>
            obtain ⟨rest', earlier, r', sub, e'⟩ := r.ran_pending ran
            have result := @joinOutcome_result srv o' p ip lid msg _ (HubRun.basic r')
              (HubRun.rooms_fit r')
            replace hs : join_need_mods q lid' mods xfer ∈
                (join_seat_step srv o' pre.world.hub p ip lid msg).2 := hs
            unfold join_seat_step at hs
            generalize joinOutcome srv o' pre.world.hub p ip lid msg = x at result hs
            cases result with
            | refused => cases List.mem_singleton.mp hs
            | @mods room _ _ hl gate =>
              cases List.mem_singleton.mp hs
              exact ⟨t, ip, msg, o', pre, room, List.mem_cons_of_mem _ ran, hl, gate⟩
            | seated => cases List.mem_singleton.mp hs
          | dispatch p ip msg => cases hop : msg.op <;> simp [hop] at called
          | _ => simp at called
      | joined | mod_xfer_cancel | form => cases wants
      | _ => exact old _ hrow wants
    | @event e _ _ =>
      rcases apply_client_back hrow' with hrow | ⟨ip, rfl, rfl⟩
      · exact old row' hrow wants
      · cases wants

/-- **The gate of a join.** The seating step of a join leaves the hub alone, or the joiner meets all
that the room asks, brings its mods and takes one free seat; and who holds a note that it wants the
mods of a room met all but the mods. -/
theorem join_gate {srv c tr} (r : HubRun srv c tr) :
    (∀ t p ip lid msg o pre, .ran t (join_seat p ip lid msg) o pre ∈ tr →
      (exec srv (join_seat p ip lid msg) o pre.world).1.hub = pre.world.hub ∨
      ∃ l l' i, pre.world.hub.lobbies.lookup lid = some l ∧
        (∀ lid', (exec srv (join_seat p ip lid msg) o pre.world).1.hub.lobbies.lookup lid' =
          if lid' = lid then some l' else pre.world.hub.lobbies.lookup lid') ∧
        JoinGate srv pre.world.hub l p msg ∧ HasMods l msg ∧ TakesSeat l l' p i) ∧
    ∀ q row lid, c.world.hub.clients.lookup q = some row → row.pending_mod_lobby = some lid →
      ∃ t ip msg o pre l, .ran t (join_seat q ip lid msg) o pre ∈ tr ∧
        pre.world.hub.lobbies.lookup lid = some l ∧ JoinGate srv pre.world.hub l q msg := by
  refine ⟨?_, HubRun.grants_gated r⟩
  intro t p ip lid msg o pre ran
  obtain ⟨rest, earlier, r', -, -⟩ := r.ran_pending ran
  have fit := HubRun.rooms_fit r'
  have result := @joinOutcome_result srv o p ip lid msg _ (HubRun.basic r') fit
  have hub : (exec srv (join_seat p ip lid msg) o pre.world).1.hub =
      (joinOutcome srv o pre.world.hub p ip lid msg).1 := join_seat_step_hub ..
  rw [hub]
  generalize joinOutcome srv o pre.world.hub p ip lid msg = x at result
  cases result with
  | refused => exact .inl rfl
  | mods => exact .inl rfl
  | @seated l i s ep f _ hl gate mods free own =>
    have takes := @sit_takes l i p s ep (fit lid l hl) ((HubRun.basic r').sized lid l hl) free own
    refine .inr ⟨l, l.sit i s ep, i, hl, ?_, gate, mods, takes⟩
    intro lid'
    show (pre.world.hub.setLobby lid fun _ => l.sit i s ep).lobbies.lookup lid' = _
    rw [HubInner.setLobby, Assoc.Map.lookup_modify]
    split
    · rename_i here
      rw [here, hl]
      rfl
    · rfl

/-- Does the step seat a joiner in a room with a password? -/
def seatsLocked : HubLabel → Bool
  | .ran _ (join_seat p ip lid msg) o pre =>
    ((pre.world.hub.lobbies.lookup lid).any (·.password_hash.isSome)) &&
      (exec sampleServer (join_seat p ip lid msg) o pre.world).1.hub.lobby_id_of p ≠
        pre.world.hub.lobby_id_of p
  | _ => false

/-- Bob joins Alice's room with its password. -/
theorem join_gate_opens : ∃ c tr t p ip lid msg o pre l l' i, HubRun sampleServer c tr ∧
    .ran t (join_seat p ip lid msg) o pre ∈ tr ∧ pre.world.hub.lobbies.lookup lid = some l ∧
    l.password_hash.isSome ∧ JoinGate sampleServer pre.world.hub l p msg ∧ HasMods l msg ∧
    TakesSeat l l' p i := by
  let p := "6b0f1e52-3c1d-4a86-9a53-0d5f6f1c2a11"
  let q := "c4d1c1a0-5f0e-4a53-8d43-9f4b1f7f3b22"
  let lid := "1f8a9f0e-7d2b-4b57-8f6f-2f6f2b0c9d01"
  let o := draw "9b1deb4d-3b7d-4bad-9bdd-2b0d7b3dcb6d"
  let ms := signIn p alice o ++ [say p { op := .create, password := some "open sesame" }] ++
    steps (.conn p) 3 (draw lid) ++ steps (.conn p) 2 o ++ signIn q bob o ++
    [say q { op := .join, lobby_id := some lid, password := some "open sesame" }] ++
    steps (.conn q) 3 o
  have h : ((hubMachine sampleServer).follow ms).any fun x => x.2.any seatsLocked := by
    decide +kernel
  obtain ⟨c, tr, r, ht, -⟩ := Machine.follow_reaches h
  obtain ⟨label, ran, ht⟩ := List.any_eq_true.mp ht
  cases label with
  | came => cases ht
  | ran t s o pre =>
    cases s with
    | join_seat p ip lid msg =>
      obtain ⟨hashed, moved⟩ := (Bool.and_eq_true _ _).mp ht
      obtain ⟨l0, hl0, hashed⟩ := (Option.any_eq_true _ _).mp hashed
      rcases (join_gate r).1 t p ip lid msg o pre ran with
        same | ⟨l, l', i, hl, -, gate, mods, takes⟩
      · rw [same] at moved
        exact absurd rfl (of_decide_eq_true moved)
      · obtain rfl := Option.some.inj (hl.symm.trans hl0)
        exact ⟨c, tr, t, p, ip, lid, msg, o, pre, l, l', i, r, ran, hl, hashed, gate, mods, takes⟩
    | _ => cases ht

end RecompNet
