import RecompNet.Hub.Nameplates
import RecompNet.Hub.Seating
import RecompNet.Hub.UniqueName

/-!
# The names of signed-in players

A signed-in player should be seen under the handle of its account, wherever it is seen. Only a `hello` asks
the account for the handle. `OwnNames` says what a step must look like for the name that it writes to be the
player's own; in a run of such steps every name of a signed-in player is.
-/

open scoped List

namespace RecompNet

open Section Interleave HubInner

/-- The row and the seats of a player carry the handle. -/
structure Carries (g : HubInner) (p handle : String) : Prop where
  row : ∀ row, g.clients.lookup p = some row → NameOf handle row.display_name
  seats : ∀ lid l, g.lobbies.lookup lid = some l → ∀ n, (p, n) ∈ l.plates → NameOf handle n

/-- The name is the handle, or a form of it that nobody else in the room has. -/
def Fits (handle name p : String) (room : Option Lobby) : Prop :=
  name = handle ∨ NameOf handle name ∧ ∀ l, room = some l → ¬ l.HeldByOther (some p) name

/-- The step gives a signed-in player no name but its own. -/
def OwnNames : HubLabel → Prop
  | .ran _ (set_display_name p name) _ pre =>
    ∀ pl, pre.world.hub.account p = some pl → NameOf pl.handle name
  | .ran _ (hello_session ..) o _ => ∀ pl, o.session = .player pl → Identity.Tidy pl.handle
  | .ran _ (hello_identity p (some name) _) _ pre =>
    let g := pre.world.hub
    ∀ pl, g.account p = some pl →
      Fits pl.handle name p ((g.lobby_id_of p).bind (g.lobbies.lookup ·)) ∧
      -- The `hello` renames the first seat in the room that the row records.
      ∀ lid l, g.lobbies.lookup lid = some l → ∀ n, (p, n) ∈ l.plates → NameOf pl.handle n ∨
        g.lobby_id_of p = some lid ∧ l.member_ids.count p = 1
  | .ran _ (join_seat p _ lid _) _ pre =>
    ∀ pl row, pre.world.hub.clients.lookup p = some row → row.account = some pl →
      Fits pl.handle row.display_name p (pre.world.hub.lobbies.lookup lid)
  | .ran _ (form_match_room plan) _ pre =>
    ∀ t ∈ [plan.p.a, plan.p.b], ∀ pl, pre.world.hub.account t.player_id = some pl →
      NameOf pl.handle t.handle
  | _ => True

/-- The session of a `hello` is that of an account whose handle the connection carries already. -/
def AttachesOwn : HubLabel → Prop
  | .ran _ (hello_session p ..) o pre =>
    ∀ pl, o.session = .player pl → Carries pre.world.hub p pl.handle
  | _ => True

/-- The `hello` that attached the account has yet to write its handle. -/
def Unfinished (c : HubSnapshot) (p handle : String) : Prop :=
  ∃ game, hello_identity p (some handle) game ∈ c.pending (.conn p)

/-! ## One step -/

/-- A numbered handle is as tidy as the handle. -/
lemma NameOf.tidy {handle name} (h : NameOf handle name) (tidy : Identity.Tidy handle) :
    Identity.Tidy name := by
  rcases h with rfl | ⟨n, -, rfl⟩
  · exact tidy
  · generalize toString n = k
    rw [String.append_assoc, String.append_assoc]
    apply tidy.append
    intro c hc
    have last : (" (" ++ (k ++ ")")).toList.getLast? = some ')' := by
      rw [String.toList_append, String.toList_append, ← List.append_assoc, List.getLast?_append]
      rfl
    obtain rfl := Option.some.inj (last.symm.trans hc)
    decide

/-- A room starts from a tidy name itself. -/
lemma baseName_of_tidy {name} (tidy : Identity.Tidy name) : baseName name = name := by
  unfold baseName
  simp only [tidy.trim, if_neg tidy.1]

/-- A name that fits stays a form of the handle when the room makes it unique. -/
lemma Fits.unique {handle name p fallback} {l : Lobby} (h : Fits handle name p (some l))
    (tidy : Identity.Tidy handle) (few : l.member_ids.length < 63) :
    NameOf handle (unique_display_name l name (some p) fallback) := by
  have base : baseName name = name := by
    rcases h with rfl | ⟨own, -⟩
    · exact baseName_of_tidy tidy
    · exact baseName_of_tidy (own.tidy tidy)
  rcases @unique_display_name_spec l name (some p) few with ⟨-, e⟩ | ⟨held, n, -, first, e⟩
  · rw [e, base]
    exact h.elim .inl And.left
  · rw [e]
    rw [base] at held ⊢
    rcases h with rfl | ⟨-, free⟩
    · exact .inr ⟨n, first.1, rfl⟩
    · exact absurd held (free l rfl)

/-- What a `hello` writes for a name that fits. -/
lemma Fits.hello {g : HubInner} {handle name p fallback}
    (h : Fits handle name p ((g.lobby_id_of p).bind (g.lobbies.lookup ·)))
    (tidy : Identity.Tidy handle)
    (few : ∀ lid l, g.lobbies.lookup lid = some l → l.member_ids.length < 63) :
    NameOf handle (helloName g p name fallback) := by
  unfold helloName
  cases hr : (g.lobby_id_of p).bind (g.lobbies.lookup ·) with
  | none =>
    rcases h with rfl | ⟨own, -⟩
    · exact .inl rfl
    · exact own
  | some l =>
    obtain ⟨lid, -, hl⟩ := Option.bind_eq_some_iff.mp hr
    rw [hr] at h
    exact h.unique tidy (few lid l hl)

/-- The galleries are small. -/
theorem HubRun.small_gallery {srv c tr} (r : HubRun srv c tr) : ∀ lid l,
    c.world.hub.lobbies.lookup lid = some l → l.spectators.length ≤ MAX_SPECTATORS := by
  apply r.induct (I := fun c _ => ∀ lid l,
    c.world.hub.lobbies.lookup lid = some l → l.spectators.length ≤ MAX_SPECTATORS)
  · intro lid l hl
    cases hl
  · intro c tr l c' r ih st lid l' hl'
    cases st with
    | @run t s rest o e ho =>
      have change := exec_change srv s o (HubRun.basic r).sized
      rcases change.lobby_back hl' with ⟨l, hl, frame⟩ | ⟨p, ip, msg, -, -, rfl⟩ |
        ⟨plan, -, -, -, -, -, rfl⟩
      · exact frame.spectators_length ▸ ih lid l hl
      · simp only [createdLobby, List.length_replicate]
        split <;> simp
      · exact Nat.zero_le _
    | event _ _ => exact ih lid l' ((apply_lobbies srv c.world _) ▸ hl')

/-- A room has fewer members than there are numbers for a name. -/
lemma HubRun.few_members {srv c tr} (r : HubRun srv c tr) (lid : String) (l : Lobby)
    (hl : c.world.hub.lobbies.lookup lid = some l) : l.member_ids.length < 63 := by
  have seats := l.members_le_seats
  have players := (HubRun.basic r).small lid l hl
  have gallery := HubRun.small_gallery r lid l hl
  have eight : MAX_SLOTS = 8 := rfl
  have four : MAX_SPECTATORS = 4 := rfl
  omega

/-- What a step writes for a player that carries its handle is the player's own name. -/
lemma OwnNames.written {srv c tr t s o p pl n} (r : HubRun srv c tr)
    (own : OwnNames (.ran t s o c)) (acc : c.world.hub.account p = some pl)
    (tidy : Identity.Tidy pl.handle) (carries : Carries c.world.hub p pl.handle)
    (h : (p, n) ∈ namesWritten srv s o c.world) : NameOf pl.handle n := by
  obtain ⟨row, hrow, hacc⟩ := Option.bind_eq_some_iff.mp acc
  cases s with
  | set_display_name q name =>
    cases List.mem_singleton.mp h
    exact own pl acc
  | hello_identity q name game =>
    cases name with
    | none => cases h
    | some name =>
      cases List.mem_singleton.mp h
      exact (own pl acc).1.hello tidy (HubRun.few_members r)
  | create_insert q ip msg =>
    cases List.mem_singleton.mp h
    rw [hrow]
    exact carries.row row hrow
  | join_seat q ip lid msg =>
    simp only [namesWritten] at h
    split at h
    · rename_i l _ hl
      cases List.mem_singleton.mp h
      rw [hrow]
      have fits := own pl row hrow hacc
      rw [hl] at fits
      exact fits.unique tidy (HubRun.few_members r lid _ hl)
    · cases h
  | form_match_room plan =>
    rcases List.mem_pair.mp h with e | e <;> cases e
    · exact own plan.p.a List.mem_cons_self pl acc
    · exact own plan.p.b (List.mem_cons_of_mem _ List.mem_cons_self) pl acc
  | _ => cases h

/-- A player keeps its names when those that are written are its own. -/
lemma Carries.renamed {g g' : HubInner} {written p handle} (carries : Carries g p handle)
    (renames : g.Renames g' written) (own : ∀ n, (p, n) ∈ written → NameOf handle n) :
    Carries g' p handle where
  row := fun row' hrow' => by
    rcases renames.rows p row' hrow' with new | ⟨row, hrow, e⟩
    · exact own _ new
    · exact e ▸ carries.row row hrow
  seats := fun lid l' hl' n hn => by
    rcases renames.seats lid l' hl' _ hn with new | ⟨l, hl, hn⟩
    · exact own n new
    · exact carries.seats lid l hl n hn

/-- A `hello` for the handle makes the player carry it. -/
lemma Carries.after_hello {srv c tr t o p pl game} (r : HubRun srv c tr)
    (own : OwnNames (.ran t (hello_identity p (some pl.handle) game) o c))
    (acc : c.world.hub.account p = some pl) (tidy : Identity.Tidy pl.handle) :
    Carries (exec srv (hello_identity p (some pl.handle) game) o c.world).1.hub p pl.handle := by
  obtain ⟨fits, others⟩ := own pl acc
  have name := @Fits.hello _ _ _ _ o.uuid fits tidy (HubRun.few_members r)
  have result : (exec srv (hello_identity p (some pl.handle) game) o c.world).1.hub =
      (apply_identity c.world.hub p (some pl.handle) game o.uuid).1 :=
    hello_identity_step_hub srv o c.world.hub p (some pl.handle) game
  rw [result]
  rcases @apply_identity_cases c.world.hub p pl.handle game o.uuid with
    ⟨e, nowhere⟩ | ⟨lid, l, hlid, hl, -, e⟩
  · have bare : helloName c.world.hub p pl.handle o.uuid = pl.handle := by
      simp only [helloName, nowhere]
    rw [e]
    constructor
    · intro row' hrow'
      obtain ⟨row, -, ⟨ne, -⟩ | ⟨-, rfl⟩⟩ := lookup_setClient_back hrow'
      · exact absurd rfl ne
      · exact .inl rfl
    · intro lid' l' hl' n hn
      rcases others lid' l' hl' n hn with own | ⟨hlid, -⟩
      · exact own
      · simp only [hlid, Option.bind_some] at nowhere
        exact absurd (nowhere.symm.trans hl') (by simp)
  · have renamed : helloName c.world.hub p pl.handle o.uuid =
        unique_display_name l pl.handle (some p) o.uuid := by
      simp [helloName, hlid, hl]
    rw [renamed] at name
    rw [e]
    constructor
    · intro row' hrow'
      obtain ⟨row, -, ⟨ne, -⟩ | ⟨-, rfl⟩⟩ := lookup_setClient_back hrow'
      · exact absurd rfl ne
      · exact name
    · intro lid' l' hl' n hn
      obtain ⟨l0, hl0, ⟨ne, rfl⟩ | ⟨rfl, rfl⟩⟩ := lookup_setLobby_back hl'
      · rcases others lid' _ hl0 n hn with own | ⟨hlid', -⟩
        · exact own
        · exact absurd (Option.some.inj (hlid'.symm.trans hlid)) ne
      · obtain rfl := Option.some.inj (hl.symm.trans hl0)
        rcases Lobby.rename_plates _ hn with e | old
        · exact (Prod.mk.inj e).2 ▸ name
        · rcases others _ l hl n old with own | ⟨-, once⟩
          · exact own
          · exact Lobby.rename_once once hn ▸ name

/-! ## Runs -/

/-- The names of the signed-in players, in a state whose last steps may be those of a `hello` (`late`). -/
def NamesKept (late : Prop) (c : HubSnapshot) : Prop :=
  ∀ p pl, c.world.hub.account p = some pl → Identity.Tidy pl.handle ∧
    (late ∧ Unfinished c p pl.handle ∨ Carries c.world.hub p pl.handle)

/-- A section keeps the names. -/
lemma NamesKept.run {late : Prop} {srv c tr t s rest o} (r : HubRun srv c tr) (h : NamesKept late c)
    (e : c.pending t = s :: rest) (own : OwnNames (.ran t s o c))
    (attaches : late ∨ AttachesOwn (.ran t s o c)) :
    NamesKept late ((hubMachine srv).afterRun c t s rest o) := by
  intro p pl acc
  rcases exec_account acc with was | ⟨name, game, rfl, session⟩
  · obtain ⟨tidy, hello | carries⟩ := h p pl was
    · obtain ⟨late, game, pending⟩ := hello
      by_cases here : s = hello_identity p (some pl.handle) game
      · subst here
        exact ⟨tidy, .inr (Carries.after_hello r own was tidy)⟩
      · exact ⟨tidy, .inl ⟨late, game, pending_kept e pending (Ne.symm here)⟩⟩
    · exact ⟨tidy, .inr (carries.renamed exec_renames fun n => own.written r was tidy carries)⟩
  · refine ⟨own pl session, ?_⟩
    obtain rfl : t = .conn p := HubRun.actor_task r t _ (e ▸ List.mem_cons_self) p rfl
    rcases attaches with late | attaches
    · refine .inl ⟨late, game, ?_⟩
      simp only [Machine.afterRun, Function.update_self]
      apply List.mem_append_left
      simp only [hubMachine, exec, World.lift, hello_session_step, session]
      exact List.mem_cons_self
    · right
      apply (attaches pl session).renamed exec_renames
      intro n new
      cases new

/-- An event keeps the names. -/
lemma NamesKept.event {late : Prop} {srv c e} (h : NamesKept late c)
    (idle : c.pending ((hubMachine srv).task e) = []) :
    NamesKept late ((hubMachine srv).afterEvent c e) := by
  intro p pl acc
  obtain ⟨row', hrow', hacc⟩ := Option.bind_eq_some_iff.mp acc
  rcases apply_client_back hrow' with hrow | ⟨ip, -, rfl⟩
  · obtain ⟨tidy, names⟩ := h p pl (Option.bind_eq_some_iff.mpr ⟨row', hrow, hacc⟩)
    refine ⟨tidy, names.imp ?_ fun carries => ⟨?_, ?_⟩⟩
    · rintro ⟨late, game, pending⟩
      refine ⟨late, game, ?_⟩
      have other : Tid.conn p ≠ (hubMachine srv).task e := by
        intro same
        rw [same, idle] at pending
        cases pending
      simpa only [Machine.afterEvent, Function.update_of_ne other] using pending
    · intro row hrow''
      obtain rfl := Option.some.inj (hrow'.symm.trans hrow'')
      exact carries.row row' hrow
    · intro lid l hl
      exact carries.seats lid l ((apply_lobbies srv c.world e) ▸ hl)
  · cases hacc

/-- In a run whose steps give a signed-in player no name but its own, the row and the seats of every
signed-in player carry its handle, once the `hello` that signed it in is through; and before that, too,
when whoever signs in carries the handle already. -/
theorem signed_in_names {srv c tr} (r : HubRun srv c tr) (own : ∀ l ∈ tr, OwnNames l) :
    (∀ p pl, c.world.hub.account p = some pl → ¬ Unfinished c p pl.handle →
      Carries c.world.hub p pl.handle) ∧
    ((∀ l ∈ tr, AttachesOwn l) → ∀ p pl, c.world.hub.account p = some pl →
      Carries c.world.hub p pl.handle) := by
  have kept : ∀ late : Prop, (∀ l ∈ tr, late ∨ AttachesOwn l) → NamesKept late c := by
    intro late attaches
    refine r.invariant (P := fun l => OwnNames l ∧ (late ∨ AttachesOwn l))
      (I := fun c _ => NamesKept late c) ?_ ?_ fun l hl => ⟨own l hl, attaches l hl⟩
    · intro p pl acc
      cases acc
    · intro c tr l c' r ih ⟨own, attaches⟩ st
      cases st with
      | run e _ => exact ih.run r e own attaches
      | event idle _ => exact ih.event idle
  constructor
  · intro p pl acc finished
    have names := (kept True (fun _ _ => .inl trivial) p pl acc).2
    exact names.resolve_left fun h => finished h.2
  · intro attaches p pl acc
    have names := (kept False fun l hl => .inr (attaches l hl)) p pl acc
    exact names.2.resolve_left fun h => h.1

/-- A `create` renames a signed-in player. -/
theorem signed_in_renamed : ¬ ∀ c tr, HubRun sampleServer c tr → c.Quiet → ∀ p pl,
    c.world.hub.account p = some pl → Carries c.world.hub p pl.handle := by
  intro all
  let p := "6b0f1e52-3c1d-4a86-9a53-0d5f6f1c2a11"
  let o := draw "9b1deb4d-3b7d-4bad-9bdd-2b0d7b3dcb6d"
  let ms := signIn p alice o ++ [say p { op := .create, display_name := some "Mallory" }] ++
    steps (.conn p) 4 (draw "1f8a9f0e-7d2b-4b57-8f6f-2f6f2b0c9d01") ++ steps (.conn p) 2 o
  let test : HubSnapshot × List HubLabel → Bool := fun x =>
    (x.1.world.hub.clients.lookup p).any fun row =>
      row.account.any (·.handle = "Alice") && row.display_name = "Mallory"
  have movers : ∀ m ∈ ms, (hubMachine sampleServer).mover m ∈ [.conn p] := by decide
  have h : ((hubMachine sampleServer).follow ms).any fun x =>
      test x && [.conn p].all fun t => (x.1.pending t).isEmpty := by decide +kernel
  obtain ⟨c, tr, r, ht, quiet⟩ := Machine.follow_quiet _ movers h
  obtain ⟨row, hrow, ht⟩ := (Option.any_eq_true _ _).mp ht
  obtain ⟨acc, name⟩ := (Bool.and_eq_true _ _).mp ht
  obtain ⟨pl, acc, handle⟩ := (Option.any_eq_true _ _).mp acc
  have carries := all c tr r quiet p pl (Option.bind_eq_some_iff.mpr ⟨row, hrow, acc⟩)
  have own := carries.row row hrow
  rw [of_decide_eq_true handle, of_decide_eq_true name] at own
  rcases own with e | ⟨n, -, e⟩
  · exact absurd e (by decide)
  · have first := congrArg (fun s => s.toList.head?) e
    simp [String.toList_append] at first

/-- Does the step give signed-in players no name but their handle, by one of the ways that matter to a
player who never joins? -/
def ownNames : HubLabel → Bool
  | .ran _ (set_display_name p name) _ pre =>
    (pre.world.hub.account p).all (·.handle = name)
  | .ran _ (hello_session ..) o _ =>
    match o.session with
    | .player pl => decide (Identity.Tidy pl.handle)
    | _ => true
  | .ran _ (hello_identity p (some name) _) _ pre =>
    (pre.world.hub.account p).all (·.handle = name) &&
      pre.world.hub.lobbies.values.all fun l => p ∉ l.member_ids
  | .ran _ (join_seat ..) .. | .ran _ (form_match_room _) .. => false
  | _ => true

/-- Does whoever signs in carry the handle already, standing? -/
def attachesOwn : HubLabel → Bool
  | .ran _ (hello_session p ..) o pre =>
    match o.session with
    | .player pl =>
      ((pre.world.hub.clients.lookup p).all (·.display_name = pl.handle)) &&
        pre.world.hub.lobbies.values.all fun l => p ∉ l.member_ids
    | _ => true
  | _ => true

/-- A player without a seat has no plate. -/
lemma no_plate {g : HubInner} {p : String} (h : g.lobbies.values.all fun l => p ∉ l.member_ids)
    {lid l n} (hl : g.lobbies.lookup lid = some l) : (p, n) ∉ l.plates := by
  intro hn
  have hv : l ∈ g.lobbies.values := Assoc.Map.mem_values.mpr ⟨lid, hl⟩
  apply of_decide_eq_true (List.all_eq_true.mp h l hv)
  obtain ⟨s, hs, e⟩ := List.mem_map.mp hn
  exact List.mem_map.mpr ⟨s, hs, congrArg Prod.fst e⟩

lemma ownNames_sound {l : HubLabel} (h : ownNames l) : OwnNames l := by
  cases l with
  | came => trivial
  | ran t s o pre =>
    cases s with
    | set_display_name p name =>
      intro pl acc
      simp only [ownNames, acc, Option.all_some] at h
      exact .inl (of_decide_eq_true h).symm
    | hello_session p name game =>
      intro pl session
      simp only [ownNames, session] at h
      exact of_decide_eq_true h
    | hello_identity p name game =>
      cases name with
      | none => trivial
      | some name =>
        intro pl acc
        obtain ⟨own, standing⟩ := (Bool.and_eq_true _ _).mp h
        simp only [acc, Option.all_some] at own
        refine ⟨.inl (of_decide_eq_true own).symm, fun lid l hl n hn => ?_⟩
        exact absurd hn (no_plate standing hl)
    | join_seat | form_match_room => cases h
    | _ => trivial

lemma attachesOwn_sound {l : HubLabel} (h : attachesOwn l) : AttachesOwn l := by
  cases l with
  | came => trivial
  | ran t s o pre =>
    cases s with
    | hello_session p name game =>
      intro pl session
      simp only [attachesOwn, session] at h
      obtain ⟨own, standing⟩ := (Bool.and_eq_true _ _).mp h
      constructor
      · intro row hrow
        simp only [hrow, Option.all_some] at own
        exact .inl (of_decide_eq_true own)
      · intro lid l hl n hn
        exact absurd hn (no_plate standing hl)
    | _ => trivial

/-- Alice calls herself by her handle, signs in and hosts a room. -/
theorem signed_in_names_host : ∃ c tr p pl, HubRun sampleServer c tr ∧
    c.world.hub.account p = some pl ∧
    (∃ lid l, c.world.hub.lobbies.lookup lid = some l ∧ p ∈ l.member_ids) ∧
    Carries c.world.hub p pl.handle := by
  let p := "6b0f1e52-3c1d-4a86-9a53-0d5f6f1c2a11"
  let lid := "1f8a9f0e-7d2b-4b57-8f6f-2f6f2b0c9d01"
  let o := draw "9b1deb4d-3b7d-4bad-9bdd-2b0d7b3dcb6d"
  let ms := [.event (.connect p "203.0.113.7")] ++ steps (.conn p) 1 o ++
    [say p { op := .hello, display_name := some "Alice" }] ++ steps (.conn p) 4 o ++
    [say p { op := .hello, session := some "token" }] ++
    steps (.conn p) 5 { o with session := .player alice } ++
    [say p { op := .create, display_name := some "Alice" }] ++ steps (.conn p) 4 (draw lid)
  let test : HubSnapshot × List HubLabel → Bool := fun x =>
    (x.1.world.hub.account p).isSome &&
      ((x.1.world.hub.lobbies.lookup lid).any fun l => p ∈ l.member_ids) &&
      x.2.all fun l => ownNames l && attachesOwn l
  have h : ((hubMachine sampleServer).follow ms).any test := by decide +kernel
  obtain ⟨c, tr, r, ht, -⟩ := Machine.follow_reaches h
  obtain ⟨ht, steps⟩ := (Bool.and_eq_true _ _).mp ht
  obtain ⟨acc, room⟩ := (Bool.and_eq_true _ _).mp ht
  obtain ⟨pl, acc⟩ := Option.isSome_iff_exists.mp acc
  obtain ⟨l, hl, hp⟩ := (Option.any_eq_true _ _).mp room
  have each := fun l hl => (Bool.and_eq_true _ _).mp (List.all_eq_true.mp steps l hl)
  have names := signed_in_names r fun l hl => ownNames_sound (each l hl).1
  refine ⟨c, tr, p, pl, r, acc, ⟨lid, l, hl, of_decide_eq_true hp⟩, ?_⟩
  exact names.2 (fun l hl => attachesOwn_sound (each l hl).2) p pl acc

end RecompNet
