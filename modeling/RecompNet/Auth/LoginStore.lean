import RecompNet.Lib.Assoc
import RecompNet.Automatch.Queue

/-!
# Pending logins

A launcher starts a login, polls its pairing code, and the callback from the browser leaves the
result under the code (`discord_auth.rs`). Each call of the store is one section behind its lock, so
that any order of calls by any number of players is a run of calls. `pairing_codes_iff` says what a
poll can be answered.
-/

namespace RecompNet.Auth

/-- How long a started login may sit unfinished. -/
def PENDING_TTL : Nat := 10 * 60 * NANOS

structure Completed where
  session : String
  netplay_secret : String
  player_id : String
  handle : String
  discord_username : String

/-- What a login comes to. -/
abbrev LoginResult := Except String Completed

/-- A login in flight. There is no outcome until the callback lands. -/
structure Pending where
  started : Instant
  outcome : Option LoginResult

/-- The logins in flight, by pairing code. -/
abbrev LoginStore := Assoc.Map String Pending

namespace LoginStore

/-- Sweep the store and open a login. The age of each login in the store is read by itself. -/
def begin (g : LoginStore) (seen : String → Instant) (now : Instant) (random_code : String) :
    LoginStore :=
  (Assoc.Map.retain g fun code p => seen code - p.started < PENDING_TTL).insert random_code
    { started := now, outcome := none }

def finish (g : LoginStore) (code : String) (outcome : LoginResult) : LoginStore :=
  Assoc.Map.modify g code fun p => { p with outcome := some outcome }

def fail (g : LoginStore) (code why : String) : LoginStore := finish g code (.error why)

/-- Take the result if there is one. -/
def take (g : LoginStore) (now : Instant) (code : String) : LoginStore × Option LoginResult :=
  match g.lookup code with
  | none => (g, none)
  | some p =>
    match p.outcome with
    | none =>
      -- Still waiting, and still valid unless it has aged out.
      if PENDING_TTL ≤ now - p.started then (g.erase code, some (.error "expired")) else (g, none)
    | some outcome => (g.erase code, some outcome)

end LoginStore

/-! ## Runs -/

/-- The store, the clock at the last call, and the codes drawn so far. -/
structure LoginWorld where
  logins : LoginStore := ∅
  now : Instant := 0
  codes : List String := []

/-- A call of the store, with what it reads from the clock and draws. -/
inductive LoginCall where
  | begin (seen : String → Instant) (now : Instant) (random_code : String)
  | finish (now : Instant) (code : String) (outcome : LoginResult)
  | fail (now : Instant) (code why : String)
  | take (now : Instant) (code : String)

namespace LoginCall

/-- The clock does not go back, and a code is not drawn twice. -/
def Possible (w : LoginWorld) : LoginCall → Prop
  | begin seen now random_code =>
    w.now ≤ now ∧ (∀ code ∈ w.logins, w.now ≤ seen code ∧ seen code ≤ now) ∧ random_code ∉ w.codes
  | finish now _ _ | fail now _ _ | take now _ => w.now ≤ now

def exec (w : LoginWorld) : LoginCall → LoginWorld
  | begin seen now random_code => {
      logins := LoginStore.begin w.logins seen now random_code
      now
      codes := random_code :: w.codes }
  | finish now code outcome => { w with logins := LoginStore.finish w.logins code outcome, now }
  | fail now code why => { w with logins := LoginStore.fail w.logins code why, now }
  | take now code => { w with logins := (LoginStore.take w.logins now code).1, now }

/-- The code that a call opens a login under, and when. -/
def begun : LoginCall → Option (String × Instant)
  | begin _ now random_code => some (random_code, now)
  | _ => none

/-- The code that a callback lands on, when it lands and with what outcome. -/
def landed : LoginCall → Option (String × Instant × LoginResult)
  | finish now code outcome => some (code, now, outcome)
  | fail now code why => some (code, now, .error why)
  | _ => none

/-- The code that a call takes a result of, with the result. -/
def yields (w : LoginWorld) : LoginCall → Option (String × LoginResult)
  | take now code => (LoginStore.take w.logins now code).2.map (code, ·)
  | _ => none

end LoginCall

/-- A call, with the state it is made in. -/
structure LoginEvent where
  call : LoginCall
  pre : LoginWorld

/-- A run of the store from when the server starts, the last call first. -/
inductive LoginRun : LoginWorld → List LoginEvent → Prop
  | start : LoginRun {} []
  | call {w tr} (r : LoginRun w tr) (c : LoginCall) (possible : c.Possible w) :
    LoginRun (c.exec w) (⟨c, w⟩ :: tr)

/-- The results that were taken. -/
def results (tr : List LoginEvent) : List (String × LoginResult) :=
  tr.filterMap fun e => e.call.yields e.pre

/-- No code yields two results. -/
def OneResult (tr : List LoginEvent) : Prop := ((results tr).map (·.1)).Nodup

/-- A callback landed on a code when its login was too old. -/
def LandedLate (code : String) (tr : List LoginEvent) : Prop :=
  ∃ b ∈ tr, ∃ e ∈ tr, ∃ started now outcome, b.call.begun = some (code, started) ∧
    e.call.landed = some (code, now, outcome) ∧ PENDING_TTL ≤ now - started

/-- A code that a callback landed on late does not yield a session. -/
def NoLateSession (tr : List LoginEvent) : Prop :=
  ∀ e before, e :: before <:+ tr → ∀ code c, e.call.yields e.pre = some (code, .ok c) →
    ¬ LandedLate code before

/-- If the callback of a login that succeeded lands on a code in the store, then the login of the
code is not too old. -/
def LoginEvent.InTime (e : LoginEvent) : Prop :=
  ∀ code now c, e.call.landed = some (code, now, .ok c) →
    ∀ p, e.pre.logins.lookup code = some p → now - p.started < PENDING_TTL

/-! ## What a call does -/

section
variable {w : LoginWorld} {tr : List LoginEvent} {c : LoginCall} {code : String} {p : Pending}

/-- A poll that is answered finds the code, and the code is gone after it. -/
lemma take_yields {g : LoginStore} {now : Instant} {result : LoginResult}
    (h : (LoginStore.take g now code).2 = some result) :
    (LoginStore.take g now code).1 = g.erase code ∧ ∃ p, g.lookup code = some p ∧
      ∀ done, result = .ok done → p.outcome = some result := by
  unfold LoginStore.take at h ⊢
  cases found : g.lookup code with
  | none => simp [found] at h
  | some p =>
    simp only [found] at h ⊢
    cases done : p.outcome with
    | none =>
      simp only [done] at h ⊢
      split_ifs at h ⊢ with old
      cases h
      exact ⟨rfl, p, rfl, nofun⟩
    | some outcome =>
      simp only [done] at h ⊢
      cases h
      exact ⟨trivial, p, rfl, fun _ _ => done⟩

lemma take_cases (g : LoginStore) (now : Instant) (code : String) :
    (LoginStore.take g now code).1 = g ∨ (LoginStore.take g now code).1 = g.erase code := by
  unfold LoginStore.take
  split
  · exact .inl rfl
  · split
    · split_ifs
      · exact .inr rfl
      · exact .inl rfl
    · exact .inr rfl

/-- A login that is there after a call was just opened, or a callback just landed on it, or it was
there before. -/
lemma exec_lookup (h : (c.exec w).logins.lookup code = some p) :
    (∃ started, c.begun = some (code, started) ∧ p = ⟨started, none⟩) ∨
    (∃ now outcome q, c.landed = some (code, now, outcome) ∧ w.logins.lookup code = some q ∧
      p = { q with outcome := some outcome }) ∨
    w.logins.lookup code = some p ∧ ∀ now outcome, c.landed ≠ some (code, now, outcome) := by
  have landing {now : Instant} {code' : String} {outcome : LoginResult}
      (h : (LoginStore.finish w.logins code' outcome).lookup code = some p) :
      (∃ q, code' = code ∧ w.logins.lookup code = some q ∧ p = { q with outcome := some outcome }) ∨
        code' ≠ code ∧ w.logins.lookup code = some p := by
    unfold LoginStore.finish at h
    rw [Assoc.Map.lookup_modify] at h
    split_ifs at h with same
    · obtain ⟨q, hq, rfl⟩ := Option.map_eq_some_iff.mp h
      exact .inl ⟨q, same.symm, hq, rfl⟩
    · exact .inr ⟨fun e => same e.symm, h⟩
  cases c with
  | begin seen now random_code =>
    simp only [LoginCall.exec, LoginStore.begin] at h
    by_cases own : code = random_code
    · subst own
      rw [AList.lookup_insert] at h
      cases h
      exact .inl ⟨now, rfl, rfl⟩
    · rw [AList.lookup_insert_ne own] at h
      exact .inr (.inr ⟨(Assoc.Map.lookup_retain.mp h).1, nofun⟩)
  | finish now code' outcome =>
    rcases @landing now code' outcome h with ⟨q, rfl, hq, rfl⟩ | ⟨other, kept⟩
    · exact .inr (.inl ⟨now, outcome, q, rfl, hq, rfl⟩)
    · exact .inr (.inr ⟨kept, fun _ _ e => other (Prod.mk.inj (Option.some.inj e)).1⟩)
  | fail now code' why =>
    rcases @landing now code' (.error why) h with ⟨q, rfl, hq, rfl⟩ | ⟨other, kept⟩
    · exact .inr (.inl ⟨now, .error why, q, rfl, hq, rfl⟩)
    · exact .inr (.inr ⟨kept, fun _ _ e => other (Prod.mk.inj (Option.some.inj e)).1⟩)
  | take now code' =>
    simp only [LoginCall.exec] at h
    rcases take_cases w.logins now code' with e | e
    · rw [e] at h
      exact .inr (.inr ⟨h, nofun⟩)
    · rw [e] at h
      by_cases own : code = code'
      · subst own
        rw [AList.lookup_erase] at h
        cases h
      · rw [AList.lookup_erase_ne own] at h
        exact .inr (.inr ⟨h, nofun⟩)

/-- A callback leaves its outcome under the code that it finds. -/
lemma landed_lookup {now : Instant} {outcome : LoginResult}
    (h : c.landed = some (code, now, outcome)) (hp : w.logins.lookup code = some p) :
    (c.exec w).logins.lookup code = some { p with outcome := some outcome } := by
  cases c with
  | begin | take => cases h
  | finish | fail =>
    cases h
    simp only [LoginCall.exec, LoginStore.fail, LoginStore.finish,
      Assoc.Map.lookup_modify_self, hp, Option.map_some]

/-- A code that yields a result was in the store, and is not after that. -/
lemma yields_spends {result : LoginResult} (h : c.yields w = some (code, result)) :
    (∃ p, w.logins.lookup code = some p ∧ ∀ done, result = .ok done → p.outcome = some result) ∧
      (c.exec w).logins.lookup code = none := by
  cases c with
  | begin | finish | fail => cases h
  | take now code' =>
    obtain ⟨taken, answered, e⟩ := Option.map_eq_some_iff.mp h
    cases e
    obtain ⟨gone, found⟩ := take_yields answered
    refine ⟨found, ?_⟩
    rw [LoginCall.exec, gone, AList.lookup_erase]

lemma results_cons (e : LoginEvent) (tr : List LoginEvent) :
    results (e :: tr) = (e.call.yields e.pre).toList ++ results tr := by
  unfold results
  rw [List.filterMap_cons]
  cases e.call.yields e.pre <;> rfl

/-- The codes that were drawn stay drawn, and one that is opened is new and among them. -/
lemma exec_codes (possible : c.Possible w) : w.codes ⊆ (c.exec w).codes ∧
    ∀ code started, c.begun = some (code, started) → code ∉ w.codes ∧ code ∈ (c.exec w).codes := by
  cases c with
  | begin seen now random_code =>
    refine ⟨List.subset_cons_self _ _, fun code started h => ?_⟩
    cases h
    exact ⟨possible.2.2, List.mem_cons_self⟩
  | finish | fail | take => exact ⟨List.Subset.refl _, nofun⟩

/-- The clock after a call is not before that of the call or of the one before it. -/
lemma exec_now (possible : c.Possible w) : w.now ≤ (c.exec w).now ∧
    ∀ code now outcome, c.landed = some (code, now, outcome) →
      w.now ≤ now ∧ now = (c.exec w).now := by
  cases c with
  | begin => exact ⟨possible.1, nofun⟩
  | finish | fail =>
    refine ⟨possible, fun _ _ _ h => ?_⟩
    cases h
    exact ⟨possible, rfl⟩
  | take => exact ⟨possible, nofun⟩

/-- What holds of the store in every run. -/
structure StoreSound (w : LoginWorld) (tr : List LoginEvent) : Prop where
  drawn : ∀ code p, w.logins.lookup code = some p → code ∈ w.codes
  begun : ∀ e ∈ tr, ∀ code started, e.call.begun = some (code, started) →
    code ∈ w.codes ∧ ∀ p, w.logins.lookup code = some p → p.started = started
  past : ∀ e ∈ tr, ∀ code now outcome, e.call.landed = some (code, now, outcome) → now ≤ w.now
  spent : ∀ code ∈ (results tr).map (·.1), code ∈ w.codes ∧ w.logins.lookup code = none
  once : OneResult tr

lemma StoreSound.exec (h : StoreSound w tr) (possible : c.Possible w) :
    StoreSound (c.exec w) (⟨c, w⟩ :: tr) := by
  obtain ⟨keep_codes, fresh⟩ := exec_codes possible
  obtain ⟨later, landing⟩ := exec_now possible
  constructor
  · -- A login is filed under a code that was drawn.
    intro code p hp
    rcases exec_lookup hp with ⟨started, opened, -⟩ | ⟨-, -, q, -, hq, -⟩ | ⟨kept, -⟩
    · exact (fresh code started opened).2
    · exact keep_codes (h.drawn code q hq)
    · exact keep_codes (h.drawn code p kept)
  · -- A code stays with the login that it was drawn for.
    intro e he code started opened
    rcases List.mem_cons.mp he with rfl | he
    · refine ⟨(fresh code started opened).2, fun p hp => ?_⟩
      obtain ⟨unknown, -⟩ := fresh code started opened
      rcases exec_lookup hp with ⟨started', opened', rfl⟩ | ⟨-, -, q, -, hq, -⟩ | ⟨kept, -⟩
      · rw [opened] at opened'
        cases opened'
        rfl
      · exact absurd (h.drawn code q hq) unknown
      · exact absurd (h.drawn code p kept) unknown
    · obtain ⟨known, same⟩ := h.begun e he code started opened
      refine ⟨keep_codes known, fun p hp => ?_⟩
      rcases exec_lookup hp with ⟨started', opened', -⟩ | ⟨-, -, q, -, hq, rfl⟩ | ⟨kept, -⟩
      · exact absurd known (fresh code started' opened').1
      · exact same q hq
      · exact same p kept
  · intro e he code now outcome here
    rcases List.mem_cons.mp he with rfl | he
    · exact (landing code now outcome here).2.le
    · exact (h.past e he code now outcome here).trans later
  · -- A code that yielded its result is not filed again: a new login draws a new one.
    intro code spent
    have stays_gone : ∀ code ∈ (results tr).map (·.1),
        code ∈ (c.exec w).codes ∧ (c.exec w).logins.lookup code = none := by
      intro code early
      obtain ⟨known, none_here⟩ := h.spent code early
      refine ⟨keep_codes known, ?_⟩
      cases there : (c.exec w).logins.lookup code with
      | none => rfl
      | some p =>
        rcases exec_lookup there with ⟨started, opened, -⟩ | ⟨-, -, q, -, hq, -⟩ | ⟨kept, -⟩
        · exact absurd known (fresh code started opened).1
        · rw [none_here] at hq
          cases hq
        · rw [none_here] at kept
          cases kept
    rw [results_cons] at spent
    cases yielded : c.yields w with
    | some r =>
      rw [yielded, Option.toList_some, List.singleton_append, List.map_cons, List.mem_cons] at spent
      rcases spent with rfl | early
      · obtain ⟨⟨p, hp, -⟩, gone⟩ := yields_spends yielded
        exact ⟨keep_codes (h.drawn _ p hp), gone⟩
      · exact stays_gone code early
    | none =>
      rw [yielded] at spent
      exact stays_gone code spent
  · -- The result that this call yields is the first of its code, since the login was still filed.
    unfold OneResult
    rw [results_cons]
    cases yielded : c.yields w with
    | some r =>
      obtain ⟨⟨p, hp, -⟩, -⟩ := yields_spends yielded
      refine List.nodup_cons.mpr ⟨fun early => ?_, h.once⟩
      rw [(h.spent _ early).2] at hp
      cases hp
    | none => exact h.once

/-- In every run the store is sound. -/
lemma LoginRun.sound (r : LoginRun w tr) : StoreSound w tr := by
  induction r with
  | start => exact ⟨nofun, nofun, nofun, nofun, .nil⟩
  | call r c possible ih => exact ih.exec possible

/-- A login in the store was opened when it says. -/
lemma LoginRun.opened (r : LoginRun w tr) (hp : w.logins.lookup code = some p) :
    ∃ b ∈ tr, b.call.begun = some (code, p.started) := by
  induction r generalizing p with
  | start => cases hp
  | @call w tr r c possible ih =>
    rcases exec_lookup hp with ⟨started, here, rfl⟩ | ⟨-, -, q, -, hq, rfl⟩ | ⟨kept, -⟩
    · exact ⟨_, List.mem_cons_self, here⟩
    · obtain ⟨b, hb, opened⟩ := ih hq
      exact ⟨b, List.mem_cons_of_mem _ hb, opened⟩
    · obtain ⟨b, hb, opened⟩ := ih kept
      exact ⟨b, List.mem_cons_of_mem _ hb, opened⟩

/-- If all callbacks are in time, then none landed late on a login that succeeded. -/
lemma LoginRun.in_time (r : LoginRun w tr) (in_time : ∀ e ∈ tr, e.InTime) {done : Completed}
    (hp : w.logins.lookup code = some p) (succeeded : p.outcome = some (.ok done)) :
    ∀ e ∈ tr, ∀ now outcome, e.call.landed = some (code, now, outcome) →
      now - p.started < PENDING_TTL := by
  induction r generalizing p with
  | start => cases hp
  | @call w tr r c possible ih =>
    obtain ⟨here, before⟩ := List.forall_mem_cons.mp in_time
    rcases exec_lookup hp with ⟨started, -, rfl⟩ | ⟨now, outcome, q, lands, hq, rfl⟩ | ⟨kept, other⟩
    · cases succeeded
    · cases succeeded
      have young := here code now done lands q hq
      intro e he now' outcome' lands'
      rcases List.mem_cons.mp he with rfl | he
      · rw [lands] at lands'
        cases lands'
        exact young
      -- An earlier callback landed at an earlier time.
      · have early := r.sound.past e he code now' outcome' lands'
        have later := ((exec_now possible).2 code now _ lands).1
        exact (Nat.sub_le_sub_right (early.trans later) _).trans_lt young
    · intro e he now outcome lands
      rcases List.mem_cons.mp he with rfl | he
      · exact absurd lands (other now outcome)
      · exact ih before kept succeeded e he now outcome lands

/-- If all callbacks were in time, then a code that one landed on late does not yield a session. -/
lemma LoginRun.yields_in_time (r : LoginRun w tr) (in_time : ∀ e ∈ tr, e.InTime) {done : Completed}
    (yielded : c.yields w = some (code, .ok done)) : ¬ LandedLate code tr := by
  obtain ⟨⟨p, hp, kept⟩, -⟩ := yields_spends yielded
  rintro ⟨b, hb, e, he, started, now, outcome, opened, lands, late⟩
  have same := (r.sound.begun b hb code started opened).2 p hp
  have young := r.in_time in_time hp (kept done rfl) e he now outcome lands
  rw [same] at young
  exact absurd young (not_lt.mpr late)

lemma NoLateSession.cons {e : LoginEvent} (h : NoLateSession tr)
    (here : ∀ code c, e.call.yields e.pre = some (code, .ok c) → ¬ LandedLate code tr) :
    NoLateSession (e :: tr) := by
  intro e' before suffix
  rcases List.suffix_cons_iff.mp suffix with same | suffix
  · cases same
    exact here
  · exact h e' before suffix

/-- If all callbacks are in time, then no code that a callback landed on late yields a session. -/
lemma LoginRun.no_late_session (r : LoginRun w tr) (in_time : ∀ e ∈ tr, e.InTime) :
    NoLateSession tr := by
  induction r with
  | start =>
    intro e before suffix
    cases List.suffix_nil.mp suffix
  | call r c possible ih =>
    obtain ⟨-, earlier⟩ := List.forall_mem_cons.mp in_time
    exact (ih earlier).cons fun code done => r.yields_in_time earlier

/-- The calls before any point of a run are a run. -/
lemma LoginRun.suffix {before : List LoginEvent} (r : LoginRun w tr) (suffix : before <:+ tr) :
    ∃ w', LoginRun w' before ∧ ∀ e rest, before = e :: rest → w' = e.call.exec e.pre := by
  induction r with
  | start =>
    obtain rfl := List.suffix_nil.mp suffix
    exact ⟨_, .start, nofun⟩
  | @call w tr r c possible ih =>
    rcases List.suffix_cons_iff.mp suffix with rfl | suffix
    · refine ⟨_, .call r c possible, fun e rest same => ?_⟩
      cases same
      rfl
    · exact ih suffix

end

/-- In every run each code yields one result at the most. All callbacks of a run land in time on the
logins they find if and only if no code that a callback landed on late has yielded a session, nor
does one with any call that may follow at any point of the run.
-/
theorem pairing_codes_iff {w : LoginWorld} {tr : List LoginEvent} (r : LoginRun w tr) :
    OneResult tr ∧ ((∀ e ∈ tr, e.InTime) ↔ NoLateSession tr ∧
      ∀ before, before <:+ tr → ∀ w' c, LoginRun w' before → c.Possible w' →
        NoLateSession (⟨c, w'⟩ :: before)) := by
  refine ⟨r.sound.once, fun in_time => ⟨r.no_late_session in_time, ?_⟩, fun safe => ?_⟩
  · intro before suffix w' c r' _
    have earlier := fun e (he : e ∈ before) => in_time e (suffix.subset he)
    exact (r'.no_late_session earlier).cons fun code done => r'.yields_in_time earlier
  · intro e he code now done lands p hp
    by_contra old
    obtain ⟨after, before, rfl⟩ := List.append_of_mem he
    have suffix : e :: before <:+ after ++ e :: before := List.suffix_append _ _
    obtain ⟨w', r', same⟩ := r.suffix suffix
    obtain rfl := same e before rfl
    -- A poll right behind the callback takes the session.
    have stored := landed_lookup lands hp
    have poll : (LoginCall.take (e.call.exec e.pre).now code).yields (e.call.exec e.pre) =
        some (code, .ok done) := by
      simp only [LoginCall.yields, LoginStore.take, stored, Option.map_some]
    have safe_here := safe.2 _ suffix _ (.take (e.call.exec e.pre).now code) r' le_rfl
    refine safe_here _ _ (List.suffix_refl _) code done poll ?_
    obtain ⟨b, hb, opened⟩ := r'.opened stored
    exact ⟨b, hb, e, List.mem_cons_self, p.started, now, _, opened, lands, not_lt.mp old⟩

def aliceLogin : Completed where
  session := "jwt"
  netplay_secret := "k"
  player_id := "alice"
  handle := "Alice"
  discord_username := "alice"

/-- A login is opened, a callback lands on it at some time, and it is polled. -/
def loginAt (now : Instant) : List LoginCall :=
  [.begin (fun _ => 0) 0 "a1", .finish now "a1" (.ok aliceLogin), .take now "a1"]

/-- The run of some calls. -/
def events (w : LoginWorld) : List LoginCall → List LoginEvent
  | [] => []
  | c :: cs => events (c.exec w) cs ++ [⟨c, w⟩]

lemma loginAt_run (now : Instant) : ∃ w, LoginRun w (events {} (loginAt now)) := by
  have opened := LoginRun.start.call (.begin (fun _ => 0) 0 "a1")
    ⟨le_rfl, fun code h => absurd h (AList.notMem_empty code), List.not_mem_nil⟩
  have landed := opened.call (.finish now "a1" (.ok aliceLogin)) (Nat.zero_le now)
  exact ⟨_, landed.call (.take now "a1") (Nat.le_refl now)⟩

/-- A callback a second before the login is too old is in time. -/
theorem pairing_codes_iff_in_time : OneResult (events {} (loginAt (599 * NANOS))) ∧
    NoLateSession (events {} (loginAt (599 * NANOS))) := by
  obtain ⟨w, r⟩ := loginAt_run (599 * NANOS)
  obtain ⟨once, iff⟩ := pairing_codes_iff r
  refine ⟨once, (iff.mp fun e he code now c lands p hp => ?_).1⟩
  simp only [events, loginAt, List.nil_append, List.cons_append, List.mem_cons, List.not_mem_nil,
    or_false] at he
  rcases he with rfl | rfl | rfl
  · cases lands
  · cases lands
    cases hp
    decide
  · cases lands

/-- A callback that lands ten minutes after the login began, with no poll and no other login
between, makes a session.
-/
theorem late_callback_yields : ¬ ∀ w tr, LoginRun w tr → OneResult tr ∧ NoLateSession tr := by
  intro safe
  obtain ⟨w, r⟩ := loginAt_run PENDING_TTL
  refine (safe w _ r).2 _ _ (List.suffix_refl _) "a1" aliceLogin rfl ?_
  exact ⟨_, .tail _ (.head _), _, .head _, 0, PENDING_TTL, _, rfl, rfl, le_rfl⟩

end RecompNet.Auth
