import RecompNet.Lib.Assoc
import RecompNet.Auth.Identity
import RecompNet.Automatch.Queue
import RecompNet.Lib.Interleave

/-!
# Challenges of the device login

A device without a browser proves that it holds a key: it asks for a nonce and sends a proof over it
to one of three endpoints (`routes/mod.rs`, with the store of `discord_auth.rs` and the keys of
`secrets.rs`). Each endpoint parses the player, spends the nonce and only then looks at the proof.
The requests run side by side; the store is behind a lock of its own and every query of the database
is a section. HMAC and the uuid parser enter as functions, the player row and the token as answers.
-/

namespace RecompNet.Auth

open Interleave

def NONCE_TTL : Nat := 60 * NANOS

/-- The nonces that were handed out, with the time. -/
abbrev ChallengeStore := Assoc.Map String Instant

namespace ChallengeStore

/-- Sweep the store and hand out a nonce. -/
def issue (g : ChallengeStore) (now : Instant) (random_code : String) : ChallengeStore :=
  (Assoc.Map.retain g fun _ t => now - t < NONCE_TTL).insert random_code now

/-- True once for each nonce. -/
def take (g : ChallengeStore) (now : Instant) (nonce : String) : ChallengeStore × Bool :=
  (g.erase nonce, (g.lookup nonce).any fun t => now - t < NONCE_TTL)

end ChallengeStore

/-! ## Requests -/

structure ProofReq where
  player_id : String
  nonce : String
  proof : String
  all : Bool := false
  deriving DecidableEq

structure HandleReq where
  player_id : String
  nonce : String
  proof : String
  handle : String
  deriving DecidableEq

/-- A request to one of the endpoints that take a proof. -/
inductive AuthRequest where
  | session_from_secret (req : ProofReq)
  | set_handle (req : HandleReq)
  | revoke_secret (req : ProofReq)
  deriving DecidableEq

namespace AuthRequest

def player_id : AuthRequest → String
  | session_from_secret req | revoke_secret req => req.player_id
  | set_handle req => req.player_id

def nonce : AuthRequest → String
  | session_from_secret req | revoke_secret req => req.nonce
  | set_handle req => req.nonce

def proof : AuthRequest → String
  | session_from_secret req | revoke_secret req => req.proof
  | set_handle req => req.proof

end AuthRequest

/-- The player that `identity::load_player` reads. -/
structure PlayerRow where
  handle : String
  discord_username : String
  deriving DecidableEq

/-- What an endpoint answers: its JSON, or a status with a code. -/
inductive Reply where
  | challenge_issued (nonce : String)
  | session_issued (session player_id : String) (player : PlayerRow)
  | handle (handle : String)
  | revoked (n : Nat)
  | error (status : Nat) (code : String)
  deriving DecidableEq

/-- An answer to a request whose proof was taken. -/
def Reply.succeeds : Reply → Bool
  | session_issued .. | handle _ | revoked _ => true
  | challenge_issued _ | error .. => false

def invalid_secret : Reply := .error 403 "invalid_secret"
def bad_nonce : Reply := .error 403 "bad_nonce"
def handle_rejected : Reply := .error 409 "handle_rejected"
def internal : Reply := .error 500 "internal"

/-! ## Keys -/

/-- A row of `player_secrets`. -/
structure SecretRow where
  player_id : String
  secret_hash : String
  revoked : Bool := false
  deriving DecidableEq

/-- The keys of a player that are not revoked. -/
def liveKeys (rows : List SecretRow) (player : String) : List String :=
  (rows.filter fun r => r.player_id = player && !r.revoked).map (·.secret_hash)

/-- Revoke the rows that pass a test, and count them. -/
def revokeRows (rows : List SecretRow) (which : SecretRow → Bool) : List SecretRow × Nat :=
  (rows.map fun r => if which r then { r with revoked := true } else r, rows.countP which)

/-! ## The endpoints -/

/-- The library functions the endpoints call. -/
structure AuthServer where
  /-- `Uuid::parse_str`, with the text of the uuid. -/
  parse_uuid : String → Option String
  /-- `secrets::expected_proof`. -/
  expected_proof : String → String → String
  /-- `chat_filter::apply`. -/
  apply : String → String := id

/-- What the requests share: the store, the keys, the clock, the codes drawn so far, how many
requests there were, and the replies with the number of their request. -/
structure AuthWorld where
  challenges : ChallengeStore := ∅
  secrets : List SecretRow := []
  now : Instant := 0
  codes : List String := []
  requests : Nat := 0
  replies : List (Nat × Reply) := []

/-- What the outside answers to a section: random bytes, whether the database took a query, the
player row and the session token. -/
structure AuthAnswer where
  random_code : String := ""
  db_ok : Bool := true
  player : Option PlayerRow := none
  session : Option String := none

/-- A critical section of request number `id`, with the locals it carries; `uuid` is the parsed
player. -/
inductive AuthSection where
  | issue (id : Nat)
  | spend_nonce (id : Nat) (req : AuthRequest) (uuid : String)
  | verify_proof (id : Nat) (req : AuthRequest) (uuid : String)
  | touch_key (id : Nat) (req : AuthRequest) (uuid : String)
  | load_player (id : Nat) (req : AuthRequest) (uuid : String)
  | store_handle (id : Nat) (handle : String)
  | revoke_all (id : Nat) (uuid : String)
  | revoke_by_proof (id : Nat) (req : AuthRequest) (uuid : String)
  | revoke_key (id : Nat) (key : String)
  | respond (id : Nat) (reply : Reply)

open AuthSection

/-- The world after a section, and what its request runs next. -/
abbrev AuthStep := AuthWorld × List AuthSection

/-- The nonce is spent before the proof is looked at. -/
def spend_nonce_step (w : AuthWorld) (id : Nat) (req : AuthRequest) (uuid : String) : AuthStep :=
  let (challenges, taken) := ChallengeStore.take w.challenges w.now req.nonce
  let w := { w with challenges }
  if !taken then (w, [respond id bad_nonce])
  else
    match req with
    | .revoke_secret r =>
      if r.all then (w, [verify_proof id req uuid]) else (w, [revoke_by_proof id req uuid])
    | _ => (w, [verify_proof id req uuid])

/-- Is the proof of a request the one that the key gives? -/
def AuthRequest.provenBy (srv : AuthServer) (req : AuthRequest) (key : String) : Bool :=
  srv.expected_proof key req.nonce = req.proof

/-- Does one of the player's keys give the proof? -/
def verify_proof_step (srv : AuthServer) (o : AuthAnswer) (w : AuthWorld) (id : Nat)
    (req : AuthRequest) (uuid : String) : AuthStep :=
  if o.db_ok && (liveKeys w.secrets uuid).any (req.provenBy srv) then (w, [touch_key id req uuid])
  else (w, [respond id invalid_secret])

/-- What an endpoint does for the player that has proven its key. -/
def proven_step (srv : AuthServer) (o : AuthAnswer) (w : AuthWorld) (id : Nat) (req : AuthRequest)
    (uuid : String) (player : PlayerRow) : AuthStep :=
  match req with
  | .session_from_secret _ =>
    match o.session with
    | some session => (w, [respond id (.session_issued session uuid player)])
    | none => (w, [respond id internal])
  | .set_handle r =>
    match Names.acceptable srv.apply (some r.handle) with
    | some handle => (w, [store_handle id handle])
    | none => (w, [respond id handle_rejected])
  | .revoke_secret _ => (w, [revoke_all id uuid])

/-- Revoke the first of the player's keys that gives the proof. -/
def revoke_by_proof_step (srv : AuthServer) (o : AuthAnswer) (w : AuthWorld) (id : Nat)
    (req : AuthRequest) (uuid : String) : AuthStep :=
  if !o.db_ok then (w, [respond id internal])
  else
    match (liveKeys w.secrets uuid).find? (req.provenBy srv) with
    | some key => (w, [revoke_key id key])
    | none => (w, [respond id (.revoked 0)])

/-- Run a critical section. -/
def exec (srv : AuthServer) (s : AuthSection) (o : AuthAnswer) (w : AuthWorld) : AuthStep :=
  match s with
  | issue id =>
    ({ w with
      challenges := ChallengeStore.issue w.challenges w.now o.random_code
      codes := o.random_code :: w.codes }, [respond id (.challenge_issued o.random_code)])
  | spend_nonce id req uuid => spend_nonce_step w id req uuid
  | verify_proof id req uuid => verify_proof_step srv o w id req uuid
  | touch_key id req uuid =>
    (w, [if o.db_ok then load_player id req uuid else respond id invalid_secret])
  | load_player id req uuid =>
    match o.player with
    | some player => proven_step srv o w id req uuid player
    | none => (w, [respond id invalid_secret])
  | store_handle id handle =>
    (w, [respond id (if o.db_ok then .handle handle else handle_rejected)])
  | revoke_all id uuid =>
    if o.db_ok then
      let (secrets, n) := revokeRows w.secrets fun r => r.player_id = uuid && !r.revoked
      ({ w with secrets }, [respond id (.revoked n)])
    else (w, [respond id internal])
  | revoke_by_proof id req uuid => revoke_by_proof_step srv o w id req uuid
  | revoke_key id key =>
    if o.db_ok then
      ({ w with secrets := (revokeRows w.secrets (·.secret_hash = key)).1 },
        [respond id (.revoked 1)])
    else (w, [respond id internal])
  | respond id reply => ({ w with replies := w.replies ++ [(id, reply)] }, [])

/-- The tasks: a request, or what goes on elsewhere. -/
inductive AuthTid where
  | request (id : Nat)
  | elsewhere
  deriving DecidableEq

/-- What happens from outside. -/
inductive AuthEvent where
  | auth_challenge (id : Nat)
  | request (id : Nat) (req : AuthRequest)
  /-- Another key is issued, at a login with a browser. -/
  | new_key (row : SecretRow)
  | pass (elapsed : Nat)

namespace AuthEvent

def task : AuthEvent → AuthTid
  | auth_challenge id | request id _ => .request id
  | new_key _ | pass _ => .elsewhere

/-- Requests are numbered as they come. -/
def enabled (w : AuthWorld) : AuthEvent → Prop
  | auth_challenge id | request id _ => id = w.requests
  | new_key _ | pass _ => True

def apply (w : AuthWorld) : AuthEvent → AuthWorld
  | auth_challenge _ | request _ _ => { w with requests := w.requests + 1 }
  | new_key row => { w with secrets := w.secrets ++ [row] }
  | pass elapsed => { w with now := w.now + elapsed }

def body (srv : AuthServer) : AuthEvent → List AuthSection
  | auth_challenge id => [issue id]
  | request id req =>
    match srv.parse_uuid req.player_id with
    | some uuid => [spend_nonce id req uuid]
    | none => [respond id invalid_secret]
  | new_key _ | pass _ => []

end AuthEvent

/-- The endpoints as a machine, on the assumption that `random_code` never repeats. -/
def authMachine (srv : AuthServer) :
    Machine AuthWorld AuthSection AuthTid AuthAnswer AuthEvent where
  start := {}
  exec := exec srv
  answers := fun o w => o.random_code ∉ w.codes
  task := AuthEvent.task
  enabled := fun e w => e.enabled w
  apply := fun e w => e.apply w
  body := fun e _ => e.body srv

instance (srv : AuthServer) (o : AuthAnswer) (w : AuthWorld) :
    Decidable ((authMachine srv).answers o w) := by
  unfold authMachine
  infer_instance

instance (srv : AuthServer) (e : AuthEvent) (w : AuthWorld) :
    Decidable ((authMachine srv).enabled e w) := by
  unfold authMachine
  cases e <;> (simp only [AuthEvent.enabled]; infer_instance)

/-! ## Nonces over a run -/

abbrev AuthLabel := Label AuthWorld AuthSection AuthTid AuthAnswer AuthEvent

/-- A step that hands out a nonce. -/
def Issues (nonce : String) : AuthLabel → Prop
  | .ran _ (.issue _) o _ => o.random_code = nonce
  | _ => False

/-- A step in which request number `id` gets past `spend_nonce` with a nonce. -/
def GetsPast (id : Nat) (nonce : String) : AuthLabel → Prop
  | .ran _ (.spend_nonce i req _) _ pre => i = id ∧ req.nonce = nonce ∧
      (ChallengeStore.take pre.world.challenges pre.world.now req.nonce).2 = true
  | _ => False

instance (id : Nat) (nonce : String) (l : AuthLabel) : Decidable (GetsPast id nonce l) := by
  unfold GetsPast
  split <;> infer_instance

/-- The sections of a request that has spent its nonce, with its number; an answer is one when the
request succeeds. -/
def AuthSection.spent : AuthSection → Option Nat
  | .issue _ | .spend_nonce .. => none
  | .verify_proof id .. | .touch_key id .. | .load_player id .. | .store_handle id _
  | .revoke_all id _ | .revoke_by_proof id .. | .revoke_key id _ => some id
  | .respond id reply => if reply.succeeds then some id else none

/-- What a run leaves behind about nonces, requests and the clock. -/
structure Ledger (c : Snapshot AuthWorld AuthSection AuthTid) (tr : List AuthLabel) : Prop where
  clock : ∀ l ∈ tr, l.pre.world.now ≤ c.world.now
  drawn : ∀ l ∈ tr, ∀ nonce, Issues nonce l → nonce ∈ c.world.codes
  once : ∀ l ∈ tr, ∀ l' ∈ tr, ∀ nonce, Issues nonce l → Issues nonce l' →
    l.pre.world.now = l'.pre.world.now
  stored : ∀ nonce t, c.world.challenges.lookup nonce = some t →
    ∃ l ∈ tr, Issues nonce l ∧ l.pre.world.now = t
  gone : ∀ l ∈ tr, ∀ id nonce, GetsPast id nonce l →
    nonce ∈ c.world.codes ∧ c.world.challenges.lookup nonce = none

/-- A nonce that is taken is in the store and young, and is no longer in it. -/
lemma ChallengeStore.take_taken {g : ChallengeStore} {now nonce} (h : (g.take now nonce).2 = true) :
    ∃ t, g.lookup nonce = some t ∧ now - t < NONCE_TTL := by
  obtain ⟨t, ht, young⟩ := (Option.any_eq_true _ _).mp h
  exact ⟨t, ht, of_decide_eq_true young⟩

/-- Spending a nonce takes it out of the store and touches nothing else. -/
lemma spend_nonce_world (w : AuthWorld) (id : Nat) (req : AuthRequest) (uuid : String) :
    (spend_nonce_step w id req uuid).1 = { w with challenges := w.challenges.erase req.nonce } := by
  unfold spend_nonce_step ChallengeStore.take
  dsimp only
  split
  · rfl
  · split
    · split <;> rfl
    · rfl

/-- The other sections leave the store, the codes and the clock alone. -/
lemma exec_store {srv o w s} (issues : ∀ id, s ≠ .issue id)
    (spends : ∀ id req u, s ≠ .spend_nonce id req u) :
    (exec srv s o w).1.challenges = w.challenges ∧ (exec srv s o w).1.codes = w.codes := by
  cases s with
  | issue id => exact absurd rfl (issues id)
  | spend_nonce id req u => exact absurd rfl (spends id req u)
  | verify_proof id req u =>
    simp only [exec, verify_proof_step]
    split <;> exact ⟨rfl, rfl⟩
  | touch_key id req u => exact ⟨rfl, rfl⟩
  | load_player id req u =>
    simp only [exec, proven_step]
    repeat' split
    all_goals exact ⟨rfl, rfl⟩
  | store_handle id handle => exact ⟨rfl, rfl⟩
  | revoke_all id u =>
    simp only [exec]
    split <;> exact ⟨rfl, rfl⟩
  | revoke_by_proof id req u =>
    simp only [exec, revoke_by_proof_step]
    repeat' split
    all_goals exact ⟨rfl, rfl⟩
  | revoke_key id key =>
    simp only [exec]
    split <;> exact ⟨rfl, rfl⟩
  | respond id reply => exact ⟨rfl, rfl⟩

/-- No section moves the clock, and no section is another request. -/
lemma exec_frame {srv s o w} :
    (exec srv s o w).1.now = w.now ∧ (exec srv s o w).1.requests = w.requests := by
  cases s with
  | spend_nonce id req u =>
    rw [exec, spend_nonce_world]
    exact ⟨rfl, rfl⟩
  | _ =>
    dsimp only [exec, verify_proof_step, proven_step, revoke_by_proof_step]
    repeat' split
    all_goals exact ⟨rfl, rfl⟩

/-- A step that hands out no nonce and spends none keeps the ledger. -/
lemma Ledger.idle {c c' tr l} (g : Ledger c tr) (pre : l.pre = c) (now : c.world.now ≤ c'.world.now)
    (store : c'.world.challenges = c.world.challenges) (codes : c'.world.codes = c.world.codes)
    (issues : ∀ nonce, ¬ Issues nonce l) (past : ∀ id nonce, ¬ GetsPast id nonce l) :
    Ledger c' (l :: tr) where
  clock := by
    intro l' h
    rcases List.mem_cons.mp h with rfl | h
    · exact pre ▸ now
    · exact (g.clock l' h).trans now
  drawn := by
    intro l' h nonce hi
    rcases List.mem_cons.mp h with rfl | h
    · exact absurd hi (issues nonce)
    · exact codes ▸ g.drawn l' h nonce hi
  once := by
    intro l1 h1 l2 h2 nonce hi1 hi2
    rcases List.mem_cons.mp h1 with rfl | h1
    · exact absurd hi1 (issues nonce)
    · rcases List.mem_cons.mp h2 with rfl | h2
      · exact absurd hi2 (issues nonce)
      · exact g.once l1 h1 l2 h2 nonce hi1 hi2
  stored := by
    intro nonce t h
    obtain ⟨l', hm, h'⟩ := g.stored nonce t (store ▸ h)
    exact ⟨l', List.mem_cons_of_mem _ hm, h'⟩
  gone := by
    intro l' h id nonce hp
    rcases List.mem_cons.mp h with rfl | h
    · exact absurd hp (past id nonce)
    · rw [store, codes]
      exact g.gone l' h id nonce hp

/-- Handing out a nonce that was never drawn keeps the ledger: the sweep only takes nonces out. -/
lemma Ledger.issue {srv c tr t id rest o} (g : Ledger c tr)
    (fresh : o.random_code ∉ c.world.codes) :
    Ledger ((authMachine srv).afterRun c t (issue id) rest o) (.ran t (issue id) o c :: tr) where
  clock := by
    intro l h
    rcases List.mem_cons.mp h with rfl | h
    · exact le_rfl
    · exact g.clock l h
  drawn := by
    intro l h nonce hi
    rcases List.mem_cons.mp h with rfl | h
    · cases hi
      exact List.mem_cons_self
    · exact List.mem_cons_of_mem _ (g.drawn l h nonce hi)
  once := by
    intro l1 h1 l2 h2 nonce hi1 hi2
    rcases List.mem_cons.mp h1 with rfl | h1 <;> rcases List.mem_cons.mp h2 with rfl | h2
    · rfl
    · -- Two nonces of which one was drawn with this step.
      cases hi1
      exact absurd (g.drawn l2 h2 _ hi2) fresh
    · cases hi2
      exact absurd (g.drawn l1 h1 _ hi1) fresh
    · exact g.once l1 h1 l2 h2 nonce hi1 hi2
  stored := by
    intro nonce at_ h
    change ((Assoc.Map.retain c.world.challenges _).insert o.random_code
      c.world.now).lookup nonce = some at_ at h
    by_cases e : nonce = o.random_code
    · subst e
      rw [AList.lookup_insert] at h
      cases h
      exact ⟨_, List.mem_cons_self, rfl, rfl⟩
    · rw [AList.lookup_insert_ne e] at h
      obtain ⟨l, hm, h'⟩ := g.stored nonce at_ (Assoc.Map.lookup_retain.mp h).1
      exact ⟨l, List.mem_cons_of_mem _ hm, h'⟩
  gone := by
    intro l h i nonce hp
    rcases List.mem_cons.mp h with rfl | h
    · exact hp.elim
    · obtain ⟨known, away⟩ := g.gone l h i nonce hp
      refine ⟨List.mem_cons_of_mem _ known, ?_⟩
      change ((Assoc.Map.retain c.world.challenges _).insert o.random_code
        c.world.now).lookup nonce = none
      -- A spent nonce does not come back as a new one.
      have ne : nonce ≠ o.random_code := fun e => fresh (e ▸ known)
      rw [AList.lookup_insert_ne ne, Option.eq_none_iff_forall_ne_some]
      intro t back
      rw [(Assoc.Map.lookup_retain.mp back).1] at away
      cases away

/-- Spending a nonce keeps the ledger. -/
lemma Ledger.spend {srv c tr t id req u rest o} (g : Ledger c tr) :
    Ledger ((authMachine srv).afterRun c t (spend_nonce id req u) rest o)
      (.ran t (spend_nonce id req u) o c :: tr) := by
  have after : ((authMachine srv).afterRun c t (spend_nonce id req u) rest o).world =
      { c.world with challenges := c.world.challenges.erase req.nonce } := spend_nonce_world ..
  generalize (authMachine srv).afterRun c t (spend_nonce id req u) rest o = c' at after ⊢
  obtain ⟨w', pending⟩ := c'
  dsimp only at after
  subst after
  constructor
  case clock =>
    intro l h
    rcases List.mem_cons.mp h with rfl | h
    · exact le_rfl
    · exact g.clock l h
  case drawn =>
    intro l h nonce hi
    rcases List.mem_cons.mp h with rfl | h
    · exact hi.elim
    · exact g.drawn l h nonce hi
  case once =>
    intro l1 h1 l2 h2 nonce hi1 hi2
    rcases List.mem_cons.mp h1 with rfl | h1
    · exact hi1.elim
    · rcases List.mem_cons.mp h2 with rfl | h2
      · exact hi2.elim
      · exact g.once l1 h1 l2 h2 nonce hi1 hi2
  case stored =>
    intro nonce at_ h
    have ne : nonce ≠ req.nonce := by
      rintro rfl
      rw [AList.lookup_erase] at h
      cases h
    obtain ⟨l, hm, h'⟩ := g.stored nonce at_ ((AList.lookup_erase_ne ne).symm.trans h)
    exact ⟨l, List.mem_cons_of_mem _ hm, h'⟩
  case gone =>
    intro l h i nonce hp
    rcases List.mem_cons.mp h with rfl | h
    · -- The nonce that passed with this step was held, so it was handed out before.
      obtain ⟨rfl, rfl, taken⟩ := hp
      obtain ⟨at_, held, -⟩ := ChallengeStore.take_taken taken
      obtain ⟨l', hm, hi, -⟩ := g.stored _ at_ held
      exact ⟨g.drawn l' hm _ hi, AList.lookup_erase _ _⟩
    · obtain ⟨known, away⟩ := g.gone l h i nonce hp
      refine ⟨known, ?_⟩
      by_cases e : nonce = req.nonce
      · rw [e, AList.lookup_erase]
      · rw [AList.lookup_erase_ne e]
        exact away

/-- Every run keeps the ledger. -/
lemma run_ledger {srv c tr} (r : Run (authMachine srv) c tr) : Ledger c tr := by
  apply r.induct
  · constructor <;> intros <;> contradiction
  · intro c tr l c' _ g st
    cases st with
    | @run t s rest o e fresh =>
      cases s with
      | issue id => exact g.issue fresh
      | spend_nonce id req u => exact g.spend
      | _ =>
        refine g.idle rfl exec_frame.1.ge (exec_store ?_ ?_).1 (exec_store ?_ ?_).2 (fun _ h => h)
          (fun _ _ h => h)
        all_goals
          intros
          exact nofun
    | @event e _ _ =>
      cases e with
      | pass elapsed =>
        exact g.idle rfl (Nat.le_add_right _ _) rfl rfl (fun _ h => h) (fun _ _ h => h)
      | _ => exact g.idle rfl le_rfl rfl rfl (fun _ h => h) (fun _ _ h => h)

/-! ## One pass for each nonce -/

/-- What passes, passes on a nonce that was handed out within the time that a nonce lives, and after
that the nonce is gone. -/
lemma gets_past_young {srv c tr} (r : Run (authMachine srv) c tr) {id nonce later l earlier}
    (e : tr = later ++ l :: earlier) (hp : GetsPast id nonce l) :
    (∀ l' ∈ earlier, ∀ id', ¬ GetsPast id' nonce l') ∧
      ∃ i ∈ earlier, Issues nonce i ∧ l.pre.world.now < i.pre.world.now + NONCE_TTL := by
  obtain ⟨r', -, -⟩ := r.pre_reached l later earlier e
  have g := run_ledger r'
  cases l with
  | came _ _ => exact hp.elim
  | ran t s o pre =>
    cases s with
    | spend_nonce i req u =>
      obtain ⟨rfl, rfl, taken⟩ := hp
      obtain ⟨at_, held, young⟩ := ChallengeStore.take_taken taken
      constructor
      · intro l' hl' id' hp'
        obtain ⟨-, away⟩ := g.gone l' hl' id' _ hp'
        cases away.symm.trans held
      · obtain ⟨l', hl', hi, at_l'⟩ := g.stored _ _ held
        exact ⟨l', hl', hi, at_l' ▸ lt_add_of_tsub_lt_left young⟩
    | _ => exact hp.elim

/-- What a section starts: never another spending, and a section of a request that has spent its
nonce only after such a section or the spending itself. -/
lemma exec_starts {srv s o w s'} (h : s' ∈ (exec srv s o w).2) :
    (∀ id req u, s' ≠ .spend_nonce id req u) ∧
      ∀ id, s'.spent = some id → s.spent = some id ∨
        ∃ req u, s = .spend_nonce id req u ∧
          (ChallengeStore.take w.challenges w.now req.nonce).2 := by
  cases s with
  | spend_nonce i req u =>
    simp only [exec, spend_nonce_step] at h
    split at h
    · rw [List.mem_singleton.mp h]
      exact ⟨nofun, nofun⟩
    · rename_i taken
      have taken : (ChallengeStore.take w.challenges w.now req.nonce).2 = true := by
        simpa using taken
      repeat' split at h
      all_goals
        rw [List.mem_singleton.mp h]
        refine ⟨nofun, fun id e => ?_⟩
        cases e
        exact .inr ⟨_, _, rfl, taken⟩
  | _ =>
    simp only [exec, verify_proof_step, proven_step, revoke_by_proof_step] at h
    repeat' split at h
    all_goals
      first
      | rw [List.mem_singleton.mp h]
      | cases h
    all_goals
      try split
      all_goals
        refine ⟨nofun, fun id e => ?_⟩
        first
        | exact .inl e
        | cases e

/-- At most one request gets past with a nonce. -/
lemma gets_past_once {srv c tr} (r : Run (authMachine srv) c tr) {l l' id id' nonce} (hl : l ∈ tr)
    (hl' : l' ∈ tr) (hp : GetsPast id nonce l) (hp' : GetsPast id' nonce l') : id = id' := by
  obtain ⟨later, earlier, e⟩ := List.append_of_mem hl
  rw [e, List.mem_append, List.mem_cons] at hl'
  rcases hl' with after | rfl | before
  · obtain ⟨later', between, rfl⟩ := List.append_of_mem after
    rw [List.append_assoc, List.cons_append] at e
    have first := (gets_past_young r e hp').1
    exact absurd hp (first l (List.mem_append_right _ List.mem_cons_self) id)
  · cases l' with
    | came _ _ => exact hp.elim
    | ran t s o pre =>
      cases s with
      | spend_nonce i req u => exact hp.1.symm.trans hp'.1
      | _ => exact hp.elim
  · exact absurd hp' ((gets_past_young r e hp).1 l' before id')

/-- What passes was asked for before, with that nonce. -/
lemma gets_past_asked {srv c tr} (r : Run (authMachine srv) c tr) {id nonce later l earlier}
    (e : tr = later ++ l :: earlier) (hp : GetsPast id nonce l) :
    ∃ req pre, .came (.request id req) pre ∈ earlier ∧ req.nonce = nonce ∧
      pre.world.now ≤ l.pre.world.now := by
  obtain ⟨r', c', st⟩ := r.pre_reached l later earlier e
  cases l with
  | came _ _ => exact hp.elim
  | ran t s o pre =>
    cases s with
    | spend_nonce i req u =>
      obtain ⟨rfl, rfl, -⟩ := hp
      cases st with
      | run hs _ =>
        have started := r'.pending_started t _ (hs ▸ List.mem_cons_self)
        rcases started with ⟨e', pre', he, -, hm⟩ | ⟨s', o', pre', -, hm⟩
        · cases e' with
          | request i' req' =>
            simp only [authMachine, AuthEvent.body] at hm
            split at hm
            · simp only [List.mem_singleton, AuthSection.spend_nonce.injEq] at hm
              obtain ⟨rfl, rfl, rfl⟩ := hm
              exact ⟨_, _, he, rfl, (run_ledger r').clock _ he⟩
            · simp at hm
          | _ => simp [authMachine, AuthEvent.body] at hm
        · exact absurd rfl ((exec_starts hm).1 i req u)
    | _ => exact hp.elim

/-- Requests are numbered once. -/
lemma asked_once {srv c tr} (r : Run (authMachine srv) c tr) :
    (∀ id req pre, .came (.request id req) pre ∈ tr → id < c.world.requests) ∧
      ∀ id req req' pre pre', .came (.request id req) pre ∈ tr →
        .came (.request id req') pre' ∈ tr → req = req' := by
  apply r.induct (I := fun c tr =>
    (∀ id req pre, .came (.request id req) pre ∈ tr → id < c.world.requests) ∧
      ∀ id req req' pre pre', .came (.request id req) pre ∈ tr →
        .came (.request id req') pre' ∈ tr → req = req')
  · exact ⟨nofun, nofun⟩
  · rintro c tr l c' - ⟨below, once⟩ st
    have grows : c.world.requests ≤ c'.world.requests := by
      cases st with
      | run _ _ => exact exec_frame.2.ge
      | @event e _ _ => cases e <;> simp [Machine.afterEvent, authMachine, AuthEvent.apply]
    have fresh : ∀ id req pre, l = .came (.request id req) pre →
        c.world.requests = id ∧ id < c'.world.requests := by
      rintro id req pre rfl
      cases st with
      | event _ enabled =>
        cases enabled
        exact ⟨rfl, Nat.lt_succ_self _⟩
    constructor
    · intro id req pre h
      rcases List.mem_cons.mp h with e | h
      · exact (fresh id req pre e.symm).2
      · exact (below id req pre h).trans_le grows
    · intro id req req' pre pre' h h'
      rcases List.mem_cons.mp h with e | h <;> rcases List.mem_cons.mp h' with e' | h'
      · cases e.trans e'.symm
        rfl
      · have new := (fresh id req pre e.symm).1
        exact absurd (below id req' pre' h') (by omega)
      · have new := (fresh id req' pre' e'.symm).1
        exact absurd (below id req pre h) (by omega)
      · exact once id req req' pre pre' h h'

/-- The nonce a request got past with is its own. -/
lemma spent_over {srv c tr} (r : Run (authMachine srv) c tr) {l id nonce req pre} (hl : l ∈ tr)
    (hp : GetsPast id nonce l) (asked : .came (.request id req) pre ∈ tr) : nonce = req.nonce := by
  obtain ⟨later, earlier, e⟩ := List.append_of_mem hl
  obtain ⟨req', pre', asked', names, -⟩ := gets_past_asked r e hp
  have sub : .came (.request id req') pre' ∈ tr := by
    rw [e]
    exact List.mem_append_right _ (List.mem_cons_of_mem _ asked')
  rw [(asked_once r).2 id req req' pre pre' asked sub, names]

/-- A request spent its nonce, in a step of the trace. -/
def Spent (tr : List AuthLabel) (id : Nat) : Prop := ∃ l ∈ tr, ∃ nonce, GetsPast id nonce l

/-- Only an answer adds to the replies. -/
lemma exec_replies {srv s o w id reply} (h : (id, reply) ∈ (exec srv s o w).1.replies) :
    (id, reply) ∈ w.replies ∨ s = .respond id reply := by
  cases s with
  | spend_nonce i req u =>
    rw [exec, spend_nonce_world] at h
    exact .inl h
  | respond i reply' =>
    rcases List.mem_append.mp h with old | new
    · exact .inl old
    · cases List.mem_singleton.mp new
      exact .inr rfl
  | _ =>
    dsimp only [exec, verify_proof_step, proven_step, revoke_by_proof_step] at h
    repeat' split at h
    all_goals exact .inl h

/-- A request that succeeds has spent its nonce. -/
lemma succeeded_spent {srv c tr} (r : Run (authMachine srv) c tr) :
    ∀ id reply, (id, reply) ∈ c.world.replies → reply.succeeds → Spent tr id := by
  suffices h : Holds (fun _ _ s => ∀ id, s.spent = some id → Spent tr id) c ∧
      ∀ id reply, (id, reply) ∈ c.world.replies → reply.succeeds → Spent tr id from h.2
  apply r.induct (I := fun c tr => Holds (fun _ _ s => ∀ id, s.spent = some id → Spent tr id) c ∧
      ∀ id reply, (id, reply) ∈ c.world.replies → reply.succeeds → Spent tr id)
  · exact ⟨Holds.start _, nofun⟩
  · rintro c tr l c' - ⟨pending, replied⟩ st
    have mono : ∀ {id}, Spent tr id → Spent (l :: tr) id := fun ⟨l', hl', h⟩ =>
      ⟨l', List.mem_cons_of_mem _ hl', h⟩
    constructor
    · cases st with
      | @run t s rest o e _ =>
        refine Holds.run (fun t' s' hs' id h => mono (pending t' s' hs' id h)) e
          (fun _ _ _ h => h) ?_
        intro s' hs' id h
        rcases (exec_starts hs').2 id h with old | ⟨req, u, rfl, taken⟩
        · exact mono (pending t s (e ▸ List.mem_cons_self) id old)
        · exact ⟨_, List.mem_cons_self, req.nonce, rfl, rfl, taken⟩
      | @event e _ _ =>
        refine Holds.event (fun t' s' hs' id h => mono (pending t' s' hs' id h))
          (fun _ _ _ h => h) ?_
        intro s' hs' id h
        cases e with
        | request i req =>
          simp only [authMachine, AuthEvent.body] at hs'
          split at hs' <;> (rw [List.mem_singleton.mp hs'] at h; cases h)
        | auth_challenge i =>
          rw [List.mem_singleton.mp hs'] at h
          cases h
        | _ => cases hs'
    · intro id reply h ok
      cases st with
      | @run t s rest o e _ =>
        rcases exec_replies h with old | rfl
        · exact mono (replied id reply old ok)
        · exact mono (pending t _ (e ▸ List.mem_cons_self) id (by simp [AuthSection.spent, ok]))
      | @event e _ _ =>
        cases e <;> exact mono (replied id reply h ok)

/-- **Challenges are used once.** A request that gets past `spend_nonce` asked for it within the
time that a nonce lives, counted from the only step that handed the nonce out, and nobody got past
with that nonce before, whatever became of the proof. So no two requests over one nonce succeed. -/
theorem nonces_once {srv : AuthServer} {c : Snapshot AuthWorld AuthSection AuthTid}
    {tr : List AuthLabel} (r : Run (authMachine srv) c tr) :
    (∀ later l earlier, tr = later ++ l :: earlier → ∀ id nonce, GetsPast id nonce l →
      (∀ l' ∈ earlier, ∀ id', ¬ GetsPast id' nonce l') ∧
        (∃ i ∈ earlier, Issues nonce i) ∧
        ∃ req pre, .came (.request id req) pre ∈ earlier ∧ req.nonce = nonce ∧
          ∀ i ∈ tr, Issues nonce i → l.pre.world.now < i.pre.world.now + NONCE_TTL ∧
            pre.world.now < i.pre.world.now + NONCE_TTL) ∧
      ∀ id id' reply reply' req req' pre pre', (id, reply) ∈ c.world.replies →
        (id', reply') ∈ c.world.replies → reply.succeeds → reply'.succeeds →
        .came (.request id req) pre ∈ tr → .came (.request id' req') pre' ∈ tr →
        req.nonce = req'.nonce → id = id' := by
  constructor
  · intro later l earlier e id nonce hp
    obtain ⟨first, i, hi, issued, young⟩ := gets_past_young r e hp
    obtain ⟨req, pre, asked, names, order⟩ := gets_past_asked r e hp
    refine ⟨first, ⟨i, hi, issued⟩, req, pre, asked, names, ?_⟩
    intro i' hi' issued'
    have sub : i ∈ tr := e ▸ List.mem_append_right _ (List.mem_cons_of_mem _ hi)
    rw [← (run_ledger r).once i sub i' hi' nonce issued issued']
    exact ⟨young, order.trans_lt young⟩
  · intro id id' reply reply' req req' pre pre' h h' ok ok' asked asked' same
    obtain ⟨l, hl, nonce, hp⟩ := succeeded_spent r id reply h ok
    obtain ⟨l', hl', nonce', hp'⟩ := succeeded_spent r id' reply' h' ok'
    have names : nonce = req.nonce := spent_over r hl hp asked
    have names' : nonce' = req'.nonce := spent_over r hl' hp' asked'
    have hp' : GetsPast id' nonce l' := by rwa [names, same, ← names']
    exact gets_past_once r hl hl' hp hp'

/-- Two requests over one nonce: the first to spend it sets its handle, the other gets no session.
-/
theorem nonces_once_raced : ∃ srv c tr later l earlier nonce, Run (authMachine srv) c tr ∧
    tr = later ++ l :: earlier ∧ GetsPast 2 nonce l ∧ (2, .handle "Alice") ∈ c.world.replies ∧
    (1, bad_nonce) ∈ c.world.replies ∧ ∀ l' ∈ earlier, ∀ id', ¬ GetsPast id' nonce l' := by
  let p := "6b0f1e52-3c1d-4a86-9a53-0d5f6f1c2a11"
  let nonce := "5f3a5f3a5f3a5f3a5f3a5f3a5f3a5f3a5f3a5f3a5f3a5f3a"
  let key := "e2ed0b421389d50ed671d6f9e251e738f006fdf1e8eca22a066790b77244e24b"
  let proof := "46ddecd5ce66fad0880a7ea3b85225e784bf666baae02e5831e13fe7e941e7aa"
  let srv : AuthServer :=
    { parse_uuid := some, expected_proof := fun k n => if k = key && n = nonce then proof else "" }
  let o : AuthAnswer := { player := some ⟨"alice", "alice"⟩ }
  let turn (id : Nat) : Interleave.Move AuthTid AuthAnswer AuthEvent := .run (.request id) o
  let ms : List (Interleave.Move AuthTid AuthAnswer AuthEvent) :=
    [.event (.new_key ⟨p, key, false⟩), .event (.auth_challenge 0),
      .run (.request 0) { random_code := nonce }, turn 0, .event (.pass (30 * NANOS)),
      .event (.request 1 (.session_from_secret ⟨p, nonce, proof, false⟩)),
      .event (.request 2 (.set_handle ⟨p, nonce, proof, "Alice"⟩)),
      turn 2, turn 1, turn 1, turn 2, turn 2, turn 2, turn 2, turn 2]
  have h : ((authMachine srv).follow ms).any fun x =>
      x.2.any (fun l => GetsPast 2 nonce l) && (2, .handle "Alice") ∈ x.1.world.replies &&
        (1, bad_nonce) ∈ x.1.world.replies := by decide
  obtain ⟨c, tr, r, ht, -⟩ := Machine.follow_reaches h
  obtain ⟨ht, refused⟩ := (Bool.and_eq_true _ _).mp ht
  obtain ⟨ht, taken⟩ := (Bool.and_eq_true _ _).mp ht
  obtain ⟨l, hl, hp⟩ := List.any_eq_true.mp ht
  have hp := of_decide_eq_true hp
  obtain ⟨later, earlier, e⟩ := List.append_of_mem hl
  exact ⟨srv, c, tr, later, l, earlier, nonce, r, e, hp, of_decide_eq_true taken,
    of_decide_eq_true refused, ((nonces_once r).1 later l earlier e 2 nonce hp).1⟩

end RecompNet.Auth
