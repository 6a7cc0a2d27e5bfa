import RecompNet.Auth.Challenge
import RecompNet.Auth.LoginStore

/-!
# Accounts

Logins with Discord and logins with a device key, over one database (`discord_auth.rs`, `identity.rs`,
`secrets.rs` and their routes). A browser login asks Discord, links the profile to a row of `players`,
issues a key and leaves the result for the launcher to poll. The device requests are those of the
challenge machine, with the rows of `players` in place of an arbitrary answer. Each query is a section,
so that other logins and requests go on between two queries of one. What Discord and the database answer
is arbitrary.
-/

namespace RecompNet.Auth

open Interleave

/-! ## The database -/

/-- A row of `players`. -/
structure PlayerRecord where
  id : String
  discord_id : Option String := none
  discord_username : Option String := none
  discord_global_name : Option String := none
  netplay_handle : Option String := none
  deriving DecidableEq

/-- A player as the lobby needs to see them. -/
structure Player where
  id : String
  discord_id : String
  discord_username : String
  handle : String
  deriving DecidableEq

abbrev PlayerTable := List PlayerRecord

namespace PlayerTable

def by_discord (ps : PlayerTable) (discord_id : String) : Option PlayerRecord :=
  ps.find? (·.discord_id = some discord_id)

def by_id (ps : PlayerTable) (id : String) : Option PlayerRecord := ps.find? (·.id = id)

/-- The id is the primary key, and no two rows have the same `discord_id` unless it is null. -/
def clashes (row r : PlayerRecord) : Bool :=
  r.id = row.id || r.discord_id.isSome && r.discord_id = row.discord_id

def insert (ps : PlayerTable) (row : PlayerRecord) : Option PlayerTable :=
  if ps.any (clashes row) then none else some (ps ++ [row])

def update (ps : PlayerTable) (which : PlayerRecord → Bool) (f : PlayerRecord → PlayerRecord) :
    PlayerTable :=
  ps.map fun r => if which r then f r else r

/-- A row without a handle is not an account. -/
def load_player (ps : PlayerTable) (id : String) : Option PlayerRow :=
  (ps.by_id id).bind fun r => (Text.nonempty r.netplay_handle).map fun handle =>
    { handle, discord_username := r.discord_username.getD "" }

end PlayerTable

/-! ## Discord -/

structure DiscordConfig where
  discord_client_id : Option String := none
  discord_client_secret : Option String := none
  discord_redirect_url : Option String := none
  discord_guild_id : Option String := none
  discord_required : Bool := false

/-- The first setting that `complete` misses. -/
def DiscordConfig.missing (cfg : DiscordConfig) : Option String :=
  if cfg.discord_client_id.isNone then some "DISCORD_CLIENT_ID not set"
  else if cfg.discord_client_secret.isNone then some "DISCORD_CLIENT_SECRET not set"
  else if cfg.discord_redirect_url.isNone then some "DISCORD_REDIRECT_URL not set"
  else none

def DISCORD_API : String := "https://discord.com/api/v10"

/-- Two upper-case digits. -/
def hexByte (b : Nat) : String :=
  String.ofList [(Nat.digitChar (b / 16)).toUpper, (Nat.digitChar (b % 16)).toUpper]

/-- Minimal percent-encoding. -/
def urlencode (s : String) : String :=
  String.join (s.toUTF8.toList.map fun b =>
    let c := Char.ofNat b.toNat
    if c.isAlphanum || c ∈ ['-', '_', '.', '~'] then c.toString else "%" ++ hexByte b.toNat)

/-- The URL the launcher opens, or the setting that is missing. -/
def authorize_url (cfg : DiscordConfig) (state : String) : Except String String :=
  match cfg.discord_client_id, cfg.discord_redirect_url with
  | none, _ => .error "DISCORD_CLIENT_ID not set"
  | some _, none => .error "DISCORD_REDIRECT_URL not set"
  | some id, some redirect =>
    let scope := if cfg.discord_guild_id.isSome then "identify%20guilds.members.read" else "identify"
    .ok (DISCORD_API ++ "/oauth2/authorize?client_id=" ++ id ++
      "&response_type=code&redirect_uri=" ++ urlencode redirect ++ "&scope=" ++ scope ++ "&state=" ++ state)

/-- Why Discord gave no profile. -/
inductive DiscordFault where
  | token_unreachable | code_rejected | bad_token_response
  | profile_unreachable | profile_refused | bad_profile_response
  deriving DecidableEq

def DiscordFault.text : DiscordFault → String
  | token_unreachable => "discord_unreachable: token exchange"
  | code_rejected =>
    "discord_rejected_code: check DISCORD_CLIENT_SECRET and that DISCORD_REDIRECT_URL " ++
      "matches the portal exactly"
  | bad_token_response => "discord_bad_token_response"
  | profile_unreachable => "discord_unreachable: users/@me"
  | profile_refused => "discord_refused_profile"
  | bad_profile_response => "discord_bad_profile_response"

/-- The profile, once guild membership is enforced where it is configured. The guild endpoint may be out
of reach, or say whether the player is a member. -/
def confirmed (cfg : DiscordConfig) (me : Except DiscordFault Identity.DiscordProfile)
    (guild : Option Bool) : Except String Identity.DiscordProfile :=
  match me with
  | .error e => .error e.text
  | .ok p =>
    if cfg.discord_guild_id.isNone then .ok p
    else
      match guild with
      | none => .error "discord guild membership"
      | some false => .error "not_in_guild"
      | some true => .ok p

/-! ## The server -/

structure AccountServer extends AuthServer where
  config : DiscordConfig := {}
  /-- `secrets::hash`. -/
  hash : String → String

/-- The query of `discord_callback`. -/
structure DiscordCallback where
  code : Option String := none
  state : Option String := none
  error : Option String := none

/-- What a person reads in the browser. -/
inductive Page where
  | login_cancelled | no_code | not_a_member
  | signed_in (handle : String)
  | login_failed (code : String)
  deriving DecidableEq

/-- The page for what `on_callback` comes to. Of an error it shows what stands before the first colon. -/
def Page.of : LoginResult → Page
  | .ok done => signed_in done.handle
  | .error e =>
    if e = "not_in_guild" then not_a_member
    else login_failed (String.ofList (e.toList.takeWhile (· ≠ ':')))

/-- What the login routes answer. -/
inductive LoginReply where
  | started (code url : String)
  | unavailable (text : String)
  | page (p : Page)
  | completed (done : Completed)
  | failed (code : String)
  | pending
  | player_created (player_id : String)
  | login_required
  | internal

/-- What the requests share: the state of the device logins with the keys and the clock, the logins in
flight, the players, and the answers with the number of their request. -/
structure AccountWorld where
  auth : AuthWorld := {}
  login : LoginWorld := {}
  players : PlayerTable := []
  replies : List (Nat × LoginReply) := []

/-- What the outside answers to a section, with what Discord says and what is drawn. -/
structure AccountAnswer extends AuthAnswer where
  me : Except DiscordFault Identity.DiscordProfile := .error .token_unreachable
  guild : Option Bool := none
  uuid : String := ""
  secret : String := ""
  sign_error : String := "JWT signing is not configured (set JWT_SECRET_CURRENT)"

/-- A critical section with the locals it carries: one of a device request about the player `uuid`, or
one of a login request of number `id`. -/
inductive AccountSection where
  | device (s : AuthSection) (uuid : String)
  | discord_start (id : Nat)
  | exchange (id : Nat) (pairing code : String)
  | select_player (id : Nat) (pairing : String) (p : Identity.DiscordProfile)
  | refresh_names (id : Nat) (pairing : String) (p : Identity.DiscordProfile) (player_id : String)
      (netplay_handle : Option String)
  | fill_handle (id : Nat) (pairing : String) (p : Identity.DiscordProfile) (player_id : String)
  | insert_player (id : Nat) (pairing : String) (p : Identity.DiscordProfile)
  | issue_key (id : Nat) (pairing : String) (player : Player)
  | finish (id : Nat) (pairing : String) (outcome : LoginResult) (page : Page)
  | discord_poll (id : Nat) (code : String)
  | create_player (id : Nat)

open AccountSection

abbrev AccountStep := AccountWorld × List AccountSection

def AccountWorld.reply (w : AccountWorld) (id : Nat) (r : LoginReply) : AccountWorld :=
  { w with replies := w.replies ++ [(id, r)] }

/-- Leave the result of `complete` under the pairing code. -/
def finished (id : Nat) (pairing : String) (outcome : LoginResult) : List AccountSection :=
  [finish id pairing outcome (.of outcome)]

def linking_failed : LoginResult := .error "database: linking the Discord account"
def issuing_failed : LoginResult := .error "database: issuing the device key"

def signing_failed (e : String) : LoginResult :=
  .error ("session_signing: " ++ e ++
    " -- set JWT_SECRET_CURRENT; a Discord login cannot be completed without it")

/-- What a device section is answered: the player row is that of the table. -/
def AccountAnswer.device (o : AccountAnswer) (w : AccountWorld) (uuid : String) : AuthAnswer :=
  { o.toAuthAnswer with player := if o.db_ok then w.players.load_player uuid else none }

/-- The table after a device section. -/
def devicePlayers (s : AuthSection) (uuid : String) (o : AccountAnswer) (ps : PlayerTable) :
    PlayerTable :=
  match s with
  | .store_handle _ handle =>
    if o.db_ok then ps.update (·.id = uuid) ({ · with netplay_handle := some handle }) else ps
  | _ => ps

def device_step (srv : AccountServer) (s : AuthSection) (uuid : String) (o : AccountAnswer)
    (w : AccountWorld) : AccountStep :=
  let (auth, started) := exec srv.toAuthServer s (o.device w uuid) w.auth
  ({ w with auth, players := devicePlayers s uuid o w.players }, started.map (device · uuid))

/-- The row of a new account. -/
def newPlayer (srv : AccountServer) (uuid : String) (p : Identity.DiscordProfile) : PlayerRecord where
  id := uuid
  discord_id := some p.id
  discord_username := some p.username
  discord_global_name := p.global_name
  netplay_handle := some (Identity.default_handle_for srv.apply p)

/-- Sign the session and store the key; the key itself is only in the result. -/
def issue_key_step (srv : AccountServer) (o : AccountAnswer) (w : AccountWorld) (id : Nat)
    (pairing : String) (player : Player) : AccountStep :=
  match o.session with
  | none => (w, finished id pairing (signing_failed o.sign_error))
  | some session =>
    let key := srv.hash o.secret
    if o.db_ok && !w.auth.secrets.any (·.secret_hash = key) then
      ({ w with auth := { w.auth with
          secrets := w.auth.secrets ++ [{ player_id := player.id, secret_hash := key }] } },
        finished id pairing (.ok {
          session
          netplay_secret := o.secret
          player_id := player.id
          handle := player.handle
          discord_username := player.discord_username }))
    else (w, finished id pairing issuing_failed)

/-- What a poll is answered. -/
def LoginReply.of : Option LoginResult → LoginReply
  | some (.ok done) => completed done
  | some (.error e) => failed e
  | none => pending

/-- Run a critical section. -/
def accountExec (srv : AccountServer) (s : AccountSection) (o : AccountAnswer) (w : AccountWorld) :
    AccountStep :=
  match s with
  | device s uuid => device_step srv s uuid o w
  | discord_start id =>
    let now := w.auth.now
    let w := { w with login := (LoginCall.begin (fun _ => now) now o.random_code).exec w.login }
    match authorize_url srv.config o.random_code with
    | .ok url => (w.reply id (.started o.random_code url), [])
    | .error text => (w.reply id (.unavailable text), [])
  | exchange id pairing _ =>
    match confirmed srv.config o.me o.guild with
    | .ok p => (w, [select_player id pairing p])
    | .error e => (w, finished id pairing (.error e))
  | select_player id pairing p =>
    if !o.db_ok then (w, finished id pairing linking_failed)
    else
      match w.players.by_discord p.id with
      | some row => (w, [refresh_names id pairing p row.id row.netplay_handle])
      | none => (w, [insert_player id pairing p])
  | refresh_names id pairing p player_id netplay_handle =>
    if !o.db_ok then (w, finished id pairing linking_failed)
    else
      let w := { w with players := w.players.update (·.discord_id = some p.id) ({ · with
        discord_username := some p.username
        discord_global_name := p.global_name }) }
      match Text.nonempty netplay_handle with
      | some h => (w, [issue_key id pairing ⟨player_id, p.id, p.username, h⟩])
      -- A row that was somehow blanked.
      | none => (w, [fill_handle id pairing p player_id])
  | fill_handle id pairing p player_id =>
    if !o.db_ok then (w, finished id pairing linking_failed)
    else
      let h := Identity.default_handle_for srv.apply p
      ({ w with players := w.players.update (·.discord_id = some p.id) ({ · with
          netplay_handle := some h }) },
        [issue_key id pairing ⟨player_id, p.id, p.username, h⟩])
  | insert_player id pairing p =>
    let row := newPlayer srv o.uuid p
    match if o.db_ok then w.players.insert row else none with
    | some players =>
      ({ w with players }, [issue_key id pairing
        ⟨o.uuid, p.id, p.username, Identity.default_handle_for srv.apply p⟩])
    | none => (w, finished id pairing linking_failed)
  | issue_key id pairing player => issue_key_step srv o w id pairing player
  | finish id pairing outcome page =>
    let w := { w with login := (LoginCall.finish w.auth.now pairing outcome).exec w.login }
    (w.reply id (.page page), [])
  | discord_poll id code =>
    let result := (LoginStore.take w.login.logins w.auth.now code).2
    let w := { w with login := (LoginCall.take w.auth.now code).exec w.login }
    (w.reply id (.of result), [])
  | create_player id =>
    if srv.config.discord_required then (w.reply id .login_required, [])
    else
      match if o.db_ok then w.players.insert { id := o.uuid } else none with
      | some players => ({ w with players }.reply id (.player_created o.uuid), [])
      | none => (w.reply id .internal, [])

/-- The tasks: those of the challenge machine, and the login requests by number. -/
inductive AccountTid where
  | device (t : AuthTid)
  | browser (id : Nat)
  deriving DecidableEq

/-- What happens from outside. -/
inductive AccountEvent where
  | device (e : AuthEvent)
  | discord_start (id : Nat)
  | discord_callback (id : Nat) (q : DiscordCallback)
  | discord_poll (id : Nat) (code : String)
  | create_player (id : Nat)

/-- The first section of a callback: it lands with an error at once, or asks Discord. -/
def DiscordCallback.body (srv : AccountServer) (id : Nat) (q : DiscordCallback) :
    List AccountSection :=
  let pairing := q.state.getD ""
  match q.error, q.code with
  | some err, _ => [finish id pairing (.error err) .login_cancelled]
  | none, none => [finish id pairing (.error "no_code") .no_code]
  | none, some code =>
    match srv.config.missing with
    | some text => finished id pairing (.error text)
    | none => [exchange id pairing code]

namespace AccountEvent

def task : AccountEvent → AccountTid
  | device e => .device e.task
  | discord_start id | discord_callback id _ | discord_poll id _ | create_player id => .browser id

/-- A key comes from a login only. -/
def enabled (w : AccountWorld) : AccountEvent → Prop
  | device (.new_key _) => False
  | device e => e.enabled w.auth
  | discord_start _ | discord_callback _ _ | discord_poll _ _ | create_player _ => True

def apply (w : AccountWorld) : AccountEvent → AccountWorld
  | device e => { w with auth := e.apply w.auth }
  | create_player _ | discord_start _ | discord_callback _ _ | discord_poll _ _ => w

/-- The player that a device request is about. -/
def subject (srv : AccountServer) : AuthEvent → String
  | .request _ req => (srv.parse_uuid req.player_id).getD ""
  | _ => ""

def body (srv : AccountServer) : AccountEvent → List AccountSection
  | device e => (e.body srv.toAuthServer).map (.device · (subject srv e))
  | discord_start id => [.discord_start id]
  | discord_callback id q => q.body srv id
  | discord_poll id code => [.discord_poll id code]
  | create_player id => [.create_player id]

end AccountEvent

/-- What a server finds in its database when it starts. -/
structure Database where
  players : PlayerTable := []
  secrets : List SecretRow := []

def Database.world (db : Database) : AccountWorld :=
  { auth := { secrets := db.secrets }, players := db.players }

/-- The login and device routes as a machine, on the assumption that `random_code` never repeats. -/
def accountMachine (srv : AccountServer) (db : Database) :
    Machine AccountWorld AccountSection AccountTid AccountAnswer AccountEvent where
  start := db.world
  exec := accountExec srv
  answers := fun o w => o.random_code ∉ w.auth.codes ∧ o.random_code ∉ w.login.codes
  task := AccountEvent.task
  enabled := fun e w => e.enabled w
  apply := fun e w => e.apply w
  body := fun e _ => e.body srv

instance (srv : AccountServer) (db : Database) (o : AccountAnswer) (w : AccountWorld) :
    Decidable ((accountMachine srv db).answers o w) := by
  unfold accountMachine
  infer_instance

instance (srv : AccountServer) (db : Database) (e : AccountEvent) (w : AccountWorld) :
    Decidable ((accountMachine srv db).enabled e w) :=
  match e with
  | .device (.auth_challenge id) => inferInstanceAs (Decidable (id = w.auth.requests))
  | .device (.request id _) => inferInstanceAs (Decidable (id = w.auth.requests))
  | .device (.new_key _) => .isFalse not_false
  | .device (.pass _) => .isTrue trivial
  | .discord_start _ => .isTrue trivial
  | .discord_callback _ _ => .isTrue trivial
  | .discord_poll _ _ => .isTrue trivial
  | .create_player _ => .isTrue trivial

/-! ## A sample server -/

/-- A server with Discord set up, for the samples below. -/
def sampleAccounts : AccountServer where
  parse_uuid := some
  expected_proof := fun key nonce => key ++ nonce
  hash := fun secret => "sha256 of " ++ secret
  config := {
    discord_client_id := some "123"
    discord_client_secret := some "secret"
    discord_redirect_url := some "https://x.example/auth/discord/callback"
    discord_guild_id := some "999" }

abbrev AccountMove := Interleave.Move AccountTid AccountAnswer AccountEvent

def reimu : Identity.DiscordProfile where
  id := "123456789012345678"
  username := "reimu_h"
  global_name := some "Reimu"

/-- The same account, with other names. -/
def renamed : Identity.DiscordProfile :=
  { reimu with username := "marisa_k", global_name := some "Marisa" }

/-- What the outside answers to a login: Discord confirms the player, and the rest succeeds. -/
def loginAnswer (p : Identity.DiscordProfile) (n : String) : AccountAnswer where
  me := .ok p
  guild := some true
  session := some ("jwt" ++ n)
  uuid := "player" ++ n
  secret := "rnp_" ++ n

/-- A login is started, and the callback comes with its code. -/
def loginBegins (id : Nat) (n : String) : List AccountMove :=
  [.event (.discord_start id), .run (.browser id) { random_code := "code" ++ n },
    .event (.discord_callback id { code := some "oauth", state := some ("code" ++ n) })]

/-- Some sections of login number `id`. -/
def loginGoesOn (id : Nat) (p : Identity.DiscordProfile) (n : String) (k : Nat) :
    List AccountMove :=
  List.replicate k (.run (.browser id) (loginAnswer p n))

/-- Two first logins of Reimu, the second of which fills the table before the first does. -/
def racingLogins : List AccountMove :=
  loginBegins 1 "1" ++ loginBegins 2 "2" ++ loginGoesOn 1 reimu "1" 2 ++
    loginGoesOn 2 reimu "2" 3 ++ loginGoesOn 1 reimu "1" 1

/-- A login of Reimu from its start to the poll. -/
def polledLogin : List AccountMove :=
  loginBegins 1 "1" ++ loginGoesOn 1 reimu "1" 5 ++ [.event (.discord_poll 1 "code1")] ++
    loginGoesOn 1 reimu "1" 1

/-- A proof by the key of that login, over the first nonce. -/
def reimuProof (all : Bool) : ProofReq where
  player_id := "player1"
  nonce := "nonce"
  proof := "sha256 of rnp_1nonce"
  all := all

/-- The device asks for a nonce, and then with a request, of which some sections are run. -/
def deviceAsks (req : AuthRequest) (k : Nat) : List AccountMove :=
  [.event (.device (.auth_challenge 0)), .run (.device (.request 0)) { random_code := "nonce" },
    .event (.device (.request 1 req))] ++
    List.replicate k (.run (.device (.request 1)) { session := some "jwt" })

end RecompNet.Auth
