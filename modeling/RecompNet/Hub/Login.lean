import RecompNet.Hub.Calls
import RecompNet.Hub.Origin
import RecompNet.Hub.Passes

/-!
# A closed server

What a connection hears that never signed in, on a server that requires a login. The gate of
`handle_text` keeps its own messages out, and the rooms, the queue and the lists leave it out. A line of
`server_chat` and the answer to a swap do not look at who hears them, and neither does the reply to a
WebSocket ping.
-/

namespace RecompNet

open Section Interleave

/-- On a server that requires a login, in a run whose steps keep guests apart, a connection that was
never signed in is sent welcomes, errors, pongs and the answers to its own `hello`s, and nothing else. -/
theorem guests_hear_their_own {srv c tr} (r : HubRun srv c tr) (hl : srv.require_login)
    (hg : ∀ l ∈ tr, GuestsApart srv l) {q} (never : ∀ s ∈ visited c tr, ¬ s.world.hub.authed q)
    {m} (hm : (q, m) ∈ c.world.sent) :
    m.to_guests ∧ ∀ n, m = .hello_ok n →
      ∃ ip msg o pre, .ran (.conn q) (dispatch q ip msg) o pre ∈ tr ∧ msg.op = .hello := by
  refine ⟨?_, fun n e => HubRun.hello_ok_origin r (e ▸ hm)⟩
  obtain ⟨l, hmem, hf⟩ := (HubRun.mem_sent r).mp hm
  have guest : ¬ l.pre.world.hub.authed q := never _ (pre_visited hmem)
  obtain ⟨hc, hfrom⟩ := mem_frames hf
  rcases hfrom with ⟨t, o, pre, rfl⟩ | ⟨t, o, pre, rfl, hb⟩ | rfl | ⟨-, pre, rfl⟩
  · obtain ⟨rest, earlier, r', sub, e⟩ := Run.ran_pending r hmem
    have apart : ∀ l ∈ earlier, True → GuestsApart srv l := fun l hl _ => hg l (sub hl)
    have known := (HubRun.known r' apart).2 t _ (e ▸ List.mem_cons_self)
    rcases known trivial with safe | hto
    · exact absurd (safe hl hc) guest
    · exact hto
  · obtain ⟨id, hid, e⟩ := List.mem_map.mp hb
    obtain ⟨rfl, -⟩ := Prod.mk.inj e
    have listed := List.of_mem_filter hid
    have signed : pre.world.hub.authed id := by simpa [hl] using listed
    exact absurd signed guest
  · rfl
  · exact absurd (hg _ hmem) guest

def closedServer : Server := { sampleServer with require_login := true }

/-- A connection that never signs in. -/
def guest : String := "c4d1c1a0-5f0e-4a53-8d43-9f4b1f7f3b22"

/-- A guest names the title that a signed-in player then chats in. -/
def eavesdrop : List Move :=
  let p := "6b0f1e52-3c1d-4a86-9a53-0d5f6f1c2a11"
  let o := draw "1f8a9f0e-7d2b-4b57-8f6f-2f6f2b0c9d01"
  let game_name := some "Example Game"
  [.event (.connect guest "198.51.100.4")] ++ steps (.conn guest) 1 o ++
    [say guest { op := .hello, game_name }] ++ steps (.conn guest) 4 o ++ signIn p alice o ++
    [say p { op := .server_chat, text := some "anyone for a match?", game_name }] ++
    steps (.conn p) 4 o

/-- Did the guest hear more than a guest may, without ever being signed in? -/
def overheard (x : HubSnapshot × List HubLabel) : Bool :=
  (visited x.1 x.2).all (fun s => !s.world.hub.authed guest) &&
    x.1.world.sent.any fun f => f.1 = guest && !f.2.to_guests

/-- Does the step keep guests apart, when only the tasks `ts` have anything to run? -/
def guestsApart (ts : List Tid) : HubLabel → Bool
  | .ran _ (dispatch p _ msg) _ pre =>
    let g := pre.world.hub
    let titled := g.recordTitle p (Text.nonempty msg.game_name)
    (msg.op ≠ .server_chat || (g.clients.keys.all fun q =>
      game_scope_for titled q ≠ game_scope_for titled p || g.authed q)) &&
    (msg.op ≠ .seat_swap_answer || g.authed (msg.asker_player_id.getD ""))
  | .came (.ws_ping p) pre => pre.world.hub.authed p
  | .came (.connect p _) pre => ts.all fun t => (pre.pending t).all fun
    | send_to q _ => q ≠ p
    | _ => true
  | _ => true

lemma guestsApart_sound {srv ts l} (h : guestsApart ts l)
    (idle : ∀ t ∉ ts, l.pre.pending t = []) : GuestsApart srv l := by
  cases l with
  | ran t s o pre =>
    cases s with
    | dispatch p ip msg =>
      obtain ⟨chat, swap⟩ := (Bool.and_eq_true _ _).mp h
      constructor
      · intro op _ _ q hq scope
        have each := List.all_eq_true.mp (((Bool.or_eq_true _ _).mp chat).resolve_left (by simp [op]))
          q (AList.lookup_isSome.mp hq)
        simpa [scope] using each
      · intro op _ _
        simpa [op] using swap
    | _ => trivial
  | came e pre =>
    cases e with
    | connect p ip =>
      intro t m hm
      by_cases ht : t ∈ ts
      · have other := List.all_eq_true.mp (List.all_eq_true.mp h t ht) _ hm
        simp at other
      · have none : pre.pending t = [] := idle t ht
        rw [none] at hm
        cases hm
    | ws_ping p => exact h
    | _ => trivial

/-- A guest says hello, tries to create a room and pings, while two players sign in, share a room, chat in
their title, answer a swap and ping. -/
def keptApart (p q room : String) : List Move :=
  let o := draw "9b1deb4d-3b7d-4bad-9bdd-2b0d7b3dcb6d"
  let game_name := some "Example Game"
  [.event (.connect guest "198.51.100.4")] ++ steps (.conn guest) 1 o ++
    [say guest { op := .hello, game_name := some "Other Game" }] ++ steps (.conn guest) 4 o ++
    [say guest { op := .create }] ++ steps (.conn guest) 1 o ++ signIn p alice o ++ signIn q bob o ++
    [say p { op := .create }] ++ steps (.conn p) 3 (draw room) ++ steps (.conn p) 2 o ++
    [say q { op := .join, lobby_id := some room }] ++ steps (.conn q) 13 o ++
    [say p { op := .server_chat, text := some "anyone for a match?", game_name }] ++
    steps (.conn p) 3 o ++
    [say q { op := .server_chat, text := some "sure", game_name }] ++ steps (.conn q) 4 o ++
    [say p { op := .seat_swap_answer, asker_player_id := some q, accept := some false }] ++
    steps (.conn p) 3 o ++ [.event (.ws_ping q), say guest { op := .ping }] ++
    steps (.conn guest) 3 o

def greets : HubLabel → Bool
  | .ran (.conn g) (dispatch g' _ msg) _ _ => g = guest && g' = guest && msg.op = .hello
  | _ => false

def pings (q : String) : HubLabel → Bool
  | .came (.ws_ping q') _ => q' = q
  | _ => false

def ponged : String × OutMsg → Bool
  | (g, .pong) => g = guest
  | _ => false

def swapAnswered (q : String) : String × OutMsg → Bool
  | (q', .seat_swap_result _) => q' = q
  | _ => false

/-- A guest that said hello and pinged hears no line, no answer to a swap and no ping of the others. -/
theorem guests_hear_their_own_answers : ∃ c tr p q, HubRun closedServer c tr ∧
    (∃ ip msg o pre, .ran (.conn guest) (dispatch guest ip msg) o pre ∈ tr ∧ msg.op = .hello) ∧
    (guest, .pong) ∈ c.world.sent ∧
    (∃ x ∈ c.world.sent, x.1 = p ∧ x.2.kind = .server_chat) ∧
    (∃ accept, (q, .seat_swap_result accept) ∈ c.world.sent) ∧ (∃ pre, .came (.ws_ping q) pre ∈ tr) ∧
    ∀ m, (guest, m) ∈ c.world.sent → m.to_guests ∧ ∀ n, m = .hello_ok n →
      ∃ ip msg o pre, .ran (.conn guest) (dispatch guest ip msg) o pre ∈ tr ∧ msg.op = .hello := by
  let p := "6b0f1e52-3c1d-4a86-9a53-0d5f6f1c2a11"
  let q := "5e2c7f3a-9a41-4c0e-8b64-7a1f0d3c9b33"
  let room := "1f8a9f0e-7d2b-4b57-8f6f-2f6f2b0c9d01"
  let ts : List Tid := [.conn guest, .conn p, .conn q]
  let test : HubSnapshot × List HubLabel → Bool := fun x =>
    x.2.any greets && x.1.world.sent.any ponged &&
    (x.1.world.sent.any fun f => f.1 = p && f.2.kind = .server_chat) &&
    x.1.world.sent.any (swapAnswered q) && x.2.any (pings q) &&
    (visited x.1 x.2).all (!·.world.hub.authed guest) && x.2.all (guestsApart ts)
  have movers : ∀ m ∈ keptApart p q room, (hubMachine closedServer).mover m ∈ ts := by decide
  have h : ((hubMachine closedServer).follow (keptApart p q room)).any test := by decide +kernel
  obtain ⟨c, tr, r, ht, idle⟩ := Machine.follow_idle movers h
  simp only [test, Bool.and_eq_true] at ht
  obtain ⟨⟨⟨⟨⟨⟨hello, pong⟩, chatted⟩, swapped⟩, pinged⟩, unsigned⟩, apart⟩ := ht
  have never : ∀ s ∈ visited c tr, ¬ s.world.hub.authed guest := by
    simpa [List.all_eq_true] using unsigned
  have keeps : ∀ l ∈ tr, GuestsApart closedServer l := fun l hl =>
    guestsApart_sound (List.all_eq_true.mp apart l hl) (idle _ (pre_visited hl))
  refine ⟨c, tr, p, q, r, ?_, ?_, ?_, ?_, ?_,
    fun m hm => guests_hear_their_own r rfl keeps never hm⟩
  · obtain ⟨l, hl, hello⟩ := List.any_eq_true.mp hello
    unfold greets at hello
    split at hello
    · simp only [Bool.and_eq_true, decide_eq_true_eq] at hello
      obtain ⟨⟨rfl, rfl⟩, op⟩ := hello
      exact ⟨_, _, _, _, hl, op⟩
    · cases hello
  · obtain ⟨x, hx, pong⟩ := List.any_eq_true.mp pong
    unfold ponged at pong
    split at pong
    · exact of_decide_eq_true pong ▸ hx
    · cases pong
  · obtain ⟨x, hx, chat⟩ := List.any_eq_true.mp chatted
    exact ⟨x, hx, by simpa using chat⟩
  · obtain ⟨x, hx, swapped⟩ := List.any_eq_true.mp swapped
    unfold swapAnswered at swapped
    split at swapped
    · exact ⟨_, of_decide_eq_true swapped ▸ hx⟩
    · cases swapped
  · obtain ⟨l, hl, pinged⟩ := List.any_eq_true.mp pinged
    unfold pings at pinged
    split at pinged
    · exact ⟨_, of_decide_eq_true pinged ▸ hl⟩
    · cases pinged

/-- A guest hears the chat of a title that it named in a `hello`. -/
theorem eavesdrop_overheard :
    ¬ ∀ c tr, HubRun closedServer c tr → ∀ q, (∀ s ∈ visited c tr, ¬ s.world.hub.authed q) →
      ∀ m, (q, m) ∈ c.world.sent → m.to_guests := by
  intro all
  have h : ((hubMachine closedServer).follow eavesdrop).any overheard := by decide +kernel
  obtain ⟨c, tr, r, ht, -⟩ := Machine.follow_reaches h
  obtain ⟨hnever, hsent⟩ := (Bool.and_eq_true _ _).mp ht
  obtain ⟨⟨q, m⟩, hm, hq⟩ := List.any_eq_true.mp hsent
  simp only [Bool.and_eq_true, decide_eq_true_eq, Bool.not_eq_true'] at hq
  obtain ⟨rfl, hg⟩ := hq
  have quiet : ∀ s ∈ visited c tr, ¬ s.world.hub.authed guest := by
    simpa [List.all_eq_true] using hnever
  have heard := all c tr r guest quiet m hm
  rw [hg] at heard
  cases heard

end RecompNet
