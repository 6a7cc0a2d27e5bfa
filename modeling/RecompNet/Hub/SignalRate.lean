import RecompNet.Hub.RowEdit
import RecompNet.Lib.TokenBucket

/-!
# The rate of signals

`SignalBucket::allow` in exact arithmetic is the token bucket of the library, with seconds for its time.
Each connection has one bucket, made when it connects, and `signal` and `probe_signal` take from it, so
the calls of a connection over a run are the calls of one bucket.
-/

namespace RecompNet

open Section Interleave TokenBucket

/-- An instant in seconds. -/
def secs (t : Instant) : ℚ := t / NANOS

lemma secs_mono {s t : Instant} (h : s ≤ t) : secs s ≤ secs t :=
  div_le_div_of_nonneg_right (Nat.cast_le.mpr h) (Nat.cast_nonneg _)

namespace SignalBucket

/-- The calls of a bucket at some times, each with what it returns. -/
def calls : SignalBucket → List Instant → List (Instant × Bool)
  | _, [] => []
  | b, t :: ts => (t, (b.allow t).2) :: calls (b.allow t).1 ts

/-- The bucket after some calls. -/
def after (b : SignalBucket) (ts : List Instant) : SignalBucket :=
  ts.foldl (fun b t => (b.allow t).1) b

lemma calls_snoc {b : SignalBucket} {ts : List Instant} {t : Instant} :
    b.calls (ts ++ [t]) = b.calls ts ++ [(t, ((b.after ts).allow t).2)] := by
  induction ts generalizing b with
  | nil => rfl
  | cons u ts ih =>
    rw [List.cons_append, calls, calls, ih, List.cons_append]
    rfl

lemma after_snoc {b : SignalBucket} {ts : List Instant} {t : Instant} :
    b.after (ts ++ [t]) = ((b.after ts).allow t).1 := List.foldl_concat ..

/-- The tokens when a call is made, after the refill. -/
def refilled (b : SignalBucket) (now : Instant) : ℚ :=
  match b.last with
  | none => b.tokens
  | some last => min (b.tokens + ((now - last : Nat) : ℚ) / NANOS * SIGNAL_PER_SEC) SIGNAL_BURST

lemma allow_eq (b : SignalBucket) (now : Instant) : b.allow now =
    if 1 ≤ b.refilled now then ({ tokens := b.refilled now - 1, last := some now }, true)
    else ({ tokens := b.refilled now, last := some now }, false) := rfl

lemma allow_last {b : SignalBucket} {t : Instant} : (b.allow t).1.last = some t := by
  rw [allow_eq]
  split <;> rfl

/-- The bucket as the library has it. -/
def bucket (b : SignalBucket) : Bucket ℚ := ⟨b.tokens, b.last.map secs⟩

/-- While time does not go back, a call takes a token of that bucket. -/
lemma allow_take {b : SignalBucket} {t : Instant} (later : ∀ last ∈ b.last, last ≤ t) :
    take SIGNAL_BURST SIGNAL_PER_SEC b.bucket (secs t) = ((b.allow t).1.bucket, (b.allow t).2) := by
  have same : level SIGNAL_BURST SIGNAL_PER_SEC b.bucket (secs t) = b.refilled t := by
    unfold level bucket refilled
    cases hl : b.last with
    | none => rfl
    | some last =>
      simp only [Option.map_some, secs]
      rw [Nat.cast_sub (later last hl), sub_div]
  rw [take, same, allow_eq]
  split <;> rfl

lemma calls_takes {b : SignalBucket} {ts : List Instant} (sorted : ts.Pairwise (· ≤ ·))
    (later : ∀ last ∈ b.last, ∀ t ∈ ts, last ≤ t) :
    (b.calls ts).map (fun x => (secs x.1, x.2)) =
      takes SIGNAL_BURST SIGNAL_PER_SEC b.bucket (ts.map secs) := by
  induction ts generalizing b with
  | nil => rfl
  | cons t ts ih =>
    obtain ⟨ordered, sorted⟩ := List.pairwise_cons.mp sorted
    have here := @allow_take b t fun l hl => later l hl t List.mem_cons_self
    simp only [calls, List.map_cons, takes, here, List.cons.injEq, true_and]
    refine ih sorted fun l hl => ?_
    rw [allow_last] at hl
    exact Option.some.inj hl ▸ ordered

/-- How many of these calls are within a window of a length from a time on. -/
def asked (s len : ℚ) (ts : List Instant) : Nat := ts.countP fun t => within s len (secs t)

/-- How many of these calls return `true` within a window. -/
def allowed (s len : ℚ) (xs : List (Instant × Bool)) : Nat :=
  xs.countP fun x => x.2 && within s len (secs x.1)

variable {ts : List Instant}

lemma burst_nonneg : 0 ≤ SIGNAL_BURST := by norm_num [SIGNAL_BURST]

lemma per_sec_nonneg : 0 ≤ SIGNAL_PER_SEC := by norm_num [SIGNAL_PER_SEC]

/-- The calls that a new bucket allows in a window. -/
lemma allowed_le (sorted : ts.Pairwise (· ≤ ·)) {s len : ℚ} (hlen : 0 ≤ len) :
    (allowed s len (calls {} ts) : ℚ) ≤ SIGNAL_BURST + SIGNAL_PER_SEC * len := by
  have same := @calls_takes {} ts sorted nofun
  have bound := @takes_window ℚ _ _ SIGNAL_BURST SIGNAL_PER_SEC (bucket {}) (ts.map secs) s len _
    burst_nonneg per_sec_nonneg (sorted.map _ fun _ _ h => secs_mono h) nofun burst_nonneg le_rfl hlen
  rw [← same, TokenBucket.taken, List.countP_map] at bound
  exact bound

/-- Calls that never exceed the rate are all allowed. -/
lemma allowed_all (sorted : ts.Pairwise (· ≤ ·))
    (sparing : ∀ s len : ℚ, 0 ≤ len → (asked s len ts : ℚ) ≤ SIGNAL_BURST + SIGNAL_PER_SEC * len) :
    ∀ x ∈ calls {} ts, x.2 = true := by
  intro x hx
  have all := @takes_all ℚ _ _ SIGNAL_BURST SIGNAL_PER_SEC (ts.map secs) _
    (sorted.map _ fun _ _ h => secs_mono h) fun s len hlen => by
      rw [List.countP_map]
      exact sparing s len hlen
  have same := @calls_takes {} ts sorted nofun
  exact all (secs x.1, x.2) (same ▸ List.mem_map_of_mem (f := fun x => (secs x.1, x.2)) hx)

end SignalBucket

/-! ## The bucket of a connection -/

/-- Does a message get as far as the bucket of its sender? -/
def asksToken (g : HubInner) (p : String) (msg : InMsg) : Bool :=
  let ty := msg.type.getD 0
  let fits := Text.byte_len (msg.text.getD "") ≤ SIGNAL_TEXT_MAX
  match msg.op with
  | .signal =>
    ((msg.lobby_id.or (g.lobby_id_of p)).bind g.lobbies.lookup).any (fun l =>
      (l.seat_of p).any fun seat => !(is_spectator_seat seat && is_ice_signal_type ty)) && fits
  | .probe_signal => (Text.nonempty msg.lobby_id).isSome && is_probe_signal_type ty && fits
  | _ => false

/-- The call of `allow` on the bucket of a connection that a step makes, with its time. -/
def tokenCall (p : String) : HubLabel → Option (Instant × Bool)
  | .ran _ (dispatch q _ msg) _ pre =>
    if q = p ∧ asksToken pre.world.hub q msg then
      (pre.world.hub.clients.lookup q).map fun c =>
        (pre.world.now, (c.signal_bucket.allow pre.world.now).2)
    else none
  | _ => none

/-- The calls of `allow` on the bucket of a connection over a run, in their order. -/
def tokenCalls (p : String) (tr : List HubLabel) : List (Instant × Bool) :=
  tr.reverse.filterMap (tokenCall p)

lemma tokenCalls_cons {p : String} {l : HubLabel} {tr : List HubLabel} :
    tokenCalls p (l :: tr) = tokenCalls p tr ++ (tokenCall p l).toList := by
  rw [tokenCalls, List.reverse_cons, List.filterMap_append]
  rfl

section
variable {now : Instant} {g : HubInner} {p : String} {msg : InMsg}

lemma asksToken_signal (op : msg.op = .signal) : asksToken g p msg =
    (((msg.lobby_id.or (g.lobby_id_of p)).bind g.lobbies.lookup).any (fun l =>
      (l.seat_of p).any fun seat =>
        !(is_spectator_seat seat && is_ice_signal_type (msg.type.getD 0))) &&
      decide (Text.byte_len (msg.text.getD "") ≤ SIGNAL_TEXT_MAX)) := by
  unfold asksToken
  rw [op]

lemma asksToken_probe (op : msg.op = .probe_signal) : asksToken g p msg =
    ((Text.nonempty msg.lobby_id).isSome && is_probe_signal_type (msg.type.getD 0) &&
      decide (Text.byte_len (msg.text.getD "") ≤ SIGNAL_TEXT_MAX)) := by
  unfold asksToken
  rw [op]

lemma handle_signal_clients (op : msg.op = .signal) : (handle_signal now g p msg).1.clients =
    if asksToken g p msg then (takeToken now g p).1.clients else g.clients := by
  rw [asksToken_signal op]
  unfold handle_signal
  split
  · rename_i nowhere
    rw [nowhere]
    rfl
  · rename_i lid hlid
    rw [hlid, Option.bind_some]
    split
    · rename_i gone
      rw [gone]
      rfl
    · rename_i l hl
      rw [hl, Option.any_some]
      rcases hs : l.seat_of p with _ | seat
      · rfl
      · dsimp only [Option.any_some]
        split
        · rename_i stop
          rw [if_neg]
          intro asks
          obtain ⟨seated, fits⟩ := (Bool.and_eq_true _ _).mp asks
          rcases stop with out | long
          · rw [seated] at out
            cases out
          · exact absurd long (not_lt.mpr (of_decide_eq_true fits))
        · rename_i go
          rw [not_or, Bool.not_eq_true, Bool.not_eq_false', not_lt] at go
          rw [if_pos ((Bool.and_eq_true _ _).mpr ⟨go.1, decide_eq_true go.2⟩)]
          split_ifs <;> rfl

lemma handle_probe_signal_clients (op : msg.op = .probe_signal) :
    (handle_probe_signal now g p msg).1.clients =
      if asksToken g p msg then (takeToken now g p).1.clients else g.clients := by
  rw [asksToken_probe op]
  unfold handle_probe_signal
  split
  · rename_i nowhere
    rw [nowhere]
    rfl
  · rename_i lid hlid
    rw [hlid, Option.isSome_some, Bool.true_and]
    dsimp only
    split
    · rename_i stop
      rw [if_neg]
      intro asks
      obtain ⟨probe, fits⟩ := (Bool.and_eq_true _ _).mp asks
      rcases stop with out | long
      · rw [probe] at out
        cases out
      · exact absurd long (not_lt.mpr (of_decide_eq_true fits))
    · rename_i go
      rw [not_or, Bool.not_eq_true, Bool.not_eq_false', not_lt] at go
      rw [if_pos ((Bool.and_eq_true _ _).mpr ⟨go.1, decide_eq_true go.2⟩)]
      split
      · rfl
      · split
        · rfl
        · split_ifs <;> rfl

/-- A row after the bucket of a client was asked. -/
lemma takeToken_row_back {q : String} {c' : ClientMeta}
    (h : (takeToken now g p).1.clients.lookup q = some c') :
    ∃ c, g.clients.lookup q = some c ∧
      (q ≠ p ∧ c' = c ∨ q = p ∧ c' = { c with signal_bucket := (c.signal_bucket.allow now).1 }) := by
  unfold takeToken at h
  cases hp : g.clients.lookup p with
  | none =>
    simp only [hp] at h
    refine ⟨c', h, .inl ⟨?_, rfl⟩⟩
    rintro rfl
    rw [hp] at h
    cases h
  | some c =>
    simp only [hp] at h
    obtain ⟨c0, hc0, ⟨hq, rfl⟩ | ⟨rfl, rfl⟩⟩ := lookup_setClient_back h
    · exact ⟨c', hc0, .inl ⟨hq, rfl⟩⟩
    · obtain rfl := Option.some.inj (hp.symm.trans hc0)
      exact ⟨c, hc0, .inr ⟨rfl, rfl⟩⟩

end

section
variable {srv : Server} {o : Answer} {pre : HubSnapshot} {t : Tid} {s : Section} {p : String}

lemma tokenCall_some {x} (h : tokenCall p (.ran t s o pre) = some x) : ∃ ip msg c,
    s = dispatch p ip msg ∧ asksToken pre.world.hub p msg ∧
      pre.world.hub.clients.lookup p = some c ∧
      x = (pre.world.now, (c.signal_bucket.allow pre.world.now).2) := by
  cases s with
  | dispatch q ip msg =>
    simp only [tokenCall] at h
    split at h
    · rename_i asks
      obtain ⟨rfl, asks⟩ := asks
      obtain ⟨c, hc, rfl⟩ := Option.map_eq_some_iff.mp h
      exact ⟨ip, msg, c, rfl, asks, hc, rfl⟩
    · cases h
  | _ => cases h

/-- A message that asks for a token is a signal of one of the two kinds. -/
lemma asksToken_op {g : HubInner} {msg : InMsg} (h : asksToken g p msg) :
    msg.op = .signal ∨ msg.op = .probe_signal := by
  unfold asksToken at h
  dsimp only at h
  split at h
  · exact .inl ‹_›
  · exact .inr ‹_›
  · cases h

/-- The rows after a signal of either kind. -/
lemma dispatch_signal_clients {ip : String} {msg : InMsg}
    (op : msg.op = .signal ∨ msg.op = .probe_signal) :
    (exec srv (dispatch p ip msg) o pre.world).1.hub.clients =
      if asksToken pre.world.hub p msg then
        (takeToken pre.world.now pre.world.hub p).1.clients
      else pre.world.hub.clients := by
  rcases op with op | op
  · simp only [exec, World.lift, dispatch_step, op]
    exact handle_signal_clients op
  · simp only [exec, World.lift, dispatch_step, op]
    exact handle_probe_signal_clients op

/-- **What a section does to a bucket**: nothing, but for the call it makes. -/
lemma exec_bucket {c'} (h : (exec srv s o pre.world).1.hub.clients.lookup p = some c') :
    ∃ c, pre.world.hub.clients.lookup p = some c ∧
      c'.signal_bucket = match tokenCall p (.ran t s o pre) with
        | none => c.signal_bucket
        | some _ => (c.signal_bucket.allow pre.world.now).1 := by
  obtain ⟨c, hc, edit⟩ := exec_row p c' h
  have quiet : c'.signal_bucket = c.signal_bucket →
      (∀ ip msg, s = dispatch p ip msg → asksToken pre.world.hub p msg = false) →
      c'.signal_bucket = match tokenCall p (.ran t s o pre) with
        | none => c.signal_bucket
        | some _ => (c.signal_bucket.allow pre.world.now).1 := by
    intro same calm
    cases call : tokenCall p (.ran t s o pre) with
    | none => exact same
    | some x =>
      obtain ⟨ip, msg, -, rfl, asks, -, -⟩ := tokenCall_some call
      rw [calm ip msg rfl] at asks
      cases asks
  refine ⟨c, hc, ?_⟩
  by_cases talks : ∃ ip msg, s = dispatch p ip msg ∧ (msg.op = .signal ∨ msg.op = .probe_signal)
  · obtain ⟨ip, msg, rfl, op⟩ := talks
    rw [dispatch_signal_clients op] at h
    split at h
    · rename_i asks
      obtain ⟨c0, hc0, ⟨away, -⟩ | ⟨-, rfl⟩⟩ := takeToken_row_back h
      · exact absurd rfl away
      · obtain rfl := Option.some.inj (hc.symm.trans hc0)
        simp only [tokenCall, asks, and_self, if_true, hc, Option.map_some]
    · rename_i calm
      refine quiet ?_ fun ip' msg' e => ?_
      · rw [Option.some.inj (hc.symm.trans h)]
      · cases e
        exact Bool.eq_false_iff.mpr calm
  · refine quiet ?_ fun ip msg e => ?_
    · cases edit with
      | token op => exact absurd ⟨_, _, rfl, op⟩ talks
      | _ => rfl
    · subst e
      exact Bool.eq_false_iff.mpr fun asks => talks ⟨ip, msg, rfl, asksToken_op asks⟩

end

/-- The calls on the bucket of a connection were at these times, all on one new bucket, and the row of
the connection has what they leave of it. -/
structure OneBucket (p : String) (c : HubSnapshot) (tr : List HubLabel) (ts : List Instant) : Prop where
  sorted : ts.Pairwise (· ≤ ·)
  past : ∀ t ∈ ts, t ≤ c.world.now
  calls : tokenCalls p tr = SignalBucket.calls {} ts
  row : ∀ row, c.world.hub.clients.lookup p = some row → row.signal_bucket = SignalBucket.after {} ts
  unused : p ∉ c.world.issued → ts = []

/-- A section that makes no call leaves the bucket as it is. -/
lemma OneBucket.quiet {srv : Server} {p : String} {c : HubSnapshot} {tr : List HubLabel}
    {ts : List Instant} {t s rest o} (h : OneBucket p c tr ts)
    (call : tokenCall p (.ran t s o c) = none) :
    OneBucket p ((hubMachine srv).afterRun c t s rest o) (.ran t s o c :: tr) ts where
  sorted := h.sorted
  past u hu := (h.past u hu).trans (@exec_now srv _ _ _).ge
  calls := by
    rw [tokenCalls_cons, call, h.calls]
    exact List.append_nil _
  row row hrow := by
    obtain ⟨row0, hrow0, kept⟩ := @exec_bucket srv o c t s p row hrow
    rw [call] at kept
    exact kept.trans (h.row row0 hrow0)
  unused fresh := h.unused fun old => fresh (@exec_issued srv _ _ _ _ old)

/-- A call is one more on the same bucket. -/
lemma OneBucket.call {srv : Server} {p : String} {c : HubSnapshot} {tr : List HubLabel}
    {ts : List Instant} {t s rest o x} (h : OneBucket p c tr ts) (basic : c.world.Basic)
    (call : tokenCall p (.ran t s o c) = some x) :
    OneBucket p ((hubMachine srv).afterRun c t s rest o) (.ran t s o c :: tr)
      (ts ++ [c.world.now]) := by
  obtain ⟨ip, msg, row0, rfl, asks, hrow0, rfl⟩ := tokenCall_some call
  have now_same : (exec srv (dispatch p ip msg) o c.world).1.now = c.world.now := exec_now
  constructor
  · rw [List.pairwise_append]
    refine ⟨h.sorted, List.pairwise_singleton .., fun t ht u hu => ?_⟩
    exact List.mem_singleton.mp hu ▸ h.past t ht
  · intro t ht
    refine le_of_le_of_eq ?_ now_same.symm
    rcases List.mem_append.mp ht with ht | ht
    · exact h.past t ht
    · exact (List.mem_singleton.mp ht).le
  · rw [tokenCalls_cons, call, h.calls, SignalBucket.calls_snoc, h.row row0 hrow0]
    rfl
  · intro row hrow
    obtain ⟨row1, hrow1, kept⟩ := @exec_bucket srv o c t _ p row hrow
    obtain rfl := Option.some.inj (hrow0.symm.trans hrow1)
    rw [call] at kept
    rw [SignalBucket.after_snoc, ← h.row row0 hrow0]
    exact kept
  · intro fresh
    have known := (basic.client_issued p (connected_iff.mpr ⟨row0, hrow0⟩)).2
    exact absurd (@exec_issued srv _ _ _ _ known) fresh

theorem HubRun.one_bucket {srv c tr} (r : HubRun srv c tr) (p : String) :
    ∃ ts, OneBucket p c tr ts := by
  refine r.induct (I := fun c tr => ∃ ts, OneBucket p c tr ts) ?_ ?_
  · exact ⟨[], .nil, nofun, rfl, fun row h => (by cases h), fun _ => rfl⟩
  · rintro c tr l c' r ⟨ts, h⟩ st
    cases st with
    | @run t s rest o e ha =>
      cases call : tokenCall p (.ran t s o c) with
      | none => exact ⟨ts, h.quiet call⟩
      | some x => exact ⟨_, h.call (HubRun.basic r) call⟩
    | @event e idle en =>
      refine ⟨ts, h.sorted, fun t ht => (h.past t ht).trans apply_now, ?_, ?_, fun fresh =>
        h.unused fun old => fresh (apply_issued old)⟩
      · rw [tokenCalls_cons, h.calls]
        exact List.append_nil _
      · intro row hrow
        rcases apply_client_back hrow with old | ⟨ip, rfl, rfl⟩
        · exact h.row row old
        · rw [h.unused en.2]
          rfl

/-- **The rate of signals.** Of any calls of a new bucket at times that do not go back, a window of `len`
seconds has at most a burst and what is refilled in that time, and calls that never exceed this are all
allowed; and what `signal` and `probe_signal` of one connection ask for over a run are such calls. -/
theorem signals_rated (srv : Server) :
    (∀ ts : List Instant, ts.Pairwise (· ≤ ·) →
      (∀ s len : ℚ, 0 ≤ len → (SignalBucket.allowed s len (SignalBucket.calls {} ts) : ℚ) ≤
        SIGNAL_BURST + SIGNAL_PER_SEC * len) ∧
      ((∀ s len : ℚ, 0 ≤ len →
          (SignalBucket.asked s len ts : ℚ) ≤ SIGNAL_BURST + SIGNAL_PER_SEC * len) →
        ∀ x ∈ SignalBucket.calls {} ts, x.2 = true)) ∧
    ∀ c tr, HubRun srv c tr → ∀ p, ∃ ts : List Instant, ts.Pairwise (· ≤ ·) ∧
      tokenCalls p tr = SignalBucket.calls {} ts := by
  refine ⟨fun ts sorted => ⟨fun s len hlen => SignalBucket.allowed_le sorted hlen,
    SignalBucket.allowed_all sorted⟩, fun c tr r p => ?_⟩
  obtain ⟨ts, h⟩ := r.one_bucket p
  exact ⟨ts, h.sorted, h.calls⟩

/-- More than a burst at once, and once more a second later. -/
def floods : List Instant := List.replicate 61 0 ++ List.replicate 61 NANOS

/-- The bound is met, with one call of each burst refused. Two calls alone are within the rate. -/
theorem signals_rated_floods :
    SignalBucket.allowed 0 1 (SignalBucket.calls {} floods) = 120 ∧
    (SignalBucket.allowed 0 1 (SignalBucket.calls {} floods) : ℚ) ≤
      SIGNAL_BURST + SIGNAL_PER_SEC * 1 ∧
    (SignalBucket.calls {} floods).countP (!·.2) = 2 ∧
    ∀ x ∈ SignalBucket.calls {} [0, NANOS], x.2 = true := by
  have sorted : floods.Pairwise (· ≤ ·) := by decide
  refine ⟨by decide +kernel, ?_, by decide +kernel, ?_⟩
  · exact ((signals_rated sampleServer).1 floods sorted).1 0 1 (by decide)
  · refine ((signals_rated sampleServer).1 [0, NANOS] (by decide)).2 fun s len hlen => ?_
    have few : SignalBucket.asked s len [0, NANOS] ≤ 2 := List.countP_le_length
    have bound : (0 : ℚ) ≤ SIGNAL_PER_SEC * len := mul_nonneg SignalBucket.per_sec_nonneg hlen
    calc (SignalBucket.asked s len [0, NANOS] : ℚ) ≤ 2 := by exact_mod_cast few
      _ ≤ SIGNAL_BURST := by norm_num [SIGNAL_BURST]
      _ ≤ SIGNAL_BURST + SIGNAL_PER_SEC * len := le_add_of_nonneg_right bound

end RecompNet
