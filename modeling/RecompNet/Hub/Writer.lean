import RecompNet.Lib.Broadcast
import RecompNet.Hub.Origin

/-!
# The writer task

`handle_socket` gives each connection a broadcast channel and spawns a task that copies the channel to the
socket. Its loop is `while let Ok(msg) = rx.recv().await`, so it ends with the first receive that is not a
message, and a receiver that lags gets such a one. Nothing starts it again.
-/

namespace RecompNet

open Broadcast

/-- The capacity of a connection's channel. -/
def CHANNEL_CAPACITY : Nat := 64

variable {α : Type}

/-- The writer task of a connection, with its end of the channel and what the socket took. -/
structure Writer (α : Type) where
  rx : Receiver α := .start CHANNEL_CAPACITY
  running : Bool := true
  socket : List α := []

/-- What happens to a writer: a message is sent to its connection, its loop comes round while the socket
takes a write or does not, and `send_task.abort()`. -/
inductive WriterMove (α : Type) where
  | send (m : α)
  | recv (write_ok : Bool)
  | abort

/-- One round of the loop. -/
def Writer.round (w : Writer α) (write_ok : Bool) : Writer α :=
  if !w.running then w
  else match w.rx.recv with
    | (.msg m, rx) =>
      if write_ok then { w with rx, socket := w.socket ++ [m] } else { w with rx, running := false }
    | (.lagged _, rx) => { w with rx, running := false }
    | (.empty, rx) => { w with rx }

def Writer.step (w : Writer α) : WriterMove α → Writer α
  | .send m => { w with rx := w.rx.send m }
  | .recv write_ok => w.round write_ok
  | .abort => { w with running := false }

/-- Any interleaving of the senders with the writer. -/
def Writer.run (w : Writer α) (ms : List (WriterMove α)) : Writer α := ms.foldl Writer.step w

/-- The connection stays registered, and its socket takes every write. -/
def Healthy (ms : List (WriterMove α)) : Prop := ∀ m ∈ ms, m ≠ .recv false ∧ m ≠ .abort

/-- Every time the loop comes round, at most the capacity of the channel waits in it. -/
def KeepsUp (w : Writer α) : List (WriterMove α) → Prop
  | [] => True
  | .recv ok :: ms => w.rx.backlog ≤ w.rx.capacity ∧ KeepsUp (w.step (.recv ok)) ms
  | m :: ms => KeepsUp (w.step m) ms

namespace Writer

/-- Every message that was sent is on the socket or still to be received, in order. -/
def Faithful (w : Writer α) : Prop := w.rx.log = w.socket ++ w.rx.unread

lemma run_cons (w : Writer α) (m : WriterMove α) (ms : List (WriterMove α)) :
    w.run (m :: ms) = (w.step m).run ms := rfl

lemma run_append (w : Writer α) (ms ms' : List (WriterMove α)) :
    w.run (ms ++ ms') = (w.run ms).run ms' := List.foldl_append

lemma step_capacity (w : Writer α) (m : WriterMove α) :
    (w.step m).rx.capacity = w.rx.capacity := by
  have same := w.rx.recv_channel.1
  cases m with
  | send => rfl
  | abort => rfl
  | recv ok =>
    simp only [step, round]
    split
    · rfl
    · split
      all_goals
        rename_i h
        rw [h] at same
        first
          | exact same
          | (split <;> exact same)

/-- A round of the loop sends nothing. -/
lemma step_log_recv (w : Writer α) (ok : Bool) : (w.step (.recv ok)).rx.log = w.rx.log := by
  have same := w.rx.recv_channel.2
  simp only [step, round]
  split
  · rfl
  · split
    all_goals
      rename_i h
      rw [h] at same
      first
        | exact same
        | (split <;> exact same)

lemma run_capacity (w : Writer α) (ms : List (WriterMove α)) :
    (w.run ms).rx.capacity = w.rx.capacity := by
  induction ms generalizing w with
  | nil => rfl
  | cons m ms ih => rw [run_cons, ih, step_capacity]

/-- A round of a running writer that keeps up passes a message on. -/
lemma round_msg {w : Writer α} {m ms} (hr : w.running) (h : w.rx.backlog ≤ w.rx.capacity)
    (hu : w.rx.unread = m :: ms) :
    (w.round true).running ∧ (w.round true).socket = w.socket ++ [m] ∧
      (w.round true).rx.unread = ms := by
  obtain ⟨rx, e, hms⟩ := Receiver.recv_msg h hu
  unfold round
  rw [if_neg (by simp [hr]), e]
  exact ⟨hr, rfl, hms⟩

lemma round_empty {w : Writer α} {ok} (hu : w.rx.unread = []) : w.round ok = w := by
  unfold round
  rw [Receiver.recv_empty hu]
  split <;> rfl

/-- A round of a writer that is too far behind is its last. -/
lemma round_lagged {w : Writer α} {ok} (h : w.rx.capacity < w.rx.backlog) :
    (w.round ok).running = false := by
  unfold round
  split
  · rename_i hr
    simpa using hr
  · have e := Receiver.recv_lagged h
    split
    · rename_i hm
      rw [hm] at e
      cases e
    · rfl
    · rename_i hm
      rw [hm] at e
      cases e

/-- A writer that ended stays so, and its socket gets nothing more. -/
lemma step_stopped {w : Writer α} (hr : w.running = false) (m : WriterMove α) :
    (w.step m).running = false ∧ (w.step m).socket = w.socket := by
  cases m with
  | send => exact ⟨hr, rfl⟩
  | abort => exact ⟨rfl, rfl⟩
  | recv ok =>
    simp only [step, round, hr]
    exact ⟨hr, rfl⟩

lemma run_stopped {w : Writer α} (hr : w.running = false) (ms : List (WriterMove α)) :
    (w.run ms).running = false ∧ (w.run ms).socket = w.socket := by
  induction ms generalizing w with
  | nil => exact ⟨hr, rfl⟩
  | cons m ms ih =>
    obtain ⟨hr', hs⟩ := step_stopped hr m
    rw [run_cons, ← hs]
    exact ih hr'

/-- A step of a running writer in a healthy connection: it goes on exactly when it keeps up. -/
lemma step_running {w : Writer α} {m : WriterMove α} (hr : w.running)
    (hm : m ≠ .recv false ∧ m ≠ .abort) :
    (w.step m).running ↔ ∀ ok, m = .recv ok → w.rx.backlog ≤ w.rx.capacity := by
  cases m with
  | send => simp [step, hr]
  | abort => exact absurd rfl hm.2
  | recv ok =>
    cases ok with
    | false => exact absurd rfl hm.1
    | true =>
      simp only [step]
      constructor
      · intro h ok _
        by_contra hn
        rw [round_lagged (not_le.mp hn)] at h
        cases h
      · intro h
        have up := h true rfl
        cases hu : w.rx.unread with
        | nil => rwa [round_empty hu]
        | cons m ms => exact (round_msg hr up hu).1

/-- While the writer runs nothing is lost, repeated or reordered. -/
lemma step_faithful {w : Writer α} {m : WriterMove α} (hf : w.Faithful) (hw : w.running)
    (hm : m ≠ .recv false ∧ m ≠ .abort) (hr : (w.step m).running) : (w.step m).Faithful := by
  cases m with
  | send a =>
    calc w.rx.log ++ [a]
      _ = w.socket ++ w.rx.unread ++ [a] := by rw [← hf]
      _ = w.socket ++ (w.rx.send a).unread := by simp
  | abort => exact absurd rfl hm.2
  | recv ok =>
    cases ok with
    | false => exact absurd rfl hm.1
    | true =>
      have up := (step_running hw hm).mp hr true rfl
      cases hu : w.rx.unread with
      | nil =>
        simp only [step, round_empty hu]
        exact hf
      | cons a as =>
        obtain ⟨-, hs, has⟩ := round_msg hw up hu
        have log : (w.step (.recv true)).rx.log = w.rx.log := step_log_recv w true
        calc (w.step (.recv true)).rx.log
          _ = w.socket ++ w.rx.unread := log.trans hf
          _ = w.socket ++ [a] ++ as := by simp [hu]
          _ = (w.round true).socket ++ (w.round true).rx.unread := by rw [hs, has]

/-- A writer at the start of a healthy stretch runs at its end exactly when it keeps up throughout. -/
lemma run_running {w : Writer α} {ms : List (WriterMove α)} (hw : w.running) (h : Healthy ms) :
    (w.run ms).running ↔ KeepsUp w ms := by
  induction ms generalizing w with
  | nil => exact iff_of_true hw trivial
  | cons m ms ih =>
    obtain ⟨hm, hms⟩ := List.forall_mem_cons.mp h
    have here := step_running hw hm
    rw [run_cons]
    by_cases hr : (w.step m).running
    · rw [ih hr hms]
      cases m with
      | recv ok => exact (and_iff_right (here.mp hr ok rfl)).symm
      | send | abort => rfl
    · have stopped : (w.step m).running = false := by simpa using hr
      rw [(run_stopped stopped ms).1]
      refine iff_of_false Bool.false_ne_true fun up => hr (here.mpr ?_)
      rintro ok rfl
      exact up.1

/-- A running writer has put on the socket, in order, all that it received. -/
lemma run_faithful {w : Writer α} {ms : List (WriterMove α)} (hf : w.Faithful) (hw : w.running)
    (h : Healthy ms) (hr : (w.run ms).running) : (w.run ms).Faithful := by
  induction ms generalizing w with
  | nil => exact hf
  | cons m ms ih =>
    obtain ⟨hm, hms⟩ := List.forall_mem_cons.mp h
    rw [run_cons] at hr ⊢
    have on : (w.step m).running := by
      by_contra hn
      have stopped : (w.step m).running = false := by simpa using hn
      rw [(run_stopped stopped ms).1] at hr
      cases hr
    exact ih (step_faithful hf hw hm on) on hms hr

/-- A running writer that is not too far behind forwards what waits, one message a round. -/
lemma run_drain {w : Writer α} (hw : w.running) (h : w.rx.backlog ≤ w.rx.capacity) :
    (w.run (List.replicate w.rx.backlog (.recv true))).socket = w.socket ++ w.rx.unread := by
  generalize hu : w.rx.unread = as
  have len : w.rx.backlog = as.length := by rw [← hu, Receiver.length_unread]
  rw [len] at h ⊢
  induction as generalizing w with
  | nil => exact (List.append_nil _).symm
  | cons a as ih =>
    obtain ⟨hr, hs, has⟩ := round_msg hw (len ▸ h) hu
    have rest : (w.round true).rx.backlog = as.length := by
      rw [← Receiver.length_unread, has]
    have cap : (w.round true).rx.capacity = w.rx.capacity := step_capacity w (.recv true)
    rw [List.length_cons, List.replicate_succ, run_cons]
    have room : as.length ≤ (w.round true).rx.capacity := cap ▸ (Nat.le_succ _).trans h
    have drained := ih hr room has rest
    rw [step, drained, hs, List.append_assoc]
    rfl

end Writer

/-- While its connection is registered and the socket takes every write, a writer is still running exactly
when at most 64 messages waited each time its loop came round. A running writer that does not exceed them
forwards a message that is sent now, after those that wait; one that ended forwards nothing any more. -/
theorem writer_runs_iff {ms : List (WriterMove α)} (h : Healthy ms) :
    let w := ({} : Writer α).run ms
    (w.running ↔ KeepsUp {} ms) ∧
      (w.running → w.rx.log = w.socket ++ w.rx.unread) ∧
      (w.running → w.rx.backlog < CHANNEL_CAPACITY → ∀ m,
        (w.run (.send m :: List.replicate (w.rx.backlog + 1) (.recv true))).socket =
          w.socket ++ w.rx.unread ++ [m]) ∧
      (¬ w.running → ∀ ms', (w.run ms').socket = w.socket) := by
  intro w
  refine ⟨Writer.run_running rfl h, fun hr => Writer.run_faithful rfl rfl h hr, ?_, ?_⟩
  · intro hr hb m
    have cap : w.rx.capacity = CHANNEL_CAPACITY := Writer.run_capacity {} ms
    have sent := Receiver.backlog_send w.rx m
    have room : (w.step (.send m)).rx.backlog ≤ (w.step (.send m)).rx.capacity := by
      show (w.rx.send m).backlog ≤ w.rx.capacity
      omega
    have drained := Writer.run_drain (w := w.step (.send m)) hr room
    rw [Writer.run_cons, ← sent, List.append_assoc, ← Receiver.unread_send]
    exact drained
  · intro hr ms'
    exact (Writer.run_stopped (by simpa using hr) ms').2

/-- So many frames in a row, as from the lists and the chat of a busy server, and then a round. -/
def burst (n : Nat) : List (WriterMove Nat) := (List.range n).map .send ++ [.recv true]

lemma burst_healthy (n : Nat) : Healthy (burst n) := by
  intro m hm
  rcases List.mem_append.mp hm with hm | hm
  · obtain ⟨a, -, rfl⟩ := List.mem_map.mp hm
    simp
  · simp [List.mem_singleton.mp hm]

/-- A writer takes a burst that fills its channel and forwards the frame after it. One more, and it ends. -/
theorem writer_runs_iff_bursts :
    (KeepsUp {} (burst 64) ∧ (({} : Writer Nat).run (burst 64)).rx.backlog = 63 ∧
      ((({} : Writer Nat).run (burst 64)).run
        (.send 64 :: List.replicate 64 (.recv true))).socket = List.range 65) ∧
    ¬ KeepsUp {} (burst 65) ∧ ∀ ms', ((({} : Writer Nat).run (burst 65)).run ms').socket = [] := by
  obtain ⟨keeps, -, drains, -⟩ := writer_runs_iff (burst_healthy 64)
  obtain ⟨fails, -, -, ended⟩ := writer_runs_iff (burst_healthy 65)
  have on : (({} : Writer Nat).run (burst 64)).running := by decide
  have off : ¬ (({} : Writer Nat).run (burst 65)).running := by decide
  refine ⟨⟨keeps.mp on, by decide, ?_⟩, fun up => off (fails.mpr up), fun ms' => ?_⟩
  · have drained := drains on (by decide) 64
    have all : (({} : Writer Nat).run (burst 64)).socket ++
        (({} : Writer Nat).run (burst 64)).rx.unread ++ [64] = List.range 65 := by decide
    exact drained.trans all
  · have none : (({} : Writer Nat).run (burst 65)).socket = [] := by decide
    exact (ended off ms').trans none

theorem writer_stops_after_a_burst :
    ¬ ∀ ms : List (WriterMove Nat), Healthy ms → (({} : Writer Nat).run ms).running := by
  intro all
  have full := all (burst 65) (burst_healthy 65)
  revert full
  decide

/-! ## The channels of the hub -/

/-- Does a frame go through the channel? The welcome is written to the socket before the task starts. -/
def OutMsg.queued : OutMsg → Bool
  | .welcome _ => false
  | _ => true

/-- The frames among these that go through the channel of one connection. -/
def channelOf (q : String) (fs : List (String × OutMsg)) : List OutMsg :=
  (fs.filter fun f => f.1 = q && f.2.queued).map (·.2)

/-- What a step of the server, or a round of its loop, is to the writer of one connection. -/
def movesOf (srv : Server) (q : String) : HubLabel ⊕ Bool → List (WriterMove OutMsg)
  | .inl l => (channelOf q (frames srv l)).map .send
  | .inr ok => [.recv ok]

/-- The frames that a run has put on the channels are those of its steps, in order. -/
lemma HubRun.sent_eq {srv c tr} (r : HubRun srv c tr) :
    c.world.sent = tr.reverse.flatMap (frames srv) := by
  induction r with
  | start => rfl
  | @step c tr l c' r st ih =>
    have grows : c'.world.sent = c.world.sent ++ frames srv l := by
      cases st with
      | run _ _ => exact exec_sent
      | event _ _ => exact apply_sent
    rw [grows, ih, List.reverse_cons, List.flatMap_append, List.flatMap_singleton]

lemma channelOf_append (q : String) (fs fs' : List (String × OutMsg)) :
    channelOf q (fs ++ fs') = channelOf q fs ++ channelOf q fs' := by
  simp [channelOf]

/-- What is sent goes onto the log. -/
lemma Writer.log_sends (w : Writer α) (as : List α) :
    (w.run (as.map .send)).rx.log = w.rx.log ++ as := by
  induction as generalizing w with
  | nil => exact (List.append_nil _).symm
  | cons a as ih =>
    rw [List.map_cons, Writer.run_cons, ih]
    simp [Writer.step]

/-- However the rounds of a writer fall between the steps of a run, its channel carries the frames that the
run put there for its connection. -/
theorem writer_log_of_run {srv c tr} (r : HubRun srv c tr) (q : String)
    {ws : List (HubLabel ⊕ Bool)} (h : ws.filterMap Sum.getLeft? = tr.reverse) :
    (({} : Writer OutMsg).run (ws.flatMap (movesOf srv q))).rx.log = channelOf q c.world.sent := by
  rw [HubRun.sent_eq r, ← h]
  clear h r
  have all : ∀ w : Writer OutMsg, (w.run (ws.flatMap (movesOf srv q))).rx.log =
      w.rx.log ++ channelOf q ((ws.filterMap Sum.getLeft?).flatMap (frames srv)) := by
    induction ws with
    | nil => exact fun w => (List.append_nil _).symm
    | cons x ws ih =>
      intro w
      rw [List.flatMap_cons, Writer.run_append, ih]
      cases x with
      | inl l =>
        rw [movesOf, Writer.log_sends, List.append_assoc, ← channelOf_append]
        rfl
      | inr ok =>
        have same : (w.run (movesOf srv q (.inr ok))).rx.log = w.rx.log :=
          Writer.step_log_recv w ok
        rw [same]
        rfl
  exact all {}

end RecompNet
