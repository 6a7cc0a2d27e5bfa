import Mathlib.Data.List.Basic
import Mathlib.Tactic.Common

/-!
# Bounded broadcast channels

A broadcast channel of bounded capacity, seen by one of its receivers. The channel retains its newest
`capacity` messages. A receiver that has fallen further behind is told so once, and goes on with the
oldest message that is retained. The messages sent are kept in a log, and a receiver is a position in it.
-/

namespace Broadcast

variable {α : Type}

/-- A receiver of a channel, with the messages sent so far, oldest first. -/
structure Receiver (α : Type) where
  capacity : Nat
  log : List α
  next : Nat
  next_le : next ≤ log.length

/-- What a receive gives. -/
inductive Received (α : Type) where
  | msg (m : α)
  /-- Some messages were overwritten before they were received. -/
  | lagged (missed : Nat)
  | empty

namespace Receiver

/-- A new channel, seen by its first receiver. -/
def start (capacity : Nat) : Receiver α := ⟨capacity, [], 0, Nat.le_refl 0⟩

/-- The messages that were sent and not received. -/
def unread (r : Receiver α) : List α := r.log.drop r.next

/-- How far the receiver is behind. -/
def backlog (r : Receiver α) : Nat := r.log.length - r.next

/-- A message is sent on the channel. -/
def send (r : Receiver α) (m : α) : Receiver α where
  capacity := r.capacity
  log := r.log ++ [m]
  next := r.next
  next_le := by
    have h := r.next_le
    rw [List.length_append]
    omega

/-- Receive the next message. -/
def recv (r : Receiver α) : Received α × Receiver α :=
  if r.capacity < r.backlog then
    (.lagged (r.backlog - r.capacity),
      { r with next := r.log.length - r.capacity, next_le := Nat.sub_le _ _ })
  else if h : r.next < r.log.length then
    (.msg r.log[r.next], { r with next := r.next + 1, next_le := h })
  else (.empty, r)

lemma length_unread (r : Receiver α) : r.unread.length = r.backlog := List.length_drop

@[simp] lemma capacity_send (r : Receiver α) (m : α) : (r.send m).capacity = r.capacity := rfl

@[simp] lemma log_send (r : Receiver α) (m : α) : (r.send m).log = r.log ++ [m] := rfl

/-- A message that is sent is the last one to receive. -/
@[simp] lemma unread_send (r : Receiver α) (m : α) : (r.send m).unread = r.unread ++ [m] :=
  List.drop_append_of_le_length r.next_le

lemma backlog_send (r : Receiver α) (m : α) : (r.send m).backlog = r.backlog + 1 := by
  rw [← length_unread, unread_send, List.length_append, length_unread]
  rfl

/-- Receiving leaves the channel as it is. -/
lemma recv_channel (r : Receiver α) : r.recv.2.capacity = r.capacity ∧ r.recv.2.log = r.log := by
  unfold recv
  split_ifs <;> exact ⟨rfl, rfl⟩

/-- A receiver that is too far behind lags. -/
lemma recv_lagged {r : Receiver α} (h : r.capacity < r.backlog) :
    r.recv.1 = .lagged (r.backlog - r.capacity) := by
  rw [recv, if_pos h]

/-- A receiver that is not gets its messages in the order they were sent. -/
lemma recv_msg {r : Receiver α} {m ms} (h : r.backlog ≤ r.capacity) (hu : r.unread = m :: ms) :
    ∃ r', r.recv = (.msg m, r') ∧ r'.unread = ms := by
  have behind : r.next < r.log.length := by
    have len := congrArg List.length hu
    rw [length_unread, backlog, List.length_cons] at len
    omega
  have split : r.unread = r.log[r.next] :: r.log.drop (r.next + 1) :=
    List.drop_eq_getElem_cons behind
  obtain ⟨hm, hms⟩ := List.cons.inj (hu.symm.trans split)
  refine ⟨{ r with next := r.next + 1, next_le := behind }, ?_, hms.symm⟩
  rw [recv, if_neg (Nat.not_lt.mpr h), dif_pos behind, hm]

/-- A receiver that has everything waits. -/
lemma recv_empty {r : Receiver α} (hu : r.unread = []) : r.recv = (.empty, r) := by
  have len := congrArg List.length hu
  rw [length_unread, List.length_nil] at len
  have done : ¬ r.next < r.log.length := by
    rw [backlog] at len
    omega
  rw [recv, if_neg (by omega), dif_neg done]

end Receiver

end Broadcast
