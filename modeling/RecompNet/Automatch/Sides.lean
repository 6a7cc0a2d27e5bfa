import RecompNet.Automatch.Queue
import Mathlib.Data.List.Flatten
import Mathlib.Data.List.Perm.Subperm

/-!
# Who is in the queue

`QueueInner.sides` lists the tickets that wait and the two sides of every offer, `QueueInner.roll` who
they are. The operations of the queue only ever drop entries of the roll or move them about, except
`push` and `requeue_front`, which add one.
-/

open scoped List

namespace RecompNet

/-- The account and the connection of a ticket. -/
def Ticket.who (t : Ticket) : String × String := (t.account_id, t.player_id)

/-- The two sides of an offer. -/
def Pending.sides (p : Pending) : List Ticket := [p.a, p.b]

namespace QueueInner

/-- Everybody waiting or on offer. -/
def sides (g : QueueInner) : List Ticket := g.tickets ++ g.pending.flatMap Pending.sides

/-- Who everybody waiting or on offer is. -/
def roll (g : QueueInner) : List (String × String) := g.sides.map Ticket.who

/-- Dropping tickets and offers shortens the roll. -/
lemma roll_sublist {g g' : QueueInner} (ht : g'.tickets.Sublist g.tickets)
    (hp : g'.pending.Sublist g.pending) : g'.roll.Sublist g.roll := by
  apply List.Sublist.map
  apply ht.append
  exact hp.flatMap _

/-- The roll is read off the identities of the tickets and of the sides. -/
lemma roll_congr (g g' : QueueInner) (ht : g'.tickets.map Ticket.who = g.tickets.map Ticket.who)
    (hp : g'.pending.map Pending.sides = g.pending.map Pending.sides) : g'.roll = g.roll := by
  unfold roll sides
  rw [List.map_append, List.map_append, ht, List.flatMap_def, hp, ← List.flatMap_def]

lemma roll_push (g : QueueInner) (t : Ticket) : (g.push t).roll.Perm (t.who :: g.roll) := by
  have h : (g.push t).sides.Perm (t :: g.sides) := by
    simp only [push, sides, List.append_assoc, List.singleton_append]
    exact List.perm_middle
  exact h.map _

lemma roll_requeue_front (g : QueueInner) (t : Ticket) (now : Instant) :
    (g.requeue_front t now).roll = t.who :: g.roll := rfl

lemma roll_remove_player (g : QueueInner) (p : String) :
    (g.remove_player p).1.roll.Sublist g.roll := by
  unfold remove_player
  dsimp only
  split
  · exact roll_sublist List.filter_sublist (.refl _)
  · exact roll_sublist List.filter_sublist (List.eraseIdx_sublist _ _)

lemma roll_set_rtt (g : QueueInner) (p : String) (rtt : Int) : (g.set_rtt p rtt).roll = g.roll := by
  apply roll_congr g (g.set_rtt p rtt)
  · apply map_updateFirst
    exact fun _ => rfl
  · rfl

/-- Recording an answer keeps the two sides. -/
lemma sides_recordAnswer (p : Pending) (player : String) (accept : Bool) :
    (recordAnswer p player accept).sides = p.sides := by
  unfold recordAnswer
  split <;> rfl

lemma roll_answer_for (g : QueueInner) (p : String) (accept : Bool) (id : Option String) :
    (g.answer_for p accept id).1.roll.Sublist g.roll := by
  unfold answer_for
  split
  · exact .refl _
  · rename_i idx _
    split
    · exact .refl _
    · rename_i pd hpd
      split
      · exact .refl _
      · dsimp only
        split
        · exact roll_sublist (.refl _) (List.eraseIdx_sublist _ _)
        · obtain ⟨hlt, hget⟩ := List.getElem?_eq_some_iff.mp hpd
          -- The offer stays where it is, with one answer more.
          have same : (g.pending.set idx (recordAnswer pd p accept)).map Pending.sides =
              g.pending.map Pending.sides := by
            rw [List.map_set, sides_recordAnswer, ← hget,
              ← List.getElem_map Pending.sides (h := by simpa using hlt), List.set_getElem_self]
          have roll := roll_congr g
            { g with pending := g.pending.set idx (recordAnswer pd p accept) } rfl same
          rw [roll]

lemma roll_take_expired (g : QueueInner) (accept_secs : Nat) (now : Instant) :
    (g.take_expired accept_secs now).1.roll.Sublist g.roll :=
  roll_sublist (.refl _) List.filter_sublist

/-- A pass over the tickets finds two different places. -/
lemma find_pair_pass_ne {now g cooldown rematch i j key}
    (h : find_pair_pass now g cooldown rematch = some (i, j, key)) : i ≠ j := by
  unfold find_pair_pass at h
  obtain ⟨i', -, h⟩ := List.exists_of_findSome?_eq_some h
  obtain ⟨a, -, h⟩ := Option.bind_eq_some_iff.mp h
  obtain ⟨k, -, h⟩ := List.exists_of_findSome?_eq_some h
  obtain ⟨j', -, h⟩ := List.exists_of_findSome?_eq_some h
  obtain ⟨b, -, h⟩ := Option.bind_eq_some_iff.mp h
  split at h
  · rename_i hne
    cases h
    exact hne.1
  · cases h

lemma find_pair_ne {now g cooldown i j key} (h : find_pair now g cooldown = some (i, j, key)) :
    i ≠ j := by
  unfold find_pair at h
  rcases Option.or_eq_some_iff.mp h with h | ⟨-, h⟩
  · exact find_pair_pass_ne h
  · exact find_pair_pass_ne h

/-- Taking out two places of a list, the later one first. -/
lemma eraseIdx_two_perm {α : Type} {l : List α} {lo hi : Nat} {x y : α} (hlt : lo < hi)
    (hx : l[hi]? = some x) (hy : l[lo]? = some y) :
    (x :: y :: (l.eraseIdx hi).eraseIdx lo).Perm l := by
  obtain ⟨hhi, rfl⟩ := List.getElem?_eq_some_iff.mp hx
  have hy' : (l.eraseIdx hi)[lo]? = some y := by
    rw [List.getElem?_eraseIdx_of_lt hlt]
    exact hy
  obtain ⟨hlo, hget⟩ := List.getElem?_eq_some_iff.mp hy'
  have inner : (y :: (l.eraseIdx hi).eraseIdx lo).Perm (l.eraseIdx hi) :=
    hget ▸ List.getElem_cons_eraseIdx_perm hlo
  exact (inner.cons _).trans (List.getElem_cons_eraseIdx_perm hhi)

/-- An offer has the two tickets it was made of as its sides. -/
lemma sides_offerOf (key : MatchKey) (x y : Ticket) (id : String) (now : Instant) :
    (offerOf key x y id now).sides.Perm [x, y] := by
  unfold offerOf
  split
  · exact .refl _
  · exact List.Perm.swap _ _ _

/-- Pairing moves two tickets to an offer. -/
lemma roll_pairOne {g g' : QueueInner} {cooldown now id p}
    (h : g.pairOne cooldown now id = some (g', p)) : g'.roll.Perm g.roll := by
  unfold pairOne at h
  split at h
  · cases h
  · rename_i i j key hfind
    dsimp only at h
    split at h
    · rename_i t_hi t_lo hhi hlo
      cases h
      have hne : i ≠ j := find_pair_ne hfind
      have hlt : min i j < max i j := by omega
      have htwo := eraseIdx_two_perm hlt hhi hlo
      apply List.Perm.map
      simp only [sides, List.flatMap_append, List.flatMap_singleton]
      calc (g.tickets.eraseIdx (max i j)).eraseIdx (min i j) ++
            (g.pending.flatMap Pending.sides ++ (offerOf key t_lo t_hi id now).sides)
        _ ~ (offerOf key t_lo t_hi id now).sides ++
              ((g.tickets.eraseIdx (max i j)).eraseIdx (min i j) ++
                g.pending.flatMap Pending.sides) := by
            rw [← List.append_assoc]
            exact List.perm_append_comm
        _ ~ [t_hi, t_lo] ++ ((g.tickets.eraseIdx (max i j)).eraseIdx (min i j) ++
                g.pending.flatMap Pending.sides) :=
            ((sides_offerOf key t_lo t_hi id now).trans (List.Perm.swap _ _ _)).append_right _
        _ ~ g.tickets ++ g.pending.flatMap Pending.sides := htwo.append_right _
    · cases h

lemma roll_pairLoop (cooldown : Nat) (now : Instant) (ids : List String) (g : QueueInner) :
    (pairLoop cooldown now ids g).1.roll.Perm g.roll := by
  induction ids generalizing g with
  | nil => exact .refl _
  | cons id ids ih =>
    simp only [pairLoop]
    split
    · exact .refl _
    · rename_i g' p hp
      exact (ih g').trans (roll_pairOne hp)

lemma roll_pair (g : QueueInner) (cooldown : Nat) (now : Instant) (ids : List String) :
    (g.pair cooldown now ids).1.roll.Perm g.roll :=
  roll_pairLoop cooldown now ids _

/-- Both sides of an offer are in the roll. -/
def Lists (g : QueueInner) (p : Pending) : Prop := p.a.who ∈ g.roll ∧ p.b.who ∈ g.roll

/-- An offer with the sides of one that is pending. -/
lemma lists_of_sides {g : QueueInner} {p p' : Pending} (h : p ∈ g.pending)
    (same : p'.sides = p.sides) : g.Lists p' := by
  have sub : ∀ t ∈ p'.sides, t.who ∈ g.roll := by
    intro t ht
    apply List.mem_map_of_mem
    apply List.mem_append_right
    exact List.mem_flatMap.mpr ⟨p, h, same ▸ ht⟩
  exact ⟨sub p'.a (by simp [Pending.sides]), sub p'.b (by simp [Pending.sides])⟩

lemma lists_of_mem {g : QueueInner} {p : Pending} (h : p ∈ g.pending) : g.Lists p :=
  lists_of_sides h rfl

lemma lists_remove_player {g : QueueInner} {player : String} {g' p}
    (h : g.remove_player player = (g', some p)) : g.Lists p := by
  unfold remove_player at h
  dsimp only at h
  split at h
  · cases h
  · obtain ⟨-, h⟩ := Prod.mk.inj h
    exact lists_of_mem (List.mem_of_getElem? h)

lemma lists_answer_for {g : QueueInner} {player : String} {accept : Bool} {id : Option String}
    {g' p} (h : g.answer_for player accept id = (g', some p)) : g.Lists p := by
  unfold answer_for at h
  split at h
  · cases h
  · split at h
    · cases h
    · rename_i pd hpd
      split at h
      · cases h
      · dsimp only at h
        split at h
        · obtain ⟨-, h⟩ := Prod.mk.inj h
          cases h
          exact lists_of_sides (List.mem_of_getElem? hpd) (sides_recordAnswer _ _ _)
        · cases h

lemma lists_take_expired {g : QueueInner} {accept_secs : Nat} {now : Instant} {p}
    (h : p ∈ (g.take_expired accept_secs now).2) : g.Lists p :=
  lists_of_mem (List.mem_of_mem_filter h)

/-- Every offer a pairing makes is pending after it. -/
lemma lists_pairLoop {cooldown : Nat} {now : Instant} {ids : List String} {g : QueueInner} {p}
    (h : p ∈ (pairLoop cooldown now ids g).2) : g.Lists p := by
  induction ids generalizing g with
  | nil => cases h
  | cons id ids ih =>
    simp only [pairLoop] at h
    split at h
    · cases h
    · rename_i g' p' hp
      have same : g'.roll.Perm g.roll := roll_pairOne hp
      have here : g'.Lists p := by
        rcases List.mem_cons.mp h with rfl | h
        · apply lists_of_mem
          unfold pairOne at hp
          split at hp
          · cases hp
          · dsimp only at hp
            split at hp
            · cases hp
              exact List.mem_append_right _ (List.mem_singleton_self _)
            · cases hp
        · exact ih h
      exact ⟨same.subset here.1, same.subset here.2⟩

lemma lists_pair {g : QueueInner} {cooldown : Nat} {now : Instant} {ids : List String} {p}
    (h : p ∈ (g.pair cooldown now ids).2) : g.Lists p := by
  unfold pair at h
  have listed := lists_pairLoop h
  exact listed

end QueueInner

end RecompNet
