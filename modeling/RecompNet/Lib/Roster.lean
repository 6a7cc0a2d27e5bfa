import Mathlib.Data.List.Nodup
import Mathlib.Data.List.Perm.Basic
import Mathlib.Tactic.Common

/-!
# Rosters and notes

Rooms with rosters, and people who each note at most one room. A `Register` holds both tables; they are
written separately, so each can be wrong about the other. `Register.Sound` is what ties them together:
nobody is on two rosters or twice on one, a note names a roster that has its owner, and everybody on a
roster noted that room, except those whose room is about to be dissolved (`dissolving`). Each operation
on a register keeps it, in the shape in which a step of a larger system performs the operation: given by
the tables before and after.
-/

open scoped List

namespace Roster

variable {P R : Type}

/-- Who is on the roster of each room, and which room each person noted. -/
structure Register (P R : Type) where
  roster : R → List P
  note : P → Option R

/-- Nobody is enrolled twice, and rosters and notes agree up to rooms that are about to be dissolved. -/
structure Register.Sound (T : Register P R) (dissolving : P → R → Prop) : Prop where
  once : ∀ r, (T.roster r).Nodup
  apart : ∀ p r r', p ∈ T.roster r → p ∈ T.roster r' → r = r'
  noted : ∀ p r, p ∈ T.roster r → T.note p = some r ∨ dissolving p r
  enrolled : ∀ p r, T.note p = some r → p ∈ T.roster r

/-- A person on no roster. -/
def Register.Free (T : Register P R) (p : P) : Prop := ∀ r, p ∉ T.roster r

variable {T T' : Register P R} {D D' : P → R → Prop}

/-- A free person noted nothing. -/
lemma Register.Free.unnoted {p} (h : T.Free p) (sound : T.Sound D) : T.note p = none := by
  cases hn : T.note p with
  | none => rfl
  | some r => exact absurd (sound.enrolled p r hn) (h r)

namespace Register.Sound

/-- Rosters may be reordered. -/
theorem stay (h : T.Sound D) (rosters : ∀ r, T'.roster r ~ T.roster r) (notes : T'.note = T.note)
    (hD : ∀ p r, p ∈ T'.roster r → D p r → D' p r) : T'.Sound D' where
  once := fun r => (rosters r).nodup_iff.mpr (h.once r)
  apart := fun p r r' hp hp' => h.apart p r r' ((rosters r).subset hp) ((rosters r').subset hp')
  noted := fun p r hp => by
    have old := (rosters r).subset hp
    rw [notes]
    exact (h.noted p r old).imp_right (hD p r hp)
  enrolled := fun p r hn => by
    rw [notes] at hn
    exact (rosters r).symm.subset (h.enrolled p r hn)

/-- People who are free enter a room and note it. -/
theorem enter [DecidableEq P] {ps : List P} {r0 : R} (h : T.Sound D) (distinct : ps.Nodup)
    (free : ∀ p ∈ ps, T.Free p) (here : T'.roster r0 ~ ps ++ T.roster r0)
    (elsewhere : ∀ r, r ≠ r0 → T'.roster r ~ T.roster r)
    (notes : ∀ p, T'.note p = if p ∈ ps then some r0 else T.note p)
    (hD : ∀ p r, p ∈ T'.roster r → D p r → D' p r) : T'.Sound D' := by
  have mem : ∀ p r, p ∈ T'.roster r → p ∈ ps ∧ r = r0 ∨ p ∉ ps ∧ p ∈ T.roster r := by
    intro p r hp
    by_cases e : r = r0
    · subst e
      rcases List.mem_append.mp (here.subset hp) with hp | hp
      · exact .inl ⟨hp, rfl⟩
      · exact .inr ⟨fun hps => free p hps r hp, hp⟩
    · have hp := (elsewhere r e).subset hp
      exact .inr ⟨fun hps => free p hps r hp, hp⟩
  constructor
  · intro r
    by_cases e : r = r0
    · subst e
      rw [here.nodup_iff, List.nodup_append']
      refine ⟨distinct, h.once r, ?_⟩
      intro p hps hp
      exact free p hps r hp
    · exact (elsewhere r e).nodup_iff.mpr (h.once r)
  · intro p r r' hp hp'
    rcases mem p r hp with ⟨hps, rfl⟩ | ⟨hps, hp⟩ <;> rcases mem p r' hp' with ⟨hps', rfl⟩ | ⟨hps', hp'⟩
    · rfl
    · exact absurd hps hps'
    · exact absurd hps' hps
    · exact h.apart p r r' hp hp'
  · intro p r hp
    rw [notes]
    rcases mem p r hp with ⟨hps, rfl⟩ | ⟨hps, old⟩
    · exact .inl (if_pos hps)
    · rw [if_neg hps]
      exact (h.noted p r old).imp_right (hD p r hp)
  · intro p r hn
    rw [notes] at hn
    split at hn
    · rename_i hps
      cases hn
      exact here.symm.subset (List.mem_append_left _ hps)
    · have hp := h.enrolled p r hn
      by_cases e : r = r0
      · subst e
        exact here.symm.subset (List.mem_append_right _ hp)
      · exact (elsewhere r e).symm.subset hp

/-- Somebody forgets its note, and whatever roster it is on is about to be dissolved. -/
theorem forget [DecidableEq P] {p0 : P} (h : T.Sound D) (rosters : ∀ r, T'.roster r ~ T.roster r)
    (notes : ∀ p, T'.note p = if p = p0 then none else T.note p)
    (hD : ∀ p r, p ∈ T'.roster r → D p r → D' p r)
    (given_up : ∀ r, T.note p0 = some r → p0 ∈ T'.roster r → D' p0 r) : T'.Sound D' where
  once := fun r => (rosters r).nodup_iff.mpr (h.once r)
  apart := fun p r r' hp hp' => h.apart p r r' ((rosters r).subset hp) ((rosters r').subset hp')
  noted := fun p r hp => by
    have old := (rosters r).subset hp
    rw [notes]
    rcases h.noted p r old with hn | hd
    · split
      · rename_i e
        subst e
        exact .inr (given_up r hn hp)
      · exact .inl hn
    · exact .inr (hD p r hp hd)
  enrolled := fun p r hn => by
    rw [notes] at hn
    split at hn
    · cases hn
    · exact (rosters r).symm.subset (h.enrolled p r hn)

/-- Somebody is taken off a roster and its note erased. -/
theorem take [DecidableEq P] {p0 : P} {r0 : R} (h : T.Sound D) (was : p0 ∈ T.roster r0)
    (here : T'.roster r0 ~ (T.roster r0).erase p0)
    (elsewhere : ∀ r, r ≠ r0 → T'.roster r ~ T.roster r)
    (notes : ∀ p, T'.note p = if p = p0 then none else T.note p)
    (hD : ∀ p r, p ∈ T'.roster r → D p r → D' p r) : T'.Sound D' := by
  have mem : ∀ p r, p ∈ T'.roster r → p ≠ p0 ∧ p ∈ T.roster r := by
    intro p r hp
    by_cases e : r = r0
    · subst e
      exact ((h.once r).mem_erase_iff).mp (here.subset hp)
    · have hp := (elsewhere r e).subset hp
      refine ⟨?_, hp⟩
      rintro rfl
      exact e (h.apart p r r0 hp was)
  constructor
  · intro r
    by_cases e : r = r0
    · subst e
      exact here.nodup_iff.mpr ((h.once r).erase p0)
    · exact (elsewhere r e).nodup_iff.mpr (h.once r)
  · exact fun p r r' hp hp' => h.apart p r r' (mem p r hp).2 (mem p r' hp').2
  · intro p r hp
    obtain ⟨ne, old⟩ := mem p r hp
    rw [notes, if_neg ne]
    exact (h.noted p r old).imp_right (hD p r hp)
  · intro p r hn
    rw [notes] at hn
    split at hn
    · cases hn
    · rename_i ne
      have old := h.enrolled p r hn
      by_cases e : r = r0
      · subst e
        exact here.symm.subset (((h.once r).mem_erase_iff).mpr ⟨ne, old⟩)
      · exact (elsewhere r e).symm.subset old

/-- A room is dissolved, and the notes of everybody on its roster are erased. -/
theorem dissolve [DecidableEq P] {r0 : R} (h : T.Sound D) (here : T'.roster r0 = [])
    (elsewhere : ∀ r, r ≠ r0 → T'.roster r ~ T.roster r)
    (notes : ∀ p, T'.note p = if p ∈ T.roster r0 then none else T.note p)
    (hD : ∀ p r, p ∈ T'.roster r → D p r → D' p r) : T'.Sound D' := by
  have mem : ∀ p r, p ∈ T'.roster r → r ≠ r0 ∧ p ∈ T.roster r := by
    intro p r hp
    by_cases e : r = r0
    · subst e
      rw [here] at hp
      cases hp
    · exact ⟨e, (elsewhere r e).subset hp⟩
  constructor
  · intro r
    by_cases e : r = r0
    · subst e
      rw [here]
      exact List.nodup_nil
    · exact (elsewhere r e).nodup_iff.mpr (h.once r)
  · exact fun p r r' hp hp' => h.apart p r r' (mem p r hp).2 (mem p r' hp').2
  · intro p r hp
    obtain ⟨ne, old⟩ := mem p r hp
    have outside : p ∉ T.roster r0 := fun h0 => ne (h.apart p r r0 old h0)
    rw [notes, if_neg outside]
    exact (h.noted p r old).imp_right (hD p r hp)
  · intro p r hn
    rw [notes] at hn
    split at hn
    · cases hn
    · rename_i outside
      have old := h.enrolled p r hn
      have ne : r ≠ r0 := by
        rintro rfl
        exact outside old
      exact (elsewhere r ne).symm.subset old

end Register.Sound

end Roster
