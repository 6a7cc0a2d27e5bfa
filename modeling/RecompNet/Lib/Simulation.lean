import RecompNet.Lib.Interleave

/-!
# Simulations

A machine whose every step is a step of a smaller machine, or no step of it. The smaller machine then
runs along with the larger one, and what holds of its runs can be read off the larger trace.
-/

namespace Interleave

variable {W S T O E W' S' T' O' E' : Type} [DecidableEq T] [DecidableEq T']

/-- `M` runs over `N`: `abs` is what `N` sees of a snapshot and `label` the step of `N`, if any, that a
step of `M` is. Before `M` starts, `N` has run through `before`. -/
structure Simulation (M : Machine W S T O E) (N : Machine W' S' T' O' E') where
  abs : Snapshot W S T → Snapshot W' S' T'
  label : Label W S T O E → Option (Label W' S' T' O' E')
  before : List (Label W' S' T' O' E')
  start : Run N (abs ⟨M.start, fun _ => []⟩) before
  stays : ∀ {c tr l c'}, Run M c tr → Step M c l c' → label l = none → abs c' = abs c
  steps : ∀ {c tr l c' l'}, Run M c tr → Step M c l c' → label l = some l' →
    Step N (abs c) l' (abs c')

/-- A run of the larger machine is one of the smaller machine. -/
theorem Simulation.run {M : Machine W S T O E} {N : Machine W' S' T' O' E'} (sim : Simulation M N)
    {c tr} (r : Run M c tr) : Run N (sim.abs c) (tr.filterMap sim.label ++ sim.before) := by
  induction r with
  | start => exact sim.start
  | @step c tr l c' r st ih =>
    cases e : sim.label l with
    | none =>
      rw [List.filterMap_cons_none e, sim.stays r st e]
      exact ih
    | some l' =>
      rw [List.filterMap_cons_some e]
      exact ih.step (sim.steps r st e)

/-- The step of the smaller machine that a step of the larger one is, is in its trace. -/
lemma Simulation.mem {M : Machine W S T O E} {N : Machine W' S' T' O' E'} (sim : Simulation M N)
    {l l'} {tr : List (Label W S T O E)} (h : l ∈ tr) (e : sim.label l = some l') :
    l' ∈ tr.filterMap sim.label ++ sim.before :=
  List.mem_append_left _ (List.mem_filterMap.mpr ⟨l, h, e⟩)

end Interleave
