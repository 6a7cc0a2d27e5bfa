import RecompNet.Lib.Assoc
import RecompNet.Lib.Interleave
import RecompNet.Auth.NameSize
import Mathlib.Data.List.Chain
import Mathlib.Data.List.DropRight
import Mathlib.Data.Finset.Card

/-!
# The labels of games

The metrics carry a label for each game (`metrics.rs`). What clients call a game is normalized, and
a bounded set of names is learned; every other name falls under a common label. A call looks the
name up under a read lock and, when it is new, once more under the write lock.
-/

namespace RecompNet.Metrics

open Interleave

def GAME_LABEL_MAX_LEN : Nat := 48
def GAME_LABEL_OTHER : String := "other"
def GAME_LABEL_UNKNOWN : String := "unknown"

/-! ## Normalizing -/

/-- `char::is_ascii_alphanumeric`. -/
def is_ascii_alphanumeric (c : Char) : Bool :=
  let n := c.toNat
  (48 ≤ n && n ≤ 57) || (65 ≤ n && n ≤ 90) || (97 ≤ n && n ≤ 122)

/-- What stands for a character in a label. -/
def label_char (ch : Char) : Char :=
  if is_ascii_alphanumeric ch then Text.ascii_lower ch
  else if ch ∈ ['.', '-', '_'] then ch
  else '_'

/-- The loop of `normalize_game`. Only ASCII is pushed, so that the length of `out` counts bytes. -/
def normalize_loop : List Char → List Char → Bool → List Char
  | [], out, _ => out
  | ch :: rest, out, prev_sep =>
    if GAME_LABEL_MAX_LEN ≤ out.length then out
    else
      let c := label_char ch
      if c = '_' then
        if prev_sep || out.isEmpty then normalize_loop rest out prev_sep
        else normalize_loop rest (out ++ [c]) true
      else normalize_loop rest (out ++ [c]) false

/-- Is the character cut off the end of a label? -/
def is_separator (c : Char) : Bool := c ∈ ['_', '-', '.']

/-- Lowercase, strip to `[a-z0-9._-]`, collapse separators, cap the length. -/
def normalize_game (raw : String) : String :=
  String.ofList ((normalize_loop (Text.trim raw).toList [] false).rdropWhile is_separator)

/-- The characters of a label. -/
def is_label_char (c : Char) : Bool :=
  let n := c.toNat
  (48 ≤ n && n ≤ 57) || (97 ≤ n && n ≤ 122) || c ∈ ['.', '-', '_']

/-- What the loop makes: characters of a label, with no separator first and no two in a row. -/
structure Canonical (cs : List Char) : Prop where
  chars : ∀ c ∈ cs, is_label_char c
  first : cs.head? ≠ some '_'
  apart : cs.IsChain fun a b => ¬ (a = '_' ∧ b = '_')
  short : cs.length ≤ GAME_LABEL_MAX_LEN

lemma label_char_label (c : Char) : is_label_char (label_char c) := by
  unfold label_char
  split
  · rename_i alnum
    unfold Text.ascii_lower
    simp only [is_ascii_alphanumeric, Bool.or_eq_true, Bool.and_eq_true, decide_eq_true_eq] at alnum
    split
    · rename_i upper
      simp only [Bool.and_eq_true, decide_eq_true_eq] at upper
      have value : (Char.ofNat (c.toNat + 32)).toNat = c.toNat + 32 := by
        rw [Char.ofNat, dif_pos (.inl (by omega))]
        rfl
      simp only [is_label_char, value, Bool.or_eq_true, Bool.and_eq_true, decide_eq_true_eq]
      omega
    · rename_i lower
      simp only [Bool.and_eq_true, decide_eq_true_eq] at lower
      simp only [is_label_char, Bool.or_eq_true, Bool.and_eq_true, decide_eq_true_eq]
      omega
  · split
    · rename_i sep
      simp [is_label_char, sep]
    · decide

/-- A character of a label stands for itself. -/
lemma label_char_self {c : Char} (h : is_label_char c) : label_char c = c := by
  unfold label_char
  split
  · unfold Text.ascii_lower
    refine if_neg fun upper => ?_
    simp only [Bool.and_eq_true, decide_eq_true_eq] at upper
    simp only [is_label_char, Bool.or_eq_true, Bool.and_eq_true, decide_eq_true_eq, List.mem_cons,
      List.not_mem_nil, or_false] at h
    rcases h with (digit | lower) | rfl | rfl | rfl
    · omega
    · omega
    all_goals revert upper; decide
  · rename_i other
    refine if_pos ?_
    simp only [is_label_char, Bool.or_eq_true, Bool.and_eq_true, decide_eq_true_eq] at h
    simp only [is_ascii_alphanumeric, Bool.or_eq_true, Bool.and_eq_true, decide_eq_true_eq] at other
    exact h.resolve_left fun alnum => other (by omega)

lemma canonical_nil : Canonical [] := ⟨nofun, nofun, .nil, Nat.zero_le _⟩

lemma Canonical.push {out : List Char} {c : Char} (h : Canonical out)
    (room : out.length < GAME_LABEL_MAX_LEN) (char : is_label_char c)
    (behind : c = '_' → out ≠ [] ∧ out.getLast? ≠ some '_') : Canonical (out ++ [c]) where
  chars := by
    intro d hd
    rcases List.mem_append.mp hd with hd | hd
    · exact h.chars d hd
    · exact List.mem_singleton.mp hd ▸ char
  first := by
    cases out with
    | nil =>
      intro e
      exact (behind (Option.some.inj e)).1 rfl
    | cons d out => exact h.first
  apart := by
    refine List.isChain_append.mpr ⟨h.apart, .singleton c, ?_⟩
    rintro d hd e he ⟨rfl, rfl⟩
    obtain rfl := Option.some.inj he
    exact (behind rfl).2 hd
  short := by
    rw [List.length_append, List.length_singleton]
    exact room

/-- The loop goes from what it may make to what it may make. -/
lemma normalize_loop_canonical {cs out : List Char} {prev_sep : Bool} (h : Canonical out)
    (sep : prev_sep = true ↔ out.getLast? = some '_') :
    Canonical (normalize_loop cs out prev_sep) := by
  induction cs generalizing out prev_sep with
  | nil => exact h
  | cons ch rest ih =>
    unfold normalize_loop
    split
    · exact h
    · rename_i room
      dsimp only
      have push := h.push (by omega) (label_char_label ch)
      split
      · rename_i e
        split
        · exact ih h sep
        · rename_i first
          simp only [Bool.or_eq_true, List.isEmpty_iff, not_or] at first
          refine ih (push fun _ => ⟨first.2, fun last => first.1 (sep.mpr last)⟩) ?_
          simp [e]
      · rename_i ne
        refine ih (push fun e => absurd e ne) ?_
        simp [ne]

/-- What the loop may make it leaves as it is. -/
lemma normalize_loop_self {cs out : List Char} {prev_sep : Bool} (h : Canonical (out ++ cs))
    (sep : prev_sep = true ↔ out.getLast? = some '_') :
    normalize_loop cs out prev_sep = out ++ cs := by
  induction cs generalizing out prev_sep with
  | nil => exact (List.append_nil out).symm
  | cons ch rest ih =>
    have short := h.short
    rw [List.length_append, List.length_cons] at short
    have mine : ch ∈ out ++ ch :: rest := List.mem_append_right _ List.mem_cons_self
    have char := label_char_self (h.chars ch mine)
    have next : Canonical ((out ++ [ch]) ++ rest) := by simpa using h
    unfold normalize_loop
    rw [if_neg (by omega), char]
    dsimp only
    split
    · rename_i e
      have first : ¬ (prev_sep || out.isEmpty) = true := by
        simp only [Bool.or_eq_true, List.isEmpty_iff, not_or]
        constructor
        · intro prev
          obtain ⟨-, -, apart⟩ := List.isChain_append.mp h.apart
          exact apart '_' (sep.mp prev) ch rfl ⟨rfl, e⟩
        · rintro rfl
          exact h.first (congrArg some e)
      rw [if_neg first, ih next (by simp [e])]
      simp
    · rename_i ne
      rw [ih next (by simp [ne])]
      simp

lemma Canonical.prefix {cs ds : List Char} (h : Canonical ds) (sub : cs <+: ds) : Canonical cs where
  chars := fun c hc => h.chars c (sub.subset hc)
  first := by
    obtain ⟨rest, rfl⟩ := sub
    cases cs with
    | nil => exact nofun
    | cons c cs => exact h.first
  apart := h.apart.prefix sub
  short := sub.length_le.trans h.short

lemma normalize_canonical (raw : String) : Canonical (normalize_game raw).toList := by
  unfold normalize_game
  rw [String.toList_ofList]
  have looped := @normalize_loop_canonical (Text.trim raw).toList [] false canonical_nil (by simp)
  exact looped.prefix (List.rdropWhile_prefix _ _)

lemma is_label_char_printable {c : Char} (h : is_label_char c) : Text.printable c := by
  unfold Text.printable
  simp only [is_label_char, Bool.or_eq_true, Bool.and_eq_true, decide_eq_true_eq, List.mem_cons,
    List.not_mem_nil, or_false] at h ⊢
  rcases h with (digit | lower) | rfl | rfl | rfl
  · omega
  · omega
  all_goals decide

/-- A label is at most as long as labels may be, in bytes. -/
lemma normalize_short (raw : String) : Text.byte_len (normalize_game raw) ≤ GAME_LABEL_MAX_LEN := by
  have canonical := normalize_canonical raw
  have plain : ∀ c ∈ (normalize_game raw).toList, Text.printable c := fun c hc =>
    is_label_char_printable (canonical.chars c hc)
  rw [Text.byte_len_eq, Text.bytes_printable plain]
  exact canonical.short

/-- A label has no white space. -/
lemma trim_label {s : String} (h : ∀ c ∈ s.toList, is_label_char c) : Text.trim s = s := by
  have dark : ∀ c ∈ s.toList, Text.is_whitespace c = false := by
    intro c hc
    have char := h c hc
    simp only [is_label_char, Bool.or_eq_true, Bool.and_eq_true, decide_eq_true_eq, List.mem_cons,
      List.not_mem_nil, or_false] at char
    rcases char with (digit | lower) | rfl | rfl | rfl
    · simp [Text.is_whitespace]
      omega
    · simp [Text.is_whitespace]
      omega
    all_goals decide
  rw [Text.trim_eq_iff]
  exact ⟨fun c hc => dark c (List.mem_of_mem_head? hc),
    fun c hc => dark c (List.mem_of_getLast? hc)⟩

/-- Normalizing a second time changes nothing. -/
lemma normalize_idempotent (raw : String) :
    normalize_game (normalize_game raw) = normalize_game raw := by
  have canonical := normalize_canonical raw
  have looped :
      normalize_loop (normalize_game raw).toList [] false = (normalize_game raw).toList := by
    generalize (normalize_game raw).toList = cs at canonical
    exact @normalize_loop_self cs [] false canonical (by simp)
  have cut : (normalize_game raw).toList.rdropWhile is_separator = (normalize_game raw).toList := by
    unfold normalize_game
    rw [String.toList_ofList, List.rdropWhile_idempotent]
  have unfolded : normalize_game (normalize_game raw) = String.ofList
      ((normalize_loop (Text.trim (normalize_game raw)).toList [] false).rdropWhile is_separator) :=
    rfl
  rw [unfolded, trim_label canonical.chars, looped, cut, String.ofList_toList]

/-! ## Labels -/

structure GameLabels where
  /-- The allowlist is set: only its names get a label. -/
  strict : Bool
  limit : Nat
  known : Assoc.Map String String

/-- The names of an allowlist, each interned once. -/
def seed (allowlist : List String) : Assoc.Map String String :=
  allowlist.foldl (fun known raw =>
    let name := normalize_game raw
    if name = "" ∨ name ∈ known then known else known.insert name name) ∅

/-- Seed the labels at startup; whatever was learned before is dropped. -/
def init_game_labels (_ : GameLabels) (allowlist : List String) (limit : Nat) : GameLabels where
  strict := !allowlist.isEmpty
  limit := max limit 1
  known := seed allowlist

/-- The label of a name without learning it, if that is decided. -/
def GameLabels.find (g : GameLabels) (name : String) : Option String :=
  match g.known.lookup name with
  | some label => some label
  | none => if g.strict || g.limit ≤ g.known.size then some GAME_LABEL_OTHER else none

/-- The labels, and what the calls returned, with the names they were asked for, the latest first.
-/
structure LabelWorld where
  labels : GameLabels
  returned : List (String × String) := []

/-- The critical sections of a call of `game_label`. -/
inductive LabelSection where
  | read_labels (raw : String)
  | write_labels (raw : String)

open LabelSection

/-- A call returns. -/
def LabelWorld.give (w : LabelWorld) (raw label : String) : LabelWorld :=
  { w with returned := (raw, label) :: w.returned }

def exec (s : LabelSection) (w : LabelWorld) : LabelWorld × List LabelSection :=
  match s with
  | read_labels raw =>
    let name := normalize_game raw
    if name = "" then (w.give raw GAME_LABEL_UNKNOWN, [])
    else
      match w.labels.find name with
      | some label => (w.give raw label, [])
      | none => (w, [write_labels raw])
  | write_labels raw =>
    let name := normalize_game raw
    match w.labels.find name with
    | some label => (w.give raw label, [])
    | none =>
      let labels := { w.labels with known := w.labels.known.insert name name }
      ({ w with labels }.give raw name, [])

/-- The calls of any number of threads. -/
def labelMachine (before : GameLabels) (allowlist : List String) (limit : Nat) :
    Machine LabelWorld LabelSection Nat Unit (Nat × String) where
  start := { labels := init_game_labels before allowlist limit }
  exec := fun s _ w => exec s w
  answers := fun _ _ => True
  task := fun call => call.1
  enabled := fun _ _ => True
  apply := fun _ w => w
  body := fun call _ => [read_labels call.2]

/-! ## The labels that are learned -/

section
variable {allowlist : List String} {limit : Nat} {w : LabelWorld}

lemma seed_known {known : Assoc.Map String String} {names : List String}
    (sub : known.keys ⊆ names) (own : ∀ n l, known.lookup n = some l → l = n ∧ n ≠ "") :
    let seeded := allowlist.foldl (fun known raw =>
      let name := normalize_game raw
      if name = "" ∨ name ∈ known then known else known.insert name name) known
    seeded.keys ⊆ names ++ allowlist.map normalize_game ∧
      ∀ n l, seeded.lookup n = some l → l = n ∧ n ≠ "" := by
  induction allowlist generalizing known names with
  | nil => exact ⟨by simpa using sub, own⟩
  | cons raw rest ih =>
    have later : names ++ (raw :: rest).map normalize_game =
        (names ++ [normalize_game raw]) ++ rest.map normalize_game := by simp
    rw [later, List.foldl_cons]
    dsimp only
    apply ih
    · split
      · exact List.Subset.trans sub (List.subset_append_left _ _)
      · intro n hn
        rcases (AList.mem_insert _).mp (AList.mem_keys.mpr hn) with rfl | hn
        · exact List.mem_append_right _ (List.mem_singleton_self _)
        · exact List.mem_append_left _ (sub (AList.mem_keys.mp hn))
    · split
      · exact own
      · rename_i new
        intro n l hl
        by_cases e : n = normalize_game raw
        · subst e
          rw [AList.lookup_insert] at hl
          exact ⟨(Option.some.inj hl).symm, fun blank => new (.inl blank)⟩
        · rw [AList.lookup_insert_ne e] at hl
          exact own n l hl

/-- What is known of the labels, and of what the calls returned. -/
structure Learned (allowlist : List String) (limit : Nat) (w : LabelWorld) : Prop where
  config : w.labels.limit = max limit 1
  own : ∀ n l, w.labels.known.lookup n = some l → l = n ∧ n ≠ ""
  few : w.labels.known.size ≤ max (max 1 limit) (allowlist.map normalize_game).toFinset.card
  told : ∀ x ∈ w.returned, normalize_game x.1 = "" ∧ x.2 = GAME_LABEL_UNKNOWN ∨
    normalize_game x.1 ≠ "" ∧ x.2 = GAME_LABEL_OTHER ∨
    x.2 = normalize_game x.1 ∧ normalize_game x.1 ∈ w.labels.known
  settled : w.returned.Pairwise fun later call => call.2 = normalize_game call.1 →
    normalize_game later.1 = normalize_game call.1 → later.2 = call.2

lemma learned_start (before : GameLabels) :
    Learned allowlist limit { labels := init_game_labels before allowlist limit } := by
  obtain ⟨sub, own⟩ := @seed_known allowlist ∅ [] (List.Subset.refl _) (by intro n l h; cases h)
  refine ⟨rfl, own, le_max_of_le_right ?_, nofun, .nil⟩
  have keys : (seed allowlist).keys.toFinset.card = (seed allowlist).size :=
    (List.toFinset_card_of_nodup (AList.keys_nodup _)).trans (List.length_map _)
  show (seed allowlist).size ≤ _
  rw [← keys]
  apply Finset.card_le_card
  intro n hn
  exact List.mem_toFinset.mpr (sub (List.mem_toFinset.mp hn))

/-- What a lookup says of a name. -/
lemma find_cases {g : GameLabels} {name label : String}
    (own : ∀ n l, g.known.lookup n = some l → l = n ∧ n ≠ "") (h : g.find name = some label) :
    label = name ∧ name ∈ g.known ∨ name ∉ g.known ∧ label = GAME_LABEL_OTHER := by
  unfold GameLabels.find at h
  split at h
  · rename_i l hl
    cases h
    exact .inl ⟨(own name _ hl).1, Assoc.Map.mem_iff.mpr ⟨_, hl⟩⟩
  · rename_i none
    split at h
    · cases h
      refine .inr ⟨fun known => ?_, rfl⟩
      obtain ⟨l, hl⟩ := Assoc.Map.mem_iff.mp known
      exact absurd (none.symm.trans hl) nofun
    · cases h

/-- A name that is not decided is new, and there is room for it. -/
lemma find_none {g : GameLabels} {name : String} (h : g.find name = none) :
    g.known.lookup name = none ∧ g.known.size < g.limit := by
  unfold GameLabels.find at h
  split at h
  · cases h
  · rename_i new
    split at h
    · cases h
    · rename_i open'
      simp only [Bool.or_eq_true, decide_eq_true_eq, not_or] at open'
      exact ⟨new, by omega⟩

/-- A call returns a label that the name is told from then on. -/
lemma Learned.give {raw label : String} (h : Learned allowlist limit w)
    (told : normalize_game raw = "" ∧ label = GAME_LABEL_UNKNOWN ∨
      normalize_game raw ≠ "" ∧ normalize_game raw ∉ w.labels.known ∧ label = GAME_LABEL_OTHER ∨
      label = normalize_game raw ∧ normalize_game raw ∈ w.labels.known) :
    Learned allowlist limit (w.give raw label) where
  config := h.config
  own := h.own
  few := h.few
  told := by
    refine List.forall_mem_cons.mpr ⟨?_, h.told⟩
    rcases told with blank | ⟨some, -, other⟩ | own
    · exact .inl blank
    · exact .inr (.inl ⟨some, other⟩)
    · exact .inr (.inr own)
  settled := by
    refine List.pairwise_cons.mpr ⟨fun x hx mine same => ?_, h.settled⟩
    dsimp only at same ⊢
    rcases h.told x hx with ⟨blank, unknown⟩ | ⟨-, other⟩ | ⟨-, known⟩
    · exact absurd (unknown.symm.trans (mine.trans blank)) (by decide)
    · rcases told with ⟨blank, -⟩ | ⟨-, -, e⟩ | ⟨e, -⟩
      · exact absurd (other.symm.trans (mine.trans (same.symm.trans blank))) (by decide)
      · exact e.trans other.symm
      · exact e.trans (same.trans mine.symm)
    · rcases told with ⟨blank, -⟩ | ⟨-, new, -⟩ | ⟨e, -⟩
      · obtain ⟨l, hl⟩ := Assoc.Map.mem_iff.mp known
        exact absurd (same.symm.trans blank) (h.own _ l hl).2
      · rw [same] at new
        exact absurd known new
      · exact e.trans (same.trans mine.symm)

/-- A name is learned. -/
lemma Learned.learn {name : String} (h : Learned allowlist limit w) (some : name ≠ "")
    (new : w.labels.known.lookup name = none) (room : w.labels.known.size < w.labels.limit) :
    Learned allowlist limit
      { w with labels := { w.labels with known := w.labels.known.insert name name } } where
  config := h.config
  own := by
    intro n l hl
    by_cases e : n = name
    · subst e
      rw [AList.lookup_insert] at hl
      exact ⟨(Option.some.inj hl).symm, some⟩
    · rw [AList.lookup_insert_ne e] at hl
      exact h.own n l hl
  few := by
    have out : name ∉ w.labels.known := fun known => by
      obtain ⟨l, hl⟩ := Assoc.Map.mem_iff.mp known
      exact absurd (new.symm.trans hl) nofun
    have size : Assoc.Map.size (w.labels.known.insert name name) = w.labels.known.size + 1 := by
      unfold Assoc.Map.size
      rw [AList.entries_insert_of_notMem out, List.length_cons]
    have config := h.config
    show Assoc.Map.size (w.labels.known.insert name name) ≤ _
    rw [size]
    refine le_max_of_le_left ?_
    omega
  told := fun x hx => by
    rcases h.told x hx with blank | other | ⟨own, known⟩
    · exact .inl blank
    · exact .inr (.inl other)
    · exact .inr (.inr ⟨own, (AList.mem_insert _).mpr (.inr known)⟩)
  settled := h.settled

/-- A section of a call keeps what is known. -/
lemma Learned.exec {s : LabelSection} (h : Learned allowlist limit w)
    (some : ∀ raw, s = .write_labels raw → normalize_game raw ≠ "") :
    Learned allowlist limit (exec s w).1 ∧
      ∀ raw, .write_labels raw ∈ (exec s w).2 → normalize_game raw ≠ "" := by
  cases s with
  | read_labels raw =>
    simp only [Metrics.exec]
    split
    · rename_i blank
      exact ⟨h.give (.inl ⟨blank, rfl⟩), nofun⟩
    · rename_i named
      split
      · rename_i label found
        refine ⟨h.give ?_, nofun⟩
        rcases find_cases h.own found with own | ⟨new, other⟩
        · exact .inr (.inr own)
        · exact .inr (.inl ⟨named, new, other⟩)
      · refine ⟨h, fun raw' hw => ?_⟩
        cases List.mem_singleton.mp hw
        exact named
  | write_labels raw =>
    have named := some raw rfl
    simp only [Metrics.exec]
    split
    · rename_i label found
      refine ⟨h.give ?_, nofun⟩
      rcases find_cases h.own found with own | ⟨new, other⟩
      · exact .inr (.inr own)
      · exact .inr (.inl ⟨named, new, other⟩)
    · rename_i undecided
      obtain ⟨new, room⟩ := find_none undecided
      refine ⟨(h.learn named new room).give (.inr (.inr ⟨rfl, ?_⟩)), nofun⟩
      exact (AList.mem_insert _).mpr (.inl rfl)

end

/-! ## Runs -/

lemma run_learned {before : GameLabels} {allowlist : List String} {limit : Nat} {c tr}
    (r : Run (labelMachine before allowlist limit) c tr) :
    Learned allowlist limit c.world ∧
      Holds (fun _ _ s => ∀ raw, s = .write_labels raw → normalize_game raw ≠ "") c := by
  apply r.induct (I := fun c _ => Learned allowlist limit c.world ∧
    Holds (fun _ _ s => ∀ raw, s = .write_labels raw → normalize_game raw ≠ "") c)
  · exact ⟨learned_start before, Holds.start _⟩
  · intro c tr l c' r ⟨learned, named⟩ st
    cases st with
    | @run t s rest o e _ =>
      obtain ⟨learned', named'⟩ := learned.exec (named t s (e ▸ List.mem_cons_self))
      refine ⟨learned', named.run e (fun _ _ _ h => h) ?_⟩
      rintro s' hs' raw rfl
      exact named' raw hs'
    | @event call _ _ =>
      refine ⟨learned, named.event (fun _ _ _ h => h) ?_⟩
      intro s hs raw e
      cases List.mem_singleton.mp hs
      cases e

/-- **Game labels.** However calls overlap, there are at most two labels more than the limit or the
allowlist has names; a name that was returned as its own label is returned to every later call for
it; and normalizing gives a short text of plain characters that it leaves as it is. -/
theorem game_labels_bounded {before : GameLabels} {allowlist : List String} {limit : Nat} {c tr}
    (r : Run (labelMachine before allowlist limit) c tr) :
    (c.world.returned.map (·.2)).toFinset.card ≤
      max (max 1 limit) (allowlist.map normalize_game).toFinset.card + 2 ∧
    (c.world.returned.Pairwise fun later call => call.2 = normalize_game call.1 →
      normalize_game later.1 = normalize_game call.1 → later.2 = call.2) ∧
    ∀ raw, normalize_game (normalize_game raw) = normalize_game raw ∧
      Text.byte_len (normalize_game raw) ≤ GAME_LABEL_MAX_LEN ∧
      ∀ c ∈ (normalize_game raw).toList, is_label_char c := by
  obtain ⟨learned, -⟩ := run_learned r
  refine ⟨?_, learned.settled, fun raw => ?_⟩
  · have sub : (c.world.returned.map (·.2)).toFinset ⊆
        insert GAME_LABEL_UNKNOWN (insert GAME_LABEL_OTHER c.world.labels.known.keys.toFinset) := by
      intro label hl
      obtain ⟨x, hx, rfl⟩ := List.mem_map.mp (List.mem_toFinset.mp hl)
      rw [Finset.mem_insert, Finset.mem_insert, List.mem_toFinset]
      rcases learned.told x hx with ⟨-, unknown⟩ | ⟨-, other⟩ | ⟨own, known⟩
      · exact .inl unknown
      · exact .inr (.inl other)
      · exact .inr (.inr (own ▸ AList.mem_keys.mp known))
    have keys : c.world.labels.known.keys.toFinset.card = c.world.labels.known.size :=
      (List.toFinset_card_of_nodup (AList.keys_nodup _)).trans (List.length_map _)
    calc (c.world.returned.map (·.2)).toFinset.card
        ≤ c.world.labels.known.keys.toFinset.card + 1 + 1 :=
          (Finset.card_le_card sub).trans ((Finset.card_insert_le _ _).trans
            (Nat.add_le_add_right (Finset.card_insert_le _ _) 1))
      _ ≤ _ := by
          have few := learned.few
          omega
  · exact ⟨normalize_idempotent raw, normalize_short raw, (normalize_canonical raw).chars⟩

instance (before : GameLabels) (allowlist : List String) (limit : Nat) (o : Unit) (w : LabelWorld) :
    Decidable ((labelMachine before allowlist limit).answers o w) :=
  inferInstanceAs (Decidable True)

instance (before : GameLabels) (allowlist : List String) (limit : Nat) (e : Nat × String)
    (w : LabelWorld) : Decidable ((labelMachine before allowlist limit).enabled e w) :=
  inferInstanceAs (Decidable True)

/-- Two calls for one game learn it together; there is no room for another. -/
theorem game_labels_bounded_raced : ∃ before c tr, Run (labelMachine before [] 1) c tr ∧
    c.world.returned = [("Ape Escape", "other"), (" klonoa ", "klonoa"), ("Klonoa", "klonoa")] ∧
    (c.world.returned.map (·.2)).toFinset.card ≤ 3 := by
  let before : GameLabels := { strict := false, limit := 64, known := ∅ }
  let ms : List (Interleave.Move Nat Unit (Nat × String)) :=
    [.event (0, "Klonoa"), .event (1, " klonoa "), .run 0 (), .run 1 (), .run 0 (), .run 1 (),
      .event (0, "Ape Escape"), .run 0 ()]
  have h : ((labelMachine before [] 1).follow ms).any fun x => x.1.world.returned =
      [("Ape Escape", "other"), (" klonoa ", "klonoa"), ("Klonoa", "klonoa")] := by
    decide +kernel
  obtain ⟨c, tr, r, ht, -⟩ := Machine.follow_reaches h
  exact ⟨before, c, tr, r, of_decide_eq_true ht, (game_labels_bounded r).1⟩

end RecompNet.Metrics
