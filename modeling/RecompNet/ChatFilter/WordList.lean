import RecompNet.ChatFilter.Hits

/-!
# The word list

The list that is built into the server and how it is read (`ChatFilter::parse`). What the claims
about it need is checked once, by evaluation: its entries consist of letters, and few of them can be
found in a given set of letters. A text is masked by the entries whose letters it has.
-/

namespace RecompNet.ChatFilter

/-- The lines of `data/chat_filter_words.txt`, after its head comment. -/
def BUILTIN_LIST : List String :=
  ["# ---- English ----",
    "fuck", "fucks", "fucker", "fuckers", "fucking", "fucked", "fuk", "fuked", "fuking",
    "motherfucker", "motherfucking", "mofo", "shit", "shits", "shitty", "shite", "bullshit",
    "horseshit", "bitch", "bitches", "bitchy", "asshole", "assholes", "ass", "arse", "arsehole",
    "cunt", "cunts", "cock", "cocks", "cocksucker", "dick", "dicks", "dickhead", "pussy",
    "pussies", "twat", "wanker", "wank", "bastard", "bastards", "slut", "sluts", "whore",
    "whores", "prick", "jackass", "dumbass", "cum", "jizz", "piss", "pissed", "fag", "fags",
    "~faggot", "dyke", "tranny", "retard", "retarded", "tard", "spaz", "~nigger", "nigga",
    "niggas", "~sandnigger", "chink", "chinks", "gook", "gooks", "spic", "spics", "kike",
    "kikes", "wetback", "wetbacks", "beaner", "beaners", "raghead", "towelhead", "paki", "pakis",
    "coon", "coons", "jap", "japs", "zipperhead", "honky", "kraut", "wop", "dago", "gyppo",
    "pikey", "~kys", "",
    "# ---- Spanish ----",
    "puta", "putas", "puto", "putos", "mierda", "joder", "jodete", "cono", "cabron", "cabrones",
    "cabrona", "pendejo", "pendejos", "pendeja", "chinga", "chingar", "chingada", "chingado",
    "chingatumadre", "hijodeputa", "hijueputa", "verga", "polla", "gilipollas", "maricon",
    "maricones", "marica", "sudaca", "malparido", "culero", "pinche", "mamon", "cojones",
    "carajo", "",
    "# ---- Portuguese ----",
    "porra", "caralho", "foda", "fodase", "foder", "fodido", "filhodaputa", "filhadaputa",
    "buceta", "boceta", "viado", "bicha", "merda", "cuzao", "arrombado", "vagabunda", "piranha",
    "desgraca", "macaco", "",
    "# ---- French ----",
    "putain", "merde", "connard", "connards", "connasse", "salope", "salopes", "salaud",
    "encule", "enculer", "enculee", "nique", "niquer", "niquetamere", "ntm", "pute", "putes",
    "fdp", "batard", "batarde", "bougnoule", "youpin", "chinetoque", "bamboula", "negre",
    "negro", "pd", "",
    "# ---- German ----",
    "scheisse", "scheiss", "scheise", "scheis",
    "# (ß folds to one s: scheiße -> scheise)",
    "arschloch", "arschlocher", "fotze", "hurensohn", "hurensohne", "wichser", "schlampe",
    "kanake", "kanaken", "neger", "schwuchtel", "missgeburt", "ficken", "fick", "verpisst",
    "drecksau", "schwanzlutscher", "",
    "# ---- Italian ----",
    "cazzo", "merda", "vaffanculo", "stronzo", "stronza", "stronzi", "puttana", "puttane",
    "troia", "frocio", "froci", "terrone", "terroni", "minchia", "coglione", "coglioni",
    "figlio di puttana", "figliodiputtana", "ricchione", "mignotta", "",
    "# ---- Dutch ----",
    "kut", "klootzak", "hoer", "kanker", "kankerlijer", "godverdomme", "tering", "neuken",
    "mongool", "flikker", "kutwijf", "tyfus", "",
    "# ---- Polish ----",
    "kurwa", "kurwy", "chuj", "chuje", "pierdol", "pierdolic", "pierdole", "jebac", "jebany",
    "jebana", "spierdalaj", "pizda", "cipa", "skurwysyn", "dziwka", "ciapaty", "ciapak", "",
    "# ---- Russian / Ukrainian ----",
    "блять", "бляд", "блядь", "сука", "суки", "хуй", "хуйня", "хуйло", "пизда", "пиздец",
    "ебать", "ебаный", "ебанный", "заебал", "заебали", "хер", "мудак", "мудила", "долбоеб",
    "долбаеб", "пидор", "пидорас", "пидарас", "пидр", "хач", "хачи", "чурка", "чурки", "жид",
    "жиды", "нигер", "нигеры", "гандон", "шлюха", "blyat", "blyad", "suka", "pizda", "pizdec",
    "pizdets", "huy", "xuy", "ebat", "yebat", "mudak", "pidor", "pidoras", "pidaras", "gandon",
    "shlyuha", "",
    "# ---- Turkish ----",
    "amk", "orospu", "orospucocugu", "siktir", "sikerim", "sikeyim", "yarrak", "ibne",
    "pezevenk", "kahpe", "amcik", "gavur", "",
    "# ---- Arabic (script and transliteration) ----",
    "~شرموطة", "~كسامك", "~كس امك", "~خرا", "~عرص", "~منيوك", "~زبي", "sharmouta", "sharmuta",
    "kosomak", "kossomak", "kosommak", "ayre", "khara", "manyak", "",
    "# ---- Hindi / Urdu ----",
    "chutiya", "chutiye", "chutiyapa", "madarchod", "maderchod", "behenchod", "bhenchod",
    "bhosdike", "bhosdi", "gaand", "gandu", "randi", "harami", "lund", "chut", "kamina",
    "~चूतिया", "~मादरचोद", "~भोसड़ी", "~रंडी", "~भेनचोद", "~गांडू", "",
    "# ---- Japanese ----",
    "~死ね", "~くたばれ", "~ちんこ", "~まんこ", "~キチガイ", "~きちがい", "~チョン", "~ニガー", "~土人", "~支那", "shine",
    "kutabare", "kichigai", "",
    "# ---- Chinese ----",
    "~操你妈", "~肏你妈", "~草你妈", "~傻逼", "~沙比", "~煞笔", "~他妈的", "~去死", "~狗日", "~王八蛋", "~婊子", "~贱人",
    "~鬼子", "~黑鬼", "~尼哥", "~支那", "~日本鬼子", "~屌你", "~仆街", "~冚家铲", "",
    "# ---- Korean ----",
    "~씨발", "~시발", "~씨팔", "~병신", "~개새끼", "~좆", "~지랄", "~미친놈", "~미친년", "~니미", "~엿먹어", "~짱깨",
    "~깜둥이", "~쪽바리", "",
    "# ---- Filipino ----",
    "putangina", "tangina", "gago", "gaga", "tarantado", "kantot", "pakyu", "ulol", "tanginamo",
    "putanginamo", "",
    "# ---- Indonesian / Malay ----",
    "bangsat", "kontol", "memek", "ngentot", "jancok", "jancuk", "bajingan", "pantek", "pukimak",
    "puki", "cibai", "lanjiao", "kimak", "babi", "",
    "# ---- Swedish / Norwegian / Danish ----",
    "fitta", "kuk", "hora", "javla", "javlar", "knulla", "svartskalle", "kuksuger", "fitte",
    "faen", "helvete", "luder", "",
    "# ---- Finnish ----",
    "vittu", "vitun", "perkele", "huora", "kyrpa", "paska", "neekeri", "ryssa", "mulkku", "",
    "# ---- Greek ----",
    "μαλακας", "μαλακα", "γαμω", "γαμωτο", "γαμιεσαι", "πουτανα", "μουνι", "καριολης", "αρχιδια",
    "",
    "# ---- Hebrew ----",
    "~זונה", "~כוסאמק", "~בןזונה", "~שרמוטה", "benzona", "kusemek", "",
    "# ---- Vietnamese ----",
    "địt", "đụ", "cặc", "lồn", "đĩ", "đồchó", "địtmẹ", "đụmá", "",
    "# ---- Thai ----",
    "~ควย", "~เหี้ย", "~สัส", "~ไอ้สัตว์", "~กู"]

/-- Read one line of a word list: whether its entry matches anywhere, and the characters of the
entry. -/
def read_line (raw : List Char) : Option (Bool × List Char) :=
  let line := (raw.reverse.dropWhile (· = '\r')).reverse
  if line = [] ∨ line.head? = some '#' then none
  else if line.head? = some '~' then some (true, line.tail.filter (· ≠ ' '))
  else some (false, line.filter (· ≠ ' '))

/-- An entry is kept if it has a character. -/
def read_word (anywhere : Bool) (body : List Char) : Option Word :=
  let cp := body.map fold
  if h : cp ≠ [] then some ⟨cp, anywhere, h⟩ else none

/-- The filter of a word list, given by its lines. -/
def parse (list : List String) (enabled : Bool) : ChatFilter where
  words := (list.map String.toList).filterMap fun raw =>
    (read_line raw).bind fun (anywhere, body) => read_word anywhere body
  enabled := enabled

/-- The filter when `init` is given no other list. -/
def builtin : ChatFilter := parse BUILTIN_LIST true

/-! ## The entries of the list -/

/-- `fold`, without work for a lower case letter of ASCII. -/
def fold_quickly (c : Char) : Char := if 97 ≤ c.toNat ∧ c.toNat ≤ 122 then c else fold c

lemma fold_quickly_eq (c : Char) : fold_quickly c = fold c := by
  have letters : ∀ n < 26, fold (Char.ofNat (97 + n)) = Char.ofNat (97 + n) := by decide
  unfold fold_quickly
  split_ifs with small
  · have h := letters (c.toNat - 97) (by omega)
    rw [Nat.add_sub_cancel' small.1, Char.ofNat_toNat] at h
    exact h.symm
  · rfl

/-- The entries of a list as they are matched. -/
def entries (lines : List (List Char)) : List (Bool × List Char) :=
  lines.filterMap fun raw => (read_line raw).bind fun (anywhere, body) =>
    if body = [] then none else some (anywhere, body.map fold_quickly)

lemma parse_entries (list : List String) (enabled : Bool) :
    (parse list enabled).words.map (fun w => (w.anywhere, w.cp)) =
      entries (list.map String.toList) := by
  unfold parse entries
  rw [List.map_filterMap]
  congr 1
  funext raw
  rw [Option.map_bind]
  refine congrArg _ (funext fun row => ?_)
  obtain ⟨anywhere, body⟩ := row
  have same : body.map fold_quickly = body.map fold :=
    List.map_congr_left fun c _ => fold_quickly_eq c
  simp only [Function.comp_apply, read_word, ne_eq, List.map_eq_nil_iff, same]
  split_ifs <;> simp_all

/-- The characters of a list of literals, read off one by one. -/
lemma map_toList_cons {s : String} {cs : List Char} {rest : List String} {css : List (List Char)}
    (head : s = String.ofList cs) (tail : rest.map String.toList = css) :
    (s :: rest).map String.toList = cs :: css := by
  rw [List.map_cons, head, String.toList_ofList, tail]

lemma of_read {list : List String} {P : List (List Char) → Prop} {css : List (List Char)}
    (read : list.map String.toList = css) (check : P css) : P (list.map String.toList) :=
  read ▸ check

/-- An entry is made of the letters given. -/
def among (letters : List Char) (e : Bool × List Char) : Bool := e.2.all letters.contains

/-- What evaluation shows about the list: its entries consist of letters, and these are the ones
that two sets of letters make. -/
def checked (es : List (Bool × List Char)) : Bool :=
  es.all (fun e => e.2.all is_letter) &&
  es.filter (among "merdkysx.*".toList) == [(false, "dyke".toList), (true, "kys".toList),
    (false, "merde".toList), (false, "memek".toList)] &&
  es.filter (among "player-oiseat2689".toList) == [(false, "ass".toList), (false, "arse".toList),
    (false, "piss".toList), (false, "polla".toList), (false, "porra".toList),
    (false, "salope".toList), (false, "salopes".toList), (false, "troia".toList),
    (false, "ayre".toList), (false, "ryssa".toList)]

lemma builtin_checked : checked (entries (BUILTIN_LIST.map String.toList)) := by
  apply of_read (P := fun lines => checked (entries lines))
  · unfold BUILTIN_LIST
    repeat first | exact List.map_nil | apply map_toList_cons rfl
  · decide +kernel

/-- The entries consist of letters. -/
lemma builtin_letters {w : Word} (hw : w ∈ builtin.words) {c : Char} (hc : c ∈ w.cp) :
    is_letter c := by
  have all := builtin_checked
  simp only [checked, Bool.and_eq_true] at all
  have mem : (w.anywhere, w.cp) ∈ entries (BUILTIN_LIST.map String.toList) := by
    rw [← parse_entries BUILTIN_LIST true]
    exact List.mem_map_of_mem hw
  exact List.all_eq_true.mp (List.all_eq_true.mp all.1.1 _ mem) c hc

/-! ## The entries that a text can have -/

/-- The entries made of the letters given. -/
def words_among (words : List Word) (letters : List Char) : List Word :=
  words.filter fun w => among letters (w.anywhere, w.cp)

section
variable {words : List Word} {letters text : List Char} {i : Nat}

/-- A word that is matched is made of characters of the text, from the start of the match on. -/
lemma match_letters_mem {t : List Char} {allow_sep first : Bool} {ws : List Char} {p : Nat}
    (h : match_letters t allow_sep first ws i = some p) : ∀ c ∈ ws, c ∈ t.drop i := by
  induction ws generalizing first i with
  | nil =>
    intro c hc
    cases hc
  | cons want rest ih =>
    obtain ⟨a, b, ha, here, hb, h⟩ := match_letters_cons.mp h
    have le_a : i ≤ a := by
      rw [ha]
      split
      · exact le_skipWhile _ _ _
      · exact le_rfl
    have lt_b : a + 1 ≤ b := by
      rw [hb]
      split
      · exact le_skipWhile _ _ _
      · exact le_rfl
    intro c hc
    rcases List.mem_cons.mp hc with rfl | hc
    · apply List.mem_of_getElem? (i := a - i)
      rw [List.getElem?_drop, Nat.add_sub_cancel' le_a]
      exact here
    · exact List.drop_subset_drop_left t (by omega) (ih h c hc)

/-- The longest match is one of an entry made of the letters of the text. -/
lemma best_end_among {orig : List Char} (known : ∀ c ∈ text.map fold, c ∈ letters) :
    best_end words (text.map fold) orig i =
      best_end (words_among words letters) (text.map fold) orig i := by
  have le : ∀ {ws ws' : List Word}, (∀ w ∈ ws, 0 < match_at (text.map fold) orig i w → w ∈ ws') →
      best_end ws (text.map fold) orig i ≤ best_end ws' (text.map fold) orig i := by
    intro ws ws' sub
    rcases Nat.eq_zero_or_pos (best_end ws (text.map fold) orig i) with none | some
    · rw [none]
      exact Nat.zero_le _
    · obtain ⟨w, hw, head, e⟩ := (best_end_spec ws _ orig i).1 some
      rw [← e] at some ⊢
      exact (best_end_spec ws' _ orig i).2 w (sub w hw some) head
  refine le_antisymm (le fun w hw found => ?_) (le fun w hw _ => (List.mem_filter.mp hw).1)
  refine List.mem_filter.mpr ⟨hw, List.all_eq_true.mpr fun c hc => ?_⟩
  exact List.contains_iff_mem.mpr
    (known c (List.mem_of_mem_drop (match_letters_mem ((match_at_eq found).mp rfl).1 c hc)))

/-- A text is masked by the entries made of its letters. -/
lemma mask_among {text : String} (known : ∀ c ∈ text.toList.map fold, c ∈ letters) :
    (ChatFilter.mk words true).mask text =
      (ChatFilter.mk (words_among words letters) true).mask text := by
  have same : find_hit words text.toList = find_hit (words_among words letters) text.toList := by
    funext after i
    unfold find_hit
    rw [best_end_among known]
  rw [mask_eq, mask_eq, hits, hits, same]

/-- The entries of the list that the letters make, by what they match. -/
lemma builtin_among {ws : List Word}
    (found : (entries (BUILTIN_LIST.map String.toList)).filter (among letters) =
      ws.map fun w => (w.anywhere, w.cp)) : words_among builtin.words letters = ws := by
  have injective : Function.Injective fun w : Word => (w.anywhere, w.cp) := by
    rintro ⟨cp, anywhere, h⟩ ⟨cp', anywhere', h'⟩ e
    cases e
    rfl
  rw [← parse_entries BUILTIN_LIST true, List.filter_map] at found
  exact injective.list_map found

end

/-- The entries made of the letters of `merde`, `kys` and a few others. -/
lemma builtin_merde : words_among builtin.words "merdkysx.*".toList =
    [⟨"dyke".toList, false, by decide⟩, ⟨"kys".toList, true, by decide⟩,
      ⟨"merde".toList, false, by decide⟩, ⟨"memek".toList, false, by decide⟩] := by
  have all := builtin_checked
  simp only [checked, Bool.and_eq_true, beq_iff_eq] at all
  exact builtin_among all.1.2

lemma merde_entry : (⟨"merde".toList, false, by decide⟩ : Word) ∈ builtin.words := by
  have mem : (⟨"merde".toList, false, by decide⟩ : Word) ∈
      words_among builtin.words "merdkysx.*".toList := by
    rw [builtin_merde]
    simp
  exact (List.mem_filter.mp mem).1

/-- A text made of those letters is masked by four entries. -/
lemma builtin_mask_merde {text : String}
    (known : (text.toList.map fold).all ("merdkysx.*".toList.contains ·)) : builtin.mask text =
      (ChatFilter.mk [⟨"dyke".toList, false, by decide⟩, ⟨"kys".toList, true, by decide⟩,
        ⟨"merde".toList, false, by decide⟩,
        ⟨"memek".toList, false, by decide⟩] true).mask text := by
  rw [← builtin_merde]
  exact mask_among fun c hc => List.contains_iff_mem.mp (List.all_eq_true.mp known c hc)

end RecompNet.ChatFilter
