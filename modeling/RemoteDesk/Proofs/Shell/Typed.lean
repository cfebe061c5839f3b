import RemoteDesk.Shell.Command

/-! # Words that are typed in quotes

Whatever characters a word has, it can be typed: in single quotes, with every single quote of its own
written outside of them. A line of words that are typed so is cut into just these words, however many
blanks stand between and around them, and so the command on it depends on the words alone.
-/

namespace RemoteDesk

namespace Words

/-- Only characters that separate words. -/
def Blank (gap : String) : Prop :=
  ∀ c ∈ gap.toList, isSeparator c = true

instance : DecidablePred Blank :=
  fun gap => decidable_of_iff (gap.toList.all isSeparator = true) List.all_eq_true

/-- The words in quotes, each with what stands behind it, and what stands before the first. -/
def typed (lead : String) (words : List (String × String)) : String :=
  lead ++ String.join (words.map fun word => quote word.1 ++ word.2)

/-- There are only blanks behind the words, and some between any two of them. -/
structure Spaced (words : List (String × String)) : Prop where
  blank : ∀ word ∈ words, Blank word.2
  apart : ∀ word ∈ words.dropLast, word.2 ≠ ""

theorem Spaced.tail {word : String × String} {rest : List (String × String)}
    (h : Spaced (word :: rest)) : Spaced rest := by
  refine ⟨fun other member => h.blank other (List.mem_cons_of_mem _ member), ?_⟩
  cases rest with
  | nil => exact fun other member => nomatch member
  | cons next others =>
      intro other member
      exact h.apart other (List.mem_cons_of_mem _ member)

/-- Nothing stands behind the last word at most. -/
theorem Spaced.eq_nil {word : String × String} {rest : List (String × String)}
    (h : Spaced (word :: rest)) (bare : word.2 = "") : rest = [] := by
  cases rest with
  | nil => rfl
  | cons next others => exact absurd bare (h.apart word List.mem_cons_self)

/-! ## Reading -/

theorem separator_plain {c : Char} (h : isSeparator c = true) :
    c ≠ '\'' ∧ c ≠ '"' ∧ c ≠ '\\' := by
  refine ⟨?_, ?_, ?_⟩ <;>
  · rintro rfl
    exact absurd h (by decide)

/-- Blanks between words are passed over. -/
theorem splitFrom_gap {gap : List Char} (blank : ∀ c ∈ gap, isSeparator c = true)
    (rest : List Char) : splitFrom .gap [] (gap ++ rest) = splitFrom .gap [] rest := by
  induction gap with
  | nil => rfl
  | cons c others ih =>
      have separates := blank c List.mem_cons_self
      obtain ⟨notSingle, notDouble, notEscape⟩ := separator_plain separates
      rw [List.cons_append, splitFrom, if_neg notSingle, if_neg notDouble, if_neg notEscape,
        if_pos separates]
      exact ih fun c' member => blank c' (List.mem_cons_of_mem _ member)

/-- A word ends at the first blank, or where the line ends. -/
theorem splitFrom_bare {gap rest : List Char} (blank : ∀ c ∈ gap, isSeparator c = true)
    (apart : gap = [] → rest = []) (word : List Char) :
    splitFrom .bare word (gap ++ rest) = (splitFrom .gap [] rest).map (word.reverse :: ·) := by
  cases gap with
  | nil =>
      rw [apart rfl]
      rfl
  | cons c others =>
      have separates := blank c List.mem_cons_self
      obtain ⟨notSingle, notDouble, notEscape⟩ := separator_plain separates
      rw [List.cons_append, splitFrom, if_neg notSingle, if_neg notDouble, if_neg notEscape,
        if_pos separates, splitFrom_gap fun c' member => blank c' (List.mem_cons_of_mem _ member)]

/-- Inside single quotes every character is read as it is; a single quote is read by way of a
    backslash between two pairs of them. -/
theorem splitFrom_single (letters seen rest : List Char) :
    splitFrom .single seen
      (letters.flatMap (fun c => if c = '\'' then ['\'', '\\', '\'', '\''] else [c])
        ++ '\'' :: rest) =
      splitFrom .bare (letters.reverse ++ seen) rest := by
  induction letters generalizing seen with
  | nil => simp [splitFrom]
  | cons c others ih =>
      by_cases quotes : c = '\''
      · simp [quotes, splitFrom, ih]
      · simp [quotes, splitFrom, ih]

theorem splitFrom_quote (word : String) (rest : List Char) :
    splitFrom .gap [] ((quote word).toList ++ rest) =
      splitFrom .bare word.toList.reverse rest := by
  rw [quote, String.toList_ofList, List.append_assoc, List.cons_append, splitFrom, if_pos rfl,
    List.singleton_append, splitFrom_single, List.append_nil]

theorem splitFrom_words {words : List (String × String)} (spaced : Spaced words) :
    splitFrom .gap [] (words.flatMap fun word => (quote word.1).toList ++ word.2.toList) =
      some (words.map (·.1.toList)) := by
  induction words with
  | nil => rfl
  | cons word others ih =>
      have apart : word.2.toList = [] →
          others.flatMap (fun word => (quote word.1).toList ++ word.2.toList) = [] := by
        intro bare
        rw [spaced.eq_nil (String.toList_eq_nil_iff.mp bare)]
        rfl
      rw [List.flatMap_cons, List.append_assoc, splitFrom_quote,
        splitFrom_bare (spaced.blank word List.mem_cons_self) apart, ih spaced.tail,
        List.reverse_reverse]
      rfl

/-- A line of typed words is cut into these words. -/
theorem split_typed {lead : String} {words : List (String × String)} (blank : Blank lead)
    (spaced : Spaced words) : split (typed lead words) = some (words.map (·.1)) := by
  have letters : (typed lead words).toList =
      lead.toList ++ words.flatMap fun word => (quote word.1).toList ++ word.2.toList := by
    simp [typed, List.flatMap_def, Function.comp_def]
  rw [split, letters, splitFrom_gap blank, splitFrom_words spaced]
  simp [Function.comp_def]

end Words

namespace Command

/-- The words that name a command. -/
def names : List String :=
  ["new", "credentials", "show_credentials", "subtask", "subtask-dir", "assigned", "complete",
    "discard", "tasks", "help", "?", "exit", "quit", "back"]

theorem alone_ne_unknown {name word : String} {arguments : List String} {command : Command}
    (known : command ≠ .unknown word) : alone name arguments command ≠ .ok (.unknown word) := by
  unfold alone
  split
  · exact fun same => known (Except.ok.inj same)
  · exact nofun

theorem ofWords_subtask_of_length {arguments : List String} (count : arguments.length ≠ 2) :
    ofWords "subtask" arguments = .error (.usage "subtask <id> <file>") := by
  rcases arguments with _ | ⟨id, _ | ⟨path, _ | ⟨more, rest⟩⟩⟩
  · rfl
  · rfl
  · exact absurd rfl count
  · rfl

theorem ofWords_subtaskDir_of_length {arguments : List String} (count : arguments.length ≠ 1) :
    ofWords "subtask-dir" arguments = .error (.usage "subtask-dir <dir>") := by
  rcases arguments with _ | ⟨directory, _ | ⟨more, rest⟩⟩
  · rfl
  · exact absurd rfl count
  · rfl

theorem ofWords_of_not_mem {name : String} (strange : name ∉ names) (arguments : List String) :
    ofWords name arguments = .ok (.unknown name) := by
  simp only [names, List.mem_cons, List.not_mem_nil, or_false, not_or] at strange
  simp [ofWords, strange]

theorem ofWords_ne_unknown {name : String} (known : name ∈ names) (arguments : List String)
    (word : String) : ofWords name arguments ≠ .ok (.unknown word) := by
  by_cases attaches : name = "subtask"
  · subst attaches
    rcases arguments with _ | ⟨id, _ | ⟨path, _ | ⟨more, rest⟩⟩⟩ <;> exact nofun
  by_cases gathers : name = "subtask-dir"
  · subst gathers
    rcases arguments with _ | ⟨directory, _ | ⟨more, rest⟩⟩ <;> exact nofun
  simp only [names, List.mem_cons, List.not_mem_nil, or_false, attaches, gathers, false_or]
    at known
  rcases known with rfl | rfl | rfl | rfl | rfl | rfl | rfl | rfl | rfl | rfl | rfl | rfl <;>
    simp [ofWords, alone_ne_unknown]

/-- Whatever words are typed in quotes, however they are spaced, the line is cut into these words and
    asks for what they say. A name that is not in the table is kept as it is. -/
theorem parse_typed {lead : String} {words : List (String × String)} (blank : Words.Blank lead)
    (spaced : Words.Spaced words) :
    let line := Words.typed lead words
    Words.split line = some (words.map (·.1)) ∧
    (words = [] → parse line = .ok none) ∧
    ∀ name arguments, words.map (·.1) = name :: arguments →
      parse line = (ofWords name arguments).map some ∧
      (name = "subtask" →
        (∀ id path, arguments = [id, path] → parse line = .ok (some (.subtask id path))) ∧
        (arguments.length ≠ 2 → parse line = .error (.usage "subtask <id> <file>"))) ∧
      (name = "subtask-dir" →
        (∀ directory, arguments = [directory] → parse line = .ok (some (.subtaskDir directory))) ∧
        (arguments.length ≠ 1 → parse line = .error (.usage "subtask-dir <dir>"))) ∧
      (parse line = .ok (some (.unknown name)) ↔ name ∉ names) := by
  intro line
  have cut : Words.split line = some (words.map (·.1)) := Words.split_typed blank spaced
  refine ⟨cut, ?_, ?_⟩
  · rintro rfl
    rw [parse, cut]
    rfl
  intro name arguments same
  have asked : parse line = (ofWords name arguments).map some := by
    rw [parse, cut, same]
    cases answer : ofWords name arguments <;> simp [answer, Except.map]
  refine ⟨asked, ?_, ?_, ?_⟩
  · rintro rfl
    refine ⟨?_, fun count => ?_⟩
    · rintro id path rfl
      exact asked
    · rw [asked, ofWords_subtask_of_length count]
      rfl
  · rintro rfl
    refine ⟨?_, fun count => ?_⟩
    · rintro directory rfl
      exact asked
    · rw [asked, ofWords_subtaskDir_of_length count]
      rfl
  · rw [asked]
    constructor
    · intro kept known
      refine ofWords_ne_unknown known arguments name ?_
      cases answer : ofWords name arguments with
      | error e => simp [answer, Except.map] at kept
      | ok command => simpa [answer, Except.map] using kept
    · intro strange
      rw [ofWords_of_not_mem strange]
      rfl

/-- A path with a blank, a quote and a mark of comments, behind an empty id. -/
theorem parse_typed_subtask :
    let words := [("subtask", " \t"), ("", " "), ("it's #1\n", "")]
    Words.Blank " " ∧ Words.Spaced words ∧
    Words.typed " " words = " 'subtask' \t'' 'it'\\''s #1\n'" ∧
    parse (Words.typed " " words) = .ok (some (.subtask "" "it's #1\n")) := by
  intro words
  have blank : Words.Blank " " := by decide
  have spaced : Words.Spaced words := ⟨by decide, by decide⟩
  obtain ⟨-, -, asked⟩ := parse_typed blank spaced
  obtain ⟨-, attaches, -⟩ := asked "subtask" ["", "it's #1\n"] rfl
  exact ⟨blank, spaced, by decide +kernel, (attaches rfl).1 "" "it's #1\n" rfl⟩

end Command

end RemoteDesk
