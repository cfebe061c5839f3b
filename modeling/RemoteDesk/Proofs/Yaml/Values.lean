import RemoteDesk.Proofs.Yaml.Block
import RemoteDesk.Proofs.Yaml.Plain
import RemoteDesk.Proofs.Yaml.Quoted
import RemoteDesk.Proofs.Yaml.Writing
import RemoteDesk.Yaml.Token.Lexer

/-! # Scalars as values of fields

Between the fields of a mapping nothing is remembered of them but their tokens: no key may have
started, and only the block of the mapping is open. A scalar that was written behind the colon of a
field is found as one token, in whichever style it was written, and leads back to that state.
-/

namespace RemoteDesk.Yaml

open Writing

/-! ## Places -/

namespace Position

variable (p : Position)

theorem after_append (cs ds : List Char) : p.after (cs ++ ds) = (p.after cs).after ds := by
  induction cs generalizing p with
  | nil => rfl
  | cons c cs ih => exact ih _

theorem after_line {cs : List Char} (oneLine : ∀ c ∈ cs, isBreak c = false) :
    p.after cs = ⟨p.line, p.column + cs.length⟩ := by
  induction cs generalizing p with
  | nil => rfl
  | cons c cs ih =>
      have content : isBreak c = false := oneLine c List.mem_cons_self
      have later := ih ⟨p.line, p.column + 1⟩ fun d h => oneLine d (List.mem_cons_of_mem c h)
      simp only [after, content, Bool.false_eq_true, if_false, later, List.length_cons]
      rw [Nat.add_assoc, Nat.add_comm 1]

/-- A line break leads to the left edge. -/
theorem exists_after_break (cs : List Char) (ends : cs.getLast?.any isBreak) :
    ∃ line, p.after cs = ⟨line, 0⟩ := by
  rcases List.eq_nil_or_concat cs with rfl | ⟨before, c, rfl⟩
  · cases ends
  · rw [List.concat_eq_append] at ends ⊢
    have last : isBreak c := by simpa using ends
    exact ⟨(p.after before).line + 1, by simp [after_append, after, last]⟩

end Position

namespace Lexer

theorem moveTo_append {l : Lexer} {taken rest : List Char} (source : l.rest = taken ++ rest) :
    l.moveTo rest = { l with rest, position := l.position.after taken } := by
  simp [moveTo, source]

/-! ## Between tokens -/

/-- A token starts here: the character is not passed over. -/
structure Starts (c : Char) : Prop where
  white : isWhite c = false
  content : isBreak c = false
  sign : c ≠ '#'
  mark : c ≠ byteOrderMark

theorem starts_of_isWordChar {c : Char} (h : isWordChar c) : Starts c where
  white := (visible_of_isWordChar h).white
  content := (visible_of_isWordChar h).content
  sign := ne_of_class h rfl
  mark := ne_of_class h rfl

theorem skip_of_starts {c : Char} (h : Starts c) (column : Nat) (keyAllowed : Bool)
    (rest : List Char) :
    skip false column keyAllowed false (c :: rest) = (keyAllowed, c :: rest) := by
  have blank : c ≠ ' ' ∧ c ≠ '\t' := by simpa [isWhite] using h.white
  simp [skip, h.content, blank, h.sign, h.mark]

theorem skip_atWord {more : List Char} (next : AtWord more) (column : Nat) (keyAllowed : Bool) :
    skip false column keyAllowed false more = (keyAllowed, more) := by
  cases more with
  | nil => rfl
  | cons c more => exact skip_of_starts (starts_of_isWordChar next) column keyAllowed more

/-- What is passed over between tokens changes nothing else, if nothing is open but a block at the
    left edge. -/
theorem settle_skip {l : Lexer} (blank : List Char) {rest : List Char} {keyAllowed : Bool}
    (source : l.rest = blank ++ rest)
    (skips : skip false l.position.column l.keyAllowed false l.rest = (keyAllowed, rest))
    (flow : l.outer = []) (blocks : ∀ column ∈ l.blocks, column = 0)
    (fresh : stillFresh (l.position.after blank) l.candidate = .ok l.candidate) :
    l.settle = .ok { l with rest, position := l.position.after blank, keyAllowed } := by
  have block : l.inFlow = false := by simp [inFlow, flow]
  have unclosed (column : Nat) : l.blocks.takeWhile (fun b => column < b) = [] := by
    cases known : l.blocks with
    | nil => rfl
    | cons b blocks' => simp [blocks b (by simp [known])]
  rw [settle, block, skips]
  simp only [moveTo_append source, bind, Except.bind, fresh, flow, closeBlocks, inFlow]
  simp [unclosed, pure, Except.pure]

/-- The state between two fields: at the left edge, where a key may start. -/
def atLine (line : Nat) (tokens : List Token) (blocks : List Nat) (rest : List Char) : Lexer :=
  { rest, position := ⟨line, 0⟩, tokens, blocks, candidate := none, outer := []
    keyAllowed := true }

/-- The state behind the colon of a field. -/
def atValue (p : Position) (tokens : List Token) (rest : List Char) : Lexer :=
  { rest, position := p, tokens, blocks := [0], candidate := none, outer := []
    keyAllowed := false }

theorem settle_atLine {more : List Char} (next : AtWord more) (line : Nat) (tokens : List Token)
    {blocks : List Nat} (opened : blocks = [] ∨ blocks = [0]) :
    (atLine line tokens blocks more).settle = .ok (atLine line tokens blocks more) := by
  refine settle_skip [] rfl (skip_atWord next 0 true) rfl ?_ rfl
  rcases opened with rfl | rfl <;> simp [atLine]

/-! ## Scalars as values -/

/-- The characters are found as one token where the value of a field is, up to the next field. -/
def IsValue (value : List Char) (t : Token) : Prop :=
  ∃ c rest, value = c :: rest ∧ Starts c ∧
    ∀ more, AtWord more → ∀ (p : Position) (tokens : List Token), 0 < p.column →
      ∃ l line, (atValue p tokens (value ++ more)).token c (rest ++ more) = .ok l ∧
        l.settle = .ok (atLine line (t :: tokens) [0] more)

/-- A plain scalar starts here and no other token does. -/
theorem token_plain {l : Lexer} {c : Char} {after : List Char} (flow : l.outer = [])
    (unmarked : l.position.column = 0 → isDocumentMark (c :: after) = false)
    (white : isWhite c = false) (content : isBreak c = false)
    (mark : Plain.startsOther c after = false) : l.token c after = l.plain := by
  have block : l.inFlow = false := by simp [inFlow, flow]
  have unmarked' : ¬ (l.position.column = 0 ∧ isDocumentMark (c :: after)) := by
    rintro ⟨edge, marked⟩
    simp [unmarked edge] at marked
  by_cases special : c = '-' ∨ c = '?' ∨ c = ':'
  · have goesOn : wordEnds after = false := by
      rcases special with rfl | rfl | rfl <;> exact mark
    have next : after.head?.any isWhite = false := by
      cases after with
      | nil => cases goesOn
      | cons d after => exact (Bool.or_eq_false_iff.mp goesOn).1
    rcases special with rfl | rfl | rfl <;>
      simp [token, unmarked', goesOn, next, block, startsPlain]
  · simp only [not_or] at special
    have indicator : isIndicator c = false := by simpa [Plain.startsOther, special] using mark
    have starts : startsPlain false c after := by simp [startsPlain, white, content, indicator]
    simp only [isIndicator, decide_eq_false_iff_not, List.mem_cons, not_or] at indicator
    simp [token, unmarked', indicator, block, starts]

/-- Where a value stands no key may start, so a token only has itself noted. -/
theorem offer_atValue (p : Position) (tokens : List Token) (taken rest : List Char) (t : Token) :
    (atValue p tokens (taken ++ rest)).offer t rest =
      .ok (atValue (p.after taken) (t :: tokens) rest) := by
  let l := atValue p tokens (taken ++ rest)
  have source : l.rest = taken ++ rest := rfl
  have noKey : l.offerKey = .ok l := rfl
  show l.offer t rest = _
  rw [offer, noKey]
  simp only [take, push, moveTo_append source, bind, Except.bind, pure, Except.pure]
  rfl

theorem plain_atValue (p : Position) (tokens : List Token) {taken rest text : List Char}
    {overLines : Bool}
    (read : Plain.read false 1 .empty (taken ++ rest) = .ok ⟨text, rest, overLines⟩) :
    (atValue p tokens (taken ++ rest)).plain =
      .ok { atValue (p.after taken) (.scalar .plain (String.ofList text) :: tokens) rest with
        keyAllowed := overLines } := by
  let l := atValue p tokens (taken ++ rest)
  have read' : Plain.read l.inFlow l.margin .empty l.rest = .ok ⟨text, rest, overLines⟩ := read
  rw [plain, read']
  simp only [bind, Except.bind, offer_atValue]
  rfl

theorem isValue_plain {cs : List Char} (fits : fitsPlain cs) :
    IsValue (cs ++ ['\n']) (.scalar .plain (String.ofList cs)) := by
  obtain ⟨c, rest, rfl, printable, white, content, mark⟩ := Plain.start_of_fitsPlain fits
  have sign : c ≠ '#' := by
    rintro rfl
    cases mark
  refine ⟨c, rest ++ ['\n'], rfl, ⟨white, content, sign, ne_of_class printable rfl⟩, ?_⟩
  intro more next p tokens inside
  have only : Plain.startsOther c (rest ++ ['\n'] ++ more) = false :=
    Plain.startsOther_append (Plain.startsOther_append mark ['\n']) more
  have read : Plain.read false 1 .empty (c :: rest ++ ['\n'] ++ more) =
      .ok ⟨c :: rest, more, true⟩ := by
    rw [List.append_assoc]
    exact Plain.read_line Nat.one_pos fits next
  obtain ⟨line, edge⟩ := p.exists_after_break (c :: rest ++ ['\n'])
    (by rw [List.getLast?_append]; rfl)
  have here := plain_atValue p tokens read
  rw [edge] at here
  refine ⟨_, line, ?_, settle_atLine next line _ (.inr rfl)⟩
  refine Eq.trans (token_plain rfl ?_ white content only) here
  exact fun atEdge => absurd atEdge (Nat.ne_of_gt inside)

/-- After a quoted scalar the line ends. -/
theorem settle_break (p : Position) (tokens : List Token) {more : List Char} (next : AtWord more) :
    ∃ line, (atValue p tokens ('\n' :: more)).settle = .ok (atLine line tokens [0] more) := by
  have skips : skip false p.column false false ('\n' :: more) = (true, more) := by
    simpa [skip, isBreak] using skip_atWord next 0 true
  have settled := settle_skip (l := atValue p tokens ('\n' :: more)) ['\n'] rfl skips rfl
    (by simp [atValue]) rfl
  exact ⟨p.line + 1, settled⟩

/-- A scalar between quotes, of which the first character says how it is read. -/
theorem isValue_quoted {quote : Char} (starts : Starts quote) {inside cs : List Char}
    {style : Style} (reader : List Char → Except Fault (List Char × List Char))
    (token : ∀ l : Lexer, ∀ after, l.token quote after = l.quoted style (reader after))
    (read : ∀ more, reader (inside ++ quote :: '\n' :: more) = .ok (cs, '\n' :: more)) :
    IsValue (quote :: inside ++ [quote] ++ ['\n']) (.scalar style (String.ofList cs)) := by
  refine ⟨quote, inside ++ [quote] ++ ['\n'], rfl, starts, ?_⟩
  intro more next p tokens _
  have offered := offer_atValue p tokens (quote :: inside ++ [quote]) ('\n' :: more)
    (.scalar style (String.ofList cs))
  obtain ⟨line, settled⟩ := settle_break (p.after (quote :: inside ++ [quote]))
    (.scalar style (String.ofList cs) :: tokens) next
  have after : inside ++ [quote] ++ ['\n'] ++ more = inside ++ quote :: '\n' :: more := by simp
  have source : quote :: inside ++ [quote] ++ ['\n'] ++ more =
      quote :: inside ++ [quote] ++ '\n' :: more := by simp
  refine ⟨_, line, ?_, settled⟩
  rw [token, after, source, quoted, read]
  exact offered

theorem isValue_single {cs : List Char} (fits : fitsSingle cs) (feeds : '\n' ∉ cs) :
    IsValue (single cs ++ ['\n']) (.scalar .single (String.ofList cs)) := by
  rw [Quoted.single_eq]
  refine isValue_quoted ⟨rfl, rfl, by decide, by decide⟩ (Quoted.readSingle .empty) ?_ ?_
  · intro l after
    simp [token, isDocumentMark]
  · exact fun more => Quoted.readSingle_written fits feeds (by simp)

theorem isValue_double (cs : List Char) :
    IsValue (double cs ++ ['\n']) (.scalar .double (String.ofList cs)) := by
  refine isValue_quoted ⟨rfl, rfl, by decide, by decide⟩ (Quoted.readDouble .empty 0 0) ?_ ?_
  · intro l after
    simp [token, isDocumentMark]
  · exact fun more => Quoted.readDouble_written cs [] ('\n' :: more)

theorem isValue_literal {cs : List Char} (nonempty : cs ≠ []) (fits : fitsLiteral cs) :
    IsValue (literal cs) (.scalar .literal (String.ofList cs)) := by
  simp only [fitsLiteral, Bool.and_eq_true, List.all_eq_true] at fits
  obtain ⟨⟨printable, -⟩, -⟩ := fits
  refine ⟨'|', literalHints cs ++ '\n' :: indentLines true cs ++
    (if cs.getLast?.any isBreak then [] else ['\n']), rfl, ⟨rfl, rfl, by decide, by decide⟩, ?_⟩
  intro more next p tokens _
  let l := atValue p tokens (literal cs ++ more)
  have read := Block.read_literal nonempty printable next
  have source : l.rest = literal cs ++ more := rfl
  obtain ⟨line, edge⟩ := p.exists_after_break _ (Block.literal_ends cs)
  have found (after : List Char) : l.token '|' after = l.block .literal after := by
    simp [token, isDocumentMark, inFlow, l, atValue]
  refine ⟨atLine line (.scalar .literal (String.ofList cs) :: tokens) [0] more, line, ?_,
    settle_atLine next line _ (.inr rfl)⟩
  have noKey : l.dropKey = .ok l := rfl
  rw [found, block, noKey]
  show (Block.read false 0 1 _).bind _ = _
  rw [read]
  show Except.ok { l.take (.scalar .literal (String.ofList cs)) more with keyAllowed := true } = _
  rw [take, moveTo_append source]
  show Except.ok { atLine 0 _ [0] more with position := p.after (literal cs) } = _
  rw [edge]
  rfl

/-- Every text is written as a scalar that is read as one token with that text. -/
theorem isValue_scalar (s : String) : IsValue (Writing.scalar s) (.scalar (style s) s) := by
  have whole : String.ofList s.toList = s := String.ofList_toList
  unfold Writing.scalar
  rcases style_cases s with ⟨how, nonempty, fits⟩ | ⟨how, -, fits⟩ | ⟨how, feeds, fits⟩ | how
  · simpa [how, whole] using isValue_literal nonempty fits
  · simpa [how, whole] using isValue_plain fits
  · simpa [how, whole] using isValue_single fits feeds
  · simpa [how, whole] using isValue_double s.toList

/-- A word that says a truth value or a number is written plain. -/
theorem isValue_word {word : String} (h : IsWord word.toList) :
    IsValue (word.toList ++ ['\n']) (.scalar .plain word) := by
  have value := isValue_plain (Plain.fitsPlain_of_word h)
  rwa [String.ofList_toList] at value

end Lexer

end RemoteDesk.Yaml
