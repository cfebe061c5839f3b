import RemoteDesk.Proofs.Yaml.Values

/-! # The tokens of written fields

A mapping is written field by field, and each field starts a line. A field takes three tokens, its
name as a key, the colon and its value, and it ends in the state in which it started. So a whole row
of fields is run through to the end, where the block of the mapping is closed.
-/

namespace RemoteDesk.Yaml

open Writing

namespace Lexer

/-! ## Fields -/

/-- The mark that opens the block of a mapping, unless it is open. -/
def opening : List Nat → List Token
  | [] => [.blockMapping]
  | _ => []

/-- The state behind the name of a field. -/
def atColon (line : Nat) (tokens : List Token) (blocks : List Nat) (name after : List Char) :
    Lexer :=
  { rest := ':' :: ' ' :: after, position := ⟨line, name.length⟩
    tokens := .scalar .plain (String.ofList name) :: tokens, blocks
    candidate := some ⟨tokens.length, ⟨line, 0⟩, blocks.head? == some 0⟩, outer := []
    keyAllowed := false }

section Field

variable {name value : List Char} {t : Token} {line : Nat} {tokens : List Token} {blocks : List Nat}
  {more : List Char}

theorem plain_atLine (word : IsWord name) (after : List Char) :
    (atLine line tokens blocks (name ++ ':' :: ' ' :: after)).plain =
      .ok (atColon line tokens blocks name after) := by
  let l := atLine line tokens blocks (name ++ ':' :: ' ' :: after)
  let key : Candidate := ⟨tokens.length, ⟨line, 0⟩, blocks.head? == some 0⟩
  have oneLine : ∀ c ∈ name, isBreak c = false := fun c h => (word.visible c h).content
  have read : Plain.read l.inFlow l.margin .empty l.rest = .ok ⟨name, ':' :: ' ' :: after, false⟩ :=
    Plain.read_key word l.margin after
  have noted : l.offerKey = .ok { l with candidate := some key } := rfl
  have source : ({ l with candidate := some key } : Lexer).rest = name ++ ':' :: ' ' :: after :=
    rfl
  have moved : l.position.after name = ⟨line, name.length⟩ := by
    simp [l, atLine, Position.after_line _ oneLine]
  have offered : l.offer (.scalar .plain (String.ofList name)) (':' :: ' ' :: after) =
      .ok (atColon line tokens blocks name after) := by
    rw [offer, noted]
    simp only [bind, Except.bind, take, moveTo_append source, moved]
    rfl
  show l.plain = _
  rw [plain, read]
  simp only [bind, Except.bind, offered]
  rfl

theorem token_key {c : Char} {rest : List Char} (word : IsWord (c :: rest)) (after : List Char) :
    (atLine line tokens blocks (c :: rest ++ ':' :: ' ' :: after)).token c
        (rest ++ ':' :: ' ' :: after) =
      .ok (atColon line tokens blocks (c :: rest) after) := by
  have first : isWordChar c := word.chars c List.mem_cons_self
  have visible : Visible c := visible_of_isWordChar first
  have dash : c ≠ '-' := ne_of_class first rfl
  have dot : c ≠ '.' := ne_of_class first rfl
  rw [← plain_atLine word after]
  refine token_plain rfl (fun _ => ?_) visible.white visible.content ?_
  · simp [isDocumentMark, dash, dot]
  · exact Plain.startsOther_of_isWordChar first _

/-- At the colon the marks that the key lacks are put in before it. -/
theorem token_colon (opened : blocks = [] ∨ blocks = [0]) (nonempty : name ≠ [])
    (after : List Char) :
    (atColon line tokens blocks name after).token ':' (' ' :: after) =
      .ok (atValue ⟨line, name.length + 1⟩
        (.value :: .scalar .plain (String.ofList name) :: .key :: (opening blocks ++ tokens))
        (' ' :: after)) := by
  let l := atColon line tokens blocks name after
  let key : Candidate := ⟨tokens.length, ⟨line, 0⟩, blocks.head? == some 0⟩
  let marked := atValue ⟨line, name.length⟩
    (.scalar .plain (String.ofList name) :: .key :: (opening blocks ++ tokens))
    ([':'] ++ ' ' :: after)
  have inside : name.length ≠ 0 := by simpa using nonempty
  have found : l.token ':' (' ' :: after) = l.valueMark (' ' :: after) := by
    simp [token, l, atColon, inside, wordEnds, isWhite]
  have one : tokens.length + 1 - tokens.length = 1 := Nat.add_sub_cancel_left _ _
  have marks : l.markKey key = marked := by
    rcases opened with rfl | rfl <;>
      simp [markKey, l, marked, atColon, atValue, key, one, openBlock, inFlow, margin, push,
        opening]
  have source : marked.rest = [':'] ++ ' ' :: after := rfl
  show l.token ':' (' ' :: after) = _
  rw [found]
  show Except.ok ((l.markKey key).take .value (' ' :: after)) = _
  rw [marks, take, moveTo_append source]
  rfl

theorem settle_atColon (short : name.length ≤ Candidate.reach)
    (opened : blocks = [] ∨ blocks = [0]) (after : List Char) :
    (atColon line tokens blocks name after).settle =
      .ok (atColon line tokens blocks name after) := by
  have starts : Starts ':' := ⟨rfl, rfl, by decide, by decide⟩
  refine settle_skip [] rfl (skip_of_starts starts _ _ _) rfl ?_ ?_
  · rcases opened with rfl | rfl <;> simp [atColon]
  · simp [stillFresh, atColon, Candidate.isStale, Position.after, Nat.not_lt.mpr short]

theorem settle_space {p : Position} {c : Char} (starts : Starts c) (after : List Char) :
    (atValue p tokens (' ' :: c :: after)).settle =
      .ok (atValue ⟨p.line, p.column + 1⟩ tokens (c :: after)) := by
  have skips : skip false p.column false false (' ' :: c :: after) = (false, c :: after) := by
    simpa [skip, isBreak] using skip_of_starts starts (p.column + 1) false after
  exact settle_skip (l := atValue p tokens (' ' :: c :: after)) [' '] rfl skips rfl
    (by simp [atValue]) rfl

theorem run_step {l l' l'' : Lexer} {c : Char} {after : List Char} (settled : l.settle = .ok l')
    (source : l'.rest = c :: after) (found : l'.token c after = .ok l'') (fuel : Nat) :
    run (fuel + 1) l = run fuel l'' := by
  simp only [run, bind, Except.bind, settled, source, found]

/-- A field takes three tokens: its name as a key, the colon and its value. -/
theorem run_field (word : IsWord name) (short : name.length ≤ Candidate.reach)
    (isValue : IsValue value t) (opened : blocks = [] ∨ blocks = [0]) (next : AtWord more)
    {l : Lexer}
    (settled : l.settle = .ok (atLine line tokens blocks (name ++ ':' :: ' ' :: (value ++ more)))) :
    ∃ l' line', l'.settle =
        .ok (atLine line'
          (t :: .value :: .scalar .plain (String.ofList name) :: .key :: (opening blocks ++ tokens))
          [0] more) ∧
      ∀ fuel, run (fuel + 3) l = run fuel l' := by
  obtain ⟨c, rest, rfl⟩ := List.exists_cons_of_ne_nil word.nonempty
  obtain ⟨d, behind, rfl, starts, read⟩ := isValue
  let marked : List Token :=
    .value :: .scalar .plain (String.ofList (c :: rest)) :: .key :: (opening blocks ++ tokens)
  let p : Position := ⟨line, (c :: rest).length + 1⟩
  obtain ⟨l', line', found, settled'⟩ :=
    read more next ⟨p.line, p.column + 1⟩ marked (Nat.succ_pos p.column)
  refine ⟨l', line', settled', fun fuel => ?_⟩
  let after : List Char := d :: (behind ++ more)
  -- One step for each token. The space behind the colon is passed over before the third.
  calc run (fuel + 3) l
      = run (fuel + 2) (atColon line tokens blocks (c :: rest) after) :=
        run_step settled rfl (token_key word after) (fuel + 2)
    _ = run (fuel + 1) (atValue p marked (' ' :: after)) :=
        run_step (settle_atColon short opened after) rfl
          (token_colon opened word.nonempty after) (fuel + 1)
    _ = run fuel l' := run_step (settle_space starts (behind ++ more)) rfl found fuel

end Field

end Lexer

/-! ## Mappings -/

/-- A field whose value is a scalar: how that is written, and what it says. -/
structure Entry where
  name : String
  value : List Char
  style : Style
  text : String

namespace Entry

def source (e : Entry) : List Char :=
  field e.name e.value

def tokens (e : Entry) : List Token :=
  [.key, .scalar .plain e.name, .value, .scalar e.style e.text]

/-- The name is a single word, and the value says what it is said to say. -/
structure Sound (e : Entry) : Prop where
  word : IsWord e.name.toList
  short : e.name.toList.length ≤ Candidate.reach
  value : Lexer.IsValue e.value (.scalar e.style e.text)
  printable : Printable e.value

theorem Sound.atWord {e : Entry} (h : e.Sound) (more : List Char) : AtWord (e.source ++ more) := by
  rw [source, field, List.append_assoc]
  exact h.word.atWord _

theorem Sound.run {e : Entry} (h : e.Sound) {blocks : List Nat}
    (opened : blocks = [] ∨ blocks = [0]) {line : Nat} {tokens : List Token} {more : List Char}
    (next : AtWord more) {l : Lexer}
    (settled : l.settle = .ok (Lexer.atLine line tokens blocks (e.source ++ more))) :
    ∃ l' line', l'.settle = .ok (Lexer.atLine line'
        (e.tokens.reverse ++ (Lexer.opening blocks ++ tokens)) [0] more) ∧
      ∀ fuel, Lexer.run (fuel + 3) l = Lexer.run fuel l' := by
  have source : e.source ++ more = e.name.toList ++ ':' :: ' ' :: (e.value ++ more) := by
    simp [Entry.source, field]
  rw [source] at settled
  have steps := Lexer.run_field h.word h.short h.value opened next settled
  rwa [String.ofList_toList] at steps

theorem Sound.three_le_length {e : Entry} (h : e.Sound) : 3 ≤ e.source.length := by
  have name := List.length_pos_iff.mpr h.word.nonempty
  simp only [source, field, List.length_append, List.length_cons]
  omega

theorem Sound.printable_source {e : Entry} (h : e.Sound) : Printable e.source := by
  have name : Printable e.name.toList := fun c member => (h.word.visible c member).printable
  simp only [source, field, printable_append, printable_cons]
  exact ⟨name, rfl, rfl, h.printable⟩

end Entry

section Entries

variable {entries : List Entry} (sound : ∀ e ∈ entries, e.Sound)

include sound

theorem atWord_entries : AtWord (entries.flatMap Entry.source) := by
  cases entries with
  | nil => rfl
  | cons e entries => exact (sound e List.mem_cons_self).atWord _

/-- A row of fields is run through to its end, where the block of the mapping is closed. -/
theorem run_entries {l : Lexer} {line fuel : Nat} {tokens : List Token}
    (settled : l.settle = .ok (Lexer.atLine line tokens [0] (entries.flatMap Entry.source)))
    (enough : 3 * entries.length < fuel) :
    l.run fuel = .ok (tokens.reverse ++ entries.flatMap Entry.tokens ++ [.blockEnd]) := by
  induction entries generalizing l line tokens fuel with
  | nil =>
      obtain ⟨fuel, rfl⟩ := Nat.exists_eq_add_one.mpr enough
      have finished : (Lexer.atLine line tokens [0] []).finish =
          .ok (tokens.reverse ++ [.blockEnd]) := by
        simp [Lexer.finish, Lexer.closeBlocks, Lexer.inFlow, Lexer.atLine, Lexer.dropKey, bind,
          Except.bind, pure, Except.pure]
      simp only [Lexer.run, bind, Except.bind, settled, List.flatMap_nil, List.append_nil]
      exact finished
  | cons e entries ih =>
      obtain ⟨first, others⟩ := List.forall_mem_cons.mp sound
      have enough' : 3 * entries.length < fuel - 3 := by
        rw [List.length_cons] at enough
        omega
      have fuel' : fuel = fuel - 3 + 3 := by omega
      obtain ⟨l', line', settled', steps⟩ :=
        first.run (.inr rfl) (atWord_entries others) settled
      rw [fuel', steps, ih others settled' enough']
      simp [Lexer.opening]

theorem length_entries : 3 * entries.length ≤ (entries.flatMap Entry.source).length := by
  induction entries with
  | nil => exact Nat.le_refl 0
  | cons e entries ih =>
      obtain ⟨first, others⟩ := List.forall_mem_cons.mp sound
      have here := first.three_le_length
      have later := ih others
      rw [List.flatMap_cons, List.length_append, List.length_cons]
      omega

/-- The tokens of a mapping that was written field by field. -/
theorem ofText_entries (nonempty : entries ≠ []) :
    Token.ofText (entries.flatMap Entry.source) =
      .ok (.blockMapping :: entries.flatMap Entry.tokens ++ [.blockEnd]) := by
  have printable : Printable (entries.flatMap Entry.source) := by
    intro c member
    obtain ⟨e, among, inSource⟩ := List.mem_flatMap.mp member
    exact (sound e among).printable_source c inSource
  have allowed : (entries.flatMap Entry.source).all isAllowed :=
    List.all_eq_true.mpr fun c member => isAllowed_of_isPrintable (printable c member)
  rw [Token.ofText, if_pos allowed, joinBreaks_of_printable printable]
  obtain ⟨e, entries, rfl⟩ := List.exists_cons_of_ne_nil nonempty
  obtain ⟨first, others⟩ := List.forall_mem_cons.mp sound
  have settled := Lexer.settle_atLine (atWord_entries sound) 0 [] (.inl rfl)
  obtain ⟨l', line', settled', steps⟩ :=
    first.run (.inl rfl) (atWord_entries others) settled
  have long := length_entries sound
  rw [List.length_cons] at long
  have fuel : ((e :: entries).flatMap Entry.source).length + 1 =
      ((e :: entries).flatMap Entry.source).length - 2 + 3 := by omega
  have start : Lexer.start ((e :: entries).flatMap Entry.source) =
      Lexer.atLine 0 [] [] ((e :: entries).flatMap Entry.source) := rfl
  show Lexer.run (((e :: entries).flatMap Entry.source).length + 1) (Lexer.start _) = _
  rw [fuel, start, steps, run_entries others settled' (by omega)]
  simp [Lexer.opening]

end Entries

end RemoteDesk.Yaml
