import RemoteDesk.Config.Document
import RemoteDesk.Proofs.Yaml.Reading

/-! # Configurations written and read back

A configuration is written with one field for each setting, and a path that is not set has none.
Each field says what was set, whatever characters that has, and the default of a path is that it is
not set. So the configuration that is read back is the same, and it is accepted if and only if it
keeps the rules.
-/

namespace RemoteDesk.Config

open Yaml

/-! ## The fields of a configuration -/

/-- A setting that is a text. -/
def textEntry (s : Setting) (value : String) : Yaml.Entry :=
  ⟨s.name, Writing.scalar value, Writing.style value, value⟩

/-- A setting that is said by a word. -/
def wordEntry (s : Setting) (word : String) : Yaml.Entry :=
  ⟨s.name, word.toList ++ ['\n'], .plain, word⟩

def boolWord (b : Bool) : String :=
  if b then "true" else "false"

/-- The fields with which a configuration is written. -/
def entries (c : Config) : List Yaml.Entry :=
  [textEntry .operatorName c.operatorName,
    wordEntry .firstTaskIndex (Nat.repr c.firstTaskIndex.toNat),
    wordEntry .color (boolWord c.color)]
  ++ c.outputDirectory.toList.map (textEntry .outputDirectory)
  ++ [textEntry .scriptExtension c.scriptExtension, textEntry .fragmentGlob c.fragmentGlob]
  ++ c.eventsFile.toList.map (textEntry .eventsFile)
  ++ [wordEntry .escapeCredentials (boolWord c.escapeCredentials)]

theorem toYaml_eq (c : Config) :
    c.toYaml = String.ofList (c.entries.flatMap Yaml.Entry.source) := by
  have path (s : Setting) (value : Option String) :
      pathField s value = (value.toList.map (textEntry s)).flatMap Yaml.Entry.source := by
    cases value
    · rfl
    · exact (List.append_nil _).symm
  rw [toYaml, path, path]
  simp only [entries, List.flatMap_append, List.flatMap_cons, List.flatMap_nil, List.append_nil,
    List.append_assoc]
  rfl

theorem isWord_name (s : Setting) : IsWord s.name.toList := by
  cases s <;> exact ⟨by decide, List.all_eq_true.mp (by decide)⟩

theorem short_name (s : Setting) : s.name.toList.length ≤ Candidate.reach := by
  cases s <;> decide

theorem sound_textEntry (s : Setting) (value : String) : (textEntry s value).Sound where
  word := isWord_name s
  short := short_name s
  value := Lexer.isValue_scalar value
  printable := Writing.printable_scalar value

theorem sound_wordEntry (s : Setting) {word : String} (h : IsWord word.toList) :
    (wordEntry s word).Sound where
  word := isWord_name s
  short := short_name s
  value := Lexer.isValue_word h
  printable := printable_append.mpr ⟨fun c member => (h.visible c member).printable, by decide⟩

theorem isWord_boolWord (b : Bool) : IsWord (boolWord b).toList := by
  cases b <;> exact ⟨by decide, List.all_eq_true.mp (by decide)⟩

theorem isWord_repr (n : Nat) : IsWord (Nat.repr n).toList := by
  rw [Nat.toList_repr]
  refine ⟨Nat.toDigits_ne_nil, fun c member => ?_⟩
  have digit := Nat.isDigit_of_mem_toDigits (by decide) (by decide) member
  simp [isWordChar, Char.isAlphanum, digit]

theorem sound_entries (c : Config) : ∀ e ∈ c.entries, e.Sound := by
  have path (s : Setting) (value : Option String) :
      ∀ e ∈ value.toList.map (textEntry s), e.Sound := by
    intro e member
    obtain ⟨path, -, rfl⟩ := List.mem_map.mp member
    exact sound_textEntry s path
  have flag (s : Setting) (b : Bool) : (wordEntry s (boolWord b)).Sound :=
    sound_wordEntry s (isWord_boolWord b)
  have number (s : Setting) (n : UInt32) : (wordEntry s (Nat.repr n.toNat)).Sound :=
    sound_wordEntry s (isWord_repr n.toNat)
  simp only [entries, List.forall_mem_append, List.forall_mem_cons]
  exact ⟨⟨⟨⟨⟨sound_textEntry _ _, number _ _, flag _ _, List.forall_mem_nil _⟩, path _ _⟩,
    sound_textEntry _ _, sound_textEntry _ _, List.forall_mem_nil _⟩, path _ _⟩, flag _ _,
    List.forall_mem_nil _⟩

theorem distinct_entries (c : Config) : (c.entries.map Yaml.Entry.name).Nodup := by
  cases output : c.outputDirectory <;> cases events : c.eventsFile <;>
    simp [entries, textEntry, wordEntry, Setting.name, output, events]

/-! ## Reading them -/

section Reading

variable (c : Config)

theorem field_text (s : Setting) (value : String) (member : textEntry s value ∈ c.entries)
    (fallback : String) :
    Document.field (c.entries.map Document.found) s.name
      (Document.ofEntries c.entries).text fallback = pure value :=
  (Document.field_of_mem (distinct_entries c) member _ fallback).trans
    (Document.text_written _ _ value)

theorem field_bool (s : Setting) (b : Bool) (member : wordEntry s (boolWord b) ∈ c.entries)
    (fallback : Bool) :
    Document.field (c.entries.map Document.found) s.name
      (Document.ofEntries c.entries).bool fallback = pure b :=
  (Document.field_of_mem (distinct_entries c) member _ fallback).trans (Document.bool_written _ b)

theorem field_word (s : Setting) (n : UInt32)
    (member : wordEntry s (Nat.repr n.toNat) ∈ c.entries) (fallback : UInt32) :
    Document.field (c.entries.map Document.found) s.name
      (Document.ofEntries c.entries).word fallback = pure n :=
  (Document.field_of_mem (distinct_entries c) member _ fallback).trans (Document.word_written _ n)

/-- A path that is not set has no field, and it has no default. -/
theorem field_path (s : Setting) (value : Option String)
    (member : ∀ path, value = some path → textEntry s path ∈ c.entries)
    (absent : value = none → s.name ∉ c.entries.map Yaml.Entry.name) :
    Document.field (c.entries.map Document.found) s.name
      (Document.ofEntries c.entries).optionalText none = pure value := by
  cases value with
  | none => exact Document.field_of_not_mem (absent rfl) _ _
  | some path =>
      exact (Document.field_of_mem (distinct_entries c) (member path rfl) _ _).trans
        (Document.optionalText_written _ path)

theorem ofDocument_entries : ofDocument (Document.ofEntries c.entries) = pure c := by
  have operator := c.field_text .operatorName c.operatorName (by simp [entries])
  have index := c.field_word .firstTaskIndex c.firstTaskIndex (by simp [entries])
  have color := c.field_bool .color c.color (by simp [entries])
  have output := c.field_path .outputDirectory c.outputDirectory
    (fun path set => by simp [entries, set])
    (fun unset => by simp [entries, textEntry, wordEntry, Setting.name, unset])
  have extension := c.field_text .scriptExtension c.scriptExtension (by simp [entries])
  have glob := c.field_text .fragmentGlob c.fragmentGlob (by simp [entries])
  have events := c.field_path .eventsFile c.eventsFile
    (fun path set => by simp [entries, set])
    (fun unset => by simp [entries, textEntry, wordEntry, Setting.name, unset])
  have escape := c.field_bool .escapeCredentials c.escapeCredentials (by simp [entries])
  rw [ofDocument, Document.fields_ofEntries]
  have noOutput : default.outputDirectory = none := rfl
  have noEvents : default.eventsFile = none := rfl
  simp only [pure_bind, operator, index, color, noOutput, output, extension, glob, noEvents, events,
    escape]

end Reading

theorem ofYaml_toYaml (c : Config) : ofYaml c.toYaml = .ok c := by
  have parsed := Document.parse?_entries (sound_entries c) (by simp [entries])
  rw [← toYaml_eq] at parsed
  have read : (Document.ofEntries c.entries).reading (ofDocument (Document.ofEntries c.entries)) =
      .ok c := by
    rw [ofDocument_entries]
    rfl
  simp only [ofYaml, parsed, bind, Except.bind, read]

theorem not_blank_toYaml (c : Config) : Text.isBlank c.toYaml = false := by
  have name : 'o' ∈ Setting.operatorName.name.toList := by decide
  have first : 'o' ∈ c.toYaml.toList := by
    rw [toYaml_eq, String.toList_ofList]
    exact List.mem_flatMap.mpr ⟨_, List.mem_cons_self, List.mem_append_left _ name⟩
  rw [Text.isBlank, List.all_eq_false]
  exact ⟨'o', first, by decide⟩

/-- A configuration that is written and read back is the same, in all its settings, if it keeps the
    rules, and it is refused for the rule that it breaks otherwise. -/
theorem parse_toYaml (c : Config) : parse c.toYaml = c.validate.map fun _ => c := by
  rw [parse, not_blank_toYaml, ofYaml_toYaml, if_neg Bool.false_ne_true]
  cases h : c.validate <;> simp [h, Except.map]

end RemoteDesk.Config
