import RemoteDesk.Config
import RemoteDesk.FileTree
import RemoteDesk.Yaml.Reading
import RemoteDesk.Yaml.Writing

/-! # Configuration files

A configuration is read from a YAML document with a field for each setting. Settings without a field
have their default, fields that are no setting are passed over, and a text that shows nothing is a
document without fields.
-/

namespace RemoteDesk.Config

/-- What can be set. -/
inductive Setting where
  | operatorName
  | firstTaskIndex
  | color
  | outputDirectory
  | scriptExtension
  | fragmentGlob
  | eventsFile
  | escapeCredentials
  deriving Repr, DecidableEq

def Setting.name : Setting → String
  | .operatorName => "operator_name"
  | .firstTaskIndex => "first_task_index"
  | .color => "color"
  | .outputDirectory => "output_dir"
  | .scriptExtension => "script_extension"
  | .fragmentGlob => "fragment_glob"
  | .eventsFile => "events_file"
  | .escapeCredentials => "escape_credentials"

def ofDocument (d : Yaml.Document) : Yaml.Reading Config := do
  let fields ← d.fields
  let setting {α : Type} (s : Setting) (f : Yaml.Node → Yaml.Reading α) (fallback : α) :=
    Yaml.Document.field fields s.name f fallback
  return {
    operatorName := ← setting .operatorName d.text default.operatorName
    firstTaskIndex := ← setting .firstTaskIndex d.word default.firstTaskIndex
    color := ← setting .color d.bool default.color
    outputDirectory := ← setting .outputDirectory d.optionalText default.outputDirectory
    scriptExtension := ← setting .scriptExtension d.text default.scriptExtension
    fragmentGlob := ← setting .fragmentGlob d.text default.fragmentGlob
    eventsFile := ← setting .eventsFile d.optionalText default.eventsFile
    escapeCredentials := ← setting .escapeCredentials d.bool default.escapeCredentials }

/-- The settings that a YAML text makes, whether or not they keep the rules. -/
def ofYaml (text : String) : Except Yaml.Fault Config := do
  match ← Yaml.Document.parse? text with
  | some d => d.reading (ofDocument d)
  | none => return default

def parse (text : String) : Except DeskError Config :=
  if Text.isBlank text then .ok default
  else
    match ofYaml text with
    | .error e => .error (.malformedConfig e)
    | .ok c =>
      match c.validate with
      | .error e => .error e
      | .ok () => .ok c

def textField (s : Setting) (value : String) : List Char :=
  Yaml.Writing.textField s.name value

/-- The field for a path, if there is one. -/
def pathField (s : Setting) : Option String → List Char
  | none => []
  | some path => textField s path

def boolField (s : Setting) (b : Bool) : List Char :=
  Yaml.Writing.wordField s.name (if b then "true" else "false")

def wordField (s : Setting) (n : UInt32) : List Char :=
  Yaml.Writing.wordField s.name (Nat.repr n.toNat)

/-- The configuration as a YAML text, with the settings in a fixed order. -/
def toYaml (c : Config) : String :=
  String.ofList <|
    textField .operatorName c.operatorName
      ++ wordField .firstTaskIndex c.firstTaskIndex
      ++ boolField .color c.color
      ++ pathField .outputDirectory c.outputDirectory
      ++ textField .scriptExtension c.scriptExtension
      ++ textField .fragmentGlob c.fragmentGlob
      ++ pathField .eventsFile c.eventsFile
      ++ boolField .escapeCredentials c.escapeCredentials

def load (t : FileTree) (path : Path) : Except DeskError Config :=
  match t.readText path with
  | .error e => .error (.unreadableConfig path e)
  | .ok text => parse text

/-- The configuration of a run: the one that is named, or else the one in the directory, if there is
    such a file. -/
def resolve (t : FileTree) (named : Option Path) (directory : Path) : Except DeskError Config :=
  match named with
  | some path => load t path
  | none =>
    let path := directory.join (Path.ofString fileName)
    if t.isFile path then load t path else .ok default

end RemoteDesk.Config
