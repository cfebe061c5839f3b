import RemoteDesk.Error
import RemoteDesk.FileTree
import RemoteDesk.Text.Blank
import RemoteDesk.Yaml.Reading

/-! # Profiles

A profile holds what a task needs, in a YAML document: credentials, an index and the files of its
subtasks, by id. Nothing in it is required. The paths are as seen from the directory of the profile.
-/

namespace RemoteDesk

/-- What a profile says of a task. -/
structure Profile where
  computer : Option String
  username : Option String
  password : Option String
  index : Option UInt32
  /-- What stands for ids and for files, in the order of the document. -/
  subtasks : List (Yaml.Value × Yaml.Value)

namespace Profile

def empty : Profile := ⟨none, none, none, none, []⟩

def ofDocument (d : Yaml.Document) : Yaml.Reading Profile := do
  let fields ← d.fields
  return {
    computer := ← Yaml.Document.field fields "computer" d.optionalText none
    username := ← Yaml.Document.field fields "username" d.optionalText none
    password := ← Yaml.Document.field fields "password" d.optionalText none
    index := ← Yaml.Document.field fields "index" d.optionalWord none
    subtasks :=
      ← Yaml.Document.field fields "subtasks" (d.valueEntries (Yaml.maxDepth - 1)) [] }

def ofYaml (text : String) : Except Yaml.Fault Profile := do
  match ← Yaml.Document.parse? text with
  | some d => d.reading (ofDocument d)
  | none => return empty

def parse (text : String) : Except DeskError Profile :=
  if Text.isBlank text then .ok empty
  else
    match ofYaml text with
    | .error e => .error (.malformedProfile e)
    | .ok p => .ok p

def load (t : FileTree) (path : Path) : Except DeskError Profile :=
  match t.readText path with
  | .error e => .error (.unreadableProfile path e)
  | .ok text => parse text

/-- A subtask and its file, where the path starts from `base`. -/
def subtaskFile (base : Path) (entry : Yaml.Value × Yaml.Value) :
    Except DeskError (String × Path) :=
  match entry.1.text? with
  | none => .error (.subtaskIdNotText entry.1.shown)
  | some id =>
    match entry.2.text? with
    | none => .error (.subtaskWithoutPath id)
    | some path => .ok (id, base.join (Path.ofString path))

/-- The subtasks and their files, where paths start from `base`. -/
def subtaskFiles (p : Profile) (base : Path) : Except DeskError (List (String × Path)) :=
  p.subtasks.mapM (subtaskFile base)

end Profile

end RemoteDesk
