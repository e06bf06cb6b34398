import ScriptAssist.Script.Source

/-!
# Projects

The files, references and search directories that make up a script.
-/

namespace ScriptAssist

/-- What a script consists of. -/
structure Project where
  files : List Path
  refs : List Text
  searchDirs : List Path
  script : Path
  deriving DecidableEq, Repr

namespace Project

/-- The script alone. -/
def single (script : Path) : Project :=
  ⟨[script], [], [], script⟩

/-- The files and references, one on each line. -/
def toPlain (project : Project) : Text :=
  let files := project.files.map fun file => "file:".toList ++ file.text
  let refs := project.refs.map fun ref => "ref:".toList ++ ref
  Text.joinLines (files ++ refs)

/-- The project as a record. -/
def toJson (project : Project) : Json :=
  .obj [
    ("files".toList, .texts (project.files.map Path.text)),
    ("refs".toList, .texts project.refs),
    ("searchDirs".toList, .texts (project.searchDirs.map Path.text)),
    ("script".toList, .str project.script.text)]

/-- The path a value writes. -/
def path? (value : Json) : Option Path :=
  value.text?.map Path.mk

/-- The project a record describes. -/
def ofJson? (value : Json) : Option Project := do
  let names := ["files".toList, "refs".toList, "searchDirs".toList, "script".toList]
  match ← value.parts? names with
  | [files, refs, searchDirs, script] =>
    some ⟨← Json.required (Json.list? path?) files, ← Json.required (Json.list? Json.text?) refs,
      ← Json.required (Json.list? path?) searchDirs, ← Json.required path? script⟩
  | _ => none

/-- The project as compact JSON text. -/
def toRich (project : Project) : Text :=
  project.toJson.toText

/-- A file of a project with its text. -/
def readFile (files : Files) (path : Path) : Except Failure Source :=
  match files.readSource path with
  | .ok content => .ok ⟨path.text, content⟩
  | .error cause => .error (.cannotReadProjectFile path cause)

/-- The texts of all files except the script. -/
def auxiliarySources (project : Project) (files : Files) (script : Path) :
    Except Failure (List Source) :=
  (project.files.filter fun file => !file.sameAs script).mapM (readFile files)

end Project

end ScriptAssist
