import ScriptAssist.Files.Tree
import ScriptAssist.Json.Record

/-!
# Sources

Source files as text, and the script a request is about. Bytes that are not text are replaced
rather than refused, and a byte order mark in front does not count.
-/

namespace ScriptAssist

/-- The text of a source file. -/
def Files.readSource (files : Files) (path : Path) : Except SystemError Text :=
  (files.read path).map fun content => Utf8.dropByteOrderMark (Utf8.decodeLossy content)

/-- A source file with its text. -/
structure Source where
  path : Text
  content : Text
  deriving DecidableEq, Repr

namespace Source

/-- The source file as a record. -/
def toJson (source : Source) : Json :=
  .obj [("path".toList, .str source.path), ("content".toList, .str source.content)]

/-- The source file a record describes. -/
def ofJson? (value : Json) : Option Source := do
  match ← value.parts? ["path".toList, "content".toList] with
  | [path, content] =>
    some ⟨← Json.required Json.text? path, ← Json.required Json.text? content⟩
  | _ => none

end Source

/-- The script of a request. While the editor's buffer has not been saved, its text comes from
another file than the script's own. -/
structure Script where
  file : Path
  rawFile : Path
  content : Text
  deriving DecidableEq, Repr

namespace Script

/-- Reads the script at `file`, from the unsaved copy if there is one. -/
def load (files : Files) (file : Path) (rawFile : Option Path) : Except Failure Script :=
  let rawFile := rawFile.getD file
  if files.isFile rawFile then
    match files.readSource rawFile with
    | .ok content => .ok ⟨file, rawFile, content⟩
    | .error cause => .error (.cannotRead rawFile cause)
  else .error (.fileNotFound rawFile.text)

/-- Whether the text comes from an unsaved copy. -/
def isUnsaved (script : Script) : Bool :=
  !script.file.sameAs script.rawFile

end Script

end ScriptAssist
