import ScriptAssist.Script.Project
import ScriptAssist.Text.Blank

/-!
# Project listings

A toolchain prints the project of a script as lines of the form `kind:value`. Unknown kinds, lines
without a colon and blank values do not count, and the script itself is always listed.
-/

namespace ScriptAssist.Listing

/-- The kind and value of a line, if it has a value. -/
def item? (line : Text) : Option (Text × Text) :=
  match Text.cutAtChar? ':' (Text.trim line) with
  | some (kind, value) =>
    let value := Text.trim value
    if value.isEmpty then none else some (kind, value)
  | none => none

/-- The project with one more item. -/
def add (project : Project) (kind value : Text) : Project :=
  if kind = "file".toList then { project with files := project.files ++ [⟨value⟩] }
  else if kind = "ref".toList then { project with refs := project.refs ++ [value] }
  else if kind = "searchDir".toList then
    { project with searchDirs := project.searchDirs ++ [⟨value⟩] }
  else if kind = "script".toList || kind = "project".toList then { project with script := ⟨value⟩ }
  else project

/-- The project with the script as its first file, unless it is already among the files. -/
def withScript (project : Project) (script : Path) : Project :=
  if script.isAmong project.files then project
  else { project with files := script :: project.files }

/-- The project that a listing for `script` describes. -/
def parse (script : Path) (listing : Text) : Project :=
  let items := (Text.lines listing).filterMap item?
  withScript (items.foldl (fun project item => add project item.1 item.2) ⟨[], [], [], script⟩)
    script

end ScriptAssist.Listing
