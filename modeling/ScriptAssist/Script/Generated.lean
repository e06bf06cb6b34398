import ScriptAssist.Script.Decoration
import ScriptAssist.Script.Source

/-!
# Generated sources

Some sources are generated from others: their names have a `g` before the extension, and a file
of notes beside them names, on its second line, the directory of what they were generated from. A
region in a generated source is shown in the source itself if that can be found.
-/

namespace ScriptAssist.Generated

/-- Whether a file is generated, by its name in any case. -/
def isGenerated (file : Path) : Bool :=
  let name := Text.toLower file.fileName
  Text.endsWith ".g.cs".toList name || Text.endsWith ".g.csx".toList name

/-- The name of the source of a generated file. -/
def sourceName? (name : Text) : Option Text :=
  match Text.before? ".g.cs".toList name with
  | some stem => some (stem ++ ".cs".toList)
  | none => (Text.before? ".g.csx".toList name).map fun stem => stem ++ ".csx".toList

/-- The file of notes beside generated files. -/
def notesName : Path := .ofString "css_info.txt"

/-- The directory of sources that the notes name, if they do. -/
def sourceDir? (notes : Text) : Option Path :=
  (((Text.lines notes)[1]?.map Text.trim).filter fun line => !line.isEmpty).map Path.mk

/-- The source that a generated file was made from, if it is there. -/
def sourceOf? (files : Files) (file : Path) : Option Path := do
  let folder ← file.parent?
  let notes ← files.readText? (folder.join notesName)
  let sources ← sourceDir? notes
  let name ← sourceName? file.fileName
  let source := sources.child name
  if files.isFile source then some source else none

/-- A region of a generated file as one of its source. The generated file may itself be wrapped
into a class, which moves its lines. -/
def redirect (files : Files) (region : Region) : Region :=
  let file : Path := ⟨region.fileName⟩
  if !isGenerated file then region
  else
    match sourceOf? files file with
    | none => region
    | some source =>
      let moved :=
        match files.readSource file with
        | .ok generated => Decoration.undecorate generated region
        | .error _ => region
      { moved with fileName := source.text }

end ScriptAssist.Generated
