import ScriptAssist.Json.Record

/-!
# Regions

A region is a stretch of lines in a file, as the engine reports it for a definition or a
reference. Lines are counted from one; a region for a whole file has no line.
-/

namespace ScriptAssist

/-- A stretch of lines in a file. An empty region says that nothing was found. -/
structure Region where
  fileName : Text
  beginLine : Int32
  endLine : Int32
  beginColumn : Int32
  isEmpty : Bool
  deriving DecidableEq, Repr

namespace Region

/-- The line of a region that names a whole file. -/
def noLine : Int32 := -1

/-- The region that says that nothing was found. -/
def empty : Region :=
  ⟨[], 0, 0, 0, true⟩

/-- A whole file. -/
def wholeFile (fileName : Text) : Region :=
  ⟨fileName, noLine, noLine, noLine, false⟩

/-- One line of a file, from its first column on. -/
def atLine (fileName : Text) (line : Int32) : Region :=
  ⟨fileName, line, line, 1, false⟩

/-- The file and the line of a region on two lines of text. -/
def toPlain (region : Region) : Text :=
  "file:".toList ++ region.fileName ++ "\nline:".toList ++ Text.ofInt region.beginLine.toInt

/-- The region on one line of text: the file, then line and column in parentheses. -/
def toLine (region : Region) : Text :=
  region.fileName ++ '(' :: Text.ofInt region.beginLine.toInt
    ++ ',' :: Text.ofInt region.beginColumn.toInt ++ [')']

/-- The whole number of 32 bits a value denotes. -/
def int32? (value : Json) : Option Int32 :=
  (value.int? Int32.minValue.toInt Int32.maxValue.toInt).map Int32.ofInt

/-- The region as a record. -/
def toJson (region : Region) : Json :=
  .obj [
    ("fileName".toList, .str region.fileName),
    ("beginLine".toList, .int region.beginLine.toInt),
    ("endLine".toList, .int region.endLine.toInt),
    ("beginColumn".toList, .int region.beginColumn.toInt),
    ("isEmpty".toList, .bool region.isEmpty)]

/-- The region a record describes. -/
def ofJson? (value : Json) : Option Region := do
  let names := ["fileName".toList, "beginLine".toList, "endLine".toList, "beginColumn".toList,
    "isEmpty".toList]
  match ← value.parts? names with
  | [fileName, beginLine, endLine, beginColumn, isEmpty] =>
    some ⟨← Json.required Json.text? fileName, ← Json.required int32? beginLine,
      ← Json.required int32? endLine, ← Json.required int32? beginColumn,
      ← Json.required Json.bool? isEmpty⟩
  | _ => none

/-- The region as compact JSON text. -/
def toRich (region : Region) : Text :=
  region.toJson.toText

end Region

end ScriptAssist
