import ScriptAssist.Script.Region
import ScriptAssist.Text.Blank
import ScriptAssist.Text.Utf8

/-!
# Outlines

The members of a script with the types that contain them, and three ways to show them: a table for
people, one record on each line, and an outline of titles and members for an editor's tree.
-/

namespace ScriptAssist

/-- A member of a script, with the kind and the name of the type that contains it. -/
structure Member where
  parentType : Text
  parentName : Text
  name : Text
  kind : Text
  line : Int32
  deriving DecidableEq, Repr

namespace Member

/-- The title of the containing type: its kind and name. -/
def title (item : Member) : Text :=
  Text.trim (item.parentType ++ ' ' :: item.parentName)

/-- The member as a record. -/
def toJson (item : Member) : Json :=
  .obj [
    ("parentDisplayType".toList, .str item.parentType),
    ("parentDisplayName".toList, .str item.parentName),
    ("displayName".toList, .str item.name),
    ("memberType".toList, .str item.kind),
    ("line".toList, .int item.line.toInt)]

/-- The member a record describes. -/
def ofJson? (value : Json) : Option Member := do
  let names := ["parentDisplayType".toList, "parentDisplayName".toList, "displayName".toList,
    "memberType".toList, "line".toList]
  match ← value.parts? names with
  | [parentType, parentName, name, kind, line] =>
    some ⟨← Json.required Json.text? parentType, ← Json.required Json.text? parentName,
      ← Json.required Json.text? name, ← Json.required Json.text? kind,
      ← Json.required Region.int32? line⟩
  | _ => none

/-- The member as compact JSON text. -/
def toRich (item : Member) : Text :=
  item.toJson.toText

end Member

namespace Outline

/-- How an outline is shown. -/
inductive Form where
  | table
  | rich
  | tree
  deriving DecidableEq, Repr

/-- The members in the order of the names of their types, and as before within a type. -/
def sortByParent (items : List Member) : List Member :=
  items.mergeSort fun a b => Text.notAfter a.parentName b.parentName

/-- What stands in front of the name of a member. -/
def indent : Text := [' ', ' ', ' ', ' ']

/-- The width of the first column: the size in bytes of its longest text, titles included. -/
def tableWidth (items : List Member) : Nat :=
  let sizes := items.map fun item =>
    max (Utf8.byteSize item.title) (Utf8.byteSize (indent ++ item.name))
  sizes.foldl max 0

/-- A text filled up with spaces to a number of characters. -/
def fill (width : Nat) (s : Text) : Text :=
  s ++ List.replicate (width - s.length) ' '

/-- The row of a member: its indented name, then its line behind a colon. -/
def tableRow (width : Nat) (item : Member) : Text :=
  fill width (indent ++ item.name) ++ " :".toList ++ Text.ofInt item.line.toInt

/-- The rows of a table, with a blank row and a title wherever the title differs from the one
before. -/
def tableRows (width : Nat) : Option Text → List Member → List Text
  | _, [] => []
  | previous, item :: items =>
    let heading := if previous = some item.title then [] else [[], item.title]
    heading ++ tableRow width item :: tableRows width (some item.title) items

/-- The table of the members. -/
def table (items : List Member) : Text :=
  Text.trim (Text.joinLines (tableRows (tableWidth items) none items))

/-- The least line of some members. -/
def firstLine (items : List Member) : Int32 :=
  (items.map Member.line).min?.getD 0

/-- The row of a member in a tree: its indented kind, its name and its line. -/
def treeRow (item : Member) : Text :=
  indent ++ item.kind ++ '|' :: item.name ++ '|' :: Text.ofInt item.line.toInt

/-- The rows for one run of a title: the title with the least line of the run, then the members. -/
def treeRows (title : Text) (run : List Member) : List Text :=
  (title ++ '|' :: Text.ofInt (firstLine run).toInt) :: run.map treeRow

/-- Where the run of a title that starts at a place ends: at the next member of another title, or
behind the last one. -/
def runEnd (items : List Member) (start : Nat) (title : Text) : Nat :=
  match (items.drop start).findIdx? fun item => item.title ≠ title with
  | some offset => start + offset
  | none => items.length

theorem lt_runEnd {items : List Member} {start : Nat} (h : start < items.length) :
    start < runEnd items start items[start].title := by
  rw [runEnd]
  split
  · next offset hfound =>
    have hpos : offset ≠ 0 := by
      rintro rfl
      rw [List.drop_eq_getElem_cons h, List.findIdx?_cons] at hfound
      simp at hfound
    omega
  · exact h

/-- The rows of the tree from the member at a place on, run by run. -/
def treeRowsFrom (items : List Member) (start : Nat) : List Text :=
  if h : start < items.length then
    let title := items[start].title
    let stop := runEnd items start title
    treeRows title ((items.take stop).drop start) ++ treeRowsFrom items stop
  else []
termination_by items.length - start
decreasing_by exact Nat.sub_lt_sub_left h (lt_runEnd h)

/-- The tree of the members: each run of one title with its members below it. -/
def tree (items : List Member) : Text :=
  Text.joinLines (treeRowsFrom items 0)

/-- The members as records, one on each line. -/
def rich (items : List Member) : Text :=
  Text.joinLines (items.map Member.toRich)

/-- The members in the given form. -/
def render : Form → List Member → Text
  | .table, items => table items
  | .rich, items => rich items
  | .tree, items => tree items

end Outline

end ScriptAssist
