import ScriptAssist.Json.Record
import ScriptAssist.Text.Blank

/-!
# Completions

What may be inserted at a caret, and how an editor is told: one line for each proposal, with the
text it shows, its kind and the text it inserts.
-/

namespace ScriptAssist

/-- What a proposal stands for. -/
inductive CompletionKind where
  | method
  | property
  | field
  | event
  | nameSpace
  | type
  | keyword
  | snippet
  | file
  | directive
  | unresolved
  deriving DecidableEq, Repr

namespace CompletionKind

/-- All kinds. -/
def all : List CompletionKind :=
  [.method, .property, .field, .event, .nameSpace, .type, .keyword, .snippet, .file, .directive,
    .unresolved]

/-- The name of a kind. -/
def name : CompletionKind → Text
  | .method => "method".toList
  | .property => "property".toList
  | .field => "field".toList
  | .event => "event".toList
  | .nameSpace => "namespace".toList
  | .type => "type".toList
  | .keyword => "keyword".toList
  | .snippet => "snippet".toList
  | .file => "file".toList
  | .directive => "directive".toList
  | .unresolved => "unresolved".toList

/-- The kind with this name; any other name stands for something unresolved. -/
def ofName (name : Text) : CompletionKind :=
  (all.find? fun kind => kind.name = name).getD .unresolved

/-- The kind a value names, by its name alone or as the only field of an object, with no value. -/
def ofJson? : Json → Option CompletionKind
  | .str name => some (ofName name)
  | .obj [(name, .null)] => some (ofName name)
  | _ => none

theorem mem_all (kind : CompletionKind) : kind ∈ all := by
  cases kind <;> decide

theorem ofName_name (kind : CompletionKind) : ofName kind.name = kind := by
  cases kind <;> decide

end CompletionKind

/-- A proposal. For a method, `parameters` are those of its first overload. -/
structure Completion where
  display : Text
  insert : Text
  kind : CompletionKind
  hasOverloads : Bool
  parameters : List Text
  description : Text
  deriving DecidableEq, Repr

namespace Completion

/-- A proposal that shows and inserts the same text. -/
def plain (text : Text) (kind : CompletionKind) (description : Text) : Completion :=
  ⟨text, text, kind, false, [], description⟩

/-- The proposal as a record. -/
def toJson (item : Completion) : Json :=
  .obj [
    ("displayText".toList, .str item.display),
    ("completionText".toList, .str item.insert),
    ("kind".toList, .str item.kind.name),
    ("hasOverloads".toList, .bool item.hasOverloads),
    ("invokeParameters".toList, .texts item.parameters),
    ("description".toList, .str item.description)]

/-- The proposal a record describes. The parts after the kind may be missing. -/
def ofJson? (value : Json) : Option Completion := do
  let names := ["displayText".toList, "completionText".toList, "kind".toList,
    "hasOverloads".toList, "invokeParameters".toList, "description".toList]
  match ← value.parts? names with
  | [display, insert, kind, hasOverloads, parameters, description] =>
    some ⟨← Json.required Json.text? display, ← Json.required Json.text? insert,
      ← Json.required CompletionKind.ofJson? kind,
      ← Json.optional false Json.bool? hasOverloads,
      ← Json.optional [] (Json.list? Json.text?) parameters,
      ← Json.optional [] Json.text? description⟩
  | _ => none

/-- The proposal as compact JSON text. -/
def toRich (item : Completion) : Text :=
  item.toJson.toText

/-- What is added to the shown and to the inserted text of a method to tell how it is called. -/
def callShape (item : Completion) : Text × Text :=
  if item.kind ≠ .method then ([], [])
  else if item.hasOverloads then ("(...)".toList, [])
  else if item.parameters.isEmpty then ("()".toList, "()".toList)
  else ("(..)".toList, [])

/-- The proposal on one line: the shown text, a tab, the kind, a bar and the inserted text. -/
def toLine (item : Completion) : Text :=
  item.display ++ item.callShape.1 ++ '\t' :: item.kind.name ++ '|' :: item.insert
    ++ item.callShape.2

/-- The proposals, one on each line, without blanks around the whole. -/
def listing (rich : Bool) (items : List Completion) : Text :=
  Text.trim (Text.joinLines (items.map fun item => if rich then item.toRich else item.toLine))

end Completion

end ScriptAssist
