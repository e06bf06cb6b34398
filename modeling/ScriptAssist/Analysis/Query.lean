import ScriptAssist.Answer.Completion
import ScriptAssist.Answer.Outline
import ScriptAssist.Files.Failure
import ScriptAssist.Script.Source

/-!
# Queries

What the analysis engine can be asked, and the type of the answer to each query. An engine is
anything that answers queries; how it is reached is left open.
-/

namespace ScriptAssist

/-- What the engine needs to analyse one caret: the text, decorated or not, and the rest of the
project. -/
structure Context where
  code : Text
  position : UInt64
  file : Text
  refs : List Text
  sources : List Source
  deriving DecidableEq, Repr

namespace Context

/-- The context as a record. -/
def toJson (context : Context) : Json :=
  .obj [
    ("code".toList, .str context.code),
    ("position".toList, .int context.position.toNat),
    ("file".toList, .str context.file),
    ("refs".toList, .texts context.refs),
    ("sources".toList, .arr (context.sources.map Source.toJson))]

/-- The word of 64 bits a value denotes. -/
def position? (value : Json) : Option UInt64 :=
  (value.int? 0 (UInt64.size - 1)).map fun i => UInt64.ofNat i.toNat

/-- The context a record describes. -/
def ofJson? (value : Json) : Option Context := do
  let names := ["code".toList, "position".toList, "file".toList, "refs".toList, "sources".toList]
  match ← value.parts? names with
  | [code, position, file, refs, sources] =>
    some ⟨← Json.required Json.text? code, ← Json.required position? position,
      ← Json.required Json.text? file, ← Json.required (Json.list? Json.text?) refs,
      ← Json.required (Json.list? Source.ofJson?) sources⟩
  | _ => none

end Context

/-- A question to the engine. -/
inductive Query where
  /-- Where the symbol at the caret is defined. -/
  | resolve (context : Context)
  | references (context : Context)
  | completion (context : Context)
  /-- Descriptions of the member at the caret, or of all its overloads. -/
  | memberInfo (context : Context) (allOverloads : Bool)
  /-- Namespaces that a word could come from. -/
  | namespaces (context : Context) (word : Text)
  | format (code : Text)
  /-- The members of a script, which may be decorated. -/
  | codeMap (code : Text) (decorated : Bool)
  /-- To get ready. -/
  | preload
  deriving DecidableEq, Repr

namespace Query

/-- What a query is answered with. -/
@[reducible] def Answer : Query → Type
  | .resolve _ => Region
  | .references _ => List Region
  | .completion _ => List Completion
  | .memberInfo .. => List Text
  | .namespaces .. => List Text
  | .format _ => Text
  | .codeMap .. => List Member
  | .preload => Unit

/-- The name under which a query is sent. -/
def method : Query → Text
  | .resolve _ => "resolve".toList
  | .references _ => "references".toList
  | .completion _ => "completion".toList
  | .memberInfo .. => "memberInfo".toList
  | .namespaces .. => "namespaces".toList
  | .format _ => "format".toList
  | .codeMap .. => "codeMap".toList
  | .preload => "initialize".toList

/-- What is sent with a query, by a program with the given process number. -/
def params (self : UInt32) : Query → Json
  | .resolve context => context.toJson
  | .references context => context.toJson
  | .completion context => context.toJson
  | .memberInfo context allOverloads =>
    .obj [("context".toList, context.toJson), ("includeOverloads".toList, .bool allOverloads)]
  | .namespaces context word =>
    .obj [("context".toList, context.toJson), ("word".toList, .str word)]
  | .format code => .obj [("code".toList, .str code)]
  | .codeMap code decorated =>
    .obj [("code".toList, .str code), ("decorated".toList, .bool decorated)]
  | .preload => .obj [("processId".toList, .int self.toNat)]

/-- The region a value describes; the null value says that nothing was found. -/
def region? (value : Json) : Option Region :=
  if value.isNull then some .empty else Region.ofJson? value

/-- The answer that a value describes. -/
def decode? : (query : Query) → Json → Option query.Answer
  | .resolve _, value => region? value
  | .references _, value => value.list? Region.ofJson?
  | .completion _, value => value.list? Completion.ofJson?
  | .memberInfo .., value => value.list? Json.text?
  | .namespaces .., value => value.list? Json.text?
  | .format _, value => value.text?
  | .codeMap .., value => value.list? Member.ofJson?
  | .preload, _ => some ()

end Query

end ScriptAssist
