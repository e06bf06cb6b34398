import ScriptAssist.Answer.Signature
import ScriptAssist.Service.Operation
import ScriptAssist.Service.Session
import ScriptAssist.Text.Reindent

/-!
# Replies

What each operation replies. A directive under the caret is answered from the table of directives,
the project's files or the help text; everything else goes to the engine. Rich replies are JSON.
-/

namespace ScriptAssist.Session

/-- A region the engine reported for decorated text, as one of the script, and in the source a
generated file was made from. -/
def settle (files : Files) (decoration : Decoration) (file : Text) (region : Region) : Region :=
  let moved :=
    if decoration.decorated && region.fileName = file then
      Decoration.undecorate decoration.text region
    else region
  Generated.redirect files moved

/-- The region of the directive under the caret: the file its argument names, or else its section in
the help text. Empty if there is no directive. -/
def directiveRegion (assistant : Assistant) (document : Document) :
    Option Directive.Hit → Action Session Region
  | none => pure .empty
  | some (.directive name) => do
    let toolchain ← toolchain assistant
    helpRegion toolchain name
  | some (.argument directive word) => do
    let project ← project assistant document
    let session ← get
    match Directive.lookupFile session.machine.files project.searchDirs directive word with
    | some file => pure (.wholeFile file.text)
    | none =>
      let toolchain ← toolchain assistant
      helpRegion toolchain directive

/-- Where the symbol at the caret is defined, as the engine reports it. -/
def engineRegion (assistant : Assistant) (document : Document) (caret : UInt64) :
    Action Session Region := do
  let (decoration, context) ← decoratedContext assistant document caret
  let region ← ask assistant (.resolve context)
  let session ← get
  pure (settle session.machine.files decoration context.file region)

/-- What is under the caret is defined here. -/
def resolveRegion (assistant : Assistant) (document : Document) (caret : UInt64) :
    Action Session Region := do
  let code ← Action.ofExcept document.code
  let region ← directiveRegion assistant document (Directive.parseAt code caret.toNat)
  if region.isEmpty then engineRegion assistant document caret else pure region

/-- The definition of what is under the caret, if there is one. -/
def resolve (assistant : Assistant) (document : Document) (caret : UInt64) :
    Action Session (Option Text) := do
  let region ← resolveRegion assistant document caret
  if region.isEmpty then pure none
  else pure (some (if document.rich then region.toRich else region.toPlain))

/-- The references to the symbol under the caret, one on each line. -/
def references (assistant : Assistant) (document : Document) (caret : UInt64) :
    Action Session (Option Text) := do
  let (decoration, context) ← decoratedContext assistant document caret
  let regions ← ask assistant (.references context)
  let session ← get
  let settled := regions.map (settle session.machine.files decoration context.file)
  pure (some (Text.joinLines (settled.map fun region =>
    if document.rich then region.toRich else region.toLine)))

/-- What can be inserted at the caret: on a directive's line directives or the files that its
argument could name, and the engine's proposals elsewhere. -/
def completions (assistant : Assistant) (document : Document) (caret : UInt64) :
    Action Session (List Completion) := do
  let code ← Action.ofExcept document.code
  if Directive.isAt code caret.toNat then
    let directive := Directive.ofLine (Text.lineAt code caret.toNat)
    if (Text.wordAt .path code caret.toNat).isEmpty && (Directive.extensions? directive).isSome then
      let project ← project assistant document
      let session ← get
      pure (Directive.fileCompletions session.machine.files project.searchDirs directive)
    else pure Directive.completions
  else
    let (_, context) ← decoratedContext assistant document caret
    ask assistant (.completion context)

/-- What can be inserted at the caret, one on each line. -/
def completion (assistant : Assistant) (document : Document) (caret : UInt64) :
    Action Session (Option Text) := do
  let items ← completions assistant document caret
  pure (some (Completion.listing document.rich items))

/-- The namespaces that a word could come from, one on each line. -/
def suggestUsings (assistant : Assistant) (document : Document) (word : Text) :
    Action Session (Option Text) := do
  let code ← Action.ofExcept document.code
  let context ← context assistant document code 0
  let namespaces ← ask assistant (.namespaces context word)
  pure (some (if document.rich then (Json.texts namespaces).toText else Text.joinLines namespaces))

/-- What can be told about the directive under the caret without the engine. -/
def directiveTooltip (assistant : Assistant) (document : Document) :
    Option Directive.Hit → Action Session (Option Text)
  | none => pure none
  | some (.directive name) => pure (Directive.describe name)
  | some (.argument directive word) => do
    let project ← project assistant document
    let session ← get
    match Directive.lookupFile session.machine.files project.searchDirs directive word with
    | some file => pure (some (Directive.fileNote file))
    | none => pure (Directive.describe directive)

/-- The tidied blocks about the member at the caret. -/
def memberBlocks (assistant : Assistant) (document : Document) (caret : UInt64)
    (allOverloads : Bool) : Action Session (List Text) := do
  let (_, context) ← decoratedContext assistant document caret
  let blocks ← ask assistant (.memberInfo context allOverloads)
  pure (blocks.map Signature.tidy)

/-- What to show for the caret: about a directive, or else the block that fits the hint best. -/
def tooltipText (assistant : Assistant) (document : Document) (caret : UInt64) (hint : Text)
    (short : Bool) : Action Session (Option Text) := do
  let code ← Action.ofExcept document.code
  match ← directiveTooltip assistant document (Directive.parseAt code caret.toNat) with
  | some text => pure (some text)
  | none =>
    let blocks ← memberBlocks assistant document caret (!hint.isEmpty)
    pure (Signature.select blocks hint short)

/-- What to show for the caret. -/
def tooltip (assistant : Assistant) (document : Document) (caret : UInt64) (hint : Text)
    (short : Bool) : Action Session (Option Text) := do
  let text ← tooltipText assistant document caret hint short
  pure (text.map fun text => if document.rich then (Signature.toJson text).toText else text)

/-- All blocks about the member at the caret, with blank lines between them. -/
def memberInfo (assistant : Assistant) (document : Document) (caret : UInt64)
    (hint : Option Text) : Action Session (Option Text) := do
  let allOverloads := hint.any fun hint => !hint.isEmpty
  let blocks ← memberBlocks assistant document caret allOverloads
  pure (some (
    if document.rich then (Json.arr (blocks.map Signature.toJson)).toText
    else Text.joinWith ['\n', '\n'] blocks))

/-- The members of the script, without what decoration put in. -/
def codeMap (assistant : Assistant) (document : Document) (form : Outline.Form) :
    Action Session (Option Text) := do
  let code ← Action.ofExcept document.code
  let decoration ← decorate assistant document code 0
  let items ← ask assistant (.codeMap decoration.text decoration.decorated)
  let own :=
    if decoration.decorated then Decoration.stripInjected items decoration.text true else items
  pure (some (Outline.render form (Outline.sortByParent own)))

/-- The formatted script, behind a line with the caret in it. -/
def format (assistant : Assistant) (document : Document) (caret : UInt64) :
    Action Session (Option Text) := do
  let code ← Action.ofExcept document.code
  let formatted ← ask assistant (.format code)
  let moved := Text.mapCaret code caret.toNat formatted
  pure (some (Text.ofNat moved ++ '\n' :: formatted))

/-- The files and references of the script. -/
def projectReply (assistant : Assistant) (document : Document) : Action Session (Option Text) := do
  let project ← project assistant document
  pure (some (if document.rich then project.toRich else project.toPlain))

/-- What an operation replies, if anything. -/
def perform (assistant : Assistant) (document : Document) (request : Request) :
    Operation → Action Session (Option Text)
  | .references => references assistant document request.caret
  | .suggestUsings word => suggestUsings assistant document word
  | .resolve => resolve assistant document request.caret
  | .completion => completion assistant document request.caret
  | .tooltip hint => tooltip assistant document request.caret hint request.shortTooltips
  | .memberInfo hint => memberInfo assistant document request.caret hint
  | .project => projectReply assistant document
  | .codeMap => codeMap assistant document (if document.rich then .rich else .table)
  | .codeMapTree => codeMap assistant document .tree
  | .format => format assistant document request.caret

end ScriptAssist.Session
