import ScriptAssist.Analysis.Engine
import ScriptAssist.Script.Directive
import ScriptAssist.Script.Generated
import ScriptAssist.Tool.Binding

/-!
# Sessions

A session is the machine together with the bound toolchain. This file has the steps that requests
are made of: asking the engine, loading the toolchain, resolving a project, decorating a script
and collecting what the engine needs to know about a caret.
-/

namespace ScriptAssist

/-- Those a session works with: the engine, and what loads a toolchain from a location. -/
structure Assistant where
  engine : Engine
  load : Machine → Path → Except Failure Toolchain

/-- The machine and the bound toolchain. -/
structure Session where
  machine : Machine
  binding : Binding

/-- A script to work on, and whether answers are wanted as JSON. -/
structure Document where
  script : Script
  rich : Bool
  deriving DecidableEq, Repr

namespace Document

/-- The text of the script. There is nothing to analyse in an empty one. -/
def code (document : Document) : Except Failure Text :=
  if document.script.content.isEmpty then .error .emptySource else .ok document.script.content

/-- The script's path, as it was written. -/
def fileName (document : Document) : Text :=
  document.script.file.text

end Document

/-- What stands in the temporary file for an unsaved script: where the script belongs, then its
text. -/
def Script.temporaryText (script : Script) : Text :=
  let folder := (script.file.parent?.map Path.text).getD []
  "//css_dir ".toList ++ folder ++ '\n' :: script.content

/-- The project of a temporary file, as the project of the script it stands for. The temporary file
may also be known by its canonical path. -/
def Project.standFor (project : Project) (script temporary canonical : Path) : Project :=
  let isTemporary (file : Path) := file.sameAs temporary || file.sameAs canonical
  let folders := [temporary.parent?, canonical.parent?].filterMap id
  { project with
    script := script
    files := script :: project.files.filter fun file => !isTemporary file
    searchDirs := project.searchDirs.filter fun folder => !folder.isAmong folders }

namespace Session

/-- The session after one more event. -/
def log (session : Session) (event : Event) : Session :=
  { session with machine := session.machine.log event }

/-- The session with another machine. -/
def withMachine (session : Session) (machine : Machine) : Session :=
  { session with machine := machine }

/-- Binds the toolchain to the location a text asks for, and tells whether that is another one. -/
def rebind (session : Session) (text : Text) : Bool × Session :=
  let (changed, binding) := session.binding.rebind (session.machine.resolveLocation text)
  (changed, { session with binding := binding })

/-- Asks the engine. -/
def ask (assistant : Assistant) (query : Query) : Action Session query.Answer := do
  let session ← get
  set (session.log (.query query))
  Action.ofExcept (assistant.engine session.machine query)

/-- The toolchain, which is loaded if it is not yet. -/
def toolchain (assistant : Assistant) : Action Session Toolchain := do
  let session ← get
  let default := session.machine.defaultToolchain
  let (outcome, binding) := session.binding.get default (assistant.load session.machine)
  let machine :=
    if session.binding.isLoaded then session.machine
    else session.machine.log (.load (session.binding.source default))
  set (Session.mk machine binding)
  Action.ofExcept outcome

/-- Asks the toolchain for the project of a script. -/
def askProject (toolchain : Toolchain) (script : Path) : Action Session Project := do
  let session ← get
  let content := (session.machine.files.readSource script).toOption
  set (session.log (.project script content))
  Action.ofExcept (toolchain.project session.machine script)

/-- Writes the temporary file for an unsaved script. Once the file is made, writing to it does not
fail here. -/
def writeTemporary (script : Script) : Action Session Path := do
  let session ← get
  let path := session.machine.freePath script.file.pointedExtension
  match session.machine.write path (Utf8.encode script.temporaryText) with
  | .ok machine =>
    set (session.withMachine machine)
    pure path
  | .error cause => throw (.cannotCreateScript cause)

/-- The project of a script. An unsaved script is shown to the toolchain as a temporary file, which
is removed again whatever the toolchain says. -/
def resolveProject (toolchain : Toolchain) (script : Script) : Action Session Project := do
  if script.isUnsaved then
    let temporary ← writeTemporary script
    let canonical := ((← get).machine.files.canonical? temporary).getD temporary
    let project ← (askProject toolchain temporary).finallyDo fun session =>
      session.withMachine (session.machine.remove temporary)
    pure (project.standFor script.file temporary canonical)
  else askProject toolchain script.file

/-- The project of a document. -/
def project (assistant : Assistant) (document : Document) : Action Session Project := do
  let toolchain ← toolchain assistant
  resolveProject toolchain document.script

/-- Writes a help text that was printed to the file where it is kept. -/
def keepHelp (machine : Machine) (file : Path) (help : Text) : Except Failure Machine := do
  let folder := file.parent?.getD ⟨[]⟩
  match machine.files.makeFolders folder with
  | .error cause => .error (.system cause)
  | .ok files =>
    match files.write file (Utf8.encode help) with
    | .error cause => .error (.cannotWrite file cause)
    | .ok files => .ok { machine with files := files }

/-- The file in which a printed help text is kept. -/
def printedHelpFile (machine : Machine) : Path :=
  (machine.tempDir.join (.ofString "CSSCRIPT")).join (.ofString "help.txt")

/-- The file with the help text. A printed one is kept, and printed only once. -/
def helpFile (toolchain : Toolchain) : Action Session Path := do
  modify fun session => session.log .help
  let session ← get
  match toolchain.help with
  | .named find => Action.ofExcept (find session.machine)
  | .printed print =>
    match session.binding.loaded.bind Loaded.helpFile with
    | some file => pure file
    | none =>
      let (help, machine) := print session.machine
      set (session.withMachine machine)
      let help ← Action.ofExcept help
      let file := printedHelpFile machine
      let machine ← Action.ofExcept (keepHelp machine file help)
      set (Session.mk machine (session.binding.rememberHelp file))
      pure file

/-- The section on a directive in the toolchain's help text, or an empty region if there is no help
text or no such section. -/
def helpRegion (toolchain : Toolchain) (directive : Text) : Action Session Region := do
  let file : Option Path ← tryCatch (some <$> helpFile toolchain) fun _ => pure none
  let session ← get
  match file with
  | none => pure .empty
  | some file =>
    match session.machine.files.readText? file with
    | some help => pure (Directive.regionIn file help directive)
    | none => pure .empty

/-- The script decorated for analysis. Generated sources are analysed as they are. -/
def decorate (assistant : Assistant) (document : Document) (code : Text) (caret : UInt64) :
    Action Session Decoration := do
  if Generated.isGenerated document.script.file then pure (.unchanged code caret)
  else
    let toolchain ← toolchain assistant
    let session ← get
    pure (toolchain.decorate session.machine.files code caret)

/-- What the engine needs to analyse `code` at a position, with the rest of the project. -/
def context (assistant : Assistant) (document : Document) (code : Text) (position : UInt64) :
    Action Session Context := do
  let project ← project assistant document
  let session ← get
  let sources ←
    Action.ofExcept (project.auxiliarySources session.machine.files document.script.file)
  pure ⟨code, position, document.fileName, project.refs, sources⟩

/-- The decorated script, and what the engine needs to analyse it at the caret. -/
def decoratedContext (assistant : Assistant) (document : Document) (caret : UInt64) :
    Action Session (Decoration × Context) := do
  let code ← Action.ofExcept document.code
  let decoration ← decorate assistant document code caret
  let context ← context assistant document decoration.text decoration.caret
  pure (decoration, context)

end Session

end ScriptAssist
