import ScriptAssist.Service.Server
import ScriptAssist.Service.Settings
import ScriptAssist.Tool.Compiler

/-!
# Command line

Handles the request that the arguments make, and prints the reply. When the request is to listen,
requests are taken from standard input instead, each of them ended by an empty line, until one asks
to stop or the input ends. No program is started from here, so a request that needs the engine or
the toolchain is answered by the failure to reach it.
-/

namespace ScriptAssist.CommandLine

/-- An engine that cannot be reached, and toolchains that are programs. -/
def assistant : Assistant where
  engine machine _ := .error (.engineUnavailable machine.defaultEngine)
  load machine location := (Compiler.load machine location).map Compiler.toolchain

/-- The paths at which something may be that handling a request depends on. -/
def pathsFor (machine : Machine) (request : Request) : List Path :=
  let scripts := request.script.toList ++ request.rawFile.toList
  let folders := machine.programDir.toList ++ (machine.programDir.bind Path.parent?).toList
  let beside := folders.map fun folder => folder.join Machine.toolchainName
  let toolchains := (request.toolchain.map fun text => Path.mk (Text.trim text)).toList ++ beside
  scripts.map Path.mk ++ toolchains ++ toolchains.map Toolchain.configAt

/-- The files with one more, whose folders are made where they are not known yet. -/
def withFile (files : Files) (path : Path) (content : Bytes) : Files :=
  let written := do
    let files ← files.makeFolders (path.parent?.getD ⟨[]⟩)
    files.write path content
  written.toOption.getD files

/-- The files with the one at this path as it is now, or without it if it cannot be read. -/
def refresh (files : Files) (path : Path) : IO Files := do
  match ← (IO.FS.readBinFile (String.ofList path.text)).toBaseIO with
  | .ok content => pure (withFile files path content.toList)
  | .error _ => pure ((files.remove path).toOption.getD files)

/-- The machine with the files that a request depends on as they are now. -/
def look (machine : Machine) (request : Request) : IO Machine := do
  let files ← (pathsFor machine request).foldlM refresh machine.files
  pure { machine with files := files }

/-- The machine as far as it is known before any request. -/
def machine : IO Machine := do
  let workingDir : Path := .ofString (← IO.currentDir).toString
  let program : Path := .ofString (← IO.appPath).toString
  let tempDir := (← IO.getEnv "TMPDIR").getD "/tmp"
  let engine ← IO.getEnv "SYNTAXER_ENGINE"
  let start : Files := ⟨[], workingDir.segments.filter fun segment => !Path.isFiller segment⟩
  let files := do
    let files ← start.makeFolders workingDir
    files.makeFolders (.ofString tempDir)
  pure {
    files := files.toOption.getD start
    tempDir := .ofString tempDir
    programDir := program.parent?
    engineVariable := engine.map String.toList
    searchPath := []
    processes := []
    programs := fun _ _ => ⟨0, [], []⟩
    events := [] }

/-- The session that starts with a request, whose toolchain is bound if it names one. -/
def sessionFor (machine : Machine) (request : Request) : Session :=
  match request.toolchain with
  | some location => (Session.rebind ⟨machine, .unbound⟩ location).2
  | none => ⟨machine, .unbound⟩

/-- Writes a reply, if there is one. -/
def write (reply : Option Text) : IO Unit := do
  match reply with
  | some text =>
    let output ← IO.getStdout
    output.putStrLn (String.ofList text)
    output.flush
  | none => pure ()

/-- Reads lines up to an empty one. Gives nothing when the input ends first. -/
partial def readRequest (input : IO.FS.Stream) (lines : List String) : IO (Option String) := do
  let line ← input.getLine
  if line.isEmpty then pure none
  else if line = "\n" then pure (some (String.join lines.reverse))
  else readRequest input (line :: lines)

/-- Serves requests until one asks to stop or the input ends. -/
partial def listen (input : IO.FS.Stream) (server : Server) : IO Unit := do
  match ← readRequest input [] with
  | none => pure ()
  | some payload =>
    let connection : Connection := ⟨[Utf8.encode payload.toList]⟩
    let machine ← look server.session.machine connection.request
    let server := { server with session := server.session.withMachine machine }
    let server := server.serve assistant [connection]
    write server.replies.getLast?.join
    if server.hasStopped then pure () else listen input server

end ScriptAssist.CommandLine

open ScriptAssist ScriptAssist.CommandLine

def main (arguments : List String) : IO Unit := do
  let request := Request.ofArguments (arguments.map String.toList)
  let session := sessionFor (← look (← machine) request) request
  if request.listen then
    let settings := Settings.ofRequest session.machine request
    listen (← IO.getStdin) (.start assistant session (.start settings.client []))
  else write (Session.process assistant request session).1
