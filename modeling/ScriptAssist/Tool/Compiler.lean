import ScriptAssist.Script.AutoClass
import ScriptAssist.Tool.Listing
import ScriptAssist.Tool.Toolchain

/-!
# The compiler as a toolchain

The toolchain of an installation is a program. It lists the project of a script and prints the help
text; a program that is a library of the `dotnet` host is run by that host.
-/

namespace ScriptAssist

/-- The program that serves as a toolchain. -/
structure Compiler where
  location : Path
  deriving DecidableEq, Repr

namespace Compiler

/-- The compiler at a location, if a file is there. -/
def load (machine : Machine) (location : Path) : Except Failure Compiler :=
  if machine.files.isFile location then .ok ⟨location⟩
  else .error (.toolchainUnavailable location)

/-- Whether the program needs a host to run. -/
def needsHost (compiler : Compiler) : Bool :=
  (compiler.location.extension?.map Text.toLower) = some "dll".toList

/-- The command that gives the program these arguments. -/
def command (compiler : Compiler) (arguments : List Text) : Command :=
  if compiler.needsHost then ⟨.ofString "dotnet", compiler.location.text :: arguments⟩
  else ⟨compiler.location, arguments⟩

/-- What the program prints when it is run with these arguments. -/
def run (compiler : Compiler) (machine : Machine) (arguments : List Text) :
    Except Failure Text × Machine :=
  match machine.run (compiler.command arguments) with
  | (.error cause, machine) => (.error (.cannotRun compiler.location cause), machine)
  | (.ok outcome, machine) =>
    if outcome.status = 0 then (.ok (Utf8.decodeLossy outcome.output), machine)
    else
      let complaint := Text.trim (Utf8.decodeLossy outcome.complaint)
      (.error (.exited compiler.location outcome.status complaint), machine)

/-- The folder in which the toolchain keeps what it has made. -/
def cacheDir (machine : Machine) : Path :=
  machine.tempDir.join (.ofString "CSSCRIPT")

/-- The file of debugging aids, which every script may use. -/
def debugFile (machine : Machine) : Path :=
  ((cacheDir machine).join (.ofString "Cache")).join (.ofString "dbg.cs")

/-- The project with the file of debugging aids, if it is there and not listed. -/
def withDebugFile (machine : Machine) (project : Project) : Project :=
  let file := debugFile machine
  if machine.files.isFile file && !file.isAmong project.files then
    { project with files := project.files ++ [file] }
  else project

/-- The project of a script, as the program lists it. -/
def project (compiler : Compiler) (machine : Machine) (script : Path) :
    Except Failure Project × Machine :=
  let (listing, machine) := compiler.run machine ["-proj".toList, script.text]
  (listing.map fun listing => withDebugFile machine (Listing.parse script listing), machine)

/-- The help text, as the program prints it. -/
def help (compiler : Compiler) (machine : Machine) : Except Failure Text × Machine :=
  compiler.run machine ["-help".toList]

/-- The compiler as a toolchain. It has no answer where wrapping stops the program. -/
def toolchain (compiler : Compiler) : Toolchain where
  location := compiler.location
  project machine script := (compiler.project machine script).1
  wrap s caret := (AutoClass.wrap s caret).result?
  help := .printed compiler.help

end Compiler

end ScriptAssist
