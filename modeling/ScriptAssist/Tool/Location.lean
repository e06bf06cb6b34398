import ScriptAssist.Machine.Basic
import ScriptAssist.Script.Options

/-!
# Locations

Where the toolchain and the engine are found when nothing is said about it, and which toolchain a
request means.
-/

namespace ScriptAssist

namespace Machine

/-- The name of the engine's program. -/
def engineName : Path := .ofString "syntaxer-engine"

/-- The name of the toolchain's program. -/
def toolchainName : Path := .ofString "cscs.exe"

/-- What an editor sends to ask for the toolchain that came with the program. -/
def defaultToolchainText : Text := "./cscs.exe".toList

/-- The engine's program: the one a variable names, or the one beside the running program, or else
the one on the search path. -/
def defaultEngine (machine : Machine) : Path :=
  match machine.engineVariable.filter fun text => !text.isEmpty with
  | some text => ⟨text⟩
  | none =>
    let beside := machine.programDir.map fun folder => folder.join engineName
    (beside.filter machine.files.isFile).getD engineName

/-- The toolchain that came with the program: beside it, or one folder up. -/
def defaultToolchain (machine : Machine) : Path :=
  match machine.programDir with
  | none => toolchainName
  | some folder =>
    let beside := folder.join toolchainName
    if machine.files.isFile beside then beside
    else
      let above := folder.parent?.map fun parent => parent.join toolchainName
      (above.filter machine.files.isFile).getD beside

/-- The location a text asks for: blank text and the default one mean the toolchain that came with
the program; any other is made canonical if something is there. -/
def resolveLocation (machine : Machine) (text : Text) : Path :=
  let text := Text.trim text
  if text.isEmpty || text = defaultToolchainText then machine.defaultToolchain
  else (machine.files.canonical? ⟨text⟩).getD ⟨text⟩

end Machine

/-- Whether a configuration file turns wrapping on. One that cannot be read does not. -/
def Files.enablesClass (files : Files) (config : Path) : Bool :=
  (files.readText? config).any Options.enabledBy

end ScriptAssist
