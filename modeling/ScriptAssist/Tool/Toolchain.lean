import ScriptAssist.Script.Decoration
import ScriptAssist.Tool.Location

/-!
# Toolchains

The toolchain knows which files make up a script, how a script is wrapped into a class, and where
the text that describes the directives is.
-/

namespace ScriptAssist

/-- How a toolchain gives its help text. -/
inductive HelpSource where
  /-- It is in a file that the toolchain names whenever it is asked. -/
  | named (find : Machine → Except Failure Path)
  /-- The toolchain prints it on demand. It is kept in a file from then on. -/
  | printed (print : Machine → Except Failure Text × Machine)

/-- A toolchain. Its answers may depend on everything it can see. -/
structure Toolchain where
  location : Path
  project : Machine → Path → Except Failure Project
  wrap : Text → UInt64 → Option (Text × UInt64)
  help : HelpSource

namespace Toolchain

/-- The name of a toolchain's configuration. -/
def configName : Path := .ofString "css_config.xml"

/-- The configuration beside a toolchain. -/
def configAt (location : Path) : Path :=
  match location.parent? with
  | some folder => folder.join configName
  | none => configName

/-- The toolchain's configuration. -/
def config (toolchain : Toolchain) : Path :=
  configAt toolchain.location

/-- The script decorated for analysis, as its options and the toolchain's configuration want. -/
def decorate (toolchain : Toolchain) (files : Files) (s : Text) (caret : UInt64) : Decoration :=
  Decoration.decorate toolchain.wrap (files.enablesClass toolchain.config) s caret

end Toolchain

end ScriptAssist
