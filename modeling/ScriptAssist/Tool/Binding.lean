import ScriptAssist.Tool.Toolchain

/-!
# Bindings

The one toolchain that requests work with. Binding it to a location only records the location; the
toolchain is loaded when it is first needed, and kept until the location changes.
-/

namespace ScriptAssist

/-- A loaded toolchain, and the file of its printed help text once there is one. -/
structure Loaded where
  toolchain : Toolchain
  helpFile : Option Path

/-- The location of the toolchain, if one was chosen, and the toolchain itself once loaded. -/
structure Binding where
  location : Option Path
  loaded : Option Loaded

namespace Binding

/-- No location, and nothing loaded. -/
def unbound : Binding :=
  ⟨none, none⟩

/-- Whether a toolchain is loaded. -/
def isLoaded (binding : Binding) : Bool :=
  binding.loaded.isSome

/-- The binding to a location, and whether that is another one than before. What was loaded from
another location is dropped. -/
def rebind (binding : Binding) (location : Path) : Bool × Binding :=
  if binding.location.any fun bound => bound.sameAs location then (false, binding)
  else (true, ⟨some location, none⟩)

/-- The location from which the toolchain is loaded when it is needed. -/
def source (binding : Binding) (default : Path) : Path :=
  binding.location.getD default

/-- The binding once `toolchain` has been loaded from `location`. -/
def keep (location : Path) (toolchain : Toolchain) : Binding :=
  ⟨some location, some ⟨toolchain, none⟩⟩

/-- The loaded toolchain, or the one that `load` gives for the location. A failure to load it
leaves the binding as it was. -/
def get (binding : Binding) (default : Path) (load : Path → Except Failure Toolchain) :
    Except Failure Toolchain × Binding :=
  match binding.loaded with
  | some loaded => (.ok loaded.toolchain, binding)
  | none =>
    let location := binding.source default
    match load location with
    | .ok toolchain => (.ok toolchain, keep location toolchain)
    | .error _ => (.error (.toolchainUnavailable location), binding)

/-- The binding with a help file for the loaded toolchain. -/
def rememberHelp (binding : Binding) (file : Path) : Binding :=
  { binding with loaded := binding.loaded.map fun loaded => { loaded with helpFile := some file } }

end Binding

end ScriptAssist
