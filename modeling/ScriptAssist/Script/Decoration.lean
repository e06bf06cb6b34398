import ScriptAssist.Answer.Outline
import ScriptAssist.Script.AutoClass
import ScriptAssist.Script.Options
import ScriptAssist.Text.Caret

/-!
# Decorations

Analysis sees a script decorated with a class when the script asks for it and the toolchain
agrees. What the engine reports about decorated text is moved back to the lines of the script.
-/

namespace ScriptAssist

/-- The text to analyse, the caret in it, and whether a class was put around the script. -/
structure Decoration where
  text : Text
  caret : UInt64
  decorated : Bool
  deriving DecidableEq, Repr

namespace Decoration

/-- The script as it is. -/
def unchanged (s : Text) (caret : UInt64) : Decoration :=
  ⟨s, caret, false⟩

/-- The script with a class around it if it wants one, has none yet and `wrap` puts one in. -/
def decorate (wrap : Text → UInt64 → Option (Text × UInt64)) (default : Bool)
    (s : Text) (caret : UInt64) : Decoration :=
  if Text.occursIn AutoClass.marker s || !Options.wantsClass s default then unchanged s caret
  else
    match wrap s caret with
    | some (wrapped, moved) =>
      if Text.occursIn AutoClass.marker wrapped then ⟨wrapped, moved, true⟩ else unchanged s caret
    | none => unchanged s caret

/-- The line of the first marker, counted from zero. -/
def injectedLine? (decorated : Text) : Option Nat :=
  (Text.cutAt? AutoClass.marker decorated).map fun around =>
    (LineTable.ofText decorated).lineOf (Utf8.byteSize around.1)

/-- A region of decorated text at the lines of the script. Only lines behind the one that was put
in have moved. -/
def undecorate (decorated : Text) (region : Region) : Region :=
  match injectedLine? decorated with
  | some injected =>
    if Int32.ofNat injected < region.beginLine then
      { region with beginLine := region.beginLine - 1, endLine := region.endLine - 1 }
    else region
  | none => region

/-- Whether a member belongs to the class that was put in. -/
def isOfInjectedClass (item : Member) : Bool :=
  item.parentName = AutoClass.className

/-- Whether a member stands outside all types. -/
def isGlobal (item : Member) : Bool :=
  Text.startsWith "<Global".toList item.parentName

/-- A member at its line in the script, when `line` was put in. -/
def moveBack (line : Int32) (item : Member) : Member :=
  if line < item.line then { item with line := item.line - 1 } else item

/-- The members of decorated text that belong to the script, at their lines in it. The members of
the class that was put in are left out if that is wanted and others stand outside all types. -/
def stripInjected (items : List Member) (decorated : Text) (stripClass : Bool) : List Member :=
  match injectedLine? decorated with
  | none => items
  | some injected =>
    let line := Int32.ofNat injected + 1
    let kept :=
      if stripClass && items.any isGlobal then items.filter fun item => !isOfInjectedClass item
      else items
    (kept.filter fun item => item.line ≠ line).map (moveBack line)

end Decoration

end ScriptAssist
