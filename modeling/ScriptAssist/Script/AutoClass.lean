import ScriptAssist.Script.Declaration
import ScriptAssist.Script.Prologue

/-!
# Automatic classes

A script of bare statements, or of bare members with a main method, is wrapped into a class so
that it can be analysed as an ordinary program. The class is opened on one line of its own, which
ends with a marker and stands between the prologue and the first line of code, and closed on
another line behind the script.
-/

namespace ScriptAssist.AutoClass

/-- The mark of the line that was put in. -/
def marker : Text :=
  "///CS-Script auto-class generation".toList

/-- The name of the class that is put in. -/
def className : Text :=
  "ScriptClass".toList

/-- The line that opens the class, and for bare statements its main method. -/
def header (hasMain : Bool) : Text :=
  let main := if hasMain then [] else "public static void Main(string[] args) \x7b ".toList
  "public class ".toList ++ className ++ " \x7b ".toList ++ main ++ marker

/-- The line that closes what the header opens. -/
def footer (hasMain : Bool) : Text :=
  if hasMain then ['\x7d'] else ['\x7d', ' ', '\x7d']

/-- The line break a text uses: CR LF if there is one in it. -/
def lineBreak (s : Text) : Text :=
  if Text.occursIn ['\r', '\n'] s then ['\r', '\n'] else ['\n']

/-- What comes of wrapping a script at a caret. -/
inductive Wrapping where
  /-- Nothing is done to the script. -/
  | declined
  /-- The script with the class around its code, and the caret at the same place in it. -/
  | wrapped (text : Text) (caret : UInt64)
  /-- The moved caret is no number of 64 bits. This stops the program. -/
  | overflow
  deriving DecidableEq, Repr

/-- The caret after so many characters have been put in at a place, if it is a number of 64 bits. -/
def moveCaret? (place length : Nat) (caret : UInt64) : Option UInt64 :=
  if caret.toNat < place then some caret
  else if caret.toNat + length < UInt64.size then some (caret + UInt64.ofNat length)
  else none

/-- Puts the class around the code of a script. Nothing is done to a script that declares a type,
that is already wrapped, or that has no code. -/
def wrap (s : Text) (caret : UInt64) : Wrapping :=
  if Text.occursIn marker s || Declaration.declaresType s then .declined
  else
    let (prologue, code) := Prologue.split s
    if code.isEmpty then .declined
    else
      let hasMain := Declaration.declaresMain s
      let newLine := lineBreak s
      let opening := header hasMain ++ newLine
      let lastBreak := if Text.endsWith ['\n'] s then [] else newLine
      let wrapped := prologue ++ opening ++ code ++ lastBreak ++ footer hasMain ++ newLine
      match moveCaret? prologue.length opening.length caret with
      | some moved => .wrapped wrapped moved
      | none => .overflow

/-- The wrapped script and the moved caret, if there are any. -/
def Wrapping.result? : Wrapping → Option (Text × UInt64)
  | .wrapped text caret => some (text, caret)
  | .declined | .overflow => none

end ScriptAssist.AutoClass
