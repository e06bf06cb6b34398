import ScriptAssist.Text.Blank
import ScriptAssist.Text.WordChar

/-!
# Prologues

The prologue of a script is the lines before its first line of code: blank lines, comments,
preprocessor lines and `using` directives. A class can only be opened behind it.
-/

namespace ScriptAssist.Prologue

/-- Whether `c` may stand in the name of a namespace or type. -/
def isNameChar (c : Char) : Bool :=
  Text.isWordChar c || c = '.'

/-- Whether `c` may stand in what an alias is short for. -/
def isTargetChar (c : Char) : Bool :=
  isNameChar c || c = '<' || c = '>' || c = ',' || c = ' '

/-- Whether `s`, which follows an equals sign, is what an alias is short for. -/
def isTarget (s : Text) : Bool :=
  match Text.trimStart s with
  | [] => s.getLast? = some ' '
  | target => target.all isTargetChar

/-- Whether `s` is what may follow the name of a directive: a semicolon, or an equals sign, what
the alias is short for and a semicolon. -/
def isDirectiveEnd (s : Text) : Bool :=
  match Text.trimStart s with
  | [';'] => true
  | '=' :: rest =>
    match Text.before? [';'] rest with
    | some target => isTarget target
    | none => false
  | _ => false

/-- Whether `s` is a name and the end of a directive. -/
def isNamedDirective (s : Text) : Bool :=
  !(s.takeWhile isNameChar).isEmpty && isDirectiveEnd (s.dropWhile isNameChar)

/-- The text behind `keyword` and at least one blank. -/
def afterKeyword? (keyword s : Text) : Option Text :=
  match Text.after? keyword s with
  | some (c :: rest) => if Text.isBlank c then some (Text.trimStart rest) else none
  | _ => none

/-- Whether a line without blanks around it is a `using` directive. -/
def isUsingDirective (line : Text) : Bool :=
  match afterKeyword? "using".toList line with
  | none => false
  | some rest =>
    isNamedDirective rest || (afterKeyword? "static".toList rest).any isNamedDirective

/-- Whether a line belongs to a prologue. -/
def isPrologueLine (line : Text) : Bool :=
  let line := Text.trim line
  line.isEmpty || Text.startsWith ['/', '/'] line || Text.startsWith ['#'] line
    || isUsingDirective line

/-- A text as its prologue and the rest, which starts with the first line of code. -/
def split (s : Text) : Text × Text :=
  let (prologue, code) := (Text.linesInclusive s).span isPrologueLine
  (prologue.flatten, code.flatten)

example : ["using System;", "using static System.Math;", "using A = System.Int32 ;", "using B=;",
      "using (f) { }", "using static ;"].map (fun s => isUsingDirective s.toList)
    = [true, true, true, false, false, true] := by decide +kernel

end ScriptAssist.Prologue
