import ScriptAssist.Text.Blank
import ScriptAssist.Text.WordChar

/-!
# Declarations

Whether a script already declares a type at its top level, and whether it has a main method. Both
look at words only: strings and block comments are not told from code.
-/

namespace ScriptAssist.Declaration

/-- The words that may stand before the keyword of a type declaration. -/
def modifiers : List Text :=
  ["public".toList, "internal".toList, "static".toList, "partial".toList, "sealed".toList,
    "abstract".toList, "unsafe".toList]

/-- The keywords that declare a type or open a namespace. -/
def keywords : List Text :=
  ["class".toList, "struct".toList, "interface".toList, "enum".toList, "record".toList,
    "namespace".toList]

/-- Whether the line starts with the declaration of a type. -/
def startsType (code : Text) : Bool :=
  match (Text.words code).dropWhile fun word => modifiers.contains word with
  | keyword :: (c :: _) :: _ => keywords.contains keyword && Text.isWordChar c
  | _ => false

/-- The part of a line before a line comment. -/
def beforeComment (line : Text) : Text :=
  match Text.cutAt? ['/', '/'] line with
  | some (code, _) => code
  | none => line

/-- How many more braces are opened than closed. There is no bound to the count; on a text of fewer
than 2147483648 characters, 32 bits are enough for it. -/
def braceBalance (code : Text) : Int :=
  (code.count '\x7b' : Int) - code.count '\x7d'

/-- Whether one of the lines starts a type while no brace is open, when `depth` are open before. -/
def declaresTypeAt (depth : Int) : List Text → Bool
  | [] => false
  | line :: lines =>
    let code := beforeComment line
    (depth = 0 && startsType code) || declaresTypeAt (depth + braceBalance code) lines

/-- Whether the script declares a type at its top level. -/
def declaresType (s : Text) : Bool :=
  declaresTypeAt 0 (Text.lines s)

/-- The first word of `s` and what follows it. -/
def cutWord (s : Text) : Text × Text :=
  (Text.trimStart s).span fun c => !Text.isBlank c

/-- What follows the first word of `s` if it is `word`, and else `s`. -/
def skipWord (word s : Text) : Text :=
  if (cutWord s).1 = word then (cutWord s).2 else s

/-- Whether `s` starts with the name of the main method and an opening parenthesis. -/
def startsMainName (s : Text) : Bool :=
  match Text.trimStart s with
  | c :: rest =>
    (c = 'M' || c = 'm') &&
      match Text.after? "ain".toList rest with
      | some rest => (Text.trimStart rest).head? = some '('
      | none => false
  | [] => false

/-- Whether `s` starts with the declaration of a main method. -/
def startsMain (s : Text) : Bool :=
  let s := skipWord "static".toList (skipWord "public".toList (skipWord "static".toList s))
  let (type, rest) := cutWord s
  (type = "void".toList || type = "int".toList) && startsMainName rest

/-- Whether `p` holds of what follows one of the line feeds in the text. -/
def anyAfterLineFeed (p : Text → Bool) : Text → Bool
  | [] => false
  | c :: s => (c = '\n' && p s) || anyAfterLineFeed p s

/-- Whether a line of the script starts with the declaration of a main method. -/
def declaresMain (s : Text) : Bool :=
  startsMain s || anyAfterLineFeed startsMain s

end ScriptAssist.Declaration
