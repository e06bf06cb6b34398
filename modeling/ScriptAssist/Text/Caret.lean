import ScriptAssist.Text.Blank
import ScriptAssist.Text.LineTable

/-!
# Carets

A caret is a place between two characters, counted in characters from the start of the text.
This file relates carets to byte offsets and finds the word and the line around a caret.
-/

namespace ScriptAssist.Text

/-- The byte offset of a caret; past the end it is the size of the text. -/
def byteOffset (s : Text) (caret : Nat) : Nat :=
  Utf8.byteSize (s.take caret)

/-- The caret of the last character boundary that is not above the byte offset. -/
def charOffset : Text → Nat → Nat
  | [], _ => 0
  | c :: s, offset => if offset < c.utf8Size then 0 else charOffset s (offset - c.utf8Size) + 1

/-- The longest stretch around the caret without a character that satisfies `stop`. -/
def stretchAt (stop : Char → Bool) (s : Text) (caret : Nat) : Text :=
  tailAfter stop (s.take caret) ++ (s.drop caret).takeWhile fun c => !stop c

/-- The characters that end a word of program text. -/
def wordDelimiters : Text :=
  ['\\', '\t', '\n', '\r', ' ', '.', ',', ':', ';', '\'', '"', '=', '[', ']', '\x7b', '\x7d',
    '(', ')', '+', '-', '/', '!', '?', '@', '$', '%', '^', '&', '*', '>', '<', '#', '|', '~',
    '\x60']

/-- The characters that end a path or a directive name; points and slashes are not among them. -/
def pathDelimiters : Text :=
  ['\t', '\n', '\r', ' ', ',', ';', '\'', '"', '=', '(', ')', '<', '>', '|']

/-- Which characters end a word. -/
inductive WordKind where
  | code
  | path
  deriving DecidableEq, Repr

/-- The characters that end a word of this kind. -/
def WordKind.delimiters : WordKind → Text
  | .code => wordDelimiters
  | .path => pathDelimiters

/-- The word around the caret. -/
def wordAt (kind : WordKind) (s : Text) (caret : Nat) : Text :=
  stretchAt (fun c => kind.delimiters.contains c) s caret

/-- The line around the caret, up to the nearest carriage returns or line feeds. -/
def fullLineAt (s : Text) (caret : Nat) : Text :=
  stretchAt (fun c => c = '\r' || c = '\n') s caret

/-- The line around the caret without the blanks around it. -/
def lineAt (s : Text) (caret : Nat) : Text :=
  trim (fullLineAt s caret)

/-- The number of the line the caret is on, counted from one. -/
def lineNumberAt (s : Text) (caret : Nat) : Nat :=
  (LineTable.ofText s).lineNumberOf (byteOffset s caret)

end ScriptAssist.Text
