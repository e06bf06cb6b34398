import ScriptAssist.Files.Failure
import ScriptAssist.Text.Blank

/-!
# Command lines

Splitting the arguments of a program to start, as a shell does: blanks separate words, quotes and
backslashes join them, and a hash at the start of a word begins a comment.
-/

namespace ScriptAssist

/-- A program with its arguments. -/
structure Command where
  program : Path
  arguments : List Text
  deriving DecidableEq, Repr

namespace Command

/-- Where the reader of arguments stands: between words, inside one, between quotes, behind a
backslash, or in a comment. -/
inductive Place where
  | between
  | betweenEscaped
  | word
  | wordEscaped
  | single
  | double
  | doubleEscaped
  | comment
  deriving DecidableEq, Repr

/-- Whether `c` separates words. -/
def isSeparator (c : Char) : Bool :=
  c = ' ' || c = '\t' || c = '\n'

/-- Whether a backslash between double quotes takes the meaning from `c`. -/
def isEscapable (c : Char) : Bool :=
  c = '$' || c = '\x60' || c = '"' || c = '\\'

/-- One character: where the reader stands behind it, the word it is in, in reverse, and the words
before that, in reverse. -/
def step (place : Place) (word : Text) (words : List Text) (c : Char) :
    Place × Text × List Text :=
  match place with
  | .between =>
    if c = '\'' then (.single, word, words)
    else if c = '"' then (.double, word, words)
    else if c = '\\' then (.betweenEscaped, word, words)
    else if isSeparator c then (.between, word, words)
    else if c = '#' then (.comment, word, words)
    else (.word, c :: word, words)
  | .betweenEscaped =>
    if c = '\n' then (.between, word, words) else (.word, c :: word, words)
  | .word =>
    if c = '\'' then (.single, word, words)
    else if c = '"' then (.double, word, words)
    else if c = '\\' then (.wordEscaped, word, words)
    else if isSeparator c then (.between, [], word.reverse :: words)
    else (.word, c :: word, words)
  | .wordEscaped =>
    if c = '\n' then (.word, word, words) else (.word, c :: word, words)
  | .single =>
    if c = '\'' then (.word, word, words) else (.single, c :: word, words)
  | .double =>
    if c = '"' then (.word, word, words)
    else if c = '\\' then (.doubleEscaped, word, words)
    else (.double, c :: word, words)
  | .doubleEscaped =>
    if isEscapable c then (.double, c :: word, words)
    else if c = '\n' then (.double, word, words)
    else (.double, c :: '\\' :: word, words)
  | .comment =>
    if c = '\n' then (.between, word, words) else (.comment, word, words)

/-- The words once everything is read, or nothing if a quote is open. A backslash at the end stands
for itself. -/
def finish (word : Text) (words : List Text) : Place → Option (List Text)
  | .between | .comment => some words.reverse
  | .betweenEscaped | .wordEscaped => some ((('\\' :: word).reverse :: words).reverse)
  | .word => some ((word.reverse :: words).reverse)
  | .single | .double | .doubleEscaped => none

/-- The words in `s`, read from the given place on. -/
def splitFrom (place : Place) (word : Text) (words : List Text) : Text → Option (List Text)
  | [] => finish word words place
  | c :: s =>
    let (place, word, words) := step place word words c
    splitFrom place word words s

/-- The words of a string of arguments, or nothing if a quote is not closed. -/
def split? (s : Text) : Option (List Text) :=
  splitFrom .between [] [] s

/-- The program and arguments that a text asks to start: the program, and behind a bar its
arguments. -/
def ofSpec (spec : Text) : Except Failure Command :=
  let build (program arguments : Text) : Except Failure Command :=
    match split? arguments with
    | some words => .ok ⟨⟨Text.trim program⟩, words⟩
    | none => .error (.unclosedQuote arguments)
  match spec.splitOn '|' with
  | [program] => build program []
  | [program, arguments] => build program arguments
  | _ => .error .invalidPopen

end Command

end ScriptAssist
