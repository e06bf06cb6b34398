import ScriptAssist.Json.Value
import ScriptAssist.Text.Blank

/-!
# Signatures

The engine describes a member in blocks of text, one for each overload, whose first line is the
signature. This file tidies the blocks, counts the arguments of a signature, and picks the
overload that fits the arguments typed so far.
-/

namespace ScriptAssist.Signature

/-- How many commas stand outside all angle brackets, when `level` of them are open. There is no
bound to the level; on a text of fewer than 2147483648 characters, 32 bits are enough for it. -/
def commasAt (level : Int) : Text → Nat
  | [] => 0
  | c :: s =>
    if c = '<' then commasAt (level + 1) s
    else if c = '>' then commasAt (level - 1) s
    else if c = ',' && level = 0 then commasAt level s + 1
    else commasAt level s

/-- What stands between the first opening and the last closing parenthesis, if they are in that
order. -/
def parameters? (s : Text) : Option Text := do
  let (_, rest) ← Text.cutAtChar? '(' s
  let (_, inner) ← Text.cutAtChar? ')' rest.reverse
  some inner.reverse

/-- The number of arguments in a signature. Commas between angle brackets separate none. -/
def argumentCount (s : Text) : Nat :=
  match parameters? s with
  | none => 0
  | some inner => if inner.isEmpty then 0 else commasAt 0 inner + 1

/-- One pass over `s` that writes each two adjacent line feeds as one. -/
def mergeLineFeeds : Text → Text
  | [] => []
  | '\n' :: '\n' :: s => '\n' :: mergeLineFeeds s
  | c :: s => c :: mergeLineFeeds s

/-- `s` after as many passes as still merge line feeds. -/
def collapse (s : Text) : Text :=
  let next := mergeLineFeeds s
  if next.length < s.length then collapse next else s
termination_by s.length

/-- A block with line feeds for line breaks, without blank lines and blanks at its end. -/
def tidy (block : Text) : Text :=
  Text.trimEnd (collapse (Text.toLineFeeds block))

/-- The first line of a block. -/
def firstLine (block : Text) : Text :=
  (Text.lines block).headD []

/-- The number of arguments a hint holds: its parts between commas. -/
def hintCount (hint : Text) : Nat :=
  (hint.splitOn ',').length

/-- The block for a hint, which holds the arguments typed so far: the first overload with that
many arguments, or else the first block. A short answer is the signature alone, except that
without a hint the first block is given as it is. -/
def select (blocks : List Text) (hint : Text) (short : Bool) : Option Text :=
  if hint.isEmpty then blocks.head?
  else
    let candidates := if short then blocks.map firstLine else blocks
    let fitting := candidates.find? fun block => argumentCount block = hintCount hint
    fitting <|> candidates.head?

/-- A block with its number of arguments, as a record. -/
def toJson (block : Text) : Json :=
  .obj [
    ("text".toList, .str block),
    ("argumentCount".toList, .int (argumentCount block))]

end ScriptAssist.Signature
