import ScriptAssist.Text.Utf8

/-!
# Line tables

A table of the byte offsets at which the lines of a text start, and the line of a byte offset by
binary search in it.
-/

namespace ScriptAssist

/-- Where the lines of a text start, in bytes, and how long the text is. -/
structure LineTable where
  starts : Array Nat
  size : Nat
  deriving DecidableEq, Repr

namespace LineTable

/-- The offsets just past the line feeds of a text whose first character is at `offset`. -/
def startsAfter (offset : Nat) : Text → List Nat
  | [] => []
  | c :: s =>
    let next := offset + c.utf8Size
    if c = '\n' then next :: startsAfter next s else startsAfter next s

/-- The line table of `s`. -/
def ofText (s : Text) : LineTable :=
  ⟨(0 :: startsAfter 0 s).toArray, Utf8.byteSize s⟩

/-- How many of the ascending numbers at the places from `low` to `high` are at most `bound`,
counted with the `low` ones before them. -/
def countUpTo (starts : Array Nat) (bound low high : Nat) : Nat :=
  if low < high then
    let middle := (low + high) / 2
    if starts.getD middle 0 ≤ bound then countUpTo starts bound (middle + 1) high
    else countUpTo starts bound low middle
  else low
termination_by high - low

/-- The line of a byte offset, counted from zero. An offset past the end is on the last line. -/
def lineOf (table : LineTable) (offset : Nat) : Nat :=
  countUpTo table.starts (min offset table.size) 0 table.starts.size - 1

/-- The number of the line of a byte offset, counted from one. -/
def lineNumberOf (table : LineTable) (offset : Nat) : Nat :=
  table.lineOf offset + 1

end LineTable

end ScriptAssist
