import ScriptAssist.Text.Basic

/-!
# Blank characters

The characters with the property White_Space, and what is done with them: trimming a text,
splitting it into words and telling the characters that survive a change of indentation.
-/

namespace ScriptAssist.Text

/-- Whether `c` has the property White_Space. -/
def isBlank (c : Char) : Bool :=
  let n := c.toNat
  (9 ≤ n && n ≤ 13) || n = 0x20 || n = 0x85 || n = 0xA0 || n = 0x1680
    || (0x2000 ≤ n && n ≤ 0x200A) || n = 0x2028 || n = 0x2029 || n = 0x202F || n = 0x205F
    || n = 0x3000

/-- Whether `c` is kept by every change of indentation: a line feed, or not blank. -/
def isMeaningful (c : Char) : Bool :=
  c = '\n' || !isBlank c

/-- `s` without the blanks it starts with. -/
def trimStart (s : Text) : Text :=
  s.dropWhile isBlank

/-- `s` without the blanks it ends with. -/
def trimEnd (s : Text) : Text :=
  dropEndWhile isBlank s

/-- `s` without the blanks around it. -/
def trim (s : Text) : Text :=
  trimEnd (trimStart s)

/-- Whether `s` holds nothing but blanks. -/
def isBlankText (s : Text) : Bool :=
  s.all isBlank

/-- The words of `s`: its longest runs without a blank. -/
def words (s : Text) : List Text :=
  (s.splitOnP isBlank).filter fun word => !word.isEmpty

theorem isMeaningful_lineFeed : isMeaningful '\n' = true := by
  decide

end ScriptAssist.Text
