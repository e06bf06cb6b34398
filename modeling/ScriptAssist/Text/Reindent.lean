import ScriptAssist.Text.Blank

/-!
# Carets across a change of indentation

Formatting a script moves its blanks and keeps everything else. A caret is carried over by the
rank of the meaningful character it stands at or before, and keeps its distance to it as far as
the blanks before that character allow.
-/

namespace ScriptAssist.Text

/-- The place of the `n`-th character that satisfies `p`, counted from zero, or the length. -/
def nthIndex (p : Char → Bool) : Nat → Text → Nat
  | _, [] => 0
  | n, c :: s =>
    if p c then
      match n with
      | 0 => 0
      | n + 1 => nthIndex p n s + 1
    else nthIndex p n s + 1

/-- The caret in `b` that stands where `caret` stands in `a`, if `b` is `a` with other blanks. -/
def mapCaret (a : Text) (caret : Nat) (b : Text) : Nat :=
  if a.length ≤ caret then b.length
  else
    let gap := ((a.drop caret).takeWhile fun c => !isMeaningful c).length
    let rank := (a.take (caret + gap)).countP isMeaningful
    let anchor := nthIndex isMeaningful rank b
    let floor := (dropEndWhile (fun c => !isMeaningful c) (b.take anchor)).length
    max (anchor - gap) floor

end ScriptAssist.Text
