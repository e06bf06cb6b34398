/-!
# Texts

A text is the list of its characters. Everything the editor sends, the engine answers and the
toolchain prints is handled as such a list, so that words, lines and carets are sublists and
positions in it. This file has the searches, cuts and joins the rest of the library is made of.
-/

namespace ScriptAssist

/-- Text as its characters, in order. -/
abbrev Text := List Char

namespace Text

/-- Whether `s` begins with `start`. -/
def startsWith (start s : Text) : Bool :=
  start.isPrefixOf s

/-- Whether `s` stops with `stop`. -/
def endsWith (stop s : Text) : Bool :=
  stop.isSuffixOf s

/-- What follows `start` in a text that begins with it. -/
def after? : Text → Text → Option Text
  | [], s => some s
  | _ :: _, [] => none
  | a :: start, c :: s => if a = c then after? start s else none

/-- What precedes `stop` in a text that ends with it. -/
def before? (stop s : Text) : Option Text :=
  (after? stop.reverse s.reverse).map List.reverse

/-- What stands around the first place where `needle` occurs. -/
def cutAt? (needle : Text) : Text → Option (Text × Text)
  | [] => if needle.isEmpty then some ([], []) else none
  | c :: s =>
    match after? needle (c :: s) with
    | some rest => some ([], rest)
    | none => (cutAt? needle s).map fun around => (c :: around.1, around.2)

/-- Where `needle` first occurs, counted in characters. -/
def find? (needle s : Text) : Option Nat :=
  (cutAt? needle s).map fun around => around.1.length

/-- Whether `needle` occurs in `s`. -/
def occursIn (needle s : Text) : Bool :=
  (cutAt? needle s).isSome

/-- The two sides of the first `mark`. -/
def cutAtChar? (mark : Char) : Text → Option (Text × Text)
  | [] => none
  | c :: s =>
    if c = mark then some ([], s)
    else (cutAtChar? mark s).map fun around => (c :: around.1, around.2)

/-- What follows the last entry of `s` that satisfies `p`, or all of `s`. -/
def tailAfter {α : Type} (p : α → Bool) (s : List α) : List α :=
  (s.reverse.takeWhile fun c => !p c).reverse

/-- `s` without its longest ending of characters that satisfy `p`. -/
def dropEndWhile (p : Char → Bool) (s : Text) : Text :=
  (s.reverse.dropWhile p).reverse

/-- The parts, with `separator` between each two of them. -/
def joinWith (separator : Text) (parts : List Text) : Text :=
  separator.intercalate parts

/-- The parts on lines of their own, without a final line feed. -/
def joinLines (parts : List Text) : Text :=
  joinWith ['\n'] parts

/-- The lines of `s`, each with the line feed that ends it; the last one may lack it. -/
def linesInclusive : Text → List Text
  | [] => []
  | c :: s =>
    if c = '\n' then [c] :: linesInclusive s
    else
      match linesInclusive s with
      | [] => [[c]]
      | line :: rest => (c :: line) :: rest

/-- `line` without the line break, LF or CR LF, that ends it. A carriage return that no line feed
follows is part of the line. -/
def dropLineBreak (line : Text) : Text :=
  match line.reverse with
  | '\n' :: '\r' :: rest => rest.reverse
  | '\n' :: rest => rest.reverse
  | _ => line

/-- The lines of `s` without their line breaks. Nothing follows a final line feed. -/
def lines (s : Text) : List Text :=
  (linesInclusive s).map dropLineBreak

/-- `s` with every CR LF written as LF. -/
def toLineFeeds : Text → Text
  | [] => []
  | '\r' :: '\n' :: s => '\n' :: toLineFeeds s
  | c :: s => c :: toLineFeeds s

/-- `s` with the letters A to Z in lower case. -/
def toLower (s : Text) : Text :=
  s.map Char.toLower

/-- Whether `s` comes before `t` in the order of their first different characters. -/
def precedes : Text → Text → Bool
  | _, [] => false
  | [], _ :: _ => true
  | a :: s, b :: t => a < b || (a = b && precedes s t)

/-- Whether `s` comes before `t` or is equal to it. -/
def notAfter (s t : Text) : Bool :=
  !precedes t s

theorem flatten_linesInclusive (s : Text) : (linesInclusive s).flatten = s := by
  induction s with
  | nil => rfl
  | cons c s ih =>
    rw [linesInclusive]
    split
    · simp [ih]
    · split
      · next h => rw [h] at ih; simpa using ih
      · next h => rw [h] at ih; simpa using ih

theorem after?_eq_some_iff {start s rest : Text} :
    after? start s = some rest ↔ s = start ++ rest := by
  induction start generalizing s with
  | nil => simp [after?, eq_comm]
  | cons a start ih =>
    cases s with
    | nil => simp [after?]
    | cons c s =>
      by_cases h : a = c
      · simp [after?, h, ih]
      · simp [after?, h, Ne.symm h]

theorem append_of_cutAtChar? {mark : Char} {s front rest : Text}
    (h : cutAtChar? mark s = some (front, rest)) : s = front ++ mark :: rest ∧ mark ∉ front := by
  induction s generalizing front with
  | nil => simp [cutAtChar?] at h
  | cons c s ih =>
    by_cases hc : c = mark
    · simp only [cutAtChar?, hc, if_true, Option.some.injEq, Prod.mk.injEq] at h
      obtain ⟨rfl, rfl⟩ := h
      simp [hc]
    · simp only [cutAtChar?, hc, if_false, Option.map_eq_some_iff, Prod.mk.injEq] at h
      obtain ⟨⟨front', rest'⟩, hcut, rfl, rfl⟩ := h
      obtain ⟨rfl, hmark⟩ := ih hcut
      simp [hmark, Ne.symm hc]

end Text

end ScriptAssist
