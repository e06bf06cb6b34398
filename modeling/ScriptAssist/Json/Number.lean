import ScriptAssist.Json.Binary64

/-!
# Numbers in messages

A numeral without a fraction or exponent is a whole number as long as 64 bits hold it; every other
numeral is a floating-point number. The digits of a numeral are collected in a 64-bit word first,
and those that no longer fit only count for the exponent.
-/

namespace ScriptAssist

/-- A number of a message. -/
inductive Number where
  | int (i : Int)
  | real (x : Binary64)
  deriving DecidableEq, Repr

namespace Number

/-- The text of a number. -/
def toText : Number → Text
  | .int i => Text.ofInt i
  | .real x => x.toText

/-- The whole number, if it lies between the bounds. -/
def toInt? (low high : Int) : Number → Option Int
  | .int i => if low ≤ i && i ≤ high then some i else none
  | .real _ => none

/-- The greatest 64-bit word. -/
def maxWord : Nat := UInt64.size - 1

/-- Appends digits to the word as long as it holds them; the rest are left over. -/
def collect (word : Nat) : Text → Nat × Text
  | [] => (word, [])
  | c :: digits =>
    let next := word * 10 + (c.toNat - '0'.toNat)
    if next ≤ maxWord then collect next digits else (word, c :: digits)

/-- The parts of a numeral: its sign, the digits before and behind the point, and the sign and
digits of its exponent. -/
structure Numeral where
  negative : Bool
  whole : Text
  fraction : Option Text
  exponent : Option (Bool × Text)
  deriving DecidableEq, Repr

/-- The exponent a numeral writes, or nothing if it is past 31 bits. -/
def Numeral.writtenExponent? (numeral : Numeral) : Option Int :=
  match numeral.exponent with
  | none => some 0
  | some (negative, digits) =>
    let size : Int := Nat.ofDigitChars 10 digits 0
    if size ≤ Int32.maxValue.toInt then some (if negative then -size else size) else none

/-- The floating-point number with the given digits and written exponent. -/
def Numeral.toReal? (numeral : Numeral) (word : Nat) (place : Int) : Option Binary64 :=
  match numeral.writtenExponent? with
  | some written =>
    let exponent := max Int32.minValue.toInt (min Int32.maxValue.toInt (place + written))
    (Binary64.ofFraction? numeral.negative word 1).bind fun x => x.scaleDecimal? exponent
  | none =>
    match numeral.exponent with
    | some (false, _) =>
      if word = 0 then some ⟨numeral.negative, 0, Binary64.minExponent⟩ else none
    | _ => some ⟨numeral.negative, 0, Binary64.minExponent⟩

/-- The number a numeral denotes, or nothing if it is out of range. -/
def Numeral.toNumber? (numeral : Numeral) : Option Number :=
  let (word, leftOver) := collect 0 numeral.whole
  match numeral.fraction, numeral.exponent, leftOver with
  | none, none, [] =>
    if !numeral.negative then some (.int word)
    else if 0 < word && word ≤ Int64.minValue.toInt.natAbs then some (.int (-word))
    else (numeral.toReal? word 0).map .real
  | fraction, _, _ =>
    let digits := fraction.getD []
    let (word, unread) := collect word digits
    let place : Int := leftOver.length - (digits.length - unread.length : Nat)
    (numeral.toReal? word place).map .real

/-- The digits `s` starts with, and the rest. -/
def spanDigits (s : Text) : Text × Text :=
  s.span Char.isDigit

/-- The fraction at the front of `s`, if there is one; a point needs a digit behind it. -/
def readFraction : Text → Option (Option Text × Text)
  | '.' :: s =>
    let (digits, rest) := spanDigits s
    if digits.isEmpty then none else some (some digits, rest)
  | s => some (none, s)

/-- The exponent at the front of `s`, if there is one; its mark needs a digit behind it. -/
def readExponent : Text → Option (Option (Bool × Text) × Text)
  | [] => some (none, [])
  | c :: s =>
    if c = 'e' || c = 'E' then
      let (negative, s) := match s with
        | '-' :: s => (true, s)
        | '+' :: s => (false, s)
        | s => (false, s)
      let (digits, rest) := spanDigits s
      if digits.isEmpty then none else some (some (negative, digits), rest)
    else some (none, c :: s)

/-- The numeral at the front of `s`. A zero before other digits is refused. -/
def readNumeral (s : Text) : Option (Numeral × Text) := do
  let (negative, s) := match s with
    | '-' :: s => (true, s)
    | s => (false, s)
  let (whole, rest) := spanDigits s
  if whole.isEmpty || (whole.head? = some '0' && 1 < whole.length) then none
  else
    let (fraction, rest) ← readFraction rest
    let (exponent, rest) ← readExponent rest
    some (⟨negative, whole, fraction, exponent⟩, rest)

/-- The number at the front of `s`. -/
def read (s : Text) : Option (Number × Text) := do
  let (numeral, rest) ← readNumeral s
  let number ← numeral.toNumber?
  some (number, rest)

end Number

end ScriptAssist
