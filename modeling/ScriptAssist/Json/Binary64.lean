import ScriptAssist.Text.Numeral

/-!
# Binary floating point

Finite numbers of the 64-bit binary format in exact arithmetic: rounding a fraction to the nearest
one, and writing one with the fewest digits that read back as the same number.
-/

namespace ScriptAssist

/-- The number `mantissa * 2 ^ exponent`, negated if `negative`. -/
structure Binary64 where
  negative : Bool
  mantissa : Nat
  exponent : Int
  deriving DecidableEq, Repr

namespace Binary64

/-- The fraction `num / den` times `2 ^ e`, as a fraction. -/
def scaleBy2 (num den : Nat) (e : Int) : Nat × Nat :=
  if 0 ≤ e then (num <<< e.toNat, den) else (num, den <<< (-e).toNat)

/-- The fraction `num / den` times `10 ^ e`, as a fraction. -/
def scaleBy10 (num den : Nat) (e : Int) : Nat × Nat :=
  if 0 ≤ e then (num * Nat.pow 10 e.toNat, den) else (num, den * Nat.pow 10 (-e).toNat)

/-- The least mantissa of full width, the one with 52 zeros behind its first bit. -/
def fullMantissa : Nat := 4503599627370496

/-- The least exponent a number may have. -/
def minExponent : Int := -1074

/-- The greatest exponent a number may have. -/
def maxExponent : Int := 971

/-- The quotient rounded to the nearest whole number, a half to the even one. -/
def roundDiv (num den : Nat) : Nat :=
  let quotient := num / den
  let rest := num % den
  if 2 * rest < den then quotient
  else if den < 2 * rest then quotient + 1
  else if quotient % 2 = 0 then quotient else quotient + 1

/-- The number nearest to `num / den`, or nothing if that is past the greatest one. -/
def ofFraction? (negative : Bool) (num den : Nat) : Option Binary64 :=
  if num = 0 then some ⟨negative, 0, minExponent⟩
  else
    let low : Int := (Nat.log2 num : Int) - Nat.log2 den - 53
    let (lowNum, lowDen) := scaleBy2 num den (-low)
    let exponent := max minExponent (if 2 * fullMantissa ≤ lowNum / lowDen then low + 1 else low)
    let (scaledNum, scaledDen) := scaleBy2 num den (-exponent)
    let mantissa := roundDiv scaledNum scaledDen
    let (mantissa, exponent) :=
      if mantissa = 2 * fullMantissa then (fullMantissa, exponent + 1) else (mantissa, exponent)
    if maxExponent < exponent then none else some ⟨negative, mantissa, exponent⟩

/-- The size of the number as a fraction. -/
def magnitude (x : Binary64) : Nat × Nat :=
  scaleBy2 x.mantissa 1 x.exponent

/-- The product of `x` and `10 ^ e`, for an exponent whose power of ten is itself rounded first. -/
def timesPowerOfTen? (x : Binary64) (e : Nat) : Option Binary64 := do
  let power ← ofFraction? false (Nat.pow 10 e) 1
  let (num, den) := x.magnitude
  let (powerNum, powerDen) := power.magnitude
  ofFraction? x.negative (num * powerNum) (den * powerDen)

/-- The quotient of `x` and `10 ^ e`, for an exponent whose power of ten is itself rounded first. -/
def overPowerOfTen? (x : Binary64) (e : Nat) : Option Binary64 := do
  let power ← ofFraction? false (Nat.pow 10 e) 1
  let (num, den) := x.magnitude
  let (powerNum, powerDen) := power.magnitude
  ofFraction? x.negative (num * powerDen) (den * powerNum)

/-- The largest power of ten that does not exceed the greatest number. -/
def maxPowerOfTen : Nat := 308

/-- The number `x` divided by the largest power of ten, that many times or until nothing is
left. -/
def shrink? (x : Binary64) : Nat → Option Binary64
  | 0 => some x
  | steps + 1 =>
    if x.mantissa = 0 then some x
    else (x.overPowerOfTen? maxPowerOfTen).bind fun x => x.shrink? steps

/-- The number `x * 10 ^ e`, scaled in steps that each round to the nearest number. -/
def scaleDecimal? (x : Binary64) (e : Int) : Option Binary64 :=
  if 0 ≤ e then
    if e ≤ maxPowerOfTen then x.timesPowerOfTen? e.toNat
    else if x.mantissa = 0 then some x
    else none
  else
    let steps := (e.natAbs - 1) / maxPowerOfTen
    (x.shrink? steps).bind fun x => x.overPowerOfTen? (e.natAbs - steps * maxPowerOfTen)

/-- The bounds of the fractions that round to `x`, as numerators over one denominator, and
whether the bounds themselves round to it. -/
def roundingInterval (x : Binary64) : Nat × Nat × Nat × Bool :=
  let belowQuarters := if x.mantissa = fullMantissa && x.exponent ≠ minExponent then 1 else 2
  let (unit, den) := scaleBy2 1 1 (x.exponent - 2)
  ((4 * x.mantissa - belowQuarters) * unit, (4 * x.mantissa + 2) * unit, den, x.mantissa % 2 = 0)

/-- Whether the fraction rounds to `x`. -/
def roundsTo (x : Binary64) (num den : Nat) : Bool :=
  let (low, high, scale, closed) := x.roundingInterval
  if closed then low * den ≤ num * scale && num * scale ≤ high * den
  else low * den < num * scale && num * scale < high * den

/-- How many decimal digits stand before the point in a positive fraction; zero or negative if the
first digit that is not zero stands behind it. -/
def pointPlace (num den : Nat) : Nat → Int
  | 0 => 0
  | fuel + 1 =>
    if den ≤ num then (Text.ofNat (num / den)).length else pointPlace (num * 10) den fuel - 1

/-- The whole number `d` nearest to the magnitude of `x` for which `d * 10 ^ place` rounds to `x`,
among the two next to it. -/
def digitsAt? (x : Binary64) (place : Int) : Option Nat :=
  let (num, den) := x.magnitude
  let (scaledNum, scaledDen) := scaleBy10 num den (-place)
  let reads (d : Nat) : Bool :=
    let (num, den) := scaleBy10 d 1 place
    x.roundsTo num den
  let below := scaledNum / scaledDen
  let nearest := roundDiv scaledNum scaledDen
  let other := if nearest = below then below + 1 else below
  if reads nearest then some nearest else if reads other then some other else none

/-- Tries ever finer decimal places until one holds a number that reads back as `x`. -/
def shortestFrom (x : Binary64) (place : Int) : Nat → Nat × Int
  | 0 => (x.mantissa, x.exponent)
  | fuel + 1 =>
    match digitsAt? x place with
    | some digits => (digits, place)
    | none => shortestFrom x (place - 1) fuel

/-- The digits without the zeros they end with, and how many those were. -/
def dropZeros (digits : Text) : Text × Nat :=
  let kept := Text.dropEndWhile (fun c => c = '0') digits
  (kept, digits.length - kept.length)

/-- The digits, with the place of the last one, of the shortest decimal that reads back as `x`. -/
def shortest (x : Binary64) : Text × Int :=
  let (num, den) := x.magnitude
  let (digits, place) := shortestFrom x (pointPlace num den 400 - 1) 20
  let (digits, zeros) := dropZeros (Text.ofNat digits)
  (digits, place + zeros)

/-- The exponent of the scientific form, always with its sign and without leading zeros. -/
def exponentText (e : Int) : Text :=
  if e < 0 then Text.ofInt e else '+' :: Text.ofInt e

/-- The text of `x`: positional while the point falls among the first sixteen digits or at most
five places before them, and in scientific form otherwise. -/
def toText (x : Binary64) : Text :=
  let sign := if x.negative then "-".toList else []
  let body :=
    if x.mantissa = 0 then "0.0".toList
    else
      let (digits, place) := x.shortest
      let point := place + digits.length
      if 0 ≤ place && point ≤ 16 then digits ++ List.replicate place.toNat '0' ++ ".0".toList
      else if 0 < point && point ≤ 16 then
        digits.take point.toNat ++ '.' :: digits.drop point.toNat
      else if -5 < point && point ≤ 0 then
        "0.".toList ++ List.replicate (-point).toNat '0' ++ digits
      else
        let fraction := if digits.length = 1 then [] else '.' :: digits.drop 1
        digits.take 1 ++ fraction ++ 'e' :: exponentText (point - 1)
  sign ++ body

end Binary64

end ScriptAssist
