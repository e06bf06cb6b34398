import ScriptAssist.Text.Basic

/-!
# Numerals

Decimal numerals as they stand in requests, frame headers and answers. Writing uses the fewest
digits; reading also accepts leading zeros and one plus sign, and refuses what is out of range.
-/

namespace ScriptAssist.Text

/-- The decimal numeral of `n`. -/
def ofNat (n : Nat) : Text :=
  Nat.toDigits 10 n

/-- The decimal numeral of `i`, with a minus sign if it is negative. -/
def ofInt (i : Int) : Text :=
  if i < 0 then '-' :: ofNat i.natAbs else ofNat i.natAbs

/-- The number a non-empty string of ASCII digits denotes. -/
def digitsToNat? (s : Text) : Option Nat :=
  if !s.isEmpty && s.all Char.isDigit then some (Nat.ofDigitChars 10 s 0) else none

/-- The number below `bound` that `s` denotes. -/
def toNat? (bound : Nat) (s : Text) : Option Nat :=
  let digits := match s with
    | '+' :: rest => rest
    | _ => s
  (digitsToNat? digits).filter fun n => n < bound

/-- The hexadecimal digit of value `n`, in lower case. -/
def hexDigit (n : Nat) : Char :=
  Nat.digitChar n

/-- The value of a hexadecimal digit in either case. -/
def hexValue? (c : Char) : Option Nat :=
  if '0' ≤ c && c ≤ '9' then some (c.toNat - '0'.toNat)
  else if 'a' ≤ c && c ≤ 'f' then some (c.toNat - 'a'.toNat + 10)
  else if 'A' ≤ c && c ≤ 'F' then some (c.toNat - 'A'.toNat + 10)
  else none

theorem digitsToNat?_ofNat (n : Nat) : digitsToNat? (ofNat n) = some n := by
  have hdigits : (ofNat n).all Char.isDigit = true :=
    List.all_eq_true.2 fun c hc => Nat.isDigit_of_mem_toDigits (by decide) (by decide) hc
  have hne : (ofNat n).isEmpty = false := by
    simp [ofNat, Nat.toDigits_ne_nil]
  rw [digitsToNat?, hdigits, hne]
  simp [ofNat, Nat.ofDigitChars_ten_toDigits]

theorem toNat?_ofNat {bound n : Nat} (h : n < bound) : toNat? bound (ofNat n) = some n := by
  unfold toNat?
  split
  · next rest heq =>
    have hplus : '+' ∈ ofNat n := by simp [heq]
    exact absurd (Nat.isDigit_of_mem_toDigits (by decide) (by decide) hplus) (by decide)
  · simp [digitsToNat?_ofNat, h]

end ScriptAssist.Text
