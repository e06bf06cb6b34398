import ScriptAssist.Proofs.TextLines
import ScriptAssist.Text.Numeral

/-!
# Numerals

A numeral is made of digits, perhaps behind a plus sign. Reading one gives the number it denotes,
as long as that is below the bound, and nothing else is read as a number.
-/

namespace ScriptAssist.Text

/-! ### Written numerals -/

lemma isDigit_of_mem_ofNat {n : Nat} {c : Char} (hc : c ∈ ofNat n) : c.isDigit = true :=
  Nat.isDigit_of_mem_toDigits (by decide) (by decide) hc

lemma isBlank_of_isDigit {c : Char} (hc : c.isDigit = true) : isBlank c = false := by
  rw [Char.isDigit_iff_toNat] at hc
  unfold isBlank
  simp only [Bool.or_eq_false_iff, Bool.and_eq_false_iff, decide_eq_false_iff_not]
  have hlow : 48 ≤ c.toNat := hc.1
  have hhigh : c.toNat ≤ 57 := hc.2
  omega

lemma not_isBlank_of_mem_ofNat {n : Nat} {c : Char} (hc : c ∈ ofNat n) : isBlank c = false :=
  isBlank_of_isDigit (isDigit_of_mem_ofNat hc)

lemma lineFeed_notMem_ofNat (n : Nat) : '\n' ∉ ofNat n := by
  intro hmem
  have hdigit := isDigit_of_mem_ofNat hmem
  exact absurd hdigit (by decide)

lemma lineFeed_notMem_ofInt (i : Int) : '\n' ∉ ofInt i := by
  rw [ofInt]
  split
  · simp [lineFeed_notMem_ofNat]
  · exact lineFeed_notMem_ofNat i.natAbs

/-- A numeral ends with a digit, also that of a negative number. -/
lemma exists_getLast?_ofInt (i : Int) : ∃ c, (ofInt i).getLast? = some c ∧ c.isDigit = true := by
  have hne : ofNat i.natAbs ≠ [] := Nat.toDigits_ne_nil
  refine ⟨(ofNat i.natAbs).getLast hne, ?_, isDigit_of_mem_ofNat (List.getLast_mem hne)⟩
  rw [ofInt]
  split
  · rw [List.getLast?_cons, List.getLast?_eq_some_getLast hne]
    rfl
  · exact List.getLast?_eq_some_getLast hne

lemma trim_ofNat {front back : Text} (hfront : ∀ c ∈ front, isBlank c = true)
    (hback : ∀ c ∈ back, isBlank c = true) (n : Nat) :
    trim (front ++ (ofNat n ++ back)) = ofNat n := by
  have hstart : trimStart (front ++ (ofNat n ++ back)) = ofNat n ++ back := by
    rw [trimStart, List.dropWhile_append_of_pos hfront]
    cases hnumeral : ofNat n with
    | nil => exact absurd hnumeral Nat.toDigits_ne_nil
    | cons c s =>
      have hc : isBlank c = false := not_isBlank_of_mem_ofNat (n := n) (by simp [hnumeral])
      rw [List.cons_append, List.dropWhile_cons, if_neg (by simp [hc])]
  rw [trim, hstart, trimEnd, dropEndWhile_append hback, dropEndWhile_eq_self]
  intro c hc
  exact not_isBlank_of_mem_ofNat (List.mem_of_getLast? hc)

/-! ### Read numerals -/

/-- Digits that denote `n`, perhaps behind a plus sign. -/
def IsNumeral (n : Nat) (s : Text) : Prop :=
  ∃ digits, (s = digits ∨ s = '+' :: digits) ∧ digits ≠ [] ∧
    (∀ c ∈ digits, c.isDigit = true) ∧ Nat.ofDigitChars 10 digits 0 = n

lemma digitsToNat?_eq_some_iff {s : Text} {n : Nat} :
    digitsToNat? s = some n ↔
      s ≠ [] ∧ (∀ c ∈ s, c.isDigit = true) ∧ Nat.ofDigitChars 10 s 0 = n := by
  simp [digitsToNat?, and_assoc]

/-- Exactly the numerals of numbers below the bound are read. -/
theorem toNat?_eq_some_iff {bound : Nat} {s : Text} {n : Nat} :
    toNat? bound s = some n ↔ n < bound ∧ IsNumeral n s := by
  unfold toNat?
  rw [Option.filter_eq_some_iff, decide_eq_true_eq, and_comm]
  refine and_congr_right fun _ => ?_
  rw [digitsToNat?_eq_some_iff]
  split
  · next rest =>
    constructor
    · exact fun ⟨hne, hdigits, hvalue⟩ => ⟨rest, .inr rfl, hne, hdigits, hvalue⟩
    · rintro ⟨digits, rfl | heq, hne, hdigits, hvalue⟩
      · exact absurd (hdigits '+' List.mem_cons_self) (by decide)
      · obtain rfl := (List.cons.inj heq).2
        exact ⟨hne, hdigits, hvalue⟩
  · next hplus =>
    constructor
    · exact fun ⟨hne, hdigits, hvalue⟩ => ⟨s, .inl rfl, hne, hdigits, hvalue⟩
    · rintro ⟨digits, rfl | rfl, hne, hdigits, hvalue⟩
      · exact ⟨hne, hdigits, hvalue⟩
      · exact absurd rfl (hplus digits)

end ScriptAssist.Text
