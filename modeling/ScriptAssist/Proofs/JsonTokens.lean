import Mathlib.Data.List.TakeDrop
import ScriptAssist.Json.Reader
import ScriptAssist.Proofs.Numerals

/-!
# Tokens of messages

String literals and whole numbers are read back as they were written, whatever follows them. A
string literal stays on one line.
-/

namespace ScriptAssist

namespace Json

/-! ### String literals -/

/-- The piece as which a written character is read. -/
def pieceOf (c : Char) : Piece :=
  match escape c with
  | '\\' :: 'u' :: _ => .unit c.toNat
  | _ => .char c

lemma eq_of_toNat_eq {c d : Char} (h : c.toNat = d.toNat) : c = d := by
  rw [← Char.ofNat_toNat c, h, Char.ofNat_toNat]

/-- A character stands for itself, or is escaped by a letter or by its number. -/
lemma escape_cases (c : Char) :
    (escape c = [c] ∧ c ≠ '"' ∧ c ≠ '\\' ∧ ¬ c.toNat < 0x20) ∨
    (∃ e, escape c = ['\\', e] ∧ e ≠ 'u' ∧ unescape? e = some c) ∨
    c.toNat < 0x20 ∧ escape c =
      ['\\', 'u', '0', '0', Text.hexDigit (c.toNat / 16), Text.hexDigit (c.toNat % 16)] := by
  by_cases hquote : c = '"'
  · subst hquote
    exact .inr (.inl ⟨'"', rfl, by decide, rfl⟩)
  by_cases hbackslash : c = '\\'
  · subst hbackslash
    exact .inr (.inl ⟨'\\', rfl, by decide, rfl⟩)
  by_cases hfeed : c = '\n'
  · subst hfeed
    exact .inr (.inl ⟨'n', rfl, by decide, rfl⟩)
  by_cases hreturn : c = '\r'
  · subst hreturn
    exact .inr (.inl ⟨'r', rfl, by decide, rfl⟩)
  by_cases htab : c = '\t'
  · subst htab
    exact .inr (.inl ⟨'t', rfl, by decide, rfl⟩)
  by_cases hback : c.toNat = 8
  · obtain rfl : c = '\x08' := eq_of_toNat_eq hback
    exact .inr (.inl ⟨'b', rfl, by decide, rfl⟩)
  by_cases hform : c.toNat = 12
  · obtain rfl : c = '\x0c' := eq_of_toNat_eq hform
    exact .inr (.inl ⟨'f', rfl, by decide, rfl⟩)
  rw [escape, if_neg hquote, if_neg hbackslash, if_neg hfeed, if_neg hreturn, if_neg htab,
    if_neg hback, if_neg hform]
  by_cases hcontrol : c.toNat < 0x20
  · rw [if_pos hcontrol]
    exact .inr (.inr ⟨hcontrol, rfl⟩)
  · rw [if_neg hcontrol]
    exact .inl ⟨rfl, hquote, hbackslash, hcontrol⟩

lemma unit?_hexDigit {n : Nat} (h : n < 0x20) :
    unit? '0' '0' (Text.hexDigit (n / 16)) (Text.hexDigit (n % 16)) = some n := by
  have hall : ∀ n < 0x20,
      unit? '0' '0' (Text.hexDigit (n / 16)) (Text.hexDigit (n % 16)) = some n := by decide
  exact hall n h

lemma lineFeed_notMem_escape (c : Char) : '\n' ∉ escape c := by
  obtain ⟨hescape, -, -, hcontrol⟩ | ⟨e, hescape, -, hletter⟩ | ⟨hcontrol, hescape⟩ :=
    escape_cases c
  · rw [hescape, List.mem_singleton]
    rintro rfl
    exact hcontrol (by decide)
  · have he : e ≠ '\n' := by
      rintro rfl
      exact absurd hletter (by simp [unescape?])
    simp [hescape, he.symm]
  · have hdigits : ∀ n < 0x20, '\n' ≠ Text.hexDigit (n / 16) ∧ '\n' ≠ Text.hexDigit (n % 16) := by
      decide
    simp [hescape, hdigits c.toNat hcontrol]

lemma lineFeed_notMem_quote (s : Text) : '\n' ∉ quote s := by
  simp [quote, lineFeed_notMem_escape]

lemma readPieces_escape (read : List Piece) (c : Char) (s : Text) :
    readPieces read (escape c ++ s) = readPieces (pieceOf c :: read) s := by
  rw [pieceOf]
  obtain ⟨hescape, hquote, hbackslash, hcontrol⟩ | ⟨e, hescape, hunit, hletter⟩ |
    ⟨hcontrol, hescape⟩ := escape_cases c
  · rw [hescape, List.singleton_append, readPieces.eq_def]
    dsimp only
    rw [if_neg hquote, if_neg hbackslash, if_neg hcontrol]
    split
    · next hc => exact absurd (List.cons.inj hc).1 hbackslash
    · rfl
  · have hread : readPieces read ('\\' :: e :: s) = readPieces (.char c :: read) s := by
      rw [readPieces, if_neg (by decide), if_pos rfl, hletter]
      exact fun _ _ _ _ _ h _ => hunit h
    rw [hescape]
    split
    · next hc => exact absurd (List.cons.inj (List.cons.inj hc).2).1 hunit
    · exact hread
  · have hread : readPieces read ('\\' :: 'u' :: '0' :: '0' :: Text.hexDigit (c.toNat / 16) ::
        Text.hexDigit (c.toNat % 16) :: s) = readPieces (.unit c.toNat :: read) s := by
      rw [readPieces, if_neg (by decide), if_pos rfl, unit?_hexDigit hcontrol]
    rw [hescape]
    exact hread

lemma readPieces_flatMap (read : List Piece) (s rest : Text) :
    readPieces read (s.flatMap escape ++ '"' :: rest) =
      some (read.reverse ++ s.map pieceOf, rest) := by
  induction s generalizing read with
  | nil =>
    rw [List.flatMap_nil, List.nil_append, readPieces.eq_def]
    simp
  | cons c s ih =>
    rw [List.flatMap_cons, List.append_assoc, readPieces_escape, ih]
    simp

/-- Only control characters are read as units, and those are no surrogates. -/
lemma joinPieces_pieceOf (c : Char) (pieces : List Piece) :
    joinPieces (pieceOf c :: pieces) = (joinPieces pieces).map fun s => c :: s := by
  rw [pieceOf]
  split
  · next digits hescape =>
    have hcontrol : c.toNat < 0x20 := by
      obtain ⟨hself, -, hbackslash, -⟩ | ⟨e, hletter, hunit, -⟩ | ⟨hcontrol, -⟩ := escape_cases c
      · exact absurd (List.cons.inj (hself.symm.trans hescape)).1 hbackslash
      · exact absurd (List.cons.inj (List.cons.inj (hletter.symm.trans hescape)).2).1 hunit
      · exact hcontrol
    have hlow : ∀ n < 0x20, isLeading n = false ∧ isTrailing n = false := by decide
    rw [joinPieces.eq_def]
    dsimp only
    rw [if_neg (by simp [hlow c.toNat hcontrol]), if_neg (by simp [hlow c.toNat hcontrol]),
      Char.ofNat_toNat]
  · rw [joinPieces]

lemma joinPieces_map_pieceOf (s : Text) : joinPieces (s.map pieceOf) = some s := by
  induction s with
  | nil => rfl
  | cons c s ih =>
    rw [List.map_cons, joinPieces_pieceOf, ih]
    rfl

/-- A text between quotes is read back as it was. -/
theorem readString_flatMap_escape (s rest : Text) :
    readString (s.flatMap escape ++ '"' :: rest) = some (s, rest) := by
  rw [readString, readPieces_flatMap]
  simp [joinPieces_map_pieceOf]

end Json

/-! ### Whole numbers -/

namespace Number

/-- A rest in which no numeral goes on. -/
def EndsNumeral (rest : Text) : Prop :=
  ∀ c, rest.head? = some c → c.isDigit = false ∧ c ≠ '.' ∧ c ≠ 'e' ∧ c ≠ 'E'

lemma spanDigits_append {digits rest : Text} (hdigits : ∀ c ∈ digits, c.isDigit = true)
    (hrest : EndsNumeral rest) : spanDigits (digits ++ rest) = (digits, rest) := by
  rw [spanDigits, List.span_eq_takeWhile_dropWhile, List.takeWhile_append_of_pos hdigits,
    List.dropWhile_append_of_pos hdigits]
  cases rest with
  | nil => simp
  | cons c rest => simp [(hrest c rfl).1]

/-- A numeral of a positive number does not start with a zero. -/
lemma head?_ofNat {n : Nat} (h : n ≠ 0) : (Text.ofNat n).head? ≠ some '0' := by
  induction n using Nat.strong_induction_on with
  | _ n ih =>
    by_cases hn : n < 10
    · have hall : ∀ n < 10, n ≠ 0 → (Text.ofNat n).head? ≠ some '0' := by decide
      exact hall n hn h
    · have hsplit : Text.ofNat n = Text.ofNat (n / 10) ++ [(n % 10).digitChar] :=
        Nat.toDigits_of_base_le (by decide) (by omega)
      have hne : Text.ofNat (n / 10) ≠ [] := Nat.toDigits_ne_nil
      have hhead : (Text.ofNat n).head? = (Text.ofNat (n / 10)).head? := by
        rw [hsplit, List.head?_append_of_ne_nil _ hne]
      rw [hhead]
      exact ih (n / 10) (by omega) (by omega)

lemma exists_cons_ofInt (i : Int) :
    ∃ c s, Text.ofInt i = c :: s ∧ (c = '-' ∨ c.isDigit = true) := by
  rw [Text.ofInt]
  split
  · exact ⟨'-', _, rfl, .inl rfl⟩
  · obtain ⟨c, s, hnumeral⟩ := List.exists_cons_of_ne_nil
      (show Text.ofNat i.natAbs ≠ [] from Nat.toDigits_ne_nil)
    exact ⟨c, s, hnumeral, .inr (Text.isDigit_of_mem_ofNat (n := i.natAbs) (by simp [hnumeral]))⟩

lemma le_ofDigitChars (digits : Text) (word : Nat) : word ≤ Nat.ofDigitChars 10 digits word := by
  induction digits generalizing word with
  | nil => exact Nat.le_refl word
  | cons c digits ih =>
    rw [Nat.ofDigitChars_cons]
    exact Nat.le_trans (by omega) (ih _)

lemma collect_eq {digits : Text} {word : Nat}
    (h : Nat.ofDigitChars 10 digits word ≤ maxWord) :
    collect word digits = (Nat.ofDigitChars 10 digits word, []) := by
  induction digits generalizing word with
  | nil => rfl
  | cons c digits ih =>
    rw [Nat.ofDigitChars_cons, Nat.mul_comm] at h ⊢
    rw [collect, if_pos (Nat.le_trans (le_ofDigitChars digits _) h), ih h]

lemma collect_ofNat {n : Nat} (h : n ≤ maxWord) : collect 0 (Text.ofNat n) = (n, []) := by
  have hvalue : Nat.ofDigitChars 10 (Text.ofNat n) 0 = n := Nat.ofDigitChars_ten_toDigits
  rw [collect_eq (by rwa [hvalue]), hvalue]

lemma readNumeral_ofInt (i : Int) {rest : Text} (hrest : EndsNumeral rest) :
    readNumeral (Text.ofInt i ++ rest) =
      some (⟨decide (i < 0), Text.ofNat i.natAbs, none, none⟩, rest) := by
  have hdigits : ∀ c ∈ Text.ofNat i.natAbs, c.isDigit = true := fun c => Text.isDigit_of_mem_ofNat
  have hne : (Text.ofNat i.natAbs).isEmpty = false := by
    simp [Text.ofNat, Nat.toDigits_ne_nil]
  have hzero : ((Text.ofNat i.natAbs).head? = some '0' && 1 < (Text.ofNat i.natAbs).length) =
      false := by
    by_cases hi : i.natAbs = 0
    · rw [hi]
      decide
    · simp [head?_ofNat hi]
  have hfraction : readFraction rest = some (none, rest) := by
    rw [readFraction]
    rintro s rfl
    exact (hrest '.' rfl).2.1 rfl
  have hexponent : readExponent rest = some (none, rest) := by
    rw [readExponent.eq_def]
    cases rest with
    | nil => rfl
    | cons c rest =>
      obtain ⟨-, -, he, hE⟩ := hrest c rfl
      dsimp only
      rw [if_neg (by simp [he, hE])]
  by_cases hi : i < 0
  · rw [Text.ofInt, if_pos hi, List.cons_append, readNumeral, spanDigits_append hdigits hrest]
    simp [hne, hzero, hfraction, hexponent, hi]
  · have hminus : ∀ s, Text.ofNat i.natAbs ++ rest = '-' :: s → False := by
      intro s hs
      cases hnumeral : Text.ofNat i.natAbs with
      | nil => simp [hnumeral] at hne
      | cons c digits =>
        rw [hnumeral, List.cons_append] at hs
        have hdigit := hdigits c (by simp [hnumeral])
        rw [(List.cons.inj hs).1] at hdigit
        exact absurd hdigit (by decide)
    rw [Text.ofInt, if_neg hi, readNumeral, spanDigits_append hdigits hrest]
    · simp [hne, hzero, hfraction, hexponent, hi]
    · exact hminus

/-- A whole number that 64 bits hold is read back as it was. -/
theorem read_ofInt {i : Int} (hlow : Int64.minValue.toInt ≤ i) (hhigh : i < UInt64.size)
    {rest : Text} (hrest : EndsNumeral rest) :
    read (Text.ofInt i ++ rest) = some (.int i, rest) := by
  have hleast : Int64.minValue.toInt = -9223372036854775808 := by decide
  have hword : collect 0 (Text.ofNat i.natAbs) = (i.natAbs, []) := by
    apply collect_ofNat
    rw [maxWord]
    rw [UInt64.size] at hhigh ⊢
    omega
  have hnumber : Numeral.toNumber? ⟨decide (i < 0), Text.ofNat i.natAbs, none, none⟩ =
      some (.int i) := by
    rw [Numeral.toNumber?]
    dsimp only
    rw [hword]
    dsimp only
    by_cases hi : i < 0
    · have hfits : decide (0 < i.natAbs) && decide (i.natAbs ≤ Int64.minValue.toInt.natAbs) := by
        rw [Bool.and_eq_true, decide_eq_true_eq, decide_eq_true_eq]
        omega
      have hvalue : -(i.natAbs : Int) = i := by omega
      rw [decide_eq_true hi, if_neg (by decide), if_pos hfits, hvalue]
    · have hvalue : (i.natAbs : Int) = i := by omega
      rw [decide_eq_false hi, if_pos (by decide), hvalue]
  rw [read, readNumeral_ofInt i hrest, Option.bind_eq_bind, Option.bind_some]
  dsimp only
  rw [hnumber]
  rfl

end Number

end ScriptAssist
