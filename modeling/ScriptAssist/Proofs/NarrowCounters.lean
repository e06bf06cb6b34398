import ScriptAssist.Proofs.OverloadChoice
import ScriptAssist.Proofs.TextCuts
import ScriptAssist.Script.Declaration

/-!
# Counters of 32 bits

Open brackets and braces are counted without a bound. A counter of 32 bits that goes up or down by
one with each character agrees with that as long as the text has fewer than 2147483648 characters:
no such text takes it out of its range.
-/

namespace ScriptAssist

open Text

lemma toInt_sub_one {n : Int32} (h : Int32.minValue < n) : (n - 1).toInt = n.toInt - 1 := by
  have hmin : Int32.minValue.toInt < n.toInt := Int32.lt_iff_toInt_lt.mp h
  have hone : (1 : Int32).toInt = 1 := rfl
  have hlt := n.toInt_lt
  rw [show Int32.minValue.toInt = -2147483648 from rfl] at hmin
  rw [Int32.toInt_sub, hone]
  exact Int.bmod_eq_of_le (by omega) (by omega)

lemma toInt_add_one {n : Int32} (h : n < Int32.maxValue) : (n + 1).toInt = n.toInt + 1 := by
  have hmax : n.toInt < Int32.maxValue.toInt := Int32.lt_iff_toInt_lt.mp h
  have hone : (1 : Int32).toInt = 1 := rfl
  have hle := n.le_toInt
  rw [show Int32.maxValue.toInt = 2147483647 from rfl] at hmax
  rw [Int32.toInt_add, hone]
  exact Int.bmod_eq_of_le (by omega) (by omega)

/-- A counter that is less than so far from zero can go one step either way. -/
lemma between_of_natAbs_lt {n : Int32} (h : n.toInt.natAbs < 2147483647) :
    Int32.minValue < n ∧ n < Int32.maxValue := by
  rw [Int32.lt_iff_toInt_lt, Int32.lt_iff_toInt_lt,
    show Int32.minValue.toInt = -2147483648 from rfl,
    show Int32.maxValue.toInt = 2147483647 from rfl]
  omega

/-! ### Angle brackets -/

namespace Signature

/-- The count of commas outside angle brackets, with a level of 32 bits. -/
def commasWithin (level : Int32) : Text → Nat
  | [] => 0
  | c :: s =>
    if c = '<' then commasWithin (level + 1) s
    else if c = '>' then commasWithin (level - 1) s
    else if c = ',' && level = 0 then commasWithin level s + 1
    else commasWithin level s

theorem commasWithin_eq {level : Int32} {s : Text}
    (h : level.toInt.natAbs + s.length < 2147483648) :
    commasWithin level s = commasAt level.toInt s := by
  induction s generalizing level with
  | nil => rfl
  | cons c s ih =>
    rw [List.length_cons] at h
    obtain ⟨hlow, hhigh⟩ := between_of_natAbs_lt (n := level) (by omega)
    have hopen := toInt_add_one hhigh
    have hclose := toInt_sub_one hlow
    have hzero : level = 0 ↔ level.toInt = 0 := Int32.toInt_inj.symm
    rw [commasWithin, commasAt, ih (by omega), ih (by omega), ih (by omega), hopen, hclose]
    simp only [hzero]

end Signature

/-! ### Braces -/

namespace Declaration

variable {depth : Int32} {s : Text} {lines : List Text}

/-- How many braces are open behind a text, counted with 32 bits. -/
def depthWithin (depth : Int32) : Text → Int32
  | [] => depth
  | c :: s =>
    if c = '\x7b' then depthWithin (depth + 1) s
    else if c = '\x7d' then depthWithin (depth - 1) s
    else depthWithin depth s

/-- Whether one of the lines starts a type while no brace is open, counted with 32 bits. -/
def declaresTypeWithin (depth : Int32) : List Text → Bool
  | [] => false
  | line :: lines =>
    let code := beforeComment line
    (depth = 0 && startsType code) || declaresTypeWithin (depthWithin depth code) lines

lemma braceBalance_cons (c : Char) (s : Text) : braceBalance (c :: s) =
    (if c = '\x7b' then 1 else if c = '\x7d' then -1 else 0) + braceBalance s := by
  rw [braceBalance, braceBalance, List.count_cons, List.count_cons]
  by_cases hopen : c = '\x7b'
  · simp [hopen]
    omega
  · by_cases hclose : c = '\x7d'
    · simp [hclose]
      omega
    · simp [hopen, hclose]

lemma natAbs_braceBalance_le (s : Text) : (braceBalance s).natAbs ≤ s.length := by
  induction s with
  | nil => rfl
  | cons c s ih =>
    rw [braceBalance_cons, List.length_cons]
    split_ifs <;> omega

lemma toInt_depthWithin (h : depth.toInt.natAbs + s.length < 2147483648) :
    (depthWithin depth s).toInt = depth.toInt + braceBalance s := by
  induction s generalizing depth with
  | nil => exact (Int.add_zero _).symm
  | cons c s ih =>
    rw [List.length_cons] at h
    obtain ⟨hlow, hhigh⟩ := between_of_natAbs_lt (n := depth) (by omega)
    have hopen := toInt_add_one hhigh
    have hclose := toInt_sub_one hlow
    rw [depthWithin, braceBalance_cons]
    split_ifs
    · rw [ih (by omega), hopen]
      omega
    · rw [ih (by omega), hclose]
      omega
    · rw [ih (by omega)]
      omega

lemma length_beforeComment_le (line : Text) : (beforeComment line).length ≤ line.length := by
  rw [beforeComment]
  cases hcut : cutAt? ['/', '/'] line with
  | none => exact Nat.le_refl _
  | some parts =>
    obtain ⟨code, rest⟩ := parts
    rw [append_of_cutAt? hcut, List.length_append, List.length_append]
    dsimp only
    omega

lemma declaresTypeWithin_eq_at (h : depth.toInt.natAbs + lines.flatten.length < 2147483648) :
    declaresTypeWithin depth lines = declaresTypeAt depth.toInt lines := by
  induction lines generalizing depth with
  | nil => rfl
  | cons line lines ih =>
    rw [List.flatten_cons, List.length_append] at h
    have hcode := length_beforeComment_le line
    have hbalance := natAbs_braceBalance_le (beforeComment line)
    have hdepth : (depthWithin depth (beforeComment line)).toInt =
        depth.toInt + braceBalance (beforeComment line) := toInt_depthWithin (by omega)
    have hzero : depth = 0 ↔ depth.toInt = 0 := Int32.toInt_inj.symm
    rw [declaresTypeWithin, declaresTypeAt, ih (by omega), hdepth]
    simp only [hzero]

lemma length_flatten_lines_le (s : Text) : (Text.lines s).flatten.length ≤ s.length := by
  have hdrop : ∀ cut : List Text, (cut.map dropLineBreak).flatten.length ≤ cut.flatten.length := by
    intro cut
    induction cut with
    | nil => exact Nat.le_refl _
    | cons line cut ih =>
      obtain ⟨back, hline, -⟩ :=
        Signature.exists_eq_dropLineBreak_append line
      have hlength := congrArg List.length hline
      rw [List.length_append] at hlength
      rw [List.map_cons, List.flatten_cons, List.flatten_cons, List.length_append,
        List.length_append]
      omega
  calc (Text.lines s).flatten.length
    _ ≤ (linesInclusive s).flatten.length := hdrop _
    _ = s.length := by rw [flatten_linesInclusive]

/-- On a text of fewer than 2147483648 characters, counting braces with 32 bits tells what counting
without a bound does. -/
theorem declaresTypeWithin_eq (h : s.length < 2147483648) :
    declaresTypeWithin 0 (Text.lines s) = declaresType s := by
  have hlines := length_flatten_lines_le s
  have hzero : (0 : Int32).toInt = 0 := rfl
  exact declaresTypeWithin_eq_at (by rw [hzero]; omega)

end Declaration

end ScriptAssist
