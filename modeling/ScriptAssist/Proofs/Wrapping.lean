import Mathlib.Data.List.TakeDrop
import ScriptAssist.Proofs.LineNumbers
import ScriptAssist.Proofs.TextCuts
import ScriptAssist.Proofs.TextLines
import ScriptAssist.Script.Decoration

/-!
# Wrapped scripts

What wrapping does to the lines of a script. The class is opened on one line of its own right
behind the prologue, and the first marker of the wrapped text is on it. So lines of the prologue
keep their numbers, all lines behind it move by one, and `undecorate` moves them back.
-/

namespace ScriptAssist

open Text

/-! ### The prologue -/

namespace Prologue

lemma split_eq (s : Text) :
    split s = (((linesInclusive s).takeWhile isPrologueLine).flatten,
      ((linesInclusive s).dropWhile isPrologueLine).flatten) := by
  rw [split, List.span_eq_takeWhile_dropWhile]

lemma split_append (s : Text) : (split s).1 ++ (split s).2 = s := by
  rw [split_eq]
  dsimp only
  rw [← List.flatten_append, List.takeWhile_append_dropWhile, flatten_linesInclusive]

lemma count_lineFeed_le (s : Text) : (split s).1.count '\n' ≤ s.count '\n' := by
  conv_rhs => rw [← split_append s]
  rw [List.count_append]
  omega

lemma linesInclusive_split (s : Text) :
    linesInclusive (split s).1 = (linesInclusive s).takeWhile isPrologueLine ∧
      linesInclusive (split s).2 = (linesInclusive s).dropWhile isPrologueLine := by
  rw [split_eq]
  exact linesInclusive_flatten List.takeWhile_append_dropWhile.symm

/-- A prologue that code follows is made of whole lines. -/
lemma isWhole_split (s : Text) (hcode : (split s).2 ≠ []) : IsWhole (split s).1 := by
  rw [split_eq] at hcode ⊢
  refine isWhole_flatten List.takeWhile_append_dropWhile.symm fun hnil => hcode ?_
  rw [hnil]
  rfl

end Prologue

/-! ### The lines that are put in -/

namespace AutoClass

/-- The line that opens the class of a script, with its line break. -/
def opening (s : Text) : Text :=
  header (Declaration.declaresMain s) ++ lineBreak s

def closing (s : Text) : Text :=
  (if Text.endsWith ['\n'] s then [] else lineBreak s) ++ footer (Declaration.declaresMain s)
    ++ lineBreak s

def headerFront (hasMain : Bool) : Text :=
  let main := if hasMain then [] else "public static void Main(string[] args) \x7b ".toList
  "public class ".toList ++ className ++ " \x7b ".toList ++ main

lemma header_eq (hasMain : Bool) : header hasMain = headerFront hasMain ++ marker := rfl

lemma opening_eq (s : Text) :
    opening s = headerFront (Declaration.declaresMain s) ++ (marker ++ lineBreak s) := by
  rw [opening, header_eq, List.append_assoc]

lemma lineFeed_notMem_marker : '\n' ∉ marker := by decide

lemma lineFeed_notMem_header (hasMain : Bool) : '\n' ∉ header hasMain := by
  cases hasMain <;> decide

lemma slash_notMem_headerFront (hasMain : Bool) : '/' ∉ headerFront hasMain := by
  cases hasMain <;> decide

lemma length_header_lt (hasMain : Bool) : (header hasMain).length < 128 := by
  cases hasMain <;> decide

lemma lineBreak_cases (s : Text) : lineBreak s = ['\r', '\n'] ∨ lineBreak s = ['\n'] := by
  rw [lineBreak]
  split
  · exact .inl rfl
  · exact .inr rfl

lemma count_lineBreak (s : Text) : (lineBreak s).count '\n' = 1 := by
  rcases lineBreak_cases s with h | h <;> rw [h] <;> decide

lemma count_opening (s : Text) : (opening s).count '\n' = 1 := by
  have hheader := List.count_eq_zero_of_not_mem
    (lineFeed_notMem_header (Declaration.declaresMain s))
  rw [opening, List.count_append, hheader, count_lineBreak]

lemma length_opening_lt (s : Text) : (opening s).length < 130 := by
  have hheader := length_header_lt (Declaration.declaresMain s)
  rw [opening, List.length_append]
  rcases lineBreak_cases s with h | h <;> rw [h] <;> simp <;> omega

/-- Whether a script gets a class: it has no marker, declares no type and has code. -/
def Accepts (s : Text) : Prop :=
  ¬ marker <:+: s ∧ Declaration.declaresType s = false ∧ (Prologue.split s).2 ≠ []

/-- A script with its class, and the caret moved by the line that opens it. -/
def withClass (s : Text) (caret : UInt64) : Wrapping :=
  match moveCaret? (Prologue.split s).1.length (opening s).length caret with
  | some moved =>
    .wrapped ((Prologue.split s).1 ++ opening s ++ (Prologue.split s).2 ++ closing s) moved
  | none => .overflow

lemma wrap_of_accepts {s : Text} (h : Accepts s) (caret : UInt64) :
    wrap s caret = withClass s caret := by
  obtain ⟨hmarker, htype, hcode⟩ := h
  rw [← occursIn_iff_isInfix, Bool.not_eq_true] at hmarker
  rw [wrap, if_neg (by simp [hmarker, htype])]
  dsimp only
  rw [if_neg (by simpa using hcode), withClass, closing, opening]
  cases moveCaret? (Prologue.split s).1.length
      (header (Declaration.declaresMain s) ++ lineBreak s).length caret with
  | none => rfl
  | some moved => simp only [List.append_assoc]

lemma wrap_of_not_accepts {s : Text} (h : ¬ Accepts s) (caret : UInt64) :
    wrap s caret = .declined := by
  rw [wrap]
  by_cases hmarker : (Text.occursIn marker s || Declaration.declaresType s) = true
  · rw [if_pos hmarker]
  · rw [if_neg hmarker]
    rw [Bool.or_eq_true, occursIn_iff_isInfix, not_or, Bool.not_eq_true] at hmarker
    have hcode : (Prologue.split s).2 = [] := by
      by_contra hcode
      exact h ⟨hmarker.1, hmarker.2, hcode⟩
    dsimp only
    rw [if_pos (by simp [hcode])]

lemma withClass_ne_declined (s : Text) (caret : UInt64) : withClass s caret ≠ .declined := by
  rw [withClass]
  split <;> simp

/-- Whether wrapping does anything to a script does not depend on the caret. -/
lemma wrap_eq_declined_iff {s : Text} {caret : UInt64} :
    wrap s caret = .declined ↔ ¬ Accepts s := by
  refine ⟨fun h haccepts => ?_, fun h => wrap_of_not_accepts h caret⟩
  rw [wrap_of_accepts haccepts] at h
  exact withClass_ne_declined s caret h

/-- Everything that wrapping does to a script and to the caret in it, and when it does it. -/
lemma wrap_eq_wrapped_iff {s wrapped : Text} {caret moved : UInt64} :
    wrap s caret = .wrapped wrapped moved ↔
      Accepts s ∧ wrapped = (Prologue.split s).1 ++ opening s ++ (Prologue.split s).2 ++ closing s ∧
        moveCaret? (Prologue.split s).1.length (opening s).length caret = some moved := by
  by_cases h : Accepts s
  · rw [wrap_of_accepts h, withClass]
    cases hmoved : moveCaret? (Prologue.split s).1.length (opening s).length caret with
    | none => simp
    | some found => simp [h, eq_comm]
  · simp [wrap_of_not_accepts h, h]

lemma wrap_cases {s wrapped : Text} {caret moved : UInt64}
    (h : wrap s caret = .wrapped wrapped moved) :
    ¬ marker <:+: s ∧ (Prologue.split s).2 ≠ [] ∧
      wrapped = (Prologue.split s).1 ++ opening s ++ (Prologue.split s).2 ++ closing s ∧
      moveCaret? (Prologue.split s).1.length (opening s).length caret = some moved := by
  obtain ⟨⟨hmarker, -, hcode⟩, hwrapped, hmoved⟩ := wrap_eq_wrapped_iff.mp h
  exact ⟨hmarker, hcode, hwrapped, hmoved⟩

lemma wrap_of_result? {s wrapped : Text} {caret moved : UInt64}
    (h : (wrap s caret).result? = some (wrapped, moved)) :
    wrap s caret = .wrapped wrapped moved := by
  cases hwrap : wrap s caret with
  | wrapped text found =>
    rw [hwrap, Wrapping.result?, Option.some.injEq, Prod.mk.injEq] at h
    rw [h.1, h.2]
  | _ => simp [hwrap, Wrapping.result?] at h

end AutoClass

/-! ### The marker -/

namespace Decoration

open AutoClass

lemma cutAt?_marker_opening (s rest : Text) :
    cutAt? marker (opening s ++ rest) =
      some (headerFront (Declaration.declaresMain s), lineBreak s ++ rest) := by
  have hskip := cutAt?_append_of_notMem (slash_notMem_headerFront (Declaration.declaresMain s))
    "//CS-Script auto-class generation".toList (marker ++ (lineBreak s ++ rest))
  have hfound := cutAt?_self_append marker (lineBreak s ++ rest)
  rw [opening_eq, List.append_assoc, List.append_assoc]
  refine hskip.trans ?_
  rw [show '/' :: "//CS-Script auto-class generation".toList = marker from rfl, hfound]
  simp

lemma injectedLine?_eq (text : Text) :
    injectedLine? text = (cutAt? marker text).map fun around => around.1.count '\n' := by
  rw [injectedLine?]
  cases hcut : cutAt? marker text with
  | none => rfl
  | some around =>
    have hwhole := append_of_cutAt? hcut
    rw [Option.map_some, Option.map_some]
    conv_lhs => rw [hwhole, List.append_assoc]
    rw [lineOf_byteSize_append]

/-- The marker of a wrapped script is on the line that was put in behind the prologue. -/
lemma injectedLine?_of_wrap {s wrapped : Text} {caret moved : UInt64}
    (h : wrap s caret = .wrapped wrapped moved) :
    injectedLine? wrapped = some ((Prologue.split s).1.count '\n') := by
  obtain ⟨hmarker, hcode, hwrapped, -⟩ := wrap_cases h
  have hsplit := Prologue.split_append s
  obtain ⟨code, hcodeEq⟩ : ∃ code, code = (Prologue.split s).2 := ⟨_, rfl⟩
  have hfront := lineFeed_notMem_header (Declaration.declaresMain s)
  rw [header_eq, List.mem_append, not_or] at hfront
  have hcut : cutAt? marker wrapped =
      some ((Prologue.split s).1 ++ headerFront (Declaration.declaresMain s),
        lineBreak s ++ (code ++ closing s)) := by
    rw [hwrapped, ← hcodeEq, List.append_assoc, List.append_assoc]
    rcases Prologue.isWhole_split s hcode with hnil | ⟨front, hlines⟩
    · rw [hnil, List.nil_append, List.nil_append, cutAt?_marker_opening]
    · have hclean : ¬ marker <:+: front := by
        intro hinfix
        apply hmarker
        rw [← hsplit, hlines, List.append_assoc]
        exact hinfix.trans (List.prefix_append front _).isInfix
      rw [hlines, List.append_assoc, List.singleton_append,
        cutAt?_append_mark lineFeed_notMem_marker hclean, cutAt?_marker_opening]
      simp
  rw [injectedLine?_eq, hcut, Option.map_some, List.count_append,
    List.count_eq_zero_of_not_mem hfront.1, Nat.add_zero]

end Decoration

/-! ### Line numbers -/

/-- A text as a program can hold it: its bytes can be addressed, and its lines have numbers that
regions can hold, also once a line has been put in. -/
structure Text.Representable (s : Text) : Prop where
  addressable : Utf8.byteSize s < 0x8000000000000000
  numbered : s.count '\n' + 2 < 0x80000000

namespace Text

lemma lineNumberAt_le (s : Text) (caret : Nat) : lineNumberAt s caret ≤ s.count '\n' + 1 := by
  rw [lineNumberAt_eq_count]
  have := (List.take_sublist caret s).count_le '\n'
  omega

end Text

namespace AutoClass

def lineShift (s : Text) (caret : Nat) : Nat :=
  if (Prologue.split s).1.length ≤ caret then 1 else 0

/-- Whether a caret that is moved by the line that opens the class fits into 64 bits. -/
def HasRoom (s : Text) (caret : UInt64) : Prop :=
  caret.toNat + (opening s).length < UInt64.size

lemma toNat_of_moveCaret? {place length : Nat} {caret moved : UInt64} (hlength : length < 130)
    (h : moveCaret? place length caret = some moved) :
    moved.toNat = if place ≤ caret.toNat then caret.toNat + length else caret.toNat := by
  rw [moveCaret?] at h
  split_ifs at h with hfront hroom
  · obtain rfl := Option.some.inj h
    rw [if_neg (by omega)]
  · obtain rfl := Option.some.inj h
    rw [if_pos (by omega), UInt64.toNat_add,
      UInt64.toNat_ofNat_of_lt' (show _ < 2 ^ 64 by omega)]
    exact Nat.mod_eq_of_lt hroom

lemma toNat_moved {s wrapped : Text} {caret moved : UInt64}
    (h : wrap s caret = .wrapped wrapped moved) :
    moved.toNat = if (Prologue.split s).1.length ≤ caret.toNat then
      caret.toNat + (opening s).length else caret.toNat :=
  toNat_of_moveCaret? (length_opening_lt s) (wrap_cases h).2.2.2

/-- A caret with room is moved, whatever becomes of other carets. -/
lemma exists_wrap_of_hasRoom {s : Text} {caret : UInt64} (haccepts : Accepts s)
    (hroom : HasRoom s caret) :
    ∃ moved, wrap s caret = .wrapped
      ((Prologue.split s).1 ++ opening s ++ (Prologue.split s).2 ++ closing s) moved := by
  rw [HasRoom] at hroom
  by_cases hfront : caret.toNat < (Prologue.split s).1.length
  · exact ⟨caret, wrap_eq_wrapped_iff.mpr ⟨haccepts, rfl, by rw [moveCaret?, if_pos hfront]⟩⟩
  · exact ⟨_, wrap_eq_wrapped_iff.mpr
      ⟨haccepts, rfl, by rw [moveCaret?, if_neg hfront, if_pos hroom]⟩⟩

lemma wrap_ne_overflow {s : Text} {caret : UInt64} (hroom : HasRoom s caret) :
    wrap s caret ≠ .overflow := by
  by_cases haccepts : Accepts s
  · obtain ⟨moved, hwrap⟩ := exists_wrap_of_hasRoom haccepts hroom
    simp [hwrap]
  · simp [wrap_of_not_accepts haccepts]

lemma hasRoom_of_le {s : Text} {caret : UInt64}
    (hroom : caret.toNat + 130 ≤ 0x10000000000000000) : HasRoom s caret := by
  have hlength := length_opening_lt s
  exact show _ < 0x10000000000000000 by omega

/-- The parts of a wrapped script, and the place of the caret among them. -/
lemma exists_parts_of_wrap {s wrapped : Text} {caret moved : UInt64}
    (h : wrap s caret = .wrapped wrapped moved) :
    ∃ prologue code, prologue = (Prologue.split s).1 ∧ prologue ++ code = s ∧
      wrapped = prologue ++ opening s ++ code ++ closing s ∧
      moved.toNat = if prologue.length ≤ caret.toNat then
        caret.toNat + (opening s).length else caret.toNat := by
  obtain ⟨-, -, hwrapped, -⟩ := wrap_cases h
  exact ⟨_, _, rfl, Prologue.split_append s, hwrapped, toNat_moved h⟩

/-- Wrapping moves the line of a caret by one if the caret is not in the prologue, and else
keeps it. -/
lemma lineNumberAt_wrap {s wrapped : Text} {caret moved : UInt64}
    (h : wrap s caret = .wrapped wrapped moved) (hcaret : caret.toNat ≤ s.length) :
    lineNumberAt wrapped moved.toNat = lineNumberAt s caret.toNat + lineShift s caret.toNat := by
  obtain ⟨prologue, code, hprologue, hsplit, hwrapped, hmoved⟩ := exists_parts_of_wrap h
  have hlength : prologue.length + code.length = s.length := by
    rw [← hsplit, List.length_append]
  rw [lineNumberAt_eq_count, lineNumberAt_eq_count, lineShift, ← hprologue]
  split_ifs at hmoved ⊢ with hbehind
  · have htake : s.take caret.toNat = prologue ++ code.take (caret.toNat - prologue.length) := by
      rw [← hsplit, List.take_append, List.take_of_length_le hbehind]
    have htake' := take_insert hbehind (hlength ▸ hcaret) (opening s) (closing s)
    rw [← hwrapped, ← hmoved] at htake'
    rw [htake, htake', List.count_append, List.count_append, List.count_append, count_opening]
    omega
  · have hinside : caret.toNat ≤ prologue.length := by omega
    rw [hmoved, hwrapped, ← hsplit, List.append_assoc, List.append_assoc,
      List.take_append_of_le_length hinside, List.take_append_of_le_length hinside]

/-- A caret in the prologue is on a line before the one that is put in. -/
lemma lineNumberAt_le_of_lt_prologue {s : Text} {caret : Nat} (hcode : (Prologue.split s).2 ≠ [])
    (hcaret : caret < (Prologue.split s).1.length) :
    lineNumberAt s caret ≤ (Prologue.split s).1.count '\n' := by
  have hsplit := Prologue.split_append s
  obtain ⟨code, hcodeEq⟩ : ∃ code, code = (Prologue.split s).2 := ⟨_, rfl⟩
  rw [← hcodeEq] at hsplit
  rcases Prologue.isWhole_split s hcode with hnil | ⟨front, hfront⟩
  · rw [hnil] at hcaret
    simp at hcaret
  · rw [hfront] at hcaret hsplit ⊢
    have hinside : caret ≤ front.length := by simp at hcaret; omega
    have hcount := (List.take_sublist caret front).count_le '\n'
    rw [lineNumberAt_eq_count, ← hsplit, List.append_assoc,
      List.take_append_of_le_length hinside, List.count_append]
    simp
    omega

end AutoClass

namespace Decoration

open AutoClass

lemma ofNat_succ_sub_one (line : Nat) : Int32.ofNat (line + 1) - 1 = Int32.ofNat line := by
  rw [Int32.ofNat_add]
  exact Int32.add_sub_cancel _ _

/-- A region is moved back as a whole, by one line, if it begins at or behind the line that was put
in. -/
lemma undecorate_eq {decorated : Text} {injected line : Nat} {region : Region}
    (h : injectedLine? decorated = some injected)
    (hbegin : region.beginLine = Int32.ofNat (line + 1)) (hinjected : injected < 0x80000000)
    (hline : line + 1 < 0x80000000) :
    undecorate decorated region =
      if injected ≤ line then
        { region with beginLine := Int32.ofNat line, endLine := region.endLine - 1 }
      else region := by
  have hlt : Int32.ofNat injected < region.beginLine ↔ injected ≤ line := by
    rw [hbegin, Int32.lt_iff_toInt_lt, Int32.toInt_ofNat_of_lt hinjected,
      Int32.toInt_ofNat_of_lt hline]
    omega
  rw [undecorate, h]
  dsimp only
  rw [if_congr hlt rfl rfl, hbegin, ofNat_succ_sub_one]

/-- A region of one line of decorated text is moved back by one line if it is behind the line
that was put in. -/
lemma undecorate_atLine {decorated : Text} {injected : Nat}
    (h : injectedLine? decorated = some injected) (file : Text) {line : Nat}
    (hinjected : injected < 0x80000000) (hline : line + 1 < 0x80000000) :
    undecorate decorated (.atLine file (Int32.ofNat (line + 1))) =
      .atLine file (Int32.ofNat (if injected ≤ line then line else line + 1)) := by
  rw [undecorate_eq h rfl hinjected hline]
  split_ifs with hbehind
  · simp only [Region.atLine, ofNat_succ_sub_one]
  · rfl

/-- The line of the moved caret in the wrapped script, moved back, is the line of the caret. -/
theorem undecorate_wrap {s wrapped : Text} {caret moved : UInt64}
    (h : wrap s caret = .wrapped wrapped moved) (hs : s.Representable)
    (hcaret : caret.toNat ≤ s.length) (file : Text) :
    undecorate wrapped (.atLine file (Int32.ofNat (lineNumberAt wrapped moved.toNat))) =
      .atLine file (Int32.ofNat (lineNumberAt s caret.toNat)) := by
  have hlength := length_le_byteSize s
  have haddressable := hs.addressable
  have hnumbered := hs.numbered
  have hmoved := lineNumberAt_wrap h hcaret
  obtain ⟨-, hcode, -, -⟩ := wrap_cases h
  have hsplit := Prologue.split_append s
  have hprologue := Prologue.count_lineFeed_le s
  have hlast := lineNumberAt_le s caret.toNat
  obtain ⟨line, hline⟩ : ∃ line, lineNumberAt s caret.toNat = line + 1 :=
    ⟨_, lineNumberAt_eq_count s caret.toNat⟩
  rw [hmoved, lineShift]
  split_ifs with hbehind
  · have hbelow : (Prologue.split s).1.count '\n' ≤ line + 1 := by
      have htake : s.take caret.toNat = (Prologue.split s).1 ++
          (Prologue.split s).2.take (caret.toNat - (Prologue.split s).1.length) := by
        conv_lhs => rw [← hsplit]
        rw [List.take_append, List.take_of_length_le hbehind]
      rw [lineNumberAt_eq_count, htake, List.count_append] at hline
      omega
    rw [undecorate_atLine (injectedLine?_of_wrap h) file (by omega) (by omega), if_pos (by omega)]
  · have habove := lineNumberAt_le_of_lt_prologue hcode (Nat.lt_of_not_le hbehind)
    rw [hline] at habove ⊢
    rw [Nat.add_zero, undecorate_atLine (injectedLine?_of_wrap h) file (by omega) (by omega),
      if_neg (by omega)]

end Decoration

end ScriptAssist
