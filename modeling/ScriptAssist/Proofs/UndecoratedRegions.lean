import ScriptAssist.Proofs.WrappedLines

/-!
# Regions of wrapped scripts

A region of a wrapped script is moved back as a whole, by one line or not at all, and its first line
decides. That is right for regions on one side of the line that opens the class. A region that
reaches across that line ends one line too far, and one that begins on that line, with no prologue
above it, is moved in front of the first line.
-/

namespace ScriptAssist

open Text AutoClass

namespace Region

/-- The region on other lines of its file; they are counted from zero. -/
def between (region : Region) (first last : Nat) : Region :=
  { region with beginLine := Int32.ofNat (first + 1), endLine := Int32.ofNat (last + 1) }

/-- Whether a region is on lines that have numbers, counted from one. -/
def IsNumbered (region : Region) : Prop :=
  1 ≤ region.beginLine ∧ region.beginLine ≤ region.endLine

lemma between_inj {region : Region} {first last last' : Nat} (hlast : last + 1 < 0x80000000)
    (hlast' : last' + 1 < 0x80000000) :
    region.between first last = region.between first last' ↔ last = last' := by
  constructor
  · intro heq
    have hend := congrArg (fun region => region.endLine.toInt) heq
    simp only [between] at hend
    rw [Int32.toInt_ofNat_of_lt hlast, Int32.toInt_ofNat_of_lt hlast'] at hend
    omega
  · rintro rfl
    rfl

lemma exists_ofNat_eq {line : Int32} (h : 1 ≤ line) :
    ∃ n : Nat, line = Int32.ofNat (n + 1) ∧ n + 1 < 0x80000000 := by
  have hone : (1 : Int32).toInt ≤ line.toInt := Int32.le_iff_toInt_le.mp h
  rw [show (1 : Int32).toInt = 1 from rfl] at hone
  have hlt := line.toInt_lt
  have hsmall : (line.toInt - 1).toNat + 1 < 0x80000000 := by omega
  refine ⟨(line.toInt - 1).toNat, Int32.toInt_inj.mp ?_, hsmall⟩
  rw [Int32.toInt_ofNat_of_lt hsmall]
  omega

lemma ofNat_succ_eq_one_iff {n : Nat} (hn : n + 1 < 0x80000000) :
    Int32.ofNat (n + 1) = 1 ↔ n = 0 := by
  rw [← Int32.toInt_inj, Int32.toInt_ofNat_of_lt hn, show (1 : Int32).toInt = 1 from rfl]
  omega

lemma isNumbered_between (region : Region) {first last : Nat} (hle : first ≤ last)
    (hlast : last + 1 < 0x80000000) : (region.between first last).IsNumbered := by
  have hfirst : first + 1 < 0x80000000 := by omega
  simp only [IsNumbered, between, Int32.le_iff_toInt_le]
  rw [Int32.toInt_ofNat_of_lt hfirst, Int32.toInt_ofNat_of_lt hlast,
    show (1 : Int32).toInt = 1 from rfl]
  omega

lemma exists_eq_between {region : Region} (h : region.IsNumbered) :
    ∃ first last, region = region.between first last ∧ first ≤ last ∧ last + 1 < 0x80000000 := by
  obtain ⟨first, hfirst, hfirstSmall⟩ := exists_ofNat_eq h.1
  obtain ⟨last, hlast, hlastSmall⟩ := exists_ofNat_eq (Int32.le_trans h.1 h.2)
  have hle := Int32.le_iff_toInt_le.mp h.2
  rw [hfirst, hlast, Int32.toInt_ofNat_of_lt hfirstSmall, Int32.toInt_ofNat_of_lt hlastSmall] at hle
  exact ⟨first, last, by rw [between, ← hfirst, ← hlast], by omega, hlastSmall⟩

end Region

namespace Decoration

variable {s wrapped decorated : Text} {caret moved : UInt64} {injected first last : Nat}

/-- Where a line of a script stands once another line has been put in, both counted from zero. -/
def place (injected line : Nat) : Nat :=
  if line < injected then line else line + 1

/-! ### Lines of the script in the wrapped one -/

lemma getElem?_place {before behind : List Text} (opened closed : Text) {line : Nat}
    (hline : line < (before ++ behind).length) :
    (before ++ opened :: (behind ++ [closed]))[place before.length line]? =
      (before ++ behind)[line]? := by
  rw [List.length_append] at hline
  rw [place]
  split_ifs with hfront
  · rw [List.getElem?_append_left hfront, List.getElem?_append_left hfront]
  · have hplace : line + 1 - before.length = line - before.length + 1 := by omega
    rw [List.getElem?_append_right (by omega), List.getElem?_append_right (by omega), hplace,
      List.getElem?_cons_succ, List.getElem?_append_left (by omega)]

/-- The lines of a script stand in the wrapped one, the last of them closed by a line break. -/
lemma getElem?_wrapped (h : wrap s caret = .wrapped wrapped moved) {line : Nat}
    (hline : line < (linesInclusive s).length) :
    (linesInclusive wrapped)[place ((Prologue.split s).1.count '\n') line]? =
      (linesInclusive (s ++ lastBreak s))[line]? := by
  obtain ⟨-, hcode, -, -⟩ := wrap_cases h
  have hprologue := Prologue.isWhole_split s hcode
  have hclosed : linesInclusive (s ++ lastBreak s) = linesInclusive (Prologue.split s).1 ++
      linesInclusive ((Prologue.split s).2 ++ lastBreak s) := by
    rw [← hprologue.linesInclusive_append, ← List.append_assoc, Prologue.split_append]
  have hmore := length_linesInclusive_le_append s (lastBreak s)
  rw [hclosed] at hmore ⊢
  rw [linesInclusive_wrap h, ← hprologue.length_linesInclusive]
  exact getElem?_place _ _ (by omega)

/-! ### Regions on lines of the script -/

/-- A region on two lines of a script is moved back to them, except that it ends one line too far
if the line that was put in is between them. -/
lemma undecorate_between (h : injectedLine? decorated = some injected) (hle : first ≤ last)
    (hinjected : injected < 0x80000000) (hfirst : first + 2 < 0x80000000) (region : Region) :
    undecorate decorated (region.between (place injected first) (place injected last)) =
      region.between first (if first < injected ∧ injected ≤ last then last + 1 else last) := by
  by_cases hfront : first < injected
  · have hplace : place injected first = first := if_pos hfront
    rw [hplace, undecorate_eq h rfl hinjected (by omega), if_neg (by omega), place]
    by_cases hreach : injected ≤ last
    · rw [if_neg (by omega), if_pos ⟨hfront, hreach⟩]
    · rw [if_pos (by omega), if_neg (fun hboth => hreach hboth.2)]
  · have hplace : place injected first = first + 1 := if_neg hfront
    have hplace' : place injected last = last + 1 := if_neg (by omega)
    rw [hplace, hplace', undecorate_eq h rfl hinjected hfirst, if_pos (by omega),
      if_neg (fun hboth => hfront hboth.1)]
    simp only [Region.between, ofNat_succ_sub_one]

/-- A region on two lines of a wrapped script that are lines of the script is moved back to just
these exactly if the line that opens the class is not between them. -/
theorem undecorate_lines_iff (hs : s.Representable) (h : wrap s caret = .wrapped wrapped moved) :
    ∃ injected, injectedLine? wrapped = some injected ∧
      (∀ line < (linesInclusive s).length,
        (linesInclusive wrapped)[place injected line]? =
          (linesInclusive (s ++ lastBreak s))[line]?) ∧
      ∀ (region : Region) (first last : Nat), first ≤ last → last < (linesInclusive s).length →
        (undecorate wrapped (region.between (place injected first) (place injected last)) =
            region.between first last ↔ ¬ (first < injected ∧ injected ≤ last)) ∧
          (first < injected → injected ≤ last →
            undecorate wrapped (region.between (place injected first) (place injected last)) =
              region.between first (last + 1)) := by
  have hnumbered := hs.numbered
  have hprologue := Prologue.count_lineFeed_le s
  refine ⟨_, injectedLine?_of_wrap h, fun line hline => getElem?_wrapped h hline, ?_⟩
  intro region first last hle hlast
  have hlines := length_linesInclusive_le s
  rw [undecorate_between (injectedLine?_of_wrap h) hle (by omega) (by omega)]
  constructor
  · rw [Region.between_inj (by split_ifs <;> omega) (by omega)]
    split_ifs with hreach
    · simp [hreach]
    · simp [hreach]
  · intro hfront hreach
    rw [if_pos ⟨hfront, hreach⟩]

theorem undecorate_lines_iff_openScript :
    openScript.Representable ∧ wrap openScript 0 = .wrapped openScriptWrapped 0 ∧
      undecorate openScriptWrapped ⟨"a.cs".toList, 5, 6, 9, false⟩ =
        ⟨"a.cs".toList, 4, 5, 9, false⟩ ∧
      undecorate openScriptWrapped ⟨"a.cs".toList, 2, 6, 9, false⟩ ≠
        ⟨"a.cs".toList, 2, 5, 9, false⟩ := by
  have hs : openScript.Representable := ⟨by decide, by decide⟩
  have hwrap : wrap openScript 0 = .wrapped openScriptWrapped 0 := by decide +kernel
  obtain ⟨injected, hinjected, -, hregions⟩ := undecorate_lines_iff hs hwrap
  have hthree : injected = 3 := by
    rw [injectedLine?_of_wrap hwrap, Option.some.injEq] at hinjected
    rw [← hinjected]
    decide
  subst hthree
  have hbehind := (hregions ⟨"a.cs".toList, 0, 0, 9, false⟩ 3 4 (by decide) (by decide)).1
  have hreach := (hregions ⟨"a.cs".toList, 0, 0, 9, false⟩ 1 4 (by decide) (by decide)).1
  exact ⟨hs, hwrap, hbehind.mpr (by decide), fun h => hreach.mp h (by decide)⟩

/-- A script of two lines, with the class opened between them. -/
def splitScript : Text :=
  "using A;\nf();\n".toList

def splitScriptWrapped : Text :=
  "using A;\n".toList ++ header false ++ "\nf();\n\x7d \x7d\n".toList

/-- A region on both lines of a script does not come back from the wrapped one: it goes on to end
on a third line, which the script does not have. -/
theorem undecorate_reaching_region :
    wrap splitScript 0 = .wrapped splitScriptWrapped 0 ∧
      (linesInclusive splitScriptWrapped)[0]? = (linesInclusive splitScript)[0]? ∧
      (linesInclusive splitScriptWrapped)[2]? = (linesInclusive splitScript)[1]? ∧
      (linesInclusive splitScript).length = 2 ∧
      undecorate splitScriptWrapped ⟨"a.cs".toList, 1, 3, 1, false⟩ =
        ⟨"a.cs".toList, 1, 3, 1, false⟩ ∧
      undecorate splitScriptWrapped ⟨"a.cs".toList, 1, 3, 1, false⟩ ≠
        ⟨"a.cs".toList, 1, 2, 1, false⟩ := by
  have hwrap : wrap splitScript 0 = .wrapped splitScriptWrapped 0 := by decide +kernel
  have hkept : undecorate splitScriptWrapped ⟨"a.cs".toList, 1, 3, 1, false⟩ =
      ⟨"a.cs".toList, 1, 3, 1, false⟩ := by
    rw [undecorate, injectedLine?_of_wrap hwrap]
    decide
  refine ⟨hwrap, by decide, by decide, by decide, hkept, ?_⟩
  rw [hkept]
  decide

/-! ### Regions on any lines -/

/-- A numbered region of a wrapped script stays numbered unless it begins on the first line and that
is the line that opens the class. -/
theorem isNumbered_undecorate_iff (hs : s.Representable)
    (h : wrap s caret = .wrapped wrapped moved) {region : Region} (hregion : region.IsNumbered) :
    (undecorate wrapped region).IsNumbered ↔
      ¬ ((Prologue.split s).1 = [] ∧ region.beginLine = 1) := by
  have hnumbered := hs.numbered
  have hprologue := Prologue.count_lineFeed_le s
  obtain ⟨-, hcode, -, -⟩ := wrap_cases h
  obtain ⟨first, last, hlines, hle, hlast⟩ := Region.exists_eq_between hregion
  have hbegin : region.beginLine = Int32.ofNat (first + 1) := by rw [hlines]; rfl
  have hend : region.endLine = Int32.ofNat (last + 1) := by rw [hlines]; rfl
  rw [undecorate_eq (injectedLine?_of_wrap h) hbegin (by omega) (by omega),
    ← (Prologue.isWhole_split s hcode).count_eq_zero_iff, hbegin,
    Region.ofNat_succ_eq_one_iff (by omega)]
  split_ifs with hbehind
  · rw [hend, ofNat_succ_sub_one]
    cases first with
    | zero =>
      have hzero : ¬ (1 : Int32) ≤ Int32.ofNat 0 := by decide
      exact ⟨fun hone => absurd hone.1 hzero, fun hno => absurd ⟨by omega, rfl⟩ hno⟩
    | succ first =>
      obtain ⟨last, rfl⟩ : ∃ n, last = n + 1 := ⟨last - 1, by omega⟩
      exact ⟨fun _ hfirst => absurd hfirst.2 first.succ_ne_zero,
        fun _ => region.isNumbered_between (show first ≤ last by omega) (by omega)⟩
  · exact ⟨fun _ => by omega, fun _ => hregion⟩

theorem isNumbered_undecorate_iff_openScript :
    openScript.Representable ∧ wrap openScript 0 = .wrapped openScriptWrapped 0 ∧
      Region.IsNumbered ⟨"a.cs".toList, 4, 4, 61, false⟩ ∧
      (undecorate openScriptWrapped ⟨"a.cs".toList, 4, 4, 61, false⟩).IsNumbered := by
  have hs : openScript.Representable := ⟨by decide, by decide⟩
  have hwrap : wrap openScript 0 = .wrapped openScriptWrapped 0 := by decide +kernel
  have hregion : Region.IsNumbered ⟨"a.cs".toList, 4, 4, 61, false⟩ := ⟨by decide, by decide⟩
  exact ⟨hs, hwrap, hregion, (isNumbered_undecorate_iff hs hwrap hregion).mpr (by decide)⟩

/-- A script without a prologue. -/
def bareScript : Text :=
  "f();\n".toList

def bareScriptWrapped : Text :=
  header false ++ "\nf();\n\x7d \x7d\n".toList

/-- A region on the line that opens the class is moved to line zero where that line is the first. -/
theorem undecorate_first_line :
    wrap bareScript 0 = .wrapped bareScriptWrapped 103 ∧
      Region.IsNumbered ⟨"a.cs".toList, 1, 1, 61, false⟩ ∧
      undecorate bareScriptWrapped ⟨"a.cs".toList, 1, 1, 61, false⟩ =
        ⟨"a.cs".toList, 0, 0, 61, false⟩ ∧
      ¬ (undecorate bareScriptWrapped ⟨"a.cs".toList, 1, 1, 61, false⟩).IsNumbered := by
  have hwrap : wrap bareScript 0 = .wrapped bareScriptWrapped 103 := by decide +kernel
  have hmoved : undecorate bareScriptWrapped ⟨"a.cs".toList, 1, 1, 61, false⟩ =
      ⟨"a.cs".toList, 0, 0, 61, false⟩ := by
    rw [undecorate, injectedLine?_of_wrap hwrap]
    decide
  refine ⟨hwrap, ⟨by decide, by decide⟩, hmoved, ?_⟩
  rw [hmoved]
  exact fun hone => absurd hone.1 (by decide)

end Decoration

end ScriptAssist
