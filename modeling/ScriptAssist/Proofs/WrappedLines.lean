import ScriptAssist.Proofs.Wrapping

/-!
# Lines of wrapped scripts

A wrapped script has the lines of the script, closed by a line break if the last one was open, and
two lines of its own: one behind the prologue, which opens the class and is the only place of the
marker, and a last one, which closes the class. Without these two it is the script again, and every
caret moves with the character behind it.
-/

namespace ScriptAssist

open Text

namespace Text

/-- What stands in whole lines and the text behind them, without a line feed, stands in one of
them. -/
lemma IsWhole.prefix_append {whole needle front back : Text} (hwhole : IsWhole whole)
    (hneedle : '\n' ∉ needle) (h : front ++ needle <+: whole ++ back) :
    front ++ needle <+: whole ∨ ∃ rest, front = whole ++ rest ∧ rest ++ needle <+: back := by
  rcases hwhole with rfl | ⟨lines, rfl⟩
  · exact .inr ⟨front, rfl, h⟩
  · rw [List.append_assoc, List.singleton_append] at h
    rcases prefix_append_mark hneedle h with hline | ⟨rest, hfront, hrest⟩
    · exact .inl (hline.trans (List.prefix_append lines _))
    · exact .inr ⟨rest, by rw [hfront, List.append_assoc, List.singleton_append], hrest⟩

end Text

namespace AutoClass

variable {s wrapped : Text} {caret moved : UInt64}

/-! ### The lines of the script -/

/-- The line break behind a script that stops inside a line. -/
def lastBreak (s : Text) : Text :=
  if Text.endsWith ['\n'] s then [] else lineBreak s

/-- The line that closes the class of a script, with its line break. -/
def closingLine (s : Text) : Text :=
  footer (Declaration.declaresMain s) ++ lineBreak s

lemma closing_eq (s : Text) : closing s = lastBreak s ++ closingLine s := by
  rw [closing, lastBreak, closingLine, List.append_assoc]

lemma lastBreak_cases (s : Text) : lastBreak s = [] ∨ lastBreak s = lineBreak s := by
  rw [lastBreak]
  split
  · exact .inl rfl
  · exact .inr rfl

lemma lineFeed_notMem_footer (hasMain : Bool) : '\n' ∉ footer hasMain := by
  cases hasMain <;> decide

lemma isBlank_of_mem_lineBreak (s : Text) : ∀ c ∈ lineBreak s, isBlank c = true := by
  rw [← List.all_eq_true]
  rcases lineBreak_cases s with hbreak | hbreak <;> rw [hbreak] <;> rfl

/-- A line that is put in is one line. -/
lemma linesInclusive_append_lineBreak {front : Text} (h : '\n' ∉ front) (s : Text) :
    linesInclusive (front ++ lineBreak s) = [front ++ lineBreak s] := by
  rcases lineBreak_cases s with hbreak | hbreak <;> rw [hbreak]
  · have hline := linesInclusive_append (show '\n' ∉ front ++ ['\r'] by simp [h]) []
    rw [List.append_assoc, List.singleton_append] at hline
    exact hline
  · exact linesInclusive_append h []

lemma isWhole_append_lineBreak (front s : Text) : IsWhole (front ++ lineBreak s) := by
  rcases lineBreak_cases s with hbreak | hbreak <;> rw [hbreak]
  · exact .inr ⟨front ++ ['\r'], by simp⟩
  · exact isWhole_append_lineFeed front

/-- The code of a script is made of whole lines once its last line has a line break. -/
lemma isWhole_code (s : Text) (hcode : (Prologue.split s).2 ≠ []) :
    IsWhole ((Prologue.split s).2 ++ lastBreak s) := by
  rw [lastBreak]
  split
  · next hlast =>
    have hsplit := Prologue.split_append s
    obtain ⟨front, hfront⟩ := List.isSuffixOf_iff_suffix.mp hlast
    rcases List.eq_nil_or_concat (Prologue.split s).2 with hnil | ⟨code, c, hconcat⟩
    · exact absurd hnil hcode
    · rw [hconcat, List.concat_eq_append, ← List.append_assoc, ← hfront] at hsplit
      have hfeed : c = '\n' := by simpa using (List.append_inj' hsplit rfl).2
      rw [hconcat, hfeed, List.concat_eq_append, List.append_nil]
      exact isWhole_append_lineFeed code
  · exact isWhole_append_lineBreak _ s

lemma linesInclusive_wrap (h : wrap s caret = .wrapped wrapped moved) :
    linesInclusive wrapped = linesInclusive (Prologue.split s).1 ++ opening s ::
      (linesInclusive ((Prologue.split s).2 ++ lastBreak s) ++ [closingLine s]) := by
  obtain ⟨-, hcode, hwrapped, -⟩ := wrap_cases h
  have hopening := linesInclusive_append_lineBreak
    (lineFeed_notMem_header (Declaration.declaresMain s)) s
  have hclosing := linesInclusive_append_lineBreak
    (lineFeed_notMem_footer (Declaration.declaresMain s)) s
  have hwhole : IsWhole (opening s) := isWhole_append_lineBreak _ s
  rw [← opening] at hopening
  rw [← closingLine] at hclosing
  rw [hwrapped, closing_eq, List.append_assoc, List.append_assoc,
    ← List.append_assoc _ (lastBreak s),
    (Prologue.isWhole_split s hcode).linesInclusive_append, hwhole.linesInclusive_append,
    (isWhole_code s hcode).linesInclusive_append, hopening, hclosing, List.singleton_append]

/-- The first line behind the line that opens the class is the first one that is no prologue. -/
lemma exists_first_line (hcode : (Prologue.split s).2 ≠ []) :
    ∃ first, (linesInclusive ((Prologue.split s).2 ++ lastBreak s)).head? = some first ∧
      Prologue.isPrologueLine first = false := by
  obtain ⟨line, rest, hlines⟩ :
      ∃ line rest, linesInclusive (Prologue.split s).2 = line :: rest := by
    refine List.exists_cons_of_ne_nil fun hnil => hcode ?_
    rw [← flatten_linesInclusive (Prologue.split s).2, hnil]
    rfl
  have hline : Prologue.isPrologueLine line = false := by
    have hfirst := List.head?_dropWhile_not Prologue.isPrologueLine (linesInclusive s)
    rw [← (Prologue.linesInclusive_split s).2, hlines] at hfirst
    exact hfirst
  rcases linesInclusive_eq_cons hlines with
    ⟨hopen, hwhole, -⟩ | ⟨front, back, hfront, hfeed, hback, -⟩
  · -- the code is one open line, which the line break closes
    rcases lastBreak_cases s with hbreak | hbreak <;> rw [hbreak]
    · rw [List.append_nil, hlines]
      exact ⟨line, rfl, hline⟩
    · rw [linesInclusive_append_lineBreak hopen]
      refine ⟨_, rfl, ?_⟩
      rw [Prologue.isPrologueLine, trim_append (isBlank_of_mem_lineBreak s), ← hwhole]
      exact hline
  · rw [hback, hfeed, List.append_assoc, List.append_assoc, List.singleton_append,
      linesInclusive_append hfront, ← hfeed]
    exact ⟨line, rfl, hline⟩

/-! ### The marker -/

lemma notMem_marker_of_mem_lineBreak (s : Text) : ∀ c ∈ lineBreak s, c ∉ marker := by
  rcases lineBreak_cases s with hbreak | hbreak <;> rw [hbreak]
  · exact List.forall_mem_cons.mpr ⟨by decide, List.forall_mem_singleton.mpr (by decide)⟩
  · exact List.forall_mem_singleton.mpr (by decide)

lemma slash_notMem_lineBreak (s : Text) : '/' ∉ lineBreak s :=
  fun hslash => notMem_marker_of_mem_lineBreak s _ hslash (by decide)

lemma eq_headerFront_of_marker {front : Text} (h : front ++ marker <+: opening s) :
    front = headerFront (Declaration.declaresMain s) := by
  obtain ⟨rest, hrest⟩ := h
  have hslashes : (opening s).count '/' = marker.count '/' := by
    rw [opening_eq, List.count_append, List.count_append,
      List.count_eq_zero_of_not_mem (slash_notMem_headerFront (Declaration.declaresMain s)),
      List.count_eq_zero_of_not_mem (slash_notMem_lineBreak s), Nat.zero_add, Nat.add_zero]
  have hfront : '/' ∉ front := by
    rw [← hrest, List.count_append, List.count_append] at hslashes
    exact List.count_eq_zero.mp (by omega)
  have hcut := cutAtChar?_append hfront ("//CS-Script auto-class generation".toList ++ rest)
  have hcut' := cutAtChar?_append (slash_notMem_headerFront (Declaration.declaresMain s))
    ("//CS-Script auto-class generation".toList ++ lineBreak s)
  have hsame : front ++ '/' :: ("//CS-Script auto-class generation".toList ++ rest) =
      headerFront (Declaration.declaresMain s) ++
        '/' :: ("//CS-Script auto-class generation".toList ++ lineBreak s) := by
    rw [opening_eq, List.append_assoc] at hrest
    exact hrest
  rw [hsame, hcut', Option.some.injEq, Prod.mk.injEq] at hcut
  exact hcut.1.symm

lemma marker_notInfix_code (h : ¬ marker <:+: s) :
    ¬ marker <:+: (Prologue.split s).2 ++ lastBreak s := by
  intro hfound
  have hnone : ∀ c ∈ lastBreak s, c ∉ marker := by
    rcases lastBreak_cases s with hlast | hlast <;> rw [hlast]
    · exact fun c hc => absurd hc List.not_mem_nil
    · exact notMem_marker_of_mem_lineBreak s
  have hcode := isInfix_of_append (by decide) hnone hfound
  have hsuffix : (Prologue.split s).2 <:+ s := ⟨_, Prologue.split_append s⟩
  exact h (hcode.trans hsuffix.isInfix)

lemma slash_notMem_footer (hasMain : Bool) : '/' ∉ footer hasMain := by
  cases hasMain <;> decide

lemma marker_notInfix_closingLine (s : Text) : ¬ marker <:+: closingLine s := by
  intro hfound
  have hslash : '/' ∈ closingLine s := hfound.subset (by decide)
  rw [closingLine, List.mem_append] at hslash
  rcases hslash with hfooter | hbreak
  · exact slash_notMem_footer _ hfooter
  · exact slash_notMem_lineBreak s hbreak

/-- The marker of a wrapped script stands in one place: at the end of the line that opens the
class. -/
lemma marker_unique (h : wrap s caret = .wrapped wrapped moved) :
    ∃! front, front ++ marker <+: wrapped := by
  obtain ⟨hmarker, hcode, hwrapped, -⟩ := wrap_cases h
  have hparts : wrapped = (Prologue.split s).1 ++
      (opening s ++ (((Prologue.split s).2 ++ lastBreak s) ++ closingLine s)) := by
    rw [hwrapped, closing_eq]
    simp only [List.append_assoc]
  have hprologue : ¬ marker <:+: (Prologue.split s).1 := by
    have hstart : (Prologue.split s).1 <+: s := ⟨_, Prologue.split_append s⟩
    exact fun hfound => hmarker (hfound.trans hstart.isInfix)
  have hopening : IsWhole (opening s) := isWhole_append_lineBreak _ s
  refine ⟨(Prologue.split s).1 ++ headerFront (Declaration.declaresMain s), ?_, ?_⟩
  · rw [hparts, opening_eq]
    exact ⟨lineBreak s ++ (((Prologue.split s).2 ++ lastBreak s) ++ closingLine s), by simp⟩
  · intro front hfront
    rw [hparts] at hfront
    rcases (Prologue.isWhole_split s hcode).prefix_append lineFeed_notMem_marker hfront with
      hin | ⟨front, rfl, hbehind⟩
    · exact absurd ((List.suffix_append front marker).isInfix.trans hin.isInfix) hprologue
    · rcases hopening.prefix_append lineFeed_notMem_marker hbehind with
        hin | ⟨front, rfl, hcodeIn⟩
      · rw [eq_headerFront_of_marker hin]
      · rcases (isWhole_code s hcode).prefix_append lineFeed_notMem_marker hcodeIn with
          hin | ⟨front, rfl, hlast⟩
        · exact absurd ((List.suffix_append front marker).isInfix.trans hin.isInfix)
            (marker_notInfix_code hmarker)
        · exact absurd ((List.suffix_append front marker).isInfix.trans hlast.isInfix)
            (marker_notInfix_closingLine s)

/-! ### Counts -/

lemma count_lastBreak (s : Text) :
    (lastBreak s).count '\n' = if Text.endsWith ['\n'] s then 0 else 1 := by
  rw [lastBreak]
  split
  · rfl
  · exact count_lineBreak s

lemma count_closingLine (s : Text) : (closingLine s).count '\n' = 1 := by
  rw [closingLine, List.count_append,
    List.count_eq_zero_of_not_mem (lineFeed_notMem_footer (Declaration.declaresMain s)),
    count_lineBreak]

lemma count_lineFeed_wrap (h : wrap s caret = .wrapped wrapped moved) :
    wrapped.count '\n' = s.count '\n' + 2 + if Text.endsWith ['\n'] s then 0 else 1 := by
  obtain ⟨-, -, hwrapped, -⟩ := wrap_cases h
  have hscript : s.count '\n' = (Prologue.split s).1.count '\n' +
      (Prologue.split s).2.count '\n' := by
    rw [← List.count_append, Prologue.split_append]
  rw [hwrapped, closing_eq, List.count_append, List.count_append, List.count_append,
    List.count_append, count_opening, count_lastBreak, count_closingLine, hscript]
  omega

/-- The line in front closes no brace and the last one opens none; the one closes what the other
opens. -/
lemma braces_balance (s : Text) :
    (opening s).count '\x7b' = (closingLine s).count '\x7d' ∧ (opening s).count '\x7d' = 0 ∧
      (closingLine s).count '\x7b' = 0 := by
  rw [opening, closingLine]
  rcases lineBreak_cases s with hbreak | hbreak <;> rw [hbreak] <;>
    cases Declaration.declaresMain s <;> decide

/-! ### Carets -/

/-- A caret moves with the character behind it. -/
lemma getElem?_moved (h : wrap s caret = .wrapped wrapped moved)
    (hcaret : caret.toNat < s.length) : wrapped[moved.toNat]? = s[caret.toNat]? := by
  obtain ⟨prologue, code, -, hsplit, hwrapped, hmoved⟩ := exists_parts_of_wrap h
  rw [← hsplit] at hcaret
  conv_rhs => rw [← hsplit]
  split_ifs at hmoved with hbehind
  · rw [List.length_append] at hcaret
    have hplace : caret.toNat + (opening s).length - (prologue ++ opening s).length =
        caret.toNat - prologue.length := by
      rw [List.length_append]
      omega
    rw [hwrapped, hmoved, List.append_assoc, List.getElem?_append_right (by simp; omega), hplace,
      List.getElem?_append_left (by omega), List.getElem?_append_right hbehind]
  · rw [hwrapped, hmoved, List.append_assoc, List.append_assoc,
      List.getElem?_append_left (by omega), List.getElem?_append_left (by omega)]

/-- Wherever a caret with room is, wrapping makes the same text. -/
lemma exists_wrap_of_wrap {other : UInt64} (h : wrap s caret = .wrapped wrapped moved)
    (hroom : HasRoom s other) : ∃ movedOther, wrap s other = .wrapped wrapped movedOther := by
  obtain ⟨haccepts, rfl, -⟩ := wrap_eq_wrapped_iff.mp h
  exact exists_wrap_of_hasRoom haccepts hroom

/-- A caret further on stays further on. -/
lemma exists_moved_lt {later : UInt64} (h : wrap s caret = .wrapped wrapped moved)
    (hlater : caret < later) (hroom : HasRoom s later) :
    ∃ movedLater, wrap s later = .wrapped wrapped movedLater ∧ moved < movedLater := by
  obtain ⟨movedLater, hwrap⟩ := exists_wrap_of_wrap h hroom
  have hlt : caret.toNat < later.toNat := UInt64.lt_iff_toNat_lt.mp hlater
  refine ⟨movedLater, hwrap, UInt64.lt_iff_toNat_lt.mpr ?_⟩
  rw [toNat_moved h, toNat_moved hwrap]
  split_ifs <;> omega

/-! ### Two lines of its own -/

/-- Wrapping puts in two lines and nothing else. Without the line of the marker, which stands
between the prologue and the first line of code, and without the last line, the wrapped script is
the script, closed by a line break. -/
theorem wrap_inserts_two_lines (hs : Utf8.byteSize s < 0x8000000000000000)
    (h : wrap s caret = .wrapped wrapped moved) :
    (∃! front, front ++ marker <+: wrapped) ∧
      (∃ before opened behind closed,
        linesInclusive wrapped = before ++ opened :: (behind ++ [closed]) ∧
          marker <:+: opened ∧ Decoration.injectedLine? wrapped = some before.length ∧
          (before ++ behind).flatten =
            s ++ (if Text.endsWith ['\n'] s then [] else lineBreak s) ∧
          opened.count '\x7b' = closed.count '\x7d' ∧ opened.count '\x7d' = 0 ∧
          closed.count '\x7b' = 0 ∧
          before = (linesInclusive s).takeWhile Prologue.isPrologueLine ∧
          ∃ first, behind.head? = some first ∧ Prologue.isPrologueLine first = false) ∧
      wrapped.count '\n' = s.count '\n' + 2 + (if Text.endsWith ['\n'] s then 0 else 1) ∧
      (caret.toNat < s.length → wrapped[moved.toNat]? = s[caret.toNat]?) ∧
      ∀ later, caret < later → later.toNat ≤ s.length →
        ∃ movedLater, wrap s later = .wrapped wrapped movedLater ∧ moved < movedLater := by
  have hlength := length_le_byteSize s
  obtain ⟨-, hcode, -, -⟩ := wrap_cases h
  refine ⟨marker_unique h, ?_, count_lineFeed_wrap h,
    fun hinside => getElem?_moved h hinside,
    fun later hlater hinside => exists_moved_lt h hlater (hasRoom_of_le (by omega))⟩
  obtain ⟨hopened, hopenedCloses, hclosedOpens⟩ := braces_balance s
  refine ⟨_, opening s, _, closingLine s, linesInclusive_wrap h, ?_, ?_, ?_, hopened,
    hopenedCloses, hclosedOpens, (Prologue.linesInclusive_split s).1, exists_first_line hcode⟩
  · rw [opening_eq]
    exact ⟨_, lineBreak s, by rw [List.append_assoc]⟩
  · rw [(Prologue.isWhole_split s hcode).length_linesInclusive]
    exact Decoration.injectedLine?_of_wrap h
  · rw [List.flatten_append, flatten_linesInclusive, flatten_linesInclusive, ← List.append_assoc,
      Prologue.split_append, lastBreak]

/-- A script with a comment in front, a letter of two bytes, both kinds of line breaks and an open
last line. -/
def openScript : Text :=
  "//é\nusing A;\r\n\nf(é);\r\ng()".toList

def openScriptWrapped : Text :=
  "//é\nusing A;\r\n\n".toList ++ header false ++ "\r\nf(é);\r\ng()\r\n\x7d \x7d\r\n".toList

theorem wrap_inserts_two_lines_openScript :
    wrap openScript 17 = .wrapped openScriptWrapped 121 ∧
      (∃! front, front ++ marker <+: openScriptWrapped) ∧
      openScriptWrapped.count '\n' = openScript.count '\n' + 3 ∧
      openScriptWrapped[121]? = some 'é' := by
  have hwrap : wrap openScript 17 = .wrapped openScriptWrapped 121 := by decide +kernel
  have hlines := wrap_inserts_two_lines (by decide) hwrap
  exact ⟨hwrap, hlines.1, hlines.2.2.1, hlines.2.2.2.1 (by decide)⟩

end AutoClass

end ScriptAssist
