import ScriptAssist.Proofs.ByteCuts

/-!
# Longest stretches

Words and lines are the longest parts of a text around a caret without a character that ends them.
Every other such part around the caret is shorter, because it lies inside. The word of program text
lies inside the path around the same caret, and both lie inside its line.
-/

namespace ScriptAssist.Text

open Utf8

variable {stop : Char → Bool} {s front mid back front' mid' back' front'' mid'' back'' : Text}
  {caret : Nat}

/-- The text `mid`, with `front` before and `back` behind it, runs between characters that satisfy
`stop` or the ends of the text, and every other text around the caret without such a character is
shorter. -/
structure IsLongest (stop : Char → Bool) (s : Text) (caret : Nat) (front mid back : Text) : Prop
    extends IsStretch stop s caret front mid back where
  others : ∀ front' mid' back', IsFreeAround stop s caret front' mid' back' →
    mid'.length < mid.length ∨ front' = front ∧ mid' = mid ∧ back' = back

/-- The text `mid`, with `front` before and `back` behind it, is a part of `mid'`, with `front'`
before and `back'` behind that. -/
def LiesIn (front mid back front' mid' back' : Text) : Prop :=
  ∃ gap more, front = front' ++ gap ∧ mid' = gap ++ mid ++ more ∧ back = more ++ back'

/-- The text `part` is `s` without the blanks it starts with and those it ends with. -/
structure IsTrimmed (s part : Text) : Prop where
  around : ∃ indent trailing, s = indent ++ part ++ trailing ∧ isBlankText indent = true ∧
    isBlankText trailing = true
  starts : StartsInk part
  ends : EndsInk part

lemma LiesIn.trans (h : LiesIn front mid back front' mid' back')
    (h' : LiesIn front' mid' back' front'' mid'' back'') :
    LiesIn front mid back front'' mid'' back'' := by
  obtain ⟨gap, more, rfl, rfl, rfl⟩ := h
  obtain ⟨gap', more', rfl, rfl, rfl⟩ := h'
  exact ⟨gap' ++ gap, more ++ more', by simp, by simp, by simp⟩

/-- What lies inside a text is shorter, unless it is all of it. -/
lemma LiesIn.length_lt_or_eq (h : LiesIn front mid back front' mid' back') :
    mid.length < mid'.length ∨ front = front' ∧ mid = mid' ∧ back = back' := by
  obtain ⟨gap, more, rfl, rfl, rfl⟩ := h
  by_cases hnil : gap = [] ∧ more = []
  · obtain ⟨rfl, rfl⟩ := hnil
    exact .inr (by simp)
  · refine .inl ?_
    rw [← List.length_eq_zero_iff, ← List.length_eq_zero_iff] at hnil
    simp only [List.length_append]
    omega

lemma IsStretch.isLongest (h : IsStretch stop s caret front mid back) :
    IsLongest stop s caret front mid back :=
  ⟨h, fun _ _ _ hfree => LiesIn.length_lt_or_eq (h.nested hfree fun _ hc => hc)⟩

lemma isTrimmed_trim (s : Text) : IsTrimmed s (trim s) :=
  ⟨exists_append_trim s, fun _ => isBlank_of_head?_trim, fun _ => getLast?_dropEndWhile⟩

/-- Every delimiter of paths is one of words of program text. -/
lemma IsWord.code_liesIn_path (hword : IsWord .code s caret front mid back)
    (hpath : IsWord .path s caret front' mid' back') : LiesIn front mid back front' mid' back' := by
  have hdelimiters : WordKind.path.delimiters ⊆ WordKind.code.delimiters := by decide
  refine hpath.nested hword.isFreeAround fun c hc => ?_
  simpa using hdelimiters (by simpa using hc)

/-- The words and the line around a caret, which cutting bytes finds, are longest, and they lie
inside each other. -/
theorem words_and_line_longest (s : Text) (caret : Nat) :
    (∃ front back pathFront pathBack lineFront line lineBack,
      IsLongest (fun c => WordKind.code.delimiters.contains c) s caret
        front (wordAt .code s caret) back ∧
      IsLongest (fun c => WordKind.path.delimiters.contains c) s caret
        pathFront (wordAt .path s caret) pathBack ∧
      IsLongest (fun c => c = '\r' || c = '\n') s caret lineFront line lineBack ∧
      IsTrimmed line (lineAt s caret) ∧
      LiesIn front (wordAt .code s caret) back pathFront (wordAt .path s caret) pathBack ∧
      LiesIn pathFront (wordAt .path s caret) pathBack lineFront line lineBack ∧
      LiesIn front (wordAt .code s caret) back lineFront line lineBack) ∧
    (∀ kind, cutStretch? (fun c => kind.delimiters.contains c) (encode s) (byteOffset s caret) =
      some (wordAt kind s caret)) ∧
    (cutStretch? (fun c => c = '\r' || c = '\n') (encode s) (byteOffset s caret)).map trim =
      some (lineAt s caret) := by
  obtain ⟨front, back, hword⟩ :=
    exists_isStretch (fun c => WordKind.code.delimiters.contains c) s caret
  obtain ⟨pathFront, pathBack, hpath⟩ :=
    exists_isStretch (fun c => WordKind.path.delimiters.contains c) s caret
  obtain ⟨lineFront, lineBack, hline⟩ := exists_isStretch (fun c => c = '\r' || c = '\n') s caret
  have hwordIn := IsWord.code_liesIn_path hword hpath
  have hpathIn := IsWord.nested_isLine hline hpath
  exact ⟨⟨front, back, pathFront, pathBack, lineFront, fullLineAt s caret, lineBack,
    hword.isLongest, hpath.isLongest, hline.isLongest, isTrimmed_trim _, hwordIn, hpathIn,
    hwordIn.trans hpathIn⟩, fun kind => cutStretch?_wordAt kind s caret,
    cutStretch?_lineAt s caret⟩

example : wordAt .code "//css_inc cmd.cs;".toList 13 = "cmd".toList ∧
    wordAt .path "//css_inc cmd.cs;".toList 13 = "cmd.cs".toList := by decide

end ScriptAssist.Text
