import Mathlib.Logic.Function.Iterate
import ScriptAssist.Answer.Signature
import ScriptAssist.Proofs.TextCuts
import ScriptAssist.Proofs.TextLines

/-!
# Tidied blocks

Passes over a block that write two line feeds as one leave its lines as they are and come to an end
when no two line feeds are adjacent. What is left are the lines that are not empty, behind a line
feed if the block starts with one. A carriage return in front of a line break stays, and makes one
with the line feed behind it.
-/

namespace ScriptAssist.Signature

open Text

variable {block s front back mark : Text} {c first : Char}

/-! ### Passes -/

lemma mergeLineFeeds_eq_self (h : ¬ ['\n', '\n'] <:+: s) : mergeLineFeeds s = s := by
  fun_induction mergeLineFeeds s with
  | case1 => rfl
  | case2 s ih => exact absurd ⟨[], s, rfl⟩ h
  | case3 c s hne ih => rw [ih fun hoccurs => h (hoccurs.trans (List.suffix_cons c s).isInfix)]

lemma length_mergeLineFeeds_le (s : Text) : (mergeLineFeeds s).length ≤ s.length := by
  fun_induction mergeLineFeeds s with
  | case1 => exact Nat.le_refl 0
  | case2 s ih => simp only [List.length_cons]; omega
  | case3 c s hne ih => simp only [List.length_cons]; omega

/-- A pass makes a text shorter exactly if it has something to merge. -/
lemma length_mergeLineFeeds_lt_iff :
    (mergeLineFeeds s).length < s.length ↔ ['\n', '\n'] <:+: s := by
  constructor
  · intro hlt
    by_contra hnone
    rw [mergeLineFeeds_eq_self hnone] at hlt
    exact absurd hlt (Nat.lt_irrefl _)
  · intro hoccurs
    fun_induction mergeLineFeeds s with
    | case1 => exact absurd hoccurs (by simp)
    | case2 s ih =>
      have hle := length_mergeLineFeeds_le s
      simp only [List.length_cons]
      omega
    | case3 c s hne ih =>
      rcases List.infix_cons_iff.mp hoccurs with ⟨rest, hrest⟩ | htail
      · obtain ⟨rfl, rfl⟩ := List.cons.inj hrest
        exact absurd rfl (hne rest rfl)
      · simpa using ih htail

/-- What every pass keeps, all of them keep. -/
lemma apply_collapse {α : Sort*} {f : Text → α} (h : ∀ s, f (mergeLineFeeds s) = f s) (s : Text) :
    f (collapse s) = f s := by
  fun_induction collapse s with
  | case1 s next hlt ih => rw [ih, h]
  | case2 s next hle => rfl

lemma not_infix_collapse (s : Text) : ¬ ['\n', '\n'] <:+: collapse s := by
  fun_induction collapse s with
  | case1 s next hlt ih => exact ih
  | case2 s next hle => exact fun hoccurs => hle (length_mergeLineFeeds_lt_iff.mpr hoccurs)

/-- There is something to merge before each pass and nothing behind the last one. -/
theorem exists_passes (s : Text) : ∃ passes, collapse s = mergeLineFeeds^[passes] s ∧
    ∀ done, occursIn ['\n', '\n'] (mergeLineFeeds^[done] s) = true ↔ done < passes := by
  simp only [occursIn_iff_isInfix]
  fun_induction collapse s with
  | case1 s next hlt ih =>
    obtain ⟨passes, hcollapse, hpasses⟩ := ih
    refine ⟨passes + 1, hcollapse, fun done => ?_⟩
    cases done with
    | zero => exact iff_of_true (length_mergeLineFeeds_lt_iff.mp hlt) (Nat.succ_pos passes)
    | succ done =>
      rw [Function.iterate_succ_apply, Nat.succ_lt_succ_iff]
      exact hpasses done
  | case2 s next hle =>
    have hnone : ¬ ['\n', '\n'] <:+: s :=
      fun hoccurs => hle (length_mergeLineFeeds_lt_iff.mpr hoccurs)
    refine ⟨0, rfl, fun done => iff_of_false ?_ (Nat.not_lt_zero done)⟩
    rw [Function.iterate_fixed (mergeLineFeeds_eq_self hnone)]
    exact hnone

/-! ### Lines -/

/-- The lines of a text that are not empty. -/
def filledLines (s : Text) : List Text :=
  (s.splitOn '\n').filter fun line => !line.isEmpty

lemma filledLines_append_lineFeed (front back : Text) :
    filledLines (front ++ '\n' :: back) = filledLines front ++ filledLines back := by
  rw [filledLines, List.splitOn_append_cons_self, List.filter_append]
  rfl

lemma filledLines_of_notMem (h : '\n' ∉ s) (hne : s ≠ []) : filledLines s = [s] := by
  rw [filledLines, List.splitOn_eq_singleton h, List.filter_cons_of_pos (by simpa using hne),
    List.filter_nil]

lemma filledLines_append_mergeLineFeeds (front s : Text) :
    filledLines (front ++ mergeLineFeeds s) = filledLines (front ++ s) := by
  fun_induction mergeLineFeeds s generalizing front with
  | case1 => rfl
  | case2 s ih =>
    have hnone : filledLines [] = [] := rfl
    have hrest := filledLines_append_lineFeed [] s
    rw [List.nil_append, hnone, List.nil_append] at hrest
    rw [filledLines_append_lineFeed, filledLines_append_lineFeed, hrest]
    exact congrArg _ (ih [])
  | case3 c s hne ih => rw [List.append_cons, ih, ← List.append_cons]

lemma filledLines_collapse (s : Text) : filledLines (collapse s) = filledLines s :=
  apply_collapse (filledLines_append_mergeLineFeeds []) s

lemma prefix_mergeLineFeeds_iff : ['\n'] <+: mergeLineFeeds s ↔ ['\n'] <+: s := by
  fun_cases mergeLineFeeds s with
  | case1 => rfl
  | case2 s => simp
  | case3 c s hne => simp

lemma prefix_collapse_iff : ['\n'] <+: collapse s ↔ ['\n'] <+: s :=
  iff_of_eq (apply_collapse (f := fun s => ['\n'] <+: s)
    (fun _ => propext prefix_mergeLineFeeds_iff) s)

lemma isBlankText_mergeLineFeeds (s : Text) : isBlankText (mergeLineFeeds s) = isBlankText s := by
  fun_induction mergeLineFeeds s with
  | case1 => rfl
  | case2 s ih => simpa [isBlankText, isBlank] using ih
  | case3 c s hne ih => simpa [isBlankText] using congrArg (isBlank c && ·) ih

/-- No line of the text is empty, apart from one behind the last line feed. -/
structure IsTight (s : Text) : Prop where
  first : ¬ ['\n'] <+: s
  pairs : ¬ ['\n', '\n'] <:+: s

/-- The first line of a tight text is not empty, and what follows it is tight. -/
lemma IsTight.behind (h : IsTight (front ++ '\n' :: back)) : front ≠ [] ∧ IsTight back := by
  refine ⟨?_, fun hfeed => h.pairs ?_, fun hoccurs => h.pairs ?_⟩
  · rintro rfl
    exact h.first ⟨back, rfl⟩
  · obtain ⟨rest, rfl⟩ := hfeed
    exact ⟨front, rest, by simp⟩
  · exact hoccurs.trans ⟨front ++ ['\n'], [], by simp⟩

/-- A tight text is made of its lines, with or without a line feed behind the last one. -/
lemma IsTight.exists_eq_joinLines (h : IsTight s) :
    ∃ last, (last = [] ∨ last = ['\n']) ∧ s = joinLines (filledLines s) ++ last := by
  -- The lines are taken off from the first one on.
  induction hlength : s.length using Nat.strong_induction_on generalizing s with
  | _ length ih =>
    by_cases hfeed : '\n' ∈ s
    · obtain ⟨front, back, rfl, hfront⟩ := List.eq_append_cons_of_mem hfeed
      obtain ⟨hne, hback⟩ := h.behind
      obtain ⟨last, hlast, hrest⟩ := ih back.length (by simp [← hlength]; omega) hback rfl
      rw [filledLines_append_lineFeed, filledLines_of_notMem hfront hne, List.singleton_append]
      by_cases hnone : filledLines back = []
      · have hback : back = last := by simpa [hnone, joinLines, joinWith] using hrest
        rcases hlast with rfl | rfl
        · exact ⟨['\n'], .inr rfl, by simp [hback, filledLines, joinLines, joinWith]⟩
        · exact absurd ⟨[], hback.symm⟩ h.behind.2.first
      · refine ⟨last, hlast, ?_⟩
        rw [joinLines_cons front hnone, List.append_assoc, List.cons_append, ← hrest]
    · by_cases hempty : s = []
      · exact ⟨[], .inl rfl, by simp [hempty, filledLines, joinLines, joinWith]⟩
      · exact ⟨[], .inl rfl, by simp [filledLines_of_notMem hfeed hempty, joinLines, joinWith]⟩

/-- Without CR LF the lines of a tight text are those that are not empty. -/
lemma IsTight.lines_eq (h : IsTight s) (hreturn : ¬ ['\r', '\n'] <:+: s) :
    lines s = filledLines s := by
  induction hlength : s.length using Nat.strong_induction_on generalizing s with
  | _ length ih =>
    by_cases hfeed : '\n' ∈ s
    · obtain ⟨front, back, rfl, hfront⟩ := List.eq_append_cons_of_mem hfeed
      obtain ⟨hne, hback⟩ := h.behind
      have hline : dropLineBreak (front ++ ['\n']) = front := by
        refine (dropLineBreak_append front).resolve_right fun heq => hreturn ?_
        exact ⟨dropLineBreak (front ++ ['\n']), back, by rw [List.append_cons _ '\r', ← heq]; simp⟩
      have hrest := ih back.length (by simp [← hlength]; omega) hback
        (fun hoccurs => hreturn (hoccurs.trans ⟨front ++ ['\n'], [], by simp⟩)) rfl
      rw [lines] at hrest ⊢
      rw [linesInclusive_append hfront, List.map_cons, hline, hrest, filledLines_append_lineFeed,
        filledLines_of_notMem hfront hne, List.singleton_append]
    · by_cases hempty : s = []
      · rw [hempty]
        rfl
      · rw [lines, linesInclusive_of_notMem hfeed hempty, filledLines_of_notMem hfeed hempty,
          List.map_singleton, dropLineBreak_eq_self hfeed]

/-! ### Carriage returns -/

/-- The mark stands in the text in front of something that is not blank. -/
def StandsBeforeInk (mark s : Text) : Prop :=
  ∃ front back, s = front ++ mark ++ back ∧ isBlankText back = false

lemma standsBeforeInk_cons_iff (hmark : isBlankText mark = true) :
    StandsBeforeInk (first :: mark) (c :: s) ↔
      (c = first ∧ mark <+: s ∧ isBlankText s = false) ∨ StandsBeforeInk (first :: mark) s := by
  have hblank : ∀ back, isBlankText (mark ++ back) = isBlankText back := by
    intro back
    rw [isBlankText, List.all_append, ← isBlankText, hmark, Bool.true_and]
    rfl
  constructor
  · rintro ⟨front, back, heq, hink⟩
    cases front with
    | nil =>
      obtain ⟨rfl, rfl⟩ := List.cons.inj heq
      exact .inl ⟨rfl, ⟨back, rfl⟩, (hblank back).trans hink⟩
    | cons other front =>
      obtain ⟨rfl, rfl⟩ := List.cons.inj heq
      exact .inr ⟨front, back, rfl, hink⟩
  · rintro (⟨rfl, ⟨back, rfl⟩, hink⟩ | ⟨front, back, rfl, hink⟩)
    · exact ⟨[], back, rfl, (hblank back).symm.trans hink⟩
    · exact ⟨c :: front, back, rfl, hink⟩

lemma not_standsBeforeInk_nil : ¬ StandsBeforeInk (first :: mark) [] := by
  rintro ⟨front, back, heq, -⟩
  simp at heq

lemma standsBeforeInk_mergeLineFeeds_iff :
    StandsBeforeInk ['\r', '\n'] (mergeLineFeeds s) ↔ StandsBeforeInk ['\r', '\n'] s := by
  have hmark : isBlankText ['\n'] = true := by decide
  fun_induction mergeLineFeeds s with
  | case1 => rfl
  | case2 s ih =>
    rw [standsBeforeInk_cons_iff hmark, standsBeforeInk_cons_iff hmark,
      standsBeforeInk_cons_iff hmark]
    simpa using ih
  | case3 c s hne ih =>
    rw [standsBeforeInk_cons_iff hmark, standsBeforeInk_cons_iff hmark, prefix_mergeLineFeeds_iff,
      isBlankText_mergeLineFeeds]
    exact or_congr_right ih

lemma prefix_toLineFeeds_iff : ['\n'] <+: toLineFeeds s ↔ ['\n'] <+: s ∨ ['\r', '\n'] <+: s := by
  fun_cases toLineFeeds s with
  | case1 => simp
  | case2 s => simp
  | case3 c s hne =>
    refine ⟨fun hfeed => .inl (by simpa using hfeed), ?_⟩
    rintro (hfeed | ⟨rest, hrest⟩)
    · simpa using hfeed
    · obtain ⟨rfl, rfl⟩ := List.cons.inj hrest
      exact absurd rfl (hne rest rfl)

lemma isBlankText_toLineFeeds (s : Text) : isBlankText (toLineFeeds s) = isBlankText s := by
  fun_induction toLineFeeds s with
  | case1 => rfl
  | case2 s ih => simpa [isBlankText, isBlank] using ih
  | case3 c s hne ih => simpa [isBlankText] using congrArg (isBlank c && ·) ih

lemma toLineFeeds_eq_self (h : ¬ ['\r', '\n'] <:+: s) : toLineFeeds s = s := by
  fun_induction toLineFeeds s with
  | case1 => rfl
  | case2 s ih => exact absurd ⟨[], s, rfl⟩ h
  | case3 c s hne ih => rw [ih fun hoccurs => h (hoccurs.trans (List.suffix_cons c s).isInfix)]

/-- A carriage return is left in front of a line feed where there were two. -/
lemma standsBeforeInk_toLineFeeds_iff :
    StandsBeforeInk ['\r', '\n'] (toLineFeeds s) ↔ StandsBeforeInk ['\r', '\r', '\n'] s := by
  have hmark : isBlankText ['\n'] = true := by decide
  have hbreak : isBlankText ['\r', '\n'] = true := by decide
  fun_induction toLineFeeds s with
  | case1 => exact iff_of_false not_standsBeforeInk_nil not_standsBeforeInk_nil
  | case2 s ih =>
    rw [standsBeforeInk_cons_iff hmark, standsBeforeInk_cons_iff hbreak,
      standsBeforeInk_cons_iff hbreak]
    simpa using ih
  | case3 c s hne ih =>
    have hfeed : c = '\r' → ¬ ['\n'] <+: s := by
      rintro rfl ⟨rest, rfl⟩
      exact hne rest rfl rfl
    rw [standsBeforeInk_cons_iff hmark, standsBeforeInk_cons_iff hbreak, prefix_toLineFeeds_iff,
      isBlankText_toLineFeeds]
    refine or_congr (and_congr_right fun hc => and_congr_left fun _ => ?_) ih
    exact ⟨fun hstart => hstart.resolve_left (hfeed hc), .inr⟩

lemma infix_trimEnd_iff (hmark : isBlankText mark = true) (hne : mark ≠ []) :
    mark <:+: trimEnd s ↔ StandsBeforeInk mark s := by
  constructor
  · rintro ⟨front, back, heq⟩
    obtain ⟨gap, hgap, -⟩ := exists_eq_dropEndWhile_append isBlank s
    refine ⟨front, back ++ gap, ?_, ?_⟩
    · rw [← List.append_assoc, heq]
      exact hgap
    · -- Were the rest blank, nothing of it nor of the mark would be left.
      by_contra hback
      rw [Bool.not_eq_false, isBlankText, List.all_append, Bool.and_eq_true] at hback
      have hblank : ∀ c ∈ mark ++ back, isBlank c = true := by
        rw [← List.all_eq_true, List.all_append, Bool.and_eq_true]
        exact ⟨hmark, hback.1⟩
      have htrim : trimEnd (trimEnd s) = trimEnd front := by
        rw [← heq, List.append_assoc]
        exact dropEndWhile_append hblank
      have hlength := (List.rdropWhile_prefix isBlank front).length_le
      rw [trimEnd_trimEnd] at htrim
      rw [← dropEndWhile_eq_rdropWhile, ← trimEnd, ← htrim, ← heq] at hlength
      have hmark := List.length_pos_of_ne_nil hne
      simp only [List.length_append] at hlength
      omega
  · rintro ⟨front, back, rfl, hink⟩
    rw [trimEnd_append hink]
    exact ⟨front, trimEnd back, rfl⟩

/-! ### Blocks -/

/-- A block starts with a line break, and there is more to it than blanks. -/
def StartsBroken (block : Text) : Prop :=
  (['\n'] <+: block ∨ ['\r', '\n'] <+: block) ∧ isBlankText block = false

/-- What is to become of a block: its lines that are not empty, in their order and with line feeds
between them, up to the blanks at the end. -/
structure IsTidied (block result : Text) : Prop where
  filled : result = trimEnd (joinLines (filledLines (toLineFeeds block)))
  noReturn : ¬ ['\r', '\n'] <:+: result
  noEmptyLine : [] ∉ lines result
  stable : tidy result = result

lemma infix_tidy_iff : ['\r', '\n'] <:+: tidy block ↔ StandsBeforeInk ['\r', '\r', '\n'] block := by
  have hcollapse := apply_collapse (f := StandsBeforeInk ['\r', '\n'])
    (fun _ => propext standsBeforeInk_mergeLineFeeds_iff) (toLineFeeds block)
  rw [tidy, infix_trimEnd_iff (by decide) (by decide), hcollapse, standsBeforeInk_toLineFeeds_iff]

lemma tidy_eq_nil_iff : tidy block = [] ↔ isBlankText block = true := by
  rw [tidy, trimEnd_eq_nil_iff, apply_collapse isBlankText_mergeLineFeeds, isBlankText_toLineFeeds]

/-- Without adjacent line feeds a text is made of its lines, behind a line feed that it may start
with and in front of one that is trimmed off. -/
lemma trimEnd_eq_joinLines (hpairs : ¬ ['\n', '\n'] <:+: s) : trimEnd s =
    trimEnd ((if ['\n'] <+: s then ['\n'] else []) ++ joinLines (filledLines s)) := by
  have hlast : ∀ front last, last = [] ∨ last = ['\n'] →
      trimEnd (front ++ last) = trimEnd front := by
    rintro front last (rfl | rfl)
    · rw [List.append_nil]
    · exact dropEndWhile_append (List.forall_mem_singleton.mpr rfl)
  by_cases hfirst : ['\n'] <+: s
  · rw [if_pos hfirst]
    obtain ⟨rest, rfl⟩ := hfirst
    have htight : IsTight rest :=
      ⟨fun ⟨more, hmore⟩ => hpairs ⟨[], more, by rw [← hmore]; rfl⟩,
        fun hoccurs => hpairs (hoccurs.trans (List.suffix_cons _ rest).isInfix)⟩
    obtain ⟨last, hcases, hrest⟩ := htight.exists_eq_joinLines
    have hfilled : filledLines (['\n'] ++ rest) = filledLines rest :=
      filledLines_append_lineFeed [] rest
    rw [hfilled, ← hlast (['\n'] ++ joinLines (filledLines rest)) last hcases, List.append_assoc,
      ← hrest]
  · obtain ⟨last, hcases, hs⟩ := IsTight.exists_eq_joinLines ⟨hfirst, hpairs⟩
    rw [if_neg hfirst, List.nil_append, ← hlast (joinLines (filledLines s)) last hcases, ← hs]

/-- A line feed that a block starts with is kept, and otherwise the lines that are not empty. -/
lemma tidy_eq (block : Text) : tidy block =
    trimEnd ((if ['\n'] <+: toLineFeeds block then ['\n'] else []) ++
      joinLines (filledLines (toLineFeeds block))) := by
  rw [tidy, trimEnd_eq_joinLines (not_infix_collapse _), filledLines_collapse]
  simp only [prefix_collapse_iff]

lemma isBlankText_filledLines (block : Text) :
    isBlankText (joinLines (filledLines (toLineFeeds block))) = isBlankText block := by
  rw [Bool.eq_iff_iff, ← @tidy_eq_nil_iff block, tidy_eq, trimEnd_eq_nil_iff, isBlankText,
    isBlankText, List.all_append, Bool.and_eq_true, iff_and_self]
  split <;> simp [isBlank]

lemma isTight_tidy (h : ¬ StartsBroken block) : IsTight (tidy block) := by
  have hprefix : tidy block <+: collapse (toLineFeeds block) := List.rdropWhile_prefix isBlank _
  refine ⟨fun hfeed => h ?_, fun hoccurs =>
    not_infix_collapse _ (hoccurs.trans hprefix.isInfix)⟩
  refine ⟨prefix_toLineFeeds_iff.mp (prefix_collapse_iff.mp (hfeed.trans hprefix)), ?_⟩
  by_contra hblank
  rw [tidy_eq_nil_iff.mpr (by simpa using hblank)] at hfeed
  exact absurd hfeed (by simp)

lemma tidy_eq_of_not_startsBroken (h : ¬ StartsBroken block) :
    tidy block = trimEnd (joinLines (filledLines (toLineFeeds block))) := by
  cases hblank : isBlankText block with
  | true =>
    rw [tidy_eq_nil_iff.mpr hblank,
      trimEnd_eq_nil_iff.mpr (by rw [isBlankText_filledLines, hblank])]
  | false =>
    rw [tidy_eq, if_neg fun hfeed => h ⟨prefix_toLineFeeds_iff.mp hfeed, hblank⟩, List.nil_append]

/-- A text without CR LF, without adjacent line feeds and without blanks at its end is tidy. -/
lemma tidy_eq_self (hreturn : ¬ ['\r', '\n'] <:+: s) (hpairs : ¬ ['\n', '\n'] <:+: s)
    (htrim : trimEnd s = s) : tidy s = s := by
  obtain ⟨passes, hcollapse, -⟩ := exists_passes s
  rw [tidy, toLineFeeds_eq_self hreturn, hcollapse,
    Function.iterate_fixed (mergeLineFeeds_eq_self hpairs), htrim]

/-- The passes over a block come to an end, and leave the lines that are not empty, behind the line
feed that the block may start with. The block is tidied as it is to be exactly if it does not start
with a line break, or is blank, and no carriage return stands in front of a CR LF that anything but
blanks follows. -/
theorem isTidied_tidy_iff (block : Text) :
    (∃ passes, collapse (toLineFeeds block) = mergeLineFeeds^[passes] (toLineFeeds block) ∧
      ∀ done, occursIn ['\n', '\n'] (mergeLineFeeds^[done] (toLineFeeds block)) = true ↔
        done < passes) ∧
    tidy block = trimEnd ((if ['\n'] <+: toLineFeeds block then ['\n'] else []) ++
      joinLines (filledLines (toLineFeeds block))) ∧
    (IsTidied block (tidy block) ↔
      ¬ StartsBroken block ∧ ¬ StandsBeforeInk ['\r', '\r', '\n'] block) := by
  refine ⟨exists_passes _, tidy_eq block, fun htidied => ⟨?_, ?_⟩, ?_⟩
  · rintro ⟨hbreak, hink⟩
    have hfilled := htidied.filled
    rw [tidy_eq, if_pos (prefix_toLineFeeds_iff.mpr hbreak),
      trimEnd_append (by rw [isBlankText_filledLines, hink])] at hfilled
    exact List.cons_ne_self _ _ hfilled
  · rw [← infix_tidy_iff]
    exact htidied.noReturn
  · rintro ⟨hbroken, hreturns⟩
    have hreturn := infix_tidy_iff.not.mpr hreturns
    have htight := isTight_tidy hbroken
    refine ⟨tidy_eq_of_not_startsBroken hbroken, hreturn, ?_,
      tidy_eq_self hreturn htight.pairs (trimEnd_trimEnd _)⟩
    rw [htight.lines_eq hreturn, filledLines, List.mem_filter]
    simp

/-- A line feed that a block starts with stays, and so does the first of two carriage returns. -/
theorem line_breaks_not_tidied :
    tidy "\na".toList = "\na".toList ∧ ¬ IsTidied "\na".toList (tidy "\na".toList) ∧
      tidy "a\r\r\nb".toList = "a\r\nb".toList ∧
      ¬ IsTidied "a\r\r\nb".toList (tidy "a\r\r\nb".toList) := by
  have hbroken : tidy "\na".toList = "\na".toList := by
    rw [tidy, collapse, if_neg (by decide)]
    decide
  have hreturn : tidy "a\r\r\nb".toList = "a\r\nb".toList := by
    rw [tidy, collapse, if_neg (by decide)]
    decide
  refine ⟨hbroken, fun htidied => htidied.noEmptyLine ?_, hreturn, fun htidied =>
    htidied.noReturn ?_⟩
  · rw [hbroken]
    decide
  · rw [hreturn]
    decide

end ScriptAssist.Signature
