import ScriptAssist.Proofs.UsingDirectives
import ScriptAssist.Proofs.WrappedLines

/-!
# Parts of prologues

The prologue of a program is made of blank lines, line comments, block comments, preprocessor lines
and `using` directives, which may have a comment behind them. Wrapping goes by single lines, so it
takes neither block comments nor directives that are not regular for prologue. The class is opened
in front of the first such part, and everything from there on, also every `using` directive, gets
into the class.
-/

namespace ScriptAssist

open Text AutoClass

namespace Prologue

variable {s line first : Text} {more part code : List Text} {parts : List (List Text)}

/-- Whether `s` may stand behind a part on its line: nothing, or a line comment. -/
def IsCommentBehind (s : Text) : Prop :=
  s = [] ∨ ∃ gap comment, isBlankText gap = true ∧ '\n' ∉ comment ∧
    s = gap ++ '/' :: '/' :: comment

/-- Whether a line is a `using` directive, perhaps with a comment behind it. -/
def IsUsingLine (line : Text) : Prop :=
  ∃ (d : UsingDirective) (behind : Text), d.IsWellFormed ∧ IsCommentBehind behind ∧
    trim line = d.text ++ behind

/-- Whether lines, of which there is a first one, are a block comment, perhaps with a comment behind
it. It starts on the first line and ends on the last one. -/
structure IsBlockComment (first : Text) (more : List Text) : Prop where
  opens : ['/', '*'] <+: trim first
  closes : ∀ last, (first :: more).getLast? = some last → trim last ≠ []
  body : ∃ body behind, ¬ ['*', '/'] <:+: body ∧ IsCommentBehind behind ∧
    trim (first :: more).flatten = ['/', '*'] ++ body ++ ['*', '/'] ++ behind

/-- The parts a prologue may have, as whole lines. -/
inductive IsPart : List Text → Prop
  | blankLine (line : Text) (h : trim line = []) : IsPart [line]
  | lineComment (line : Text) (h : ['/', '/'] <+: trim line) : IsPart [line]
  | preprocessor (line : Text) (h : ['#'] <+: trim line) : IsPart [line]
  | directive (line : Text) (h : IsUsingLine line) : IsPart [line]
  | blockComment (first : Text) (more : List Text) (h : IsBlockComment first more) :
      IsPart (first :: more)

/-- Whether a script consists of the parts of a prologue and of lines behind them that start with
a line of code. -/
structure HasPrologue (s : Text) (parts : List (List Text)) (code : List Text) : Prop where
  lines : linesInclusive s = parts.flatten ++ code
  isPart : ∀ part ∈ parts, IsPart part
  code_ne_nil : code ≠ []
  code_starts : ∀ part, IsPart part → ¬ part <+: code

/-- Whether a line is a part of a prologue by itself: a blank line, a line comment, a preprocessor
line or a regular directive with nothing behind it. -/
def IsRegularLine (line : Text) : Prop :=
  trim line = [] ∨ ['/', '/'] <+: trim line ∨ ['#'] <+: trim line ∨
    ∃ d : UsingDirective, d.IsRegular ∧ trim line = d.text

def IsRegularPart (part : List Text) : Prop :=
  ∃ line, part = [line] ∧ IsRegularLine line

/-! ### Lines of a prologue -/

lemma isPrologueLine_iff : isPrologueLine line = true ↔ IsRegularLine line := by
  simp only [isPrologueLine, IsRegularLine, Bool.or_eq_true, List.isEmpty_iff, startsWith,
    List.isPrefixOf_iff_prefix, isUsingDirective_iff, or_assoc]

lemma IsRegularLine.isPart (h : IsRegularLine line) : IsPart [line] := by
  rcases h with hblank | hcomment | hpreprocessor | ⟨d, hd, htext⟩
  · exact .blankLine line hblank
  · exact .lineComment line hcomment
  · exact .preprocessor line hpreprocessor
  · exact .directive line ⟨d, [], hd.isWellFormed, .inl rfl, by rw [htext, List.append_nil]⟩

/-- How the first line of every part starts. -/
def StartsLikePart (line : Text) : Prop :=
  trim line = [] ∨ ∃ start ∈ ["//".toList, "#".toList, "/*".toList, "using".toList,
    "global".toList], start <+: trim line

instance (line : Text) : Decidable (StartsLikePart line) :=
  inferInstanceAs (Decidable (_ ∨ ∃ start ∈ _, start <+: trim line))

lemma IsPart.exists_first (h : IsPart part) :
    ∃ first more, part = first :: more ∧ StartsLikePart first := by
  cases h with
  | blankLine line h => exact ⟨line, [], rfl, .inl h⟩
  | lineComment line h => exact ⟨line, [], rfl, .inr ⟨_, by simp, h⟩⟩
  | preprocessor line h => exact ⟨line, [], rfl, .inr ⟨_, by simp, h⟩⟩
  | directive line h =>
    obtain ⟨d, behind, hd, -, htext⟩ := h
    have hbehind := List.prefix_append d.text behind
    rw [← htext] at hbehind
    rcases hd.prefix_text with hstart | hstart
    · exact ⟨line, [], rfl, .inr ⟨_, by simp, hstart.trans hbehind⟩⟩
    · exact ⟨line, [], rfl, .inr ⟨_, by simp, hstart.trans hbehind⟩⟩
  | blockComment first more h => exact ⟨first, more, rfl, .inr ⟨_, by simp, h.opens⟩⟩

lemma not_isPart_prefix (hline : ¬ StartsLikePart line) (rest : List Text) :
    ∀ part, IsPart part → ¬ part <+: line :: rest := by
  intro part hpart hprefix
  obtain ⟨first, more, rfl, hfirst⟩ := hpart.exists_first
  rw [(List.cons_prefix_cons.mp hprefix).1] at hfirst
  exact hline hfirst

lemma IsBlockComment.isPrologueLine_first (h : IsBlockComment first more) :
    isPrologueLine first = false := by
  obtain ⟨rest, hrest⟩ := h.opens
  rw [isPrologueLine, ← hrest]
  rfl

lemma IsPart.isPrologueLine_first (h : IsPart (first :: more))
    (hpart : ¬ IsRegularPart (first :: more)) : isPrologueLine first = false := by
  cases h with
  | blockComment _ _ h => exact h.isPrologueLine_first
  | _ =>
    rw [← Bool.not_eq_true, isPrologueLine_iff]
    exact fun hregular => hpart ⟨first, rfl, hregular⟩

/-- No block comment is regular, and no directive with a comment behind it. -/
theorem not_isRegularPart_of_comment :
    (∀ first more, IsBlockComment first more → ¬ IsRegularPart (first :: more)) ∧
      ∀ line (d : UsingDirective) gap comment, d.IsWellFormed →
        trim line = d.text ++ (gap ++ '/' :: '/' :: comment) → ¬ IsRegularPart [line] := by
  constructor
  · rintro first more h ⟨line, heq, hregular⟩
    have hfirst := h.isPrologueLine_first
    rw [(List.cons.inj heq).1, isPrologueLine_iff.mpr hregular] at hfirst
    exact absurd hfirst (by decide)
  · rintro line d gap comment hd htext ⟨_, ⟨⟩, hregular⟩
    have hstart : "using".toList <+: trim line ∨ "global".toList <+: trim line := by
      rw [htext]
      exact hd.prefix_text.imp (fun h => h.trans (List.prefix_append _ _))
        (fun h => h.trans (List.prefix_append _ _))
    rcases hregular with hblank | hcomment | hpreprocessor | ⟨d', hd', htext'⟩
    · rw [hblank] at hstart
      exact absurd hstart (by decide)
    · obtain ⟨rest, hrest⟩ := hcomment
      rw [← hrest] at hstart
      simp at hstart
    · obtain ⟨rest, hrest⟩ := hpreprocessor
      rw [← hrest] at hstart
      simp at hstart
    · apply hd'.slash_notMem_text
      rw [← htext', htext]
      simp

/-- Parts are regular up to a first one that is not. -/
lemma regular_or_exists_first (parts : List (List Text)) :
    (∀ part ∈ parts, IsRegularPart part) ∨
      ∃ outside part inside, parts = outside ++ part :: inside ∧
        (∀ part ∈ outside, IsRegularPart part) ∧ ¬ IsRegularPart part := by
  induction parts with
  | nil => exact .inl (by simp)
  | cons part parts ih =>
    by_cases hpart : IsRegularPart part
    · rcases ih with hall | ⟨outside, other, inside, rfl, houtside, hother⟩
      · exact .inl (List.forall_mem_cons.mpr ⟨hpart, hall⟩)
      · exact .inr ⟨part :: outside, other, inside, rfl,
          List.forall_mem_cons.mpr ⟨hpart, houtside⟩, hother⟩
    · exact .inr ⟨[], part, parts, rfl, by simp, hpart⟩

namespace HasPrologue

lemma isPrologueLine_code (h : HasPrologue s parts code) :
    ∀ line, code.head? = some line → isPrologueLine line = false := by
  intro line hline
  rw [← Bool.not_eq_true, isPrologueLine_iff]
  intro hregular
  refine h.code_starts [line] hregular.isPart ?_
  obtain ⟨rest, hrest⟩ := List.head?_eq_some_iff.mp hline
  exact ⟨rest, hrest.symm⟩

/-- The prologue that wrapping sees ends where parts stop being regular. -/
lemma split_eq {outside inside : List (List Text)} (h : HasPrologue s parts code)
    (hparts : parts = outside ++ inside) (houtside : ∀ part ∈ outside, IsRegularPart part)
    (hinside : ∀ part, inside.head? = some part → ¬ IsRegularPart part) :
    split s = (outside.flatten.flatten, (inside.flatten ++ code).flatten) := by
  have hfront : ∀ line ∈ outside.flatten, isPrologueLine line = true := by
    intro line hline
    obtain ⟨part, hpart, hmem⟩ := List.mem_flatten.mp hline
    obtain ⟨_, rfl, hregular⟩ := houtside part hpart
    obtain rfl := List.mem_singleton.mp hmem
    exact isPrologueLine_iff.mpr hregular
  have hback : ∀ line, (inside.flatten ++ code).head? = some line →
      isPrologueLine line = false := by
    intro line hline
    cases inside with
    | nil => exact h.isPrologueLine_code line hline
    | cons part inside =>
      have hpart := h.isPart part (by simp [hparts])
      obtain ⟨first, more, rfl, -⟩ := hpart.exists_first
      cases hline
      exact hpart.isPrologueLine_first (hinside _ rfl)
  obtain ⟨htake, hdrop⟩ := span_append hfront hback
  have hlines : linesInclusive s = outside.flatten ++ (inside.flatten ++ code) := by
    rw [h.lines, hparts, List.flatten_append, List.append_assoc]
  rw [Prologue.split_eq, hlines, htake, hdrop]

end HasPrologue

end Prologue

namespace AutoClass

open Prologue

variable {s : Text} {code : List Text} {parts outside inside : List (List Text)}

/-- A script with its class opened between two groups of its lines. -/
def openedBetween (s : Text) (before behind : List Text) : Text :=
  before.flatten ++ opening s ++ behind.flatten ++ closing s

/-- The class is opened behind the regular parts that a prologue starts with. -/
lemma exists_wrap_openedBetween (h : HasPrologue s parts code) (hmarker : ¬ marker <:+: s)
    (htype : Declaration.declaresType s = false) (hparts : parts = outside ++ inside)
    (houtside : ∀ part ∈ outside, IsRegularPart part)
    (hinside : ∀ part, inside.head? = some part → ¬ IsRegularPart part) {caret : UInt64}
    (hroom : HasRoom s caret) :
    ∃ moved,
      wrap s caret = .wrapped (openedBetween s outside.flatten (inside.flatten ++ code)) moved := by
  have hsplit := h.split_eq hparts houtside hinside
  have hcode : (Prologue.split s).2 ≠ [] := by
    rw [hsplit]
    intro hnil
    obtain ⟨line, rest, rfl⟩ := List.exists_cons_of_ne_nil h.code_ne_nil
    have hline : line = [] := List.flatten_eq_nil_iff.mp hnil line (by simp)
    have hfirst := h.isPrologueLine_code line rfl
    rw [hline] at hfirst
    exact absurd hfirst (by decide)
  have hwrap := exists_wrap_of_hasRoom ⟨hmarker, htype, hcode⟩ hroom
  rwa [hsplit] at hwrap

/-- A class opened before a part is not opened behind it: the line that opens it has the marker,
and the lines of the script lack it. -/
lemma openedBetween_ne {part : List Text}
    (h : HasPrologue s (outside ++ part :: inside) code) (hmarker : ¬ marker <:+: s) :
    openedBetween s outside.flatten ((part :: inside).flatten ++ code) ≠
      openedBetween s (outside ++ part :: inside).flatten code := by
  intro heq
  obtain ⟨rest, hrest⟩ : ∃ rest, rest = (part :: inside).flatten := ⟨_, rfl⟩
  have hlines : linesInclusive s = outside.flatten ++ (rest ++ code) := by
    rw [h.lines, List.flatten_append, List.append_assoc, hrest]
  have hswap : opening s ++ rest.flatten = rest.flatten ++ opening s := by
    simp only [openedBetween, List.flatten_append, ← hrest, List.append_assoc,
      List.append_cancel_left_eq] at heq
    simpa only [← List.append_assoc, List.append_cancel_right_eq] using heq
  have hopening : linesInclusive (opening s) = [opening s] :=
    linesInclusive_append_lineBreak (lineFeed_notMem_header _) s
  have hwhole : IsWhole (opening s) := isWhole_append_lineBreak _ s
  have hrestLines := (linesInclusive_flatten hlines).2
  have hrestWhole := isWhole_flatten hrestLines h.code_ne_nil
  obtain ⟨first, more, hfirst, -⟩ := (h.isPart part (by simp)).exists_first
  have hswapLines := congrArg linesInclusive hswap
  rw [hwhole.linesInclusive_append, hrestWhole.linesInclusive_append, hopening,
    (linesInclusive_flatten hrestLines).1, hrest, List.flatten_cons, hfirst] at hswapLines
  have hsame : opening s = first := (List.cons.inj hswapLines).1
  have hmem : first ∈ linesInclusive s := by rw [hlines, hrest, List.flatten_cons, hfirst]; simp
  apply hmarker
  rw [← flatten_linesInclusive s]
  have hline : marker <:+: first := by
    rw [← hsame, opening_eq]
    exact ⟨_, lineBreak s, by rw [List.append_assoc]⟩
  exact hline.trans (List.infix_of_mem_flatten hmem)

/-- Where the caret has room, the class is opened directly before the first line of code exactly if
all parts of the prologue are regular. Else it is opened before the first part that is not, and all
parts from there on get into the class. -/
theorem opened_before_code_iff (h : HasPrologue s parts code) (hmarker : ¬ marker <:+: s)
    (htype : Declaration.declaresType s = false) {caret : UInt64} (hroom : HasRoom s caret) :
    ((∃ moved, wrap s caret = .wrapped (openedBetween s parts.flatten code) moved) ↔
        ∀ part ∈ parts, IsRegularPart part) ∧
      ∀ outside part inside, parts = outside ++ part :: inside →
        (∀ part ∈ outside, IsRegularPart part) → ¬ IsRegularPart part →
          ∃ moved, wrap s caret = .wrapped
            (openedBetween s outside.flatten ((part :: inside).flatten ++ code)) moved := by
  have hbefore : ∀ outside part inside, parts = outside ++ part :: inside →
      (∀ part ∈ outside, IsRegularPart part) → ¬ IsRegularPart part →
        ∃ moved, wrap s caret =
          .wrapped (openedBetween s outside.flatten ((part :: inside).flatten ++ code)) moved :=
    fun outside part inside hparts houtside hpart =>
      exists_wrap_openedBetween h hmarker htype hparts houtside (by rintro _ ⟨⟩; exact hpart) hroom
  refine ⟨⟨?_, ?_⟩, hbefore⟩
  · rintro ⟨moved, hwrap⟩
    rcases regular_or_exists_first parts with hall |
      ⟨outside, part, inside, rfl, houtside, hpart⟩
    · exact hall
    · obtain ⟨moved', hwrap'⟩ := hbefore outside part inside rfl houtside hpart
      rw [hwrap, Wrapping.wrapped.injEq] at hwrap'
      exact absurd hwrap'.1.symm (openedBetween_ne h hmarker)
  · intro hall
    have hwrap := exists_wrap_openedBetween h hmarker htype (List.append_nil parts).symm hall
      (by simp) hroom
    exact hwrap

def directiveScript : Text :=
  "// tool\nusing static System.Math;\n\nusing A = System.Int32;\nf();\n".toList

theorem opened_before_code_iff_directiveScript :
    HasPrologue directiveScript [["// tool\n".toList], ["using static System.Math;\n".toList],
        ["\n".toList], ["using A = System.Int32;\n".toList]] ["f();\n".toList] ∧
      ¬ marker <:+: directiveScript ∧ Declaration.declaresType directiveScript = false ∧
      HasRoom directiveScript 0 ∧
      ∃ moved, wrap directiveScript 0 = .wrapped (openedBetween directiveScript
        ["// tool\n".toList, "using static System.Math;\n".toList, "\n".toList,
          "using A = System.Int32;\n".toList] ["f();\n".toList]) moved := by
  have hregular : ∀ part ∈ [["// tool\n".toList], ["using static System.Math;\n".toList],
      ["\n".toList], ["using A = System.Int32;\n".toList]], IsRegularPart part := by
    simp only [List.forall_mem_cons, List.not_mem_nil, false_implies, implies_true, and_true]
    refine ⟨⟨_, rfl, ?_⟩, ⟨_, rfl, ?_⟩, ⟨_, rfl, ?_⟩, ⟨_, rfl, ?_⟩⟩ <;>
      exact isPrologueLine_iff.mp (by decide +kernel)
  have hprologue : HasPrologue directiveScript [["// tool\n".toList],
      ["using static System.Math;\n".toList], ["\n".toList],
      ["using A = System.Int32;\n".toList]] ["f();\n".toList] := by
    refine ⟨by decide +kernel, fun part hpart => ?_, by simp,
      not_isPart_prefix (by decide +kernel) []⟩
    obtain ⟨line, rfl, hline⟩ := hregular part hpart
    exact hline.isPart
  have hmarker : ¬ marker <:+: directiveScript := by
    rw [← occursIn_iff_isInfix]
    decide +kernel
  have htype : Declaration.declaresType directiveScript = false := by decide +kernel
  have hroom : HasRoom directiveScript 0 := hasRoom_of_le (by decide)
  exact ⟨hprologue, hmarker, htype, hroom,
    (opened_before_code_iff hprologue hmarker htype hroom).1.mpr hregular⟩

def commentedScript : Text :=
  "/* a */\nusing A; // b\nusing B;\nf();\n".toList

/-- The class is opened before everything, with all `using` directives in it. -/
theorem opened_before_prologue :
    HasPrologue commentedScript [["/* a */\n".toList], ["using A; // b\n".toList],
        ["using B;\n".toList]] ["f();\n".toList] ∧
      ¬ marker <:+: commentedScript ∧ Declaration.declaresType commentedScript = false ∧
      wrap commentedScript 0 =
        .wrapped (openedBetween commentedScript [] (linesInclusive commentedScript)) 103 ∧
      ¬ ∃ moved, wrap commentedScript 0 = .wrapped (openedBetween commentedScript
        ["/* a */\n".toList, "using A; // b\n".toList, "using B;\n".toList]
        ["f();\n".toList]) moved := by
  have hblock : IsPart ["/* a */\n".toList] :=
    .blockComment _ [] ⟨by decide +kernel, by rintro last ⟨⟩; decide +kernel, " a ".toList, [],
      by decide +kernel, .inl rfl, by decide +kernel⟩
  have hcommented : IsPart ["using A; // b\n".toList] := by
    refine .directive _ ⟨⟨[("using".toList, [' '])], ['A'], [], none⟩, " // b".toList, ?_,
      .inr ⟨[' '], " b".toList, by decide, by decide, rfl⟩, by decide +kernel⟩
    exact ⟨⟨by decide, by decide⟩, by decide, by decide, by rintro c ⟨⟩; decide +kernel,
      List.forall_mem_singleton.mpr (by decide +kernel), by simp, by simp⟩
  have hdirective : IsPart ["using B;\n".toList] :=
    (isPrologueLine_iff.mp (by decide +kernel)).isPart
  have hwrap : wrap commentedScript 0 =
      .wrapped (openedBetween commentedScript [] (linesInclusive commentedScript)) 103 := by
    decide +kernel
  refine ⟨⟨by decide +kernel, ?_, by simp, not_isPart_prefix (by decide +kernel) []⟩, ?_,
    by decide +kernel, hwrap, ?_⟩
  · simp only [List.forall_mem_cons, List.not_mem_nil, false_implies, implies_true, and_true]
    exact ⟨hblock, hcommented, hdirective⟩
  · rw [← occursIn_iff_isInfix]
    decide +kernel
  · rintro ⟨moved, hwrap'⟩
    rw [hwrap, Wrapping.wrapped.injEq] at hwrap'
    exact absurd hwrap'.1 (by decide +kernel)

end AutoClass

end ScriptAssist
