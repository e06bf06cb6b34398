import Mathlib.Data.List.Forall2
import Mathlib.Data.List.Infix
import Mathlib.Tactic.MkIffOfInductiveProp
import ScriptAssist.Proofs.PrologueParts

/-!
# Contents of string literals

Wrapping looks at lines and words and recognises no literals. A quote still bounds what its tests
see: a line is prologue, or starts a type, by what stands in front of its first quote. Only the
count of open braces reads on. It takes a brace in a literal for one of the code, and a double slash
in a literal for a comment, so the contents of literals decide by that count and by nothing else.
-/

namespace ScriptAssist

open Text

/-! ### Texts up to a quote -/

namespace Text

lemma prefix_append_quote_iff {needle : Text} (hquote : '"' ∉ needle) (front rest : Text) :
    needle <+: front ++ '"' :: rest ↔ needle <+: front := by
  constructor
  · intro h
    have hstart : [] ++ needle <+: front ++ '"' :: rest := h
    rcases prefix_append_mark hquote hstart with hfront | ⟨_, hnil, -⟩
    · exact hfront
    · exact absurd hnil (by simp)
  · exact fun h => h.trans (List.prefix_append front _)

lemma isInfix_append_quote_iff {needle : Text} (hquote : '"' ∉ needle) (front rest : Text) :
    needle <:+: front ++ '"' :: rest ↔ needle <:+: front ∨ needle <:+: rest := by
  constructor
  · rintro ⟨before, behind, h⟩
    rcases prefix_append_mark hquote ⟨behind, h⟩ with hfront | ⟨back, -, hrest⟩
    · exact .inl ((List.suffix_append before needle).isInfix.trans hfront.isInfix)
    · exact .inr ((List.suffix_append back needle).isInfix.trans hrest.isInfix)
  · rintro (h | h)
    · exact h.trans (List.prefix_append front _).isInfix
    · exact h.trans ⟨front ++ ['"'], [], by simp⟩

lemma trim_append_quote (front rest : Text) :
    trim (front ++ '"' :: rest) = trimStart front ++ '"' :: trimEnd rest :=
  trim_append_mark (by decide) front rest

lemma exists_splitOnP_append_quote (front : Text) : ∃ before start, ∀ rest, ∃ stop more,
    (front ++ '"' :: rest).splitOnP isBlank = before ++ (start ++ '"' :: stop) :: more := by
  induction front with
  | nil =>
    refine ⟨[], [], fun rest => ?_⟩
    obtain ⟨first, more, hsplit⟩ := List.exists_cons_of_ne_nil (List.splitOnP_ne_nil isBlank rest)
    have hquote : isBlank '"' = false := by decide
    exact ⟨first, more, by simp [List.splitOnP_cons_eq_if_modifyHead, hquote, hsplit]⟩
  | cons c front ih =>
    obtain ⟨before, start, hrest⟩ := ih
    by_cases hc : isBlank c = true
    · refine ⟨[] :: before, start, fun rest => ?_⟩
      obtain ⟨stop, more, hsplit⟩ := hrest rest
      exact ⟨stop, more, by simp [List.splitOnP_cons_eq_if_modifyHead, hc, hsplit]⟩
    · -- the character goes into the first piece, which is that of the quote if none is before it
      cases before with
      | nil =>
        refine ⟨[], c :: start, fun rest => ?_⟩
        obtain ⟨stop, more, hsplit⟩ := hrest rest
        exact ⟨stop, more, by simp [List.splitOnP_cons_eq_if_modifyHead, hc, hsplit]⟩
      | cons first before =>
        refine ⟨(c :: first) :: before, start, fun rest => ?_⟩
        obtain ⟨stop, more, hsplit⟩ := hrest rest
        exact ⟨stop, more, by simp [List.splitOnP_cons_eq_if_modifyHead, hc, hsplit]⟩

/-- The words in front of the first quote, and the part of its own word in front of it, do not
depend on what follows. -/
lemma exists_words_append_quote (front : Text) : ∃ before start, ∀ rest, ∃ stop more,
    words (front ++ '"' :: rest) = before ++ (start ++ '"' :: stop) :: more := by
  obtain ⟨before, start, hpieces⟩ := exists_splitOnP_append_quote front
  refine ⟨before.filter fun word => !word.isEmpty, start, fun rest => ?_⟩
  obtain ⟨stop, more, hsplit⟩ := hpieces rest
  refine ⟨stop, more.filter fun word => !word.isEmpty, ?_⟩
  rw [words, hsplit, List.filter_append, List.filter_cons_of_pos (by simp)]

end Text

namespace Declaration

def wordsStartType (words : List Text) : Bool :=
  match words.dropWhile fun word => modifiers.contains word with
  | keyword :: (c :: _) :: _ => keywords.contains keyword && isWordChar c
  | _ => false

lemma startsType_eq (code : Text) : startsType code = wordsStartType (words code) := rfl

lemma wordsStartType_cons_of_contains {word : Text} (h : modifiers.contains word = true)
    (more : List Text) : wordsStartType (word :: more) = wordsStartType more := by
  rw [wordsStartType, List.dropWhile_cons_of_pos h, wordsStartType]

lemma wordsStartType_of_quote {word : Text} (h : '"' ∈ word) (more : List Text) :
    wordsStartType (word :: more) = false := by
  have hnone : ∀ list : List Text, (∀ other ∈ list, '"' ∉ other) → list.contains word = false := by
    intro list hlist
    rw [List.contains_eq_mem, decide_eq_false_iff_not]
    exact fun hmem => hlist word hmem h
  have hmodifier := hnone modifiers (by decide)
  have hkeyword := hnone keywords (by decide)
  rw [wordsStartType, List.dropWhile_cons_of_neg (by simpa using hmodifier)]
  split
  · next heq => rw [← (List.cons.inj heq).1, hkeyword, Bool.false_and]
  · rfl

lemma wordsStartType_append_quote (before : List Text) (start stop stop' : Text)
    (more more' : List Text) :
    wordsStartType (before ++ (start ++ '"' :: stop) :: more) =
      wordsStartType (before ++ (start ++ '"' :: stop') :: more') := by
  induction before with
  | nil =>
    rw [List.nil_append, List.nil_append, wordsStartType_of_quote (by simp),
      wordsStartType_of_quote (by simp)]
  | cons word before ih =>
    by_cases hword : modifiers.contains word = true
    · rw [List.cons_append, List.cons_append, wordsStartType_cons_of_contains hword,
        wordsStartType_cons_of_contains hword, ih]
    · rw [wordsStartType, wordsStartType, List.cons_append, List.cons_append,
        List.dropWhile_cons_of_neg hword, List.dropWhile_cons_of_neg hword]
      -- of the word behind the keyword only the first character is looked at
      cases before with
      | nil => cases start <;> rfl
      | cons second before => cases second <;> rfl

lemma startsType_append_quote (front rest rest' : Text) :
    startsType (front ++ '"' :: rest) = startsType (front ++ '"' :: rest') := by
  obtain ⟨before, start, hwords⟩ := exists_words_append_quote front
  obtain ⟨stop, more, hrest⟩ := hwords rest
  obtain ⟨stop', more', hrest'⟩ := hwords rest'
  rw [startsType_eq, startsType_eq, hrest, hrest', wordsStartType_append_quote]

lemma beforeComment_cons (c : Char) (s : Text) :
    beforeComment (c :: s) = if ['/', '/'] <+: c :: s then [] else c :: beforeComment s := by
  rw [beforeComment]
  split_ifs with h
  · obtain ⟨rest, hrest⟩ := h
    rw [← hrest, cutAt?_self_append]
  · have hafter : after? ['/', '/'] (c :: s) = none := by
      rw [Option.eq_none_iff_forall_ne_some]
      exact fun rest hrest => h ⟨rest, (after?_eq_some_iff.mp hrest).symm⟩
    rw [cutAt?_cons_of_after?_eq_none hafter, beforeComment]
    cases cutAt? ['/', '/'] s <;> rfl

lemma beforeComment_append_of_comment {front : Text} (h : ['/', '/'] <:+: front) (rest : Text) :
    beforeComment (front ++ '"' :: rest) = beforeComment front := by
  induction front with
  | nil => exact absurd (List.infix_nil.mp h) (by decide)
  | cons c front ih =>
    have hstart := prefix_append_quote_iff (show '"' ∉ ['/', '/'] by decide) (c :: front) rest
    rw [List.cons_append] at hstart ⊢
    rw [beforeComment_cons, beforeComment_cons, if_congr hstart rfl rfl]
    split_ifs with hcomment
    · rfl
    · rw [ih ((List.infix_cons_iff.mp h).resolve_left hcomment)]

lemma beforeComment_append_quote {front : Text} (h : ¬ ['/', '/'] <:+: front) (rest : Text) :
    beforeComment (front ++ '"' :: rest) = front ++ '"' :: beforeComment rest := by
  have hcut := cutAt?_append_mark (show '"' ∉ ['/', '/'] by decide) h rest
  rw [beforeComment, beforeComment, hcut]
  cases cutAt? ['/', '/'] rest <;> rfl

lemma braceBalance_append (s t : Text) :
    braceBalance (s ++ t) = braceBalance s + braceBalance t := by
  simp only [braceBalance, List.count_append, Int.natCast_add]
  omega

lemma braceBalance_quote (s : Text) : braceBalance ('"' :: s) = braceBalance s := by
  simp [braceBalance]

/-! ### The count of open braces -/

/-- How many braces are open behind the lines, when `depth` are open before. -/
def openBehind (depth : Int) (lines : List Text) : Int :=
  lines.foldl (fun depth line => depth + braceBalance (beforeComment line)) depth

/-- How many braces are counted open before a line of a script. -/
def openBefore (s : Text) (line : Nat) : Int :=
  openBehind 0 ((lines s).take line)

def StartsTypeOn (s : Text) (line : Nat) : Prop :=
  ∃ code, (lines s)[line]? = some code ∧ startsType (beforeComment code) = true

lemma declaresTypeAt_iff {depth : Int} {lines : List Text} :
    declaresTypeAt depth lines = true ↔ ∃ line : Nat,
      (∃ code, lines[line]? = some code ∧ startsType (beforeComment code) = true) ∧
        openBehind depth (lines.take line) = 0 := by
  induction lines generalizing depth with
  | nil => simp [declaresTypeAt]
  | cons first lines ih =>
    rw [declaresTypeAt, Bool.or_eq_true, ih, Bool.and_eq_true, decide_eq_true_eq]
    constructor
    · rintro (⟨hdepth, hstarts⟩ | ⟨line, hstarts, hopen⟩)
      · exact ⟨0, ⟨first, rfl, hstarts⟩, hdepth⟩
      · exact ⟨line + 1, hstarts, hopen⟩
    · rintro ⟨line, ⟨code, hcode, hstarts⟩, hopen⟩
      cases line with
      | zero =>
        obtain rfl := Option.some.inj hcode
        exact .inl ⟨hopen, hstarts⟩
      | succ line => exact .inr ⟨line, ⟨code, hcode, hstarts⟩, hopen⟩

/-- A script declares a type if some line starts one while no brace is counted open. -/
lemma declaresType_iff {s : Text} :
    declaresType s = true ↔ ∃ line, StartsTypeOn s line ∧ openBefore s line = 0 :=
  declaresTypeAt_iff

end Declaration

namespace Prologue

/-- A line is prologue, or not, by what stands in front of its first quote. -/
lemma isPrologueLine_append_quote (front rest rest' : Text) :
    isPrologueLine (front ++ '"' :: rest) = isPrologueLine (front ++ '"' :: rest') := by
  have hdirective : ∀ rest, isUsingDirective (trimStart front ++ '"' :: rest) = false := by
    intro rest
    rw [← Bool.not_eq_true, isUsingDirective_iff]
    rintro ⟨d, hd, htext⟩
    have hquote : '"' ∉ d.text := hd.notMem_text (by decide) (by decide) (by decide)
    rw [← htext] at hquote
    simp at hquote
  have hstart : ∀ start : Text, '"' ∉ start → ∀ rest,
      startsWith start (trimStart front ++ '"' :: rest) = startsWith start (trimStart front) := by
    intro start hquote rest
    rw [Bool.eq_iff_iff, startsWith, startsWith, List.isPrefixOf_iff_prefix,
      List.isPrefixOf_iff_prefix, prefix_append_quote_iff hquote]
  have hempty : ∀ rest : Text, (trimStart front ++ '"' :: rest).isEmpty = false := by
    intro rest
    rw [List.isEmpty_eq_false_iff]
    exact List.append_ne_nil_of_right_ne_nil _ (List.cons_ne_nil _ _)
  simp only [isPrologueLine, trim_append_quote, hempty, hdirective, hstart ['/', '/'] (by decide),
    hstart ['#'] (by decide)]

lemma code_eq_nil_iff {s : Text} :
    (split s).2 = [] ↔ ∀ line ∈ linesInclusive s, isPrologueLine line = true := by
  rw [split_eq]
  dsimp only
  rw [← List.dropWhile_eq_nil_iff]
  constructor
  · intro hflat
    by_contra hne
    obtain ⟨line, rest, hlines⟩ := List.exists_cons_of_ne_nil hne
    have hline : line = [] := List.flatten_eq_nil_iff.mp hflat line (by simp [hlines])
    have hfirst := List.head?_dropWhile_not isPrologueLine (linesInclusive s)
    rw [hlines, List.head?_cons, hline] at hfirst
    exact absurd hfirst (by decide)
  · intro hnil
    rw [hnil, List.flatten_nil]

end Prologue

/-! ### Scripts with different literals -/

namespace AutoClass

open Declaration

/-- What may stand in a literal on one line that has no escapes and not the marker. -/
@[mk_iff]
structure IsContent (content : Text) : Prop where
  quote : '"' ∉ content
  backslash : '\\' ∉ content
  lineFeed : '\n' ∉ content
  carriageReturn : '\r' ∉ content
  marker : ¬ AutoClass.marker <:+: content

instance (content : Text) : Decidable (IsContent content) :=
  decidable_of_iff' _ (isContent_iff content)

/-- Whether two contents have no double slash and open as many braces more than they close. -/
@[mk_iff]
structure SameBraces (a b : Text) : Prop where
  noComment : ¬ ['/', '/'] <:+: a
  noComment' : ¬ ['/', '/'] <:+: b
  balance : braceBalance a = braceBalance b

instance (a b : Text) : Decidable (SameBraces a b) :=
  decidable_of_iff' _ (sameBraces_iff a b)

/-- A literal in its quotes, and what follows it. -/
def quoted (content rest : Text) : Text :=
  '"' :: (content ++ '"' :: rest)

/-- Two texts that differ in the contents of literals only, where `R` holds of the contents that
take each other's place. -/
inductive DifferInLiterals (R : Text → Text → Prop) : Text → Text → Prop where
  | nil : DifferInLiterals R [] []
  | cons (c : Char) {s t : Text} : DifferInLiterals R s t → DifferInLiterals R (c :: s) (c :: t)
  | literal {a b s t : Text} : IsContent a → IsContent b → R a b → DifferInLiterals R s t →
      DifferInLiterals R (quoted a s) (quoted b t)

section Quoted

variable {content : Text} (rest : Text)

lemma marker_infix_quoted_iff (h : IsContent content) :
    marker <:+: quoted content rest ↔ marker <:+: rest := by
  have hquote : '"' ∉ marker := by decide
  have hempty : ¬ marker <:+: [] := by rw [List.infix_nil]; decide
  rw [quoted, ← List.nil_append ('"' :: (content ++ '"' :: rest)),
    isInfix_append_quote_iff hquote, isInfix_append_quote_iff hquote]
  simp only [hempty, h.marker, false_or]

lemma linesInclusive_quoted (h : IsContent content) : linesInclusive (quoted content rest) =
    quoted content ((linesInclusive rest).headD []) :: (linesInclusive rest).tail := by
  have hfront : '\n' ∉ '"' :: (content ++ ['"']) := by simp [h.lineFeed]
  have hsplit := linesInclusive_append_of_notMem hfront (List.cons_ne_nil _ _) rest
  simpa [quoted] using hsplit

lemma getLast?_quoted (content rest : Text) :
    (quoted content rest).getLast? = some (rest.getLast?.getD '"') := by
  rw [quoted, ← List.cons_append, List.getLast?_append_cons, List.getLast?_cons]

lemma dropLast_quoted (content : Text) {rest : Text} (h : rest ≠ []) :
    (quoted content rest).dropLast = quoted content rest.dropLast := by
  rw [quoted, List.dropLast_cons_of_ne_nil (by simp), List.dropLast_append_of_ne_nil (by simp),
    List.dropLast_cons_of_ne_nil h, quoted]

lemma braceBalance_beforeComment_quoted (h : ¬ ['/', '/'] <:+: content) :
    braceBalance (beforeComment (quoted content rest)) =
      braceBalance content + braceBalance (beforeComment rest) := by
  have hempty : ¬ ['/', '/'] <:+: ([] : Text) := by rw [List.infix_nil]; decide
  rw [quoted, ← List.nil_append ('"' :: (content ++ '"' :: rest)),
    beforeComment_append_quote hempty, List.nil_append, beforeComment_append_quote h,
    braceBalance_quote, braceBalance_append, braceBalance_quote]

end Quoted

variable {R : Text → Text → Prop} {s t : Text}

namespace DifferInLiterals

lemma refl (s : Text) : DifferInLiterals R s s := by
  induction s with
  | nil => exact .nil
  | cons c s ih => exact .cons c ih

lemma append_left (front : Text) (h : DifferInLiterals R s t) :
    DifferInLiterals R (front ++ s) (front ++ t) := by
  induction front with
  | nil => exact h
  | cons c front ih => exact .cons c ih

lemma eq_nil_iff (h : DifferInLiterals R s t) : s = [] ↔ t = [] := by
  cases h <;> simp [quoted]

/-- Texts that differ in literals are the same up to a quote. -/
lemma eq_or_exists_quote (h : DifferInLiterals R s t) :
    s = t ∨ ∃ front rest rest', s = front ++ '"' :: rest ∧ t = front ++ '"' :: rest' := by
  induction h with
  | nil => exact .inl rfl
  | cons c h ih =>
    rcases ih with rfl | ⟨front, rest, rest', rfl, rfl⟩
    · exact .inl rfl
    · exact .inr ⟨c :: front, rest, rest', rfl, rfl⟩
  | literal ha hb hab h ih => exact .inr ⟨[], _, _, rfl, rfl⟩

lemma prefix_iff (h : DifferInLiterals R s t) {needle : Text} (hquote : '"' ∉ needle) :
    needle <+: s ↔ needle <+: t := by
  rcases h.eq_or_exists_quote with rfl | ⟨front, rest, rest', rfl, rfl⟩
  · rfl
  · rw [prefix_append_quote_iff hquote, prefix_append_quote_iff hquote]

lemma marker_iff (h : DifferInLiterals R s t) : marker <:+: s ↔ marker <:+: t := by
  induction h with
  | nil => rfl
  | cons c h ih =>
    rw [List.infix_cons_iff, List.infix_cons_iff]
    exact or_congr ((h.cons c).prefix_iff (by decide)) ih
  | literal ha hb hab h ih =>
    exact (marker_infix_quoted_iff _ ha).trans (ih.trans (marker_infix_quoted_iff _ hb).symm)

/-! ### Lines -/

lemma forall₂_linesInclusive (h : DifferInLiterals R s t) :
    List.Forall₂ (DifferInLiterals R) (linesInclusive s) (linesInclusive t) := by
  have hfirst : ∀ {lines lines' : List Text}, List.Forall₂ (DifferInLiterals R) lines lines' →
      DifferInLiterals R (lines.headD []) (lines'.headD []) ∧
        List.Forall₂ (DifferInLiterals R) lines.tail lines'.tail := by
    rintro _ _ (_ | ⟨hline, hrest⟩)
    · exact ⟨.nil, .nil⟩
    · exact ⟨hline, hrest⟩
  induction h with
  | nil => exact .nil
  | @cons c s t h ih =>
    by_cases hc : c = '\n'
    · rw [hc, linesInclusive, linesInclusive]
      exact .cons (refl _) ih
    · obtain ⟨hline, hrest⟩ := hfirst ih
      have hfront : '\n' ∉ [c] := by simpa using Ne.symm hc
      have hsplit := linesInclusive_append_of_notMem hfront (List.cons_ne_nil c [])
      change List.Forall₂ (DifferInLiterals R) (linesInclusive ([c] ++ s))
        (linesInclusive ([c] ++ t))
      rw [hsplit, hsplit]
      exact .cons (hline.cons c) hrest
  | literal ha hb hab h ih =>
    obtain ⟨hline, hrest⟩ := hfirst ih
    rw [linesInclusive_quoted _ ha, linesInclusive_quoted _ hb]
    exact .cons (.literal ha hb hab hline) hrest

lemma getLast?_eq (h : DifferInLiterals R s t) : s.getLast? = t.getLast? := by
  induction h with
  | nil => rfl
  | cons c h ih => rw [List.getLast?_cons, List.getLast?_cons, ih]
  | literal ha hb hab h ih => rw [getLast?_quoted, getLast?_quoted, ih]

lemma dropLast (h : DifferInLiterals R s t) (hlast : s.getLast? ≠ some '"') :
    DifferInLiterals R s.dropLast t.dropLast := by
  induction h with
  | nil => exact .nil
  | @cons c s t h ih =>
    by_cases hs : s = []
    · rw [hs, h.eq_nil_iff.mp hs]
      exact .nil
    · have ht : t ≠ [] := mt h.eq_nil_iff.mpr hs
      rw [List.getLast?_cons_of_ne_nil hs] at hlast
      rw [List.dropLast_cons_of_ne_nil hs, List.dropLast_cons_of_ne_nil ht]
      exact .cons c (ih hlast)
  | @literal a b s t ha hb hab h ih =>
    have hrest : s.getLast? ≠ some '"' := by
      intro heq
      rw [getLast?_quoted, heq] at hlast
      exact hlast rfl
    have hs : s ≠ [] := by
      rintro rfl
      exact hlast (getLast?_quoted a [])
    rw [dropLast_quoted a hs, dropLast_quoted b (mt h.eq_nil_iff.mpr hs)]
    exact .literal ha hb hab (ih hrest)

lemma dropLineBreak (h : DifferInLiterals R s t) :
    DifferInLiterals R (Text.dropLineBreak s) (Text.dropLineBreak t) := by
  rw [dropLineBreak_eq, dropLineBreak_eq, ← h.getLast?_eq]
  by_cases hfeed : s.getLast? = some '\n'
  · have hopen := h.dropLast (by rw [hfeed]; decide)
    rw [if_pos hfeed, if_pos hfeed, ← hopen.getLast?_eq]
    by_cases hreturn : s.dropLast.getLast? = some '\r'
    · rw [if_pos hreturn, if_pos hreturn]
      exact hopen.dropLast (by rw [hreturn]; decide)
    · rw [if_neg hreturn, if_neg hreturn]
      exact hopen
  · rw [if_neg hfeed, if_neg hfeed]
    exact h

lemma forall₂_lines (h : DifferInLiterals R s t) :
    List.Forall₂ (DifferInLiterals R) (lines s) (lines t) := by
  rw [lines, lines, List.forall₂_map_left_iff, List.forall₂_map_right_iff]
  exact h.forall₂_linesInclusive.imp fun _ _ hline => hline.dropLineBreak

lemma map_eq_of_forall₂ {α : Type*} {f : Text → α} {lines lines' : List Text}
    (h : List.Forall₂ (DifferInLiterals R) lines lines')
    (hf : ∀ {line line'}, DifferInLiterals R line line' → f line = f line') :
    lines.map f = lines'.map f := by
  rw [← List.forall₂_eq_eq_eq, List.forall₂_map_left_iff, List.forall₂_map_right_iff]
  exact h.imp fun _ _ => hf

lemma isPrologueLine_eq (h : DifferInLiterals R s t) :
    Prologue.isPrologueLine s = Prologue.isPrologueLine t := by
  rcases h.eq_or_exists_quote with rfl | ⟨front, rest, rest', rfl, rfl⟩
  · rfl
  · exact Prologue.isPrologueLine_append_quote front rest rest'

lemma code_eq_nil_iff (h : DifferInLiterals R s t) :
    (Prologue.split s).2 = [] ↔ (Prologue.split t).2 = [] := by
  have hlines := map_eq_of_forall₂ h.forall₂_linesInclusive fun hline => hline.isPrologueLine_eq
  have hall : ∀ s : Text, (Prologue.split s).2 = [] ↔
      ∀ isPrologue ∈ (linesInclusive s).map Prologue.isPrologueLine, isPrologue = true := by
    intro s
    rw [Prologue.code_eq_nil_iff, List.forall_mem_map]
  rw [hall s, hall t, hlines]

lemma startsType_beforeComment_eq (h : DifferInLiterals R s t) :
    startsType (beforeComment s) = startsType (beforeComment t) := by
  rcases h.eq_or_exists_quote with rfl | ⟨front, rest, rest', rfl, rfl⟩
  · rfl
  · by_cases hcomment : ['/', '/'] <:+: front
    · -- nothing from the quote on is left
      rw [beforeComment_append_of_comment hcomment, beforeComment_append_of_comment hcomment]
    · rw [beforeComment_append_quote hcomment, beforeComment_append_quote hcomment,
        startsType_append_quote]

lemma startsTypeOn_iff (h : DifferInLiterals R s t) (line : Nat) :
    StartsTypeOn s line ↔ StartsTypeOn t line := by
  have hlines := map_eq_of_forall₂ h.forall₂_lines fun hline => hline.startsType_beforeComment_eq
  have hmap : ∀ s : Text, StartsTypeOn s line ↔
      ((lines s).map fun code => startsType (beforeComment code))[line]? = some true := by
    intro s
    rw [StartsTypeOn, List.getElem?_map, Option.map_eq_some_iff]
  rw [hmap s, hmap t, hlines]

lemma braceBalance_beforeComment_eq (h : DifferInLiterals SameBraces s t) :
    braceBalance (beforeComment s) = braceBalance (beforeComment t) := by
  induction h with
  | nil => rfl
  | @cons c s t h ih =>
    have hcomment := (h.cons c).prefix_iff (show '"' ∉ ['/', '/'] by decide)
    -- no double slash reaches into a literal, so a comment starts at the same place in both
    rw [beforeComment_cons, beforeComment_cons, if_congr hcomment rfl rfl]
    split_ifs
    · rfl
    · rw [← List.singleton_append, braceBalance_append, ih, ← braceBalance_append,
        List.singleton_append]
  | literal ha hb hab h ih =>
    rw [braceBalance_beforeComment_quoted _ hab.noComment,
      braceBalance_beforeComment_quoted _ hab.noComment', hab.balance, ih]

lemma openBefore_eq (h : DifferInLiterals SameBraces s t) (line : Nat) :
    openBefore s line = openBefore t line := by
  have hlines := map_eq_of_forall₂ h.forall₂_lines
    fun hline => hline.braceBalance_beforeComment_eq
  have hmap : ∀ s : Text, openBefore s line =
      (((lines s).map fun code => braceBalance (beforeComment code)).take line).foldl
        (fun depth balance => depth + balance) 0 := by
    intro s
    rw [openBefore, openBehind, ← List.map_take, List.foldl_map]
  rw [hmap s, hmap t, hlines]

end DifferInLiterals

/-- Whether a line of the script starts a type where no brace is counted open. -/
def HasOuterType (s : Text) : Prop :=
  ∃ line, StartsTypeOn s line ∧ openBefore s line = 0

lemma accepts_iff :
    Accepts s ↔ ¬ marker <:+: s ∧ ¬ HasOuterType s ∧ (Prologue.split s).2 ≠ [] := by
  rw [Accepts, HasOuterType, ← declaresType_iff, Bool.not_eq_true]

/-- Of two scripts that differ in the contents of literals only, wrapping declines both or neither
exactly if both have an outer type or neither has, unless it declines both for another reason. They
start types on the same lines, so only the count of open braces can make the difference; it makes
none if the contents have no double slash and open as many braces more than they close. -/
theorem wrap_declines_iff_of_differInLiterals (h : DifferInLiterals (fun _ _ => True) s t)
    (caret caret' : UInt64) :
    ((wrap s caret = .declined ↔ wrap t caret' = .declined) ↔
        marker <:+: s ∨ (Prologue.split s).2 = [] ∨ (HasOuterType s ↔ HasOuterType t)) ∧
      (∀ line, StartsTypeOn s line ↔ StartsTypeOn t line) ∧
      (DifferInLiterals SameBraces s t →
        (wrap s caret = .declined ↔ wrap t caret' = .declined)) := by
  have hcode := h.code_eq_nil_iff
  have hmarker := h.marker_iff
  have hiff : (wrap s caret = .declined ↔ wrap t caret' = .declined) ↔
      marker <:+: s ∨ (Prologue.split s).2 = [] ∨ (HasOuterType s ↔ HasOuterType t) := by
    rw [wrap_eq_declined_iff, wrap_eq_declined_iff, accepts_iff, accepts_iff, ← hmarker, Ne, Ne,
      ← hcode]
    tauto
  refine ⟨hiff, h.startsTypeOn_iff, fun hbraces => hiff.mpr (.inr (.inr ?_))⟩
  rw [HasOuterType, HasOuterType]
  exact exists_congr fun line =>
    and_congr (h.startsTypeOn_iff line) (by rw [hbraces.openBefore_eq])

/-- A script with a literal on the line before a class. -/
def literalScript (content : Text) : Text :=
  "var s = ".toList ++ quoted content ";\nclass A \x7b \x7d\n".toList

lemma differInLiterals_literalScript {a b : Text} (ha : IsContent a) (hb : IsContent b)
    (hab : R a b) : DifferInLiterals R (literalScript a) (literalScript b) :=
  .append_left _ (.literal ha hb hab (.refl _))

theorem wrap_declines_iff_of_differInLiterals_literalScript :
    DifferInLiterals (fun _ _ => True) (literalScript "\x7b0\x7d".toList)
        (literalScript "hi".toList) ∧
      DifferInLiterals SameBraces (literalScript "\x7b0\x7d".toList)
        (literalScript "hi".toList) ∧
      (wrap (literalScript "\x7b0\x7d".toList) 0 = .declined ↔
        wrap (literalScript "hi".toList) 5 = .declined) := by
  have ha : IsContent "\x7b0\x7d".toList := by decide
  have hb : IsContent "hi".toList := by decide
  have hany := differInLiterals_literalScript (R := fun _ _ => True) ha hb trivial
  have hsame := differInLiterals_literalScript (R := SameBraces) ha hb (by decide)
  exact ⟨hany, hsame, (wrap_declines_iff_of_differInLiterals hany 0 5).2.2 hsame⟩

/-- An open brace in a literal hides the class behind it, in scripts without comments and
directives. -/
theorem brace_in_literal_hides_class :
    DifferInLiterals (fun _ _ => True) (literalScript ['\x7b']) (literalScript ['x']) ∧
      ('/' ∉ literalScript ['\x7b'] ∧ '#' ∉ literalScript ['\x7b']) ∧
      ('/' ∉ literalScript ['x'] ∧ '#' ∉ literalScript ['x']) ∧
      wrap (literalScript ['\x7b']) 0 ≠ .declined ∧ wrap (literalScript ['x']) 0 = .declined :=
  ⟨differInLiterals_literalScript (by decide) (by decide) trivial, by decide, by decide,
    by decide +kernel, by decide +kernel⟩

end AutoClass

end ScriptAssist
