import ScriptAssist.Proofs.TextLines
import ScriptAssist.Script.Prologue

/-!
# Using directives

A `using` directive consists of its keywords, of what it names and, if it is an alias, of what the
name is short for. Prologues know the regular ones among them: those of the keywords `using` and
`using static` whose names are plain, with nothing behind them.
-/

namespace ScriptAssist

open Text

namespace Text

variable {start gap s rest : Text}

def blankCodes : List Nat :=
  [9, 10, 11, 12, 13, 0x20, 0x85, 0xA0, 0x1680, 0x2000, 0x2001, 0x2002, 0x2003, 0x2004, 0x2005,
    0x2006, 0x2007, 0x2008, 0x2009, 0x200A, 0x2028, 0x2029, 0x202F, 0x205F, 0x3000]

lemma toNat_mem_blankCodes {c : Char} (h : isBlank c = true) : c.toNat ∈ blankCodes := by
  simp only [isBlank, Bool.or_eq_true, Bool.and_eq_true, decide_eq_true_eq] at h
  simp only [blankCodes, List.mem_cons, List.not_mem_nil, or_false]
  omega

lemma isWordChar_eq_false_of_isBlank {c : Char} (h : isBlank c = true) : isWordChar c = false := by
  have hall : ∀ n ∈ blankCodes, isWordChar (Char.ofNat n) = false := by decide +kernel
  rw [← Char.ofNat_toNat c]
  exact hall _ (toNat_mem_blankCodes h)

end Text

namespace Prologue

variable {c : Char} {s gap name keyword rest line : Text}

lemma isNameChar_eq_false_of_isBlank (h : isBlank c = true) : isNameChar c = false := by
  rw [isNameChar, isWordChar_eq_false_of_isBlank h, Bool.false_or, decide_eq_false_iff_not]
  rintro rfl
  exact absurd h (by decide)

/-- The only blank in what an alias is short for is the space. -/
lemma eq_space_of_isTargetChar (h : isTargetChar c = true) (hblank : isBlank c = true) :
    c = ' ' := by
  simp only [isTargetChar, isNameChar_eq_false_of_isBlank hblank, Bool.false_or, Bool.or_eq_true,
    decide_eq_true_eq] at h
  rcases h with ((rfl | rfl) | rfl) | rfl
  · exact absurd hblank (by decide)
  · exact absurd hblank (by decide)
  · exact absurd hblank (by decide)
  · rfl

/-! ### Directives by their parts -/

/-- A `using` directive: its keywords, each with the blanks behind it, what it names, with the
blanks behind that, and what an alias is short for. -/
structure UsingDirective where
  keywords : List (Text × Text)
  name : Text
  gap : Text
  target : Option Text

namespace UsingDirective

/-- The directive from its name on. -/
def named (d : UsingDirective) : Text :=
  d.name ++ (d.gap ++ (d.target.elim [] (fun target => '=' :: target) ++ [';']))

def text (d : UsingDirective) : Text :=
  (d.keywords.flatMap fun keyword => keyword.1 ++ keyword.2) ++ d.named

/-- Whether the keywords of a directive are one of the given choices, with blanks behind each. -/
structure IsSpelled (spellings : List (List Text)) (d : UsingDirective) : Prop where
  keywords_mem : d.keywords.map Prod.fst ∈ spellings
  gaps : ∀ keyword ∈ d.keywords, keyword.2 ≠ [] ∧ isBlankText keyword.2 = true

/-- Whether `c` may stand in an identifier, also in a verbatim or an escaped one. -/
def isIdentifierChar (c : Char) : Bool :=
  isNameChar c || c = '@' || c = '\\'

/-- Whether `c` may stand in a type: in names, type arguments, arrays, tuples and pointers. -/
def isTypeChar (c : Char) : Bool :=
  isIdentifierChar c || isBlank c || "<>,:[]()?*".toList.contains c

/-- The keywords a directive may have. -/
def spellings : List (List Text) :=
  [[], ["static".toList], ["unsafe".toList], ["static".toList, "unsafe".toList]].flatMap
    fun words => ["using".toList :: words, "global".toList :: "using".toList :: words]

def regularSpellings : List (List Text) :=
  [["using".toList], ["using".toList, "static".toList]]

/-- Whether a directive is one that a compiler takes for one by its form. What looks like an alias
but has more than an identifier before the equals sign declares a variable. -/
structure IsWellFormed (d : UsingDirective) : Prop extends IsSpelled spellings d where
  name_ne_nil : d.name ≠ []
  gap : isBlankText d.gap = true
  name_starts : ∀ c, d.name.head? = some c → isIdentifierChar c = true
  name_chars : ∀ c ∈ d.name, isTypeChar c = true
  alias_chars : d.target ≠ none → ∀ c ∈ d.name, isIdentifierChar c = true
  target_chars : ∀ target, d.target = some target →
    target ≠ [] ∧ ∀ c ∈ target, isTypeChar c = true

/-- What a regular alias may be short for, with blanks before it. -/
def IsRegularTarget (target : Text) : Prop :=
  ∃ gap type, target = gap ++ type ∧ isBlankText gap = true ∧ type ≠ [] ∧
    ∀ c ∈ type, isTargetChar c = true

/-- Whether what follows the keywords is a name of name characters and, for an alias, plain names
with their type arguments. -/
structure HasRegularName (d : UsingDirective) : Prop where
  name_ne_nil : d.name ≠ []
  name_chars : ∀ c ∈ d.name, isNameChar c = true
  gap : isBlankText d.gap = true
  target_chars : ∀ target, d.target = some target → IsRegularTarget target

/-- Whether a directive has a regular name behind `using` or `using static`. -/
structure IsRegular (d : UsingDirective) : Prop extends
  IsSpelled regularSpellings d, HasRegularName d

lemma HasRegularName.isRegular {d : UsingDirective} (h : d.HasRegularName)
    (keywords : List (Text × Text)) (hmem : keywords.map Prod.fst ∈ regularSpellings)
    (hgaps : ∀ keyword ∈ keywords, keyword.2 ≠ [] ∧ isBlankText keyword.2 = true) :
    IsRegular { d with keywords := keywords } :=
  ⟨⟨hmem, hgaps⟩, h.name_ne_nil, h.name_chars, h.gap, h.target_chars⟩

lemma isTypeChar_of_isNameChar (h : isNameChar c = true) : isTypeChar c = true := by
  simp [isTypeChar, isIdentifierChar, h]

lemma isTypeChar_of_isBlank (h : isBlank c = true) : isTypeChar c = true := by
  simp [isTypeChar, h]

lemma isTypeChar_of_isTargetChar (h : isTargetChar c = true) : isTypeChar c = true := by
  simp only [isTargetChar, Bool.or_eq_true, decide_eq_true_eq] at h
  rcases h with (((h | rfl) | rfl) | rfl) | rfl
  · exact isTypeChar_of_isNameChar h
  all_goals decide

lemma IsRegular.isWellFormed {d : UsingDirective} (h : d.IsRegular) : d.IsWellFormed where
  keywords_mem :=
    have hsub : ∀ words ∈ regularSpellings, words ∈ spellings := by decide
    hsub _ h.keywords_mem
  gaps := h.gaps
  name_ne_nil := h.name_ne_nil
  gap := h.gap
  name_starts c hc := by simp [isIdentifierChar, h.name_chars c (List.mem_of_mem_head? hc)]
  name_chars c hc := isTypeChar_of_isNameChar (h.name_chars c hc)
  alias_chars _ c hc := by simp [isIdentifierChar, h.name_chars c hc]
  target_chars target htarget := by
    obtain ⟨gap, type, rfl, hgap, hne, htype⟩ := h.target_chars target htarget
    refine ⟨List.append_ne_nil_of_right_ne_nil gap hne, fun c hc => ?_⟩
    rcases List.mem_append.mp hc with hc | hc
    · exact isTypeChar_of_isBlank (List.all_eq_true.mp hgap c hc)
    · exact isTypeChar_of_isTargetChar (htype c hc)

/-- Every directive starts with one of two keywords. -/
lemma IsWellFormed.prefix_text {d : UsingDirective} (h : d.IsWellFormed) :
    "using".toList <+: d.text ∨ "global".toList <+: d.text := by
  have hfirst : ∀ words ∈ spellings,
      words.head? = some "using".toList ∨ words.head? = some "global".toList := by decide
  have hmem := hfirst _ h.keywords_mem
  rw [text]
  cases hkeywords : d.keywords with
  | nil => simp [hkeywords] at hmem
  | cons keyword keywords =>
    rw [List.flatMap_cons, List.append_assoc, List.append_assoc]
    rw [hkeywords, List.map_cons, List.head?_cons, Option.some.injEq, Option.some.injEq] at hmem
    rcases hmem with heq | heq <;> rw [heq]
    · exact .inl (List.prefix_append _ _)
    · exact .inr (List.prefix_append _ _)

end UsingDirective

/-! ### Directives that prologues know -/

open UsingDirective

lemma isTarget_iff : isTarget s = true ↔ IsRegularTarget s := by
  constructor
  · intro h
    obtain ⟨gap, hgap, hs⟩ := exists_gap_trimStart s
    rw [isTarget] at h
    split at h
    · next hnil =>
      -- all of it is blank, and the last space is what the alias is short for
      rw [decide_eq_true_eq, List.getLast?_eq_some_iff] at h
      obtain ⟨front, hfront⟩ := h
      rw [hnil, List.append_nil] at hs
      rw [← hs, hfront, isBlankText, List.all_append, Bool.and_eq_true] at hgap
      exact ⟨front, [' '], hfront, hgap.1, by simp, List.forall_mem_singleton.mpr (by decide)⟩
    · next hne => exact ⟨gap, trimStart s, hs, hgap, hne, List.all_eq_true.mp h⟩
  · rintro ⟨gap, type, rfl, hgap, hne, htype⟩
    have htrim : trimStart (gap ++ type) = trimStart type :=
      List.dropWhile_append_of_pos (List.all_eq_true.mp hgap)
    rw [isTarget, htrim]
    split
    · next hnil =>
      have hlast := List.getLast?_eq_some_getLast hne
      have hmem := List.getLast_mem hne
      have hblank : isBlank (type.getLast hne) = true := List.dropWhile_eq_nil_iff.mp hnil _ hmem
      rw [eq_space_of_isTargetChar (htype _ hmem) hblank] at hlast
      rw [List.getLast?_append, hlast]
      rfl
    · exact List.all_eq_true.mpr fun c hc => htype c ((List.dropWhile_sublist _).subset hc)

/-- What may follow the name of a directive. -/
lemma isDirectiveEnd_iff : isDirectiveEnd s = true ↔
    ∃ gap target, isBlankText gap = true ∧ (∀ t, target = some t → IsRegularTarget t) ∧
      s = gap ++ (target.elim [] (fun t => '=' :: t) ++ [';']) := by
  constructor
  · intro h
    obtain ⟨gap, hgap, hs⟩ := exists_gap_trimStart s
    rw [isDirectiveEnd] at h
    split at h
    · next hend => exact ⟨gap, none, hgap, by simp, by rw [hend] at hs; exact hs⟩
    · next rest hend =>
      split at h
      · next target hbefore =>
        rw [before?_eq_some_iff] at hbefore
        refine ⟨gap, some target, hgap, ?_, by rw [hend, hbefore] at hs; exact hs⟩
        rintro t ⟨⟩
        exact isTarget_iff.mp h
      · exact absurd h (by simp)
    · exact absurd h (by simp)
  · rintro ⟨gap, target, hgap, htarget, rfl⟩
    cases target with
    | none =>
      have htrim : trimStart (gap ++ [';']) = [';'] :=
        trimStart_append hgap (by rintro c ⟨⟩; decide)
      simp [isDirectiveEnd, htrim]
    | some target =>
      have htrim : trimStart (gap ++ ('=' :: (target ++ [';']))) = '=' :: (target ++ [';']) :=
        trimStart_append hgap (by rintro c ⟨⟩; decide)
      have hbefore : before? [';'] (target ++ [';']) = some target := before?_eq_some_iff.mpr rfl
      simp [isDirectiveEnd, htrim, hbefore, isTarget_iff.mpr (htarget target rfl)]

lemma isNamedDirective_iff :
    isNamedDirective s = true ↔ ∃ d : UsingDirective, d.HasRegularName ∧ s = d.named := by
  rw [isNamedDirective, Bool.and_eq_true, Bool.not_eq_true', List.isEmpty_eq_false_iff,
    isDirectiveEnd_iff]
  constructor
  · rintro ⟨hname, gap, target, hgap, htarget, hrest⟩
    refine ⟨⟨[], _, gap, target⟩,
      ⟨hname, fun c hc => List.mem_takeWhile_imp hc, hgap, htarget⟩, ?_⟩
    rw [named, ← hrest, List.takeWhile_append_dropWhile]
  · rintro ⟨⟨keywords, name, gap, target⟩, ⟨hname, hchars, hgap, htarget⟩, rfl⟩
    have hstop : ∀ c,
        (gap ++ (target.elim [] (fun t => '=' :: t) ++ [';'])).head? = some c →
          isNameChar c = false := by
      intro c hc
      cases gap with
      | nil => cases target <;> cases hc <;> decide
      | cons b gap =>
        cases hc
        exact isNameChar_eq_false_of_isBlank (List.all_eq_true.mp hgap c List.mem_cons_self)
    obtain ⟨htake, hdrop⟩ := span_append hchars hstop
    rw [named, htake, hdrop]
    exact ⟨hname, gap, target, hgap, htarget, rfl⟩

lemma afterKeyword?_eq_some_iff : afterKeyword? keyword s = some rest ↔
    ∃ gap, gap ≠ [] ∧ isBlankText gap = true ∧ StartsInk rest ∧ s = keyword ++ gap ++ rest := by
  constructor
  · intro h
    rw [afterKeyword?] at h
    split at h
    · next c back hafter =>
      rw [after?_eq_some_iff] at hafter
      split at h
      · next hc =>
        obtain ⟨gap, hgap, hback⟩ := exists_gap_trimStart back
        rw [Option.some.injEq] at h
        rw [h] at hback
        refine ⟨c :: gap, List.cons_ne_nil c gap, ?_, h ▸ startsInk_trimStart back, ?_⟩
        · rw [isBlankText, List.all_cons, hc, Bool.true_and]
          exact hgap
        · rw [hafter, hback, List.append_assoc, List.cons_append]
      · exact absurd h (by simp)
    · exact absurd h (by simp)
  · rintro ⟨gap, hne, hgap, hrest, rfl⟩
    obtain ⟨c, blanks, rfl⟩ := List.exists_cons_of_ne_nil hne
    rw [isBlankText, List.all_cons, Bool.and_eq_true] at hgap
    have hafter : after? keyword (keyword ++ (c :: blanks) ++ rest) =
        some (c :: (blanks ++ rest)) := by
      rw [after?_eq_some_iff, List.append_assoc, List.cons_append]
    rw [afterKeyword?, hafter]
    dsimp only
    rw [if_pos hgap.1, trimStart_append hgap.2 hrest]

lemma UsingDirective.HasRegularName.startsInk_named {d : UsingDirective}
    (h : d.HasRegularName) : StartsInk d.named := by
  obtain ⟨first, rest, hname⟩ := List.exists_cons_of_ne_nil h.name_ne_nil
  rw [named, hname]
  rintro c ⟨⟩
  by_contra hblank
  rw [Bool.not_eq_false] at hblank
  have hfirst := h.name_chars first (by simp [hname])
  rw [isNameChar_eq_false_of_isBlank hblank] at hfirst
  exact absurd hfirst (by simp)

/-- The text of a directive with regular keywords. -/
lemma UsingDirective.IsSpelled.text_cases {d : UsingDirective}
    (h : d.IsSpelled regularSpellings) :
    ∃ gap, gap ≠ [] ∧ isBlankText gap = true ∧ (d.text = "using".toList ++ gap ++ d.named ∨
      ∃ gap', gap' ≠ [] ∧ isBlankText gap' = true ∧
        d.text = "using".toList ++ gap ++ ("static".toList ++ gap' ++ d.named)) := by
  have hmem := h.keywords_mem
  have hgaps := h.gaps
  rw [text]
  simp only [regularSpellings, List.mem_cons, List.not_mem_nil, or_false, List.map_eq_cons_iff,
    List.map_eq_nil_iff] at hmem
  rcases hmem with ⟨⟨_, gap⟩, _, hkeywords, rfl, rfl⟩ |
    ⟨⟨_, gap⟩, _, hkeywords, rfl, ⟨_, gap'⟩, _, rfl, rfl, rfl⟩
  · obtain ⟨hne, hgap⟩ := hgaps ("using".toList, gap) (by rw [hkeywords]; exact List.mem_cons_self)
    exact ⟨gap, hne, hgap, .inl (by rw [hkeywords]; simp)⟩
  · obtain ⟨hne, hgap⟩ := hgaps ("using".toList, gap) (by rw [hkeywords]; exact List.mem_cons_self)
    obtain ⟨hne', hgap'⟩ := hgaps ("static".toList, gap')
      (by rw [hkeywords]; exact List.mem_cons_of_mem _ List.mem_cons_self)
    exact ⟨gap, hne, hgap, .inr ⟨gap', hne', hgap', by rw [hkeywords]; simp⟩⟩

/-- Prologues know exactly the regular directives. -/
theorem isUsingDirective_iff :
    isUsingDirective line = true ↔ ∃ d : UsingDirective, d.IsRegular ∧ line = d.text := by
  constructor
  · intro h
    rw [isUsingDirective] at h
    split at h
    · exact absurd h (by simp)
    · next rest hafter =>
      obtain ⟨gap, hne, hgap, -, rfl⟩ := afterKeyword?_eq_some_iff.mp hafter
      rw [Bool.or_eq_true] at h
      rcases h with h | h
      · obtain ⟨d, hnamed, rfl⟩ := isNamedDirective_iff.mp h
        have hregular := hnamed.isRegular [("using".toList, gap)]
          List.mem_cons_self (by simpa using ⟨hne, hgap⟩)
        exact ⟨_, hregular, by simp [text, named]⟩
      · obtain ⟨rest', hafter', hrest⟩ := (Option.any_eq_true ..).mp h
        obtain ⟨gap', hne', hgap', -, rfl⟩ := afterKeyword?_eq_some_iff.mp hafter'
        obtain ⟨d, hnamed, rfl⟩ := isNamedDirective_iff.mp hrest
        have hregular := hnamed.isRegular [("using".toList, gap), ("static".toList, gap')]
          (List.mem_cons_of_mem _ List.mem_cons_self) (by simpa using ⟨⟨hne, hgap⟩, hne', hgap'⟩)
        exact ⟨_, hregular, by simp [text, named]⟩
  · rintro ⟨d, h, rfl⟩
    have hnamed := isNamedDirective_iff.mpr ⟨d, h.toHasRegularName, rfl⟩
    have hink := h.startsInk_named
    obtain ⟨gap, hne, hgap, htext | ⟨gap', hne', hgap', htext⟩⟩ := h.text_cases
    · have hafter : afterKeyword? "using".toList d.text = some d.named :=
        afterKeyword?_eq_some_iff.mpr ⟨gap, hne, hgap, hink, htext⟩
      rw [isUsingDirective, hafter]
      dsimp only
      rw [hnamed, Bool.true_or]
    · have hafter : afterKeyword? "using".toList d.text =
          some ("static".toList ++ gap' ++ d.named) :=
        afterKeyword?_eq_some_iff.mpr ⟨gap, hne, hgap, by rintro c ⟨⟩; decide, htext⟩
      have hafter' : afterKeyword? "static".toList ("static".toList ++ gap' ++ d.named) =
          some d.named :=
        afterKeyword?_eq_some_iff.mpr ⟨gap', hne', hgap', hink, rfl⟩
      rw [isUsingDirective, hafter]
      dsimp only
      rw [hafter', Option.any_some, hnamed, Bool.or_true]

/-- A regular directive is made of keywords, names, blanks and its two marks. -/
lemma UsingDirective.IsRegular.notMem_text {d : UsingDirective} (h : d.IsRegular)
    (htarget : isTargetChar c = false) (hblank : isBlank c = false)
    (hmark : c ∉ ['=', ';']) : c ∉ d.text := by
  have hall : ∀ {s : Text}, (∀ a ∈ s, isTargetChar a = true) → c ∉ s := fun hs hmem =>
    absurd (hs c hmem) (by simp [htarget])
  have hgap : ∀ {gap : Text}, isBlankText gap = true → c ∉ gap := fun hgap hmem =>
    absurd (List.all_eq_true.mp hgap c hmem) (by simp [hblank])
  simp only [List.mem_cons, List.not_mem_nil, or_false, not_or] at hmark
  have hnamed : c ∉ d.named := by
    simp only [named, List.mem_append, List.mem_singleton, not_or]
    refine ⟨hall fun a ha => ?_, hgap h.gap, ?_, hmark.2⟩
    · simp [isTargetChar, h.name_chars a ha]
    · cases htarget : d.target with
      | none => exact List.not_mem_nil
      | some target =>
        obtain ⟨gap, type, rfl, hblanks, -, htype⟩ := h.target_chars target htarget
        simp only [Option.elim_some, List.mem_cons, List.mem_append, not_or]
        exact ⟨hmark.1, hgap hblanks, hall htype⟩
  have husing : c ∉ "using".toList := hall (List.all_eq_true.mp (by decide))
  have hstatic : c ∉ "static".toList := hall (List.all_eq_true.mp (by decide))
  obtain ⟨gap, -, hblanks, htext | ⟨gap', -, hblanks', htext⟩⟩ := h.text_cases
  · rw [htext, List.mem_append, List.mem_append, not_or, not_or]
    exact ⟨⟨husing, hgap hblanks⟩, hnamed⟩
  · rw [htext, List.mem_append, List.mem_append, List.mem_append, List.mem_append, not_or, not_or,
      not_or, not_or]
    exact ⟨⟨husing, hgap hblanks⟩, ⟨hstatic, hgap hblanks'⟩, hnamed⟩

/-- No comment fits into a regular directive. -/
lemma UsingDirective.IsRegular.slash_notMem_text {d : UsingDirective} (h : d.IsRegular) :
    '/' ∉ d.text :=
  h.notMem_text (by decide) (by decide) (by decide)

end Prologue

end ScriptAssist
