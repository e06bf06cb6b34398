import Mathlib.Tactic.MkIffOfInductiveProp
import ScriptAssist.Proofs.Encoding
import ScriptAssist.Proofs.ScriptOptions
import ScriptAssist.Tool.Location

/-!
# Default arguments

The configuration of the toolchain and a script may hold the same options. A configuration turns
wrapping on if any of them does. A script goes by the last one, so the two differ exactly if an
option that turns wrapping on is followed by one that turns it off, and by none that turns it on
again. A script also reads over slashes in front of the name of an option; a configuration does not.
-/

namespace ScriptAssist

/-! ### Words -/

namespace Text

variable {s t gap : Text} {c : Char} {parts : List Text}

lemma words_append_blank (s : Text) (hc : isBlank c = true) (t : Text) :
    words (s ++ c :: t) = words s ++ words t := by
  rw [words, List.splitOnP_append_cons s t hc, List.filter_append]
  rfl

lemma words_blank_append (hgap : isBlankText gap = true) (s : Text) :
    words (gap ++ s) = words s := by
  induction gap with
  | nil => rfl
  | cons c gap ih =>
    rw [isBlankText, List.all_cons, Bool.and_eq_true] at hgap
    exact (words_append_blank [] hgap.1 (gap ++ s)).trans (ih hgap.2)

lemma words_append_blanks (s : Text) (hgap : isBlankText gap = true) :
    words (s ++ gap) = words s := by
  cases gap with
  | nil => rw [List.append_nil]
  | cons c gap =>
    rw [isBlankText, List.all_cons, Bool.and_eq_true] at hgap
    have hnone := words_blank_append hgap.2 []
    rw [List.append_nil] at hnone
    rw [words_append_blank s hgap.1, hnone]
    exact List.append_nil _

/-- Words with a blank between each two of them are read back. -/
lemma words_joinWith (hc : isBlank c = true)
    (h : ∀ part ∈ parts, part ≠ [] ∧ ∀ d ∈ part, isBlank d = false) :
    words (joinWith [c] parts) = parts := by
  have hword : ∀ part ∈ parts, words part = [part] := by
    intro part hpart
    rw [words, List.splitOnP_eq_singleton (h part hpart).2]
    simp [(h part hpart).1]
  induction parts with
  | nil => rfl
  | cons part others ih =>
    rw [List.forall_mem_cons] at h hword
    by_cases hothers : others = []
    · rw [hothers, joinWith_singleton, hword.1]
    · rw [joinWith_cons c part hothers, words_append_blank part hc, hword.1, ih h.2 hword.2]
      rfl

end Text

namespace Options

open Text

variable {options : List Text} {option name front gap gap' back ending : Text}

/-- An option in lower case, with one hyphen in front and nothing in it that ends an option or an
element. -/
@[mk_iff]
structure IsPlain (option : Text) : Prop where
  hyphen : option.head? = some '-'
  single : option.tail.head? ≠ some '-'
  lower : ∀ c ∈ option, c.toLower = c
  free : ∀ c ∈ option, isSeparator c = false ∧ c ≠ '<'

instance (option : Text) : Decidable (IsPlain option) :=
  decidable_of_iff (option.head? = some '-' ∧ option.tail.head? ≠ some '-' ∧
      option.all (fun c => c.toLower = c) = true ∧
      option.all (fun c => !isSeparator c && c != '<') = true)
    (by simp [isPlain_iff])

/-- Whether an option, if it is about wrapping, has its name right behind its hyphen. -/
def IsDirect (option : Text) : Prop :=
  ∀ setting, Sets option setting → option.tail.head? ≠ some '/'

instance (option : Text) : Decidable (IsDirect option) :=
  inferInstanceAs (Decidable (∀ setting, Sets option setting → option.tail.head? ≠ some '/'))

/-- Whether an option that turns wrapping off and has one that turns it on in front of it also has
one behind it. -/
def StaysOn (options : List Text) : Prop :=
  ∀ before option after, options = before ++ option :: after → Sets option false →
    (∃ other ∈ before, Sets other true) → ∃ other ∈ after, Sets other true

/-- A configuration with these default arguments. -/
def configuration (front gap : Text) (options : List Text) (gap' back : Text) : Text :=
  front ++ ("<defaultArguments>".toList ++
    (gap ++ joinWith [' '] options ++ gap' ++ ("</defaultArguments>".toList ++ back)))

/-- A script with these options and nothing else. -/
def optionsScript (options : List Text) (ending : Text) : Text :=
  directiveName ++ ' ' :: (joinWith [' '] options ++ ending)

/-! ### What a configuration says -/

lemma hyphen_cons_mem_enablingWords_iff :
    '-' :: name ∈ enablingWords ↔ name ∈ namesFor true := by
  have hwords : enablingWords = ["ac".toList, "autoclass".toList, "ac:1".toList,
      "autoclass:1".toList].map ('-' :: ·) := by
    decide
  rw [hwords, List.mem_map_of_injective List.cons_injective]
  simp only [namesFor, List.mem_cons, List.not_mem_nil, or_false]
  exact or_congr_right or_left_comm

namespace IsPlain

lemma ne_nil (h : IsPlain option) : option ≠ [] := by
  rintro rfl
  exact absurd h.hyphen (by simp)

lemma mem_enablingWords_iff (h : IsPlain option) (hdirect : IsDirect option) :
    option ∈ enablingWords ↔ Sets option true := by
  obtain ⟨name, rfl⟩ := List.head?_eq_some_iff.mp h.hyphen
  have hlower : toLower name = name :=
    (List.map_congr_left fun c hc => h.lower c (List.mem_cons_of_mem '-' hc)).trans
      (List.map_id name)
  rw [hyphen_cons_mem_enablingWords_iff]
  constructor
  · exact fun hname => ⟨['-'], name, rfl, by simp, hlower.symm ▸ hname⟩
  · intro hsets
    have hslash := hdirect true hsets
    have hhyphen := h.single
    have hmark : ∀ c ∈ ['-'], (c = '/' || c = '-' : Bool) = true := by simp
    have hdrop : ('-' :: name).dropWhile (fun c => c = '/' || c = '-') = name := by
      refine (span_append hmark fun c hc => ?_).2
      rw [List.tail_cons, hc, ne_eq, Option.some.injEq] at hslash hhyphen
      simp [hslash, hhyphen]
    rwa [sets_iff, hdrop, hlower] at hsets

end IsPlain

lemma notMem_joinWith (hplain : ∀ option ∈ options, IsPlain option) :
    '<' ∉ joinWith [' '] options ∧ '\n' ∉ joinWith [' '] options := by
  constructor
  · intro h
    rcases mem_joinWith h with heq | ⟨option, hoption, hc⟩
    · exact absurd heq (by decide)
    · exact ((hplain option hoption).free _ hc).2 rfl
  · intro h
    rcases mem_joinWith h with heq | ⟨option, hoption, hc⟩
    · exact absurd heq (by decide)
    · exact absurd ((hplain option hoption).free _ hc).1 (by decide)

lemma defaultArguments?_configuration (hfront : ¬ "<defaultArguments>".toList <:+: front)
    {arguments : Text} (harguments : '<' ∉ arguments) (back : Text) :
    defaultArguments? (front ++ ("<defaultArguments>".toList ++
      (arguments ++ ("</defaultArguments>".toList ++ back)))) = some arguments := by
  have hopening : cutAt? "<defaultArguments>".toList (front ++ ("<defaultArguments>".toList ++
      (arguments ++ ("</defaultArguments>".toList ++ back)))) =
      some (front, arguments ++ ("</defaultArguments>".toList ++ back)) :=
    cutAt?_append_self (by decide) hfront _
  have hclosing : cutAt? "</defaultArguments>".toList
      (arguments ++ ("</defaultArguments>".toList ++ back)) = some (arguments, back) := by
    refine cutAt?_append_self (by decide) (fun hinfix => harguments ?_) back
    exact hinfix.subset (by decide)
  rw [defaultArguments?, hopening]
  dsimp only [bind, Option.bind_some]
  rw [hclosing]
  rfl

lemma enabledBy_configuration (hplain : ∀ option ∈ options, IsPlain option)
    (hdirect : ∀ option ∈ options, IsDirect option)
    (hgap : isBlankText gap = true) (hgap' : isBlankText gap' = true)
    (hfront : ¬ "<defaultArguments>".toList <:+: front) (back : Text) :
    enabledBy (configuration front gap options gap' back) = true ↔
      ∃ option ∈ options, Sets option true := by
  have harguments : '<' ∉ gap ++ joinWith [' '] options ++ gap' := by
    have hblank : isBlank '<' = false := by decide
    have hnone : ∀ blanks : Text, isBlankText blanks = true → '<' ∉ blanks := fun blanks h hmem =>
      absurd (hblank.symm.trans (List.all_eq_true.mp h '<' hmem)) (by decide)
    simp only [List.mem_append, not_or]
    exact ⟨⟨hnone gap hgap, (notMem_joinWith hplain).1⟩, hnone gap' hgap'⟩
  have hwords : words (gap ++ joinWith [' '] options ++ gap') = options := by
    rw [words_append_blanks _ hgap', words_blank_append hgap]
    refine words_joinWith (by decide) fun option hoption => ⟨(hplain option hoption).ne_nil,
      fun c hc => ?_⟩
    have hseparator := ((hplain option hoption).free c hc).1
    rw [isSeparator, Bool.or_eq_false_iff] at hseparator
    exact hseparator.2
  rw [enabledBy, configuration, defaultArguments?_configuration hfront harguments]
  dsimp only
  rw [hwords, List.any_eq_true]
  refine exists_congr fun option => and_congr_right fun hoption => ?_
  rw [List.contains_iff_mem, (hplain option hoption).mem_enablingWords_iff (hdirect option hoption)]

/-! ### What a script says -/

lemma settingsIn_joinWith (hplain : ∀ option ∈ options, IsPlain option) :
    settingsIn (joinWith [' '] options) = options.filterMap setting? := by
  induction options with
  | nil => exact settingsIn_nil
  | cons option others ih =>
    rw [List.forall_mem_cons] at hplain
    have hoption := settingsIn_of_free fun c hc => (hplain.1.free c hc).1
    have hcons : (option :: others).filterMap setting? =
        (setting? option).toList ++ others.filterMap setting? := by
      rw [List.filterMap_cons]
      cases setting? option <;> rfl
    by_cases hothers : others = []
    · rw [hcons, hothers, joinWith_singleton, hoption, List.filterMap_nil, List.append_nil]
    · rw [hcons, joinWith_cons ' ' option hothers, settingsIn_append option (by decide), hoption,
        ih hplain.2]

lemma settings_optionsScript (hplain : ∀ option ∈ options, IsPlain option)
    (hending : ending ∈ [[], ['\n'], ['\r', '\n']]) :
    settings (optionsScript options ending) = options.filterMap setting? := by
  have hfeed := (notMem_joinWith hplain).2
  change laterSettings (joinWith [' '] options ++ ending) = _
  rw [← settingsIn_joinWith hplain]
  simp only [List.mem_cons, List.not_mem_nil, or_false] at hending
  rcases hending with rfl | rfl | rfl
  · rw [List.append_nil, laterSettings_of_notMem hfeed]
  · rw [laterSettings_append_lineFeed hfeed, settings_nil, List.append_nil]
  · rw [laterSettings_append hfeed (by decide) (by decide), laterSettings_lineFeed, settings_nil,
      List.append_nil]

/-- The last setting is to turn wrapping on, if any is, exactly if the options stay on. -/
lemma staysOn_iff : StaysOn options ↔
    (true ∈ options.filterMap setting? → (options.filterMap setting?).getLast? = some true) := by
  constructor
  · intro hstays hon
    obtain ⟨earlier, setting, hsettings⟩ :=
      List.eq_nil_or_concat' (options.filterMap setting?) |>.resolve_left (List.ne_nil_of_mem hon)
    rw [hsettings, List.getLast?_concat]
    cases setting with
    | true => rfl
    | false =>
      obtain ⟨front, back, rfl, hearlier, hback⟩ := List.filterMap_eq_append_iff.mp hsettings
      obtain ⟨between, off, after, rfl, -, hoff, hafter⟩ := List.filterMap_eq_cons_iff.mp hback
      have hfront : true ∈ front.filterMap setting? := by
        rw [hsettings, List.mem_append] at hon
        rw [hearlier]
        exact hon.resolve_right (by decide)
      obtain ⟨on, hmem, hsets⟩ := List.mem_filterMap.mp hfront
      obtain ⟨other, hother, hagain⟩ := hstays (front ++ between) off after (by simp)
        (setting?_eq_some_iff.mp hoff)
        ⟨on, List.mem_append_left between hmem, setting?_eq_some_iff.mp hsets⟩
      rw [List.filterMap_eq_nil_iff] at hafter
      exact absurd ((hafter other hother).symm.trans (setting?_eq_some_iff.mpr hagain)) (by simp)
  · rintro hlast before off after rfl hoff ⟨on, hmem, hsets⟩
    have hon := hlast (List.mem_filterMap.mpr
      ⟨on, List.mem_append_left _ hmem, setting?_eq_some_iff.mpr hsets⟩)
    rw [List.filterMap_append, List.filterMap_cons_some (setting?_eq_some_iff.mpr hoff),
      List.getLast?_append, List.getLast?_cons, Option.some_or, Option.some.injEq] at hon
    cases hafter : (after.filterMap setting?).getLast? with
    | none =>
      rw [hafter] at hon
      exact absurd hon (by decide)
    | some setting =>
      rw [hafter, Option.getD_some] at hon
      obtain ⟨other, hother, hagain⟩ :=
        List.mem_filterMap.mp (List.mem_of_getLast? (hafter.trans (congrArg some hon)))
      exact ⟨other, hother, setting?_eq_some_iff.mp hagain⟩

/-! ### Agreement -/

/-- A configuration and a script with the same options turn wrapping on alike exactly if no option
that turns it on is overridden for good, provided that the options about wrapping have nothing but a
hyphen in front of their names. -/
theorem enablesClass_eq_wantsClass_iff {files : Files} {config : Path}
    (hplain : ∀ option ∈ options, IsPlain option)
    (hdirect : ∀ option ∈ options, IsDirect option) (hgap : isBlankText gap = true)
    (hgap' : isBlankText gap' = true) (hfront : ¬ "<defaultArguments>".toList <:+: front)
    (hconfig : files.readText? config = some (configuration front gap options gap' back))
    (hending : ending ∈ [[], ['\n'], ['\r', '\n']]) :
    files.enablesClass config = wantsClass (optionsScript options ending) false ↔
      StaysOn options := by
  have henables : files.enablesClass config = true ↔ true ∈ options.filterMap setting? := by
    rw [Files.enablesClass, hconfig, Option.any_some,
      enabledBy_configuration hplain hdirect hgap hgap' hfront, List.mem_filterMap]
    simp only [setting?_eq_some_iff]
  have hwants : wantsClass (optionsScript options ending) false = true ↔
      (options.filterMap setting?).getLast? = some true := by
    rw [wantsClass_eq, settings_optionsScript hplain hending]
    cases (options.filterMap setting?).getLast? <;> simp
  rw [Bool.eq_iff_iff, henables, hwants, staysOn_iff]
  exact ⟨Iff.mp, fun h => ⟨h, List.mem_of_getLast?⟩⟩

/-- A configuration file with this text. -/
def configuredFiles (text : Text) : Files where
  entries := [(["css_config.xml".toList], .file (Utf8.encode text) false)]
  workingDir := []

lemma readText?_configuredFiles (text : Text) :
    (configuredFiles text).readText? (.ofString "css_config.xml") = some text :=
  Utf8.decode?_encode text

lemma enablesClass_configuredFiles (text : Text) :
    (configuredFiles text).enablesClass (.ofString "css_config.xml") = enabledBy text := by
  rw [Files.enablesClass, readText?_configuredFiles, Option.any_some]

/-- Default arguments in a whole configuration. -/
def wholeConfiguration (options : List Text) : Text :=
  configuration "<CSSConfig>\r\n  ".toList " ".toList options "\n".toList "</CSSConfig>".toList

theorem enablesClass_eq_wantsClass_iff_restored :
    let options := ["-/c", "-autoclass", "-ac:0", "-ac:2", "-ac:1", "-"].map String.toList
    let files := configuredFiles (wholeConfiguration options)
    let config := Path.ofString "css_config.xml"
    (∀ option ∈ options, IsPlain option) ∧ (∀ option ∈ options, IsDirect option) ∧
      files.readText? config = some (wholeConfiguration options) ∧
      files.enablesClass config = true ∧ wantsClass (optionsScript options ['\n']) false = true ∧
      StaysOn options := by
  intro options files config
  have hplain : ∀ option ∈ options, IsPlain option := by decide
  have hdirect : ∀ option ∈ options, IsDirect option := by decide
  have hconfig := readText?_configuredFiles (wholeConfiguration options)
  have hfront : ¬ "<defaultArguments>".toList <:+: "<CSSConfig>\r\n  ".toList := by
    rw [← occursIn_iff_isInfix]
    decide
  have hwants : wantsClass (optionsScript options ['\n']) false = true := by decide
  have henables : files.enablesClass config = true :=
    (enablesClass_configuredFiles _).trans (by decide)
  have hiff := enablesClass_eq_wantsClass_iff hplain hdirect (by decide) (by decide) hfront hconfig
    (by decide : ['\n'] ∈ [[], ['\n'], ['\r', '\n']])
  exact ⟨hplain, hdirect, hconfig, henables, hwants, hiff.mp (henables.trans hwants.symm)⟩

/-- The second option turns off in a script what the first one turned on; in a configuration it does
not. An option with a slash behind its hyphen is one of a script only. -/
theorem overridden_option_enables :
    let options := ["-ac", "-ac:0"].map String.toList
    let slashed := ["-/ac"].map String.toList
    (∀ option ∈ options ++ slashed, IsPlain option) ∧
      (configuredFiles (wholeConfiguration options)).enablesClass (.ofString "css_config.xml") =
        true ∧
      wantsClass (optionsScript options []) false = false ∧
      (configuredFiles (wholeConfiguration slashed)).enablesClass (.ofString "css_config.xml") =
        false ∧
      wantsClass (optionsScript slashed []) false = true :=
  ⟨by decide, (enablesClass_configuredFiles _).trans (by decide), by decide,
    (enablesClass_configuredFiles _).trans (by decide), by decide⟩

end Options

end ScriptAssist
