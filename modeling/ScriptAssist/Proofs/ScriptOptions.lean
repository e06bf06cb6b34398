import ScriptAssist.Proofs.TextCuts
import ScriptAssist.Proofs.TextLines
import ScriptAssist.Script.Options

/-!
# Options of a script

The options of a script stand on lines that start with the name of the directive, between commas,
semicolons and blanks. What a script says about wrapping can be read off at any of its options: what
is said before it, what it says itself, and what is said behind it. So the last option about
wrapping decides, and a script may be cut between any two lines.
-/

namespace ScriptAssist.Options

open Text

variable {s front option back line rest indent arguments : Text}
  {front' option' back' : Text} {gap c : Char} {setting setting' : Bool}

/-- The name of the directive that gives options. -/
def directiveName : Text :=
  "//css_args".toList

/-- Whether `c` stands between two options. -/
def isSeparator (c : Char) : Bool :=
  c = ',' || c = ';' || isBlank c

/-- The names of the options that turn wrapping on or off. -/
def namesFor : Bool → List Text
  | true => ["ac".toList, "ac:1".toList, "autoclass".toList, "autoclass:1".toList]
  | false => ["ac:0".toList, "autoclass:0".toList]

/-- An option for this setting: one of its names, in any letter case, behind any number of slashes
and hyphens. -/
def Sets (option : Text) (setting : Bool) : Prop :=
  ∃ marks name, option = marks ++ name ∧ (∀ c ∈ marks, c = '/' ∨ c = '-') ∧
    toLower name ∈ namesFor setting

/-- A text that stops on a line of options: behind whole lines, an indentation by spaces and tabs,
the name of the directive, and at least one more space or tab. -/
inductive EndsInOptions : Text → Prop
  | intro (before indent : Text) (gap : Char) (within : Text) (whole : IsWhole before)
    (indented : ∀ c ∈ indent, isGap c = true) (gapped : isGap gap = true)
    (online : '\n' ∉ within) :
    EndsInOptions (before ++ (indent ++ (directiveName ++ gap :: within)))

/-- `option` stands between `front` and `back` as one of the options of `s`. -/
structure IsOption (s front option back : Text) : Prop where
  split : s = front ++ option ++ back
  online : EndsInOptions front
  separated : ∀ c, front.getLast? = some c → isSeparator c = true
  free : ∀ c ∈ option, isSeparator c = false
  behind : ∀ c, back.head? = some c → isSeparator c = true

/-- `option` is the last one of `s` that is about wrapping. -/
structure IsLastSetting (s front option back : Text) (setting : Bool) : Prop where
  isOption : IsOption s front option back
  sets : Sets option setting
  last : ∀ front' option' back' setting', IsOption s front' option' back' →
    Sets option' setting' → front'.length ≤ front.length

/-! ### Names of options -/

lemma head?_of_mem_namesFor {name : Text} (h : name ∈ namesFor setting) :
    name.head? = some 'a' := by
  have hall : ∀ name ∈ namesFor setting, name.head? = some 'a' := by
    cases setting <;> decide
  exact hall name h

lemma dropWhile_marks {marks name : Text} (hmarks : ∀ c ∈ marks, c = '/' ∨ c = '-')
    (hname : toLower name ∈ namesFor setting) :
    (marks ++ name).dropWhile (fun c => c = '/' || c = '-') = name := by
  refine (span_append (fun c hc => by simpa using hmarks c hc) fun c hc => ?_).2
  have hlower := head?_of_mem_namesFor hname
  rw [toLower, List.head?_map, hc, Option.map_some, Option.some.injEq] at hlower
  by_contra hmark
  rw [Bool.not_eq_false, Bool.or_eq_true, decide_eq_true_eq, decide_eq_true_eq] at hmark
  rcases hmark with rfl | rfl <;> exact absurd hlower (by decide)

lemma setting?_eq (option : Text) :
    setting? option =
      let name := toLower (option.dropWhile fun c => c = '/' || c = '-')
      if name ∈ namesFor true then some true
      else if name ∈ namesFor false then some false
      else none := by
  simp only [setting?, namesFor, List.mem_cons, List.not_mem_nil, or_false, Bool.or_eq_true,
    decide_eq_true_eq, or_assoc]

lemma namesFor_disjoint {name : Text} (h : name ∈ namesFor true) : name ∉ namesFor false := by
  have hall : ∀ name ∈ namesFor true, name ∉ namesFor false := by decide
  exact hall name h

lemma sets_iff : Sets option setting ↔
    toLower (option.dropWhile fun c => c = '/' || c = '-') ∈ namesFor setting := by
  constructor
  · rintro ⟨marks, name, rfl, hmarks, hname⟩
    rwa [dropWhile_marks hmarks hname]
  · intro h
    refine ⟨option.takeWhile fun c => c = '/' || c = '-', _,
      List.takeWhile_append_dropWhile.symm, fun c hc => ?_, h⟩
    simpa using List.mem_takeWhile_imp hc

lemma setting?_eq_some_iff : setting? option = some setting ↔ Sets option setting := by
  rw [sets_iff, setting?_eq]
  dsimp only
  split_ifs with htrue hfalse
  · cases setting <;> simp [htrue, namesFor_disjoint htrue]
  · cases setting <;> simp [htrue, hfalse]
  · cases setting <;> simp [htrue, hfalse]

instance (option : Text) (setting : Bool) : Decidable (Sets option setting) :=
  decidable_of_iff (setting? option = some setting) setting?_eq_some_iff

lemma setting?_nil : setting? [] = none := by
  decide

/-! ### Lines of options -/

lemma ne_lineFeed_of_isGap (h : isGap c = true) : c ≠ '\n' := by
  rintro rfl
  exact absurd h (by decide)

lemma isSeparator_of_isGap (h : isGap c = true) : isSeparator c = true := by
  rcases (by simpa [isGap] using h : c = ' ' ∨ c = '\t') with rfl | rfl <;> decide

/-- Behind a separator there is one at the end, too, if what follows it ends with one. -/
lemma isSeparator_of_getLast? (hc : isSeparator c = true)
    (hback : ∀ c, back.getLast? = some c → isSeparator c = true) {d : Char}
    (hd : (front ++ c :: back).getLast? = some d) : isSeparator d = true := by
  rw [List.getLast?_append, List.getLast?_cons, Option.some_or, Option.some.injEq] at hd
  cases hlast : back.getLast? with
  | none =>
    rw [hlast] at hd
    exact hd ▸ hc
  | some e =>
    rw [hlast] at hd
    exact hd ▸ hback e hlast

lemma argumentsOf?_eq_some_iff : argumentsOf? line = some arguments ↔
    ∃ indent gap rest, line = indent ++ (directiveName ++ gap :: rest) ∧
      (∀ c ∈ indent, isGap c = true) ∧ isGap gap = true ∧ arguments = rest.dropWhile isGap := by
  constructor
  · intro h
    rw [argumentsOf?] at h
    split at h
    · next c rest hafter =>
      split_ifs at h with hgap
      have hline : line.dropWhile isGap = directiveName ++ c :: rest :=
        after?_eq_some_iff.mp hafter
      refine ⟨line.takeWhile isGap, c, rest, ?_, fun _ hc => List.mem_takeWhile_imp hc, hgap,
        (Option.some.inj h).symm⟩
      rw [← hline, List.takeWhile_append_dropWhile]
    · exact absurd h (by simp)
  · rintro ⟨indent, gap, rest, rfl, hindent, hgap, rfl⟩
    have hname : ∀ c, (directiveName ++ gap :: rest).head? = some c → isGap c = false := by
      rintro c ⟨⟩
      decide
    have hafter : after? "//css_args".toList (directiveName ++ gap :: rest) = some (gap :: rest) :=
      after?_append directiveName (gap :: rest)
    rw [argumentsOf?, (span_append hindent hname).2, hafter]
    exact if_pos hgap

/-- What some options say about wrapping, in order. -/
def settingsIn (arguments : Text) : List Bool :=
  (arguments.splitOnP isSeparator).filterMap setting?

lemma settingsIn_append (front : Text) (hc : isSeparator c = true) (back : Text) :
    settingsIn (front ++ c :: back) = settingsIn front ++ settingsIn back := by
  rw [settingsIn, List.splitOnP_append_cons front back hc, List.filterMap_append]
  rfl

lemma settingsIn_of_free (h : ∀ c ∈ option, isSeparator c = false) :
    settingsIn option = (setting? option).toList := by
  rw [settingsIn, List.splitOnP_eq_singleton h]
  cases hoption : setting? option <;> simp [hoption]

lemma settingsIn_nil : settingsIn [] = [] := by
  rw [settingsIn_of_free (by simp), setting?_nil]
  rfl

lemma settingsIn_cons (hc : isSeparator c = true) (back : Text) :
    settingsIn (c :: back) = settingsIn back := by
  have happend := settingsIn_append [] hc back
  rwa [settingsIn_nil, List.nil_append, List.nil_append] at happend

lemma settingsIn_dropWhile_isGap (arguments : Text) :
    settingsIn (arguments.dropWhile isGap) = settingsIn arguments := by
  induction arguments with
  | nil => rfl
  | cons c arguments ih =>
    rw [List.dropWhile_cons]
    split_ifs with hgap
    · rw [ih, settingsIn_cons (isSeparator_of_isGap hgap)]
    · rfl

/-! ### Lines of a script -/

lemma settings_append_lineFeed (s t : Text) :
    settings (s ++ '\n' :: t) = settings s ++ settings t := by
  rw [settings, List.splitOn_append_cons_self, List.flatMap_append]
  rfl

lemma settings_of_notMem (h : '\n' ∉ line) :
    settings line = (ofLine line).filterMap setting? := by
  rw [settings, List.splitOn_eq_singleton h, List.flatMap_singleton]

lemma settings_nil : settings [] = [] := by
  rw [settings_of_notMem (by simp)]
  rfl

lemma settings_append_of_isWhole (h : IsWhole front) (back : Text) :
    settings (front ++ back) = settings front ++ settings back := by
  rcases h with rfl | ⟨front, rfl⟩
  · rw [settings_nil]
    rfl
  · rw [List.append_assoc, List.singleton_append, settings_append_lineFeed,
      settings_append_lineFeed, settings_nil, List.append_nil]

lemma settings_optionsLine (hindent : ∀ c ∈ indent, isGap c = true) (hgap : isGap gap = true)
    (hrest : '\n' ∉ rest) :
    settings (indent ++ (directiveName ++ gap :: rest)) = settingsIn rest := by
  have hname : '\n' ∉ directiveName := by decide
  have hline : '\n' ∉ indent ++ (directiveName ++ gap :: rest) := by
    simp only [List.mem_append, List.mem_cons, hname, hrest, or_false, false_or, not_or]
    exact ⟨fun hmem => ne_lineFeed_of_isGap (hindent _ hmem) rfl,
      (ne_lineFeed_of_isGap hgap).symm⟩
  have harguments := argumentsOf?_eq_some_iff.mpr ⟨indent, gap, rest, rfl, hindent, hgap, rfl⟩
  rw [settings_of_notMem hline, ofLine, harguments, ← settingsIn_dropWhile_isGap rest]
  rfl

/-- What a script says about wrapping from the middle of a line of options on. -/
def laterSettings (rest : Text) : List Bool :=
  settings (directiveName ++ ' ' :: rest)

lemma laterSettings_of_notMem (h : '\n' ∉ rest) : laterSettings rest = settingsIn rest :=
  settings_optionsLine (List.forall_mem_nil _) (by decide) h

lemma laterSettings_nil : laterSettings [] = [] :=
  (laterSettings_of_notMem (by simp)).trans settingsIn_nil

lemma laterSettings_append_lineFeed (h : '\n' ∉ rest) (back : Text) :
    laterSettings (rest ++ '\n' :: back) = settingsIn rest ++ settings back := by
  rw [laterSettings, ← List.cons_append, ← List.append_assoc, settings_append_lineFeed]
  exact congrArg (· ++ settings back) (laterSettings_of_notMem h)

lemma laterSettings_lineFeed (back : Text) : laterSettings ('\n' :: back) = settings back := by
  have hback := laterSettings_append_lineFeed List.not_mem_nil back
  rwa [settingsIn_nil, List.nil_append, List.nil_append] at hback

/-- The rest of a line and what is below it. -/
lemma laterSettings_append_rest (hfront : '\n' ∉ front)
    (hrest : ∀ c, rest.head? = some c → c = '\n') :
    laterSettings (front ++ rest) = settingsIn front ++ laterSettings rest := by
  cases rest with
  | nil => rw [List.append_nil, laterSettings_of_notMem hfront, laterSettings_nil, List.append_nil]
  | cons c back =>
    obtain rfl := hrest c rfl
    rw [laterSettings_append_lineFeed hfront, laterSettings_lineFeed]

/-- A separator on a line of options ends what is said before it. -/
lemma laterSettings_append (hfront : '\n' ∉ front) (hc : isSeparator c = true) (hfeed : c ≠ '\n')
    (back : Text) :
    laterSettings (front ++ c :: back) = settingsIn front ++ laterSettings back := by
  have hline : ∀ rest, '\n' ∉ rest → '\n' ∉ front ++ c :: rest := by
    intro rest hrest
    simp [hfront, hrest, hfeed.symm]
  by_cases hback : '\n' ∈ back
  · obtain ⟨rest, more, rfl, hrest⟩ := List.eq_append_cons_of_mem hback
    rw [← List.cons_append, ← List.append_assoc, laterSettings_append_lineFeed (hline rest hrest),
      laterSettings_append_lineFeed hrest, settingsIn_append front hc, List.append_assoc]
  · rw [laterSettings_of_notMem (hline back hback), laterSettings_of_notMem hback,
      settingsIn_append front hc]

/-- How a line of options is indented makes no difference to what is said on it and below it. -/
lemma settings_line (hindent : ∀ c ∈ indent, isGap c = true) (hgap : isGap gap = true)
    (rest : Text) :
    settings (indent ++ (directiveName ++ gap :: rest)) = laterSettings rest := by
  by_cases hfeed : '\n' ∈ rest
  · obtain ⟨front, back, rfl, hfront⟩ := List.eq_append_cons_of_mem hfeed
    rw [laterSettings_append_lineFeed hfront, ← settings_optionsLine hindent hgap hfront,
      ← settings_append_lineFeed]
    simp
  · rw [laterSettings_of_notMem hfeed, settings_optionsLine hindent hgap hfeed]

/-! ### What is said at an option -/

/-- What is said up to a separator on a line of options does not depend on what follows. -/
lemma EndsInOptions.settings_append (h : EndsInOptions front)
    (hseparated : ∀ c, front.getLast? = some c → isSeparator c = true) (rest : Text) :
    settings (front ++ rest) = settings front ++ laterSettings rest := by
  cases h with
  | intro before indent gap within hbefore hindent hgap hwithin =>
    have hline : ∀ rest, settings (before ++ (indent ++ (directiveName ++ gap :: within)) ++ rest) =
        settings before ++ laterSettings (within ++ rest) := by
      intro rest
      rw [← settings_line hindent hgap, ← settings_append_of_isWhole hbefore]
      simp
    have hfront := hline []
    rw [List.append_nil, List.append_nil] at hfront
    rw [hline, hfront, List.append_assoc, List.append_cancel_left_eq]
    rcases List.eq_nil_or_concat' within with rfl | ⟨within, c, rfl⟩
    · rw [laterSettings_nil]
      rfl
    · have hc : isSeparator c = true := hseparated c (by simp [List.getLast?_cons])
      have hfeed : c ≠ '\n' := by
        rintro rfl
        exact hwithin (by simp)
      have hfree : '\n' ∉ within := fun hmem => hwithin (by simp [hmem])
      rw [List.append_assoc, List.singleton_append, laterSettings_append hfree hc hfeed,
        laterSettings_append hfree hc hfeed, laterSettings_nil, List.append_nil]

/-- What is said behind the name of a directive is what its first option says, and what is said
behind that. -/
lemma laterSettings_option (hfree : ∀ c ∈ option, isSeparator c = false)
    (hbehind : ∀ c, back.head? = some c → isSeparator c = true) :
    laterSettings (option ++ back) = (setting? option).toList ++ laterSettings back := by
  have hoption : '\n' ∉ option := fun hmem => absurd (hfree _ hmem) (by decide)
  cases back with
  | nil =>
    rw [List.append_nil, laterSettings_of_notMem hoption, settingsIn_of_free hfree,
      laterSettings_nil, List.append_nil]
  | cons c back =>
    have hc := hbehind c rfl
    by_cases hfeed : c = '\n'
    · rw [hfeed, laterSettings_append_lineFeed hoption, laterSettings_lineFeed,
        settingsIn_of_free hfree]
    · have hnext := laterSettings_append List.not_mem_nil hc hfeed back
      rw [List.nil_append, settingsIn_nil, List.nil_append] at hnext
      rw [laterSettings_append hoption hc hfeed, hnext, settingsIn_of_free hfree]

namespace IsOption

/-- A script says what it says before an option, what the option says, and what is said behind
it. -/
lemma settings_eq (h : IsOption s front option back) :
    settings s = settings front ++ ((setting? option).toList ++ laterSettings back) := by
  rw [h.split, List.append_assoc, h.online.settings_append h.separated,
    laterSettings_option h.free h.behind]

/-- An option that begins later lies wholly behind. -/
lemma of_length_lt (h : IsOption s front option back) (h' : IsOption s front' option' back')
    (hlength : front.length < front'.length) : ∃ between, IsOption front' front option between := by
  have hsplit := h.split.symm.trans h'.split
  rw [List.append_assoc front'] at hsplit
  rcases List.append_eq_append_iff.mp hsplit with ⟨between, hfront, hback⟩ | ⟨more, hpart, -⟩
  · refine ⟨between, hfront, h.online, h.separated, h.free, fun c hc => h.behind c ?_⟩
    rw [hback, List.head?_append, hc]
    rfl
  · -- else it would begin inside the option, behind a character that is no separator
    obtain ⟨part, rfl⟩ : front <+: front' :=
      List.prefix_of_prefix_length_le ⟨option, rfl⟩ ⟨more, hpart.symm⟩ hlength.le
    rw [List.append_assoc, List.append_cancel_left_eq] at hpart
    have hne : part ≠ [] := by
      rintro rfl
      simp at hlength
    have hlast := List.getLast?_eq_some_getLast hne
    have hseparator := h'.separated (part.getLast hne) (by rw [List.getLast?_append, hlast]; rfl)
    rw [h.free _ (hpart ▸ List.mem_append_left more (List.getLast_mem hne))] at hseparator
    exact absurd hseparator (by decide)

/-- Text in front of a script that stops at a line feed moves its options. -/
lemma append_lineFeed (h : IsOption s front option back) (line : Text) :
    IsOption (line ++ '\n' :: s) (line ++ '\n' :: front) option back where
  split := by simp [h.split]
  online := by
    obtain ⟨before, indent, gap, within, hbefore, hindent, hgap, hwithin⟩ := h.online
    have hwhole : IsWhole (line ++ '\n' :: before) := by
      rcases hbefore with rfl | ⟨before, rfl⟩
      · exact isWhole_append_lineFeed line
      · exact .inr ⟨line ++ '\n' :: before, by simp⟩
    have honline := EndsInOptions.intro _ indent gap within hwhole hindent hgap hwithin
    simpa using honline
  separated := fun _ hc => isSeparator_of_getLast? (by decide) h.separated hc
  free := h.free
  behind := h.behind

end IsOption

/-! ### The last setting -/

/-- Some options that say anything have a last one that does. -/
lemma exists_last_of_settingsIn_ne_nil (h : settingsIn arguments ≠ []) :
    ∃ front option back setting, arguments = front ++ option ++ back ∧
      (∀ c, front.getLast? = some c → isSeparator c = true) ∧
      (∀ c ∈ option, isSeparator c = false) ∧
      (∀ c, back.head? = some c → isSeparator c = true) ∧
      setting? option = some setting ∧ settingsIn back = [] := by
  induction hlength : arguments.length using Nat.strong_induction_on generalizing arguments with
  | _ length ih =>
    have hsplit := List.takeWhile_append_dropWhile (p := fun c => !isSeparator c) (l := arguments)
    have hfree : ∀ c ∈ arguments.takeWhile fun c => !isSeparator c, isSeparator c = false :=
      fun c hc => by simpa using List.mem_takeWhile_imp hc
    have hfirst := List.head?_dropWhile_not (fun c => !isSeparator c) arguments
    generalize (arguments.takeWhile fun c => !isSeparator c) = option at hsplit hfree
    generalize (arguments.dropWhile fun c => !isSeparator c) = back at hsplit hfirst
    subst hsplit
    cases back with
    | nil =>
      rw [List.append_nil, settingsIn_of_free hfree] at h
      obtain ⟨setting, hsetting⟩ :=
        Option.ne_none_iff_exists'.mp (mt Option.toList_eq_nil_iff.mpr h)
      exact ⟨[], option, [], setting, by simp, by simp, hfree, by simp, hsetting, settingsIn_nil⟩
    | cons c rest =>
      have hc : isSeparator c = true := by simpa using hfirst
      by_cases hrest : settingsIn rest = []
      · rw [settingsIn_append option hc, hrest, List.append_nil, settingsIn_of_free hfree] at h
        obtain ⟨setting, hsetting⟩ :=
          Option.ne_none_iff_exists'.mp (mt Option.toList_eq_nil_iff.mpr h)
        exact ⟨[], option, c :: rest, setting, by simp, by simp, hfree, by simpa using hc, hsetting,
          (settingsIn_cons hc rest).trans hrest⟩
      · obtain ⟨front, later, back, setting, rfl, hfront, hlater⟩ := ih rest.length (by
          rw [← hlength, List.length_append, List.length_cons]
          omega) hrest rfl
        exact ⟨option ++ c :: front, later, back, setting, by simp,
          fun _ hd => isSeparator_of_getLast? hc hfront hd, hlater⟩

/-- On a line that says anything about wrapping, below which nothing is said about it, there is a
last option that does. -/
lemma exists_last_of_line (hline : '\n' ∉ line) (h : settings line ≠ [])
    (hrest : ∀ c, rest.head? = some c → c = '\n') (hlater : laterSettings rest = []) :
    ∃ front option back setting, IsOption (line ++ rest) front option back ∧
      Sets option setting ∧ laterSettings back = [] := by
  cases harguments : argumentsOf? line with
  | none =>
    rw [settings_of_notMem hline, ofLine, harguments] at h
    exact absurd rfl h
  | some arguments =>
    obtain ⟨indent, gap, more, rfl, hindent, hgap, -⟩ := argumentsOf?_eq_some_iff.mp harguments
    have hmore : '\n' ∉ more := fun hmem => hline (by simp [hmem])
    rw [settings_optionsLine hindent hgap hmore] at h
    obtain ⟨front, option, back, setting, rfl, hfront, hfree, hback, hsetting, hempty⟩ :=
      exists_last_of_settingsIn_ne_nil h
    have honline : EndsInOptions (indent ++ (directiveName ++ gap :: front)) :=
      .intro [] indent gap front (.inl rfl) hindent hgap fun hmem => hmore (by simp [hmem])
    refine ⟨_, option, back ++ rest, setting, ⟨by simp, honline, fun c hc => ?_, hfree,
      fun c hc => ?_⟩, setting?_eq_some_iff.mp hsetting, ?_⟩
    · rw [← List.append_assoc] at hc
      exact isSeparator_of_getLast? (isSeparator_of_isGap hgap) hfront hc
    · cases back with
      | nil => exact hrest c hc ▸ by decide
      | cons d back => exact hback c hc
    · rw [laterSettings_append_rest (fun hmem => hmore (by simp [hmem])) hrest, hempty, hlater]
      rfl

/-- A script that says anything about wrapping has a last option that does. -/
lemma exists_last_of_settings_ne_nil (h : settings s ≠ []) :
    ∃ front option back setting, IsOption s front option back ∧ Sets option setting ∧
      laterSettings back = [] := by
  induction hlength : s.length using Nat.strong_induction_on generalizing s with
  | _ length ih =>
    by_cases hfeed : '\n' ∈ s
    · obtain ⟨line, below, rfl, hline⟩ := List.eq_append_cons_of_mem hfeed
      by_cases hbelow : settings below = []
      · rw [settings_append_lineFeed, hbelow, List.append_nil] at h
        refine exists_last_of_line hline h (fun c hc => (Option.some.inj hc).symm) ?_
        rw [laterSettings_lineFeed, hbelow]
      · obtain ⟨front, option, back, setting, hoption, hlast⟩ := ih below.length (by
          rw [← hlength, List.length_append, List.length_cons]
          omega) hbelow rfl
        exact ⟨_, option, back, setting, hoption.append_lineFeed line, hlast⟩
    · have hlast := exists_last_of_line hfeed h (by simp) laterSettings_nil
      rwa [List.append_nil] at hlast

namespace IsOption

lemma settings_of_sets (h : IsOption s front option back) (hsets : Sets option setting) :
    settings s = settings front ++ setting :: laterSettings back := by
  rw [h.settings_eq, setting?_eq_some_iff.mpr hsets]
  rfl

lemma isLastSetting (h : IsOption s front option back) (hsets : Sets option setting)
    (hlater : laterSettings back = []) : IsLastSetting s front option back setting := by
  refine ⟨h, hsets, fun front' option' back' setting' h' hsets' => ?_⟩
  by_contra hlength
  obtain ⟨between, hbetween⟩ := h.of_length_lt h' (Nat.lt_of_not_le hlength)
  have hsame := (h.settings_of_sets hsets).symm.trans (h'.settings_of_sets hsets')
  rw [hlater, hbetween.settings_of_sets hsets] at hsame
  have hcount := congrArg List.length hsame
  simp only [List.length_append, List.length_cons, List.length_nil] at hcount
  omega

end IsOption

lemma IsLastSetting.getLast?_settings (h : IsLastSetting s front option back setting) :
    (settings s).getLast? = some setting := by
  have hne : settings s ≠ [] := by
    rw [h.isOption.settings_of_sets h.sets]
    simp
  obtain ⟨front', option', back', setting', hoption', hsets', hlater⟩ :=
    exists_last_of_settings_ne_nil hne
  have hlast' := hoption'.isLastSetting hsets' hlater
  obtain rfl : front = front' := by
    have hlength := Nat.le_antisymm (hlast'.last _ _ _ _ h.isOption h.sets)
      (h.last _ _ _ _ hoption' hsets')
    have hsplit := h.isOption.split.symm.trans hoption'.split
    rw [List.append_assoc, List.append_assoc] at hsplit
    exact List.append_inj_left hsplit hlength
  have hsame := (h.isOption.settings_of_sets h.sets).symm.trans (hoption'.settings_of_sets hsets')
  rw [List.append_cancel_left_eq, List.cons.injEq] at hsame
  rw [hoption'.settings_of_sets hsets', hlater, hsame.1, List.getLast?_concat]

lemma wantsClass_eq (s : Text) (default : Bool) :
    wantsClass s default = (settings s).getLast?.getD default := by
  rw [wantsClass]
  induction settings s using List.reverseRecOn with
  | nil => rfl
  | append_singleton earlier setting => simp

/-- The last option about wrapping decides, whatever the default is. Without one the default does. A
script that is cut at a line feed is read one part after the other. -/
theorem wantsClass_last_setting (s : Text) :
    (∀ t default, wantsClass (s ++ '\n' :: t) default = wantsClass t (wantsClass s default)) ∧
    ((∀ front option back setting, IsOption s front option back → ¬ Sets option setting) →
      ∀ default, wantsClass s default = default) ∧
    ((∃ front option back setting, IsOption s front option back ∧ Sets option setting) →
      ∃ front option back setting, IsLastSetting s front option back setting) ∧
    ∀ front option back setting, IsLastSetting s front option back setting →
      ∀ default, wantsClass s default = setting := by
  refine ⟨fun t default => ?_, fun hnone default => ?_, ?_, fun front option back setting h _ => ?_⟩
  · rw [wantsClass, settings_append_lineFeed, List.foldl_append]
    rfl
  · by_cases hempty : settings s = []
    · rw [wantsClass_eq, hempty]
      rfl
    · obtain ⟨front, option, back, setting, hoption, hsets, -⟩ :=
        exists_last_of_settings_ne_nil hempty
      exact absurd hsets (hnone front option back setting hoption)
  · rintro ⟨front, option, back, setting, hoption, hsets⟩
    have hne : settings s ≠ [] := by
      rw [hoption.settings_of_sets hsets]
      simp
    obtain ⟨front', option', back', setting', hoption', hsets', hlater⟩ :=
      exists_last_of_settings_ne_nil hne
    exact ⟨front', option', back', setting', hoption'.isLastSetting hsets' hlater⟩
  · rw [wantsClass_eq, h.getLast?_settings]
    rfl

/-- A script with several lines of options, CR LF between them, unknown options and one that turns
wrapping off. -/
def mixedOptions : Text :=
  "f();\r\n\t//css_args -x,/AC:0;\tacc\r\n".toList ++
    "//css_args\t; --/AutoClass:1;ac:2,-c\r\n//css_argsac:0".toList

theorem wantsClass_last_setting_mixedOptions :
    let front := "f();\r\n\t//css_args -x,/AC:0;\tacc\r\n//css_args\t; ".toList
    let option := "--/AutoClass:1".toList
    let back := ";ac:2,-c\r\n//css_argsac:0".toList
    IsLastSetting mixedOptions front option back true ∧
      (∀ default, wantsClass mixedOptions default = true) ∧
      (∀ default, wantsClass (mixedOptions ++ '\n' :: "//css_args ac:0".toList) default = false) ∧
      ∀ default, wantsClass "//css_args -c ac:2".toList default = default := by
  intro front option back
  have hsets : Sets option true :=
    ⟨"--/".toList, "AutoClass:1".toList, by decide, by simp, by decide⟩
  have honline : EndsInOptions front :=
    .intro "f();\r\n\t//css_args -x,/AC:0;\tacc\r\n".toList [] '\t' "; ".toList
      (.inr ⟨"f();\r\n\t//css_args -x,/AC:0;\tacc\r".toList, by decide⟩) (List.forall_mem_nil _)
      (by decide) (by decide)
  have hfree : option.all (fun c => !isSeparator c) = true := by decide
  have hoption : IsOption mixedOptions front option back := by
    refine ⟨by decide, honline, ?_, fun c hc => by simpa using List.all_eq_true.mp hfree c hc, ?_⟩
    · rintro c ⟨⟩
      decide
    · rintro c ⟨⟩
      decide
  have hlast := hoption.isLastSetting hsets (by decide)
  have hdecides := (wantsClass_last_setting mixedOptions).2.2.2 _ _ _ _ hlast
  refine ⟨hlast, hdecides, fun default => ?_, ?_⟩
  · rw [(wantsClass_last_setting mixedOptions).1, hdecides]
    decide
  · refine (wantsClass_last_setting _).2.1 fun front option back setting hoption hsets => ?_
    have hsettings := hoption.settings_of_sets hsets
    rw [show settings "//css_args -c ac:2".toList = [] by decide] at hsettings
    simp at hsettings

end ScriptAssist.Options
