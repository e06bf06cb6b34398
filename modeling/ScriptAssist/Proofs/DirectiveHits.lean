import ScriptAssist.Proofs.DirectiveTooltips
import ScriptAssist.Proofs.Stretches

/-!
# Hits of directives

What is found under a caret is a directive, or the argument of one: a word on the line of the
directive. The word stands behind the directive if the directive is indented by spaces and tabs.
Other blanks around a line are no part of it either, but they do not end a word, so one that
indents a directive is itself taken for its argument, as is a directive right behind it.
-/

namespace ScriptAssist.Directive

open Text

variable {code before indent directive rest after word : Text} {caret : Nat} {hit : Hit}

/-- The caret is on a line that the directive starts, behind some blanks. -/
structure IsOnLineOf (code : Text) (caret : Nat) (before indent directive rest after : Text) :
    Prop where
  line : IsLine code caret before (indent ++ directive ++ rest) after
  blank : isBlankText indent = true

/-- The caret is on `word`, or at one of its ends, in a text that stands at `place`. -/
def StandsIn (text : Text) (place : Nat) (word : Text) (caret : Nat) : Prop :=
  ∃ gap more, text = gap ++ word ++ more ∧
    place + gap.length ≤ caret ∧ caret ≤ place + gap.length + word.length

/-! ### The directive of a line -/

lemma contains_of_mem_start {c : Char} (h : c ∈ start) :
    WordKind.path.delimiters.contains c = false := by
  have hfree : start.all (fun c => !WordKind.path.delimiters.contains c) = true := by decide
  simpa using List.all_eq_true.mp hfree c h

lemma ofLine_append (more : Text) :
    ofLine (start ++ more) =
      start ++ more.takeWhile fun c => !WordKind.path.delimiters.contains c := by
  have hstart : start = ['/', '/'] ++ "css_".toList := rfl
  have hslashes : tailAfter (fun c => WordKind.path.delimiters.contains c) ['/', '/'] =
      ['/', '/'] := by
    decide
  have hname : ∀ c ∈ "css_".toList, (!WordKind.path.delimiters.contains c) = true := by
    intro c hc
    rw [contains_of_mem_start (hstart ▸ List.mem_append_right _ hc)]
    rfl
  calc ofLine (start ++ more)
    _ = tailAfter (fun c => WordKind.path.delimiters.contains c) ['/', '/'] ++
        ("css_".toList ++ more).takeWhile fun c => !WordKind.path.delimiters.contains c := by
      rw [hstart, List.append_assoc]
      rfl
    _ = ['/', '/'] ++ ("css_".toList ++ more.takeWhile fun c =>
        !WordKind.path.delimiters.contains c) := by
      rw [hslashes, List.takeWhile_append_of_pos hname]
    _ = start ++ more.takeWhile fun c => !WordKind.path.delimiters.contains c := by
      rw [hstart, List.append_assoc]

/-- What starts as a directive does is the directive and a rest. -/
lemma exists_ofLine_append {line : Text} (h : startsWith start line = true) :
    startsWith start (ofLine line) = true ∧
    (∀ c ∈ ofLine line, c ∉ WordKind.path.delimiters) ∧ ∃ rest, line = ofLine line ++ rest := by
  obtain ⟨more, rfl⟩ := List.isPrefixOf_iff_prefix.mp h
  rw [ofLine_append]
  refine ⟨List.isPrefixOf_iff_prefix.mpr (List.prefix_append start _), fun c hc => ?_,
    more.dropWhile fun c => !WordKind.path.delimiters.contains c, ?_⟩
  · rcases List.mem_append.mp hc with hc | hc
    · simpa using contains_of_mem_start hc
    · simpa using List.mem_takeWhile_imp hc
  · rw [List.append_assoc, List.takeWhile_append_dropWhile]

/-- A line that starts as a directive does, apart from blanks, is one of its directive. -/
lemma exists_isOnLineOf (h : startsWith start (lineAt code caret) = true) :
    ∃ before indent rest after,
      IsOnLineOf code caret before indent (ofLine (lineAt code caret)) rest after := by
  obtain ⟨before, after, hline⟩ := exists_isStretch (fun c => c = '\r' || c = '\n') code caret
  obtain ⟨indent, trailing, htrim, hblank, -⟩ := exists_append_trim (fullLineAt code caret)
  obtain ⟨-, -, rest, hrest⟩ := exists_ofLine_append h
  have hfull : fullLineAt code caret =
      indent ++ ofLine (lineAt code caret) ++ (rest ++ trailing) := by
    calc fullLineAt code caret
      _ = indent ++ lineAt code caret ++ trailing := htrim
      _ = indent ++ (ofLine (lineAt code caret) ++ rest) ++ trailing := by rw [← hrest]
      _ = indent ++ ofLine (lineAt code caret) ++ (rest ++ trailing) := by simp
  exact ⟨before, indent, rest ++ trailing, after, hfull ▸ hline, hblank⟩

/-! ### Hits -/

lemma parseAt_of_startsWith_word (h : startsWith start (wordAt .path code caret) = true) :
    parseAt code caret = some (.directive (wordAt .path code caret)) := by
  rw [parseAt, isAt, h]
  simp

lemma parseAt_eq_none (hword : startsWith start (wordAt .path code caret) = false)
    (hline : startsWith start (lineAt code caret) = false) : parseAt code caret = none := by
  rw [parseAt, isAt, hword, hline]
  simp

lemma parseAt_of_startsWith_line (hword : startsWith start (wordAt .path code caret) = false)
    (hline : startsWith start (lineAt code caret) = true) :
    parseAt code caret =
      if (wordAt .path code caret).isEmpty || (extensions? (ofLine (lineAt code caret))).isNone then
        some (.directive (ofLine (lineAt code caret)))
      else some (.argument (ofLine (lineAt code caret)) (wordAt .path code caret)) := by
  rw [parseAt, isAt, hword, hline]
  simp

lemma parseAt_eq_argument_iff {directive word : Text} :
    parseAt code caret = some (.argument directive word) ↔
      wordAt .path code caret = word ∧ ofLine (lineAt code caret) = directive ∧
      startsWith start word = false ∧ startsWith start (lineAt code caret) = true ∧
      word ≠ [] ∧ (extensions? directive).isSome = true := by
  cases hword : startsWith start (wordAt .path code caret) with
  | true =>
    rw [parseAt_of_startsWith_word hword]
    constructor
    · simp
    · rintro ⟨rfl, -, hstart, -⟩
      exact absurd (hword.symm.trans hstart) (by decide)
  | false =>
    cases hline : startsWith start (lineAt code caret) with
    | false =>
      rw [parseAt_eq_none hword hline]
      simp
    | true =>
      rw [parseAt_of_startsWith_line hword hline]
      split_ifs with hnone
      · simp only [Bool.or_eq_true, List.isEmpty_iff, Option.isNone_iff_eq_none] at hnone
        simp only [Option.some.injEq, reduceCtorEq, false_iff, not_and]
        rintro rfl rfl - - hne hsome
        rcases hnone with hnone | hnone
        · exact hne hnone
        · rw [hnone] at hsome
          exact absurd hsome (by decide)
      · simp only [Bool.or_eq_true, List.isEmpty_iff, Option.isNone_iff_eq_none, not_or] at hnone
        simp only [Option.some.injEq, Hit.argument.injEq]
        constructor
        · rintro ⟨rfl, rfl⟩
          exact ⟨rfl, rfl, hword, trivial, hnone.1, Option.isSome_iff_ne_none.mpr hnone.2⟩
        · rintro ⟨hword, hdirective, -⟩
          exact ⟨hdirective, hword⟩

/-- The name in a hit is that of a directive. -/
lemma isName_of_parseAt (h : parseAt code caret = some hit) :
    startsWith start hit.name = true ∧ ∀ c ∈ hit.name, c ∉ WordKind.path.delimiters := by
  cases hword : startsWith start (wordAt .path code caret) with
  | true =>
    rw [parseAt_of_startsWith_word hword, Option.some.injEq] at h
    obtain ⟨front, back, hstretch⟩ :=
      exists_isStretch (fun c => WordKind.path.delimiters.contains c) code caret
    subst h
    exact ⟨hword, fun c hc => by simpa using hstretch.free c hc⟩
  | false =>
    cases hline : startsWith start (lineAt code caret) with
    | false =>
      rw [parseAt_eq_none hword hline] at h
      exact absurd h (by simp)
    | true =>
      obtain ⟨hstart, hfree, -⟩ := exists_ofLine_append hline
      rw [parseAt_of_startsWith_line hword hline] at h
      split_ifs at h <;> cases h <;> exact ⟨hstart, hfree⟩

/-! ### Arguments and indentation -/

section

variable {front back more : Text}

/-- A word does not end in the middle of what directives start with. -/
lemma startsWith_of_isWord (hword : IsWord .path code caret front word (more ++ after))
    {rest : Text} (h : word ++ more = start ++ rest) : startsWith start word = true := by
  rcases List.append_eq_append_iff.mp h with ⟨part, hstart, hmore⟩ | ⟨part, hpart, -⟩
  · cases part with
    | nil => exact List.isPrefixOf_iff_prefix.mpr ⟨[], by simpa using hstart⟩
    | cons c part =>
      have hstop := hword.behind c (by rw [hmore]; rfl)
      rw [contains_of_mem_start (by simp [hstart])] at hstop
      exact absurd hstop (by decide)
  · exact List.isPrefixOf_iff_prefix.mpr ⟨part, hpart.symm⟩

/-- A word does not begin in an indentation by delimiters. -/
lemma exists_gap_of_delimiters (hindent : ∀ c ∈ indent, c ∈ WordKind.path.delimiters)
    (hword : IsWord .path code caret front word back) (hne : word ≠ []) {gap line : Text}
    (h : indent ++ line = gap ++ (word ++ more)) :
    ∃ gap', gap = indent ++ gap' ∧ line = gap' ++ (word ++ more) := by
  rcases List.append_eq_append_iff.mp h with hgap | ⟨part, hpart, hline⟩
  · exact hgap
  · cases part with
    | nil => exact ⟨[], by simpa using hpart.symm, by simpa using hline.symm⟩
    | cons c part =>
      obtain ⟨d, word, rfl⟩ := List.exists_cons_of_ne_nil hne
      obtain ⟨rfl, -⟩ := List.cons.inj hline
      have hfree := hword.free d List.mem_cons_self
      have hdelimiter := hindent d (by simp [hpart])
      rw [List.contains_iff_mem.mpr hdelimiter] at hfree
      exact absurd hfree (by decide)

/-- A word stands behind the directive if the indentation is by delimiters. -/
lemma standsIn_of_delimiters (honline : IsOnLineOf code caret before indent directive rest after)
    (hindent : ∀ c ∈ indent, c ∈ WordKind.path.delimiters)
    (hdirective : startsWith start directive = true)
    (hname : ∀ c ∈ directive, c ∉ WordKind.path.delimiters)
    (hword : IsWord .path code caret front word back) (hne : word ≠ [])
    (hstart : startsWith start word = false) :
    StandsIn rest (before ++ indent ++ directive).length word (min caret code.length) := by
  obtain ⟨gap, more, hfront, hsplit, hback⟩ := IsWord.nested_isLine honline.line hword
  rw [List.append_assoc gap, List.append_assoc] at hsplit
  obtain ⟨gap', rfl, hline⟩ := exists_gap_of_delimiters hindent hword hne hsplit
  rcases List.append_eq_append_iff.mp hline with ⟨within, rfl, hrest⟩ | ⟨part, hpart, hmore⟩
  · have hbegins := hword.begins
    have hends := hword.ends
    rw [hfront] at hbegins hends
    refine ⟨within, more, by simpa using hrest, ?_, ?_⟩
    · simp only [List.length_append] at hbegins ⊢
      omega
    · simp only [List.length_append] at hends ⊢
      omega
  · -- the word would begin in the directive, which is a word of its own
    by_cases hnil : gap' = []
    · obtain ⟨name, hdirective⟩ := List.isPrefixOf_iff_prefix.mp hdirective
      rw [hnil, List.nil_append] at hpart
      rw [← hpart, ← hdirective, List.append_assoc] at hmore
      rw [startsWith_of_isWord (hback ▸ hword) hmore] at hstart
      exact absurd hstart (by decide)
    · have hlast := List.getLast?_eq_some_getLast hnil
      have hstop := hword.before (gap'.getLast hnil) (by
        rw [hfront, ← List.append_assoc, List.getLast?_append, hlast]
        rfl)
      have hfree := hname (gap'.getLast hnil)
        (hpart ▸ List.mem_append_left part (List.getLast_mem hnil))
      exact absurd (List.contains_iff_mem.mp hstop) hfree

end

lemma eq_of_mem_delimiters {c : Char} (h : c ∈ WordKind.path.delimiters)
    (hblank : isBlank c = true) (hbreak : c ≠ '\r' ∧ c ≠ '\n') : c = ' ' ∨ c = '\t' := by
  have hall : WordKind.path.delimiters.all
      (fun c => !isBlank c || c = '\r' || c = '\n' || c = ' ' || c = '\t') = true := by
    decide
  simpa [hblank, hbreak] using List.all_eq_true.mp hall c h

/-- What begins with a blank is no directive. -/
lemma startsWith_of_blanks {blanks : Text} (hne : blanks ≠ [])
    (hblank : ∀ c ∈ blanks, isBlank c = true) (more : Text) :
    startsWith start (blanks ++ more) = false := by
  obtain ⟨c, blanks, rfl⟩ := List.exists_cons_of_ne_nil hne
  by_contra hstart
  rw [Bool.not_eq_false] at hstart
  obtain ⟨name, hname⟩ := List.isPrefixOf_iff_prefix.mp hstart
  obtain ⟨rfl, -⟩ := List.cons.inj hname
  exact absurd (hblank '/' List.mem_cons_self) (by decide)

/-- A blank of the indentation that can be in a word is taken for an argument. -/
lemma exists_argument_of_notMem (honline : IsOnLineOf code caret before indent directive rest after)
    (hstart : startsWith start (lineAt code caret) = true)
    (hof : ofLine (lineAt code caret) = directive)
    (hextensions : (extensions? directive).isSome = true) {x : Char} (hx : x ∈ indent)
    (hdelimiter : x ∉ WordKind.path.delimiters) :
    ∃ caret' word', IsLine code caret' before (indent ++ directive ++ rest) after ∧
      parseAt code caret' = some (.argument directive word') ∧
      caret' < (before ++ indent).length := by
  obtain ⟨front, behind, hindent⟩ := List.append_of_mem hx
  have hcode : code = before ++ front ++ x :: (behind ++ directive ++ rest ++ after) := by
    rw [honline.line.split, hindent]
    simp
  have hlength : min (before ++ front).length code.length = (before ++ front).length := by
    rw [hcode]
    simp only [List.length_append, List.length_cons]
    omega
  have hline : IsLine code (before ++ front).length before (indent ++ directive ++ rest) after := by
    refine honline.line.of_caret_mem ?_ ?_
    · rw [hlength, List.length_append]
      omega
    · rw [hlength, hindent]
      simp only [List.length_append, List.length_cons]
      omega
  obtain ⟨front', back', hword⟩ :=
    exists_isStretch (fun c => WordKind.path.delimiters.contains c) code (before ++ front).length
  obtain ⟨w, w', hsplit, hbefore, -⟩ := hword.exists_of_behind hcode rfl (by simpa using hdelimiter)
  obtain ⟨gap, -, hfront, -⟩ := IsWord.nested_isLine hline hword
  have hblank : ∀ c ∈ w ++ [x], isBlank c = true := by
    intro c hc
    refine List.all_eq_true.mp honline.blank c ?_
    rw [hfront, List.append_assoc, List.append_cancel_left_eq] at hbefore
    rw [hindent, hbefore]
    simp only [List.mem_append, List.mem_singleton] at hc
    rcases hc with hc | rfl
    · simp [hc]
    · simp
  have hwhole : wordAt .path code (before ++ front).length = w ++ [x] ++ w' := by
    rw [wordAt, hsplit, List.append_assoc]
    rfl
  have hsame := hline.lineAt_eq.trans honline.line.lineAt_eq.symm
  refine ⟨_, w ++ [x] ++ w', hline, ?_, ?_⟩
  · exact parseAt_eq_argument_iff.mpr ⟨hwhole, hsame ▸ hof,
      startsWith_of_blanks (by simp) hblank w', hsame ▸ hstart, by simp, hextensions⟩
  · rw [hindent]
    simp only [List.length_append, List.length_cons]
    omega

/-- A hit names a directive. One on an argument is on a word that stands behind its directive, at
every caret on that line, if and only if the directive is indented by spaces and tabs. -/
theorem parseAt_argument_behind_directive (code : Text) (caret : Nat) :
    (∀ hit, parseAt code caret = some hit →
      startsWith start hit.name = true ∧ ∀ c ∈ hit.name, c ∉ WordKind.path.delimiters) ∧
    ∀ directive word, parseAt code caret = some (.argument directive word) →
      (extensions? directive).isSome = true ∧ word ≠ [] ∧
      (∃ front back, IsWord .path code caret front word back) ∧
      ∃ before indent rest after, IsOnLineOf code caret before indent directive rest after ∧
        ((∀ c ∈ indent, c = ' ' ∨ c = '\t') ↔
          ∀ caret' word', IsLine code caret' before (indent ++ directive ++ rest) after →
            parseAt code caret' = some (.argument directive word') →
            StandsIn rest (before ++ indent ++ directive).length word'
              (min caret' code.length)) := by
  refine ⟨fun hit hhit => isName_of_parseAt hhit, fun directive word hhit => ?_⟩
  obtain ⟨hstart, hname⟩ := isName_of_parseAt hhit
  obtain ⟨rfl, hof, hword, hline, hne, hextensions⟩ := parseAt_eq_argument_iff.mp hhit
  obtain ⟨before, indent, rest, after, honline⟩ := exists_isOnLineOf hline
  rw [hof] at honline
  refine ⟨hextensions, hne, exists_isStretch _ code caret, before, indent, rest, after, honline,
    fun hindent caret' word' hline' hhit' => ?_, fun hbehind x hx => ?_⟩
  · have hindent' : ∀ c ∈ indent, c ∈ WordKind.path.delimiters := by
      intro c hc
      rcases hindent c hc with rfl | rfl <;> decide
    obtain ⟨rfl, -, hword', -, hne', -⟩ := parseAt_eq_argument_iff.mp hhit'
    obtain ⟨front, back, hstretch⟩ :=
      exists_isStretch (fun c => WordKind.path.delimiters.contains c) code caret'
    exact standsIn_of_delimiters ⟨hline', honline.blank⟩ hindent' hstart hname hstretch hne' hword'
  · by_contra hodd
    have hblank := List.all_eq_true.mp honline.blank x hx
    have hbreak := honline.line.free x (by simp [hx])
    have hdelimiter : x ∉ WordKind.path.delimiters := fun hmem =>
      hodd (eq_of_mem_delimiters hmem hblank (by simpa using hbreak))
    obtain ⟨caret', word', hline', hhit', hbefore⟩ :=
      exists_argument_of_notMem honline hline hof hextensions hx hdelimiter
    obtain ⟨gap, more, -, hplace, -⟩ := hbehind caret' word' hline' hhit'
    simp only [List.length_append] at hbefore hplace
    omega

/-- A directive that a tab indents, with its argument. -/
def tabbedInclude : Text :=
  "f();\n\t//css_inc b.cs".toList

theorem parseAt_argument_behind_directive_tabbed :
    parseAt tabbedInclude 18 = some (.argument "//css_inc".toList "b.cs".toList) ∧
    ∃ before indent rest after,
      IsOnLineOf tabbedInclude 18 before indent "//css_inc".toList rest after ∧
      (∀ c ∈ indent, c = ' ' ∨ c = '\t') ∧
      StandsIn rest (before ++ indent ++ "//css_inc".toList).length "b.cs".toList 18 := by
  have hhit : parseAt tabbedInclude 18 = some (.argument "//css_inc".toList "b.cs".toList) := by
    decide
  obtain ⟨-, -, -, before, indent, rest, after, honline, hiff⟩ :=
    (parseAt_argument_behind_directive tabbedInclude 18).2 _ _ hhit
  have hindent : ∀ c ∈ indent, c = ' ' ∨ c = '\t' := by
    intro c hc
    have hall : tabbedInclude.all
        (fun c => !isBlank c || c = '\r' || c = '\n' || c = ' ' || c = '\t') = true := by
      decide
    have hmem : c ∈ tabbedInclude := by
      rw [honline.line.split]
      simp [hc]
    have hblank : isBlank c = true := List.all_eq_true.mp honline.blank c hc
    have hfree : c ≠ '\r' ∧ c ≠ '\n' := by
      simpa using honline.line.free c (by simp [hc])
    simpa [hblank, hfree] using List.all_eq_true.mp hall c hmem
  exact ⟨hhit, before, indent, rest, after, honline, hindent,
    hiff.mp hindent 18 _ honline.line hhit⟩

/-- A directive that a no-break space indents is taken for its own argument. -/
theorem directive_taken_for_argument :
    let code := "\u00a0//css_inc b.cs".toList
    parseAt code 5 = some (.argument "//css_inc".toList "\u00a0//css_inc".toList) ∧
    IsOnLineOf code 5 [] ['\u00a0'] "//css_inc".toList " b.cs".toList [] ∧
    ¬ StandsIn " b.cs".toList "\u00a0//css_inc".length "\u00a0//css_inc".toList 5 := by
  refine ⟨by decide, ⟨⟨by decide, by decide, by decide, by simp, by simp, by simp⟩, by decide⟩,
    ?_⟩
  rintro ⟨gap, more, -, hplace, -⟩
  have hlength : "\u00a0//css_inc".length = 10 := by decide
  omega

end ScriptAssist.Directive
