import ScriptAssist.Proofs.NarrowCounters
import ScriptAssist.Proofs.UnsavedScripts

/-!
# Regions in replies

A region that the engine reports goes through two steps before it is shown: a region of a decorated
script is moved back to the script's lines, and a region of a generated file is shown in the source
the file was made from. Decorated scripts are not generated, so at most one of the two moves it.
-/

namespace ScriptAssist

open Text

/-- The lines of `s` have numbers that regions can hold. -/
def Text.HasLineNumbers (s : Text) : Prop :=
  s.count '\n' < 0x80000000

namespace Region

variable {region moved : Region} {shift : Nat}

/-- `moved` is `region`, `shift` lines further up, in whatever file. -/
structure IsLifted (region moved : Region) (shift : Nat) : Prop where
  beginLine : moved.beginLine.toInt = region.beginLine.toInt - shift
  endLine : moved.endLine.toInt = region.endLine.toInt - shift
  beginColumn : moved.beginColumn = region.beginColumn
  isEmpty : moved.isEmpty = region.isEmpty

lemma isLifted_zero (region : Region) : region.IsLifted region 0 :=
  ⟨by simp, by simp, rfl, rfl⟩

lemma IsLifted.withFileName (h : region.IsLifted moved shift) (name : Text) :
    region.IsLifted { moved with fileName := name } shift :=
  ⟨h.beginLine, h.endLine, h.beginColumn, h.isEmpty⟩

end Region

/-! ### Regions of marked texts -/

namespace Decoration

variable {text : Text} {region : Region}

/-- The first marker of a text is on a line up to this one. -/
def MarksUpTo (text : Text) (line : Int32) : Prop :=
  ∃ front back, cutAt? AutoClass.marker text = some (front, back) ∧
    ((front.count '\n' + 1 : Nat) : Int) ≤ line.toInt

/-- A region is moved back by one line if the marker is not behind its first line, and else not at
all. -/
lemma undecorate_cases (htext : text.HasLineNumbers) (hend : Int32.minValue < region.endLine) :
    (MarksUpTo text region.beginLine ∧ region.IsLifted (undecorate text region) 1 ∧
        (undecorate text region).fileName = region.fileName) ∨
      ¬ MarksUpTo text region.beginLine ∧ undecorate text region = region := by
  rw [undecorate, injectedLine?_eq]
  cases hcut : cutAt? AutoClass.marker text with
  | none =>
    refine .inr ⟨?_, rfl⟩
    rintro ⟨front, back, hsome, -⟩
    rw [hcut] at hsome
    exact absurd hsome (by simp)
  | some around =>
    obtain ⟨front, back⟩ := around
    have hcount : front.count '\n' ≤ text.count '\n' := by
      rw [append_of_cutAt? hcut, List.append_assoc, List.count_append]
      omega
    have hinjected := Int32.toInt_ofNat_of_lt (Nat.lt_of_le_of_lt hcount htext)
    have hmarks : MarksUpTo text region.beginLine ↔
        Int32.ofNat (front.count '\n') < region.beginLine := by
      rw [Int32.lt_iff_toInt_lt, hinjected]
      constructor
      · rintro ⟨front', back', hsome, hle⟩
        rw [hcut, Option.some.injEq, Prod.mk.injEq] at hsome
        rw [← hsome.1] at hle
        omega
      · intro hlt
        exact ⟨front, back, hcut, by omega⟩
    dsimp only [Option.map_some]
    by_cases hlt : Int32.ofNat (front.count '\n') < region.beginLine
    · rw [if_pos hlt]
      have hbegin : Int32.minValue < region.beginLine :=
        Int32.lt_of_le_of_lt (Int32.minValue_le _) hlt
      have hlifted := toInt_sub_one hbegin
      exact .inl ⟨hmarks.mpr hlt, ⟨hlifted, toInt_sub_one hend, rfl, rfl⟩, rfl⟩
    · rw [if_neg hlt]
      exact .inr ⟨fun h => hlt (hmarks.mp h), rfl⟩

end Decoration

/-! ### Regions of generated files -/

namespace Generated

variable {files : Files} {file source : Path} {region : Region}

/-- The lines of a file have numbers if it is generated and can be read. -/
def HasLineNumbers (files : Files) (file : Path) : Prop :=
  isGenerated file = true → ∀ text, files.readSource file = .ok text → text.HasLineNumbers

/-- Regions of `file` are shown in `source`, which it was generated from. -/
def IsMadeFrom (files : Files) (file source : Path) : Prop :=
  isGenerated file = true ∧ sourceOf? files file = some source

lemma IsMadeFrom.isFile (h : IsMadeFrom files file source) : files.isFile source = true := by
  have hsource := h.2
  simp only [sourceOf?, Option.bind_eq_bind, Option.bind_eq_some_iff,
    Option.ite_none_right_eq_some, Option.some.injEq] at hsource
  obtain ⟨_, _, _, _, _, _, _, _, hfile, rfl⟩ := hsource
  exact hfile

lemma redirect_of_not_isMadeFrom (h : ∀ source, ¬ IsMadeFrom files ⟨region.fileName⟩ source) :
    redirect files region = region := by
  rw [redirect]
  dsimp only
  split_ifs with hgenerated
  · rfl
  · cases hsource : sourceOf? files ⟨region.fileName⟩ with
    | none => rfl
    | some source => exact absurd ⟨by simpa using hgenerated, hsource⟩ (h source)

lemma redirect_of_isMadeFrom (h : IsMadeFrom files ⟨region.fileName⟩ source) :
    ∃ moved, redirect files region = { moved with fileName := source.text } ∧
      ((∃ generated, files.readSource ⟨region.fileName⟩ = .ok generated ∧
          moved = Decoration.undecorate generated region) ∨
        (∃ cause, files.readSource ⟨region.fileName⟩ = .error cause) ∧ moved = region) := by
  cases hread : files.readSource ⟨region.fileName⟩ with
  | ok generated =>
    refine ⟨_, ?_, .inl ⟨generated, rfl, rfl⟩⟩
    simp [redirect, h.1, h.2, hread]
  | error cause =>
    refine ⟨_, ?_, .inr ⟨⟨cause, rfl⟩, rfl⟩⟩
    simp [redirect, h.1, h.2, hread]

/-- A region is in a generated file that is shown as its source, and the marker of the class that
was put around that is not behind the region's first line. -/
def Moves (files : Files) (region : Region) : Prop :=
  ∃ source generated, IsMadeFrom files ⟨region.fileName⟩ source ∧
    files.readSource ⟨region.fileName⟩ = .ok generated ∧
    Decoration.MarksUpTo generated region.beginLine

lemma isLifted_redirect (htext : HasLineNumbers files ⟨region.fileName⟩)
    (hend : Int32.minValue < region.endLine) :
    (Moves files region ∧ region.IsLifted (redirect files region) 1) ∨
      ¬ Moves files region ∧ region.IsLifted (redirect files region) 0 := by
  by_cases hmade : ∃ source, IsMadeFrom files ⟨region.fileName⟩ source
  · obtain ⟨source, hmade⟩ := hmade
    obtain ⟨moved, hredirect, ⟨generated, hread, rfl⟩ | ⟨⟨cause, hread⟩, rfl⟩⟩ :=
      redirect_of_isMadeFrom hmade
    · rw [hredirect]
      rcases Decoration.undecorate_cases (htext hmade.1 generated hread) hend with
        ⟨hmarks, hlifted, -⟩ | ⟨hmarks, hsame⟩
      · exact .inl ⟨⟨source, generated, hmade, hread, hmarks⟩, hlifted.withFileName source.text⟩
      · refine .inr ⟨?_, ?_⟩
        · rintro ⟨_, other, -, hok, hmoved⟩
          rw [hread, Except.ok.injEq] at hok
          exact hmarks (hok ▸ hmoved)
        · rw [hsame]
          exact region.isLifted_zero.withFileName source.text
    · rw [hredirect]
      refine .inr ⟨?_, moved.isLifted_zero.withFileName source.text⟩
      rintro ⟨_, generated, -, hok, -⟩
      rw [hread] at hok
      exact absurd hok (by simp)
  · rw [not_exists] at hmade
    rw [redirect_of_not_isMadeFrom hmade]
    refine .inr ⟨?_, region.isLifted_zero⟩
    rintro ⟨source, -, hsource, -⟩
    exact hmade source hsource

end Generated

namespace Session

variable {assistant : Assistant} {document : Document} {session ready : Session}
  {decoration : Decoration} {context : Context} {caret : UInt64} {files : Files}
  {region shown : Region} {script : Path}

/-- A script was decorated, and the marker is not behind the first line of a region in it. -/
def DecorationMoves (decoration : Decoration) (script : Path) (region : Region) : Prop :=
  decoration.decorated = true ∧ region.fileName = script.text ∧
    Decoration.MarksUpTo decoration.text region.beginLine

/-- How a region that the engine reports is shown: moved for the script's own decoration or for that
of a generated file, never for both, and otherwise as it is. -/
structure IsShownAs (files : Files) (decoration : Decoration) (script : Path)
    (region shown : Region) : Prop where
  lines : ∃ shift, (shift = 0 ∨ shift = 1) ∧ region.IsLifted shown shift ∧
    (shift = 1 ↔ DecorationMoves decoration script region ∨ Generated.Moves files region)
  once : ¬ (DecorationMoves decoration script region ∧ Generated.Moves files region)
  source : ∀ source, Generated.IsMadeFrom files ⟨region.fileName⟩ source →
    files.isFile source = true ∧ shown.fileName = source.text
  file : (∀ source, ¬ Generated.IsMadeFrom files ⟨region.fileName⟩ source) →
    shown.fileName = region.fileName
  other : region.fileName ≠ script.text →
    (∀ source, ¬ Generated.IsMadeFrom files ⟨region.fileName⟩ source) → shown = region

lemma exists_shift {p : Prop}
    (h : (p ∧ region.IsLifted shown 1) ∨ ¬ p ∧ region.IsLifted shown 0) :
    ∃ shift, (shift = 0 ∨ shift = 1) ∧ region.IsLifted shown shift ∧ (shift = 1 ↔ p) := by
  rcases h with ⟨hp, hlifted⟩ | ⟨hp, hlifted⟩
  · exact ⟨1, .inr rfl, hlifted, iff_of_true rfl hp⟩
  · exact ⟨0, .inl rfl, hlifted, iff_of_false Nat.zero_ne_one hp⟩

lemma settle_of_decorated (hdecorated : decoration.decorated = true)
    (hscript : region.fileName = script.text) :
    settle files decoration script.text region =
      Generated.redirect files (Decoration.undecorate decoration.text region) := by
  rw [settle, if_pos (by simp [hdecorated, hscript])]

lemma settle_of_other (hother : ¬ (decoration.decorated = true ∧ region.fileName = script.text)) :
    settle files decoration script.text region = Generated.redirect files region := by
  rw [settle, if_neg (by simpa using hother)]

/-- Decorated scripts are not generated, so their regions are only moved back to their lines. -/
lemma isShownAs_of_decorated (hscript : Generated.isGenerated script = false)
    (hdecorated : decoration.decorated = true) (hfile : region.fileName = script.text)
    (htext : decoration.text.HasLineNumbers) (hend : Int32.minValue < region.endLine) :
    IsShownAs files decoration script region (settle files decoration script.text region) := by
  have hnone : ∀ source, ¬ Generated.IsMadeFrom files ⟨region.fileName⟩ source := by
    intro source hmade
    rw [Generated.IsMadeFrom, hfile, hscript] at hmade
    exact absurd hmade.1 Bool.false_ne_true
  have hmoves : ¬ Generated.Moves files region := by
    rintro ⟨source, generated, hmade, -⟩
    exact hnone source hmade
  have hname : (Decoration.undecorate decoration.text region).fileName = region.fileName := by
    rcases Decoration.undecorate_cases htext hend with ⟨-, -, hname⟩ | ⟨-, hsame⟩
    · exact hname
    · rw [hsame]
  rw [settle_of_decorated hdecorated hfile, Generated.redirect_of_not_isMadeFrom (by rwa [hname])]
  refine ⟨exists_shift ?_, fun h => hmoves h.2, fun source hmade => absurd hmade (hnone source),
    fun _ => hname, fun hother => absurd hfile hother⟩
  rcases Decoration.undecorate_cases htext hend with ⟨hmarks, hlifted, -⟩ | ⟨hmarks, hsame⟩
  · exact .inl ⟨.inl ⟨hdecorated, hfile, hmarks⟩, hlifted⟩
  · rw [hsame]
    refine .inr ⟨?_, region.isLifted_zero⟩
    rintro (hmoved | hmoved)
    · exact hmarks hmoved.2.2
    · exact hmoves hmoved

/-- All other regions are only shown in the source of their file, if there is one. -/
lemma isShownAs_of_other
    (hother : ¬ (decoration.decorated = true ∧ region.fileName = script.text))
    (htext : Generated.HasLineNumbers files ⟨region.fileName⟩)
    (hend : Int32.minValue < region.endLine) :
    IsShownAs files decoration script region (settle files decoration script.text region) := by
  have hmoves : ¬ DecorationMoves decoration script region :=
    fun hmoved => hother ⟨hmoved.1, hmoved.2.1⟩
  rw [settle_of_other hother]
  refine ⟨exists_shift ?_, fun h => hmoves h.1, ?_, ?_, ?_⟩
  · rw [or_iff_right hmoves]
    exact Generated.isLifted_redirect htext hend
  · intro source hmade
    obtain ⟨moved, hredirect, -⟩ := Generated.redirect_of_isMadeFrom hmade
    exact ⟨hmade.isFile, by rw [hredirect]⟩
  · intro hnone
    rw [Generated.redirect_of_not_isMadeFrom hnone]
  · intro _ hnone
    exact Generated.redirect_of_not_isMadeFrom hnone

lemma isShownAs_settle
    (hscript : decoration.decorated = true → Generated.isGenerated script = false)
    (hdecoration : decoration.text.HasLineNumbers)
    (htext : Generated.HasLineNumbers files ⟨region.fileName⟩)
    (hend : Int32.minValue < region.endLine) :
    IsShownAs files decoration script region (settle files decoration script.text region) := by
  by_cases hown : decoration.decorated = true ∧ region.fileName = script.text
  · exact isShownAs_of_decorated (hscript hown.1) hown.1 hown.2 hdecoration hend
  · exact isShownAs_of_other hown htext hend

/-! ### Replies -/

/-- A context is about the script as it was written, and only scripts that are not generated are
decorated for it. -/
lemma of_result_decoratedContext
    (h : (decoratedContext assistant document caret).result session =
      (.ok (decoration, context), ready)) :
    document.code = .ok document.script.content ∧ context.file = document.script.file.text ∧
      (decoration.decorated = true → Generated.isGenerated document.script.file = false) := by
  obtain ⟨code, started, hcode, hdecorated⟩ := Action.ok_of_result_bind h
  obtain ⟨found, loaded, hdecorate, hrest⟩ := Action.ok_of_result_bind hdecorated
  obtain ⟨asked, after, hcontext, hpair⟩ := Action.ok_of_result_bind hrest
  obtain ⟨rfl, rfl⟩ := Prod.mk.inj (Except.ok.inj (congrArg Prod.fst hpair))
  obtain ⟨-, -, -, -, -, -, hfile, -⟩ := project_of_result_context (congrArg Prod.fst hcontext)
  have hdocument : document.code = .ok code := congrArg Prod.fst hcode
  refine ⟨?_, hfile, ?_⟩
  · rw [hdocument]
    rw [Document.code] at hdocument
    split_ifs at hdocument
    rw [← Except.ok.inj hdocument]
  · intro hwrapped
    by_contra hgenerated
    rw [decorate, if_pos (by simpa using hgenerated)] at hdecorate
    rw [← Except.ok.inj (congrArg Prod.fst hdecorate)] at hwrapped
    exact absurd hwrapped Bool.false_ne_true

lemma result_references (hcontext : (decoratedContext assistant document caret).result session =
      (.ok (decoration, context), ready)) {regions : List Region}
    (hanswer : assistant.engine ready.machine (.references context) = .ok regions) :
    ((references assistant document caret).result session).1 =
      .ok (some (Text.joinLines ((regions.map
        (settle ready.machine.files decoration context.file)).map fun region =>
          if document.rich then region.toRich else region.toLine))) := by
  rw [references, Action.result_bind_of_ok hcontext,
    Action.result_bind_of_ok (result_ask_of_ok hanswer),
    Action.result_bind_of_ok (Action.result_get _), Action.result_pure]
  rfl

lemma result_resolve (hcontext : (decoratedContext assistant document caret).result session =
      (.ok (decoration, context), ready))
    (hanswer : assistant.engine ready.machine (.resolve context) = .ok region)
    (hcode : document.code = .ok document.script.content)
    (hdirective : Directive.parseAt document.script.content caret.toNat = none)
    (hsettle : settle ready.machine.files decoration context.file region = shown)
    (hfound : shown.isEmpty = false) :
    ((resolve assistant document caret).result session).1 =
      .ok (some (if document.rich then shown.toRich else shown.toPlain)) := by
  have hregion : ((resolveRegion assistant document caret).result session).1 = .ok shown := by
    rw [resolveRegion, hcode, Action.result_bind_of_ok (Action.result_ofExcept _ _), hdirective,
      directiveRegion, Action.result_bind_of_ok (Action.result_pure _ _), if_pos (by rfl),
      engineRegion, Action.result_bind_of_ok hcontext,
      Action.result_bind_of_ok (result_ask_of_ok hanswer),
      Action.result_bind_of_ok (Action.result_get _), Action.result_pure, ← hsettle]
    rfl
  rw [resolve, Action.result_bind_of_ok (Prod.ext hregion rfl), if_neg (by simp [hfound]),
    Action.result_pure]

/-- The lines of a region can be moved by one, and those of its file have numbers if the file is
generated. -/
structure IsMovable (files : Files) (region : Region) : Prop where
  endLine : Int32.minValue < region.endLine
  file : Generated.HasLineNumbers files ⟨region.fileName⟩

/-- The regions in the replies to a caret are those that the engine reports, each moved back by at
most one line: for the class that was put around the script if they are in the script, and for that
around a generated file if they are shown in its source. -/
theorem regions_moved_back_once
    (hcontext : (decoratedContext assistant document caret).result session =
      (.ok (decoration, context), ready)) (hdecoration : decoration.text.HasLineNumbers) :
    (∀ regions, assistant.engine ready.machine (.references context) = .ok regions →
      (∀ region ∈ regions, IsMovable ready.machine.files region) →
      ∃ shown, List.Forall₂
          (IsShownAs ready.machine.files decoration document.script.file) regions shown ∧
        ((references assistant document caret).result session).1 =
          .ok (some (Text.joinLines (shown.map fun region =>
            if document.rich then region.toRich else region.toLine)))) ∧
    ∀ region, assistant.engine ready.machine (.resolve context) = .ok region →
      IsMovable ready.machine.files region → region.isEmpty = false →
      Directive.parseAt document.script.content caret.toNat = none →
      ∃ shown, IsShownAs ready.machine.files decoration document.script.file region shown ∧
        ((resolve assistant document caret).result session).1 =
          .ok (some (if document.rich then shown.toRich else shown.toPlain)) := by
  obtain ⟨hcode, hfile, hscript⟩ := of_result_decoratedContext hcontext
  have hshown : ∀ region, IsMovable ready.machine.files region →
      IsShownAs ready.machine.files decoration document.script.file region
        (settle ready.machine.files decoration context.file region) := by
    intro region hmovable
    rw [hfile]
    exact isShownAs_settle hscript hdecoration hmovable.file hmovable.endLine
  refine ⟨?_, ?_⟩
  · intro regions hanswer hmovable
    have hall : List.Forall₂ (IsShownAs ready.machine.files decoration document.script.file) regions
        (regions.map (settle ready.machine.files decoration context.file)) :=
      List.forall₂_map_right_iff.mpr
        (List.forall₂_same.mpr fun region hregion => hshown region (hmovable region hregion))
    exact ⟨_, hall, result_references hcontext hanswer⟩
  · intro region hanswer hmovable hfound hdirective
    obtain ⟨shift, -, hlifted, -⟩ := (hshown region hmovable).lines
    exact ⟨_, hshown region hmovable, result_resolve hcontext hanswer hcode hdirective rfl
      (hlifted.isEmpty.trans hfound)⟩

/-- An engine that finds every symbol in the script, and used in a generated file. -/
def twoFileFinder : Engine := fun _ query =>
  match query with
  | .resolve _ => .ok ⟨"/g/b.g.cs".toList, 2, 3, 5, false⟩
  | .references _ => .ok [⟨"a.cs".toList, 4, 4, 1, false⟩, ⟨"/g/b.g.cs".toList, 2, 3, 5, false⟩]
  | _ => .error .connectionLost

/-- A session with a generated file, which is wrapped, and the source it was made from. -/
def generatedSession : Session :=
  { loneSession with
    machine := { loneSession.machine with
      files := ⟨[(["g".toList], .folder), (["s".toList], .folder),
        (["g".toList, "b.g.cs".toList], .file
          (Utf8.encode (AutoClass.header false ++ "\nf();\n\x7d \x7d\n".toList)) false),
        (["g".toList, "css_info.txt".toList], .file (Utf8.encode "4.8\n/s\n".toList) false),
        (["s".toList, "b.cs".toList], .file (Utf8.encode "f();\n".toList) false)], []⟩ } }

def twoFileAssistant : Assistant :=
  ⟨twoFileFinder, loneAssistant.load⟩

theorem regions_moved_back_once_of_two_files :
    ∃ decoration context ready shown,
      (decoratedContext twoFileAssistant ⟨accentedScript, false⟩ 30).result generatedSession =
        (.ok (decoration, context), ready) ∧
      decoration.decorated = true ∧
      List.Forall₂ (IsShownAs ready.machine.files decoration (.ofString "a.cs"))
        [⟨"a.cs".toList, 4, 4, 1, false⟩, ⟨"/g/b.g.cs".toList, 2, 3, 5, false⟩] shown ∧
      Text.joinLines (shown.map Region.toLine) = "a.cs(3,1)\n/s/b.cs(1,5)".toList := by
  have hload : (Session.toolchain twoFileAssistant).result generatedSession =
      (.ok loneToolchain, generatedSession) := rfl
  have hproject : (resolveProject loneToolchain accentedScript).result generatedSession =
      (.ok (.single accentedScript.file),
        generatedSession.log (.project accentedScript.file none)) := rfl
  have hsources : (Project.single accentedScript.file).auxiliarySources
      generatedSession.machine.files accentedScript.file = .ok [] := rfl
  have hcontext := @result_decoratedContext twoFileAssistant ⟨accentedScript, false⟩
    generatedSession generatedSession _ loneToolchain _ _ (by decide) (by decide) hload hproject
    hsources 30
  have hread : generatedSession.machine.files.readSource (.ofString "/g/b.g.cs") =
      .ok (AutoClass.header false ++ "\nf();\n\x7d \x7d\n".toList) := by rfl
  have hlines : (loneToolchain.decorate generatedSession.machine.files accentedScript.content
      30).text.HasLineNumbers := show _ < _ by decide +kernel
  have hscript : IsMovable generatedSession.machine.files ⟨"a.cs".toList, 4, 4, 1, false⟩ :=
    ⟨by decide, fun hgenerated => absurd hgenerated (by decide)⟩
  have hfile : IsMovable generatedSession.machine.files ⟨"/g/b.g.cs".toList, 2, 3, 5, false⟩ := by
    refine ⟨by decide, fun _ text htext => ?_⟩
    obtain rfl := Except.ok.inj (hread.symm.trans htext)
    exact show _ < _ by decide
  obtain ⟨shown, hshown, hreply⟩ := (regions_moved_back_once hcontext hlines).1 _ rfl (by
    intro region hregion
    rcases List.mem_cons.mp hregion with rfl | hregion
    · exact hscript
    · rw [List.mem_singleton.mp hregion]
      exact hfile)
  have hsettled := @result_references twoFileAssistant _ _ _ _ _ _ hcontext _ rfl
  rw [hsettled] at hreply
  refine ⟨_, _, _, shown, hcontext, by decide +kernel, hshown, ?_⟩
  exact (Option.some.inj (Except.ok.inj hreply)).symm.trans (by decide +kernel)

end Session

end ScriptAssist
