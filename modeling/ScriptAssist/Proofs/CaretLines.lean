import ScriptAssist.Proofs.Decorations
import ScriptAssist.Proofs.Wrapping
import ScriptAssist.Service.Reply

/-!
# Lines of carets

An engine that answers with the line it is asked about is asked about the decorated script, at the
moved caret. The replies made of its answer name the line of the caret in the script itself.
-/

namespace ScriptAssist

open Text Session

/-- The line of a context's caret in the context's code, as a region of the context's file. -/
def Context.caretRegion (context : Context) : Region :=
  .atLine context.file (Int32.ofNat (lineNumberAt context.code context.position.toNat))

/-- An engine that finds every symbol on the line of the caret. -/
def Engine.FindsCaret (engine : Engine) : Prop :=
  ∀ machine context, engine machine (.resolve context) = .ok context.caretRegion ∧
    engine machine (.references context) = .ok [context.caretRegion]

/-- A toolchain that wraps scripts into a class around their code. Where that stops the program, it
may answer anything. -/
def Toolchain.WrapsScripts (toolchain : Toolchain) : Prop :=
  ∀ s caret, AutoClass.wrap s caret ≠ .overflow →
    toolchain.wrap s caret = (AutoClass.wrap s caret).result?

lemma Document.code_of_ne_nil {document : Document} (h : document.script.content ≠ []) :
    document.code = .ok document.script.content := by
  simp [code, h]

namespace Session

variable {assistant : Assistant} {document : Document} {session loaded resolved : Session}
  {toolchain : Toolchain} {project : Project} {sources : List Source}

lemma settle_caretRegion (files : Files) (default : Bool) {s : Text} (hs : s.Representable)
    {caret : UInt64} (hcaret : caret.toNat ≤ s.length) {file : Path}
    (hfile : Generated.isGenerated file = false) (hwraps : toolchain.WrapsScripts) :
    let decoration := Decoration.decorate toolchain.wrap default s caret
    settle files decoration file.text
        (.atLine file.text (Int32.ofNat (lineNumberAt decoration.text decoration.caret.toNat))) =
      .atLine file.text (Int32.ofNat (lineNumberAt s caret.toNat)) := by
  have hredirect : ∀ line, Generated.redirect files (.atLine file.text line) =
      .atLine file.text line := by
    intro line
    rw [Generated.redirect]
    simp [Region.atLine, hfile]
  intro decoration
  rw [settle]
  rcases Decoration.decorate_cases toolchain.wrap default s caret with
    hsame | ⟨wrapped, moved, hanswer, hdecorated, -⟩
  · have hdecoration : decoration = Decoration.unchanged s caret := hsame
    rw [hdecoration]
    exact hredirect _
  · have hdecoration : decoration = ⟨wrapped, moved, true⟩ := hdecorated
    have hlength := length_le_byteSize s
    have haddressable := hs.addressable
    have hroom : AutoClass.wrap s caret ≠ .overflow :=
      AutoClass.wrap_ne_overflow (AutoClass.hasRoom_of_le (by omega))
    have hwrap := AutoClass.wrap_of_result? ((hwraps s caret hroom).symm.trans hanswer)
    have hback := Decoration.undecorate_wrap hwrap hs hcaret file.text
    rw [hdecoration]
    dsimp only
    rw [hback, if_pos (by simp [Region.atLine])]
    exact hredirect _

lemma result_toolchain (assistant : Assistant) (session : Session) :
    let found := session.binding.get session.machine.defaultToolchain
      (assistant.load session.machine)
    (Session.toolchain assistant).result session =
      (found.1, ⟨if session.binding.isLoaded then session.machine
        else session.machine.log
          (.load (session.binding.source session.machine.defaultToolchain)), found.2⟩) :=
  rfl

lemma result_toolchain_of_loaded {found : Loaded} (h : session.binding.loaded = some found) :
    (Session.toolchain assistant).result session = (.ok found.toolchain, session) := by
  rw [result_toolchain]
  simp [Binding.get, Binding.isLoaded, h]

lemma loaded_of_get_ok {binding : Binding} {default : Path}
    {load : Path → Except Failure Toolchain} (h : (binding.get default load).1 = .ok toolchain) :
    ∃ found, (binding.get default load).2.loaded = some found ∧ found.toolchain = toolchain := by
  rw [Binding.get] at h ⊢
  split at h
  · next found hfound =>
    simp only [Except.ok.injEq] at h
    exact ⟨found, by simp [hfound], h⟩
  · cases hload : load (binding.source default) with
    | error failure => simp [hload] at h
    | ok fresh =>
      simp only [hload, Except.ok.injEq] at h
      exact ⟨⟨fresh, none⟩, by simp [hload, Binding.keep], h⟩

/-- A toolchain that has been loaded once is not loaded again. -/
lemma result_toolchain_again (h : (Session.toolchain assistant).result session =
    (.ok toolchain, loaded)) :
    (Session.toolchain assistant).result loaded = (.ok toolchain, loaded) := by
  rw [result_toolchain] at h
  simp only [Prod.mk.injEq] at h
  obtain ⟨found, hfound, htoolchain⟩ := loaded_of_get_ok h.1
  have hbinding : loaded.binding.loaded = some found := by
    rw [← h.2]
    exact hfound
  rw [result_toolchain_of_loaded hbinding, htoolchain]

lemma result_decoratedContext (hcode : document.script.content ≠ [])
    (hfile : Generated.isGenerated document.script.file = false)
    (hload : (Session.toolchain assistant).result session = (.ok toolchain, loaded))
    (hproject : (resolveProject toolchain document.script).result loaded =
      (.ok project, resolved))
    (hsources : project.auxiliarySources resolved.machine.files document.script.file =
      .ok sources) (caret : UInt64) :
    let decoration := toolchain.decorate loaded.machine.files document.script.content caret
    (decoratedContext assistant document caret).result session =
      (.ok (decoration, ⟨decoration.text, decoration.caret, document.fileName, project.refs,
        sources⟩), resolved) := by
  intro decoration
  have hdocument := Document.code_of_ne_nil hcode
  have hdecorate : (decorate assistant document document.script.content caret).result session =
      (.ok decoration, loaded) := by
    rw [decorate, if_neg (by simp [hfile]), Action.result_bind_of_ok hload]
    rfl
  have hwhole : (Session.project assistant document).result loaded = (.ok project, resolved) := by
    rw [Session.project, Action.result_bind_of_ok (result_toolchain_again hload), hproject]
  have hcontext : (context assistant document decoration.text decoration.caret).result loaded =
      (.ok ⟨decoration.text, decoration.caret, document.fileName, project.refs, sources⟩,
        resolved) := by
    rw [context, Action.result_bind_of_ok hwhole,
      Action.result_bind_of_ok (Action.result_get resolved), hsources]
    rfl
  rw [decoratedContext, hdocument, Action.result_bind_of_ok (Action.result_ofExcept _ _),
    Action.result_bind_of_ok hdecorate, Action.result_bind_of_ok hcontext]
  rfl

lemma result_ask_of_ok {query : Query} {answer : query.Answer}
    (h : assistant.engine session.machine query = .ok answer) :
    (ask assistant query).result session = (.ok answer, session.log (.query query)) := by
  rw [ask, Action.result_bind_of_ok (Action.result_get session),
    Action.result_bind_of_ok (Action.result_set session _), Action.result_ofExcept, h]

/-- Both replies to a caret name its line in the script, whether or not the script was decorated. -/
theorem caret_line_round_trip (hscript : document.script.content.Representable)
    (hcode : document.script.content ≠ []) {caret : UInt64}
    (hcaret : caret.toNat ≤ document.script.content.length)
    (hfile : Generated.isGenerated document.script.file = false)
    (hload : (Session.toolchain assistant).result session = (.ok toolchain, loaded))
    (hwraps : toolchain.WrapsScripts)
    (hproject : (resolveProject toolchain document.script).result loaded =
      (.ok project, resolved))
    (hsources : project.auxiliarySources resolved.machine.files document.script.file =
      .ok sources)
    (hengine : assistant.engine.FindsCaret) :
    let line := lineNumberAt document.script.content caret.toNat
    let found := Region.atLine document.script.file.text (Int32.ofNat line)
    found.beginLine.toInt = line ∧ found.endLine.toInt = line ∧
      ((references assistant document caret).result session).1 =
        .ok (some (if document.rich then found.toRich else found.toLine)) ∧
      (Directive.parseAt document.script.content caret.toNat = none →
        ((resolve assistant document caret).result session).1 =
          .ok (some (if document.rich then found.toRich else found.toPlain))) := by
  intro line found
  have hline : (Int32.ofNat line).toInt = line := by
    have hlast := lineNumberAt_le document.script.content caret.toNat
    have hnumbered := hscript.numbered
    exact Int32.toInt_ofNat_of_lt (by omega)
  have hcontext := result_decoratedContext hcode hfile hload hproject hsources caret
  have hsettle : ∀ files, settle files _ _ _ = found := fun files =>
    settle_caretRegion files (loaded.machine.files.enablesClass toolchain.config) hscript hcaret
      hfile hwraps
  rw [Toolchain.decorate] at hcontext
  refine ⟨hline, hline, ?_, ?_⟩
  · rw [references, Action.result_bind_of_ok hcontext,
      Action.result_bind_of_ok (result_ask_of_ok (hengine _ _).2),
      Action.result_bind_of_ok (Action.result_get _), Action.result_pure, List.map_singleton,
      Context.caretRegion]
    dsimp only [Document.fileName]
    rw [hsettle]
    simp [Text.joinLines, Text.joinWith]
  · intro hdirective
    have hregion : ((resolveRegion assistant document caret).result session).1 = .ok found := by
      have hdocument : document.code = .ok document.script.content := by
        simp [Document.code, hcode]
      rw [resolveRegion, hdocument, Action.result_bind_of_ok (Action.result_ofExcept _ _),
        hdirective, directiveRegion, Action.result_bind_of_ok (Action.result_pure _ _),
        if_pos (by rfl), engineRegion, Action.result_bind_of_ok hcontext,
        Action.result_bind_of_ok (result_ask_of_ok (hengine _ _).1),
        Action.result_bind_of_ok (Action.result_get _), Action.result_pure, Context.caretRegion]
      dsimp only [Document.fileName]
      rw [hsettle]
    rw [resolve, Action.result_bind_of_ok (Prod.ext hregion rfl), if_neg (by simp [found, Region.atLine]),
      Action.result_pure]

/-- An engine that knows nothing but where carets are. -/
def caretFinder : Engine := fun _ query =>
  match query with
  | .resolve context => .ok context.caretRegion
  | .references context => .ok [context.caretRegion]
  | _ => .error .connectionLost

/-- A toolchain that is loaded, knows single scripts only and wraps them. -/
def loneToolchain : Toolchain where
  location := .ofString "cscs.exe"
  project _ script := .ok (.single script)
  wrap s caret := (AutoClass.wrap s caret).result?
  help := .named fun _ => .error .emptySource

def loneAssistant : Assistant :=
  ⟨caretFinder, fun _ _ => .ok loneToolchain⟩

def loneSession : Session where
  machine := ⟨⟨[], []⟩, .ofString "/tmp", none, none, [], [], fun _ _ => ⟨0, [], []⟩, []⟩
  binding := .keep (.ofString "cscs.exe") loneToolchain

/-- A script that asks for a class, with a letter of two bytes and CR LF. -/
def accentedScript : Script where
  file := .ofString "a.cs"
  rawFile := .ofString "a.cs"
  content := "//css_args -ac\r\nvar é = 1;\r\nf();".toList

theorem caret_line_round_trip_accented :
    (loneToolchain.decorate ⟨[], []⟩ accentedScript.content 30).decorated = true ∧
      ((references loneAssistant ⟨accentedScript, false⟩ 30).result loneSession).1 =
        .ok (some "a.cs(3,1)".toList) ∧
      ((resolve loneAssistant ⟨accentedScript, false⟩ 30).result loneSession).1 =
        .ok (some "file:a.cs\nline:3".toList) := by
  have hload : (Session.toolchain loneAssistant).result loneSession =
      (.ok loneToolchain, loneSession) := rfl
  have hproject : (resolveProject loneToolchain accentedScript).result loneSession =
      (.ok (.single accentedScript.file),
        loneSession.log (.project accentedScript.file none)) := rfl
  have hsources : (Project.single accentedScript.file).auxiliarySources ⟨[], []⟩
      accentedScript.file = .ok [] := rfl
  have hcaret : (30 : UInt64).toNat ≤ accentedScript.content.length := by decide
  have hround := @caret_line_round_trip loneAssistant ⟨accentedScript, false⟩ loneSession
    loneSession _ loneToolchain _ _ ⟨by decide, by decide⟩ (by decide) 30 hcaret (by decide) hload
    (fun _ _ _ => rfl) hproject hsources fun _ _ => ⟨rfl, rfl⟩
  dsimp only at hround
  rw [lineNumberAt_eq_count] at hround
  exact ⟨by decide +kernel, hround.2.2.1, hround.2.2.2 (by decide)⟩

end Session

end ScriptAssist
