import ScriptAssist.Proofs.SteadyAnswers
import ScriptAssist.Proofs.TemporaryScripts

/-!
# Unsaved scripts

The toolchain is shown an unsaved script as one new file, which has the extension of the script and
says where the script belongs. What the toolchain answers about this file is the project of the
script: the file itself and its folder are not in it, nor are they among the sources that the
engine sees. The file is gone again whatever the toolchain answers.
-/

namespace ScriptAssist

lemma Path.sameAs_comm (p q : Path) : p.sameAs q = q.sameAs p := by
  rw [Bool.eq_iff_iff]
  exact ⟨sameAs_symm, sameAs_symm⟩

/-! ### The project of the script -/

/-- What an answer about a temporary file, which may have two spellings, is made into: the project
of the script, without the file and without its folder. -/
structure Project.StandsFor (project answer : Project) (own temporary canonical : Path) :
    Prop where
  script : project.script = own
  files : project.files = own :: answer.files.filter fun file =>
    !(file.sameAs temporary || file.sameAs canonical)
  refs : project.refs = answer.refs
  searchDirs : project.searchDirs = answer.searchDirs.filter fun folder =>
    !(temporary.parent?.any folder.sameAs || canonical.parent?.any folder.sameAs)

namespace Project

variable {answer : Project} {script temporary canonical : Path} {files : Files}

lemma standsFor_standFor (answer : Project) (script temporary canonical : Path) :
    (answer.standFor script temporary canonical).StandsFor answer script temporary canonical := by
  refine ⟨rfl, rfl, rfl, List.filter_congr fun folder _ => ?_⟩
  have hamong : ∀ parent? parent?' : Option Path,
      folder.isAmong ([parent?, parent?'].filterMap id) =
        (parent?.any folder.sameAs || parent?'.any folder.sameAs) := by
    intro parent? parent?'
    cases parent? with
    | none =>
      cases parent?' with
      | none => rfl
      | some parent' => simp [Path.isAmong, Path.sameAs_comm parent']
    | some parent =>
      cases parent?' with
      | none => simp [Path.isAmong, Path.sameAs_comm parent]
      | some parent' => simp [Path.isAmong, Path.sameAs_comm parent, Path.sameAs_comm parent']
  rw [hamong]

lemma exists_standsFor_of_map_eq_ok {outcome : Except Failure Project} {project : Project}
    (h : (outcome.map fun answer => answer.standFor script temporary canonical) = .ok project) :
    ∃ answer, project.StandsFor answer script temporary canonical := by
  cases outcome with
  | error failure => exact absurd h (by simp [Except.map])
  | ok answer =>
    obtain rfl := Except.ok.inj h
    exact ⟨answer, answer.standsFor_standFor script temporary canonical⟩

/-- The sources of a project are its files apart from the script, in their order. -/
lemma paths_of_auxiliarySources {project : Project} {sources : List Source}
    (h : project.auxiliarySources files script = .ok sources) :
    sources.map Source.path =
      (project.files.filter fun file => !file.sameAs script).map Path.text := by
  rw [auxiliarySources] at h
  generalize project.files.filter (fun file => !file.sameAs script) = paths at h
  induction paths generalizing sources with
  | nil =>
    obtain rfl := Except.ok.inj h
    rfl
  | cons path paths ih =>
    rw [List.mapM_cons] at h
    cases hcontent : files.readSource path with
    | error cause => simp [readFile, hcontent, bind, Except.bind] at h
    | ok content =>
      cases hrest : paths.mapM (readFile files) with
      | error failure => simp [readFile, hcontent, hrest, bind, Except.bind] at h
      | ok rest =>
        simp only [readFile, hcontent, hrest, bind, Except.bind, pure, Except.pure,
          Except.ok.injEq] at h
        rw [← h, List.map_cons, List.map_cons, ih hrest]

namespace StandsFor

variable {project : Project} {own : Path} {written : Files} {content : Bytes}

lemma isTemporary_eq_false {file : Path} (h : project.StandsFor answer own temporary canonical)
    (hfile : file ∈ project.files) (hown : file ≠ own) :
    (file.sameAs temporary || file.sameAs canonical) = false := by
  rw [h.files, List.mem_cons] at hfile
  obtain heq | hkept := hfile
  · exact absurd heq hown
  · simpa using (List.mem_filter.1 hkept).2

/-- No file of the project is temporary if the script was there before the temporary file. -/
lemma forall_files (h : project.StandsFor answer own temporary
      ((written.canonical? temporary).getD temporary))
    (hadds : files.AddsFile written temporary content) (hown : (files.lookup? own).isSome)
    (hdir : files.HasNamedDir) : ∀ file ∈ project.files,
      (file.sameAs temporary || file.sameAs ((written.canonical? temporary).getD temporary)) =
        false := by
  intro file hfile
  by_cases heq : file = own
  · rw [heq, hadds.sameAs_eq_false hown, hadds.sameAs_canonical_eq_false hdir hown]
    rfl
  · exact h.isTemporary_eq_false hfile heq

/-- Neither the temporary file nor the script is a source. -/
lemma forall_sources (h : project.StandsFor answer own temporary canonical)
    {sources : List Source} (hsources : project.auxiliarySources files own = .ok sources) :
    ∀ source ∈ sources,
      (Path.sameAs ⟨source.path⟩ temporary || Path.sameAs ⟨source.path⟩ canonical) = false ∧
        Path.sameAs ⟨source.path⟩ own = false := by
  intro source hsource
  have hpath : source.path ∈ sources.map Source.path := List.mem_map_of_mem hsource
  rw [paths_of_auxiliarySources hsources] at hpath
  obtain ⟨file, hfile, htext⟩ := List.mem_map.1 hpath
  obtain ⟨hmem, hother⟩ := List.mem_filter.1 hfile
  have hdiffers : file.sameAs own = false := by simpa using hother
  have hne : file ≠ own := by
    rintro rfl
    simp [Path.sameAs_refl] at hdiffers
  rw [← htext]
  exact ⟨h.isTemporary_eq_false hmem hne, hdiffers⟩

end StandsFor

end Project

namespace Session

variable {assistant : Assistant} {document : Document} {session : Session} {script : Script}
  {written : Files}

lemma toOption_readSource_of_read {files : Files} {path : Path}
    (h : files.read path = .ok (Utf8.encode script.temporaryText)) :
    (files.readSource path).toOption = some script.temporaryText := by
  rw [Files.readSource, h, Except.map, Utf8.decodeLossy_encode]
  rfl

/-- The temporary file is there while the toolchain is asked, and only then. -/
lemma result_resolveProject_of_written (hunsaved : script.isUnsaved = true)
    (toolchain : Toolchain) (hwrite : session.machine.files.write
      (session.machine.freePath script.file.pointedExtension)
      (Utf8.encode script.temporaryText) = .ok written) :
    let temporary := session.machine.freePath script.file.pointedExtension
    (resolveProject toolchain script).result session =
      ((toolchain.project { session.machine with files := written } temporary).map fun project =>
          project.standFor script.file temporary ((written.canonical? temporary).getD temporary),
        session.log (.project temporary (some script.temporaryText))) := by
  intro temporary
  have hadds := Machine.addsFile_of_write script.file.noSlash_pointedExtension hwrite
  have hmachine : session.machine.write temporary (Utf8.encode script.temporaryText) =
      .ok { session.machine with files := written } := by
    rw [Machine.write, hwrite]
    rfl
  rw [Basis.result_resolveProject_of_unsaved hunsaved, hmachine]
  dsimp only
  rw [toOption_readSource_of_read hadds.read]

lemma result_resolveProject_of_unwritten {cause : SystemError} (hunsaved : script.isUnsaved = true)
    (toolchain : Toolchain) (hwrite : session.machine.files.write
      (session.machine.freePath script.file.pointedExtension)
      (Utf8.encode script.temporaryText) = .error cause) :
    (resolveProject toolchain script).result session =
      (.error (.cannotCreateScript cause), session) := by
  rw [Basis.result_resolveProject_of_unsaved hunsaved, Machine.write, hwrite]
  rfl

lemma unrecorded_toolchain (assistant : Assistant) (session : Session) :
    ((Session.toolchain assistant).result session).2.machine.unrecorded =
      session.machine.unrecorded := by
  rw [result_toolchain]
  dsimp only
  split_ifs
  · rfl
  · rfl

/-- What a context is made of: the project of the script and the texts of its files. -/
lemma project_of_result_context {code : Text} {position : UInt64} {found : Context}
    (h : ((context assistant document code position).result session).1 = .ok found) :
    ∃ toolchain loaded project resolved,
      (Session.toolchain assistant).result session = (.ok toolchain, loaded) ∧
      (resolveProject toolchain document.script).result loaded = (.ok project, resolved) ∧
      found.file = document.fileName ∧
      project.auxiliarySources resolved.machine.files document.script.file =
        .ok found.sources := by
  obtain ⟨project, resolved, hproject, hrest⟩ :=
    Action.ok_of_result_bind (Prod.ext h rfl : (context assistant document code position).result
      session = (.ok found, _))
  obtain ⟨toolchain, loaded, hload, hresolve⟩ := Action.ok_of_result_bind hproject
  rw [Action.result_bind_of_ok (Action.result_get resolved)] at hrest
  obtain ⟨sources, after, hsources, hfound⟩ := Action.ok_of_result_bind hrest
  have hcontext := Except.ok.inj (congrArg Prod.fst hfound)
  refine ⟨toolchain, loaded, project, resolved, hload, hresolve, ?_, ?_⟩
  · rw [← hcontext]
  · rw [← hcontext]
    exact congrArg Prod.fst hsources

/-- An unsaved script is shown to the toolchain as one new file, with the extension of the script,
which holds the folder of the script and then its text. The project that comes of the toolchain's
answer is the script's: neither the file nor its folder is in it, in either spelling, and neither
the file nor the script is among the sources that the engine sees. The files are as they were,
whatever the toolchain answers and also if the file cannot be written. -/
theorem resolveProject_hides_temporary (toolchain : Toolchain)
    (hunsaved : script.isUnsaved = true) (session : Session) :
    let files := session.machine.files
    let temporary := session.machine.freePath script.file.pointedExtension
    let folder := (script.file.parent?.map Path.text).getD []
    let text := "//css_dir ".toList ++ folder ++ '\n' :: script.content
    let resolved := (resolveProject toolchain script).result session
    (resolved.2.machine.files = files ∧ files.lookup? temporary = none) ∧
    (files.isFolder session.machine.tempDir = true → Files.checkPath temporary = .ok () →
      Utf8.byteSize temporary.fileName ≤ Files.maxNameSize →
      ∃ written, files.write temporary (Utf8.encode text) = .ok written) ∧
    (∀ cause, files.write temporary (Utf8.encode text) = .error cause →
      resolved = (.error (.cannotCreateScript cause), session)) ∧
    ∀ written, files.write temporary (Utf8.encode text) = .ok written →
      let canonical := (written.canonical? temporary).getD temporary
      let isTemporary (file : Path) := file.sameAs temporary || file.sameAs canonical
      let answer := toolchain.project { session.machine with files := written } temporary
      files.AddsFile written temporary (Utf8.encode text) ∧
      temporary.extension? = script.file.extension? ∧
      resolved.2 = session.log (.project temporary (some text)) ∧
      (∀ failure, answer = .error failure → resolved.1 = .error failure) ∧
      (∀ shown, answer = .ok shown → ∃ project, resolved.1 = .ok project ∧
        project.StandsFor shown script.file temporary canonical ∧
        ((files.lookup? script.file).isSome → files.HasNamedDir →
          ∀ file ∈ project.files, isTemporary file = false)) ∧
      ∀ assistant document code position found, document.script = script →
        ((context assistant document code position).result session).1 = .ok found →
        found.file = script.file.text ∧
        ∀ source ∈ found.sources,
          isTemporary ⟨source.path⟩ = false ∧ Path.sameAs ⟨source.path⟩ script.file = false := by
  intro files temporary folder text resolved
  have hslash := script.file.noSlash_pointedExtension
  refine ⟨⟨?_, session.machine.lookup?_freePath hslash⟩, fun hfolder hcheck hsize =>
    Machine.exists_write_freePath hslash hfolder hcheck hsize (Utf8.encode text),
    fun cause hwrite => result_resolveProject_of_unwritten hunsaved toolchain hwrite, ?_⟩
  · cases hwrite : files.write temporary (Utf8.encode text) with
    | ok written =>
      have hresolved := result_resolveProject_of_written hunsaved toolchain hwrite
      exact congrArg (fun outcome => outcome.2.machine.files) hresolved
    | error cause =>
      have hresolved := result_resolveProject_of_unwritten hunsaved toolchain hwrite
      exact congrArg (fun outcome => outcome.2.machine.files) hresolved
  intro written hwrite canonical isTemporary answer
  have hadds := Machine.addsFile_of_write hslash hwrite
  have hresolved : resolved =
      (answer.map fun project => project.standFor script.file temporary canonical,
        session.log (.project temporary (some text))) :=
    result_resolveProject_of_written hunsaved toolchain hwrite
  refine ⟨hadds, session.machine.extension?_freePath script.file, congrArg Prod.snd hresolved,
    ?_, ?_, ?_⟩
  · intro failure hanswer
    rw [hresolved, hanswer]
    rfl
  · intro shown hanswer
    have hstands := shown.standsFor_standFor script.file temporary canonical
    refine ⟨shown.standFor script.file temporary canonical, ?_, hstands, hstands.forall_files hadds⟩
    rw [hresolved, hanswer]
    rfl
  · intro assistant document code position found hscript hfound
    obtain ⟨loading, loaded, project, after, hload, hproject, hfile, hsources⟩ :=
      project_of_result_context hfound
    have hmachine : loaded.machine.unrecorded = session.machine.unrecorded := by
      rw [← unrecorded_toolchain assistant session, hload]
    have hfiles : loaded.machine.files = files := by
      show loaded.machine.unrecorded.files = session.machine.unrecorded.files
      rw [hmachine]
    have htemporary : loaded.machine.freePath script.file.pointedExtension = temporary := by
      rw [← Machine.freePath_unrecorded, hmachine, Machine.freePath_unrecorded]
    have hwritten := result_resolveProject_of_written hunsaved loading
      (by rw [hfiles, htemporary]; exact hwrite)
    rw [hscript] at hproject hsources
    rw [hproject, htemporary] at hwritten
    obtain ⟨shown, hstands⟩ := Project.exists_standsFor_of_map_eq_ok (congrArg Prod.fst hwritten).symm
    refine ⟨?_, hstands.forall_sources hsources⟩
    rw [hfile, Document.fileName, hscript]

/-- A toolchain that names the script it is shown as it was given and from the root, and the folder
of the script. -/
def spellingToolchain : Toolchain :=
  { loneToolchain with
    project := fun machine script =>
      .ok ⟨[script, .ofString "/s/lib.cs"] ++ (machine.files.canonical? script).toList ++ [script],
        ["System".toList], script.parent?.toList ++ [.ofString "/s", .ofString "/tmp"], script⟩ }

/-- The folder for temporary files is not spelled from the root. -/
def detourSession : Session :=
  { loneSession with
    machine := { loneSession.machine with
      files := ⟨[(["tmp".toList], .folder), (["s".toList], .folder),
        (["s".toList, "main.cs".toList], .file [] false),
        (["s".toList, "lib.cs".toList], .file (Utf8.encode "h();".toList) false),
        (["s".toList, "main.tmp".toList], .file (Utf8.encode "f();".toList) false)], []⟩
      tempDir := .ofString "/s/../tmp" } }

def unsavedScript : Script :=
  ⟨.ofString "/s/main.cs", .ofString "/s/main.tmp", "f();".toList⟩

theorem resolveProject_hides_temporary_of_detour :
    let temporary := Path.ofString "/s/../tmp/syntaxer-0.cs"
    let text := "//css_dir /s\nf();".toList
    let resolved := (resolveProject spellingToolchain unsavedScript).result detourSession
    unsavedScript.isUnsaved = true ∧
      resolved.1 = .ok ⟨[.ofString "/s/main.cs", .ofString "/s/lib.cs"], ["System".toList],
        [.ofString "/s"], .ofString "/s/main.cs"⟩ ∧
      resolved.2 = detourSession.log (.project temporary (some text)) ∧
      resolved.2.machine.files.lookup? temporary = none ∧
      ∃ written, detourSession.machine.files.AddsFile written temporary (Utf8.encode text) ∧
        written.canonical? temporary = some (.ofString "/tmp/syntaxer-0.cs") := by
  intro temporary text resolved
  obtain ⟨⟨hfiles, hfree⟩, -, -, hshown⟩ :=
    @resolveProject_hides_temporary unsavedScript spellingToolchain (by decide) detourSession
  have hwrite : detourSession.machine.files.write temporary (Utf8.encode text) =
      .ok (detourSession.machine.files.putEntry ["tmp".toList, "syntaxer-0.cs".toList]
        (.file (Utf8.encode text) false)) := rfl
  obtain ⟨hadds, -, hlogged, -, hproject, -⟩ := hshown _ hwrite
  obtain ⟨⟨files, refs, searchDirs, script⟩, hresolved, hstands, -⟩ := hproject _ rfl
  have hpaths : files = [.ofString "/s/main.cs", .ofString "/s/lib.cs"] :=
    hstands.files.trans (by decide)
  have hrefs : refs = ["System".toList] := hstands.refs
  have hdirs : searchDirs = [.ofString "/s"] := hstands.searchDirs.trans (by decide)
  have hscript : script = .ofString "/s/main.cs" := hstands.script
  refine ⟨by decide, ?_, hlogged, ?_, _, hadds, by decide⟩
  · rw [← hpaths, ← hrefs, ← hdirs, ← hscript]
    exact hresolved
  · rw [hfiles]
    exact hfree

end Session

end ScriptAssist
