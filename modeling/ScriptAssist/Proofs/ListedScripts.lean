import ScriptAssist.Proofs.ScriptFolders
import ScriptAssist.Tool.Compiler

/-!
# Scripts in listings

The files of a project are those that the compiler lists, in its order. The script is put in front
only if it is not listed, so it leads the project exactly if it leads the listing or is missing from
it. The project of an unsaved script is led by the script whatever is listed.
-/

namespace ScriptAssist

open Text

/-! ### Listings -/

namespace Listing

/-- The file that a line lists, if it does: what stands behind `file:`, unless that is blank. -/
def fileOn? (line : Text) : Option Path :=
  (after? "file:".toList (trim line)).bind fun rest =>
    if (trim rest).isEmpty then none else some ⟨trim rest⟩

/-- The files that a listing lists. -/
def printedFiles (listing : Text) : List Path :=
  (lines listing).filterMap fileOn?

/-- The file of an item, if it is one of a file. -/
def fileOf? (item : Text × Text) : Option Path :=
  if item.1 = "file".toList then some ⟨item.2⟩ else none

lemma fileOn?_eq (line : Text) : fileOn? line = (item? line).bind fileOf? := by
  have hafter : after? "file:".toList (trim line) = (cutAtChar? ':' (trim line)).bind fun around =>
      if around.1 = "file".toList then some around.2 else none := by
    -- `file` has no colon, so a line starts with `file:` if its first colon ends `file`.
    ext rest
    have hname : after? "file:".toList (trim line) = some rest ↔
        cutAtChar? ':' (trim line) = some ("file".toList, rest) :=
      @after?_append_mark_iff ':' "file".toList (trim line) rest (by decide)
    rw [hname, Option.bind_eq_some_iff]
    refine ⟨fun hcut => ⟨_, hcut, if_pos rfl⟩, ?_⟩
    rintro ⟨⟨kind, value⟩, hcut, hkind⟩
    rw [Option.ite_none_right_eq_some] at hkind
    obtain ⟨rfl, ⟨⟩⟩ := hkind
    exact hcut
  rw [fileOn?, item?, hafter]
  cases cutAtChar? ':' (trim line) with
  | none => rfl
  | some around =>
    dsimp only [Option.bind_some]
    by_cases hfile : around.1 = "file".toList
    · rw [if_pos hfile, Option.bind_some]
      split_ifs
      · rfl
      · rw [Option.bind_some, fileOf?, if_pos hfile]
    · rw [if_neg hfile, Option.bind_none]
      split_ifs
      · rfl
      · rw [Option.bind_some, fileOf?, if_neg hfile]

lemma files_add (project : Project) (item : Text × Text) :
    (add project item.1 item.2).files = project.files ++ (fileOf? item).toList := by
  rw [add, fileOf?]
  split_ifs
  · rfl
  · simp
  · simp
  · simp
  · simp

lemma files_foldl_add (items : List (Text × Text)) (project : Project) :
    (items.foldl (fun project item => add project item.1 item.2) project).files =
      project.files ++ items.filterMap fileOf? := by
  induction items generalizing project with
  | nil => simp
  | cons item items ih =>
    rw [List.foldl_cons, ih, files_add, List.append_assoc]
    cases hfile : fileOf? item with
    | none => rw [List.filterMap_cons_none hfile]; rfl
    | some file => rw [List.filterMap_cons_some hfile]; rfl

/-- A project has the files that are listed, behind the script if that is not among them. -/
lemma files_parse (script : Path) (listing : Text) :
    (parse script listing).files =
      if script.isAmong (printedFiles listing) then printedFiles listing
      else script :: printedFiles listing := by
  have hitems : (((lines listing).filterMap item?).foldl
      (fun project item => add project item.1 item.2) ⟨[], [], [], script⟩).files =
        printedFiles listing := by
    rw [files_foldl_add, List.nil_append, List.filterMap_filterMap, printedFiles]
    exact congrArg (List.filterMap · (lines listing)) (funext fun line => (fileOn?_eq line).symm)
  rw [parse, withScript, hitems]
  split_ifs
  · exact hitems
  · rfl

end Listing

/-! ### Scripts and other files -/

namespace Path

variable {script : Path} {files extra : List Path}

/-- Whether the script is the first of the files. -/
def leads (script : Path) (files : List Path) : Bool :=
  files.head?.any fun first => first.sameAs script

/-- The files apart from the script. -/
def others (script : Path) (files : List Path) : List Path :=
  files.filter fun file => !file.sameAs script

lemma leads_cons (script : Path) (files : List Path) : script.leads (script :: files) = true := by
  rw [leads, List.head?_cons, Option.any_some, sameAs_refl]

lemma others_cons (script : Path) (files : List Path) :
    script.others (script :: files) = script.others files := by
  rw [others, List.filter_cons_of_neg (by simp [sameAs_refl])]
  rfl

lemma others_append (script : Path) (files extra : List Path) :
    script.others (files ++ extra) = script.others files ++ script.others extra :=
  List.filter_append ..

lemma leads_append (h : files ≠ []) : script.leads (files ++ extra) = script.leads files := by
  obtain ⟨first, rest, rfl⟩ := List.exists_cons_of_ne_nil h
  rfl

end Path

namespace Listing

lemma files_parse_ne_nil (script : Path) (listing : Text) : (parse script listing).files ≠ [] := by
  rw [files_parse]
  split_ifs with hlisted
  · intro hnone
    rw [hnone, Path.isAmong, List.any_nil] at hlisted
    exact absurd hlisted Bool.false_ne_true
  · exact List.cons_ne_nil _ _

/-- The script leads its project unless it is listed behind another file. -/
lemma leads_parse_iff (script : Path) (listing : Text) :
    script.leads (parse script listing).files = true ↔
      (script.isAmong (printedFiles listing) = true →
        script.leads (printedFiles listing) = true) := by
  rw [files_parse]
  split_ifs with hlisted
  · exact ⟨fun hleads _ => hleads, fun hleads => hleads hlisted⟩
  · exact iff_of_true (Path.leads_cons _ _) fun hlisted' => absurd hlisted' hlisted

lemma others_parse (script : Path) (listing : Text) :
    script.others (parse script listing).files = script.others (printedFiles listing) := by
  rw [files_parse]
  split_ifs
  · rfl
  · exact Path.others_cons _ _

/-- A filter that does not keep the script does not see whether it was listed. -/
lemma filter_files_parse {keeps : Path → Bool} {script : Path} (h : keeps script = false)
    (listing : Text) :
    (parse script listing).files.filter keeps = (printedFiles listing).filter keeps := by
  rw [files_parse]
  split_ifs
  · rfl
  · rw [List.filter_cons_of_neg (by simp [h])]

end Listing

/-! ### Projects of the compiler -/

namespace Compiler

variable {compiler : Compiler} {machine : Machine} {script : Path} {listing : Text}

lemma tempDir_run (compiler : Compiler) (machine : Machine) (arguments : List Text) :
    (compiler.run machine arguments).2.tempDir = machine.tempDir := by
  have hran : (machine.run (compiler.command arguments)).2.tempDir = machine.tempDir := by
    unfold Machine.run
    split
    · rfl
    · rfl
  rw [← hran]
  unfold run
  split
  · next hrun => rw [hrun]
  · next hrun =>
    rw [hrun]
    split_ifs
    · rfl
    · rfl

lemma debugFile_run (compiler : Compiler) (machine : Machine) (arguments : List Text) :
    debugFile (compiler.run machine arguments).2 = debugFile machine := by
  rw [debugFile, cacheDir, tempDir_run, debugFile, cacheDir]

/-- Behind the files of a project, the file of debugging aids may be added. -/
lemma files_withDebugFile (machine : Machine) (project : Project) :
    ∃ extra, (withDebugFile machine project).files = project.files ++ extra ∧
      (extra = [] ∨ extra = [debugFile machine]) := by
  rw [withDebugFile]
  split_ifs
  · exact ⟨_, rfl, .inr rfl⟩
  · exact ⟨[], (List.append_nil _).symm, .inl rfl⟩

/-- What a compiler that ends well prints. -/
lemma run_of_prints {arguments : List Text} {complaint : Bytes}
    (hcheck : machine.check (compiler.command arguments) = .ok ())
    (hprograms : machine.programs machine.events (compiler.command arguments) =
      ⟨0, Utf8.encode listing, complaint⟩) :
    (compiler.run machine arguments).1 = .ok listing := by
  have hran : machine.run (compiler.command arguments) =
      (.ok ⟨0, Utf8.encode listing, complaint⟩,
        machine.log (.run (compiler.command arguments))) := by
    unfold Machine.run
    rw [hcheck, hprograms]
  unfold run
  rw [hran]
  dsimp only
  rw [if_pos rfl, Utf8.decodeLossy_encode]

lemma project_toolchain (compiler : Compiler) (machine : Machine) (script : Path) :
    compiler.toolchain.project machine script =
      (compiler.run machine ["-proj".toList, script.text]).1.map fun listing =>
        withDebugFile (compiler.run machine ["-proj".toList, script.text]).2
          (Listing.parse script listing) := by
  unfold toolchain project
  rfl

lemma project_of_run_error {failure : Failure}
    (h : (compiler.run machine ["-proj".toList, script.text]).1 = .error failure) :
    compiler.toolchain.project machine script = .error failure := by
  rw [project_toolchain, h]
  rfl

lemma project_of_run_ok
    (h : (compiler.run machine ["-proj".toList, script.text]).1 = .ok listing) :
    ∃ project extra, compiler.toolchain.project machine script = .ok project ∧
      project.files = (Listing.parse script listing).files ++ extra ∧
      (extra = [] ∨ extra = [debugFile machine]) := by
  obtain ⟨extra, hfiles, hextra⟩ := files_withDebugFile
    (compiler.run machine ["-proj".toList, script.text]).2 (Listing.parse script listing)
  rw [debugFile_run] at hextra
  refine ⟨_, extra, ?_, hfiles, hextra⟩
  rw [project_toolchain, h]
  rfl

end Compiler

namespace Session

open Listing (printedFiles)

variable {script : Script}

lemma result_resolveProject_of_saved (hsaved : script.isUnsaved = false) (toolchain : Toolchain)
    (session : Session) :
    ((resolveProject toolchain script).result session).1 =
      toolchain.project session.machine script.file := by
  rw [resolveProject, if_neg (by simp [hsaved])]
  rfl

/-- The script leads the project of a saved script exactly if the compiler lists it first or not at
all, and it always leads that of an unsaved one. The other files are those that the compiler lists,
in its order, and the file of debugging aids may follow. -/
theorem leads_resolveProject_iff (compiler : Compiler) (script : Script) (session : Session) :
    let own := script.file
    let machine := session.machine
    let resolved := ((resolveProject compiler.toolchain script).result session).1
    let listing? (machine : Machine) (path : Path) :=
      (compiler.run machine ["-proj".toList, path.text]).1
    (∀ (path : Path) (listing : Text),
      (path.leads (Listing.parse path listing).files = true ↔
        (path.isAmong (printedFiles listing) = true → path.leads (printedFiles listing) = true)) ∧
      path.others (Listing.parse path listing).files = path.others (printedFiles listing)) ∧
    (script.isUnsaved = false →
      (∀ failure, listing? machine own = .error failure → resolved = .error failure) ∧
      ∀ listing, listing? machine own = .ok listing →
        ∃ project extra, resolved = .ok project ∧
          (extra = [] ∨ extra = [Compiler.debugFile machine]) ∧
          own.others project.files = own.others (printedFiles listing ++ extra) ∧
          (own.leads project.files = true ↔
            (own.isAmong (printedFiles listing) = true →
              own.leads (printedFiles listing) = true))) ∧
    (script.isUnsaved = true →
      let temporary := machine.freePath own.pointedExtension
      let write := machine.files.write temporary (Utf8.encode script.temporaryText)
      (∀ cause, write = .error cause → resolved = .error (.cannotCreateScript cause)) ∧
      ∀ written, write = .ok written →
        let shown := { machine with files := written }
        let canonical := (written.canonical? temporary).getD temporary
        (∀ failure, listing? shown temporary = .error failure → resolved = .error failure) ∧
        ∀ listing, listing? shown temporary = .ok listing →
          ∃ project extra, resolved = .ok project ∧
            (extra = [] ∨ extra = [Compiler.debugFile machine]) ∧
            project.files = own :: (printedFiles listing ++ extra).filter (fun file =>
              !(file.sameAs temporary || file.sameAs canonical)) ∧
            own.leads project.files = true) := by
  intro own machine resolved listing?
  refine ⟨fun path listing => ⟨Listing.leads_parse_iff path listing,
    Listing.others_parse path listing⟩, ?_, ?_⟩
  · intro hsaved
    have hresolved : resolved = compiler.toolchain.project machine own :=
      result_resolveProject_of_saved hsaved compiler.toolchain session
    refine ⟨fun failure hrun => hresolved.trans (Compiler.project_of_run_error hrun), ?_⟩
    intro listing hrun
    obtain ⟨project, extra, hproject, hfiles, hextra⟩ := Compiler.project_of_run_ok hrun
    refine ⟨project, extra, hresolved.trans hproject, hextra, ?_, ?_⟩
    · rw [hfiles, Path.others_append, Path.others_append, Listing.others_parse]
    · rw [hfiles, Path.leads_append (Listing.files_parse_ne_nil own listing),
        Listing.leads_parse_iff]
  · intro hunsaved temporary write
    refine ⟨fun cause hwrite => congrArg Prod.fst
      (result_resolveProject_of_unwritten hunsaved compiler.toolchain hwrite), ?_⟩
    intro written hwrite shown canonical
    have hresolved : resolved = (compiler.toolchain.project shown temporary).map fun project =>
        project.standFor own temporary canonical :=
      congrArg Prod.fst (result_resolveProject_of_written hunsaved compiler.toolchain hwrite)
    refine ⟨?_, ?_⟩
    · intro failure hrun
      rw [hresolved, Compiler.project_of_run_error hrun]
      rfl
    · intro listing hrun
      obtain ⟨project, extra, hproject, hfiles, hextra⟩ := Compiler.project_of_run_ok hrun
      refine ⟨project.standFor own temporary canonical, extra, ?_, hextra, ?_,
        Path.leads_cons own _⟩
      · rw [hresolved, hproject]
        rfl
      · rw [(project.standsFor_standFor own temporary canonical).files, hfiles, List.filter_append,
          List.filter_append, Listing.filter_files_parse]
        rw [Path.sameAs_refl]
        rfl

def printer : Compiler :=
  ⟨.ofString "/cscs"⟩

/-- A session with a compiler that prints the same text whatever it is asked. -/
def printingSession (listing : Text) : Session :=
  { detourSession with
    machine := { detourSession.machine with
      files := detourSession.machine.files.putEntry ["cscs".toList] (.file [] true)
      programs := fun _ _ => ⟨0, Utf8.encode listing, []⟩ } }

def savedScript : Script :=
  ⟨.ofString "/s/main.cs", .ofString "/s/main.cs", "f();".toList⟩

lemma run_printer (listing : Text) : (printer.run (printingSession listing).machine
    ["-proj".toList, savedScript.file.text]).1 = .ok listing :=
  Compiler.run_of_prints rfl rfl

theorem leads_resolveProject_iff_of_include :
    ∃ project, ((resolveProject printer.toolchain savedScript).result
        (printingSession "file:/s/lib.cs\nfile:/s/other.cs\n".toList)).1 = .ok project ∧
      savedScript.file.leads project.files = true ∧
      ∃ extra, savedScript.file.others project.files =
        savedScript.file.others ([.ofString "/s/lib.cs", .ofString "/s/other.cs"] ++ extra) := by
  have hprinted : printedFiles "file:/s/lib.cs\nfile:/s/other.cs\n".toList =
      [.ofString "/s/lib.cs", .ofString "/s/other.cs"] := by decide
  obtain ⟨-, hsaved, -⟩ := leads_resolveProject_iff printer savedScript
    (printingSession "file:/s/lib.cs\nfile:/s/other.cs\n".toList)
  obtain ⟨project, extra, hresolved, -, hothers, hleads⟩ :=
    (hsaved (by decide)).2 _ (run_printer _)
  rw [hprinted] at hothers hleads
  exact ⟨project, hresolved, hleads.mpr (by decide), extra, hothers⟩

/-- A compiler that lists an included file before the script. -/
theorem script_listed_second :
    let listing := "file:/s/lib.cs\nfile:/s/main.cs\n".toList
    (printer.run (printingSession listing).machine ["-proj".toList, savedScript.file.text]).1 =
      .ok listing ∧
    ((resolveProject printer.toolchain savedScript).result (printingSession listing)).1 =
      .ok ⟨[.ofString "/s/lib.cs", .ofString "/s/main.cs"], [], [], .ofString "/s/main.cs"⟩ ∧
    savedScript.file.leads [.ofString "/s/lib.cs", .ofString "/s/main.cs"] = false := by
  intro listing
  refine ⟨run_printer listing, ?_, by decide⟩
  rw [result_resolveProject_of_saved (by decide), Compiler.project_toolchain, run_printer listing]
  exact congrArg Except.ok (by decide)

end Session

end ScriptAssist
