import ScriptAssist.Proofs.UnsavedScripts

/-!
# Scripts and their folders

The project of an unsaved script is what the toolchain says about a temporary file, without that
file and its folder and with the script in front. So the script is listed twice if the toolchain
lists it too, and the folder of the script is lost if it is that of the temporary file.
-/

namespace ScriptAssist

/-! ### Folders -/

namespace Path

variable {p q : Path} {before : List Text} {name : Text} {paths : List Path}

/-- The components that segments stand for, from the root or not. -/
def componentsOf (absolute : Bool) (segments : List Text) : List Component :=
  if absolute then .root :: segments.filterMap componentOf?
  else if segments.head? = some ['.'] then .here :: segments.filterMap componentOf?
  else segments.filterMap componentOf?

lemma components_eq_componentsOf (p : Path) : p.components = componentsOf p.isAbsolute p.segments :=
  rfl

lemma filterMap_fillers {segments : List Text} (h : ∀ segment ∈ segments, isFiller segment = true) :
    segments.filterMap componentOf? = [] := by
  rw [List.filterMap_eq_nil_iff]
  intro segment hsegment
  rw [componentOf?, if_pos (h segment hsegment)]

/-- Segments that are no more than fillers behind the last other one stand for nothing. -/
lemma componentsOf_withoutFillers (p : Path) (segments : List Text) :
    componentsOf p.isAbsolute (p.withoutFillers segments) = componentsOf p.isAbsolute segments := by
  have hfillers := @List.mem_rtakeWhile_imp _ isFiller segments
  have hsplit : segments.rdropWhile isFiller ++ segments.rtakeWhile isFiller = segments :=
    List.rdropWhile_append_rtakeWhile
  have hkept : (segments.reverse.dropWhile isFiller).reverse = segments.rdropWhile isFiller := rfl
  have hbody : (segments.rdropWhile isFiller).filterMap componentOf? =
      segments.filterMap componentOf? := by
    conv_rhs => rw [← hsplit, List.filterMap_append,
      filterMap_fillers fun segment hsegment => hfillers hsegment, List.append_nil]
  rw [withoutFillers, hkept]
  cases hrest : segments.rdropWhile isFiller with
  | nil =>
    rw [hrest] at hbody
    by_cases hhere : p.isAbsolute = false ∧ segments.head? = some ['.']
    · simp [componentsOf, hhere.1, hhere.2, ← hbody, componentOf?, isFiller]
    · cases habsolute : p.isAbsolute with
      | true => simp [componentsOf, ← hbody]
      | false =>
        have hhead : segments.head? ≠ some ['.'] := fun hhead => hhere ⟨habsolute, hhead⟩
        simp [componentsOf, ← hbody, hhead]
  | cons segment rest =>
    rw [hrest] at hsplit hbody
    rw [← hsplit] at hbody ⊢
    simp [componentsOf, hbody]

lemma withoutFillers_cases (p : Path) (segments : List Text) :
    p.withoutFillers segments = [['.']] ∧ segments.head? = some ['.'] ∨
      p.withoutFillers segments <+: segments := by
  rw [withoutFillers]
  split_ifs with hhere
  · simp only [Bool.and_eq_true, decide_eq_true_eq] at hhere
    exact .inl ⟨rfl, hhere.2⟩
  · exact .inr (List.rdropWhile_prefix isFiller segments)

lemma mem_of_mem_withoutFillers {segments : List Text} {segment : Text}
    (h : segment ∈ p.withoutFillers segments) : segment ∈ segments := by
  rcases p.withoutFillers_cases segments with ⟨hhere, hhead⟩ | hprefix
  · rw [hhere, List.mem_singleton] at h
    exact h ▸ List.mem_of_head? hhead
  · exact hprefix.subset h

lemma head?_withoutFillers {segments : List Text} (hne : p.withoutFillers segments ≠ []) :
    (p.withoutFillers segments).head? = segments.head? := by
  rcases p.withoutFillers_cases segments with ⟨hhere, hhead⟩ | ⟨rest, hrest⟩
  · rw [hhere, hhead]
    rfl
  · obtain ⟨segment, kept, hkept⟩ := List.exists_cons_of_ne_nil hne
    have hhead := congrArg List.head? hrest
    rwa [List.head?_append, hkept, List.head?_cons, Option.some_or, ← List.head?_cons, ← hkept]
      at hhead

/-- A path made of the segments of another one has them, unless there are none. -/
lemma segments_of_joined {segments : List Text} {absolute : Bool}
    (hslash : ∀ segment ∈ segments, '/' ∉ segment) (hne : segments ≠ [])
    (hfirst : absolute = false → segments.head? ≠ some []) :
    let joined : Path := ⟨if absolute then '/' :: Text.joinWith ['/'] segments
      else Text.joinWith ['/'] segments⟩
    joined.isAbsolute = absolute ∧ joined.segments = segments := by
  have hsplit : (Text.joinWith ['/'] segments).splitOn '/' = segments :=
    List.splitOn_intercalate '/' hslash hne
  cases absolute with
  | true =>
    refine ⟨rfl, ?_⟩
    rw [Path.segments, if_pos (by rfl)]
    simp only [if_true]
    rw [List.splitOn_cons_eq_if_modifyHead, if_pos (by rfl), hsplit]
    rfl
  | false =>
    have hrelative : (Path.mk (Text.joinWith ['/'] segments)).isAbsolute = false := by
      rw [isAbsolute, decide_eq_false_iff_not]
      intro hroot
      obtain ⟨rest, hrest⟩ := List.head?_eq_some_iff.mp hroot
      dsimp only at hrest
      rw [hrest, List.splitOn_cons_eq_if_modifyHead, if_pos (by rfl)] at hsplit
      exact hfirst rfl (by rw [← hsplit]; rfl)
    refine ⟨hrelative, ?_⟩
    rw [Path.segments, if_neg (by simpa using hrelative)]
    exact hsplit

/-- The first segment of a path that does not start at the root is empty only in an empty path. -/
lemma head?_segments_ne_nil (habsolute : p.isAbsolute = false)
    (hsegments : p.segments = before ++ [name]) (hname : name ≠ []) :
    p.segments.head? ≠ some [] := by
  intro hhead
  have hpieces : p.segments = p.text.splitOn '/' := by
    rw [segments, if_neg (by simpa using habsolute)]
  obtain ⟨rest, hrest⟩ := List.head?_eq_some_iff.mp hhead
  have htext : ['/'].intercalate (p.text.splitOn '/') = p.text := List.intercalate_splitOn '/'
  rw [← hpieces, hrest] at htext
  cases rest with
  | nil =>
    rw [hrest] at hsegments
    cases before with
    | nil => exact hname (List.singleton_inj.mp hsegments.symm)
    | cons first before => simp at hsegments
  | cons next rest =>
    rw [List.intercalate_cons_cons, List.nil_append] at htext
    rw [isAbsolute, ← htext] at habsolute
    simp at habsolute

/-- A path without its last name leads along the segments before that. -/
lemma exists_parent?_of_segments (hsegments : p.segments = before ++ [name]) (hname : IsName name) :
    ∃ folder, p.parent? = some folder ∧ folder.components = componentsOf p.isAbsolute before := by
  have hempty := hname.ne_nil
  have hwhole : p.withoutFillers p.segments = before ++ [name] := by
    rw [withoutFillers, hsegments, List.reverse_append, List.reverse_singleton,
      List.singleton_append, List.dropWhile_cons_of_neg (by simp [hname.noFiller])]
    simp
  have hparent : p.parent? = some ⟨if p.isAbsolute then
      '/' :: Text.joinWith ['/'] (p.withoutFillers before)
      else Text.joinWith ['/'] (p.withoutFillers before)⟩ := by
    rw [parent?, hwhole, List.reverse_append, List.reverse_singleton, List.singleton_append]
    dsimp only
    rw [List.reverse_reverse]
  refine ⟨_, hparent, ?_⟩
  rw [← componentsOf_withoutFillers]
  by_cases hnone : p.withoutFillers before = []
  · rw [hnone]
    cases p.isAbsolute <;> rfl
  · have hslash : ∀ segment ∈ p.withoutFillers before, '/' ∉ segment := by
      intro segment hsegment
      apply @not_mem_of_mem_segments p
      rw [hsegments]
      exact List.mem_append_left [name] (mem_of_mem_withoutFillers hsegment)
    have hfirst : p.isAbsolute = false → (p.withoutFillers before).head? ≠ some [] := by
      intro habsolute hhead
      rw [head?_withoutFillers hnone] at hhead
      apply head?_segments_ne_nil habsolute hsegments hempty
      rw [hsegments, List.head?_append, hhead, Option.some_or]
    obtain ⟨habsolute, hjoined⟩ := segments_of_joined hslash hnone hfirst
    rw [components_eq_componentsOf, habsolute, hjoined]

/-- The folder of an entry is the folder that it was looked up in, whatever that is spelled like. -/
lemma exists_parent?_child (folder : Path) (hname : IsName name) :
    ∃ parent, (folder.child name).parent? = some parent ∧ parent.sameAs folder = true := by
  obtain ⟨before, hbefore, hchild⟩ := folder.exists_segments_child
  obtain ⟨habsolute, hsegments⟩ := hchild name hname
  obtain ⟨parent, hparent, hcomponents⟩ := exists_parent?_of_segments hsegments hname
  refine ⟨parent, hparent, ?_⟩
  rw [sameAs, decide_eq_true_eq, hcomponents, habsolute, components_eq_componentsOf]
  rcases hbefore with heq | heq
  · rw [heq]
  · have hbody : (before ++ [[]]).filterMap componentOf? = before.filterMap componentOf? := by
      rw [List.filterMap_append, @filterMap_fillers [[]] (List.forall_mem_singleton.mpr rfl),
        List.append_nil]
    rw [heq, componentsOf, componentsOf, hbody]
    cases before with
    | nil => simp
    | cons segment before => rfl

/-! ### Lists of paths -/

/-- No two of the paths are the same. -/
def AreDistinct (paths : List Path) : Prop :=
  paths.Pairwise fun p q => p.sameAs q = false

instance (paths : List Path) : Decidable (AreDistinct paths) :=
  inferInstanceAs (Decidable (paths.Pairwise _))

lemma areDistinct_cons_iff :
    AreDistinct (p :: paths) ↔ p.isAmong paths = false ∧ AreDistinct paths := by
  rw [AreDistinct, List.pairwise_cons, isAmong, List.any_eq_false]
  refine and_congr_left fun _ => forall₂_congr fun q _ => ?_
  rw [sameAs_comm q p, Bool.not_eq_true]

/-- Whether a path is among those kept depends on itself, if one is kept as well as the other of
paths that are the same. -/
lemma isAmong_filter {keeps : Path → Bool}
    (h : ∀ q, q.sameAs p = true → keeps q = keeps p) :
    p.isAmong (paths.filter keeps) = (p.isAmong paths && keeps p) := by
  rw [isAmong, isAmong, List.any_filter, Bool.eq_iff_iff, Bool.and_eq_true, List.any_eq_true,
    List.any_eq_true]
  constructor
  · rintro ⟨q, hq, hkept⟩
    rw [Bool.and_eq_true] at hkept
    exact ⟨⟨q, hq, hkept.2⟩, (h q hkept.2).symm.trans hkept.1⟩
  · rintro ⟨⟨q, hq, hsame⟩, hkept⟩
    exact ⟨q, hq, by rw [hsame, h q hsame, hkept]; rfl⟩

lemma sameAs_congr {r : Path} (h : p.sameAs q = true) : p.sameAs r = q.sameAs r := by
  rw [sameAs, decide_eq_true_eq] at h
  rw [sameAs, sameAs, h]

/-- The folder in which a file stands, as far as its path says. -/
def folder (p : Path) : Path :=
  p.parent?.getD ⟨[]⟩

end Path

/-! ### What belongs to the script -/

/-- The project of a script repeats no file and does not lose the folder of the script, if that is
among the search directories that the toolchain shows. -/
structure Project.KeepsScript (project shown : Project) (script : Path) : Prop where
  files : Path.AreDistinct project.files
  folder : script.folder.isAmong shown.searchDirs = true →
    script.folder.isAmong project.searchDirs = true

namespace Project

variable {project shown : Project} {own temporary canonical : Path}

lemma StandsFor.keepsScript_iff (h : project.StandsFor shown own temporary canonical)
    (hdistinct : Path.AreDistinct shown.files) :
    project.KeepsScript shown own ↔
      (own.isAmong shown.files = true →
        (own.sameAs temporary || own.sameAs canonical) = true) ∧
      (own.folder.isAmong shown.searchDirs = true →
        (temporary.parent?.any own.folder.sameAs || canonical.parent?.any own.folder.sameAs) =
          false) := by
  have hfiles : Path.AreDistinct project.files ↔ (own.isAmong shown.files = true →
      (own.sameAs temporary || own.sameAs canonical) = true) := by
    have hkept : ∀ keeps, Path.AreDistinct (shown.files.filter keeps) := fun keeps =>
      List.Pairwise.filter keeps hdistinct
    have hown : ∀ file : Path, file.sameAs own = true →
        (!(file.sameAs temporary || file.sameAs canonical)) =
          !(own.sameAs temporary || own.sameAs canonical) := by
      intro file hsame
      rw [Path.sameAs_congr hsame, Path.sameAs_congr hsame]
    rw [h.files, Path.areDistinct_cons_iff, and_iff_left (hkept _), Path.isAmong_filter hown,
      Bool.and_eq_false_imp, Bool.not_eq_false']
  have hfolder : own.folder.isAmong project.searchDirs = (own.folder.isAmong shown.searchDirs &&
      !(temporary.parent?.any own.folder.sameAs || canonical.parent?.any own.folder.sameAs)) := by
    rw [h.searchDirs]
    apply Path.isAmong_filter
    intro q hq
    have hsame : q.sameAs = own.folder.sameAs := funext fun r => Path.sameAs_congr hq
    rw [hsame]
  constructor
  · rintro ⟨hdistinct, hlisted⟩
    refine ⟨hfiles.mp hdistinct, fun hshown => ?_⟩
    have hkept := hlisted hshown
    rw [hfolder, Bool.and_eq_true, Bool.not_eq_true'] at hkept
    exact hkept.2
  · rintro ⟨hown, hother⟩
    refine ⟨hfiles.mpr hown, fun hshown => ?_⟩
    rw [hfolder, hshown, hother hshown]
    rfl

end Project

namespace Session

variable {script : Script} {session : Session} {written : Files} {shown : Project}

/-- Whatever the toolchain shows, the folder for temporary files is taken out. -/
lemma isTemporaryFolder_of_sameAs {folder : Path} {machine : Machine} {extension : Text}
    (hslash : '/' ∉ extension) (h : folder.sameAs machine.tempDir = true) :
    (machine.freePath extension).parent?.any folder.sameAs = true := by
  have hname := Machine.isName_temporaryName
    (machine.freeNumber extension 0 machine.files.entries.length) hslash
  obtain ⟨parent, hparent, hsame⟩ := machine.tempDir.exists_parent?_child hname
  have hfree : (machine.freePath extension).parent? = some parent := hparent
  rw [hfree, Option.any_some]
  exact Path.sameAs_trans h (Path.sameAs_symm hsame)

/-- The project of an unsaved script keeps what belongs to the script, for an answer without
repetitions, exactly if the answer does not list the script, or takes it for the temporary file, and
does not list the folder of the script, or that is not the folder of the temporary file. A script
that is there is never taken for the temporary file; a folder for temporary files always is the
folder of that file. -/
theorem resolveProject_keepsScript_iff (toolchain : Toolchain) (hunsaved : script.isUnsaved = true)
    (hwrite : session.machine.files.write
      (session.machine.freePath script.file.pointedExtension)
      (Utf8.encode script.temporaryText) = .ok written)
    (hshown : toolchain.project { session.machine with files := written }
      (session.machine.freePath script.file.pointedExtension) = .ok shown)
    (hdistinct : Path.AreDistinct shown.files) :
    let temporary := session.machine.freePath script.file.pointedExtension
    let canonical := (written.canonical? temporary).getD temporary
    let isTemporary (file : Path) := file.sameAs temporary || file.sameAs canonical
    let isTemporaryFolder (folder : Path) :=
      temporary.parent?.any folder.sameAs || canonical.parent?.any folder.sameAs
    (∃ project, ((resolveProject toolchain script).result session).1 = .ok project ∧
      (project.KeepsScript shown script.file ↔
        (script.file.isAmong shown.files = true → isTemporary script.file = true) ∧
        (script.file.folder.isAmong shown.searchDirs = true →
          isTemporaryFolder script.file.folder = false))) ∧
    ((session.machine.files.lookup? script.file).isSome → session.machine.files.HasNamedDir →
      isTemporary script.file = false) ∧
    (script.file.folder.sameAs session.machine.tempDir = true →
      isTemporaryFolder script.file.folder = true) := by
  intro temporary canonical isTemporary isTemporaryFolder
  have hslash := script.file.noSlash_pointedExtension
  have hadds := Machine.addsFile_of_write hslash hwrite
  have hresolved : ((resolveProject toolchain script).result session).1 =
      .ok (shown.standFor script.file temporary canonical) := by
    rw [result_resolveProject_of_written hunsaved toolchain hwrite]
    exact congrArg (Except.map _) hshown
  have hstands := shown.standsFor_standFor script.file temporary canonical
  refine ⟨⟨_, hresolved, hstands.keepsScript_iff hdistinct⟩, ?_, ?_⟩
  · intro hthere hdir
    exact Bool.or_eq_false_iff.mpr
      ⟨hadds.sameAs_eq_false hthere, hadds.sameAs_canonical_eq_false hdir hthere⟩
  · intro hsame
    exact Bool.or_eq_true_iff.mpr (.inl (isTemporaryFolder_of_sameAs hslash hsame))

/-- A toolchain that names these files beside the script it is shown, and these directories. -/
def listingToolchain (files searchDirs : List Path) : Toolchain :=
  { loneToolchain with project := fun _ script => .ok ⟨script :: files, [], searchDirs, script⟩ }

theorem resolveProject_keepsScript_iff_of_detour :
    let shown : Project := ⟨[.ofString "/s/../tmp/syntaxer-0.cs", .ofString "/s/lib.cs"], [],
      [.ofString "/tmp", .ofString "/s/."], .ofString "/s/../tmp/syntaxer-0.cs"⟩
    unsavedScript.isUnsaved = true ∧ Path.AreDistinct shown.files ∧
      ∃ project, ((resolveProject (listingToolchain [.ofString "/s/lib.cs"]
          [.ofString "/tmp", .ofString "/s/."]) unsavedScript).result detourSession).1 =
            .ok project ∧
        project.KeepsScript shown unsavedScript.file := by
  intro shown
  have hwrite : detourSession.machine.files.write
      (detourSession.machine.freePath unsavedScript.file.pointedExtension)
      (Utf8.encode unsavedScript.temporaryText) =
        .ok (detourSession.machine.files.putEntry ["tmp".toList, "syntaxer-0.cs".toList]
          (.file (Utf8.encode unsavedScript.temporaryText) false)) := rfl
  obtain ⟨⟨project, hresolved, hkeeps⟩, -, -⟩ := resolveProject_keepsScript_iff
    (listingToolchain [.ofString "/s/lib.cs"] [.ofString "/tmp", .ofString "/s/."])
    (by decide) hwrite (rfl : _ = Except.ok shown) (by decide)
  exact ⟨by decide, by decide, project, hresolved, hkeeps.mpr (by decide)⟩

/-- A script in the folder for temporary files. -/
def scratchScript : Script :=
  ⟨.ofString "/tmp/main.cs", .ofString "/s/main.tmp", "f();".toList⟩

def scratchSession : Session :=
  { detourSession with
    machine := { detourSession.machine with
      files := detourSession.machine.files.putEntry ["tmp".toList, "main.cs".toList]
        (.file [] false) } }

/-- A toolchain that lists the script it was asked about makes for a second time of the script, and
the folder of a script among temporary files is lost. -/
theorem own_script_repeated_and_folder_lost :
    ((resolveProject (listingToolchain [.ofString "/s/lib.cs", .ofString "/s//main.cs"] [])
        unsavedScript).result detourSession).1 =
      .ok ⟨[.ofString "/s/main.cs", .ofString "/s/lib.cs", .ofString "/s//main.cs"], [], [],
        .ofString "/s/main.cs"⟩ ∧
    Path.AreDistinct [.ofString "/s/../tmp/syntaxer-0.cs", .ofString "/s/lib.cs",
      .ofString "/s//main.cs"] ∧
    ¬ Path.AreDistinct [.ofString "/s/main.cs", .ofString "/s/lib.cs", .ofString "/s//main.cs"] ∧
    ((resolveProject (listingToolchain [] [.ofString "/tmp", .ofString "/s"])
        scratchScript).result scratchSession).1 =
      .ok ⟨[.ofString "/tmp/main.cs"], [], [.ofString "/s"], .ofString "/tmp/main.cs"⟩ ∧
    scratchScript.file.folder.isAmong [.ofString "/tmp", .ofString "/s"] = true ∧
    scratchScript.file.folder.isAmong [.ofString "/s"] = false := by
  have hwrite : detourSession.machine.files.write
      (detourSession.machine.freePath unsavedScript.file.pointedExtension)
      (Utf8.encode unsavedScript.temporaryText) =
        .ok (detourSession.machine.files.putEntry ["tmp".toList, "syntaxer-0.cs".toList]
          (.file (Utf8.encode unsavedScript.temporaryText) false)) := rfl
  have hscratch : scratchSession.machine.files.write
      (scratchSession.machine.freePath scratchScript.file.pointedExtension)
      (Utf8.encode scratchScript.temporaryText) =
        .ok (scratchSession.machine.files.putEntry ["tmp".toList, "syntaxer-0.cs".toList]
          (.file (Utf8.encode scratchScript.temporaryText) false)) := rfl
  refine ⟨?_, by decide, by decide, ?_, by decide, by decide⟩
  · rw [result_resolveProject_of_written (by decide) _ hwrite]
    exact congrArg Except.ok (by decide)
  · rw [result_resolveProject_of_written (by decide) _ hscratch]
    exact congrArg Except.ok (by decide)

end Session

end ScriptAssist
