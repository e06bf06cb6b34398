import ScriptAssist.Proofs.PathPlaces

/-!
# Temporary scripts

The file that is made to show a script to the toolchain has the extension of the script. It is one
more file in the tree, which can be made wherever there is a folder for it, and no path that led
somewhere before leads to it.
-/

namespace ScriptAssist

/-! ### Extensions -/

namespace Path

variable {p : Path} {before : List Text} {name stem extension : Text}

lemma fileName_of_segments (hsegments : p.segments = before ++ [name]) (hname : IsName name) :
    p.fileName = name := by
  have hlast : p.components.getLast? = some (.named name) := by
    rw [components, hsegments, List.filterMap_append,
      filterMap_componentOf? (List.forall_mem_singleton.2 hname)]
    split_ifs
    · simp [List.getLast?_cons]
    · simp [List.getLast?_cons]
    · simp
  rw [fileName, fileName?, hlast]
  rfl

section Points

variable {α : Type} [DecidableEq α] {point : α} {name stem extension : List α}

lemma splitAtPoint?_append (hstem : stem ≠ []) (h : point ∉ extension) :
    splitAtPoint? point (stem ++ point :: extension) = some (stem, extension) := by
  have hlength : (stem ++ point :: extension).length - extension.length = stem.length + 1 := by
    simp
    omega
  have htake : (stem ++ point :: extension).take (stem.length + 1) = stem ++ [point] := by
    rw [List.take_append, List.take_of_length_le (by omega)]
    simp
  rw [splitAtPoint?, Text.tailAfter_append h, hlength, htake, List.dropLast_concat]
  simp [hstem]
  omega

lemma splitAtPoint?_of_notMem (h : point ∉ name) : splitAtPoint? point name = none := by
  simp [splitAtPoint?, Text.tailAfter_of_notMem h]

lemma splitAtPoint?_cons (h : point ∉ extension) :
    splitAtPoint? point (point :: extension) = none := by
  have htail := Text.tailAfter_append h []
  rw [List.nil_append] at htail
  simp [splitAtPoint?, htail]

end Points

lemma noPoint_extension (h : p.extension? = some extension) : '.' ∉ extension := by
  obtain ⟨⟨stem, tail⟩, hsplit, rfl⟩ := Option.map_eq_some_iff.1 h
  rw [splitAtPoint?] at hsplit
  split_ifs at hsplit
  · rw [← (Prod.mk.inj (Option.some.inj hsplit)).2]
    exact Text.notMem_tailAfter '.' p.fileName

end Path

namespace Machine

lemma exists_segments_freePath (machine : Machine) {extension : Text} (h : '/' ∉ extension) :
    ∃ before number, Path.IsName (temporaryName number extension) ∧
      (machine.freePath extension).segments = before ++ [temporaryName number extension] := by
  obtain ⟨before, -, hbefore⟩ := machine.tempDir.exists_segments_child
  let number := machine.freeNumber extension 0 machine.files.entries.length
  have hname := isName_temporaryName number h
  exact ⟨before, number, hname, (hbefore _ hname).2⟩

/-- A temporary file has the extension of the script it is made for. -/
lemma extension?_freePath (machine : Machine) (script : Path) :
    (machine.freePath script.pointedExtension).extension? = script.extension? := by
  obtain ⟨before, number, hname, hsegments⟩ :=
    machine.exists_segments_freePath script.noSlash_pointedExtension
  rw [Path.extension?, Path.fileName_of_segments hsegments hname, temporaryName_eq,
    Path.pointedExtension]
  have hpoint : '.' ∉ "syntaxer-".toList ++ Text.ofNat number := by
    rw [List.mem_append]
    rintro (hmem | hmem)
    · exact absurd hmem (by decide)
    · exact absurd (Text.isDigit_of_mem_ofNat hmem) (by decide)
  cases hextension : script.extension? with
  | none =>
    dsimp only
    rw [List.append_nil, Path.splitAtPoint?_of_notMem hpoint]
    rfl
  | some extension =>
    have hstem : "syntaxer-".toList ++ Text.ofNat number ≠ [] :=
      List.append_ne_nil_of_left_ne_nil (by decide) _
    dsimp only
    rw [Path.splitAtPoint?_append hstem (Path.noPoint_extension hextension)]
    rfl

end Machine

/-! ### One more file -/

/-- The tree with one more file: the path leads to the file, and it led nowhere before. -/
structure Files.AddsFile (files written : Files) (path : Path) (content : Bytes) : Prop where
  free : files.lookup? path = none
  workingDir : written.workingDir = files.workingDir
  entries : ∃ place, written.locate path = .ok place ∧ files.entryAt? place = none ∧
    ∀ other, written.entryAt? other =
      if other = place then some (.file content false) else files.entryAt? other

namespace Files

variable {files written : Files} {path script : Path} {content : Bytes}

lemma AddsFile.read (h : files.AddsFile written path content) :
    written.read path = .ok content := by
  obtain ⟨place, hlocate, -, hentries⟩ := h.entries
  rw [Files.read, hlocate]
  simp only [bind, Except.bind, hentries place, if_true]

/-- A path that leads somewhere is not the path of the new file. -/
lemma AddsFile.sameAs_eq_false (h : files.AddsFile written path content)
    (hscript : (files.lookup? script).isSome) : script.sameAs path = false := by
  obtain ⟨place, hlocate, hfree, -⟩ := h.entries
  obtain ⟨there, hthere, hentry⟩ := exists_place_of_lookup? hscript
  by_contra hsame
  rw [Bool.not_eq_false] at hsame
  rw [locate_eq_of_sameAs hsame h.workingDir.symm hthere hlocate, hfree] at hentry
  exact absurd hentry (by simp)

/-- Nor is it the path from the root to the new file. -/
lemma AddsFile.sameAs_canonical_eq_false (h : files.AddsFile written path content)
    (hdir : files.HasNamedDir) (hscript : (files.lookup? script).isSome) :
    script.sameAs ((written.canonical? path).getD path) = false := by
  cases hcanonical : written.canonical? path with
  | none => exact h.sameAs_eq_false hscript
  | some canonical =>
    obtain ⟨place, hlocate, hfree, -⟩ := h.entries
    obtain ⟨there, hthere, hentry⟩ := exists_place_of_lookup? hscript
    have hnames : ∀ name ∈ place, Path.IsName name := by
      have hwritten : written.HasNamedDir := by
        rw [HasNamedDir, h.workingDir]
        exact hdir
      exact hwritten.isName_of_locate hlocate
    by_contra hsame
    rw [Bool.not_eq_false, Option.getD_some, eq_pathOf_of_canonical? hlocate hcanonical] at hsame
    rw [eq_of_sameAs_pathOf hnames hsame hthere, hfree] at hentry
    exact absurd hentry (by simp)

/-- Where a path leads to a folder, its segments do, with or without an empty one behind them. -/
lemma exists_folder_of_isFolder {before : List Text} (h : files.isFolder path = true)
    (hsegments : path.segments = before ∨ path.segments = before ++ [[]]) :
    ∃ folder, files.follow (files.startOf path) before = .ok folder ∧
      (files.entryAt? folder).any Entry.isFolder = true := by
  rw [isFolder, lookup?, locate] at h
  cases hcheck : checkPath path with
  | error cause => simp [hcheck, bind, Except.bind] at h
  | ok _ =>
    rw [hcheck] at h
    simp only [bind, Except.bind] at h
    obtain hwhole | hslash := hsegments
    · rw [hwhole] at h
      cases hfollow : files.follow (files.startOf path) before with
      | error cause => simp [hfollow] at h
      | ok folder =>
        rw [hfollow] at h
        exact ⟨folder, rfl, h⟩
    · rw [hslash, follow_append] at h
      cases hfollow : files.follow (files.startOf path) before with
      | error cause => simp [hfollow] at h
      | ok folder =>
        rw [hfollow] at h
        refine ⟨folder, rfl, ?_⟩
        by_contra hfolder
        simp [follow, hfolder] at h

lemma exists_write {before : List Text} {name : Text} {folder : Place}
    (hsegments : path.segments = before ++ [name]) (hname : Path.IsName name)
    (hcheck : checkPath path = .ok ())
    (hfollow : files.follow (files.startOf path) before = .ok folder)
    (hfolder : (files.entryAt? folder).any Entry.isFolder = true)
    (hsize : Utf8.byteSize name ≤ maxNameSize) (hfree : files.lookup? path = none)
    (content : Bytes) : ∃ written, files.write path content = .ok written := by
  have hnamed : ¬(Path.isFiller name = true ∨ name = ['.', '.']) := by
    simp [hname.noFiller, hname.noParent]
  have hplace : files.placeFor path = .ok (folder ++ [name]) := by
    rw [placeFor, hcheck, hsegments, List.reverse_append, List.reverse_singleton]
    simp only [bind, Except.bind, List.singleton_append, List.reverse_reverse, hfollow, hfolder,
      Bool.not_true, Bool.false_eq_true, if_false, Bool.or_eq_true, decide_eq_true_eq,
      if_neg hnamed, if_neg (Nat.not_lt_of_le hsize)]
  rw [lookup?_of_placeFor hsegments hname hplace] at hfree
  refine ⟨files.putEntry (folder ++ [name]) (.file content false), ?_⟩
  rw [write, hplace]
  simp only [bind, Except.bind, hfree]

end Files

namespace Machine

variable {machine : Machine} {extension : Text} {content : Bytes} {written : Files}

lemma addsFile_of_write (h : '/' ∉ extension)
    (hwrite : machine.files.write (machine.freePath extension) content = .ok written) :
    machine.files.AddsFile written (machine.freePath extension) content := by
  obtain ⟨before, number, hname, hsegments⟩ := machine.exists_segments_freePath h
  have hfree := machine.lookup?_freePath h
  obtain ⟨place, hplace, rfl, hlocate⟩ :=
    Files.exists_place_of_write hsegments hname hfree hwrite
  exact ⟨hfree, rfl, place, hlocate, hplace, Files.entryAt?_putEntry hplace⟩

/-- A temporary file can be written where there is a folder for it. -/
lemma exists_write_freePath (h : '/' ∉ extension)
    (hfolder : machine.files.isFolder machine.tempDir = true)
    (hcheck : Files.checkPath (machine.freePath extension) = .ok ())
    (hsize : Utf8.byteSize (machine.freePath extension).fileName ≤ Files.maxNameSize)
    (content : Bytes) :
    ∃ written, machine.files.write (machine.freePath extension) content = .ok written := by
  obtain ⟨before, hbefore, hchild⟩ := machine.tempDir.exists_segments_child
  have hname := isName_temporaryName
    (machine.freeNumber extension 0 machine.files.entries.length) h
  obtain ⟨habsolute, hsegments⟩ : (machine.freePath extension).isAbsolute = _ ∧
    (machine.freePath extension).segments = _ := hchild _ hname
  have hstart : machine.files.startOf (machine.freePath extension) =
      machine.files.startOf machine.tempDir := by
    rw [Files.startOf, habsolute, Files.startOf]
  rw [Path.fileName_of_segments hsegments hname] at hsize
  obtain ⟨folder, hfollow, hparent⟩ := Files.exists_folder_of_isFolder hfolder hbefore
  exact Files.exists_write hsegments hname hcheck (hstart ▸ hfollow) hparent hsize
    (machine.lookup?_freePath h) content

end Machine

end ScriptAssist
