import Mathlib.Data.List.Find
import ScriptAssist.Proofs.Encoding
import ScriptAssist.Proofs.LossyLines
import ScriptAssist.Proofs.TemporaryScripts
import ScriptAssist.Proofs.TextOrder
import ScriptAssist.Script.Directive

/-!
# Searching for files

The files of a folder are listed in the order of their names as bytes, and the argument of a
directive names the first of them that is read as the argument, alone or with an extension. As a
name comes before the same name with an extension, and the extensions of a directive are listed in
ascending order, the file that is found is the one that is preferred: named by the argument itself,
or else by the argument with the first extension for which there is a file. Only a name that encodes
no text can come before.
-/

namespace ScriptAssist

namespace Path

variable {folder : Path} {name : Text}

/-! ### Names of files -/

section Points

variable {α : Type} [DecidableEq α] {point : α} {name stem extension : List α}

omit [DecidableEq α] in
lemma exists_last_of_mem (h : point ∈ name) :
    ∃ front back, name = front ++ point :: back ∧ point ∉ back := by
  obtain ⟨back, front, hname, hback⟩ := List.eq_append_cons_of_mem (List.mem_reverse.mpr h)
  rw [List.reverse_eq_iff, List.reverse_append, List.reverse_cons, List.append_assoc,
    List.singleton_append] at hname
  exact ⟨front.reverse, back.reverse, hname, fun hmem => hback (List.mem_reverse.mp hmem)⟩

lemma append_of_splitAtPoint? (h : splitAtPoint? point name = some (stem, extension)) :
    name = stem ++ point :: extension := by
  by_cases hpoint : point ∈ name
  · obtain ⟨front, back, rfl, hback⟩ := exists_last_of_mem hpoint
    by_cases hfront : front = []
    · rw [hfront, List.nil_append, splitAtPoint?_cons hback] at h
      exact absurd h (by simp)
    · rw [splitAtPoint?_append hfront hback, Option.some.injEq, Prod.mk.injEq] at h
      rw [h.1, h.2]
  · rw [splitAtPoint?_of_notMem hpoint] at h
    exact absurd h (by simp)

end Points

lemma fileName_child (folder : Path) (hname : IsName name) :
    (folder.child name).fileName = name := by
  obtain ⟨before, -, hbefore⟩ := folder.exists_segments_child
  exact fileName_of_segments (hbefore name hname).2 hname

lemma steps_child (folder : Path) (hname : IsName name) :
    (folder.child name).steps = folder.steps ++ [.named name] := by
  obtain ⟨before, hfolder, hbefore⟩ := folder.exists_segments_child
  have hnone : componentOf? [] = none := by decide
  have hsteps : folder.steps = before.filterMap componentOf? := by
    rcases hfolder with heq | heq
    · rw [steps, heq]
    · rw [steps, heq, List.filterMap_append, List.filterMap_cons_none hnone, List.filterMap_nil,
        List.append_nil]
  rw [steps, (hbefore name hname).2, List.filterMap_append, hsteps,
    filterMap_componentOf? (List.forall_mem_singleton.mpr hname)]
  rfl

end Path

/-! ### Listed files -/

namespace ListedFile

variable {file : ListedFile} {stem letters : Text}

lemma stem_append_pointedExtension (file : ListedFile) :
    file.stem ++ file.pointedExtension = file.shownName := by
  rw [ListedFile.stem, pointedExtension]
  cases hsplit : Path.splitAtPoint? Utf8.point file.name with
  | none => exact List.append_nil _
  | some parts =>
    rw [shownName, Path.append_of_splitAtPoint? hsplit,
      Utf8.decodeLossy_append_single Utf8.isSingle_point]

lemma stem_of_shownName (hname : file.shownName = stem ++ '.' :: letters) (hstem : stem ≠ [])
    (hpoint : '.' ∉ letters) : file.stem = stem ∧ file.pointedExtension = '.' :: letters := by
  have hmem : Utf8.point ∈ file.name := by
    rw [← Utf8.mem_decodeLossy_iff Utf8.isSingle_point, ← shownName, hname]
    simp
  obtain ⟨front, back, hsplit, hback⟩ := Path.exists_last_of_mem hmem
  have hparts :
      Utf8.decodeLossy front ++ '.' :: Utf8.decodeLossy back = stem ++ '.' :: letters := by
    rw [← Utf8.decodeLossy_append_single Utf8.isSingle_point, ← hsplit, ← hname, shownName]
  have hletters : Utf8.decodeLossy back = letters := by
    have hread : '.' ∉ Utf8.decodeLossy back := by
      rwa [Utf8.mem_decodeLossy_iff Utf8.isSingle_point]
    have htail := congrArg (Text.tailAfter fun c => c = '.') hparts
    rwa [Text.tailAfter_append hread, Text.tailAfter_append hpoint] at htail
  rw [hletters] at hparts
  have hfront := List.append_cancel_right hparts
  have hne : front ≠ [] := by
    rintro rfl
    exact hstem hfront.symm
  rw [ListedFile.stem, pointedExtension, hsplit, Path.splitAtPoint?_append hne hback]
  exact ⟨hfront, congrArg ('.' :: ·) hletters⟩

end ListedFile

namespace Listings

variable {listings : Listings} {folder : Path} {name : Bytes}

/-- Whether a folder that can be read lists a file of this name. -/
def HasFile (listings : Listings) (folder : Path) (name : Bytes) : Prop :=
  ∃ entries, listings folder = some entries ∧ ⟨name, true⟩ ∈ entries

lemma forall_hasFile_iff {P : Bytes → Prop} : (∀ name, listings.HasFile folder name → P name) ↔
    ∀ entry ∈ (listings folder).getD [], entry.isFile = true → P entry.name := by
  constructor
  · rintro h ⟨name, isFile⟩ hmem rfl
    cases hentries : listings folder with
    | none => simp [hentries] at hmem
    | some entries => exact h name ⟨entries, hentries, by simpa [hentries] using hmem⟩
  · rintro h name ⟨entries, hentries, hmem⟩
    exact h ⟨name, true⟩ (by simpa [hentries] using hmem) rfl

lemma mem_fileNames_iff : name ∈ listings.fileNames folder ↔ listings.HasFile folder name := by
  rw [fileNames, List.mem_mergeSort, List.mem_map, HasFile]
  constructor
  · rintro ⟨⟨name, isFile⟩, hmem, rfl⟩
    obtain ⟨hlisted, rfl⟩ := List.mem_filter.mp hmem
    cases hentries : listings folder with
    | none => simp [hentries] at hlisted
    | some entries => exact ⟨entries, rfl, by simpa [hentries] using hlisted⟩
  · rintro ⟨entries, hentries, hmem⟩
    exact ⟨⟨name, true⟩, by simpa [hentries] using hmem, rfl⟩

lemma pairwise_fileNames (listings : Listings) (folder : Path) :
    (listings.fileNames folder).Pairwise (· ≤ ·) := by
  refine pairwise_le_mergeSort (fun a b => ?_) _
  rw [decide_eq_true_eq, ← not_lt]
  exact Iff.rfl

lemma mem_filesIn_iff {file : ListedFile} :
    file ∈ listings.filesIn folder ↔ file.folder = folder ∧ listings.HasFile folder file.name := by
  rw [filesIn, List.mem_map]
  constructor
  · rintro ⟨name, hname, rfl⟩
    exact ⟨rfl, mem_fileNames_iff.mp hname⟩
  · rintro ⟨rfl, hfile⟩
    exact ⟨file.name, mem_fileNames_iff.mpr hfile, rfl⟩

end Listings

/-! ### Files of a tree -/

namespace Files

variable {files : Files} {folder : Path} {place below : Place} {name : Text}

/-- Whatever is in the tree has a name that paths can lead to. -/
def HasNames (files : Files) : Prop :=
  ∀ item ∈ files.entries, ∀ name ∈ item.1, Path.IsName name

instance (files : Files) : Decidable files.HasNames :=
  inferInstanceAs (Decidable (∀ item ∈ files.entries, ∀ name ∈ item.1, Path.IsName name))

/-- Whether a folder that can be read holds a file of this name, to which its path leads. -/
structure Holds (files : Files) (folder : Path) (name : Text) : Prop where
  isName : Path.IsName name
  readable : files.isFolder folder = true
  isFile : files.isFile (folder.child name) = true

instance (files : Files) (folder : Path) (name : Text) : Decidable (files.Holds folder name) :=
  decidable_of_iff (Path.IsName name ∧ files.isFolder folder = true ∧
      files.isFile (folder.child name) = true)
    ⟨fun h => ⟨h.1, h.2.1, h.2.2⟩, fun h => ⟨h.isName, h.readable, h.isFile⟩⟩

lemma locate_child (hname : Path.IsName name) (hfolder : files.locate folder = .ok place)
    (h : files.locate (folder.child name) = .ok below) : below = place ++ [name] := by
  obtain ⟨before, -, hbefore⟩ := folder.exists_segments_child
  have hstart : files.startOf (folder.child name) = files.startOf folder := by
    rw [startOf, startOf, (hbefore name hname).1]
  rw [locate_eq_walk h, locate_eq_walk hfolder, hstart, folder.steps_child hname, walk, walk,
    List.foldl_append]
  rfl

lemma isFile_iff {path : Path} : files.isFile path = true ↔
    ∃ place entry, files.locate path = .ok place ∧ files.entryAt? place = some entry ∧
      entry.isFolder = false := by
  rw [isFile, lookup?, Option.any_eq_true]
  cases files.locate path with
  | ok place => simp
  | error cause => simp

lemma isFolder_iff {path : Path} : files.isFolder path = true ↔
    ∃ place, files.locate path = .ok place ∧
      (files.entryAt? place).any Entry.isFolder = true := by
  rw [isFolder, lookup?]
  cases files.locate path with
  | ok place => simp
  | error cause => simp

lemma mem_namesAt_iff :
    name ∈ files.namesAt place ↔ ∃ entry, (place ++ [name], entry) ∈ files.entries := by
  rw [namesAt, List.mem_filterMap]
  constructor
  · rintro ⟨⟨below, entry⟩, hmem, hname⟩
    dsimp only at hname
    rw [nameBelow?] at hname
    split at hname
    · split_ifs at hname with hbelow
      rw [Option.some.injEq] at hname
      rw [hbelow, hname] at hmem
      exact ⟨entry, hmem⟩
    · exact absurd hname (by simp)
  · rintro ⟨entry, hmem⟩
    exact ⟨_, hmem, by simp [nameBelow?]⟩

/-- A folder of a tree lists the files that it holds, by their encoded names. -/
lemma hasFile_listings_iff (hnames : files.HasNames) {bytes : Bytes} :
    files.listings.HasFile folder bytes ↔
      ∃ name, bytes = Utf8.encode name ∧ files.Holds folder name := by
  constructor
  · rintro ⟨entries, hentries, hmem⟩
    rw [listings] at hentries
    split at hentries
    · next place hplace =>
      split_ifs at hentries with hfolder
      rw [← Option.some.inj hentries, List.mem_map] at hmem
      obtain ⟨name, hname, hlisted⟩ := hmem
      obtain ⟨hbytes, hfile⟩ := Listed.mk.inj hlisted
      obtain ⟨entry, hentry⟩ := mem_namesAt_iff.mp hname
      exact ⟨name, hbytes.symm, hnames _ hentry name (by simp),
        isFolder_iff.mpr ⟨place, hplace, hfolder⟩, hfile⟩
    · exact absurd hentries (by simp)
  · rintro ⟨name, rfl, hname, hreadable, hfile⟩
    obtain ⟨place, hplace, hfolder⟩ := isFolder_iff.mp hreadable
    obtain ⟨below, entry, hbelow, hentry, -⟩ := isFile_iff.mp hfile
    rw [locate_child hname hplace hbelow, entryAt?, if_neg (by simp)] at hentry
    obtain ⟨before, after, hentries, -⟩ := List.lookup_eq_some_iff.mp hentry
    refine ⟨_, by rw [listings, hplace]; exact if_pos hfolder, List.mem_map.mpr ⟨name, ?_, ?_⟩⟩
    · exact mem_namesAt_iff.mpr ⟨entry, by simp [hentries]⟩
    · rw [hfile]

end Files

/-! ### Files that an argument names -/

namespace Directive

variable {listings : Listings} {searchDirs : List Path} {folder : Path} {directive word : Text}
  {extensions : List Text} {file : ListedFile}

/-- The names that an argument stands for, the preferred ones first. -/
def namesFor (extensions : List Text) (word : Text) : List Text :=
  word :: extensions.map (word ++ ·)

/-- Whether a name is read as one that an argument stands for. -/
def Fits (extensions : List Text) (word : Text) (name : Bytes) : Prop :=
  Utf8.decodeLossy name ∈ namesFor extensions word

instance (extensions : List Text) (word : Text) (name : Bytes) :
    Decidable (Fits extensions word name) :=
  inferInstanceAs (Decidable (_ ∈ _))

lemma extensions?_eq_some (h : extensions? directive = some extensions) :
    (extensions.map Utf8.encode).Pairwise (· < ·) ∧
      ∀ extension ∈ extensions, ∃ letters, extension = '.' :: letters ∧ '.' ∉ letters := by
  rw [extensions?] at h
  split_ifs at h
  · obtain rfl := Option.some.inj h
    exact ⟨by simp, by simp⟩
  · obtain rfl := Option.some.inj h
    exact ⟨by decide, by simp⟩

/-- Among encoded names, the preferred ones are the lesser ones. -/
lemma pairwise_namesFor (h : extensions? directive = some extensions) (word : Text) :
    ((namesFor extensions word).map Utf8.encode).Pairwise (· < ·) := by
  obtain ⟨hsorted, hpoint⟩ := extensions?_eq_some h
  rw [List.pairwise_map] at hsorted
  rw [List.pairwise_map, namesFor, List.pairwise_cons, List.pairwise_map]
  refine ⟨fun name hname => ?_, hsorted.imp fun hlt => ?_⟩
  · obtain ⟨extension, hmem, rfl⟩ := List.mem_map.mp hname
    obtain ⟨letters, rfl, -⟩ := hpoint extension hmem
    rw [Utf8.encode_append]
    exact lt_append _ (by simp [String.utf8EncodeChar_ne_nil])
  · rw [Utf8.encode_append, Utf8.encode_append]
    exact List.append_left_lt hlt

lemma isNamedBy_iff (h : extensions? directive = some extensions) (hword : word ≠ []) :
    isNamedBy extensions word file = true ↔ Fits extensions word file.name := by
  obtain ⟨-, hpoint⟩ := extensions?_eq_some h
  rw [isNamedBy, Bool.or_eq_true, Bool.and_eq_true, decide_eq_true_eq, decide_eq_true_eq,
    List.contains_iff_mem, Fits, namesFor, List.mem_cons, List.mem_map]
  refine or_congr_right ⟨?_, ?_⟩
  · rintro ⟨hstem, hextension⟩
    refine ⟨_, hextension, ?_⟩
    rw [← hstem, file.stem_append_pointedExtension, ListedFile.shownName]
  · rintro ⟨extension, hextension, hname⟩
    obtain ⟨letters, rfl, hletters⟩ := hpoint extension hextension
    obtain ⟨hstem, hpointed⟩ := ListedFile.stem_of_shownName hname.symm hword hletters
    exact ⟨hstem, by rwa [hpointed]⟩

/-- In one folder, the file that is found is the one with the least name of those that fit. -/
lemma find?_filesIn_eq_some_iff (h : extensions? directive = some extensions) (hword : word ≠ []) :
    (listings.filesIn folder).find? (isNamedBy extensions word) = some file ↔
      file.folder = folder ∧ listings.HasFile folder file.name ∧ Fits extensions word file.name ∧
        ∀ name, listings.HasFile folder name → Fits extensions word name → file.name ≤ name := by
  have hsorted := listings.pairwise_fileNames folder
  rw [Listings.filesIn, List.find?_map, Option.map_eq_some_iff]
  simp only [find?_eq_some_iff_of_sorted hsorted, Function.comp_apply, isNamedBy_iff h hword,
    Listings.mem_fileNames_iff]
  constructor
  · rintro ⟨name, ⟨hfile, hfits, hleast⟩, rfl⟩
    exact ⟨rfl, hfile, hfits, hleast⟩
  · rintro ⟨rfl, hfile, hfits, hleast⟩
    exact ⟨file.name, ⟨hfile, hfits, hleast⟩, rfl⟩

lemma find?_filesIn_eq_none_iff (h : extensions? directive = some extensions) (hword : word ≠ []) :
    (listings.filesIn folder).find? (isNamedBy extensions word) = none ↔
      ∀ name, listings.HasFile folder name → ¬ Fits extensions word name := by
  rw [List.find?_eq_none]
  constructor
  · intro hnone name hfile hfits
    exact hnone ⟨folder, name⟩ (Listings.mem_filesIn_iff.mpr ⟨rfl, hfile⟩)
      ((isNamedBy_iff h hword).mpr hfits)
  · intro hnone file hmem hnamed
    exact hnone file.name (Listings.mem_filesIn_iff.mp hmem).2 ((isNamedBy_iff h hword).mp hnamed)

lemma findListed_eq_findSome? (h : extensions? directive = some extensions) (hword : word ≠ []) :
    findListed listings searchDirs directive word =
      searchDirs.findSome? fun folder =>
        (listings.filesIn folder).find? (isNamedBy extensions word) := by
  rw [findListed, h, ← List.find?_flatMap]
  exact if_neg (by simpa using hword)

/-- The file that is found is in the first folder that lists any that fits. -/
lemma findListed_eq_some_iff (h : extensions? directive = some extensions) (hword : word ≠ []) :
    findListed listings searchDirs directive word = some file ↔
      ∃ earlier folder later, searchDirs = earlier ++ folder :: later ∧
        (∀ other ∈ earlier, ∀ name, listings.HasFile other name → ¬ Fits extensions word name) ∧
        file.folder = folder ∧ listings.HasFile folder file.name ∧
        Fits extensions word file.name ∧
        ∀ name, listings.HasFile folder name → Fits extensions word name → file.name ≤ name := by
  rw [findListed_eq_findSome? h hword, List.findSome?_eq_some_iff]
  constructor
  · rintro ⟨earlier, folder, later, hdirs, hfound, hearlier⟩
    exact ⟨earlier, folder, later, hdirs,
      fun other hother => (find?_filesIn_eq_none_iff h hword).mp (hearlier other hother),
      (find?_filesIn_eq_some_iff h hword).mp hfound⟩
  · rintro ⟨earlier, folder, later, hdirs, hearlier, hfound⟩
    exact ⟨earlier, folder, later, hdirs, (find?_filesIn_eq_some_iff h hword).mpr hfound,
      fun other hother => (find?_filesIn_eq_none_iff h hword).mpr (hearlier other hother)⟩

lemma findListed_eq_none_iff (h : extensions? directive = some extensions) (hword : word ≠ []) :
    findListed listings searchDirs directive word = none ↔
      ∀ folder ∈ searchDirs, ∀ name, listings.HasFile folder name →
        ¬ Fits extensions word name := by
  rw [findListed_eq_findSome? h hword, List.findSome?_eq_none_iff]
  exact forall₂_congr fun folder _ => find?_filesIn_eq_none_iff h hword

/-- Of names that encode texts, the least one that fits is the preferred one. -/
lemma preferred_of_least (h : extensions? directive = some extensions) {name : Bytes}
    (hname : Fits extensions word name)
    (hleast : ∀ other, listings.HasFile folder other → Fits extensions word other → name ≤ other)
    (hencoded : Utf8.encode (Utf8.decodeLossy name) = name) :
    ∃ preferred text others, namesFor extensions word = preferred ++ text :: others ∧
      name = Utf8.encode text ∧
      ∀ other ∈ preferred, ¬ listings.HasFile folder (Utf8.encode other) := by
  obtain ⟨preferred, others, hsplit⟩ := List.append_of_mem hname
  refine ⟨preferred, _, others, hsplit, hencoded.symm, fun other hother hfile => ?_⟩
  have hsorted := pairwise_namesFor h word
  rw [hsplit, List.map_append, List.map_cons, List.pairwise_append] at hsorted
  have hlesser := hsorted.2.2 _ (List.mem_map_of_mem hother) _ List.mem_cons_self
  rw [hencoded] at hlesser
  have hfits : Fits extensions word (Utf8.encode other) := by
    rw [Fits, Utf8.decodeLossy_encode, hsplit]
    exact List.mem_append_left _ hother
  exact absurd hlesser (not_lt.mpr (hleast _ hfile hfits))

/-- The file that the argument of a directive names is in the first search directory that lists a
file for it, and there it is the one with the least name: the preferred one, if the names that fit
encode texts. Nothing is found exactly if no search directory lists any. -/
theorem findListed_finds_preferred (hextensions : extensions? directive = some extensions)
    (hword : word ≠ []) (listings : Listings) (searchDirs : List Path) :
    (∀ file, findListed listings searchDirs directive word = some file ↔
      ∃ earlier folder later, searchDirs = earlier ++ folder :: later ∧
        (∀ other ∈ earlier, ∀ name, listings.HasFile other name → ¬ Fits extensions word name) ∧
        file.folder = folder ∧ listings.HasFile folder file.name ∧
        Fits extensions word file.name ∧
        ∀ name, listings.HasFile folder name → Fits extensions word name → file.name ≤ name) ∧
    (∀ file, findListed listings searchDirs directive word = some file →
      (∀ name, listings.HasFile file.folder name → Fits extensions word name →
        Utf8.encode (Utf8.decodeLossy name) = name) →
      ∃ preferred text others, namesFor extensions word = preferred ++ text :: others ∧
        file.name = Utf8.encode text ∧
        ∀ other ∈ preferred, ¬ listings.HasFile file.folder (Utf8.encode other)) ∧
    (findListed listings searchDirs directive word = none ↔
      ∀ folder ∈ searchDirs, ∀ name, listings.HasFile folder name →
        ¬ Fits extensions word name) := by
  refine ⟨fun file => findListed_eq_some_iff hextensions hword, fun file hfile hencoded => ?_,
    findListed_eq_none_iff hextensions hword⟩
  obtain ⟨-, _, -, -, -, rfl, hmem, hfits, hleast⟩ :=
    (findListed_eq_some_iff hextensions hword).mp hfile
  exact preferred_of_least hextensions hfits hleast (hencoded _ hmem hfits)

/-- A folder with two libraries and a folder of the same name, and another one with a file of that
name. -/
def libraryFiles : Files where
  entries := [(["lib".toList], .folder), (["lib".toList, "a.b".toList], .folder),
    (["lib".toList, "a.b.exe".toList], .file [] true),
    (["lib".toList, "a.b.dll".toList], .file [] false),
    (["lib".toList, "a.b.c.dll".toList], .file [] false), (["bin".toList], .folder),
    (["bin".toList, "a.b".toList], .file [] false)]
  workingDir := []

theorem findListed_finds_preferred_library :
    extensions? "//css_ref".toList = some [".dll".toList, ".exe".toList] ∧
      lookupFile libraryFiles [.ofString "none", .ofString "lib", .ofString "bin"]
        "//css_ref".toList "a.b".toList = some (.ofString "lib/a.b.dll") ∧
      ∃ preferred text others,
        namesFor [".dll".toList, ".exe".toList] "a.b".toList = preferred ++ text :: others ∧
        Utf8.encode "a.b.dll".toList = Utf8.encode text ∧
        ∀ other ∈ preferred, ¬ libraryFiles.Holds (.ofString "lib") other := by
  have hextensions : extensions? "//css_ref".toList = some [".dll".toList, ".exe".toList] := rfl
  have hword : "a.b".toList ≠ [] := by decide
  have hlisted : ∀ {folder name}, libraryFiles.Holds folder name →
      libraryFiles.listings.HasFile folder (Utf8.encode name) := fun {_ name} hheld =>
    (Files.hasFile_listings_iff (by decide)).mpr ⟨name, rfl, hheld⟩
  obtain ⟨hfound, hpreferred, -⟩ := findListed_finds_preferred hextensions hword
    libraryFiles.listings [.ofString "none", .ofString "lib", .ofString "bin"]
  have hfile := (hfound ⟨.ofString "lib", Utf8.encode "a.b.dll".toList⟩).mpr
    ⟨[.ofString "none"], .ofString "lib", [.ofString "bin"], rfl,
      fun other hother => Listings.forall_hasFile_iff.mpr (by
        rw [List.mem_singleton.mp hother]
        decide),
      rfl, hlisted (by decide), by decide, Listings.forall_hasFile_iff.mpr (by decide)⟩
  obtain ⟨preferred, text, others, hsplit, htext, hmissing⟩ :=
    hpreferred _ hfile (Listings.forall_hasFile_iff.mpr (by decide))
  refine ⟨hextensions, ?_, preferred, text, others, hsplit, htext, fun other hother hheld =>
    hmissing other hother (hlisted hheld)⟩
  rw [lookupFile, hfile]
  decide

/-- A folder with a script whose name has a replacement character, and with one whose name encodes
no text but is read as that name with a second extension. -/
def misreadListings : Listings := fun _ =>
  some [⟨Utf8.encode "a\uFFFD.cs".toList, true⟩,
    ⟨[0x61, 0x80] ++ Utf8.encode ".cs.cs".toList, true⟩]

/-- A folder with a script, and a path to the folder with as many fillers as a path may have. -/
def windingFiles : Files where
  entries := [(["d".toList], .folder), (["d".toList, "lib.cs".toList], .file [] false)]
  workingDir := []

def windingFolder : Path :=
  ⟨'d' :: (List.replicate 2045 "/.".toList).flatten⟩

/-- A name that encodes no text is found in place of the argument itself, and a file to which its
path is too long to lead is not found. -/
theorem preferred_file_not_found :
    (misreadListings.HasFile (.ofString "d") (Utf8.encode "a\uFFFD.cs".toList) ∧
      findListed misreadListings [.ofString "d"] "//css_inc".toList "a\uFFFD.cs".toList =
        some ⟨.ofString "d", [0x61, 0x80] ++ Utf8.encode ".cs.cs".toList⟩) ∧
    (windingFiles.locate windingFolder = .ok ["d".toList] ∧
      windingFiles.entryAt? ["d".toList, "lib.cs".toList] = some (.file [] false) ∧
      lookupFile windingFiles [windingFolder] "//css_inc".toList "lib.cs".toList = none) := by
  have hextensions : extensions? "//css_inc".toList = some [".cs".toList] := rfl
  refine ⟨⟨⟨_, rfl, by decide⟩, ?_⟩, by decide +kernel, rfl, ?_⟩
  · rw [findListed_eq_some_iff hextensions (by decide)]
    exact ⟨[], _, [], rfl, List.forall_mem_nil _, rfl, ⟨_, rfl, by decide⟩, by decide,
      Listings.forall_hasFile_iff.mpr (by decide)⟩
  · have hunheld : ∀ name, windingFiles.listings.HasFile windingFolder name →
        ¬ Fits [".cs".toList] "lib.cs".toList name :=
      Listings.forall_hasFile_iff.mpr (by decide +kernel)
    rw [lookupFile, (findListed_eq_none_iff hextensions (by decide)).mpr
      (List.forall_mem_singleton.mpr hunheld)]
    rfl

end Directive

end ScriptAssist
