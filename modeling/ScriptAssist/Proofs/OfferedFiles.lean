import ScriptAssist.Proofs.DirectiveHits
import ScriptAssist.Proofs.FileSearch

/-!
# Offered files

For the argument of a directive all files with one of its extensions are offered by their names. A
name that holds no delimiter is read back as the argument, whole and at every caret in it. The
search for that argument finds a file of that name, unless an earlier search directory holds one
whose name has a further extension, which the argument is then taken to leave out.
-/

namespace ScriptAssist.Directive

open Text

variable {listings : Listings} {searchDirs : List Path} {extensions : List Text}
  {directive name word more before after : Text} {item : Completion} {file : ListedFile}
  {caret : Nat}

/-! ### Lines of an argument -/

lemma exists_of_extensions? (h : extensions? directive = some extensions) :
    ∃ more, directive = start ++ more ∧ ∀ c ∈ more, c ∉ WordKind.path.delimiters := by
  have hmore : ∃ more, directive = start ++ more ∧
      more.all (fun c => !WordKind.path.delimiters.contains c) = true := by
    rw [extensions?] at h
    split_ifs at h with hscript hlibrary
    · rw [Bool.or_eq_true, decide_eq_true_eq, decide_eq_true_eq] at hscript
      rcases hscript with rfl | rfl
      · exact ⟨"inc".toList, by decide, by decide⟩
      · exact ⟨"include".toList, by decide, by decide⟩
    · rw [Bool.or_eq_true, decide_eq_true_eq, decide_eq_true_eq] at hlibrary
      rcases hlibrary with rfl | rfl
      · exact ⟨"ref".toList, by decide, by decide⟩
      · exact ⟨"reference".toList, by decide, by decide⟩
  obtain ⟨more, hdirective, hfree⟩ := hmore
  exact ⟨more, hdirective, fun c hc => by simpa using List.all_eq_true.mp hfree c hc⟩

lemma endsInk_of_mem_extensions (h : extensions? directive = some extensions) {extension : Text}
    (hextension : extension ∈ extensions) :
    ∃ c, extension.getLast? = some c ∧ isBlank c = false := by
  rw [extensions?] at h
  split_ifs at h
  · obtain rfl := Option.some.inj h
    rw [List.mem_singleton.mp hextension]
    exact ⟨'s', by decide, by decide⟩
  · obtain rfl := Option.some.inj h
    rcases List.mem_pair.mp hextension with rfl | rfl
    · exact ⟨'l', by decide, by decide⟩
    · exact ⟨'e', by decide, by decide⟩

lemma ne_break_of_notMem_delimiters {c : Char} (h : c ∉ WordKind.path.delimiters) :
    c ≠ '\r' ∧ c ≠ '\n' := by
  have hbreaks : '\r' ∈ WordKind.path.delimiters ∧ '\n' ∈ WordKind.path.delimiters := by decide
  exact ⟨fun heq => h (heq ▸ hbreaks.1), fun heq => h (heq ▸ hbreaks.2)⟩

lemma ne_break_of_mem_argumentLine (hmore : ∀ c ∈ more, c ∉ WordKind.path.delimiters)
    (hfree : ∀ c ∈ name, c ∉ WordKind.path.delimiters) :
    ∀ c ∈ start ++ more ++ ' ' :: name, c ≠ '\r' ∧ c ≠ '\n' := by
  have hstart : '\r' ∉ start ∧ '\n' ∉ start := by decide
  intro c hc
  simp only [List.mem_append, List.mem_cons] at hc
  rcases hc with (hc | hc) | rfl | hc
  · exact ⟨fun heq => hstart.1 (heq ▸ hc), fun heq => hstart.2 (heq ▸ hc)⟩
  · exact ne_break_of_notMem_delimiters (hmore c hc)
  · decide
  · exact ne_break_of_notMem_delimiters (hfree c hc)

lemma ofLine_argumentLine (hmore : ∀ c ∈ more, c ∉ WordKind.path.delimiters) (name : Text) :
    ofLine (start ++ more ++ ' ' :: name) = start ++ more := by
  have hstop : ∀ c, (' ' :: name).head? = some c →
      (!WordKind.path.delimiters.contains c) = false := by
    rintro c ⟨⟩
    decide
  rw [List.append_assoc, ofLine_append,
    (span_append (fun c hc => by simpa using hmore c hc) hstop).1]

lemma trim_argumentLine (hname : name ≠ []) (hink : EndsInk name) :
    trim (start ++ more ++ ' ' :: name) = start ++ more ++ ' ' :: name := by
  have hlast := List.getLast?_eq_some_getLast hname
  refine trim_eq_self ?_ fun c hc => ?_
  · rintro c ⟨⟩
    decide
  · rw [List.getLast?_append, List.getLast?_cons, Option.some_or, hlast, Option.getD_some] at hc
    exact hink c (hlast.trans hc)

/-- On a line of a directive, a space and a name without delimiters, every caret in the name is on
the whole name, as the argument of the directive. -/
lemma parseAt_argumentLine (hextensions : extensions? directive = some extensions)
    (hne : name ≠ []) (hslash : '/' ∉ name) (hink : EndsInk name)
    (hfree : ∀ c ∈ name, c ∉ WordKind.path.delimiters)
    (hbefore : ∀ c, before.getLast? = some c → c = '\r' ∨ c = '\n')
    (hafter : ∀ c, after.head? = some c → c = '\r' ∨ c = '\n')
    (hbegins : (before ++ directive ++ [' ']).length ≤ caret)
    (hends : caret ≤ (before ++ directive ++ [' '] ++ name).length) :
    parseAt (before ++ (directive ++ ' ' :: name) ++ after) caret =
      some (.argument directive name) := by
  obtain ⟨more, rfl, hmore⟩ := exists_of_extensions? hextensions
  have hword : IsWord .path (before ++ (start ++ more) ++ [' '] ++ name ++ after) caret
      (before ++ (start ++ more) ++ [' ']) name after := by
    refine .of_caret_le hbegins (by rwa [← List.length_append])
      (fun c hc => by simpa using hfree c hc) (fun c hc => ?_) fun c hc => ?_
    · rw [List.getLast?_concat, Option.some.injEq] at hc
      exact hc ▸ by decide
    · rcases hafter c hc with rfl | rfl <;> decide
  have hline : IsLine (before ++ (start ++ more ++ ' ' :: name) ++ after) caret before
      (start ++ more ++ ' ' :: name) after := by
    simp only [List.length_append, List.length_cons, List.length_nil] at hbegins hends
    refine .of_caret_le (by omega) ?_
      (fun c hc => by simpa using ne_break_of_mem_argumentLine hmore hfree c hc)
      (fun c hc => by simpa using hbefore c hc) fun c hc => by simpa using hafter c hc
    simp only [List.length_append, List.length_cons]
    omega
  have hwordAt : wordAt .path (before ++ (start ++ more ++ ' ' :: name) ++ after) caret = name := by
    have htext : before ++ (start ++ more ++ ' ' :: name) ++ after =
        before ++ (start ++ more) ++ [' '] ++ name ++ after := by simp
    rw [htext]
    exact hword.stretchAt_eq
  have hlineAt : lineAt (before ++ (start ++ more ++ ' ' :: name) ++ after) caret =
      start ++ more ++ ' ' :: name := by
    rw [hline.lineAt_eq, trim_argumentLine hne hink]
  have hstart : startsWith start name = false := by
    by_contra h
    rw [Bool.not_eq_false] at h
    obtain ⟨rest, rfl⟩ := List.isPrefixOf_iff_prefix.mp h
    exact hslash (List.mem_append_left rest (by decide))
  rw [parseAt_eq_argument_iff, hwordAt, hlineAt]
  exact ⟨rfl, ofLine_argumentLine hmore name, hstart,
    List.isPrefixOf_iff_prefix.mpr ⟨more ++ ' ' :: name, by simp⟩, hne,
    Option.isSome_of_eq_some hextensions⟩

/-! ### Offers and searches -/

/-- No name that is listed holds a slash. -/
def NoSlashes (listings : Listings) : Prop :=
  ∀ folder name, listings.HasFile folder name → Utf8.slash ∉ name

/-- The items that are offered are the listed files of the search directories whose names end with
one of the extensions. -/
lemma mem_listedCompletions_iff (hextensions : extensions? directive = some extensions) :
    item ∈ listedCompletions listings searchDirs directive ↔
      ∃ file : ListedFile, file.folder ∈ searchDirs ∧ listings.HasFile file.folder file.name ∧
        file.pointedExtension ∈ extensions ∧
        item = .plain file.shownName .file (fileNote file.path) := by
  rw [listedCompletions, hextensions, List.mem_map]
  simp only [List.mem_filter, List.mem_flatMap, Listings.mem_filesIn_iff, List.contains_iff_mem]
  constructor
  · rintro ⟨file, ⟨⟨folder, hfolder, rfl, hfile⟩, hextension⟩, rfl⟩
    exact ⟨file, hfolder, hfile, hextension, rfl⟩
  · rintro ⟨file, hfolder, hfile, hextension, rfl⟩
    exact ⟨file, ⟨⟨_, hfolder, rfl, hfile⟩, hextension⟩, rfl⟩

/-- Whether a name is read as a word with one of the extensions. -/
def Extends (extensions : List Text) (word : Text) (name : Bytes) : Prop :=
  ∃ extension ∈ extensions, Utf8.decodeLossy name = word ++ extension

instance (extensions : List Text) (word : Text) (name : Bytes) :
    Decidable (Extends extensions word name) :=
  inferInstanceAs (Decidable (∃ extension ∈ extensions, Utf8.decodeLossy name = word ++ extension))

lemma fits_iff {name : Bytes} : Fits extensions word name ↔
    Utf8.decodeLossy name = word ∨ Extends extensions word name := by
  rw [Fits, namesFor, List.mem_cons, List.mem_map, Extends]
  exact or_congr_right (exists_congr fun extension => and_congr_right fun _ => eq_comm)

/-- A search directory lists a file that is shown by this name, and the search meets none before it
that is shown by the name with a further extension. -/
def ComesFirst (listings : Listings) (searchDirs : List Path) (extensions : List Text)
    (word : Text) : Prop :=
  ∃ earlier folder later name, searchDirs = earlier ++ folder :: later ∧
    listings.HasFile folder name ∧ Utf8.decodeLossy name = word ∧
    (∀ other ∈ earlier, ∀ longer, listings.HasFile other longer →
      ¬ Extends extensions word longer) ∧
    ∀ longer, listings.HasFile folder longer → Extends extensions word longer → name ≤ longer

/-- The search for a word finds a file that is shown by that very word exactly if it comes first. -/
lemma shownName_eq_iff_comesFirst (hextensions : extensions? directive = some extensions)
    (hword : word ≠ []) (hfile : findListed listings searchDirs directive word = some file) :
    file.shownName = word ↔ ComesFirst listings searchDirs extensions word := by
  obtain ⟨earlier, folder, later, hdirs, hunheld, -, hheld, hfits, hleast⟩ :=
    (findListed_eq_some_iff hextensions hword).mp hfile
  constructor
  · intro hshown
    exact ⟨earlier, folder, later, file.name, hdirs, hheld, hshown,
      fun other hother longer hlonger hextends =>
        hunheld other hother longer hlonger (fits_iff.mpr (.inr hextends)),
      fun longer hlonger hextends => hleast longer hlonger (fits_iff.mpr (.inr hextends))⟩
  · rintro ⟨earlier', folder', later', name, hdirs', hheld', hshown, hearlier', hleast'⟩
    by_contra hne
    have hextends := (fits_iff.mp hfits).resolve_left hne
    have hfits' : Fits extensions word name := fits_iff.mpr (.inl hshown)
    have hsame : folder' = folder → False := by
      rintro rfl
      have heq := le_antisymm (hleast name hheld' hfits') (hleast' _ hheld hextends)
      exact hne (by rw [ListedFile.shownName, heq, hshown])
    -- the folder where the file was found comes neither before the other one, nor at it, nor behind
    rw [hdirs] at hdirs'
    rcases List.append_eq_append_iff.mp hdirs' with ⟨more, hmore, hrest⟩ | ⟨more, hmore, hrest⟩
    · cases more with
      | nil => exact hsame (List.cons.inj hrest).1.symm
      | cons other more =>
        obtain ⟨rfl, -⟩ := List.cons.inj hrest
        exact hearlier' folder (by simp [hmore]) _ hheld hextends
    · cases more with
      | nil => exact hsame (List.cons.inj hrest).1
      | cons other more =>
        obtain ⟨rfl, -⟩ := List.cons.inj hrest
        exact hunheld folder' (by simp [hmore]) name hheld' hfits'

/-- A file that is offered for a directive and has no delimiter in its name is read back on its
line, at every caret in it, as the argument of the directive. The search for it finds a file shown
by that name, alone or with a further extension, and by that very name exactly if one comes
first. -/
theorem offered_files_found (hnames : NoSlashes listings)
    (hextensions : extensions? directive = some extensions)
    (hitem : item ∈ listedCompletions listings searchDirs directive) :
    ((∀ c ∈ item.insert, c ∉ WordKind.path.delimiters) → ∀ before after caret,
      (∀ c, before.getLast? = some c → c = '\r' ∨ c = '\n') →
      (∀ c, after.head? = some c → c = '\r' ∨ c = '\n') →
      (before ++ directive ++ [' ']).length ≤ caret →
      caret ≤ (before ++ directive ++ [' '] ++ item.insert).length →
      parseAt (before ++ (directive ++ ' ' :: item.insert) ++ after) caret =
        some (.argument directive item.insert)) ∧
    ∃ file, findListed listings searchDirs directive item.insert = some file ∧
      file.shownName ∈ namesFor extensions item.insert ∧
      (file.shownName = item.insert ↔
        ComesFirst listings searchDirs extensions item.insert) := by
  obtain ⟨file, hfolder, hheld, hextension, rfl⟩ := (mem_listedCompletions_iff hextensions).mp hitem
  obtain ⟨last, hlast, hinked⟩ := endsInk_of_mem_extensions hextensions hextension
  have hparts := file.stem_append_pointedExtension
  have hword : file.shownName ≠ [] := by
    rintro hnil
    rw [hnil, List.append_eq_nil_iff] at hparts
    rw [hparts.2] at hlast
    exact absurd hlast (by simp)
  have hink : EndsInk file.shownName := by
    intro c hc
    rw [← hparts, List.getLast?_append, hlast, Option.some_or, Option.some.injEq] at hc
    exact hc ▸ hinked
  have hslash : '/' ∉ file.shownName := by
    rw [ListedFile.shownName, Utf8.mem_decodeLossy_iff Utf8.isSingle_slash]
    exact hnames _ _ hheld
  refine ⟨fun hfree before after caret hbefore hafter hbegins hends =>
    parseAt_argumentLine hextensions hword hslash hink hfree hbefore hafter hbegins hends, ?_⟩
  change ∃ found, findListed listings searchDirs directive file.shownName = some found ∧ _
  cases hfile : findListed listings searchDirs directive file.shownName with
  | none =>
    exact absurd (fits_iff.mpr (.inl rfl))
      ((findListed_eq_none_iff hextensions hword).mp hfile _ hfolder _ hheld)
  | some found =>
    obtain ⟨-, -, -, -, -, -, -, hfits, -⟩ :=
      (findListed_eq_some_iff hextensions hword).mp hfile
    exact ⟨found, rfl, hfits, shownName_eq_iff_comesFirst hextensions hword hfile⟩

/-- Folders with scripts that one name stands for, with and without its extension, and one with a
blank in its name. -/
def shadowingFiles : Files where
  entries := [(["d1".toList], .folder), (["d1".toList, "a.cs.cs".toList], .file [] false),
    (["d2".toList], .folder), (["d2".toList, "a.cs".toList], .file [] false),
    (["d2".toList, "größe.cs".toList], .file [] false),
    (["d2".toList, "b c.cs".toList], .file [] false)]
  workingDir := []

lemma noSlashes_shadowingFiles : NoSlashes shadowingFiles.listings := by
  intro folder bytes hfile
  obtain ⟨name, rfl, hheld⟩ := (Files.hasFile_listings_iff (by decide)).mp hfile
  rw [← Utf8.mem_decodeLossy_iff Utf8.isSingle_slash, Utf8.decodeLossy_encode]
  exact hheld.isName.noSlash

lemma mem_fileCompletions_shadowingFiles (stem : Text) (hstem : stem ≠ [])
    (hheld : shadowingFiles.Holds (.ofString "d2") (stem ++ ".cs".toList)) :
    .plain (stem ++ ".cs".toList) .file
        (fileNote ((Path.ofString "d2").child (stem ++ ".cs".toList))) ∈
      fileCompletions shadowingFiles [.ofString "d1", .ofString "d2"] "//css_inc".toList := by
  let file : ListedFile := ⟨.ofString "d2", Utf8.encode (stem ++ ".cs".toList)⟩
  have hshown : file.shownName = stem ++ ".cs".toList := Utf8.decodeLossy_encode _
  have hpointed := (ListedFile.stem_of_shownName hshown hstem (by decide)).2
  refine (mem_listedCompletions_iff rfl).mpr ⟨file, List.mem_cons_of_mem _ List.mem_cons_self,
    (Files.hasFile_listings_iff (by decide)).mpr ⟨_, rfl, hheld⟩, ?_, ?_⟩
  · rw [hpointed]
    decide
  · rw [ListedFile.path, hshown]

theorem offered_files_found_shadowing :
    let searchDirs := [Path.ofString "d1", Path.ofString "d2"]
    let item := Completion.plain "größe.cs".toList .file "File: d2/größe.cs".toList
    NoSlashes shadowingFiles.listings ∧
      extensions? "//css_inc".toList = some [".cs".toList] ∧
      item ∈ fileCompletions shadowingFiles searchDirs "//css_inc".toList ∧
      (∀ c ∈ item.insert, c ∉ WordKind.path.delimiters) ∧
      parseAt "f();\r\n//css_inc größe.cs\ng();".toList 24 =
        some (.argument "//css_inc".toList "größe.cs".toList) ∧
      ∃ file, findListed shadowingFiles.listings searchDirs "//css_inc".toList item.insert =
          some file ∧ file.shownName = item.insert := by
  intro searchDirs item
  have hextensions : extensions? "//css_inc".toList = some [".cs".toList] := rfl
  have hheld : shadowingFiles.Holds (.ofString "d2") "größe.cs".toList := by decide
  have hitem : item ∈ fileCompletions shadowingFiles searchDirs "//css_inc".toList :=
    mem_fileCompletions_shadowingFiles "größe".toList (by decide) hheld
  have hfree : ∀ c ∈ item.insert, c ∉ WordKind.path.delimiters := by
    have hall : item.insert.all (fun c => !WordKind.path.delimiters.contains c) = true := by decide
    exact fun c hc => by simpa using List.all_eq_true.mp hall c hc
  obtain ⟨hread, file, hfile, -, hfirst⟩ :=
    offered_files_found noSlashes_shadowingFiles hextensions hitem
  have hhit := hread hfree "f();\r\n".toList "\ng();".toList 24
    (by rintro c ⟨⟩; exact .inr rfl) (by rintro c ⟨⟩; exact .inr rfl) (by decide) (by decide)
  have hcomesFirst :
      ComesFirst shadowingFiles.listings searchDirs [".cs".toList] item.insert := by
    refine ⟨[.ofString "d1"], .ofString "d2", [], Utf8.encode item.insert, rfl,
      (Files.hasFile_listings_iff (by decide)).mpr ⟨_, rfl, hheld⟩, Utf8.decodeLossy_encode _,
      fun other hother => ?_, Listings.forall_hasFile_iff.mpr (by decide)⟩
    rw [List.mem_singleton.mp hother]
    exact Listings.forall_hasFile_iff.mpr (by decide)
  exact ⟨noSlashes_shadowingFiles, hextensions, hitem, hfree, hhit, file, hfile,
    hfirst.mpr hcomesFirst⟩

/-- A name that is offered is taken for another one without its extension, and one with a blank in
it is not read back whole. -/
theorem offered_names_not_found :
    let searchDirs := [Path.ofString "d1", Path.ofString "d2"]
    (∃ item ∈ fileCompletions shadowingFiles searchDirs "//css_inc".toList,
      item.insert = "a.cs".toList ∧
        (lookupFile shadowingFiles searchDirs "//css_inc".toList item.insert).map Path.fileName =
          some "a.cs.cs".toList) ∧
    ∃ item ∈ fileCompletions shadowingFiles searchDirs "//css_inc".toList,
      item.insert = "b c.cs".toList ∧
        parseAt ("//css_inc".toList ++ ' ' :: item.insert) 10 =
          some (.argument "//css_inc".toList "b".toList) := by
  intro searchDirs
  have hextensions : extensions? "//css_inc".toList = some [".cs".toList] := rfl
  constructor
  · have hfound : findListed shadowingFiles.listings searchDirs "//css_inc".toList "a.cs".toList =
        some ⟨.ofString "d1", Utf8.encode "a.cs.cs".toList⟩ :=
      (findListed_eq_some_iff hextensions (by decide)).mpr ⟨[], _, _, rfl,
        List.forall_mem_nil _, rfl, ⟨_, rfl, by decide⟩, by decide,
        Listings.forall_hasFile_iff.mpr (by decide)⟩
    refine ⟨_, mem_fileCompletions_shadowingFiles "a".toList (by decide) (by decide), rfl, ?_⟩
    change (lookupFile shadowingFiles searchDirs "//css_inc".toList "a.cs".toList).map
      Path.fileName = some "a.cs.cs".toList
    rw [lookupFile, hfound]
    decide
  · exact ⟨_, mem_fileCompletions_shadowingFiles "b c".toList (by decide) (by decide),
      rfl, by decide⟩

end ScriptAssist.Directive
