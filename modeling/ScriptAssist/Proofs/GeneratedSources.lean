import ScriptAssist.Proofs.FileSearch
import ScriptAssist.Proofs.RegionReplies

/-!
# Sources of generated files

A region of a generated file is shown in the source of that file if the notes beside it name a
folder where the source is. Whether a file is generated is told by its name in any case, but the
name of the source is only found if the mark in that name and its extension are in lower case.
-/

namespace ScriptAssist.Generated

open Text

variable {files : Files} {file sources : Path} {region : Region}
  {name stem mark extension original : Text}

/-! ### Names of generated files -/

/-- The name of a generated file: a mark and an extension behind a stem, both in any case. -/
structure IsMarked (name stem mark extension : Text) : Prop where
  parts : name = stem ++ (mark ++ extension)
  mark : toLower mark = ".g".toList
  extension : toLower extension = ".cs".toList ∨ toLower extension = ".csx".toList

/-- The endings of names for which the source is looked up. -/
def lowerEndings : List Text :=
  [".g.cs".toList, ".g.csx".toList]

lemma toLower_append (s t : Text) : toLower (s ++ t) = toLower s ++ toLower t :=
  List.map_append

lemma isGenerated_iff : isGenerated file = true ↔
    ∃ stem mark extension, IsMarked file.fileName stem mark extension := by
  have hends : isGenerated file = true ↔ ".g".toList ++ ".cs".toList <:+ toLower file.fileName ∨
      ".g".toList ++ ".csx".toList <:+ toLower file.fileName := by
    rw [isGenerated, Bool.or_eq_true, endsWith, endsWith, List.isSuffixOf_iff_suffix,
      List.isSuffixOf_iff_suffix]
    rfl
  rw [hends]
  constructor
  · have hmarked : ∀ lower, lower = ".cs".toList ∨ lower = ".csx".toList →
        ".g".toList ++ lower <:+ toLower file.fileName →
        ∃ stem mark extension, IsMarked file.fileName stem mark extension := by
      rintro lower hlower ⟨front, hfront⟩
      obtain ⟨stem, tail, hname, -, htail⟩ := List.map_eq_append_iff.mp hfront.symm
      obtain ⟨mark, extension, rfl, hmark, hextension⟩ := List.map_eq_append_iff.mp htail
      exact ⟨stem, mark, extension, hname, hmark, by rwa [toLower, hextension]⟩
    rintro (hcs | hcsx)
    · exact hmarked _ (.inl rfl) hcs
    · exact hmarked _ (.inr rfl) hcsx
  · rintro ⟨stem, mark, extension, hname, hmark, hextension⟩
    rw [hname, toLower_append, toLower_append, hmark]
    rcases hextension with hextension | hextension
    · exact .inl ⟨toLower stem, by rw [hextension]⟩
    · exact .inr ⟨toLower stem, by rw [hextension]⟩

lemma IsMarked.length_mark (h : IsMarked name stem mark extension) : mark.length = 2 := by
  have hlength := congrArg List.length h.mark
  rwa [toLower, List.length_map] at hlength

/-- A name has one ending. -/
lemma IsMarked.ending_eq {front ending : Text} (h : IsMarked name stem mark extension)
    (hending : ending ∈ lowerEndings) (hname : name = front ++ ending) :
    stem = front ∧ mark ++ extension = ending := by
  have hparts : stem ++ (mark ++ extension) = front ++ ending := h.parts.symm.trans hname
  have hlower := congrArg toLower hparts
  rw [toLower_append, toLower_append, toLower_append, h.mark] at hlower
  have hlength : (toLower extension).length = extension.length := List.length_map _
  refine List.append_inj' hparts ?_
  rw [List.length_append, h.length_mark, ← hlength]
  -- endings of different lengths have different last characters
  have hlast := congrArg List.getLast? hlower
  rw [List.getLast?_append, List.getLast?_append, List.getLast?_append] at hlast
  simp only [lowerEndings, List.mem_cons, List.not_mem_nil, or_false] at hending
  rcases h.extension with hextension | hextension <;> rcases hending with rfl | rfl <;>
    rw [hextension] at hlast ⊢
  · rfl
  · exact absurd hlast (by simp [toLower])
  · exact absurd hlast (by simp [toLower])
  · rfl

/-- The source has the name without the mark, if the ending of the name is in lower case. -/
lemma IsMarked.sourceName?_eq (h : IsMarked name stem mark extension) :
    sourceName? name =
      if mark ++ extension ∈ lowerEndings then some (stem ++ extension) else none := by
  have hextension : ∀ rest, mark ++ extension = ".g".toList ++ rest → extension = rest :=
    fun _ hending => (List.append_inj hending h.length_mark).2
  rw [sourceName?]
  cases hcs : before? ".g.cs".toList name with
  | some front =>
    obtain ⟨rfl, hending⟩ := h.ending_eq (by decide) (before?_eq_some_iff.mp hcs)
    rw [if_pos (by simp [hending, lowerEndings]), hextension ".cs".toList hending]
  | none =>
    cases hcsx : before? ".g.csx".toList name with
    | some front =>
      obtain ⟨rfl, hending⟩ := h.ending_eq (by decide) (before?_eq_some_iff.mp hcsx)
      rw [if_pos (by simp [hending, lowerEndings]), hextension ".csx".toList hending]
      rfl
    | none =>
      refine (if_neg fun hlower => ?_).symm
      simp only [lowerEndings, List.mem_cons, List.not_mem_nil, or_false] at hlower
      rcases hlower with hending | hending
      · rw [before?_eq_some_iff.mpr (hending ▸ h.parts)] at hcs
        exact absurd hcs (by simp)
      · rw [before?_eq_some_iff.mpr (hending ▸ h.parts)] at hcsx
        exact absurd hcsx (by simp)

/-! ### Sources in the folder of the notes -/

/-- The notes beside a file name the folder of the sources on their second line. -/
def NotesName (files : Files) (file sources : Path) : Prop :=
  ∃ folder notes line, file.parent? = some folder ∧
    files.readText? (folder.join notesName) = some notes ∧
    (lines notes)[1]? = some line ∧ trim line ≠ [] ∧ sources = ⟨trim line⟩

/-- A generated file has a source: it stands in the folder that the notes name, under the name
without the mark. -/
structure HasSource (files : Files) (file sources : Path) (stem mark extension : Text) : Prop where
  marked : IsMarked file.fileName stem mark extension
  notes : NotesName files file sources
  isFile : files.isFile (sources.child (stem ++ extension)) = true

/-- The region with its lines moved back, if the generated file is a wrapped script. -/
def movedBack (files : Files) (region : Region) : Region :=
  match files.readSource ⟨region.fileName⟩ with
  | .ok generated => Decoration.undecorate generated region
  | .error _ => region

lemma sourceDir?_eq_some_iff {notes : Text} : sourceDir? notes = some sources ↔
    ∃ line, (lines notes)[1]? = some line ∧ trim line ≠ [] ∧ sources = ⟨trim line⟩ := by
  rw [sourceDir?, Option.map_eq_some_iff]
  simp only [Option.filter_eq_some_iff, Option.map_eq_some_iff]
  constructor
  · rintro ⟨_, ⟨⟨line, hline, rfl⟩, hne⟩, rfl⟩
    exact ⟨line, hline, by simpa using hne, rfl⟩
  · rintro ⟨line, hline, hne, rfl⟩
    exact ⟨_, ⟨⟨line, hline, rfl⟩, by simpa using hne⟩, rfl⟩

lemma sourceOf?_eq_some_iff {source : Path} : sourceOf? files file = some source ↔
    ∃ sources name, NotesName files file sources ∧ sourceName? file.fileName = some name ∧
      source = sources.child name ∧ files.isFile source = true := by
  simp only [sourceOf?, Option.bind_eq_bind, Option.bind_eq_some_iff, sourceDir?_eq_some_iff,
    Option.ite_none_right_eq_some, Option.some.injEq]
  constructor
  · rintro ⟨folder, hfolder, notes, hnotes, sources, ⟨line, hline, hne, hsources⟩, name, hname,
      hfile, rfl⟩
    exact ⟨sources, name, ⟨folder, notes, line, hfolder, hnotes, hline, hne, hsources⟩, hname, rfl,
      hfile⟩
  · rintro ⟨sources, name, ⟨folder, notes, line, hfolder, hnotes, hline, hne, hsources⟩, hname, rfl,
      hfile⟩
    exact ⟨folder, hfolder, notes, hnotes, sources, ⟨line, hline, hne, hsources⟩, name, hname,
      hfile, rfl⟩

/-! ### Regions of generated files -/

lemma redirect_of_sourceOf? {source : Path} (hgenerated : isGenerated ⟨region.fileName⟩ = true)
    (h : sourceOf? files ⟨region.fileName⟩ = some source) :
    redirect files region = { movedBack files region with fileName := source.text } := by
  rw [redirect]
  dsimp only
  rw [if_neg (by simp [hgenerated]), h]
  rfl

/-- A region of a generated file is shown in the source exactly if the mark and the extension of the
file are in lower case. -/
lemma HasSource.redirect_eq (h : HasSource files ⟨region.fileName⟩ sources stem mark extension) :
    redirect files region =
      if mark ++ extension ∈ lowerEndings then
        { movedBack files region with fileName := (sources.child (stem ++ extension)).text }
      else region := by
  have hname := h.marked.sourceName?_eq
  split_ifs with hlower
  · rw [if_pos hlower] at hname
    exact redirect_of_sourceOf? (isGenerated_iff.mpr ⟨stem, mark, extension, h.marked⟩)
      (sourceOf?_eq_some_iff.mpr ⟨sources, _, h.notes, hname, rfl, h.isFile⟩)
  · rw [if_neg hlower] at hname
    refine redirect_of_not_isMadeFrom ?_
    rintro source ⟨-, hsource⟩
    obtain ⟨_, name, -, hsome, -⟩ := sourceOf?_eq_some_iff.mp hsource
    rw [hname] at hsome
    exact absurd hsome (by simp)

lemma redirect_of_not_hasSource
    (h : ∀ sources stem mark extension,
      ¬ HasSource files ⟨region.fileName⟩ sources stem mark extension) :
    redirect files region = region := by
  refine redirect_of_not_isMadeFrom ?_
  rintro source ⟨hgenerated, hsource⟩
  obtain ⟨stem, mark, extension, hmarked⟩ := isGenerated_iff.mp hgenerated
  obtain ⟨sources, name, hnotes, hname, rfl, hfile⟩ := sourceOf?_eq_some_iff.mp hsource
  rw [hmarked.sourceName?_eq, Option.ite_none_right_eq_some, Option.some.injEq] at hname
  exact h sources stem mark extension ⟨hmarked, hnotes, hname.2 ▸ hfile⟩

/-- A source and the file that is generated from it have different names. -/
lemma HasSource.text_ne (h : HasSource files file sources stem mark extension) :
    (sources.child (stem ++ extension)).text ≠ file.text := by
  intro htext
  have hlength : 2 < extension.length := by
    have hlower : (toLower extension).length = extension.length := List.length_map _
    rcases h.marked.extension with hextension | hextension <;> rw [← hlower, hextension] <;> decide
  have hother : ∀ short : Text, short.length ≤ 2 → stem ++ extension ≠ short := by
    rintro _ hshort rfl
    rw [List.length_append] at hshort
    omega
  have hname : Path.IsName (stem ++ extension) := by
    refine ⟨?_, ?_, fun hslash => file.noSlash_fileName ?_⟩
    · rw [Path.isFiller, Bool.or_eq_false_iff, decide_eq_false_iff_not, decide_eq_false_iff_not]
      exact ⟨hother [] (by decide), hother ['.'] (by decide)⟩
    · exact hother ['.', '.'] (by decide)
    · rw [h.marked.parts]
      rcases List.mem_append.mp hslash with hstem | hextension
      · simp [hstem]
      · simp [hextension]
  have hfile := congrArg Path.fileName (show sources.child (stem ++ extension) = file from
    congrArg Path.mk htext)
  have hlengths := congrArg List.length hfile
  rw [sources.fileName_child hname, h.marked.parts, List.length_append, List.length_append,
    List.length_append, h.marked.length_mark] at hlengths
  omega

/-- A generated script that was wrapped into a class, beside notes on where its source is, and the
same under a name in upper case. -/
def generatedFiles : Files where
  entries := [(["cache".toList], .folder), (["src".toList], .folder),
    (["cache".toList, "css_info.txt".toList], .file (Utf8.encode "4.8\nsrc\n".toList) false),
    (["cache".toList, "a.g.csx".toList],
      .file (Utf8.encode ("\x7b ".toList ++ AutoClass.marker ++ "\nf();\n\x7d\n".toList)) false),
    (["src".toList, "a.csx".toList], .file [] false),
    (["cache".toList, "A.G.CSX".toList], .file [] false),
    (["src".toList, "A.CSX".toList], .file [] false)]
  workingDir := []

end ScriptAssist.Generated
