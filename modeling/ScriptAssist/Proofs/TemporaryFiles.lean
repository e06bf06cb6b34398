import Mathlib.Data.List.Nodup
import Mathlib.Data.List.Perm.Subperm
import Mathlib.Tactic.Lemma
import Mathlib.Tactic.SplitIfs
import ScriptAssist.Machine.Basic
import ScriptAssist.Proofs.Numerals

/-!
# Temporary files

The path of a temporary file leads nowhere before the file is written, and a file that is written
there and removed again leaves the files as they were.
-/

namespace ScriptAssist

/-! ### Names -/

/-- A segment that leads to the entry of this name. -/
structure Path.IsName (name : Text) : Prop where
  noFiller : isFiller name = false
  noParent : name ≠ ['.', '.']
  noSlash : '/' ∉ name

namespace Path

instance (name : Text) : Decidable (IsName name) :=
  decidable_of_iff (isFiller name = false ∧ name ≠ ['.', '.'] ∧ '/' ∉ name)
    ⟨fun h => ⟨h.1, h.2.1, h.2.2⟩, fun h => ⟨h.noFiller, h.noParent, h.noSlash⟩⟩

lemma IsName.ne_nil {name : Text} (h : IsName name) : name ≠ [] := by
  rintro rfl
  exact absurd h.noFiller (by decide)

lemma not_mem_of_mem_segments {p : Path} {segment : Text} (h : segment ∈ p.segments) :
    '/' ∉ segment := by
  rw [segments] at h
  split_ifs at h
  · exact Text.not_mem_of_mem_splitOn (List.mem_of_mem_drop h)
  · exact Text.not_mem_of_mem_splitOn h

lemma mem_segments_of_named {p : Path} {name : Text} (h : .named name ∈ p.components) :
    name ∈ p.segments := by
  have hbody : .named name ∈ p.segments.filterMap componentOf? := by
    rw [components] at h
    split_ifs at h
    · simpa using h
    · simpa using h
    · exact h
  obtain ⟨segment, hsegment, hcomponent⟩ := List.mem_filterMap.1 hbody
  rw [componentOf?] at hcomponent
  split_ifs at hcomponent
  · simp at hcomponent
  · simp only [Option.some.injEq, Component.named.injEq] at hcomponent
    rwa [← hcomponent]

lemma noSlash_fileName (p : Path) : '/' ∉ p.fileName := by
  rw [fileName, fileName?]
  split
  · next name hlast =>
    exact not_mem_of_mem_segments (mem_segments_of_named (List.mem_of_getLast? hlast))
  · simp

lemma noSlash_pointedExtension (p : Path) : '/' ∉ p.pointedExtension := by
  rw [pointedExtension]
  split
  · next extension hextension =>
    rw [extension?, splitAtPoint?] at hextension
    split_ifs at hextension
    · simp at hextension
    · simp only [Option.map_some, Option.some.injEq] at hextension
      have htail : extension ⊆ p.fileName := by
        rw [← hextension, Text.tailAfter]
        intro c hc
        exact List.mem_reverse.1
          ((List.takeWhile_sublist _).subset (List.mem_reverse.1 hc))
      have hslash : '/' ∉ extension := fun hmem => p.noSlash_fileName (htail hmem)
      simpa using hslash
  · simp

/-- The entries of a folder are reached through the same segments, which are those of the folder
without the empty one behind a slash at its end. -/
lemma exists_segments_child (folder : Path) :
    ∃ before, (folder.segments = before ∨ folder.segments = before ++ [[]]) ∧
      ∀ name, IsName name →
        (folder.child name).isAbsolute = folder.isAbsolute ∧
          (folder.child name).segments = before ++ [name] := by
  have hchild : ∀ name, IsName name →
      (⟨name⟩ : Path).isAbsolute = false := by
    intro name hname
    have hhead : name.head? ≠ some '/' := fun h => hname.noSlash (List.mem_of_head? h)
    simpa [isAbsolute] using hhead
  by_cases hempty : folder.text = []
  · refine ⟨[], .inr (by simp [segments, isAbsolute, hempty]), fun name hname => ?_⟩
    have hpath : folder.child name = ⟨name⟩ := by
      simp [child, join, hchild name hname, hempty]
    rw [hpath, hchild name hname, segments, hchild name hname]
    exact ⟨by simp [isAbsolute, hempty], by simpa using List.splitOn_eq_singleton hname.noSlash⟩
  · -- the folder's text, with or without the slash it may have at its end
    have hfront : ∃ front, (folder.text = front ∨ folder.text = front ++ ['/']) ∧
        ∀ name, IsName name → folder.child name = ⟨front ++ '/' :: name⟩ := by
      by_cases hlast : folder.text.getLast? = some '/'
      · obtain ⟨front, hfront⟩ := List.getLast?_eq_some_iff.1 hlast
        exact ⟨front, .inr hfront, fun name hname => by
          simp [child, join, hchild name hname, hfront]⟩
      · exact ⟨folder.text, .inl rfl, fun name hname => by
          simp [child, join, hchild name hname, hempty, hlast]⟩
    obtain ⟨front, htext, hfront⟩ := hfront
    have habsolute : ∀ name, IsName name →
        (folder.child name).isAbsolute = folder.isAbsolute := by
      intro name hname
      obtain ⟨c, rest, htext⟩ := List.exists_cons_of_ne_nil hempty
      rw [child, join, hchild name hname]
      split_ifs <;> simp_all [isAbsolute]
    have hsplit : ∀ name, IsName name →
        (folder.child name).text.splitOn '/' = front.splitOn '/' ++ [name] := by
      intro name hname
      rw [hfront name hname, List.splitOn_append_cons_self, List.splitOn_eq_singleton hname.noSlash]
    have hlength : 1 ≤ (front.splitOn '/').length :=
      List.length_pos_of_ne_nil (List.splitOn_ne_nil _ _)
    refine ⟨if folder.isAbsolute then (front.splitOn '/').drop 1 else front.splitOn '/', ?_,
      fun name hname => ⟨habsolute name hname, ?_⟩⟩
    · refine htext.imp (fun htext => ?_) fun htext => ?_
      · rw [segments, htext]
      · rw [segments, htext, List.splitOn_append_cons_self, List.splitOn_nil]
        split_ifs
        · exact List.drop_append_of_le_length hlength
        · rfl
    · rw [segments, habsolute name hname, hsplit name hname]
      split_ifs
      · exact List.drop_append_of_le_length hlength
      · rfl

end Path

lemma Text.ofNat_injective : Function.Injective Text.ofNat := by
  intro m n h
  have hdigits := Text.digitsToNat?_ofNat m
  rw [h, Text.digitsToNat?_ofNat] at hdigits
  exact (Option.some.inj hdigits).symm

namespace Machine

lemma temporaryName_eq (number : Nat) (extension : Text) :
    temporaryName number extension = "syntaxer-".toList ++ Text.ofNat number ++ extension := rfl

lemma temporaryName_injective (extension : Text) :
    Function.Injective fun number => temporaryName number extension := by
  intro m n h
  have hnumeral : Text.ofNat m = Text.ofNat n :=
    List.append_cancel_left (List.append_cancel_right h)
  exact Text.ofNat_injective hnumeral

lemma isName_temporaryName (number : Nat) {extension : Text} (h : '/' ∉ extension) :
    Path.IsName (temporaryName number extension) := by
  have hstart : '/' ∉ "syntaxer-".toList := by decide
  have hdigits : '/' ∉ Text.ofNat number := fun hmem =>
    absurd (Text.isDigit_of_mem_ofNat hmem) (by decide)
  have hlength : 9 ≤ (temporaryName number extension).length := by
    have hstart : "syntaxer-".toList.length = 9 := by decide
    rw [temporaryName_eq, List.length_append, List.length_append, hstart]
    omega
  refine ⟨?_, ?_, ?_⟩
  · rw [Path.isFiller, Bool.or_eq_false_iff]
    constructor
    · exact decide_eq_false fun heq => by simp [heq] at hlength
    · exact decide_eq_false fun heq => by simp [heq] at hlength
  · intro heq
    simp [heq] at hlength
  · rw [temporaryName_eq, List.mem_append, List.mem_append]
    exact fun hmem => hmem.elim (fun hmem => hmem.elim hstart hdigits) h

end Machine

/-! ### Places -/

namespace Files

variable {files written : Files} {path : Path} {before : List Text} {name : Text}
  {place : Place} {entry : Entry} {content : Bytes}

lemma follow_append (files : Files) (start : Place) (front back : List Text) :
    files.follow start (front ++ back) =
      match files.follow start front with
      | .ok place => files.follow place back
      | .error cause => .error cause := by
  induction front generalizing start with
  | nil => rfl
  | cons segment front ih =>
    rw [List.cons_append, follow, follow]
    split_ifs
    · exact ih start
    · exact ih start.dropLast
    · rfl
    · exact ih (start ++ [segment])
    · rfl
    · rfl

lemma follow_name (hname : Path.IsName name) (folder : Place) :
    files.follow folder [name] =
      if (files.entryAt? folder).any Entry.isFolder then
        if maxNameSize < Utf8.byteSize name then .error .nameTooLong
        else if (files.entryAt? (folder ++ [name])).isSome then .ok (folder ++ [name])
        else .error .notFound
      else .error .notADirectory := by
  simp [follow, hname.noFiller, hname.noParent]

/-- What leads to an entry of a folder leads to the folder first. -/
lemma mem_of_lookup? (hsegments : path.segments = before ++ [name]) (hname : Path.IsName name)
    (h : (files.lookup? path).isSome) :
    ∃ folder, files.follow (files.startOf path) before = .ok folder ∧
      folder ++ [name] ∈ files.entries.map Prod.fst := by
  rw [lookup?, locate] at h
  cases hcheck : checkPath path with
  | error cause => simp [hcheck, bind, Except.bind] at h
  | ok _ =>
    simp only [hcheck, bind, Except.bind, hsegments, follow_append] at h
    cases hfolder : files.follow (files.startOf path) before with
    | error cause => simp [hfolder] at h
    | ok folder =>
      refine ⟨folder, rfl, ?_⟩
      rw [hfolder] at h
      dsimp only at h
      rw [follow_name hname] at h
      split_ifs at h with hparent hsize hentry
      · simp at h
      · rw [entryAt?, if_neg (by simp)] at hentry
        obtain ⟨item, hitem, hplace⟩ := List.lookup_isSome_iff.1 hentry
        exact List.mem_map.2 ⟨item, hitem, (eq_of_beq hplace).symm⟩
      · simp at h
      · simp at h

/-- What a place for a new entry has to be. -/
lemma placeFor_eq_ok (hsegments : path.segments = before ++ [name]) (hname : Path.IsName name)
    (h : files.placeFor path = .ok place) :
    ∃ folder, checkPath path = .ok () ∧ files.follow (files.startOf path) before = .ok folder ∧
      (files.entryAt? folder).any Entry.isFolder = true ∧ Utf8.byteSize name ≤ maxNameSize ∧
      place = folder ++ [name] := by
  rw [placeFor] at h
  cases hcheck : checkPath path with
  | error cause => simp [hcheck, bind, Except.bind] at h
  | ok _ =>
    simp only [hcheck, bind, Except.bind, hsegments, List.reverse_append, List.reverse_singleton,
      List.singleton_append, List.reverse_reverse] at h
    cases hfolder : files.follow (files.startOf path) before with
    | error cause => simp [hfolder] at h
    | ok folder =>
      have hnamed : ¬(Path.isFiller name = true ∨ name = ['.', '.']) := by
        simp [hname.noFiller, hname.noParent]
      simp only [hfolder, Bool.or_eq_true, decide_eq_true_eq, if_neg hnamed] at h
      split_ifs at h with hparent hsize
      · refine ⟨folder, rfl, rfl, ?_, Nat.le_of_not_lt hsize, (Except.ok.inj h).symm⟩
        simpa using hparent

/-- A path for which there is a place leads to what stands at this place. -/
lemma lookup?_of_placeFor (hsegments : path.segments = before ++ [name])
    (hname : Path.IsName name) (h : files.placeFor path = .ok place) :
    files.lookup? path = files.entryAt? place := by
  obtain ⟨folder, hcheck, hfolder, hparent, hsize, rfl⟩ := placeFor_eq_ok hsegments hname h
  rw [lookup?, locate, hcheck]
  simp only [bind, Except.bind, hsegments, follow_append, hfolder]
  rw [follow_name hname, if_pos hparent, if_neg (Nat.not_lt_of_le hsize)]
  cases hentry : files.entryAt? (folder ++ [name]) with
  | none => rfl
  | some entry => simpa using hentry

/-! ### Writing and removing -/

lemma filter_of_entryAt?_eq_none (h : files.entryAt? place = none) :
    (files.entries.filter fun below => below.1 ≠ place) = files.entries := by
  refine List.filter_eq_self.2 fun below hbelow => ?_
  rw [entryAt?] at h
  split_ifs at h with hroot
  have hne := List.lookup_eq_none_iff.1 h below hbelow
  exact decide_eq_true fun heq => by simp [heq] at hne

lemma entryAt?_putEntry (hfree : files.entryAt? place = none) (other : Place) :
    (files.putEntry place entry).entryAt? other =
      if other = place then some entry else files.entryAt? other := by
  have hroot : place ≠ [] := by
    rintro rfl
    simp [entryAt?] at hfree
  rw [entryAt?, putEntry, filter_of_entryAt?_eq_none hfree, List.lookup_cons]
  by_cases hother : other = place
  · rw [if_neg (hother ▸ hroot), if_pos hother, hother]
    simp
  · rw [if_neg hother, entryAt?, beq_false_of_ne hother]

/-- With a new entry, paths lead where they led before. -/
lemma follow_putEntry (hfree : files.entryAt? place = none) {start target : Place}
    {segments : List Text} (h : files.follow start segments = .ok target) :
    (files.putEntry place entry).follow start segments = .ok target := by
  have hkept : ∀ other found, files.entryAt? other = some found →
      (files.putEntry place entry).entryAt? other = some found := by
    intro other found hfound
    have hne : other ≠ place := by
      rintro rfl
      simp [hfound] at hfree
    rw [entryAt?_putEntry hfree, if_neg hne, hfound]
  induction segments generalizing start with
  | nil => exact h
  | cons segment segments ih =>
    rw [follow] at h ⊢
    split_ifs at h with hfolder hfiller hup hsize hentry
    all_goals
      obtain ⟨found, hfound, hisFolder⟩ := (Option.any_eq_true _ _).1 hfolder
      rw [hkept start found hfound, if_pos (by simpa using hisFolder)]
    · rw [if_pos hfiller]
      exact ih h
    · rw [if_neg hfiller, if_pos hup]
      exact ih h
    · obtain ⟨below, hbelow⟩ := Option.isSome_iff_exists.1 hentry
      rw [if_neg hfiller, if_neg hup, if_neg hsize, hkept _ below hbelow, Option.isSome_some, if_pos rfl]
      exact ih h

/-- Writing where nothing is puts one entry there, to which the path leads from then on. -/
lemma exists_place_of_write (hsegments : path.segments = before ++ [name])
    (hname : Path.IsName name) (hfree : files.lookup? path = none)
    (hwrite : files.write path content = .ok written) :
    ∃ place, files.entryAt? place = none ∧
      written = files.putEntry place (.file content false) ∧ written.locate path = .ok place := by
  rw [write] at hwrite
  cases hplace : files.placeFor path with
  | error cause => simp [hplace, bind, Except.bind] at hwrite
  | ok place =>
    have hnone : files.entryAt? place = none := by
      rw [← lookup?_of_placeFor hsegments hname hplace, hfree]
    simp only [hplace, bind, Except.bind, hnone, Except.ok.injEq] at hwrite
    obtain ⟨folder, hcheck, hfolder, hparent, hsize, rfl⟩ :=
      placeFor_eq_ok hsegments hname hplace
    refine ⟨folder ++ [name], hnone, hwrite.symm, ?_⟩
    have hentry : written.entryAt? (folder ++ [name]) = some (.file content false) := by
      rw [← hwrite, entryAt?_putEntry hnone, if_pos rfl]
    have hparent' : (written.entryAt? folder).any Entry.isFolder = true := by
      rw [← hwrite, entryAt?_putEntry hnone, if_neg (by simp)]
      exact hparent
    have hfolder' : written.follow (written.startOf path) before = .ok folder := by
      rw [← hwrite]
      exact follow_putEntry hnone hfolder
    rw [locate, hcheck]
    simp only [bind, Except.bind, hsegments, follow_append, hfolder']
    rw [follow_name hname, if_pos hparent', if_neg (Nat.not_lt_of_le hsize), hentry,
      Option.isSome_some, if_pos rfl]

/-- A new file that is removed again has changed nothing. -/
lemma remove_of_write (hsegments : path.segments = before ++ [name]) (hname : Path.IsName name)
    (hfree : files.lookup? path = none) (hwrite : files.write path content = .ok written) :
    written.remove path = .ok files := by
  obtain ⟨place, hnone, rfl, hlocate⟩ := exists_place_of_write hsegments hname hfree hwrite
  have hkept := filter_of_entryAt?_eq_none hnone
  rw [remove, hlocate]
  simp only [bind, Except.bind, entryAt?_putEntry hnone, if_true]
  rw [if_neg (by simp [Entry.isFolder]), removeEntry, putEntry, hkept,
    List.filter_cons_of_neg (by simp), hkept]

end Files

/-! ### Free numbers -/

namespace Machine

variable {machine written : Machine} {extension : Text} {content : Bytes}

lemma lookup?_freeNumber {number tries free : Nat} (hfrom : number ≤ free)
    (hto : free ≤ number + tries)
    (hfree : machine.files.lookup? (machine.tempDir.child (temporaryName free extension)) = none) :
    machine.files.lookup? (machine.tempDir.child
      (temporaryName (machine.freeNumber extension number tries) extension)) = none := by
  induction tries generalizing number with
  | zero =>
    obtain rfl : number = free := by omega
    exact hfree
  | succ tries ih =>
    rw [freeNumber]
    split_ifs with htaken
    · have hne : number ≠ free := by
        rintro rfl
        simp [hfree] at htaken
      exact ih (by omega) (by omega)
    · simpa using htaken

/-- Among more numbers than there are entries, one has no temporary file. -/
lemma exists_free (machine : Machine) (h : '/' ∉ extension) :
    ∃ free ≤ machine.files.entries.length,
      machine.files.lookup? (machine.tempDir.child (temporaryName free extension)) = none := by
  by_contra hnone
  push Not at hnone
  obtain ⟨before, -, hbefore⟩ := machine.tempDir.exists_segments_child
  have htaken : ∀ number ≤ machine.files.entries.length, ∃ folder,
      machine.files.follow (machine.files.startOf machine.tempDir) before = .ok folder ∧
        folder ++ [temporaryName number extension] ∈ machine.files.entries.map Prod.fst := by
    intro number hnumber
    obtain ⟨habsolute, hsegments⟩ := hbefore _ (isName_temporaryName number h)
    have hmem := Files.mem_of_lookup? hsegments (isName_temporaryName number h)
      (Option.isSome_iff_ne_none.2 (hnone number hnumber))
    rwa [Files.startOf, habsolute] at hmem
  obtain ⟨folder, hfolder, -⟩ := htaken 0 (Nat.zero_le _)
  let places := (List.range (machine.files.entries.length + 1)).map fun number =>
    folder ++ [temporaryName number extension]
  have hnodup : places.Nodup := by
    refine List.Nodup.map (fun m n heq => ?_) List.nodup_range
    exact temporaryName_injective extension (by simpa using heq)
  have hsubset : places ⊆ machine.files.entries.map Prod.fst := by
    intro place hplace
    obtain ⟨number, hnumber, rfl⟩ := List.mem_map.1 hplace
    obtain ⟨folder', hfolder', hmem⟩ := htaken number (Nat.le_of_lt_succ (List.mem_range.1 hnumber))
    obtain rfl : folder' = folder := Except.ok.inj (hfolder'.symm.trans hfolder)
    exact hmem
  have hlength := (hnodup.subperm hsubset).length_le
  rw [List.length_map, List.length_map, List.length_range] at hlength
  omega

/-- Nothing is at the path of a temporary file before it is written. -/
theorem lookup?_freePath (machine : Machine) (h : '/' ∉ extension) :
    machine.files.lookup? (machine.freePath extension) = none := by
  obtain ⟨free, hle, hfree⟩ := machine.exists_free h
  exact lookup?_freeNumber (Nat.zero_le free) (by omega) hfree

/-- A temporary file that is written and removed leaves the machine as it was, whatever is recorded
in between. -/
theorem remove_freePath (h : '/' ∉ extension)
    (hwrite : machine.write (machine.freePath extension) content = .ok written) (event : Event) :
    (written.log event).remove (machine.freePath extension) = machine.log event := by
  obtain ⟨before, -, hbefore⟩ := machine.tempDir.exists_segments_child
  have hname := isName_temporaryName
    (machine.freeNumber extension 0 machine.files.entries.length) h
  obtain ⟨-, hsegments⟩ := hbefore _ hname
  rw [write] at hwrite
  cases hfiles : machine.files.write (machine.freePath extension) content with
  | error cause => simp [hfiles, Except.map] at hwrite
  | ok files =>
    have hremove := Files.remove_of_write hsegments hname (machine.lookup?_freePath h) hfiles
    simp only [hfiles, Except.map, Except.ok.injEq] at hwrite
    rw [← hwrite, remove, log]
    dsimp only
    rw [show files.remove (machine.freePath extension) = .ok machine.files from hremove]
    rfl

end Machine

end ScriptAssist
