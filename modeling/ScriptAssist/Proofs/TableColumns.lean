import ScriptAssist.Proofs.Encoding
import ScriptAssist.Proofs.OutlineRuns

/-!
# Columns of a table

Names are filled up to the width of a table, which no name exceeds, so the lines of all members
stand in one column. This holds of the table as long as its first row is kept: without a title in
front of it, its indentation is trimmed off with the blank rows.
-/

namespace ScriptAssist

open Text

namespace Outline

variable {item : Member} {items : List Member} {width column : Nat}

/-! ### Widths -/

lemma le_foldl_max (sizes : List Nat) (start : Nat) :
    start ≤ sizes.foldl max start ∧ ∀ size ∈ sizes, size ≤ sizes.foldl max start := by
  induction sizes generalizing start with
  | nil => simp
  | cons size sizes ih =>
    obtain ⟨hstart, hsizes⟩ := ih (max start size)
    rw [List.foldl_cons]
    refine ⟨by omega, fun other hother => ?_⟩
    rcases List.mem_cons.mp hother with rfl | hmem
    · omega
    · exact hsizes other hmem

lemma byteSize_le_tableWidth (h : item ∈ items) :
    Utf8.byteSize (indent ++ item.name) ≤ tableWidth items := by
  have hsize := (le_foldl_max (items.map fun item =>
    max (Utf8.byteSize item.title) (Utf8.byteSize (indent ++ item.name))) 0).2 _
      (List.mem_map_of_mem h)
  exact Nat.le_trans (Nat.le_max_right _ _) hsize

lemma length_fill (width : Nat) (s : Text) : (fill width s).length = max s.length width := by
  rw [fill, List.length_append, List.length_replicate]
  omega

/-! ### Rows -/

/-- The row of a member whose line is marked in this column: the name, indented, stands before the
mark, and nothing behind it. -/
def IsRowAt (column : Nat) (item : Member) (row : Text) : Prop :=
  ∃ front, row = front ++ (" :".toList ++ ofInt item.line.toInt) ∧ front.length = column ∧
    indent ++ item.name <+: front

/-- Among the lines of a text every member has its row, in order, and all are marked in one
column. -/
def IsAligned (items : List Member) (s : Text) : Prop :=
  ∃ column rows, rows.Sublist (s.splitOn '\n') ∧ List.Forall₂ (IsRowAt column) items rows

/-- A name has no more characters than bytes, so filling makes all names equally long. -/
lemma isRowAt_tableRow (h : item ∈ items) :
    IsRowAt (tableWidth items) item (tableRow (tableWidth items) item) := by
  refine ⟨fill (tableWidth items) (indent ++ item.name), ?_, ?_, ?_⟩
  · rw [tableRow, List.append_assoc]
  · have hchars := length_le_byteSize (indent ++ item.name)
    have hbytes := byteSize_le_tableWidth h
    rw [length_fill]
    omega
  · exact List.prefix_append _ _

lemma forall₂_tableRow (items : List Member) :
    List.Forall₂ (IsRowAt (tableWidth items)) items (items.map (tableRow (tableWidth items))) := by
  rw [List.forall₂_map_right_iff, List.forall₂_same]
  exact fun item hitem => isRowAt_tableRow hitem

lemma IsRowAt.startsWith_indent {row : Text} (h : IsRowAt column item row) :
    startsWith indent row = true := by
  obtain ⟨front, rfl, -, more, rfl⟩ := h
  simp only [List.append_assoc]
  exact startsWith_indent_append _

lemma filter_tableRows (width : Nat) (previous : Option Text) (items : List Member) :
    (tableRows width previous items).filter (startsWith indent) = items.map (tableRow width) := by
  induction items generalizing previous with
  | nil => rfl
  | cons item items ih =>
    have hheading : ∀ row ∈ (if previous = some item.title then [] else [[], item.title]),
        startsWith indent row = false := by
      intro row hrow
      split_ifs at hrow
      · exact absurd hrow List.not_mem_nil
      · rcases List.mem_pair.mp hrow with rfl | rfl
        · rfl
        · exact startsWith_indent_eq_false fun c => isBlank_of_head?_title
    rw [tableRows, List.filter_append, List.filter_eq_nil_iff.mpr (by simpa using hheading),
      List.filter_cons_of_pos (startsWith_tableRow width item), ih]
    rfl

/-! ### Trimming -/

lemma isAligned_table (hne : items ≠ []) (hlines : ∀ item ∈ items, IsOneLine item)
    (htitle : ∀ item, items.head? = some item → item.title ≠ []) :
    IsAligned items (table items) := by
  refine ⟨tableWidth items, items.map (tableRow (tableWidth items)), ?_, forall₂_tableRow items⟩
  have hrows : ((table items).splitOn '\n').filter (startsWith indent) =
      items.map (tableRow (tableWidth items)) := by
    rw [← filter_tableRows (tableWidth items) none, ← cons_splitOn_table hne hlines htitle]
    rfl
  rw [← hrows]
  exact List.filter_sublist

/-- Without a title the first row of a table is its first line, and has lost its indentation. -/
lemma splitOn_table_of_untitled (hlines : ∀ other ∈ item :: items, IsOneLine other)
    (htitle : item.title = []) :
    (table (item :: items)).splitOn '\n' =
      trimStart (tableRow (tableWidth (item :: items)) item) ::
        tableRows (tableWidth (item :: items)) (some item.title) items := by
  have hfeeds := lineFeed_notMem_tableRows hlines (tableWidth (item :: items)) (some item.title)
  rw [table_cons]
  generalize tableWidth (item :: items) = width at hfeeds ⊢
  rw [tableRows, if_pos rfl, List.nil_append] at hfeeds
  obtain ⟨front, rest, hrow⟩ : ∃ front rest, tableRow width item = front ++ ':' :: rest :=
    ⟨fill width (indent ++ item.name) ++ [' '], ofInt item.line.toInt, by simp [tableRow]⟩
  have hblank : trimStart (joinLines (item.title :: tableRow width item ::
      tableRows width (some item.title) items)) =
        trimStart (joinLines (tableRow width item :: tableRows width (some item.title) items)) := by
    rw [joinLines_cons _ (List.cons_ne_nil _ _), htitle, List.nil_append, trimStart,
      List.dropWhile_cons_of_pos (by decide), trimStart]
  rw [hblank, hrow, trimStart_joinLines (by decide), ← hrow,
    splitOn_joinLines _ (List.cons_ne_nil _ _)]
  intro line hline
  rcases List.mem_cons.mp hline with rfl | hmem
  · exact fun hfeed => hfeeds _ List.mem_cons_self ((List.dropWhile_sublist _).subset hfeed)
  · exact hfeeds line (List.mem_cons_of_mem _ hmem)

/-- One of the rows is missing among the indented lines. -/
lemma not_isAligned_table (hlines : ∀ other ∈ item :: items, IsOneLine other)
    (htitle : item.title = []) : ¬ IsAligned (item :: items) (table (item :: items)) := by
  rintro ⟨column, rows, hsublist, hrows⟩
  have hindented : rows.filter (startsWith indent) = rows := by
    rw [List.filter_eq_self]
    have hboth := hrows.flip.imp fun row item hrow =>
      And.intro (IsRowAt.startsWith_indent hrow) hrow
    exact ((List.forall₂_and_left rows _).mp hboth).1
  have hfirst : startsWith indent (trimStart (tableRow (tableWidth (item :: items)) item)) =
      false := startsWith_indent_eq_false (startsInk_trimStart _)
  have hfewer := (hsublist.filter (startsWith indent)).length_le
  rw [hindented, splitOn_table_of_untitled hlines htitle,
    List.filter_cons_of_neg (by simp [hfirst]), filter_tableRows, List.length_map,
    ← hrows.length_eq, List.length_cons] at hfewer
  omega

/-- All rows of a table start with the indented names of their members, and mark the lines in one
column, exactly if the first member has a title. -/
theorem isAligned_table_iff (hne : items ≠ []) (hlines : ∀ item ∈ items, IsOneLine item) :
    IsAligned items (table items) ↔ ∀ item, items.head? = some item → item.title ≠ [] := by
  refine ⟨fun haligned item hitem htitle => ?_, isAligned_table hne hlines⟩
  obtain ⟨rest, rfl⟩ := List.head?_eq_some_iff.mp hitem
  exact not_isAligned_table hlines htitle haligned

/-- Members with names and titles of many bytes, the second one without a name and the third one
without a title. -/
def unevenMembers : List Member :=
  [⟨"class".toList, "Größe".toList, "ширина()".toList, "method".toList, 12⟩,
    ⟨"class".toList, "Größe".toList, [], "field".toList, -1⟩,
    ⟨[], " ".toList, "f".toList, "method".toList, 3⟩]

theorem isAligned_table_iff_uneven :
    unevenMembers ≠ [] ∧ (∀ item ∈ unevenMembers, IsOneLine item) ∧
      IsAligned unevenMembers (table unevenMembers) ∧
      (table unevenMembers).splitOn '\n' = ["class Größe", "    ширина()       :12",
        "                   :-1", "", "", "    f              :3"].map String.toList := by
  have hne : unevenMembers ≠ [] := List.cons_ne_nil _ _
  have hlines : ∀ item ∈ unevenMembers, IsOneLine item := by decide
  exact ⟨hne, hlines, (isAligned_table_iff hne hlines).mpr (by decide), by decide⟩

/-- Members that no type contains. -/
def untitledMembers : List Member :=
  [⟨[], [], "f()".toList, "method".toList, 2⟩, ⟨[], [], "g()".toList, "method".toList, 3⟩]

theorem untitled_rows_not_aligned :
    (table untitledMembers).splitOn '\n' = ["f() :2", "    g() :3"].map String.toList ∧
      ¬ IsAligned untitledMembers (table untitledMembers) :=
  ⟨by decide, not_isAligned_table (by decide) (by decide)⟩

end Outline

end ScriptAssist
