import Mathlib.Data.List.SplitBy
import ScriptAssist.Answer.Outline
import ScriptAssist.Proofs.Numerals
import ScriptAssist.Proofs.TextLines

/-!
# Runs of an outline

The members of a script fall into runs of one title, each as long as possible. The table starts a
new group where the title differs from the one before; the tree looks for the end of each run and
goes on from there. Both come to the same runs, in the same order, and show for each its title once
and every member once.
-/

namespace ScriptAssist

open Text

namespace Outline

variable {items run rest : List Member} {groups : List (List Member)} {title : Text} {width : Nat}

/-! ### Runs -/

/-- Whether these are the runs of one title that members fall into, as long as possible. -/
structure AreRuns (items : List Member) (groups : List (List Member)) : Prop where
  flatten : groups.flatten = items
  ne_nil : ∀ run ∈ groups, run ≠ []
  title_eq : ∀ run ∈ groups, ∀ a ∈ run, ∀ b ∈ run, a.title = b.title
  title_ne : groups.IsChain fun run next => ∀ a ∈ run, ∀ b ∈ next, a.title ≠ b.title

def runs (items : List Member) : List (List Member) :=
  items.splitBy fun a b => a.title = b.title

def runTitle (run : List Member) : Text :=
  (run.head?.map Member.title).getD []

lemma title_eq_of_mem_runs (h : run ∈ runs items) : ∀ a ∈ run, ∀ b ∈ run, a.title = b.title := by
  have hchain : (run.map Member.title).IsChain Eq := by
    rw [List.isChain_map]
    exact (List.isChain_of_mem_splitBy h).imp fun a b hab => by simpa using hab
  have hpairs := List.isChain_iff_pairwise.mp hchain
  intro a ha b hb
  exact hpairs.forall_of_forall (fun _ _ => rfl) (List.mem_map_of_mem ha) (List.mem_map_of_mem hb)

theorem areRuns_runs (items : List Member) : AreRuns items (runs items) where
  flatten := List.flatten_splitBy _ items
  ne_nil _ h := List.ne_nil_of_mem_splitBy h
  title_eq _ h := title_eq_of_mem_runs h
  title_ne := by
    apply (List.isChain_getLast_head_splitBy _ items).imp_of_mem_imp
    rintro run next hrun hnext ⟨hrunNe, hnextNe, hdiffer⟩ a ha b hb hab
    rw [decide_eq_false_iff_not] at hdiffer
    apply hdiffer
    rw [title_eq_of_mem_runs hrun _ (List.getLast_mem hrunNe) a ha, hab,
      title_eq_of_mem_runs hnext b hb _ (List.head_mem hnextNe)]

lemma AreRuns.tail (h : AreRuns items (run :: groups)) : AreRuns groups.flatten groups where
  flatten := rfl
  ne_nil other hother := h.ne_nil other (List.mem_cons_of_mem run hother)
  title_eq other hother := h.title_eq other (List.mem_cons_of_mem run hother)
  title_ne := h.title_ne.of_cons

lemma AreRuns.title_eq_runTitle (h : AreRuns items groups) (hrun : run ∈ groups) :
    ∀ item ∈ run, item.title = runTitle run := by
  obtain ⟨first, rest, rfl⟩ := List.exists_cons_of_ne_nil (h.ne_nil run hrun)
  exact fun item hitem => h.title_eq _ hrun item hitem first List.mem_cons_self

/-- The run behind another one starts with another title. -/
lemma AreRuns.title_head_ne (h : AreRuns items (run :: groups)) :
    ∀ item, groups.flatten.head? = some item → item.title ≠ runTitle run := by
  intro item hitem
  cases groups with
  | nil => exact absurd hitem (by simp)
  | cons next groups =>
    obtain ⟨first, rest, rfl⟩ := List.exists_cons_of_ne_nil (h.ne_nil next (by simp))
    obtain ⟨head, tail, rfl⟩ := List.exists_cons_of_ne_nil (h.ne_nil run (by simp))
    rw [List.flatten_cons, List.cons_append, List.head?_cons, Option.some.injEq] at hitem
    subst hitem
    have hdiffer := (List.isChain_cons_cons.mp h.title_ne).1
    exact (hdiffer head List.mem_cons_self first List.mem_cons_self).symm

/-! ### The table -/

def tableGroup (width : Nat) (run : List Member) : List Text :=
  [] :: runTitle run :: run.map (tableRow width)

lemma tableRows_append (h : ∀ item ∈ run, item.title = title) :
    tableRows width (some title) (run ++ rest) =
      run.map (tableRow width) ++ tableRows width (some title) rest := by
  induction run with
  | nil => rfl
  | cons item run ih =>
    have hitem := h item List.mem_cons_self
    have hrest := ih fun other hother => h other (List.mem_cons_of_mem item hother)
    rw [List.cons_append, tableRows, hitem, if_pos rfl, hrest]
    rfl

lemma tableRows_eq_groups (h : AreRuns items groups) {previous : Option Text}
    (hprevious : ∀ item, items.head? = some item → previous ≠ some item.title) :
    tableRows width previous items = groups.flatMap (tableGroup width) := by
  induction groups generalizing items previous with
  | nil =>
    rw [← h.flatten]
    rfl
  | cons run groups ih =>
    have htitles := h.title_eq_runTitle List.mem_cons_self
    have hbehind := h.title_head_ne
    have hrest : tableRows width (some (runTitle run)) groups.flatten =
        groups.flatMap (tableGroup width) :=
      ih h.tail fun item hitem heq => hbehind item hitem (Option.some.inj heq).symm
    have hitems := h.flatten
    obtain ⟨first, run, rfl⟩ := List.exists_cons_of_ne_nil (h.ne_nil _ List.mem_cons_self)
    rw [List.flatten_cons, List.cons_append] at hitems
    have hfirst := htitles first List.mem_cons_self
    have hmore := fun item hitem => htitles item (List.mem_cons_of_mem first hitem)
    rw [← hitems] at hprevious ⊢
    rw [tableRows, if_neg (hprevious first rfl), hfirst, tableRows_append hmore, hrest]
    simp [tableGroup]

/-! ### The tree -/

lemma runEnd_append {front : List Member} (htitles : ∀ item ∈ run, item.title = title)
    (hbehind : ∀ item, rest.head? = some item → item.title ≠ title) :
    runEnd (front ++ (run ++ rest)) front.length title = front.length + run.length := by
  have hrun : run.findIdx? (fun item => item.title ≠ title) = none := by
    rw [List.findIdx?_eq_none_iff]
    intro item hitem
    simp [htitles item hitem]
  rw [runEnd, List.drop_left, List.findIdx?_append, hrun, Option.none_or]
  cases rest with
  | nil => simp
  | cons next rest =>
    rw [List.findIdx?_cons, if_pos (by simpa using hbehind next rfl)]
    simp

lemma runEnd_le_length (items : List Member) (start : Nat) (title : Text) :
    runEnd items start title ≤ items.length := by
  unfold runEnd
  split
  · next offset hfound =>
    obtain ⟨hoffset, -⟩ := List.findIdx?_eq_some_iff_getElem.mp hfound
    rw [List.length_drop] at hoffset
    omega
  · exact Nat.le_refl _

lemma treeRowsFrom_eq_groups (front : List Member) (h : AreRuns items groups) :
    treeRowsFrom (front ++ items) front.length =
      groups.flatMap fun run => treeRows (runTitle run) run := by
  induction groups generalizing front items with
  | nil =>
    rw [← h.flatten, treeRowsFrom]
    simp
  | cons run groups ih =>
    have htitles := h.title_eq_runTitle List.mem_cons_self
    have hbehind := h.title_head_ne
    have hitems := h.flatten
    rw [List.flatten_cons] at hitems
    obtain ⟨first, more, hrun⟩ := List.exists_cons_of_ne_nil (h.ne_nil _ List.mem_cons_self)
    have hinside : front.length < (front ++ (run ++ groups.flatten)).length := by
      simp [hrun]
    have hfirst : (front ++ (run ++ groups.flatten))[front.length].title = runTitle run := by
      rw [List.getElem_append_right (Nat.le_refl _)]
      simp [hrun, runTitle]
    have hrest := ih (front ++ run) h.tail
    rw [List.append_assoc, List.length_append] at hrest
    have hslice : ((front ++ (run ++ groups.flatten)).take (front.length + run.length)).drop
        front.length = run := by
      rw [List.take_append, List.drop_append]
      simp
    rw [← hitems, treeRowsFrom, dif_pos hinside]
    dsimp only
    rw [hfirst, runEnd_append htitles hbehind, hslice, hrest, List.flatMap_cons]

lemma firstLine_spec (hne : run ≠ []) :
    (∃ item ∈ run, item.line = firstLine run) ∧ ∀ item ∈ run, firstLine run ≤ item.line := by
  obtain ⟨least, hleast⟩ : ∃ least, (run.map Member.line).min? = some least := by
    rw [← Option.isSome_iff_exists, Option.isSome_iff_ne_none, Ne, List.min?_eq_none_iff]
    simpa using hne
  rw [firstLine, hleast]
  simpa [List.min?_eq_some_iff] using hleast

/-! ### Rows as lines of a text -/

/-- Whether the texts of a member stay on one line. -/
structure IsOneLine (item : Member) : Prop where
  parentType : '\n' ∉ item.parentType
  parentName : '\n' ∉ item.parentName
  name : '\n' ∉ item.name
  kind : '\n' ∉ item.kind

instance (item : Member) : Decidable (IsOneLine item) :=
  decidable_of_iff ('\n' ∉ item.parentType ∧ '\n' ∉ item.parentName ∧ '\n' ∉ item.name ∧
      '\n' ∉ item.kind)
    ⟨fun ⟨htype, hparent, hname, hkind⟩ => ⟨htype, hparent, hname, hkind⟩,
      fun h => ⟨h.parentType, h.parentName, h.name, h.kind⟩⟩

lemma lineFeed_notMem_title {item : Member} (h : IsOneLine item) : '\n' ∉ item.title := by
  intro hmem
  have hparts := trim_subset _ hmem
  simp [h.parentType, h.parentName] at hparts

lemma isBlank_of_head?_title {item : Member} {c : Char} (h : item.title.head? = some c) :
    isBlank c = false :=
  isBlank_of_head?_trim h

lemma lineFeed_notMem_tableRow {item : Member} (h : IsOneLine item) (width : Nat) :
    '\n' ∉ tableRow width item := by
  simp [tableRow, fill, indent, h.name, lineFeed_notMem_ofInt]

lemma lineFeed_notMem_treeRow {item : Member} (h : IsOneLine item) : '\n' ∉ treeRow item := by
  simp [treeRow, indent, h.kind, h.name, lineFeed_notMem_ofInt]

lemma getLast?_tableRows (width : Nat) (previous : Option Text) (hne : items ≠ []) :
    (tableRows width previous items).getLast? = items.getLast?.map (tableRow width) := by
  induction items generalizing previous with
  | nil => exact absurd rfl hne
  | cons item items ih =>
    rw [tableRows, List.getLast?_append_cons]
    by_cases hitems : items = []
    · rw [hitems]
      rfl
    · have hlast := List.getLast?_eq_some_getLast hitems
      rw [List.getLast?_cons, ih _ hitems, List.getLast?_cons, hlast]
      rfl

lemma exists_getLast?_tableRow (width : Nat) (item : Member) :
    ∃ c, (tableRow width item).getLast? = some c ∧ c.isDigit = true := by
  obtain ⟨c, hc, hdigit⟩ := exists_getLast?_ofInt item.line.toInt
  refine ⟨c, ?_, hdigit⟩
  rw [tableRow, List.getLast?_append, hc]
  rfl

lemma exists_title_eq_runTitle (h : AreRuns items groups) (hrun : run ∈ groups) :
    ∃ item ∈ items, item.title = runTitle run := by
  obtain ⟨first, rest, rfl⟩ := List.exists_cons_of_ne_nil (h.ne_nil run hrun)
  refine ⟨first, ?_, rfl⟩
  rw [← h.flatten]
  exact List.mem_flatten.mpr ⟨_, hrun, List.mem_cons_self⟩

lemma mem_of_mem_run (h : AreRuns items groups) (hrun : run ∈ groups) {item : Member}
    (hitem : item ∈ run) : item ∈ items := by
  rw [← h.flatten]
  exact List.mem_flatten.mpr ⟨run, hrun, hitem⟩

lemma lineFeed_notMem_runTitle (h : AreRuns items groups)
    (hlines : ∀ item ∈ items, IsOneLine item) (hrun : run ∈ groups) : '\n' ∉ runTitle run := by
  obtain ⟨item, hitem, htitle⟩ := exists_title_eq_runTitle h hrun
  rw [← htitle]
  exact lineFeed_notMem_title (hlines item hitem)

lemma lineFeed_notMem_tableRows (hlines : ∀ item ∈ items, IsOneLine item) (width : Nat)
    (previous : Option Text) : ∀ row ∈ tableRows width previous items, '\n' ∉ row := by
  induction items generalizing previous with
  | nil => exact fun row hrow => absurd hrow List.not_mem_nil
  | cons item items ih =>
    have hitem := hlines item List.mem_cons_self
    intro row hrow
    rw [tableRows, List.mem_append, List.mem_cons] at hrow
    rcases hrow with hheading | rfl | hrest
    · split_ifs at hheading
      · exact absurd hheading List.not_mem_nil
      · rcases List.mem_pair.mp hheading with rfl | rfl
        · exact List.not_mem_nil
        · exact lineFeed_notMem_title hitem
    · exact lineFeed_notMem_tableRow hitem width
    · exact ih (fun other hother => hlines other (List.mem_cons_of_mem item hother)) _ row hrest

lemma endsInk_joinLines_tableRows (width : Nat) (previous : Option Text) (hne : items ≠ []) :
    EndsInk (joinLines (tableRows width previous items)) := by
  have hlast := getLast?_tableRows width previous hne
  obtain ⟨digit, hdigit, hisDigit⟩ := exists_getLast?_tableRow width (items.getLast hne)
  rw [List.getLast?_eq_some_getLast hne, Option.map_some] at hlast
  intro c hc
  rw [getLast?_joinLines_of_getLast? hlast hdigit, Option.some.injEq] at hc
  rw [← hc]
  exact isBlank_of_isDigit hisDigit

/-- The table starts with the first title, or behind it if that is empty. -/
lemma table_cons (item : Member) (items : List Member) :
    table (item :: items) = trimStart (joinLines (item.title ::
      tableRow (tableWidth (item :: items)) item ::
        tableRows (tableWidth (item :: items)) (some item.title) items)) := by
  rw [table, trim_eq_trimStart (endsInk_joinLines_tableRows _ none (List.cons_ne_nil item items))]
  generalize tableWidth (item :: items) = width
  have hrows : tableRows width none (item :: items) =
      [] :: item.title :: tableRow width item :: tableRows width (some item.title) items := rfl
  rw [hrows, joinLines_cons [] (List.cons_ne_nil _ _), List.nil_append, trimStart,
    List.dropWhile_cons_of_pos (by decide), trimStart]

/-- Below a title the table is its rows, without the blank row in front. -/
lemma cons_splitOn_table (hne : items ≠ []) (hlines : ∀ item ∈ items, IsOneLine item)
    (htitle : ∀ item, items.head? = some item → item.title ≠ []) :
    [] :: (table items).splitOn '\n' = tableRows (tableWidth items) none items := by
  obtain ⟨item, more, rfl⟩ := List.exists_cons_of_ne_nil hne
  obtain ⟨first, rest, htext⟩ := List.exists_cons_of_ne_nil (htitle item rfl)
  have hfeeds := lineFeed_notMem_tableRows hlines (tableWidth (item :: more)) none
  have hfirst : item.title.head? = some first := by
    rw [htext]
    rfl
  rw [table_cons]
  generalize tableWidth (item :: more) = width at hfeeds ⊢
  have hstart : StartsInk (joinLines (item.title :: tableRow width item ::
      tableRows width (some item.title) more)) := by
    intro c hc
    rw [head?_joinLines_of_head? rfl hfirst, Option.some.injEq] at hc
    rw [← hc]
    exact isBlank_of_head?_title hfirst
  rw [trimStart_eq_self hstart, splitOn_joinLines _ (List.cons_ne_nil _ _)]
  · rfl
  · exact fun row hrow => hfeeds row (List.mem_cons_of_mem [] hrow)

/-- The table is the rows of its runs, without the blank row in front of the first one. -/
lemma splitOn_table (h : AreRuns items groups) (hne : items ≠ [])
    (hlines : ∀ item ∈ items, IsOneLine item) (htitles : ∀ item ∈ items, item.title ≠ []) :
    [] :: (table items).splitOn '\n' = groups.flatMap (tableGroup (tableWidth items)) := by
  have hrows : tableRows (tableWidth items) none items =
      groups.flatMap (tableGroup (tableWidth items)) := tableRows_eq_groups h (by simp)
  rw [← hrows]
  exact cons_splitOn_table hne hlines fun item hitem => htitles item (List.mem_of_head? hitem)

lemma lineFeed_notMem_treeRows (h : AreRuns items groups)
    (hlines : ∀ item ∈ items, IsOneLine item) (hrun : run ∈ groups) :
    ∀ row ∈ treeRows (runTitle run) run, '\n' ∉ row := by
  have hheading := lineFeed_notMem_runTitle h hlines hrun
  simp only [treeRows, List.mem_cons, List.mem_map]
  rintro row (rfl | ⟨other, hother, rfl⟩)
  · simp [hheading, lineFeed_notMem_ofInt]
  · exact lineFeed_notMem_treeRow (hlines other (mem_of_mem_run h hrun hother))

lemma splitOn_tree (h : AreRuns items groups) (hne : items ≠ [])
    (hlines : ∀ item ∈ items, IsOneLine item) :
    (tree items).splitOn '\n' = groups.flatMap fun run => treeRows (runTitle run) run := by
  have hrows : treeRowsFrom items 0 = groups.flatMap fun run => treeRows (runTitle run) run :=
    treeRowsFrom_eq_groups [] h
  rw [tree, hrows, splitOn_joinLines]
  · intro row hrow
    obtain ⟨run, hrun, hmem⟩ := List.mem_flatMap.mp hrow
    exact lineFeed_notMem_treeRows h hlines hrun row hmem
  · have hflat := h.flatten
    rintro hnil
    cases groups with
    | nil => exact hne hflat.symm
    | cons run groups => simp [treeRows] at hnil

/-! ### Rows of members -/

lemma startsWith_indent_eq_false {s : Text} (h : ∀ c, s.head? = some c → isBlank c = false) :
    startsWith indent s = false := by
  cases s with
  | nil => rfl
  | cons c s =>
    have hc : ' ' ≠ c := by
      rintro rfl
      exact absurd (h ' ' rfl) (by decide)
    rw [startsWith, indent, List.isPrefixOf_cons_cons, beq_eq_false_iff_ne.mpr hc, Bool.false_and]

lemma startsWith_indent_append (s : Text) : startsWith indent (indent ++ s) = true :=
  List.isPrefixOf_iff_prefix.mpr (List.prefix_append indent s)

lemma startsWith_tableRow (width : Nat) (item : Member) :
    startsWith indent (tableRow width item) = true := by
  simp only [tableRow, fill, List.append_assoc]
  exact startsWith_indent_append _

lemma startsWith_treeRow (item : Member) : startsWith indent (treeRow item) = true := by
  simp only [treeRow, List.append_assoc]
  exact startsWith_indent_append _

/-- Only members have rows that are indented. -/
lemma filter_indented (heading : List Member → List Text) (row : Member → Text)
    (hheading : ∀ run ∈ groups, ∀ s ∈ heading run, startsWith indent s = false)
    (hrow : ∀ item, startsWith indent (row item) = true) :
    (groups.flatMap fun run => heading run ++ run.map row).filter (startsWith indent) =
      groups.flatten.map row := by
  induction groups with
  | nil => rfl
  | cons run groups ih =>
    have hrest := ih fun other hother => hheading other (List.mem_cons_of_mem run hother)
    have hnone : (heading run).filter (startsWith indent) = [] := by
      rw [List.filter_eq_nil_iff]
      intro s hs
      simp [hheading run List.mem_cons_self s hs]
    have hall : (run.map row).filter (startsWith indent) = run.map row := by
      rw [List.filter_eq_self]
      intro s hs
      obtain ⟨item, -, rfl⟩ := List.mem_map.mp hs
      exact hrow item
    rw [List.flatMap_cons, List.filter_append, List.filter_append, hnone, hall, hrest,
      List.nil_append, List.flatten_cons, List.map_append]

/-- The title of a run is not indented, also with something behind it that is not blank. -/
lemma startsWith_indent_runTitle (h : AreRuns items groups) (hrun : run ∈ groups) {s : Text}
    (hs : ∀ c, s.head? = some c → isBlank c = false) :
    startsWith indent (runTitle run ++ s) = false := by
  obtain ⟨item, -, htitle⟩ := exists_title_eq_runTitle h hrun
  apply startsWith_indent_eq_false
  intro c hc
  rw [← htitle] at hc
  cases hfirst : item.title.head? with
  | none =>
    rw [List.head?_append, hfirst, Option.none_or] at hc
    exact hs c hc
  | some first =>
    rw [List.head?_append, hfirst, Option.some_or, Option.some.injEq] at hc
    rw [← hc]
    exact isBlank_of_head?_title hfirst

lemma filter_tableGroups (h : AreRuns items groups) (width : Nat) :
    (groups.flatMap (tableGroup width)).filter (startsWith indent) =
      items.map (tableRow width) := by
  conv_rhs => rw [← h.flatten]
  apply filter_indented (fun run => [[], runTitle run]) (tableRow width)
  · intro run hrun s hs
    rcases List.mem_pair.mp hs with rfl | rfl
    · rfl
    · rw [← List.append_nil (runTitle run)]
      exact startsWith_indent_runTitle h hrun (by simp)
  · exact startsWith_tableRow width

lemma filter_treeGroups (h : AreRuns items groups) :
    (groups.flatMap fun run => treeRows (runTitle run) run).filter (startsWith indent) =
      items.map treeRow := by
  conv_rhs => rw [← h.flatten]
  apply filter_indented (fun run => [runTitle run ++ '|' :: ofInt (firstLine run).toInt]) treeRow
  · intro run hrun s hs
    rw [List.mem_singleton.mp hs]
    apply startsWith_indent_runTitle h hrun
    rintro c ⟨⟩
    rfl
  · exact startsWith_treeRow

/-- The table and the tree show the same runs of members, in the same order: for each its title,
once, and then a row for every member of it. The title in the tree has the least line of its run.
Only the rows of members are indented, so each member has one row in the table and one in the tree.
The tree goes on from the end of each run, which lies behind its start. -/
theorem table_and_tree_show_runs (hne : items ≠ []) (hlines : ∀ item ∈ items, IsOneLine item)
    (htitles : ∀ item ∈ items, item.title ≠ []) :
    AreRuns items (runs items) ∧
      [] :: (table items).splitOn '\n' =
        ((runs items).flatMap fun run =>
          [] :: runTitle run :: run.map (tableRow (tableWidth items))) ∧
      ((tree items).splitOn '\n' =
        (runs items).flatMap fun run =>
          (runTitle run ++ '|' :: ofInt (firstLine run).toInt) :: run.map treeRow) ∧
      (∀ run ∈ runs items, (∃ item ∈ run, item.line = firstLine run) ∧
        ∀ item ∈ run, firstLine run ≤ item.line) ∧
      ((table items).splitOn '\n').filter (startsWith indent) =
        items.map (tableRow (tableWidth items)) ∧
      ((tree items).splitOn '\n').filter (startsWith indent) = items.map treeRow ∧
      ∀ (start : Nat) (hstart : start < items.length),
        start < runEnd items start items[start].title ∧
          runEnd items start items[start].title ≤ items.length := by
  have hruns := areRuns_runs items
  have htable := splitOn_table hruns hne hlines htitles
  have htree := splitOn_tree hruns hne hlines
  refine ⟨hruns, htable, htree, fun run hrun => firstLine_spec (hruns.ne_nil run hrun), ?_, ?_,
    fun start hstart => ⟨lt_runEnd hstart, runEnd_le_length items start _⟩⟩
  · rw [← filter_tableGroups hruns, ← htable]
    rfl
  · rw [htree, filter_treeGroups hruns]

/-- Members of three runs, two of which have the same title. -/
def scatteredMembers : List Member :=
  [⟨"class".toList, "A".toList, "g(é)".toList, "method".toList, 9⟩,
    ⟨"class".toList, "A".toList, "x".toList, "field".toList, 5⟩,
    ⟨[], "<Global>".toList, "f()".toList, "method".toList, 14⟩,
    ⟨"class".toList, "A".toList, "h()".toList, "method".toList, -1⟩]

theorem table_and_tree_show_runs_scattered :
    scatteredMembers ≠ [] ∧ (∀ item ∈ scatteredMembers, IsOneLine item) ∧
      (∀ item ∈ scatteredMembers, item.title ≠ []) ∧
      (table scatteredMembers).splitOn '\n' =
        ["class A", "    g(é)  :9", "    x     :5", "", "<Global>", "    f()   :14", "", "class A",
          "    h()   :-1"].map String.toList ∧
      (tree scatteredMembers).splitOn '\n' =
        ["class A|5", "    method|g(é)|9", "    field|x|5", "<Global>|14", "    method|f()|14",
          "class A|-1", "    method|h()|-1"].map String.toList := by
  have hne : scatteredMembers ≠ [] := List.cons_ne_nil _ _
  have hlines : ∀ item ∈ scatteredMembers, IsOneLine item := by decide
  have htitles : ∀ item ∈ scatteredMembers, item.title ≠ [] := by decide
  obtain ⟨-, htable, htree, -⟩ := table_and_tree_show_runs hne hlines htitles
  have hrows : ((runs scatteredMembers).flatMap fun run =>
      [] :: runTitle run :: run.map (tableRow (tableWidth scatteredMembers))) =
        [] :: ["class A", "    g(é)  :9", "    x     :5", "", "<Global>", "    f()   :14", "",
          "class A", "    h()   :-1"].map String.toList := by decide
  rw [hrows, List.cons.injEq] at htable
  exact ⟨hne, hlines, htitles, htable.2, htree.trans (by decide)⟩

end Outline

end ScriptAssist
