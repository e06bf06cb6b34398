import Mathlib.Data.List.Sigma
import Mathlib.Data.List.Sort
import ScriptAssist.Proofs.OutlineRuns
import ScriptAssist.Proofs.TextOrder

/-!
# Groups of titles

An outline is sorted by the names of the containing types, and then shown in groups of one title,
which is a type's kind and name. A title heads one group exactly if no member with another title is
sorted between two of its own. Names alone do not see to that: a class and a structure of one name
are sorted as if they were one type, and their members stay mixed as they come.
-/

namespace ScriptAssist

open Text

open scoped List

namespace Outline

variable {items : List Member} {groups : List (List Member)} {run : List Member}
  {x y z : Member × Nat} {a b c : Member}

/-! ### Titles that head one group -/

/-- Whether each title heads one run of the members, which holds all members with that title. -/
def ListsTitlesOnce (items : List Member) : Prop :=
  ∀ item ∈ items, (runs items).filter (fun run => runTitle run = item.title) =
    [items.filter fun other => other.title = item.title]

lemma filter_title_eq_nil {title : Text} (h : ∀ item ∈ items, item.title ≠ title) :
    items.filter (fun other => other.title = title) = [] := by
  rw [List.filter_eq_nil_iff]
  intro item hitem
  rw [decide_eq_true_eq]
  exact h item hitem

lemma AreRuns.filter_eq_nil (h : AreRuns items groups) {title : Text}
    (hnone : ∀ item ∈ items, item.title ≠ title) :
    groups.filter (fun run => runTitle run = title) = [] := by
  rw [List.filter_eq_nil_iff]
  intro run hrun
  obtain ⟨item, hitem, htitle⟩ := exists_title_eq_runTitle h hrun
  rw [decide_eq_true_eq, ← htitle]
  exact hnone item hitem

/-- What a title has to keep together: nothing of another title between two of its members. -/
def KeepsTitles (items : List Member) : Prop :=
  ∀ a b c, [a, b, c] <+ items → a.title = c.title → b.title = a.title

/-- The title of the first run does not come back. -/
lemma AreRuns.title_ne_of_keepsTitles (h : AreRuns items (run :: groups))
    (hkeeps : KeepsTitles items) : ∀ item ∈ groups.flatten, item.title ≠ runTitle run := by
  intro item hitem heq
  have hitems := h.flatten
  rw [List.flatten_cons] at hitems
  obtain ⟨next, behind, hflat⟩ := List.exists_cons_of_ne_nil (List.ne_nil_of_mem hitem)
  have hnext := h.title_head_ne next (by rw [hflat]; rfl)
  have htitles := h.title_eq_runTitle List.mem_cons_self
  obtain ⟨first, rest, rfl⟩ := List.exists_cons_of_ne_nil (h.ne_nil _ List.mem_cons_self)
  have hbehind : item ∈ behind := by
    rw [hflat] at hitem
    rcases List.mem_cons.mp hitem with rfl | hmem
    · exact absurd heq hnext
    · exact hmem
  have hsub : [first, next, item] <+ items := by
    rw [← hitems, hflat, List.cons_append]
    apply List.Sublist.cons_cons
    apply List.Sublist.trans _ (List.sublist_append_right rest (next :: behind))
    exact (List.singleton_sublist.mpr hbehind).cons_cons next
  have hfirst := htitles first List.mem_cons_self
  exact hnext ((hkeeps first next item hsub (hfirst.trans heq.symm)).trans hfirst)

lemma AreRuns.filter_of_keepsTitles (h : AreRuns items groups) (hkeeps : KeepsTitles items) :
    ∀ item ∈ items, groups.filter (fun run => runTitle run = item.title) =
      [items.filter fun other => other.title = item.title] := by
  induction groups generalizing items with
  | nil =>
    intro item hitem
    rw [← h.flatten] at hitem
    exact absurd hitem List.not_mem_nil
  | cons run groups ih =>
    have hback := h.title_ne_of_keepsTitles hkeeps
    have htitles := h.title_eq_runTitle List.mem_cons_self
    have hitems := h.flatten
    rw [List.flatten_cons] at hitems
    intro item hitem
    rw [← hitems] at hitem ⊢
    rw [List.filter_append, List.filter_cons]
    by_cases htitle : runTitle run = item.title
    · -- the first run is the one with this title
      have hwhole : run.filter (fun other => other.title = item.title) = run := by
        rw [List.filter_eq_self]
        intro other hother
        rw [decide_eq_true_eq, htitles other hother, htitle]
      rw [htitle] at hback
      rw [if_pos (by simpa using htitle), hwhole, filter_title_eq_nil hback, List.append_nil,
        h.tail.filter_eq_nil hback]
    · have hnone : run.filter (fun other => other.title = item.title) = [] :=
        filter_title_eq_nil fun other hother heq => htitle ((htitles other hother).symm.trans heq)
      have hmem : item ∈ groups.flatten := by
        rcases List.mem_append.mp hitem with hrun | hmem
        · exact absurd (htitles item hrun).symm htitle
        · exact hmem
      have hsub : groups.flatten <+ items := by
        rw [← hitems]
        exact List.sublist_append_right run groups.flatten
      rw [if_neg (by simpa using htitle), hnone, List.nil_append]
      exact ih h.tail (fun a b c habc => hkeeps a b c (habc.trans hsub)) item hmem

/-- Where one run has a title, no member in front of it or behind it has that title. -/
lemma AreRuns.exists_single (h : AreRuns items groups) {title : Text}
    (hsingle : groups.filter (fun run => runTitle run = title) = [run]) :
    ∃ before behind, groups = before ++ run :: behind ∧
      (∀ item ∈ before.flatten, item.title ≠ title) ∧
        ∀ item ∈ behind.flatten, item.title ≠ title := by
  have hmem : run ∈ groups.filter fun run => runTitle run = title := by
    rw [hsingle]
    exact List.mem_singleton_self run
  obtain ⟨hrun, htitle⟩ := List.mem_filter.mp hmem
  obtain ⟨before, behind, rfl⟩ := List.append_of_mem hrun
  rw [List.filter_append, List.filter_cons, if_pos htitle] at hsingle
  have hnone := congrArg List.length hsingle
  simp only [List.length_append, List.length_cons, List.length_nil] at hnone
  have hother : ∀ others, others ⊆ before ++ run :: behind →
      (others.filter fun run => runTitle run = title).length = 0 →
        ∀ item ∈ others.flatten, item.title ≠ title := by
    intro others hothers hempty item hitem
    obtain ⟨other, hmem, hitem⟩ := List.mem_flatten.mp hitem
    rw [h.title_eq_runTitle (hothers hmem) item hitem]
    simpa using List.filter_eq_nil_iff.mp (List.length_eq_zero_iff.mp hempty) other hmem
  exact ⟨before, behind, rfl, hother before (List.subset_append_left _ _) (by omega),
    hother behind (by simp) (by omega)⟩

/-- What stands between two others in a list stands in the part that holds both. -/
lemma mem_of_sublist_append {front own back : List Member} (h : [a, b, c] <+ front ++ (own ++ back))
    (ha : a ∉ front) (hc : c ∉ back) : b ∈ own := by
  obtain ⟨first, rest, heq, hfirst, hrest⟩ := List.sublist_append_iff.mp h
  obtain ⟨inside, last, rfl, hinside, hlast⟩ := List.sublist_append_iff.mp hrest
  cases first with
  | cons x first =>
    obtain rfl := (List.cons.inj heq).1
    exact absurd (hfirst.subset List.mem_cons_self) ha
  | nil =>
    rcases List.eq_nil_or_concat last with rfl | ⟨last, x, rfl⟩
    · rw [List.nil_append, List.append_nil] at heq
      rw [← heq] at hinside
      exact hinside.subset (by simp)
    · have hends : c = x := by simpa using congrArg List.getLast? heq
      exact absurd (hlast.subset (by simp [hends])) hc

lemma AreRuns.keepsTitles (h : AreRuns items groups)
    (honce : ∀ item ∈ items, groups.filter (fun run => runTitle run = item.title) =
      [items.filter fun other => other.title = item.title]) : KeepsTitles items := by
  intro a b c habc hac
  have hsingle := honce a (habc.subset List.mem_cons_self)
  obtain ⟨before, behind, hgroups, hfront, hback⟩ := h.exists_single hsingle
  have hflat : items = before.flatten ++
      (items.filter (fun other => other.title = a.title) ++ behind.flatten) := by
    rw [← List.flatten_cons, ← List.flatten_append, ← hgroups, h.flatten]
  rw [hflat] at habc
  -- the outer two are no members of other runs, so all three stand in this one
  have hb := mem_of_sublist_append habc (fun ha => hfront a ha rfl) fun hc => hback c hc hac.symm
  simpa using (List.mem_filter.mp hb).2

lemma listsTitlesOnce_iff : ListsTitlesOnce items ↔ KeepsTitles items :=
  ⟨(areRuns_runs items).keepsTitles, (areRuns_runs items).filter_of_keepsTitles⟩

/-! ### The order of members -/

/-- Whether the one of two members, each with its place in a list, is sorted before the other. -/
def SortsBefore (x y : Member × Nat) : Prop :=
  precedes x.1.parentName y.1.parentName = true ∨
    x.1.parentName = y.1.parentName ∧ x.2 < y.2

lemma SortsBefore.trans (h : SortsBefore x y) (h' : SortsBefore y z) : SortsBefore x z := by
  rcases h with hxy | ⟨hxy, hplace⟩
  · rcases h' with hyz | ⟨hyz, -⟩
    · exact .inl (precedes_trans hxy hyz)
    · exact .inl (hyz ▸ hxy)
  · rcases h' with hyz | ⟨hyz, hplace'⟩
    · exact .inl (hxy ▸ hyz)
    · exact .inr ⟨hxy.trans hyz, hplace.trans hplace'⟩

lemma SortsBefore.asymm (h : SortsBefore x y) : ¬ SortsBefore y x := by
  intro h'
  rcases h.trans h' with hself | ⟨-, hplace⟩
  · rw [precedes_self] at hself
    exact Bool.noConfusion hself
  · exact Nat.lt_irrefl x.2 hplace

instance : Std.Antisymm SortsBefore :=
  ⟨fun _ _ h h' => absurd h' h.asymm⟩

def notAfterByParent (a b : Member) : Bool :=
  notAfter a.parentName b.parentName

/-- The members in the order in which they are sorted, each with its place before. -/
def placed (items : List Member) : List (Member × Nat) :=
  items.zipIdx.mergeSort (List.zipIdxLE notAfterByParent)

lemma map_fst_placed (items : List Member) :
    (placed items).map Prod.fst = sortByParent items :=
  List.mergeSort_zipIdx

lemma sortsBefore_of_zipIdxLE (h : List.zipIdxLE notAfterByParent x y = true) (hne : x.2 ≠ y.2) :
    SortsBefore x y := by
  rw [List.zipIdxLE] at h
  split_ifs at h with hxy hyx
  · simp only [notAfterByParent, notAfter, Bool.not_eq_true'] at hxy hyx
    exact .inr ⟨eq_of_not_precedes hyx hxy, Nat.lt_of_le_of_ne (by simpa using h) hne⟩
  · left
    simpa [notAfterByParent, notAfter] using hyx

lemma pairwise_placed (items : List Member) : (placed items).Pairwise SortsBefore := by
  have hsorted : (placed items).Pairwise fun x y => List.zipIdxLE notAfterByParent x y = true := by
    apply List.pairwise_mergeSort
    · apply List.zipIdxLE_trans
      intro a b c hab hbc
      exact notAfter_iff_le.mpr (le_trans (notAfter_iff_le.mp hab) (notAfter_iff_le.mp hbc))
    · apply List.zipIdxLE_total
      intro a b
      rw [Bool.or_eq_true, notAfterByParent, notAfterByParent, notAfter_iff_le, notAfter_iff_le]
      exact le_total a.parentName b.parentName
  have hplaces : (placed items).Pairwise fun x y => x.2 ≠ y.2 := by
    rw [← List.pairwise_map]
    exact ((List.mergeSort_perm _ _).map Prod.snd).nodup_iff.mpr (List.nodup_zipIdx_map_snd items)
  exact hsorted.imp₂ (fun _ _ => sortsBefore_of_zipIdxLE) hplaces

lemma sublist_placed_iff :
    [x, y, z] <+ placed items ↔ (x ∈ items.zipIdx ∧ y ∈ items.zipIdx ∧ z ∈ items.zipIdx) ∧
      SortsBefore x y ∧ SortsBefore y z := by
  have hmem : ∀ w, w ∈ placed items ↔ w ∈ items.zipIdx := fun w =>
    (List.mergeSort_perm _ _).mem_iff
  constructor
  · intro h
    have hpairs := (pairwise_placed items).sublist h
    simp only [List.pairwise_cons, List.mem_cons, List.not_mem_nil, or_false, forall_eq_or_imp,
      forall_eq] at hpairs
    refine ⟨⟨?_, ?_, ?_⟩, hpairs.1.1, hpairs.2.1⟩
    · exact (hmem x).mp (h.subset (by simp))
    · exact (hmem y).mp (h.subset (by simp))
    · exact (hmem z).mp (h.subset (by simp))
  · rintro ⟨⟨hx, hy, hz⟩, hxy, hyz⟩
    have hpairs : [x, y, z].Pairwise SortsBefore := by
      simp [hxy, hyz, hxy.trans hyz]
    have hnodup : [x, y, z].Nodup := hpairs.imp fun h heq => (heq ▸ h).asymm (heq ▸ h)
    apply List.sublist_of_subperm_of_pairwise _ hpairs (pairwise_placed items)
    apply List.subperm_of_subset hnodup
    simp [hmem, hx, hy, hz]

lemma keepsTitles_sortByParent_iff :
    KeepsTitles (sortByParent items) ↔
      ∀ x ∈ items.zipIdx, ∀ y ∈ items.zipIdx, ∀ z ∈ items.zipIdx,
        SortsBefore x y → SortsBefore y z → x.1.title = z.1.title → y.1.title = x.1.title := by
  rw [← map_fst_placed]
  constructor
  · intro hkeeps x hx y hy z hz hxy hyz hxz
    have hsub := sublist_placed_iff.mpr ⟨⟨hx, hy, hz⟩, hxy, hyz⟩
    exact hkeeps x.1 y.1 z.1 (hsub.map Prod.fst) hxz
  · intro hsorted a b c habc hac
    obtain ⟨triple, hsub, htriple⟩ := List.sublist_map_iff.mp habc
    obtain ⟨x, y, z, rfl⟩ : ∃ x y z, triple = [x, y, z] :=
      List.length_eq_three.mp (by simpa using (congrArg List.length htriple).symm)
    obtain ⟨⟨hx, hy, hz⟩, hxy, hyz⟩ := sublist_placed_iff.mp hsub
    simp only [List.map_cons, List.map_nil, List.cons.injEq, and_true] at htriple
    obtain ⟨rfl, rfl, rfl⟩ := htriple
    exact hsorted x hx y hy z hz hxy hyz hac

/-- The table and the tree of the sorted members show the runs of one title. Each title heads one
of them, with all members that have it, exactly if no member with another title is sorted between
two members of one title: by the names of the types, and within one name by the places they had. -/
theorem titles_listed_once_iff (items : List Member) :
    (table (sortByParent items) = trim (joinLines ((runs (sortByParent items)).flatMap
        (tableGroup (tableWidth (sortByParent items))))) ∧
      tree (sortByParent items) = joinLines ((runs (sortByParent items)).flatMap fun run =>
        treeRows (runTitle run) run)) ∧
      (ListsTitlesOnce (sortByParent items) ↔
        ∀ x ∈ items.zipIdx, ∀ y ∈ items.zipIdx, ∀ z ∈ items.zipIdx,
          SortsBefore x y → SortsBefore y z → x.1.title = z.1.title → y.1.title = x.1.title) := by
  have hruns := areRuns_runs (sortByParent items)
  refine ⟨⟨?_, ?_⟩, listsTitlesOnce_iff.trans keepsTitles_sortByParent_iff⟩
  · rw [table, tableRows_eq_groups hruns (by simp)]
  · exact congrArg joinLines (treeRowsFrom_eq_groups [] hruns)

/-- Members of a class and, between them, one of a structure with the same name. -/
def mixedMembers : List Member :=
  [⟨"class".toList, "A".toList, "f()".toList, "method".toList, 2⟩,
    ⟨"struct".toList, "A".toList, "x".toList, "field".toList, 7⟩,
    ⟨"class".toList, "A".toList, "g()".toList, "method".toList, 12⟩]

/-- A class heads two groups, each with one of its members, where a structure of the same name has a
member between them. -/
theorem class_listed_twice :
    tree (sortByParent mixedMembers) = joinLines (["class A|2", "    method|f()|2", "struct A|7",
        "    field|x|7", "class A|12", "    method|g()|12"].map String.toList) ∧
      table (sortByParent mixedMembers) = joinLines (["class A", "    f()  :2", "", "struct A",
        "    x    :7", "", "class A", "    g()  :12"].map String.toList) ∧
      ¬ ListsTitlesOnce (sortByParent mixedMembers) := by
  have hruns := areRuns_runs mixedMembers
  have hsorted : sortByParent mixedMembers = mixedMembers :=
    List.mergeSort_of_pairwise (by decide)
  rw [hsorted]
  refine ⟨(congrArg joinLines (treeRowsFrom_eq_groups [] hruns)).trans (by decide), by decide, ?_⟩
  unfold ListsTitlesOnce
  decide

end Outline

end ScriptAssist
