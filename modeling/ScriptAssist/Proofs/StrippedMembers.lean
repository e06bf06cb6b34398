import Mathlib.Data.List.Forall2
import ScriptAssist.Proofs.UndecoratedRegions

/-!
# Members of wrapped scripts

The members that the engine finds in a wrapped script, without those of the wrapper. A member goes
if it stands on the line that opens the class, and, where that is wanted and others stand outside
all types, if it belongs to the class. All others stay, in their order, and those on lines of the
script are numbered as there. So the outline agrees with what regions are moved back to.
-/

namespace ScriptAssist.Decoration

open Text AutoClass

variable {s wrapped decorated : Text} {caret moved : UInt64} {injected line : Nat}
  {items : List Member} {stripClass : Bool} {markerLine : Int32} {item : Member}

/-! ### Which members stay -/

/-- Whether one of the members found in a wrapped script belongs to the wrapper, whose marker is on
the given line. -/
def IsOfWrapper (items : List Member) (stripClass : Bool) (markerLine : Int32) (item : Member) :
    Prop :=
  item.line = markerLine ∨
    stripClass = true ∧ (∃ other ∈ items, "<Global".toList <+: other.parentName) ∧
      item.parentName = className

instance : DecidablePred (IsOfWrapper items stripClass markerLine) := fun _ =>
  inferInstanceAs (Decidable (_ ∨ _ ∧ (∃ other ∈ items, _) ∧ _))

lemma isOfWrapper_iff :
    IsOfWrapper items stripClass markerLine item ↔
      item.line = markerLine ∨
        (stripClass && items.any isGlobal) = true ∧ isOfInjectedClass item = true := by
  simp only [IsOfWrapper, Bool.and_eq_true, List.any_eq_true, isGlobal, startsWith,
    List.isPrefixOf_iff_prefix, isOfInjectedClass, decide_eq_true_eq, and_assoc]

lemma ofNat_add_one (n : Nat) : Int32.ofNat n + 1 = Int32.ofNat (n + 1) :=
  (Int32.ofNat_add n 1).symm

lemma stripInjected_eq (h : injectedLine? decorated = some injected) (items : List Member)
    (stripClass : Bool) :
    stripInjected items decorated stripClass =
      (items.filter fun item =>
        ¬ IsOfWrapper items stripClass (Int32.ofNat (injected + 1)) item).map
          (moveBack (Int32.ofNat (injected + 1))) := by
  rw [stripInjected, h]
  dsimp only
  rw [ofNat_add_one]
  congr 1
  split_ifs with hstrip
  · rw [List.filter_filter]
    apply List.filter_congr
    intro item _
    rw [Bool.eq_iff_iff]
    simp [isOfWrapper_iff, hstrip]
  · apply List.filter_congr
    intro item _
    rw [Bool.eq_iff_iff]
    simp [isOfWrapper_iff, hstrip]

/-! ### Where they are -/

lemma moveBack_eq (markerLine : Int32) (item : Member) :
    moveBack markerLine item = { item with line := (moveBack markerLine item).line } := by
  unfold moveBack
  split_ifs <;> rfl

/-- A member on a line of the script is moved back to it. -/
lemma line_moveBack (hinjected : injected + 1 < 0x80000000) (hline : line + 2 < 0x80000000)
    (hitem : item.line = Int32.ofNat (place injected line + 1)) :
    (moveBack (Int32.ofNat (injected + 1)) item).line = Int32.ofNat (line + 1) := by
  have hplace : place injected line ≤ line + 1 := by
    unfold place
    split_ifs <;> omega
  have hbehind : Int32.ofNat (injected + 1) < item.line ↔ injected ≤ line := by
    rw [hitem, Int32.lt_iff_toInt_lt, Int32.toInt_ofNat_of_lt hinjected,
      Int32.toInt_ofNat_of_lt (by omega)]
    unfold place
    split_ifs <;> omega
  unfold moveBack
  split_ifs with hlt
  · have hmoved : place injected line = line + 1 := if_neg (by have := hbehind.mp hlt; omega)
    rw [hitem, hmoved]
    exact ofNat_succ_sub_one (line + 1)
  · rw [hbehind] at hlt
    rw [hitem, place, if_pos (by omega)]

/-- A region of one line of the script is moved back to it. -/
lemma undecorate_one_line (h : injectedLine? decorated = some injected)
    (hinjected : injected < 0x80000000) (hline : line + 2 < 0x80000000) {region : Region}
    (hbegin : region.beginLine = Int32.ofNat (place injected line + 1))
    (hend : region.endLine = Int32.ofNat (place injected line + 1)) :
    undecorate decorated region =
      { region with beginLine := Int32.ofNat (line + 1), endLine := Int32.ofNat (line + 1) } := by
  have hregion : region = region.between (place injected line) (place injected line) := by
    cases region
    cases hbegin
    cases hend
    rfl
  rw [hregion, undecorate_between h (Nat.le_refl line) hinjected hline, if_neg (by omega)]
  rfl

/-- What is left of the members of a wrapped script are those that do not belong to the wrapper, in
their order and with nothing but their lines changed. A member on a line of the script gets the
number that line has in the script, to which a region of that one line is moved back, too. -/
theorem stripInjected_keeps_members (hs : s.Representable)
    (h : wrap s caret = .wrapped wrapped moved) (items : List Member) (stripClass : Bool) :
    ∃ injected opened, injectedLine? wrapped = some injected ∧
      (linesInclusive wrapped)[injected]? = some opened ∧ marker <:+: opened ∧
      (∀ line < (linesInclusive s).length,
        (linesInclusive wrapped)[place injected line]? =
          (linesInclusive (s ++ lastBreak s))[line]?) ∧
      List.Forall₂
        (fun item result => result = { item with line := result.line } ∧
          ∀ line < (linesInclusive s).length,
            item.line = Int32.ofNat (place injected line + 1) →
              result.line = Int32.ofNat (line + 1) ∧
              ∀ region : Region, region.beginLine = item.line → region.endLine = item.line →
                undecorate wrapped region =
                  { region with beginLine := result.line, endLine := result.line })
        (items.filter fun item =>
          ¬ IsOfWrapper items stripClass (Int32.ofNat (injected + 1)) item)
        (stripInjected items wrapped stripClass) := by
  have hnumbered := hs.numbered
  have hprologue := Prologue.count_lineFeed_le s
  have hlines := length_linesInclusive_le s
  have hinjected := injectedLine?_of_wrap h
  refine ⟨_, opening s, hinjected, ?_, ?_, fun line hline => getElem?_wrapped h hline, ?_⟩
  · obtain ⟨-, hcode, -, -⟩ := wrap_cases h
    rw [linesInclusive_wrap h, ← (Prologue.isWhole_split s hcode).length_linesInclusive]
    simp
  · rw [opening_eq]
    exact ⟨_, lineBreak s, by rw [List.append_assoc]⟩
  · rw [stripInjected_eq hinjected, List.forall₂_map_right_iff, List.forall₂_same]
    intro item _
    refine ⟨moveBack_eq _ item, fun line hline hitem => ?_⟩
    have hmoved := line_moveBack (by omega) (by omega) hitem
    refine ⟨hmoved, fun region hbegin hend => ?_⟩
    rw [hmoved]
    exact undecorate_one_line hinjected (by omega) (by omega) (hbegin.trans hitem)
      (hend.trans hitem)

/-- A main method of the wrapper, one member of the class, one outside all types and one of a type
that the script has in front. -/
def openScriptMembers : List Member :=
  [⟨"class".toList, className, "Main(string[] args)".toList, "method".toList, 4⟩,
    ⟨"class".toList, className, "f()".toList, "method".toList, 5⟩,
    ⟨[], "<Global>".toList, "é".toList, "field".toList, 6⟩,
    ⟨"class".toList, "A".toList, "g()".toList, "method".toList, 2⟩]

theorem stripInjected_keeps_members_openScript :
    openScript.Representable ∧ wrap openScript 0 = .wrapped openScriptWrapped 0 ∧
      stripInjected openScriptMembers openScriptWrapped true =
        [⟨[], "<Global>".toList, "é".toList, "field".toList, 5⟩,
          ⟨"class".toList, "A".toList, "g()".toList, "method".toList, 2⟩] := by
  have hs : openScript.Representable := ⟨by decide, by decide⟩
  have hwrap : wrap openScript 0 = .wrapped openScriptWrapped 0 := by decide +kernel
  obtain ⟨injected, _, hinjected, -, -, -, hmembers⟩ :=
    stripInjected_keeps_members hs hwrap openScriptMembers true
  have hthree : injected = 3 := by
    rw [injectedLine?_of_wrap hwrap, Option.some.injEq] at hinjected
    rw [← hinjected]
    decide
  subst hthree
  have hkept : (openScriptMembers.filter fun item =>
      ¬ IsOfWrapper openScriptMembers true (Int32.ofNat (3 + 1)) item) =
        [⟨[], "<Global>".toList, "é".toList, "field".toList, 6⟩,
          ⟨"class".toList, "A".toList, "g()".toList, "method".toList, 2⟩] := by decide
  rw [hkept, List.forall₂_cons_left_iff] at hmembers
  obtain ⟨first, rest, ⟨hfirst, hbehind⟩, hrest, heq⟩ := hmembers
  rw [List.forall₂_cons_left_iff] at hrest
  obtain ⟨second, _, ⟨hsecond, hbefore⟩, hnil, rfl⟩ := hrest
  rw [List.forall₂_nil_left_iff] at hnil
  have hfive := (hbehind 4 (by decide) (by decide)).1
  have htwo := (hbefore 1 (by decide) (by decide)).1
  refine ⟨hs, hwrap, ?_⟩
  rw [heq, hnil, hfirst, hsecond, hfive, htwo]
  rfl

end ScriptAssist.Decoration
