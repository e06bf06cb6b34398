import Mathlib.Tactic.SplitIfs
import ScriptAssist.Proofs.Encoding
import ScriptAssist.Text.Caret

/-!
# Line numbers

The binary search in a line table finds the number of line feeds in front of an offset. So the
number of the line a caret is on is one more than the number of line feeds before the caret.
-/

namespace ScriptAssist.LineTable

open Utf8

/-! ### Binary search -/

/-- In a strictly ascending list the entries up to a bound are the first ones. -/
lemma le_iff_lt_countP {starts : List Nat} (hsorted : starts.Pairwise (· < ·)) (bound : Nat)
    {i : Nat} (hi : i < starts.length) :
    starts[i] ≤ bound ↔ i < starts.countP (· ≤ bound) := by
  induction starts generalizing i with
  | nil => simp at hi
  | cons start starts ih =>
    obtain ⟨hfirst, hrest⟩ := List.pairwise_cons.mp hsorted
    by_cases hstart : start ≤ bound
    · have hcount : (start :: starts).countP (· ≤ bound) = starts.countP (· ≤ bound) + 1 := by
        rw [List.countP_cons_of_pos (by simpa using hstart)]
      cases i with
      | zero => simp [hstart, hcount]
      | succ i =>
        have hnext := ih hrest (by simpa using hi)
        rw [hcount, List.getElem_cons_succ, hnext]
        omega
    · have hcount : (start :: starts).countP (· ≤ bound) = 0 := by
        rw [List.countP_eq_zero]
        intro entry hentry
        rcases List.mem_cons.mp hentry with rfl | hmem
        · simpa using hstart
        · have := hfirst entry hmem
          simp only [decide_eq_true_eq]
          omega
      have hfar : ¬ (start :: starts)[i] ≤ bound := by
        intro hle
        rw [List.countP_eq_zero] at hcount
        exact absurd hle (by simpa using hcount _ (List.getElem_mem hi))
      simp [hfar, hcount]

/-- The search counts the entries up to the bound, once they are known to be between its ends. -/
lemma countUpTo_eq_countP {starts : List Nat} (hsorted : starts.Pairwise (· < ·))
    (bound low high : Nat) (hlow : low ≤ starts.countP (· ≤ bound))
    (hhigh : starts.countP (· ≤ bound) ≤ high) (hlength : high ≤ starts.length) :
    countUpTo starts.toArray bound low high = starts.countP (· ≤ bound) := by
  fun_induction countUpTo starts.toArray bound low high with
  | case1 low high hlt middle hle ih =>
    have hmiddle : middle < starts.length := by omega
    have hentry : starts.toArray.getD middle 0 = starts[middle] := by
      simp [Array.getD, hmiddle]
    rw [hentry, le_iff_lt_countP hsorted bound hmiddle] at hle
    exact ih (by omega) hhigh hlength
  | case2 low high hlt middle hgt ih =>
    have hmiddle : middle < starts.length := by omega
    have hentry : starts.toArray.getD middle 0 = starts[middle] := by
      simp [Array.getD, hmiddle]
    rw [hentry, le_iff_lt_countP hsorted bound hmiddle] at hgt
    exact ih hlow (by omega) (by omega)
  | case3 low high hge => omega

/-! ### Line starts -/

lemma lt_of_mem_startsAfter {s : Text} {offset start : Nat} (h : start ∈ startsAfter offset s) :
    offset < start := by
  induction s generalizing offset with
  | nil => simp [startsAfter] at h
  | cons c s ih =>
    have hsize := c.utf8Size_pos
    rw [startsAfter] at h
    split_ifs at h with hc
    · rcases List.mem_cons.mp h with rfl | hmem
      · omega
      · have := ih hmem
        omega
    · have := ih h
      omega

lemma pairwise_startsAfter (offset : Nat) (s : Text) :
    (startsAfter offset s).Pairwise (· < ·) := by
  induction s generalizing offset with
  | nil => simp [startsAfter]
  | cons c s ih =>
    rw [startsAfter]
    split_ifs with hc
    · exact List.pairwise_cons.mpr ⟨fun start hstart => lt_of_mem_startsAfter hstart, ih _⟩
    · exact ih _

/-- The line starts up to an offset are as many as the line feeds in front of it. -/
lemma countP_startsAfter (offset bound : Nat) (s : Text) :
    (startsAfter offset s).countP (· ≤ bound) =
      ((encode s).take (bound - offset)).count lineFeed := by
  induction s generalizing offset with
  | nil => simp [startsAfter]
  | cons c s ih =>
    have hlength : (String.utf8EncodeChar c).length = c.utf8Size := by simp
    rw [startsAfter, encode_cons, List.take_append, List.count_append, hlength]
    rw [show bound - offset - c.utf8Size = bound - (offset + c.utf8Size) by omega]
    split_ifs with hc
    · subst hc
      have hone : ('\n' : Char).utf8Size = 1 := rfl
      rw [List.countP_cons, ih, encodeChar_lineFeed, hone]
      by_cases hbound : offset + 1 ≤ bound
      · have hwhole : [lineFeed].take (bound - offset) = [lineFeed] :=
          List.take_of_length_le (show 1 ≤ bound - offset by omega)
        rw [hwhole, List.count_singleton_self]
        simp only [hbound, decide_true, if_true]
        omega
      · rw [show bound - offset = 0 by omega]
        simp [hbound]
    · have hnone : ((String.utf8EncodeChar c).take (bound - offset)).count lineFeed = 0 :=
        List.count_eq_zero_of_not_mem fun hmem =>
          lineFeed_notMem_encodeChar hc (List.mem_of_mem_take hmem)
      rw [ih, hnone, Nat.zero_add]

/-- The line starts of a text ascend, -/
lemma pairwise_starts (s : Text) : (ofText s).starts.toList.Pairwise (· < ·) :=
  List.pairwise_cons.mpr ⟨fun _ hstart => lt_of_mem_startsAfter hstart, pairwise_startsAfter 0 s⟩

/-- and the first one is in front of all line feeds. -/
lemma countP_starts (s : Text) (bound : Nat) :
    (ofText s).starts.toList.countP (· ≤ bound) = ((encode s).take bound).count lineFeed + 1 := by
  rw [show (ofText s).starts.toList = 0 :: startsAfter 0 s from rfl,
    List.countP_cons_of_pos (by simp), countP_startsAfter, Nat.sub_zero]

/-- The search finds the last line that starts up to an offset. -/
lemma lineOf_ofText_add_one (s : Text) (offset : Nat) :
    (ofText s).lineOf offset + 1 =
      (ofText s).starts.toList.countP (· ≤ min offset (byteSize s)) := by
  have hsearch := countUpTo_eq_countP (pairwise_starts s) (min offset (byteSize s)) 0
    (ofText s).starts.size (Nat.zero_le _) List.countP_le_length (Nat.le_refl _)
  have hcount := countP_starts s (min offset (byteSize s))
  rw [Array.toArray_toList] at hsearch
  rw [lineOf, show (ofText s).size = byteSize s from rfl, hsearch]
  omega

/-- The line of an offset is the number of line feeds in front of it. -/
theorem lineOf_ofText_eq_count (s : Text) (offset : Nat) :
    (ofText s).lineOf offset = ((encode s).take offset).count lineFeed := by
  have hline := lineOf_ofText_add_one s offset
  have hclamp : (encode s).take (min offset (byteSize s)) = (encode s).take offset := by
    rw [← length_encode, ← List.take_take, List.take_length]
  rw [countP_starts, hclamp] at hline
  omega

end ScriptAssist.LineTable

namespace ScriptAssist.Text

theorem lineNumberAt_eq_count (s : Text) (caret : Nat) :
    lineNumberAt s caret = (s.take caret).count '\n' + 1 := by
  rw [lineNumberAt, LineTable.lineNumberOf, LineTable.lineOf_ofText_eq_count, byteOffset,
    Utf8.take_encode, Utf8.count_encode_lineFeed]

lemma lineOf_byteSize_append (s t : Text) :
    (LineTable.ofText (s ++ t)).lineOf (Utf8.byteSize s) = s.count '\n' := by
  rw [LineTable.lineOf_ofText_eq_count, Utf8.encode_append, ← Utf8.length_encode, List.take_left,
    Utf8.count_encode_lineFeed]

end ScriptAssist.Text
