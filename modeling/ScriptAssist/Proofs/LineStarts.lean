import ScriptAssist.Proofs.CharBoundaries
import ScriptAssist.Proofs.LineNumbers

/-!
# Starts of lines

The table of a text holds zero and the places right behind its line feeds, in order. A search for
an offset in it can only end in one way: at the start of a line, which is then the line of the
offset, or at the place of the first line behind the offset, the line before which it is on.
-/

namespace ScriptAssist

open Text Utf8

namespace LineTable

variable {starts : List Nat} {bound place i start : Nat}

/-- How a binary search in an ascending list ends: at the place of the number, or at the place where
it would have to be put in. -/
inductive SearchEnd where
  | found (place : Nat)
  | missing (place : Nat)
  deriving DecidableEq, Repr

/-- Whether a search for a number may end so. -/
def SearchEnd.Fits (starts : List Nat) (bound : Nat) : SearchEnd → Prop
  | .found place => starts[place]? = some bound
  | .missing place => bound ∉ starts ∧ place ≤ starts.length ∧
      ∀ i start, starts[i]? = some start → (start < bound ↔ i < place)

/-- The line a search ends on. -/
def SearchEnd.line : SearchEnd → Nat
  | .found place => place
  | .missing place => place - 1

/-! ### Ends of searches -/

lemma getElem?_le_iff (hsorted : starts.Pairwise (· < ·)) (h : starts[i]? = some start)
    (bound : Nat) : start ≤ bound ↔ i < starts.countP (· ≤ bound) := by
  obtain ⟨hi, rfl⟩ := List.getElem?_eq_some_iff.mp h
  exact le_iff_lt_countP hsorted bound hi

/-- A number in the list stands at the last place up to it. -/
lemma succ_eq_countP (hsorted : starts.Pairwise (· < ·)) (h : starts[i]? = some bound) :
    i + 1 = starts.countP (· ≤ bound) := by
  have hlength := List.countP_le_length (p := (· ≤ bound)) (l := starts)
  have hle := (getElem?_le_iff hsorted h bound).mp le_rfl
  by_contra hne
  -- else the next number would not be greater
  have hnext : i + 1 < starts.length := by omega
  have hafter := (le_iff_lt_countP hsorted bound hnext).mpr (by omega)
  obtain ⟨hi, hbound⟩ := List.getElem?_eq_some_iff.mp h
  have hascends := List.pairwise_iff_getElem.mp hsorted i (i + 1) hi hnext (Nat.lt_succ_self i)
  omega

lemma fits_found_iff (hsorted : starts.Pairwise (· < ·)) (hmem : bound ∈ starts) :
    SearchEnd.Fits starts bound (.found place) ↔ place + 1 = starts.countP (· ≤ bound) := by
  obtain ⟨i, hi⟩ := List.mem_iff_getElem?.mp hmem
  constructor
  · exact succ_eq_countP hsorted
  · intro hplace
    obtain rfl : place = i := Nat.succ.inj (hplace.trans (succ_eq_countP hsorted hi).symm)
    exact hi

/-- A number that is missing belongs behind the last place up to it. -/
lemma fits_missing_iff (hsorted : starts.Pairwise (· < ·)) (hmem : bound ∉ starts) :
    SearchEnd.Fits starts bound (.missing place) ↔ place = starts.countP (· ≤ bound) := by
  have hlength := List.countP_le_length (p := (· ≤ bound)) (l := starts)
  have hlt : ∀ i start, starts[i]? = some start →
      (start < bound ↔ i < starts.countP (· ≤ bound)) := by
    intro i start h
    have hne : start ≠ bound := fun heq => hmem (heq ▸ List.mem_of_getElem? h)
    rw [← getElem?_le_iff hsorted h bound]
    omega
  constructor
  · rintro ⟨-, hplace, hbefore⟩
    -- a place between the two would be on different sides of the number
    rcases Nat.lt_trichotomy place (starts.countP (· ≤ bound)) with hless | heq | hmore
    · have hentry : starts[place]? = some starts[place] := List.getElem?_eq_getElem (by omega)
      have := (hbefore _ _ hentry).mp ((hlt _ _ hentry).mpr hless)
      omega
    · exact heq
    · have hentry : starts[starts.countP (· ≤ bound)]? = some starts[starts.countP (· ≤ bound)] :=
        List.getElem?_eq_getElem (by omega)
      have := (hlt _ _ hentry).mp ((hbefore _ _ hentry).mpr hmore)
      omega
  · rintro rfl
    exact ⟨hmem, hlength, hlt⟩

/-- In an ascending list a search can only end in one way, on the last line up to the number. -/
lemma exists_searchEnd (hsorted : starts.Pairwise (· < ·)) (bound : Nat) :
    ∃ searchEnd : SearchEnd, (∀ other : SearchEnd, other.Fits starts bound ↔ other = searchEnd) ∧
      searchEnd.line = starts.countP (· ≤ bound) - 1 := by
  by_cases hmem : bound ∈ starts
  · have hpos : 0 < starts.countP (· ≤ bound) := List.countP_pos_iff.mpr ⟨bound, hmem, by simp⟩
    refine ⟨.found (starts.countP (· ≤ bound) - 1), fun other => ?_, rfl⟩
    cases other with
    | found place =>
      rw [fits_found_iff hsorted hmem, SearchEnd.found.injEq]
      omega
    | missing place => simp [SearchEnd.Fits, hmem]
  · refine ⟨.missing (starts.countP (· ≤ bound)), fun other => ?_, rfl⟩
    cases other with
    | found place =>
      have hnone : starts[place]? ≠ some bound := fun h => hmem (List.mem_of_getElem? h)
      simp [SearchEnd.Fits, hnone]
    | missing place => rw [fits_missing_iff hsorted hmem, SearchEnd.missing.injEq]

/-! ### Places of line starts -/

/-- A line starts right behind each byte that is a line feed, and nowhere else. -/
lemma mem_startsAfter_iff (offset place : Nat) (s : Text) :
    offset + place + 1 ∈ startsAfter offset s ↔ (encode s)[place]? = some lineFeed := by
  induction s generalizing offset place with
  | nil => simp [startsAfter]
  | cons c s ih =>
    rw [startsAfter, encode_cons]
    by_cases hc : c = '\n'
    · subst hc
      have hone : ('\n' : Char).utf8Size = 1 := rfl
      rw [if_pos rfl, encodeChar_lineFeed, hone, List.singleton_append, List.mem_cons]
      cases place with
      | zero => simp
      | succ place =>
        rw [List.getElem?_cons_succ, ← ih (offset + 1) place,
          show offset + (place + 1) + 1 = offset + 1 + place + 1 by omega]
        constructor
        · rintro (heq | hmem)
          · omega
          · exact hmem
        · exact .inr
    · rw [if_neg hc]
      by_cases hinside : place < c.utf8Size
      · have hbehind : offset + place + 1 ∉ startsAfter (offset + c.utf8Size) s := by
          intro hmem
          have := lt_of_mem_startsAfter hmem
          omega
        have hbyte : (String.utf8EncodeChar c ++ encode s)[place]? ≠ some lineFeed := by
          rw [List.getElem?_append_left (by simpa using hinside)]
          exact fun h => lineFeed_notMem_encodeChar hc (List.mem_of_getElem? h)
        simp [hbehind, hbyte]
      · obtain ⟨more, rfl⟩ := Nat.exists_eq_add_of_le (Nat.le_of_not_lt hinside)
        rw [List.getElem?_append_right (by simp), String.length_utf8EncodeChar,
          Nat.add_sub_cancel_left, ← ih (offset + c.utf8Size) more, ← Nat.add_assoc offset]

lemma mem_starts_iff (s : Text) (place : Nat) :
    place + 1 ∈ (ofText s).starts.toList ↔ (encode s)[place]? = some lineFeed := by
  have hmem := mem_startsAfter_iff 0 place s
  rw [Nat.zero_add] at hmem
  rw [← hmem, show (ofText s).starts.toList = 0 :: startsAfter 0 s from rfl, List.mem_cons]
  simp

/-! ### Lines of offsets -/

/-- The line feeds in front of an offset are those in front of its caret. -/
lemma count_take_encode (s : Text) (offset : Nat) :
    ((encode s).take offset).count lineFeed = (s.take (charOffset s offset)).count '\n' := by
  fun_induction charOffset s offset with
  | case1 => simp
  | case2 c s offset hinside =>
    have hnone : lineFeed ∉ (String.utf8EncodeChar c).take offset := by
      by_cases hc : c = '\n'
      · subst hc
        obtain rfl : offset = 0 := Nat.lt_one_iff.mp hinside
        simp
      · exact fun hmem => lineFeed_notMem_encodeChar hc (List.mem_of_mem_take hmem)
    rw [encode_cons, List.take_append_of_le_length (by simpa using hinside.le),
      List.count_eq_zero_of_not_mem hnone, List.take_zero, List.count_nil]
  | case3 c s offset hbehind ih =>
    have hchar : (String.utf8EncodeChar c).count lineFeed = [c].count '\n' := by
      simpa using count_encode_lineFeed [c]
    rw [encode_cons, List.take_append, List.count_append, String.length_utf8EncodeChar, ih,
      List.take_of_length_le (by simpa using hbehind), hchar, List.take_succ_cons,
      ← List.count_append, List.singleton_append]

lemma monotone_lineOf (s : Text) : Monotone (ofText s).lineOf := by
  intro offset later hle
  have hcount : (ofText s).starts.toList.countP (· ≤ min offset (byteSize s)) ≤
      (ofText s).starts.toList.countP (· ≤ min later (byteSize s)) := by
    refine List.countP_mono_left fun start _ hstart => ?_
    simp only [decide_eq_true_eq] at hstart ⊢
    omega
  rw [← lineOf_ofText_add_one, ← lineOf_ofText_add_one] at hcount
  exact Nat.le_of_succ_le_succ hcount

/-- The line of an offset counts the line feeds in front of it, in bytes and in characters. It is in
the table, which ascends from zero over the places behind line feeds, and a search in the table for
the offset can only end on it. -/
theorem lineOf_counts_line_feeds (s : Text) :
    (∀ offset, (ofText s).lineOf offset =
        ((encode s).take (min offset (encode s).length)).count lineFeed ∧
      (ofText s).lineOf offset = (s.take (charOffset s offset)).count '\n') ∧
      Monotone (ofText s).lineOf ∧
      (∀ offset, (ofText s).lineOf offset < (ofText s).starts.size) ∧
      (ofText s).starts.toList.Pairwise (· < ·) ∧
      (ofText s).starts.toList.head? = some 0 ∧
      (∀ place, place + 1 ∈ (ofText s).starts.toList ↔ (encode s)[place]? = some lineFeed) ∧
      ∀ offset, ∃ searchEnd : SearchEnd,
        (∀ other : SearchEnd, other.Fits (ofText s).starts.toList
          (min offset (encode s).length) ↔ other = searchEnd) ∧
        (ofText s).lineOf offset = searchEnd.line := by
  refine ⟨fun offset => ⟨?_, ?_⟩, monotone_lineOf s, fun offset => ?_, pairwise_starts s, rfl,
    mem_starts_iff s, fun offset => ?_⟩
  · rw [lineOf_ofText_eq_count, ← List.take_take, List.take_length]
  · rw [lineOf_ofText_eq_count, count_take_encode]
  · have hlength := List.countP_le_length (p := (· ≤ min offset (byteSize s)))
      (l := (ofText s).starts.toList)
    rw [← lineOf_ofText_add_one] at hlength
    exact hlength
  · obtain ⟨searchEnd, hunique, hline⟩ :=
      exists_searchEnd (pairwise_starts s) (min offset (byteSize s))
    rw [← lineOf_ofText_add_one, Nat.add_sub_cancel] at hline
    exact ⟨searchEnd, by rwa [length_encode], hline.symm⟩

end LineTable

end ScriptAssist
