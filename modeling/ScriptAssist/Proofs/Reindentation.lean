import Mathlib.Data.List.Induction
import ScriptAssist.Proofs.TextLines
import ScriptAssist.Text.Reindent

/-!
# Carets in reindented texts

Two texts with the same meaningful characters differ in their blanks only. A caret is carried from
one to the other so that each meaningful character stays on its side. So the order of carets is
kept, and so is the number of line feeds before a caret.
-/

namespace ScriptAssist.Text

variable {p : Char → Bool} {s a b : Text} {i j n : Nat}

/-! ### Ranks -/

lemma countP_take_mono (p : Char → Bool) (s : Text) (h : i ≤ j) :
    (s.take i).countP p ≤ (s.take j).countP p :=
  List.Sublist.countP_le (List.take_sublist_take_left h)

lemma countP_take_le (p : Char → Bool) (s : Text) (i : Nat) :
    (s.take i).countP p ≤ s.countP p :=
  List.Sublist.countP_le (List.take_sublist i s)

lemma countP_take_succ {c : Char} (hc : s[i]? = some c) (hp : p c = true) :
    (s.take (i + 1)).countP p = (s.take i).countP p + 1 := by
  rw [List.take_add_one, hc, List.countP_append, Option.toList_some, List.countP_singleton, if_pos hp]

/-- The places up to that of the `n`-th character are those with no more than `n` before them. -/
lemma le_nthIndex_iff (hi : i ≤ s.length) :
    i ≤ nthIndex p n s ↔ (s.take i).countP p ≤ n := by
  induction s generalizing i n with
  | nil =>
    obtain rfl : i = 0 := by simpa using hi
    simp
  | cons c s ih =>
    cases i with
    | zero => simp
    | succ i =>
      have hrest : i ≤ s.length := by simpa using hi
      rw [nthIndex.eq_def, List.take_succ_cons, List.countP_cons]
      dsimp only
      split_ifs with hc
      · cases n with
        | zero => simp
        | succ n =>
          dsimp only
          rw [Nat.succ_le_succ_iff, ih hrest, Nat.succ_le_succ_iff]
      · rw [Nat.succ_le_succ_iff, ih hrest, Nat.add_zero]

lemma nthIndex_le_length (p : Char → Bool) (n : Nat) (s : Text) : nthIndex p n s ≤ s.length := by
  induction s generalizing n with
  | nil => simp [nthIndex]
  | cons c s ih =>
    rw [nthIndex.eq_def, List.length_cons]
    dsimp only
    split_ifs
    · cases n with
      | zero => simp
      | succ n => exact Nat.succ_le_succ (ih n)
    · exact Nat.succ_le_succ (ih n)

lemma countP_take_nthIndex (h : n ≤ s.countP p) : (s.take (nthIndex p n s)).countP p = n := by
  refine Nat.le_antisymm ((le_nthIndex_iff (nthIndex_le_length p n s)).1 le_rfl) ?_
  -- one place further there would be more than `n`, unless the text ends before
  by_contra hless
  obtain hlt | hend := Nat.lt_or_eq_of_le (nthIndex_le_length p n s)
  · have hnext : ¬ nthIndex p n s + 1 ≤ nthIndex p n s := by omega
    rw [le_nthIndex_iff hlt, List.take_add_one, List.countP_append] at hnext
    have hone := List.countP_le_length (p := p) (l := s[nthIndex p n s]?.toList)
    have hlength : s[nthIndex p n s]?.toList.length ≤ 1 := by
      cases s[nthIndex p n s]? <;> simp
    omega
  · rw [hend, List.take_length] at hless
    omega

lemma exists_getElem?_nthIndex (h : n < s.countP p) :
    ∃ c, s[nthIndex p n s]? = some c ∧ p c = true := by
  have hcount : (s.take (nthIndex p n s)).countP p = n := countP_take_nthIndex h.le
  have hlt : nthIndex p n s < s.length := by
    by_contra hend
    rw [List.take_of_length_le (Nat.le_of_not_lt hend)] at hcount
    omega
  refine ⟨s[nthIndex p n s], List.getElem?_eq_getElem hlt, ?_⟩
  by_contra hp
  have hnext : ¬ nthIndex p n s + 1 ≤ nthIndex p n s := by omega
  rw [le_nthIndex_iff hlt, List.take_add_one, List.getElem?_eq_getElem hlt, List.countP_append,
    hcount, Option.toList_some, List.countP_singleton, if_neg hp] at hnext
  omega

/-- A character that satisfies `p` is found by its rank. -/
lemma nthIndex_countP_take {c : Char} (hc : s[i]? = some c) (hp : p c = true) :
    nthIndex p ((s.take i).countP p) s = i := by
  have hi : i < s.length := (List.getElem?_eq_some_iff.1 hc).1
  refine Nat.le_antisymm ?_ ((le_nthIndex_iff hi.le).2 le_rfl)
  by_contra hfar
  have hcount := (le_nthIndex_iff (p := p) (n := (s.take i).countP p) hi).1 (by omega)
  rw [countP_take_succ hc hp] at hcount
  omega

/-- The place from which on only characters follow that do not satisfy `p`. -/
lemma length_dropEndWhile_le_iff :
    (dropEndWhile (fun c => !p c) s).length ≤ i ↔ s.countP p ≤ (s.take i).countP p := by
  induction s using List.reverseRecOn with
  | nil => simp [dropEndWhile]
  | append_singleton s c ih =>
    by_cases hc : p c = true
    · rw [dropEndWhile_eq_self (by simp [hc]), List.length_append, List.countP_append,
        List.countP_singleton, if_pos hc]
      by_cases hi : i ≤ s.length
      · have hfew := countP_take_le p s i
        rw [List.take_append_of_le_length hi, List.length_singleton]
        omega
      · have hall : (s ++ [c]).take i = s ++ [c] := List.take_of_length_le (by simp; omega)
        rw [hall, List.countP_append, List.countP_singleton, if_pos hc, List.length_singleton]
        omega
    · have hnone : [c].countP p = 0 := by simp [hc]
      rw [dropEndWhile_append (by simpa using hc), ih, List.take_append, List.countP_append,
        List.countP_append, hnone]
      have hnone' : ([c].take (i - s.length)).countP p = 0 := by
        have hle := countP_take_le p [c] (i - s.length)
        omega
      rw [hnone', Nat.add_zero, Nat.add_zero]

lemma filter_take (p : Char → Bool) (s : Text) (i : Nat) :
    (s.take i).filter p = (s.filter p).take ((s.take i).countP p) := by
  conv_rhs => rw [← List.take_append_drop i s, List.filter_append, List.countP_eq_length_filter]
  rw [List.take_append_drop, List.take_left']
  rfl

lemma getElem?_filter {c : Char} (hc : s[i]? = some c) (hp : p c = true) :
    (s.filter p)[(s.take i).countP p]? = some c := by
  obtain ⟨hi, rfl⟩ := List.getElem?_eq_some_iff.1 hc
  have hsplit : s.filter p = (s.take i).filter p ++ s[i] :: (s.drop (i + 1)).filter p := by
    rw [← List.filter_cons_of_pos hp, ← List.filter_append, ← List.drop_eq_getElem_cons hi,
      List.take_append_drop]
  rw [hsplit, List.countP_eq_length_filter, List.getElem?_append_right le_rfl, Nat.sub_self,
    List.getElem?_cons_zero]

/-! ### Counterparts -/

/-- At these places the texts have a meaningful character of the same rank. -/
structure Counterparts (a b : Text) (i j : Nat) : Prop where
  same : ∃ c, isMeaningful c = true ∧ a[i]? = some c ∧ b[j]? = some c
  rank : (a.take i).countP isMeaningful = (b.take j).countP isMeaningful

lemma Counterparts.symm (h : Counterparts a b i j) : Counterparts b a j i := by
  obtain ⟨c, hc, ha, hb⟩ := h.same
  exact ⟨⟨c, hc, hb, ha⟩, h.rank.symm⟩

lemma countP_eq_of_filter_eq (h : a.filter p = b.filter p) : a.countP p = b.countP p := by
  rw [List.countP_eq_length_filter, List.countP_eq_length_filter, h]

/-- Each meaningful character has a counterpart: the one with its rank. -/
lemma counterparts_nthIndex (h : a.filter isMeaningful = b.filter isMeaningful) {c : Char}
    (hc : a[i]? = some c) (hmeaningful : isMeaningful c = true) :
    Counterparts a b i (nthIndex isMeaningful ((a.take i).countP isMeaningful) b) := by
  have hrank : (a.take i).countP isMeaningful < b.countP isMeaningful := by
    rw [← countP_eq_of_filter_eq h, ← Nat.succ_le_iff, Nat.succ_eq_add_one,
      ← countP_take_succ hc hmeaningful]
    exact countP_take_le _ _ _
  obtain ⟨d, hd, hmeaningful'⟩ := exists_getElem?_nthIndex hrank
  have hcount := countP_take_nthIndex hrank.le
  have hsame := getElem?_filter hd hmeaningful'
  rw [hcount, ← h, getElem?_filter hc hmeaningful, Option.some.injEq] at hsame
  exact ⟨⟨c, hmeaningful, hc, hsame ▸ hd⟩, hcount.symm⟩

/-- A caret is behind a meaningful character exactly if it has more than the rank of this before
it. -/
lemma lt_iff_countP_take {c : Char} (hc : s[i]? = some c) (hp : p c = true) (caret : Nat) :
    i < caret ↔ (s.take i).countP p < (s.take caret).countP p := by
  constructor
  · intro hlt
    have hle := countP_take_mono p s (Nat.succ_le_of_lt hlt)
    rw [Nat.succ_eq_add_one, countP_take_succ hc hp] at hle
    omega
  · intro hlt
    by_contra hle
    have hmono := countP_take_mono p s (Nat.le_of_not_lt hle)
    omega

/-! ### Carrying a caret across -/

lemma nthIndex_zero (p : Char → Bool) (s : Text) :
    nthIndex p 0 s = (s.takeWhile fun c => !p c).length := by
  induction s with
  | nil => rfl
  | cons c s ih =>
    rw [nthIndex, List.takeWhile_cons]
    cases hc : p c with
    | true => rfl
    | false => simp [ih]

/-- The next character that satisfies `p` is as far away as there are others in between. -/
lemma add_length_takeWhile (hi : i ≤ s.length) :
    i + ((s.drop i).takeWhile fun c => !p c).length = nthIndex p ((s.take i).countP p) s := by
  induction s generalizing i with
  | nil => simpa [nthIndex] using hi
  | cons c s ih =>
    cases i with
    | zero => simp [nthIndex_zero]
    | succ i =>
      have hrest := ih (Nat.le_of_succ_le_succ hi)
      rw [List.drop_succ_cons, List.take_succ_cons, List.countP_cons, nthIndex.eq_def]
      dsimp only
      by_cases hc : p c = true
      · rw [if_pos hc, if_pos hc]
        dsimp only
        omega
      · rw [if_neg hc, if_neg hc, Nat.add_zero ((s.take i).countP p)]
        omega

/-- Where a caret goes: back from the next meaningful character as far as before, but not past the
one before that. -/
lemma mapCaret_eq (hcaret : i < a.length) (b : Text) :
    let rank := (a.take i).countP isMeaningful
    let anchor := nthIndex isMeaningful rank b
    mapCaret a i b = max (anchor - (nthIndex isMeaningful rank a - i))
      (dropEndWhile (fun c => !isMeaningful c) (b.take anchor)).length := by
  intro rank anchor
  have hanchor := add_length_takeWhile (p := isMeaningful) hcaret.le
  have hrank : (a.take (nthIndex isMeaningful rank a)).countP isMeaningful = rank :=
    countP_take_nthIndex (countP_take_le _ _ _)
  rw [mapCaret, if_neg (Nat.not_le_of_lt hcaret)]
  dsimp only
  rw [hanchor, hrank, ← hanchor, Nat.add_sub_cancel_left]

lemma length_floor_le_iff (hn : n ≤ b.countP p) :
    (dropEndWhile (fun c => !p c) (b.take (nthIndex p n b))).length ≤ i ↔
      n ≤ (b.take i).countP p := by
  have hcount := countP_take_nthIndex hn
  rw [length_dropEndWhile_le_iff, hcount, List.take_take]
  obtain hi | hi := Nat.le_total i (nthIndex p n b)
  · rw [Nat.min_eq_left hi]
  · have hmore := countP_take_mono p b hi
    rw [Nat.min_eq_right hi, hcount]
    omega

section Carets

variable (h : a.filter isMeaningful = b.filter isMeaningful)

include h

lemma countP_take_le_of_filter_eq (i : Nat) :
    (a.take i).countP isMeaningful ≤ b.countP isMeaningful :=
  countP_eq_of_filter_eq h ▸ countP_take_le isMeaningful a i

lemma mapCaret_le_nthIndex (hi : i ≤ a.length) :
    mapCaret a i b ≤ nthIndex isMeaningful ((a.take i).countP isMeaningful) b := by
  obtain hi | rfl := Nat.lt_or_eq_of_le hi
  · have hfloor := (length_floor_le_iff (countP_take_le_of_filter_eq h i)).2
      (countP_take_nthIndex (countP_take_le_of_filter_eq h i)).ge
    rw [mapCaret_eq hi]
    omega
  · rw [mapCaret, if_pos le_rfl, le_nthIndex_iff le_rfl, List.take_length, List.take_length,
      countP_eq_of_filter_eq h]

lemma mapCaret_le_length (hi : i ≤ a.length) : mapCaret a i b ≤ b.length :=
  (mapCaret_le_nthIndex h hi).trans (nthIndex_le_length _ _ _)

/-- A caret has as many meaningful characters before it as it had. -/
lemma countP_take_mapCaret (hi : i ≤ a.length) :
    (b.take (mapCaret a i b)).countP isMeaningful = (a.take i).countP isMeaningful := by
  refine Nat.le_antisymm ((le_nthIndex_iff (mapCaret_le_length h hi)).1
    (mapCaret_le_nthIndex h hi)) ?_
  obtain hi | rfl := Nat.lt_or_eq_of_le hi
  · rw [← length_floor_le_iff (countP_take_le_of_filter_eq h i), mapCaret_eq hi]
    exact Nat.le_max_right _ _
  · rw [mapCaret, if_pos le_rfl, List.take_length, List.take_length, countP_eq_of_filter_eq h]

lemma mapCaret_mono (hij : i ≤ j) (hj : j ≤ a.length) : mapCaret a i b ≤ mapCaret a j b := by
  have hi : i ≤ a.length := hij.trans hj
  obtain hlt | heq := Nat.lt_or_eq_of_le (countP_take_mono isMeaningful a hij)
  · -- a meaningful character between the carets stays between them
    by_contra hback
    have hmono := countP_take_mono isMeaningful b (Nat.le_of_not_le hback)
    rw [countP_take_mapCaret h hi, countP_take_mapCaret h hj] at hmono
    omega
  · obtain hj | rfl := Nat.lt_or_eq_of_le hj
    · rw [mapCaret_eq (hij.trans_lt hj), mapCaret_eq hj, heq]
      omega
    · rw [show mapCaret a a.length b = b.length by rw [mapCaret, if_pos le_rfl]]
      exact mapCaret_le_length h hi

lemma lt_mapCaret_iff (hcaret : n ≤ a.length) (hij : Counterparts a b i j) :
    j < mapCaret a n b ↔ i < n := by
  obtain ⟨c, hc, ha, hb⟩ := hij.same
  rw [lt_iff_countP_take ha hc, lt_iff_countP_take hb hc, hij.rank, countP_take_mapCaret h hcaret]

lemma mapCaret_of_counterparts (hij : Counterparts a b i j) : mapCaret a i b = j := by
  obtain ⟨c, hc, ha, hb⟩ := hij.same
  have hi : i < a.length := (List.getElem?_eq_some_iff.1 ha).1
  refine Nat.le_antisymm ?_ ?_
  · have hstays := (lt_mapCaret_iff h hi.le hij).not.2 (Nat.lt_irrefl i)
    exact Nat.le_of_not_lt hstays
  · -- there is no gap to keep, so the caret goes to the counterpart itself
    rw [mapCaret_eq hi, nthIndex_countP_take ha hc, hij.rank, nthIndex_countP_take hb hc,
      Nat.sub_self]
    exact Nat.le_max_left _ _

lemma count_lineFeed_take_mapCaret (hi : i ≤ a.length) :
    (b.take (mapCaret a i b)).count '\n' = (a.take i).count '\n' := by
  have hkept : ∀ s : Text, s.count '\n' = (s.filter isMeaningful).count '\n' := fun s =>
    (List.count_filter isMeaningful_lineFeed).symm
  rw [hkept, hkept (a.take i), filter_take, filter_take, countP_take_mapCaret h hi, h]

end Carets

lemma mapCaret_self (hi : i ≤ a.length) : mapCaret a i a = i := by
  obtain hi | rfl := Nat.lt_or_eq_of_le hi
  · have hanchor : i ≤ nthIndex isMeaningful ((a.take i).countP isMeaningful) a :=
      (le_nthIndex_iff hi.le).2 le_rfl
    have hfloor := (length_floor_le_iff (countP_take_le isMeaningful a i)).2 le_rfl
    rw [mapCaret_eq hi]
    omega
  · rw [mapCaret, if_pos le_rfl]

/-- If two texts have the same meaningful characters, carets keep their order from one to the
other, each meaningful character stays on the side of a caret where it was, and a caret at one goes
to its counterpart and back again. The number of line feeds before a caret stays the same. From a
text to itself carets do not move. -/
theorem mapCaret_keeps_sides (h : a.filter isMeaningful = b.filter isMeaningful) :
    (∀ caret later, caret ≤ later → later ≤ a.length →
      mapCaret a caret b ≤ mapCaret a later b ∧ mapCaret a later b ≤ b.length) ∧
    (∀ caret c, a[caret]? = some c → isMeaningful c = true →
      Counterparts a b caret (mapCaret a caret b) ∧
        mapCaret b (mapCaret a caret b) a = caret) ∧
    (∀ caret ≤ a.length, ∀ i j, Counterparts a b i j →
      (i < caret ↔ j < mapCaret a caret b)) ∧
    (∀ caret ≤ a.length,
      (b.take (mapCaret a caret b)).count '\n' = (a.take caret).count '\n') ∧
    ∀ caret ≤ a.length, mapCaret a caret a = caret := by
  refine ⟨fun caret later hle hlater => ⟨mapCaret_mono h hle hlater, mapCaret_le_length h hlater⟩,
    fun caret c hc hmeaningful => ?_,
    fun caret hcaret i j hij => (lt_mapCaret_iff h hcaret hij).symm,
    fun caret hcaret => count_lineFeed_take_mapCaret h hcaret,
    fun caret hcaret => mapCaret_self hcaret⟩
  have hcounterparts := counterparts_nthIndex h hc hmeaningful
  rw [mapCaret_of_counterparts h hcounterparts]
  exact ⟨hcounterparts, mapCaret_of_counterparts h.symm hcounterparts.symm⟩

/-- The blanks in front of `x` get more, those behind it and at the end go. -/
theorem mapCaret_keeps_sides_of_statement :
    let before := "if\n x  ;\n\t".toList
    let after := "if\n    x;\n".toList
    before.filter isMeaningful = after.filter isMeaningful ∧
      Counterparts before after 4 7 ∧ mapCaret after 7 before = 4 ∧
      7 < mapCaret before 6 after ∧ mapCaret before 6 after ≤ mapCaret before 9 after ∧
      mapCaret before 9 after ≤ 10 ∧
      (after.take (mapCaret before 9 after)).count '\n' = 2 ∧ mapCaret before 9 before = 9 := by
  intro before after
  have hsame : before.filter isMeaningful = after.filter isMeaningful := by decide
  obtain ⟨horder, hgoes, hsides, hfeeds, hself⟩ := mapCaret_keeps_sides hsame
  have hx : Counterparts before after 4 7 := (hgoes 4 'x' (by decide) (by decide)).1
  have hend := horder 6 9 (by decide) (by decide)
  exact ⟨hsame, hx, (hgoes 4 'x' (by decide) (by decide)).2, (hsides 6 (by decide) 4 7 hx).1 (by decide),
    hend.1, hend.2, hfeeds 9 (by decide), hself 9 (by decide)⟩

end ScriptAssist.Text
