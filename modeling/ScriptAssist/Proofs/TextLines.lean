import Mathlib.Data.List.DropRight
import Mathlib.Tactic.Lemma
import Mathlib.Tactic.SplitIfs
import ScriptAssist.Text.Blank

/-!
# Lines and ends of texts

Lines are the pieces between line feeds, up to a carriage return at their end and an empty piece
behind the last line feed. Joining lines without a line feed loses nothing. What a text ends with
can be dropped exactly if it is kept apart from the rest.
-/

namespace ScriptAssist.Text

/-! ### Pieces -/

lemma not_mem_of_mem_splitOn {mark : Char} {s piece : Text} (h : piece ∈ s.splitOn mark) :
    mark ∉ piece := by
  induction s generalizing piece with
  | nil =>
    rw [List.splitOn_nil, List.mem_singleton] at h
    simp [h]
  | cons c s ih =>
    rw [List.splitOn_cons_eq_if_modifyHead] at h
    split_ifs at h with hc
    · obtain rfl | hpiece := List.mem_cons.1 h
      · simp
      · exact ih hpiece
    · obtain ⟨first, rest, hsplit⟩ := List.exists_cons_of_ne_nil (List.splitOn_ne_nil mark s)
      rw [hsplit, List.modifyHead_cons] at h
      rw [hsplit] at ih
      obtain rfl | hpiece := List.mem_cons.1 h
      · have hfirst := ih List.mem_cons_self
        have hne : mark ≠ c := by
          rintro rfl
          simp at hc
        simp [hfirst, hne]
      · exact ih (List.mem_cons_of_mem first hpiece)

lemma splitOn_joinLines {parts : List Text} (hparts : ∀ part ∈ parts, '\n' ∉ part)
    (hne : parts ≠ []) : (joinLines parts).splitOn '\n' = parts :=
  List.splitOn_intercalate '\n' hparts hne

lemma joinWith_singleton (separator part : Text) : joinWith separator [part] = part :=
  List.intercalate_singleton

lemma joinWith_cons (mark : Char) (part : Text) {parts : List Text} (hne : parts ≠ []) :
    joinWith [mark] (part :: parts) = part ++ mark :: joinWith [mark] parts := by
  obtain ⟨next, parts, rfl⟩ := List.exists_cons_of_ne_nil hne
  rw [joinWith, List.intercalate_cons_cons]
  simp [joinWith]

lemma mem_joinWith {mark c : Char} {parts : List Text} (h : c ∈ joinWith [mark] parts) :
    c = mark ∨ ∃ part ∈ parts, c ∈ part := by
  induction parts with
  | nil => exact absurd h List.not_mem_nil
  | cons part parts ih =>
    by_cases hne : parts = []
    · rw [hne, joinWith_singleton] at h
      exact .inr ⟨part, List.mem_cons_self, h⟩
    · rw [joinWith_cons mark part hne, List.mem_append, List.mem_cons] at h
      rcases h with hpart | rfl | hparts
      · exact .inr ⟨part, List.mem_cons_self, hpart⟩
      · exact .inl rfl
      · refine (ih hparts).imp_right ?_
        rintro ⟨other, hother, hc⟩
        exact ⟨other, List.mem_cons_of_mem part hother, hc⟩

lemma joinLines_cons (part : Text) {parts : List Text} (hne : parts ≠ []) :
    joinLines (part :: parts) = part ++ '\n' :: joinLines parts :=
  joinWith_cons '\n' part hne

lemma joinLines_append_cons (front part : Text) (parts : List Text) :
    joinLines ((front ++ part) :: parts) = front ++ joinLines (part :: parts) := by
  cases parts with
  | nil => simp [joinLines, joinWith]
  | cons next parts =>
    rw [joinLines_cons _ (List.cons_ne_nil next parts),
      joinLines_cons _ (List.cons_ne_nil next parts),
      List.append_assoc]

lemma head?_joinLines_of_head? {c : Char} {part : Text} {parts : List Text}
    (hpart : parts.head? = some part) (hc : part.head? = some c) :
    (joinLines parts).head? = some c := by
  cases parts with
  | nil => exact absurd hpart (by simp)
  | cons first parts =>
    obtain rfl := Option.some.inj hpart
    by_cases hparts : parts = []
    · simpa [hparts, joinLines, joinWith] using hc
    · rw [joinLines_cons first hparts, List.head?_append, hc, Option.some_or]

lemma getLast?_joinLines_of_getLast? {c : Char} {part : Text} {parts : List Text}
    (hpart : parts.getLast? = some part) (hc : part.getLast? = some c) :
    (joinLines parts).getLast? = some c := by
  induction parts with
  | nil => exact absurd hpart (by simp)
  | cons first parts ih =>
    by_cases hparts : parts = []
    · rw [hparts, List.getLast?_singleton, Option.some.injEq] at hpart
      simpa [hparts, hpart, joinLines, joinWith] using hc
    · obtain ⟨next, rest, rfl⟩ := List.exists_cons_of_ne_nil hparts
      rw [joinLines_cons first hparts, List.getLast?_append_cons, List.getLast?_cons,
        ih (by rwa [List.getLast?_cons_cons] at hpart)]
      rfl

lemma head?_joinLines {c : Char} {parts : List Text} (hne : parts ≠ [])
    (h : ∀ part ∈ parts, part.head? = some c) : (joinLines parts).head? = some c := by
  obtain ⟨part, rest, rfl⟩ := List.exists_cons_of_ne_nil hne
  exact head?_joinLines_of_head? rfl (h part List.mem_cons_self)

lemma getLast?_joinLines {c : Char} {parts : List Text} (hne : parts ≠ [])
    (h : ∀ part ∈ parts, part.getLast? = some c) : (joinLines parts).getLast? = some c :=
  getLast?_joinLines_of_getLast? (List.getLast?_eq_some_getLast hne) (h _ (List.getLast_mem hne))

lemma cutAtChar?_append {mark : Char} {front : Text} (h : mark ∉ front) (rest : Text) :
    cutAtChar? mark (front ++ mark :: rest) = some (front, rest) := by
  induction front with
  | nil => simp [cutAtChar?]
  | cons c front ih =>
    have hc : c ≠ mark := (List.ne_of_not_mem_cons h).symm
    rw [List.cons_append, cutAtChar?, if_neg hc, ih (List.not_mem_of_not_mem_cons h)]
    rfl

/-- A text starts with a name and a mark if what it is cut into at the mark starts with the name. -/
lemma after?_append_mark_iff {mark : Char} {name s rest : Text} (hname : mark ∉ name) :
    after? (name ++ [mark]) s = some rest ↔ cutAtChar? mark s = some (name, rest) := by
  rw [after?_eq_some_iff, List.append_assoc, List.singleton_append]
  constructor
  · rintro rfl
    exact cutAtChar?_append hname rest
  · intro hcut
    exact (append_of_cutAtChar? hcut).1

lemma cutAtChar?_eq_none {mark : Char} {s : Text} (h : mark ∉ s) : cutAtChar? mark s = none := by
  rw [Option.eq_none_iff_forall_ne_some]
  rintro ⟨front, rest⟩ hcut
  obtain ⟨rfl, -⟩ := append_of_cutAtChar? hcut
  simp at h

section Marks

variable {α : Type} [DecidableEq α] {mark : α} {s back : List α}

lemma forall_reverse_of_notMem (h : mark ∉ s) :
    ∀ c ∈ s.reverse, (!decide (c = mark)) = true := by
  intro c hc
  have hne : c ≠ mark := fun heq => h (heq ▸ List.mem_reverse.mp hc)
  simp [hne]

lemma tailAfter_of_notMem (h : mark ∉ s) : tailAfter (fun c => c = mark) s = s := by
  rw [tailAfter, List.takeWhile_eq_self_iff.mpr (forall_reverse_of_notMem h),
    List.reverse_reverse]

lemma tailAfter_append (h : mark ∉ back) (front : List α) :
    tailAfter (fun c => c = mark) (front ++ mark :: back) = back := by
  rw [tailAfter, List.reverse_append, List.reverse_cons, List.append_assoc,
    List.takeWhile_append_of_pos (forall_reverse_of_notMem h)]
  simp

lemma notMem_tailAfter (mark : α) (s : List α) : mark ∉ tailAfter (fun c => c = mark) s := by
  rw [tailAfter, List.mem_reverse]
  intro hmem
  simpa using List.mem_takeWhile_imp hmem

end Marks

/-! ### Ends -/

lemma before?_eq_some_iff {stop s rest : Text} : before? stop s = some rest ↔ s = rest ++ stop := by
  simp only [before?, Option.map_eq_some_iff, after?_eq_some_iff]
  constructor
  · rintro ⟨back, hback, rfl⟩
    rw [← List.reverse_reverse s, hback, List.reverse_append, List.reverse_reverse]
  · rintro rfl
    exact ⟨rest.reverse, by rw [List.reverse_append], List.reverse_reverse rest⟩

section Ends

variable {p : Char → Bool} {s front back gap : Text}

lemma dropEndWhile_eq_rdropWhile (p : Char → Bool) (s : Text) :
    dropEndWhile p s = s.rdropWhile p := rfl

lemma dropEndWhile_append (hback : ∀ c ∈ back, p c = true) :
    dropEndWhile p (front ++ back) = dropEndWhile p front := by
  rw [dropEndWhile, List.reverse_append, List.dropWhile_append_of_pos (by simpa using hback)]
  rfl

lemma dropEndWhile_eq_self (h : ∀ c, s.getLast? = some c → p c = false) :
    dropEndWhile p s = s := by
  rw [dropEndWhile_eq_rdropWhile, List.rdropWhile_eq_self_iff]
  intro hne
  simp [h _ (List.getLast?_eq_some_getLast hne)]

lemma getLast?_dropEndWhile {c : Char} (h : (dropEndWhile p s).getLast? = some c) :
    p c = false := by
  rw [dropEndWhile_eq_rdropWhile] at h
  have hne : s.rdropWhile p ≠ [] := by
    intro hnil
    rw [hnil] at h
    exact absurd h (by simp)
  have hlast := List.rdropWhile_last_not p s hne
  rw [List.getLast?_eq_some_getLast hne, Option.some.injEq] at h
  simpa [h] using hlast

lemma exists_eq_dropEndWhile_append (p : Char → Bool) (s : Text) :
    ∃ back, s = dropEndWhile p s ++ back ∧ ∀ c ∈ back, p c = true :=
  ⟨s.rtakeWhile p, List.rdropWhile_append_rtakeWhile.symm, fun _ hc =>
    List.mem_rtakeWhile_imp hc⟩

lemma trimEnd_eq_nil_iff {s : Text} : trimEnd s = [] ↔ isBlankText s = true := by
  rw [trimEnd, dropEndWhile_eq_rdropWhile, List.rdropWhile_eq_nil_iff, isBlankText,
    List.all_eq_true]

lemma trimEnd_trimEnd (s : Text) : trimEnd (trimEnd s) = trimEnd s :=
  List.rdropWhile_idempotent isBlank s

/-- Nothing is trimmed off in front of a text that is not blank. -/
lemma trimEnd_append (hback : isBlankText back = false) :
    trimEnd (front ++ back) = front ++ trimEnd back := by
  have hink : back.reverse.dropWhile isBlank ≠ [] := by
    rw [ne_eq, ← List.reverse_eq_nil_iff]
    intro hnil
    exact absurd (hback.symm.trans (trimEnd_eq_nil_iff.mp hnil)) (by decide)
  rw [trimEnd, dropEndWhile, List.reverse_append, List.dropWhile_append,
    if_neg (by simpa using hink), List.reverse_append, List.reverse_reverse]
  rfl

/-- Whether `s` starts with a character that is not blank, if it has one. -/
def StartsInk (s : Text) : Prop :=
  ∀ c, s.head? = some c → isBlank c = false

/-- Whether `s` ends with a character that is not blank, if it has one. -/
def EndsInk (s : Text) : Prop :=
  ∀ c, s.getLast? = some c → isBlank c = false

/-- A search that passes over the front of a list stops right behind it. -/
lemma span_append {α : Type*} {p : α → Bool} {front back : List α}
    (hfront : ∀ c ∈ front, p c = true) (hback : ∀ c, back.head? = some c → p c = false) :
    (front ++ back).takeWhile p = front ∧ (front ++ back).dropWhile p = back := by
  rw [List.takeWhile_append_of_pos hfront, List.dropWhile_append_of_pos hfront]
  cases back with
  | nil => simp
  | cons c back => simp [hback c rfl]

lemma trimStart_append (hgap : isBlankText gap = true) (hs : StartsInk s) :
    trimStart (gap ++ s) = s :=
  (span_append (List.all_eq_true.mp hgap) hs).2

lemma startsInk_trimStart (s : Text) : StartsInk (trimStart s) := by
  intro c hc
  have hfirst := List.head?_dropWhile_not isBlank s
  rw [trimStart] at hc
  rw [hc] at hfirst
  exact hfirst

lemma exists_gap_trimStart (s : Text) :
    ∃ gap, isBlankText gap = true ∧ s = gap ++ trimStart s :=
  ⟨s.takeWhile isBlank, List.all_takeWhile, List.takeWhile_append_dropWhile.symm⟩

lemma trimStart_eq_self (h : StartsInk s) : trimStart s = s := by
  cases s with
  | nil => rfl
  | cons c s => rw [trimStart, List.dropWhile_cons, if_neg (by simp [h c rfl])]

lemma trim_eq_self (hstart : StartsInk s) (hend : EndsInk s) : trim s = s := by
  rw [trim, trimStart_eq_self hstart, trimEnd, dropEndWhile_eq_self hend]

lemma isBlank_of_head?_trim {c : Char} (h : (trim s).head? = some c) : isBlank c = false := by
  obtain ⟨back, hback, -⟩ := exists_eq_dropEndWhile_append isBlank (trimStart s)
  have hfirst := List.head?_dropWhile_not isBlank s
  rw [trim, trimEnd] at h
  rw [← trimStart, hback, List.head?_append, h, Option.some_or] at hfirst
  exact hfirst

lemma isBlank_of_getLast?_trim {c : Char} (h : (trim s).getLast? = some c) :
    isBlank c = false := by
  rw [trim, trimEnd, dropEndWhile, List.getLast?_reverse] at h
  have hfirst := List.head?_dropWhile_not isBlank (trimStart s).reverse
  rw [h] at hfirst
  exact hfirst

lemma trim_eq_self_iff : trim s = s ↔ StartsInk s ∧ EndsInk s :=
  ⟨fun h => ⟨fun _ hc => isBlank_of_head?_trim (h.symm ▸ hc),
    fun _ hc => isBlank_of_getLast?_trim (h.symm ▸ hc)⟩, fun h => trim_eq_self h.1 h.2⟩

lemma trim_eq_trimStart (h : EndsInk s) : trim s = trimStart s := by
  obtain ⟨gap, -, hgap⟩ := exists_gap_trimStart s
  apply dropEndWhile_eq_self
  intro c hc
  apply h
  rw [hgap, List.getLast?_append, hc, Option.some_or]

lemma trim_subset (s : Text) : trim s ⊆ s := by
  obtain ⟨back, hback, -⟩ := exists_eq_dropEndWhile_append isBlank (trimStart s)
  intro c hc
  apply (List.dropWhile_sublist isBlank).subset
  rw [← trimStart, hback]
  exact List.mem_append_left back hc

/-- Blanks put behind a text are trimmed off. -/
lemma trim_append (hback : ∀ c ∈ back, isBlank c = true) : trim (front ++ back) = trim front := by
  have hnone : back.dropWhile isBlank = [] := List.dropWhile_eq_nil_iff.mpr hback
  rw [trim, trim, trimStart, trimStart, List.dropWhile_append, hnone]
  split
  · next hempty => rw [List.isEmpty_iff.mp hempty]
  · rw [trimEnd, trimEnd, dropEndWhile_append hback]

/-- Blanks are dropped up to a character that is not blank, and no further. -/
lemma trimStart_append_mark {mark : Char} (hmark : isBlank mark = false) (front rest : Text) :
    trimStart (front ++ mark :: rest) = trimStart front ++ mark :: rest := by
  rw [trimStart, List.dropWhile_append]
  split
  · next hempty =>
    rw [trimStart, List.isEmpty_iff.mp hempty, List.dropWhile_cons_of_neg (by simp [hmark]),
      List.nil_append]
  · rfl

/-- Blanks in front of joined lines are those of the first line, if that is not blank. -/
lemma trimStart_joinLines {mark : Char} (hmark : isBlank mark = false) (front rest : Text)
    (parts : List Text) : trimStart (joinLines ((front ++ mark :: rest) :: parts)) =
      joinLines (trimStart (front ++ mark :: rest) :: parts) := by
  have hjoin : ∀ front, joinLines ((front ++ mark :: rest) :: parts) =
      front ++ mark :: joinLines (rest :: parts) := by
    intro front
    rw [List.append_cons front mark rest, joinLines_append_cons, ← List.append_cons]
  rw [hjoin, trimStart_append_mark hmark, trimStart_append_mark hmark, hjoin]

lemma trim_append_mark {mark : Char} (hmark : isBlank mark = false) (front rest : Text) :
    trim (front ++ mark :: rest) = trimStart front ++ mark :: trimEnd rest := by
  rw [trim, trimStart_append_mark hmark, trimEnd, trimEnd, dropEndWhile, dropEndWhile,
    List.reverse_append, List.reverse_cons, List.append_assoc, List.dropWhile_append]
  split
  · next hempty =>
    rw [List.isEmpty_iff.mp hempty, List.singleton_append,
      List.dropWhile_cons_of_neg (by simp [hmark])]
    simp
  · simp

end Ends

/-! ### Lines -/

/-- A text without a line feed is put in front of the first line. -/
lemma linesInclusive_append_of_notMem {front : Text} (h : '\n' ∉ front) (hne : front ≠ [])
    (s : Text) : linesInclusive (front ++ s) =
      (front ++ (linesInclusive s).headD []) :: (linesInclusive s).tail := by
  induction front with
  | nil => exact absurd rfl hne
  | cons c front ih =>
    have hc : c ≠ '\n' := (List.ne_of_not_mem_cons h).symm
    rw [List.cons_append, linesInclusive, if_neg hc]
    by_cases hfront : front = []
    · rw [hfront]
      cases hs : linesInclusive s <;> simp [hs]
    · rw [ih (List.not_mem_of_not_mem_cons h) hfront]
      rfl

lemma linesInclusive_of_notMem {s : Text} (h : '\n' ∉ s) (hne : s ≠ []) :
    linesInclusive s = [s] := by
  simpa [linesInclusive] using linesInclusive_append_of_notMem h hne []

lemma linesInclusive_append {front : Text} (h : '\n' ∉ front) (rest : Text) :
    linesInclusive (front ++ '\n' :: rest) = (front ++ ['\n']) :: linesInclusive rest := by
  induction front with
  | nil => simp [linesInclusive]
  | cons c front ih =>
    have hc : c ≠ '\n' := (List.ne_of_not_mem_cons h).symm
    rw [List.cons_append, linesInclusive, if_neg hc, ih (List.not_mem_of_not_mem_cons h)]
    rfl

/-- The first line ends with the first line feed; without one it is the whole text. -/
lemma linesInclusive_eq_cons {s line : Text} {rest : List Text}
    (h : linesInclusive s = line :: rest) :
    ('\n' ∉ s ∧ line = s ∧ rest = []) ∨ ∃ front back, '\n' ∉ front ∧ line = front ++ ['\n'] ∧
      s = line ++ back ∧ linesInclusive back = rest := by
  by_cases hfeed : '\n' ∈ s
  · obtain ⟨front, back, rfl, hfront⟩ := List.eq_append_cons_of_mem hfeed
    rw [linesInclusive_append hfront, List.cons.injEq] at h
    exact .inr ⟨front, back, hfront, h.1.symm, by simp [← h.1], h.2⟩
  · have hne : s ≠ [] := by
      rintro rfl
      exact absurd h (by simp [linesInclusive])
    rw [linesInclusive_of_notMem hfeed hne, List.cons.injEq] at h
    exact .inl ⟨hfeed, h.1.symm, h.2.symm⟩

lemma exists_front_of_mem_linesInclusive {s line : Text} (h : line ∈ linesInclusive s) :
    ∃ front, '\n' ∉ front ∧ (line = front ∨ line = front ++ ['\n']) := by
  generalize hlines : linesInclusive s = lines at h
  induction lines generalizing s with
  | nil => exact absurd h List.not_mem_nil
  | cons first rest ih =>
    rcases linesInclusive_eq_cons hlines with
      ⟨hopen, hfirst, hrest⟩ | ⟨front, back, hfront, hfirst, -, hback⟩
    · rw [hrest, List.mem_singleton] at h
      exact ⟨s, hopen, .inl (h.trans hfirst)⟩
    · rcases List.mem_cons.mp h with heq | hmem
      · exact ⟨front, hfront, .inr (heq.trans hfirst)⟩
      · exact ih hback hmem

/-- Lines taken from a text, or left in it, are the lines of what they make up. -/
lemma linesInclusive_flatten {s : Text} {before after : List Text}
    (h : linesInclusive s = before ++ after) :
    linesInclusive before.flatten = before ∧ linesInclusive after.flatten = after := by
  induction before generalizing s with
  | nil =>
    rw [List.nil_append] at h
    rw [← h, flatten_linesInclusive]
    exact ⟨rfl, rfl⟩
  | cons line before ih =>
    rw [List.cons_append] at h
    rcases linesInclusive_eq_cons h with ⟨-, hline, hrest⟩ | ⟨front, back, hfront, hline, -, hback⟩
    · obtain ⟨rfl, rfl⟩ := List.append_eq_nil_iff.mp hrest
      rw [List.flatten_singleton, hline, h, hline]
      exact ⟨rfl, rfl⟩
    · obtain ⟨hbefore, hafter⟩ := ih hback
      refine ⟨?_, hafter⟩
      rw [List.flatten_cons, hline, List.append_assoc, List.singleton_append,
        linesInclusive_append hfront, hbefore]

/-- A text that does not stop inside a line. -/
def IsWhole (s : Text) : Prop :=
  s = [] ∨ ∃ front, s = front ++ ['\n']

lemma IsWhole.count_eq_zero_iff {s : Text} (h : IsWhole s) : s.count '\n' = 0 ↔ s = [] := by
  rcases h with rfl | ⟨front, rfl⟩
  · simp
  · simp [List.count_append]

lemma isWhole_append_lineFeed (front : Text) : IsWhole (front ++ ['\n']) :=
  .inr ⟨front, rfl⟩

/-- Lines that others follow end with line feeds. -/
lemma isWhole_flatten {s : Text} {before after : List Text} (h : linesInclusive s = before ++ after)
    (hafter : after ≠ []) : IsWhole before.flatten := by
  induction before generalizing s with
  | nil => exact .inl rfl
  | cons line before ih =>
    rcases linesInclusive_eq_cons h with ⟨-, -, hrest⟩ | ⟨front, back, -, hline, -, hback⟩
    · exact absurd hrest (by simp [hafter])
    · rcases ih hback with hnil | ⟨later, hlater⟩
      · exact .inr ⟨front, by rw [List.flatten_cons, hnil, List.append_nil, hline]⟩
      · exact .inr ⟨line ++ later, by rw [List.flatten_cons, hlater, List.append_assoc]⟩

lemma linesInclusive_append_lineFeed_ne_nil (front : Text) :
    linesInclusive (front ++ ['\n']) ≠ [] := by
  intro hnil
  have hflat := flatten_linesInclusive (front ++ ['\n'])
  rw [hnil] at hflat
  exact absurd hflat (by simp)

lemma IsWhole.linesInclusive_append {front : Text} (h : IsWhole front) (back : Text) :
    linesInclusive (front ++ back) = linesInclusive front ++ linesInclusive back := by
  rcases h with rfl | ⟨front, rfl⟩
  · rfl
  · induction front with
    | nil => simp [linesInclusive]
    | cons c front ih =>
      obtain ⟨line, rest, hlines⟩ :=
        List.exists_cons_of_ne_nil (linesInclusive_append_lineFeed_ne_nil front)
      rw [hlines] at ih
      simp only [List.cons_append, linesInclusive, ih, hlines]
      split <;> rfl

lemma length_linesInclusive_le_append (s t : Text) :
    (linesInclusive s).length ≤ (linesInclusive (s ++ t)).length := by
  induction s with
  | nil => exact Nat.zero_le _
  | cons c s ih =>
    simp only [List.cons_append, linesInclusive]
    split
    · simpa using ih
    · cases hs : linesInclusive s <;> cases hst : linesInclusive (s ++ t) <;>
        simp_all

/-- A text of whole lines has as many lines as line feeds. -/
lemma IsWhole.length_linesInclusive {s : Text} (h : IsWhole s) :
    (linesInclusive s).length = s.count '\n' := by
  rcases h with rfl | ⟨front, rfl⟩
  · rfl
  · induction front with
    | nil => rfl
    | cons c front ih =>
      obtain ⟨line, rest, hlines⟩ :=
        List.exists_cons_of_ne_nil (linesInclusive_append_lineFeed_ne_nil front)
      rw [hlines] at ih
      rw [List.cons_append, List.count_cons, ← ih, linesInclusive, hlines]
      by_cases hc : c = '\n'
      · simp [hc]
      · simp [hc]

lemma length_linesInclusive_le (s : Text) : (linesInclusive s).length ≤ s.count '\n' + 1 := by
  have hle := length_linesInclusive_le_append s ['\n']
  rw [(isWhole_append_lineFeed s).length_linesInclusive, List.count_append] at hle
  exact hle

lemma dropLineBreak_eq (line : Text) : dropLineBreak line =
    if line.getLast? = some '\n' then
      if line.dropLast.getLast? = some '\r' then line.dropLast.dropLast else line.dropLast
    else line := by
  obtain ⟨back, rfl⟩ : ∃ back : Text, line = back.reverse :=
    ⟨line.reverse, (List.reverse_reverse line).symm⟩
  rw [dropLineBreak, List.reverse_reverse, List.getLast?_reverse, List.dropLast_reverse,
    List.getLast?_reverse, List.dropLast_reverse]
  split
  · rfl
  · next rest hne =>
    have hreturn : rest.head? ≠ some '\r' := by
      intro h
      obtain ⟨more, rfl⟩ := List.head?_eq_some_iff.mp h
      exact hne more rfl
    rw [if_pos List.head?_cons, List.tail_cons, if_neg hreturn]
  · next hne hne' =>
    have hfeed : back.head? ≠ some '\n' := by
      intro h
      obtain ⟨more, rfl⟩ := List.head?_eq_some_iff.mp h
      exact hne' more rfl
    rw [if_neg hfeed]

/-- The line feed of a line goes, and with it at most one carriage return. -/
lemma dropLineBreak_append (front : Text) :
    dropLineBreak (front ++ ['\n']) = front ∨
      front = dropLineBreak (front ++ ['\n']) ++ ['\r'] := by
  rw [dropLineBreak, List.reverse_append, List.reverse_singleton, List.singleton_append]
  split
  · next rest heq =>
    have hfront : front = (front.reverse).reverse := (List.reverse_reverse front).symm
    rw [(List.cons.inj heq).2] at hfront
    exact .inr (by rw [hfront]; simp)
  · next rest hne heq =>
    exact .inl (by rw [← (List.cons.inj heq).2, List.reverse_reverse])
  · next hne hne' => exact absurd rfl (hne' front.reverse)

lemma dropLineBreak_eq_self {s : Text} (h : '\n' ∉ s) : dropLineBreak s = s := by
  rw [dropLineBreak]
  split
  · next rest heq => exact absurd (List.mem_reverse.1 (heq ▸ List.mem_cons_self)) h
  · next rest hne heq => exact absurd (List.mem_reverse.1 (heq ▸ List.mem_cons_self)) h
  · rfl

end ScriptAssist.Text
