import ScriptAssist.Proofs.TextLines
import ScriptAssist.Text.Caret

/-!
# Stretches around a caret

What is found around a caret is the longest stretch there without a character at which it stops.
There is only one, it is the same for every caret in it, and it lies inside the stretch that stops
at fewer characters: words lie inside their lines.
-/

namespace ScriptAssist.Text

variable {stop stop' : Char → Bool} {s front mid back front' mid' back' : Text} {caret caret' : Nat}

/-- The caret is in `mid` or at one of its ends, a caret past the end of the text counting as there.
No character in `mid` is one at which a stretch stops, and on each side of it there is such a
character or an end of the text. -/
structure IsStretch (stop : Char → Bool) (s : Text) (caret : Nat) (front mid back : Text) :
    Prop where
  split : s = front ++ mid ++ back
  begins : front.length ≤ min caret s.length
  ends : min caret s.length ≤ front.length + mid.length
  free : ∀ c ∈ mid, stop c = false
  before : ∀ c, front.getLast? = some c → stop c = true
  behind : ∀ c, back.head? = some c → stop c = true

/-- The caret is in `mid` or at one of its ends, and no character in `mid` is one at which a stretch
stops. It may be part of a longer such text. -/
structure IsFreeAround (stop : Char → Bool) (s : Text) (caret : Nat) (front mid back : Text) :
    Prop where
  split : s = front ++ mid ++ back
  begins : front.length ≤ min caret s.length
  ends : min caret s.length ≤ front.length + mid.length
  free : ∀ c ∈ mid, stop c = false

namespace IsStretch

lemma isFreeAround (h : IsStretch stop s caret front mid back) :
    IsFreeAround stop s caret front mid back :=
  ⟨h.split, h.begins, h.ends, h.free⟩

/-- A stretch that stops at fewer characters reaches further to the front, -/
lemma exists_front_eq (h : IsStretch stop s caret front mid back)
    (h' : IsFreeAround stop' s caret front' mid' back')
    (hstop : ∀ c, stop c = true → stop' c = true) :
    ∃ gap, front' = front ++ gap ∧ mid ++ back = gap ++ (mid' ++ back') := by
  have hsplit := h.split.symm.trans h'.split
  rw [List.append_assoc, List.append_assoc] at hsplit
  rcases List.append_eq_append_iff.mp hsplit with ⟨gap, hfront, hgap⟩ | ⟨gap, hfront, hgap⟩
  · exact ⟨gap, hfront, hgap⟩
  · by_cases hnil : gap = []
    · exact ⟨[], by simp [hfront, hnil], by simp [hgap, hnil]⟩
    · -- else the inner stretch would begin before a character at which it stops
      have hlength : gap.length ≤ mid'.length := by
        have hbegins := h.begins
        have hends := h'.ends
        rw [hfront, List.length_append] at hbegins
        omega
      obtain ⟨more, hmore⟩ : gap <+: mid' :=
        List.prefix_of_prefix_length_le ⟨mid ++ back, hgap.symm⟩ ⟨back', rfl⟩ hlength
      have hlast := List.getLast?_eq_some_getLast hnil
      have hstops := h.before (gap.getLast hnil) (by rw [hfront, List.getLast?_append, hlast]; rfl)
      have hfree := h'.free (gap.getLast hnil)
        (hmore ▸ List.mem_append_left more (List.getLast_mem hnil))
      rw [hstop _ hstops] at hfree
      exact absurd hfree (by decide)

/-- and further to the back. -/
lemma nested (h : IsStretch stop s caret front mid back)
    (h' : IsFreeAround stop' s caret front' mid' back')
    (hstop : ∀ c, stop c = true → stop' c = true) :
    ∃ gap more, front' = front ++ gap ∧ mid = gap ++ mid' ++ more ∧ back' = more ++ back := by
  obtain ⟨gap, hfront, hgap⟩ := h.exists_front_eq h' hstop
  rw [← List.append_assoc] at hgap
  rcases List.append_eq_append_iff.mp hgap with ⟨more, hmid, hmore⟩ | ⟨more, hmid, hmore⟩
  · cases more with
    | nil => exact ⟨gap, [], hfront, by simpa using hmid.symm, by simpa using hmore.symm⟩
    | cons c more =>
      -- the inner stretch would run on over a character at which it stops
      have hlength : gap.length ≤ mid.length := by
        have hbegins := h'.begins
        have hends := h.ends
        rw [hfront, List.length_append] at hbegins
        omega
      obtain ⟨within, rfl⟩ : gap <+: mid :=
        List.prefix_of_prefix_length_le ⟨mid', rfl⟩ ⟨c :: more, hmid.symm⟩ hlength
      rw [List.append_assoc, List.append_cancel_left_eq] at hmid
      have hfree := h'.free c (by simp [hmid])
      rw [hstop c (h.behind c (by rw [hmore]; rfl))] at hfree
      exact absurd hfree (by decide)
  · exact ⟨gap, more, hfront, hmid, hmore⟩

/-- There is only one stretch around a caret. -/
lemma unique (h : IsStretch stop s caret front mid back)
    (h' : IsStretch stop s caret front' mid' back') :
    front = front' ∧ mid = mid' ∧ back = back' := by
  obtain ⟨gap, more, hfront, hmid, hback⟩ := h.nested h'.isFreeAround fun _ hc => hc
  obtain ⟨gap', more', hfront', hmid', hback'⟩ := h'.nested h.isFreeAround fun _ hc => hc
  obtain rfl : gap = [] := by
    have hlength := congrArg List.length (hfront.trans (congrArg (· ++ gap) hfront'))
    simp only [List.length_append] at hlength
    exact List.eq_nil_of_length_eq_zero (by omega)
  obtain rfl : more = [] := by
    have hlength := congrArg List.length (hback.trans (congrArg (more ++ ·) hback'))
    simp only [List.length_append] at hlength
    exact List.eq_nil_of_length_eq_zero (by omega)
  exact ⟨by simpa using hfront.symm, by simpa using hmid, by simpa using hback.symm⟩

/-- It is the same for all carets in it. -/
lemma of_caret_mem (h : IsStretch stop s caret front mid back)
    (hbegins : front.length ≤ min caret' s.length)
    (hends : min caret' s.length ≤ front.length + mid.length) :
    IsStretch stop s caret' front mid back :=
  { h with begins := hbegins, ends := hends }

/-- Text around the caret that runs between characters at which a stretch stops is the stretch. -/
lemma of_caret_le (hbegins : front.length ≤ caret) (hends : caret ≤ front.length + mid.length)
    (hfree : ∀ c ∈ mid, stop c = false) (hbefore : ∀ c, front.getLast? = some c → stop c = true)
    (hbehind : ∀ c, back.head? = some c → stop c = true) :
    IsStretch stop (front ++ mid ++ back) caret front mid back := by
  have hcaret : min caret (front ++ mid ++ back).length = caret := by
    simp only [List.length_append]
    omega
  exact ⟨rfl, hcaret.symm ▸ hbegins, hcaret.symm ▸ hends, hfree, hbefore, hbehind⟩

/-- The character right behind the caret is in the stretch, unless it is one at which it stops. -/
lemma exists_of_behind {a b : Text} {x : Char} (h : IsStretch stop s caret front mid back)
    (hs : s = a ++ x :: b) (ha : a.length = caret) (hx : stop x = false) :
    ∃ w w', mid = w ++ x :: w' ∧ a = front ++ w ∧ b = w' ++ back := by
  have hsplit := h.split.symm.trans hs
  have hcaret : min caret s.length = a.length := by
    rw [hs, ha]
    simp [ha]
  have hbegins := h.begins
  have hends := h.ends
  rw [hcaret] at hbegins hends
  obtain ⟨w, rfl⟩ : front <+: a :=
    List.prefix_of_prefix_length_le ⟨mid ++ back, by simpa using hsplit⟩ ⟨x :: b, rfl⟩ hbegins
  rw [List.append_assoc, List.append_assoc, List.append_cancel_left_eq] at hsplit
  obtain ⟨w', rfl⟩ : w <+: mid :=
    List.prefix_of_prefix_length_le ⟨x :: b, hsplit.symm⟩ ⟨back, rfl⟩ (by simpa using hends)
  rw [List.append_assoc, List.append_cancel_left_eq] at hsplit
  cases w' with
  | nil =>
    rw [h.behind x (by rw [show back = x :: b from hsplit]; rfl)] at hx
    exact absurd hx (by decide)
  | cons c w' =>
    obtain ⟨rfl, rfl⟩ := List.cons.inj hsplit
    exact ⟨w, w', rfl, rfl, rfl⟩

end IsStretch

/-- What is found around a caret is a stretch. -/
lemma exists_isStretch (stop : Char → Bool) (s : Text) (caret : Nat) :
    ∃ front back, IsStretch stop s caret front (stretchAt stop s caret) back := by
  have hfront : (s.take caret).rdropWhile (fun c => !stop c) ++ tailAfter stop (s.take caret) =
      s.take caret :=
    List.rdropWhile_append_rtakeWhile
  have hback := List.takeWhile_append_dropWhile (p := fun c => !stop c) (l := s.drop caret)
  have hlength := congrArg List.length hfront
  rw [List.length_append, List.length_take] at hlength
  refine ⟨(s.take caret).rdropWhile fun c => !stop c, (s.drop caret).dropWhile fun c => !stop c,
    ?_, ?_, ?_, ?_, ?_, ?_⟩
  · rw [stretchAt, ← List.append_assoc, hfront, List.append_assoc, hback, List.take_append_drop]
  · omega
  · rw [stretchAt, List.length_append]
    omega
  · intro c hc
    rw [stretchAt, tailAfter, List.mem_append, List.mem_reverse] at hc
    rcases hc with hc | hc
    · simpa using List.mem_takeWhile_imp hc
    · simpa using List.mem_takeWhile_imp hc
  · intro c hc
    have hne : (s.take caret).rdropWhile (fun c => !stop c) ≠ [] := by
      intro hnil
      rw [hnil] at hc
      exact absurd hc (by simp)
    have hlast := List.rdropWhile_last_not (fun c => !stop c) (s.take caret) hne
    rw [List.getLast?_eq_some_getLast hne, Option.some.injEq] at hc
    simpa [hc] using hlast
  · intro c hc
    simpa [hc] using List.head?_dropWhile_not (fun c => !stop c) (s.drop caret)

lemma IsStretch.stretchAt_eq (h : IsStretch stop s caret front mid back) :
    stretchAt stop s caret = mid := by
  obtain ⟨front', back', h'⟩ := exists_isStretch stop s caret
  exact (h'.unique h).2.1

/-! ### Words and lines -/

/-- The caret is on the word `word`, or at one of its ends. -/
abbrev IsWord (kind : WordKind) (s : Text) (caret : Nat) (front word back : Text) : Prop :=
  IsStretch (fun c => kind.delimiters.contains c) s caret front word back

/-- The caret is on the line `line`, or at one of its ends. -/
abbrev IsLine (s : Text) (caret : Nat) (front line back : Text) : Prop :=
  IsStretch (fun c => c = '\r' || c = '\n') s caret front line back

lemma IsWord.nested_isLine {word line front' back' : Text} (hline : IsLine s caret front line back)
    (hword : IsWord .path s caret front' word back') :
    ∃ gap more, front' = front ++ gap ∧ line = gap ++ word ++ more ∧ back' = more ++ back := by
  refine hline.nested hword.isFreeAround fun c hc => ?_
  rcases (by simpa using hc : c = '\r' ∨ c = '\n') with rfl | rfl <;> decide

lemma IsLine.lineAt_eq {line : Text} (h : IsLine s caret front line back) :
    lineAt s caret = trim line :=
  congrArg trim h.stretchAt_eq

/-- Around what trimming keeps there are blanks. -/
lemma exists_append_trim (s : Text) :
    ∃ indent trailing, s = indent ++ trim s ++ trailing ∧ isBlankText indent = true ∧
      isBlankText trailing = true := by
  obtain ⟨indent, hblank, hindent⟩ := exists_gap_trimStart s
  obtain ⟨trailing, htrailing, hrest⟩ := exists_eq_dropEndWhile_append isBlank (trimStart s)
  exact ⟨indent, trailing, by rw [trim, trimEnd, List.append_assoc, ← htrailing, ← hindent], hblank,
    List.all_eq_true.mpr hrest⟩

end ScriptAssist.Text
