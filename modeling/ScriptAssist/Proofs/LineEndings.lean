import ScriptAssist.Proofs.WrappedLines

/-!
# Line endings of wrapped scripts

A script may end its lines with LF or with CR LF. Nothing that wrapping looks at tells the two
apart, as both characters are blank, and the lines it puts in end the way the script's lines do. So
a script can be wrapped before or after its line endings are changed.
-/

namespace ScriptAssist

open Text

namespace Text

variable {p : Char → Bool} {s t needle line : Text} {caret : Nat}

/-- `s` with every LF written as CR LF. -/
def toCrLf (s : Text) : Text :=
  s.flatMap fun c => if c = '\n' then ['\r', '\n'] else [c]

/-- Where a caret in `s` stands in `s` with CR LF: behind the same characters. -/
def crLfCaret (s : Text) (caret : Nat) : Nat :=
  (toCrLf (s.take caret)).length

@[simp] lemma toCrLf_nil : toCrLf [] = [] := rfl

@[simp] lemma toCrLf_append (s t : Text) : toCrLf (s ++ t) = toCrLf s ++ toCrLf t :=
  List.flatMap_append

@[simp] lemma toCrLf_cons_lineFeed (s : Text) :
    toCrLf ('\n' :: s) = '\r' :: '\n' :: toCrLf s := rfl

lemma toCrLf_cons_of_ne {c : Char} (hc : c ≠ '\n') (s : Text) :
    toCrLf (c :: s) = c :: toCrLf s := by
  simp [toCrLf, hc]

lemma toCrLf_of_notMem (h : '\n' ∉ s) : toCrLf s = s := by
  induction s with
  | nil => rfl
  | cons c s ih =>
    rw [toCrLf_cons_of_ne (List.ne_of_not_mem_cons h).symm, ih (List.not_mem_of_not_mem_cons h)]

lemma toCrLf_eq_nil_iff : toCrLf s = [] ↔ s = [] := by
  cases s with
  | nil => simp
  | cons c s =>
    by_cases hc : c = '\n'
    · simp [hc]
    · simp [toCrLf_cons_of_ne hc]

/-! ### Searches -/

lemma takeWhile_toCrLf (hreturn : p '\r' = false) (hfeed : p '\n' = false) (s : Text) :
    (toCrLf s).takeWhile p = s.takeWhile p := by
  induction s with
  | nil => rfl
  | cons c s ih =>
    by_cases hc : c = '\n'
    · simp [hc, hreturn, hfeed]
    · rw [toCrLf_cons_of_ne hc, List.takeWhile_cons, List.takeWhile_cons, ih]

lemma dropWhile_toCrLf (h : p '\r' = p '\n') (s : Text) :
    (toCrLf s).dropWhile p = toCrLf (s.dropWhile p) := by
  induction s with
  | nil => rfl
  | cons c s ih =>
    by_cases hc : c = '\n'
    · rw [hc, toCrLf_cons_lineFeed, List.dropWhile_cons, List.dropWhile_cons, List.dropWhile_cons,
        h, ih]
      split_ifs <;> rfl
    · rw [toCrLf_cons_of_ne hc, List.dropWhile_cons, List.dropWhile_cons, ih]
      split_ifs
      · rfl
      · rw [toCrLf_cons_of_ne hc]

lemma trimStart_toCrLf (s : Text) : trimStart (toCrLf s) = toCrLf (trimStart s) :=
  dropWhile_toCrLf rfl s

lemma after?_toCrLf (hreturn : '\r' ∉ needle) (hfeed : '\n' ∉ needle) (s : Text) :
    after? needle (toCrLf s) = (after? needle s).map toCrLf := by
  induction needle generalizing s with
  | nil => simp [after?]
  | cons a needle ih =>
    have hrest := ih (List.not_mem_of_not_mem_cons hreturn) (List.not_mem_of_not_mem_cons hfeed)
    cases s with
    | nil => rfl
    | cons c s =>
      by_cases hc : c = '\n'
      · have hareturn : a ≠ '\r' := (List.ne_of_not_mem_cons hreturn).symm
        have hafeed : a ≠ '\n' := (List.ne_of_not_mem_cons hfeed).symm
        simp [hc, after?, hareturn, hafeed]
      · rw [toCrLf_cons_of_ne hc, after?, after?]
        split_ifs
        · exact hrest s
        · rfl

/-- What fits on a line occurs with CR LF where it occurs with LF. -/
lemma isInfix_toCrLf_iff (hreturn : '\r' ∉ needle) (hfeed : '\n' ∉ needle) (s : Text) :
    needle <:+: toCrLf s ↔ needle <:+: s := by
  have hprefix : ∀ s : Text, needle <+: toCrLf s ↔ needle <+: s := by
    intro s
    have hafter := after?_toCrLf hreturn hfeed s
    constructor
    · rintro ⟨rest, hrest⟩
      rw [after?_eq_some_iff.mpr hrest.symm] at hafter
      obtain ⟨rest', hrest', -⟩ := Option.map_eq_some_iff.mp hafter.symm
      exact ⟨rest', (after?_eq_some_iff.mp hrest').symm⟩
    · rintro ⟨rest, hrest⟩
      rw [after?_eq_some_iff.mpr hrest.symm] at hafter
      exact ⟨toCrLf rest, (after?_eq_some_iff.mp hafter).symm⟩
  induction s with
  | nil => rfl
  | cons c s ih =>
    by_cases hc : c = '\n'
    · -- the two characters of the line ending start nothing that fits on a line
      have hfirst := hprefix (c :: s)
      have hsecond : needle <+: '\n' :: toCrLf s → needle = [] := by
        intro h
        cases needle with
        | nil => rfl
        | cons a needle =>
          obtain rfl := (List.cons_prefix_cons.mp h).1
          exact absurd List.mem_cons_self hfeed
      rw [hc, toCrLf_cons_lineFeed] at hfirst ⊢
      rw [List.infix_cons_iff, List.infix_cons_iff, List.infix_cons_iff, hfirst]
      constructor
      · rintro (h | h | h)
        · exact .inl h
        · exact .inl (by rw [hsecond h]; exact List.nil_prefix)
        · exact .inr (ih.mp h)
      · rintro (h | h)
        · exact .inl h
        · exact .inr (.inr (ih.mpr h))
    · have hfirst := hprefix (c :: s)
      rw [toCrLf_cons_of_ne hc] at hfirst ⊢
      rw [List.infix_cons_iff, List.infix_cons_iff]
      exact or_congr hfirst ih

lemma head?_toCrLf_eq_some_iff {c : Char} (hreturn : c ≠ '\r') (hfeed : c ≠ '\n') (s : Text) :
    (toCrLf s).head? = some c ↔ s.head? = some c := by
  cases s with
  | nil => rfl
  | cons a s =>
    by_cases ha : a = '\n'
    · simp [ha, hreturn.symm, hfeed.symm]
    · rw [toCrLf_cons_of_ne ha, List.head?_cons, List.head?_cons]

lemma getLast?_toCrLf (s : Text) : (toCrLf s).getLast? = s.getLast? := by
  rcases List.eq_nil_or_concat s with rfl | ⟨front, c, rfl⟩
  · rfl
  · rw [List.concat_eq_append, toCrLf_append]
    by_cases hc : c = '\n'
    · simp [hc]
    · simp [toCrLf_cons_of_ne hc]

lemma endsWith_singleton_iff {c : Char} : endsWith [c] s = true ↔ s.getLast? = some c := by
  rw [endsWith, List.isSuffixOf_iff_suffix, List.getLast?_eq_some_iff]
  exact exists_congr fun front => eq_comm

lemma endsWith_lineFeed_toCrLf (s : Text) : endsWith ['\n'] (toCrLf s) = endsWith ['\n'] s := by
  rw [Bool.eq_iff_iff, endsWith_singleton_iff, endsWith_singleton_iff, getLast?_toCrLf]

/-! ### Lines -/

lemma linesInclusive_toCrLf (s : Text) :
    linesInclusive (toCrLf s) = (linesInclusive s).map toCrLf := by
  induction s with
  | nil => rfl
  | cons c s ih =>
    by_cases hc : c = '\n'
    · rw [hc, toCrLf_cons_lineFeed]
      simp [linesInclusive, ih]
    · rw [toCrLf_cons_of_ne hc, linesInclusive, linesInclusive, if_neg hc, if_neg hc, ih]
      cases linesInclusive s with
      | nil => simp [toCrLf_cons_of_ne hc]
      | cons line rest => simp [toCrLf_cons_of_ne hc]

/-- The line ending of a line is trimmed off in either form. -/
lemma trim_toCrLf (h : line ∈ linesInclusive s) : trim (toCrLf line) = trim line := by
  obtain ⟨front, hfront, rfl | rfl⟩ := exists_front_of_mem_linesInclusive h
  · rw [toCrLf_of_notMem hfront]
  · have hcrlf : trim (front ++ ['\r', '\n']) = trim front :=
      trim_append (List.all_eq_true.mp (by decide))
    have hlf : trim (front ++ ['\n']) = trim front :=
      trim_append (List.all_eq_true.mp (by decide))
    rw [toCrLf_append, toCrLf_of_notMem hfront, hlf]
    exact hcrlf

lemma dropLineBreak_toCrLf (hreturn : '\r' ∉ line) (h : line ∈ linesInclusive s) :
    dropLineBreak (toCrLf line) = dropLineBreak line := by
  obtain ⟨front, hfront, rfl | rfl⟩ := exists_front_of_mem_linesInclusive h
  · rw [toCrLf_of_notMem hfront]
  · have hcrlf : dropLineBreak (front ++ ['\r', '\n']) = front := by
      simp [dropLineBreak]
    rw [toCrLf_append, toCrLf_of_notMem hfront]
    refine hcrlf.trans ?_
    rcases dropLineBreak_append front with heq | heq
    · exact heq.symm
    · exact absurd (by rw [heq]; simp) hreturn

lemma lines_toCrLf (hreturn : '\r' ∉ s) : lines (toCrLf s) = lines s := by
  rw [lines, lines, linesInclusive_toCrLf, List.map_map]
  refine List.map_congr_left fun line hline => dropLineBreak_toCrLf ?_ hline
  intro hmem
  rw [← flatten_linesInclusive s] at hreturn
  exact hreturn (List.mem_flatten.mpr ⟨line, hline, hmem⟩)

lemma flatten_map_toCrLf (lines : List Text) :
    (lines.map toCrLf).flatten = toCrLf lines.flatten := by
  induction lines with
  | nil => rfl
  | cons line lines ih =>
    rw [List.map_cons, List.flatten_cons, List.flatten_cons, ih, toCrLf_append]

/-! ### Carets -/

lemma crLfCaret_le_length (s : Text) (caret : Nat) : crLfCaret s caret ≤ (toCrLf s).length := by
  conv_rhs => rw [← List.take_append_drop caret s]
  rw [toCrLf_append, List.length_append, crLfCaret]
  omega

lemma crLfCaret_append_of_le {front : Text} (h : caret ≤ front.length) (back : Text) :
    crLfCaret (front ++ back) caret = crLfCaret front caret := by
  rw [crLfCaret, crLfCaret, List.take_append_of_le_length h]

lemma crLfCaret_append_of_ge {front : Text} (h : front.length ≤ caret) (back : Text) :
    crLfCaret (front ++ back) caret =
      (toCrLf front).length + crLfCaret back (caret - front.length) := by
  rw [crLfCaret, crLfCaret, List.take_append, List.take_of_length_le h, toCrLf_append,
    List.length_append]

/-- A caret stays on its side of what is in front of it. -/
lemma length_toCrLf_le_crLfCaret_iff (front back : Text) (caret : Nat) :
    (toCrLf front).length ≤ crLfCaret (front ++ back) caret ↔ front.length ≤ caret := by
  constructor
  · intro h
    by_contra hlt
    have hrest : toCrLf (front.drop caret) ≠ [] := by
      rw [Ne, toCrLf_eq_nil_iff, List.drop_eq_nil_iff]
      exact hlt
    have hpos := List.length_pos_iff.mpr hrest
    rw [crLfCaret_append_of_le (Nat.le_of_not_le hlt), crLfCaret] at h
    conv_lhs at h => rw [← List.take_append_drop caret front, toCrLf_append, List.length_append]
    omega
  · intro h
    rw [crLfCaret_append_of_ge h]
    omega

/-- A caret behind an insertion moves by what was put in, with LF as with CR LF. -/
lemma crLfCaret_insert {front back : Text} (hfront : front.length ≤ caret)
    (hback : caret ≤ front.length + back.length) (put rest : Text) :
    crLfCaret (front ++ put ++ back ++ rest) (caret + put.length) =
      crLfCaret (front ++ back) caret + (toCrLf put).length := by
  rw [crLfCaret, take_insert hfront hback, crLfCaret_append_of_ge hfront, crLfCaret, toCrLf_append,
    toCrLf_append, List.length_append, List.length_append]
  omega

end Text

namespace Declaration

lemma declaresType_toCrLf {s : Text} (hreturn : '\r' ∉ s) :
    declaresType (toCrLf s) = declaresType s := by
  rw [declaresType, declaresType, lines_toCrLf hreturn]

lemma cutWord_toCrLf (s : Text) :
    cutWord (toCrLf s) = ((cutWord s).1, toCrLf (cutWord s).2) := by
  rw [cutWord, cutWord, trimStart_toCrLf, List.span_eq_takeWhile_dropWhile,
    List.span_eq_takeWhile_dropWhile, takeWhile_toCrLf rfl rfl, dropWhile_toCrLf rfl]

lemma skipWord_toCrLf (word s : Text) : skipWord word (toCrLf s) = toCrLf (skipWord word s) := by
  rw [skipWord, skipWord, cutWord_toCrLf]
  split_ifs <;> rfl

lemma startsMainName_toCrLf (s : Text) : startsMainName (toCrLf s) = startsMainName s := by
  rw [startsMainName, startsMainName, trimStart_toCrLf]
  cases trimStart s with
  | nil => rfl
  | cons c rest =>
    by_cases hc : c = '\n'
    · rw [hc]
      rfl
    · have hafter : after? "ain".toList (toCrLf rest) = (after? "ain".toList rest).map toCrLf :=
        after?_toCrLf (by decide) (by decide) rest
      rw [toCrLf_cons_of_ne hc]
      dsimp only
      rw [hafter]
      cases after? "ain".toList rest with
      | none => rfl
      | some rest =>
        simp only [Option.map_some, trimStart_toCrLf,
          head?_toCrLf_eq_some_iff (show '(' ≠ '\r' by decide) (show '(' ≠ '\n' by decide)]

lemma startsMain_toCrLf (s : Text) : startsMain (toCrLf s) = startsMain s := by
  simp only [startsMain, skipWord_toCrLf, cutWord_toCrLf, startsMainName_toCrLf]

lemma anyAfterLineFeed_toCrLf {p : Text → Bool} (hp : ∀ s, p (toCrLf s) = p s) (s : Text) :
    anyAfterLineFeed p (toCrLf s) = anyAfterLineFeed p s := by
  induction s with
  | nil => rfl
  | cons c s ih =>
    by_cases hc : c = '\n'
    · simp [hc, anyAfterLineFeed, ih, hp]
    · simp [toCrLf_cons_of_ne hc, anyAfterLineFeed, ih, hc]

lemma declaresMain_toCrLf (s : Text) : declaresMain (toCrLf s) = declaresMain s := by
  rw [declaresMain, declaresMain, startsMain_toCrLf, anyAfterLineFeed_toCrLf startsMain_toCrLf]

end Declaration

namespace Prologue

lemma isPrologueLine_toCrLf {s line : Text} (h : line ∈ linesInclusive s) :
    isPrologueLine (toCrLf line) = isPrologueLine line := by
  rw [isPrologueLine, isPrologueLine, trim_toCrLf h]

lemma span_map_toCrLf {lines : List Text}
    (h : ∀ line ∈ lines, isPrologueLine (toCrLf line) = isPrologueLine line) :
    (lines.map toCrLf).takeWhile isPrologueLine = (lines.takeWhile isPrologueLine).map toCrLf ∧
      (lines.map toCrLf).dropWhile isPrologueLine =
        (lines.dropWhile isPrologueLine).map toCrLf := by
  induction lines with
  | nil => exact ⟨rfl, rfl⟩
  | cons line lines ih =>
    have hrest := ih fun other hother => h other (List.mem_cons_of_mem line hother)
    rw [List.map_cons, List.takeWhile_cons, List.takeWhile_cons, List.dropWhile_cons,
      List.dropWhile_cons, h line List.mem_cons_self, hrest.1, hrest.2]
    split_ifs
    · exact ⟨rfl, rfl⟩
    · exact ⟨rfl, rfl⟩

lemma split_toCrLf (s : Text) : split (toCrLf s) = (toCrLf (split s).1, toCrLf (split s).2) := by
  have hlines := span_map_toCrLf fun line (hline : line ∈ linesInclusive s) =>
    isPrologueLine_toCrLf hline
  rw [split_eq, split_eq, linesInclusive_toCrLf, hlines.1, hlines.2, flatten_map_toCrLf,
    flatten_map_toCrLf]

end Prologue

namespace AutoClass

variable {s wrapped : Text} {caret moved : UInt64}

lemma lineBreak_toCrLf (hreturn : '\r' ∉ s) (hfeed : '\n' ∈ s) :
    lineBreak (toCrLf s) = toCrLf (lineBreak s) := by
  have hlf : lineBreak s = ['\n'] := by
    rw [lineBreak, if_neg]
    rw [occursIn_iff_isInfix]
    exact fun h => hreturn (h.subset (by decide))
  have hcrlf : ['\r', '\n'] <:+: toCrLf s := by
    obtain ⟨front, back, rfl, -⟩ := List.eq_append_cons_of_mem hfeed
    exact ⟨toCrLf front, toCrLf back, by simp⟩
  rw [hlf, lineBreak, if_pos (occursIn_iff_isInfix.mpr hcrlf)]
  rfl

lemma opening_toCrLf (hreturn : '\r' ∉ s) (hfeed : '\n' ∈ s) :
    opening (toCrLf s) = toCrLf (opening s) := by
  rw [opening, opening, Declaration.declaresMain_toCrLf, lineBreak_toCrLf hreturn hfeed,
    toCrLf_append, toCrLf_of_notMem (lineFeed_notMem_header _)]

lemma closing_toCrLf (hreturn : '\r' ∉ s) (hfeed : '\n' ∈ s) :
    closing (toCrLf s) = toCrLf (closing s) := by
  rw [closing, closing, Declaration.declaresMain_toCrLf, endsWith_lineFeed_toCrLf,
    lineBreak_toCrLf hreturn hfeed, toCrLf_append, toCrLf_append,
    toCrLf_of_notMem (lineFeed_notMem_footer _)]
  split_ifs <;> rfl

lemma accepts_toCrLf_iff (hreturn : '\r' ∉ s) : Accepts (toCrLf s) ↔ Accepts s := by
  rw [Accepts, Accepts, isInfix_toCrLf_iff (by decide) lineFeed_notMem_marker,
    Declaration.declaresType_toCrLf hreturn, Prologue.split_toCrLf, Ne, toCrLf_eq_nil_iff]

/-- The wrapped script with CR LF is the script with CR LF, wrapped. -/
lemma eq_toCrLf_of_wrap {caret' moved' : UInt64} {wrapped' : Text} (hreturn : '\r' ∉ s)
    (hfeed : '\n' ∈ s) (h : wrap s caret = .wrapped wrapped moved)
    (h' : wrap (toCrLf s) caret' = .wrapped wrapped' moved') : wrapped' = toCrLf wrapped := by
  obtain ⟨-, hwrapped, -⟩ := wrap_eq_wrapped_iff.mp h
  obtain ⟨-, hwrapped', -⟩ := wrap_eq_wrapped_iff.mp h'
  rw [hwrapped', hwrapped, Prologue.split_toCrLf, opening_toCrLf hreturn hfeed,
    closing_toCrLf hreturn hfeed, toCrLf_append, toCrLf_append, toCrLf_append]

lemma exists_wrap_toCrLf {caret' : UInt64} (hreturn : '\r' ∉ s) (hfeed : '\n' ∈ s)
    (hroom : HasRoom (toCrLf s) caret') (h : wrap s caret = .wrapped wrapped moved) :
    ∃ moved', wrap (toCrLf s) caret' = .wrapped (toCrLf wrapped) moved' := by
  have haccepts := (accepts_toCrLf_iff hreturn).mpr (wrap_eq_wrapped_iff.mp h).1
  obtain ⟨moved', hwrap'⟩ := exists_wrap_of_hasRoom haccepts hroom
  exact ⟨moved', hwrap'.trans (by rw [eq_toCrLf_of_wrap hreturn hfeed h hwrap'])⟩

/-- The caret in the wrapped script with CR LF stands where the one in the wrapped script does. -/
lemma toNat_moved_toCrLf {caret' moved' : UInt64} (hreturn : '\r' ∉ s) (hfeed : '\n' ∈ s)
    (hcaret : caret.toNat ≤ s.length) (hcaret' : caret'.toNat = crLfCaret s caret.toNat)
    (h : wrap s caret = .wrapped wrapped moved)
    (h' : wrap (toCrLf s) caret' = .wrapped (toCrLf wrapped) moved') :
    moved'.toNat = crLfCaret wrapped moved.toNat := by
  have hmoved' := toNat_moved h'
  obtain ⟨prologue, code, hprologue, hsplit, hwrapped, hmoved⟩ := exists_parts_of_wrap h
  have hlength : caret.toNat ≤ prologue.length + code.length := by
    rw [← List.length_append, hsplit]
    exact hcaret
  have hside := length_toCrLf_le_crLfCaret_iff prologue code caret.toNat
  rw [Prologue.split_toCrLf, ← hprologue, opening_toCrLf hreturn hfeed, hcaret', ← hsplit,
    if_congr hside rfl rfl] at hmoved'
  rw [hmoved', hmoved, hwrapped]
  split_ifs with hbehind
  · rw [crLfCaret_insert hbehind hlength, hsplit]
  · have hfront : caret.toNat ≤ prologue.length := by omega
    rw [List.append_assoc, List.append_assoc, crLfCaret_append_of_le hfront,
      crLfCaret_append_of_le hfront]

/-- Changing the line endings of a script from LF to CR LF changes those of the wrapped script, and
nothing else. -/
theorem wrap_toCrLf (hreturn : '\r' ∉ s) (hfeed : '\n' ∈ s)
    (hsize : Utf8.byteSize (toCrLf s) < 0x8000000000000000) :
    (∀ caret caret', (wrap (toCrLf s) caret' = .declined ↔ wrap s caret = .declined) ∧
        ∀ wrapped moved wrapped' moved', wrap s caret = .wrapped wrapped moved →
          wrap (toCrLf s) caret' = .wrapped wrapped' moved' → wrapped' = toCrLf wrapped) ∧
      ∀ caret wrapped moved, caret.toNat ≤ s.length → wrap s caret = .wrapped wrapped moved →
        ∃ caret' moved', caret'.toNat = crLfCaret s caret.toNat ∧
          wrap (toCrLf s) caret' = .wrapped (toCrLf wrapped) moved' ∧
          moved'.toNat = crLfCaret wrapped moved.toNat := by
  refine ⟨fun caret caret' => ⟨?_, fun _ _ _ _ => eq_toCrLf_of_wrap hreturn hfeed⟩, ?_⟩
  · rw [wrap_eq_declined_iff, wrap_eq_declined_iff, accepts_toCrLf_iff hreturn]
  intro caret wrapped moved hcaret hwrap
  have hlength := length_le_byteSize (toCrLf s)
  have hinside := crLfCaret_le_length s caret.toNat
  have hcaret' : (UInt64.ofNat (crLfCaret s caret.toNat)).toNat = crLfCaret s caret.toNat :=
    UInt64.toNat_ofNat_of_lt' (show _ < 2 ^ 64 by omega)
  have hroom : HasRoom (toCrLf s) (UInt64.ofNat (crLfCaret s caret.toNat)) :=
    hasRoom_of_le (by omega)
  obtain ⟨moved', hwrap'⟩ := exists_wrap_toCrLf hreturn hfeed hroom hwrap
  exact ⟨_, moved', hcaret', hwrap',
    toNat_moved_toCrLf hreturn hfeed hcaret hcaret' hwrap hwrap'⟩

/-- A script with LF, a letter of two bytes and an open last line. -/
def lineFeedScript : Text :=
  "//é\nusing A;\n\nf(é);\ng()".toList

def lineFeedScriptWrapped : Text :=
  "//é\nusing A;\n\n".toList ++ header false ++ "\nf(é);\ng()\n\x7d \x7d\n".toList

theorem wrap_toCrLf_lineFeedScript :
    wrap lineFeedScript 16 = .wrapped lineFeedScriptWrapped 119 ∧
      ∃ caret' moved', caret'.toNat = 19 ∧
        wrap (toCrLf lineFeedScript) caret' = .wrapped (toCrLf lineFeedScriptWrapped) moved' ∧
        moved'.toNat = 123 := by
  have hwrap : wrap lineFeedScript 16 = .wrapped lineFeedScriptWrapped 119 := by decide +kernel
  have hboth := wrap_toCrLf (show '\r' ∉ lineFeedScript by decide) (by decide) (by decide)
  obtain ⟨caret', moved', hcaret', hwrap', hmoved'⟩ := hboth.2 16 _ _ (by decide) hwrap
  exact ⟨hwrap, caret', moved', hcaret'.trans (by decide), hwrap',
    hmoved'.trans (by decide +kernel)⟩

end AutoClass

end ScriptAssist
