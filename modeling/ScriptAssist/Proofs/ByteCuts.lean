import ScriptAssist.Proofs.CharBoundaries
import ScriptAssist.Proofs.Stretches
import ScriptAssist.Proofs.Wrapping

/-!
# Cuts at bytes

Words, lines and prologues are cut out of the bytes of a text. A cut goes through only between two
boundaries, and the place behind a character is reached by one byte, so it depends on delimiters
being characters of one byte. Every cut goes through, and gives the word, the line and the wrapped
script that are found by characters.
-/

namespace ScriptAssist

open Text Utf8

namespace Text

variable {p stop : Char → Bool} {s front mid back w w' : Text} {caret : Nat} {c : Char}

/-- The byte offset of the first character that satisfies `p`. -/
def firstByte? (p : Char → Bool) : Text → Option Nat
  | [] => none
  | c :: s => if p c then some 0 else (firstByte? p s).map (c.utf8Size + ·)

/-- The byte offset of the last character that satisfies `p`. -/
def lastByte? (p : Char → Bool) : Text → Option Nat
  | [] => none
  | c :: s =>
    match lastByte? p s with
    | some offset => some (c.utf8Size + offset)
    | none => if p c then some 0 else none

/-- The caret of a byte offset: how many characters are cut off at the last boundary up to it. -/
def cutCaret? (bytes : Bytes) (offset : Nat) : Option Nat := do
  let last ← boundaryUpTo? bytes (min offset bytes.length)
  let front ← slice? bytes 0 last
  some front.length

/-- The stretch around a byte offset: from one byte past the start of the last character before it
that satisfies `stop` up to the first such character behind it. -/
def cutStretch? (stop : Char → Bool) (bytes : Bytes) (offset : Nat) : Option Text := do
  let before ← slice? bytes 0 offset
  let behind ← slice? bytes offset bytes.length
  let first := ((lastByte? stop before).map (· + 1)).getD 0
  let last := ((firstByte? stop behind).map (offset + ·)).getD bytes.length
  slice? bytes first last

/-! ### Carets -/

lemma cutCaret?_eq (s : Text) (offset : Nat) :
    cutCaret? (encode s) offset = some (charOffset s offset) := by
  have hslice : slice? (encode s) 0 (byteOffset s (charOffset s offset)) =
      some (s.take (charOffset s offset)) :=
    slice?_front (List.take_append_drop _ s).symm
  rw [cutCaret?, length_encode, boundaryUpTo?_encode, Option.bind_eq_bind, Option.bind_some,
    hslice, Option.bind_eq_bind, Option.bind_some, List.length_take,
    Nat.min_eq_left (charOffset_le_length s offset)]

/-! ### Stretches -/

lemma firstByte?_eq_none (h : ∀ c ∈ s, p c = false) : firstByte? p s = none := by
  induction s with
  | nil => rfl
  | cons c s ih =>
    rw [firstByte?, if_neg (by simp [h c]), ih fun c hc => h c (List.mem_cons_of_mem _ hc)]
    rfl

lemma firstByte?_append (hfront : ∀ c ∈ front, p c = false) (hc : p c = true) (back : Text) :
    firstByte? p (front ++ c :: back) = some (byteSize front) := by
  induction front with
  | nil => rw [List.nil_append, firstByte?, if_pos hc, byteSize_nil]
  | cons first front ih =>
    rw [List.cons_append, firstByte?, if_neg (by simp [hfront first]),
      ih fun c hc => hfront c (List.mem_cons_of_mem _ hc), Option.map_some, byteSize_cons]

lemma lastByte?_eq_none (h : ∀ c ∈ s, p c = false) : lastByte? p s = none := by
  induction s with
  | nil => rfl
  | cons c s ih =>
    rw [lastByte?, ih fun c hc => h c (List.mem_cons_of_mem _ hc)]
    simp [h c]

lemma lastByte?_append (hc : p c = true) (hback : ∀ c ∈ back, p c = false) (front : Text) :
    lastByte? p (front ++ c :: back) = some (byteSize front) := by
  induction front with
  | nil => simp [lastByte?, lastByte?_eq_none hback, hc]
  | cons first front ih => rw [List.cons_append, lastByte?, ih, byteSize_cons]

/-- One byte past the last character at which a stretch stops is where the stretch starts. -/
lemma lastByte?_stretch (hbyte : ∀ c, stop c = true → c.utf8Size = 1)
    (hw : ∀ c ∈ w, stop c = false) (hfront : ∀ c, front.getLast? = some c → stop c = true) :
    ((lastByte? stop (front ++ w)).map (· + 1)).getD 0 = byteSize front := by
  rcases List.eq_nil_or_concat front with rfl | ⟨front, c, rfl⟩
  · rw [List.nil_append, lastByte?_eq_none hw]
    rfl
  · have hc : stop c = true := hfront c (by simp)
    rw [List.concat_eq_append, List.append_assoc, List.singleton_append, lastByte?_append hc hw]
    simp [hbyte c hc]

lemma firstByte?_stretch (hw : ∀ c ∈ w, stop c = false)
    (hback : ∀ c, back.head? = some c → stop c = true) (offset : Nat) :
    ((firstByte? stop (w ++ back)).map (offset + ·)).getD (offset + byteSize (w ++ back)) =
      offset + byteSize w := by
  cases back with
  | nil => simp [firstByte?_eq_none hw]
  | cons c back => simp [firstByte?_append hw (hback c rfl)]

/-- The caret divides the stretch around it. -/
lemma IsStretch.exists_parts (h : IsStretch stop s caret front mid back) :
    ∃ w w', mid = w ++ w' ∧ s.take caret = front ++ w ∧ s.drop caret = w' ++ back := by
  obtain ⟨rfl, hbegins, hends, -, -, -⟩ := h
  have hlength : (front ++ mid ++ back).length = front.length + mid.length + back.length := by
    rw [List.length_append, List.length_append]
  have hnone : caret - (front ++ mid).length = 0 ∨ back = [] := by
    cases back with
    | nil => exact .inr rfl
    | cons c back =>
      rw [List.length_cons] at hlength
      rw [List.length_append]
      omega
  refine ⟨mid.take (caret - front.length), mid.drop (caret - front.length),
    (List.take_append_drop _ _).symm, ?_, ?_⟩
  · rw [List.append_assoc, List.take_append, List.take_of_length_le (by omega), List.take_append]
    rcases hnone with hnone | rfl
    · rw [Nat.sub_sub, ← List.length_append, hnone, List.take_zero, List.append_nil]
    · rw [List.take_nil, List.append_nil]
  · rw [List.append_assoc, List.drop_append, List.drop_eq_nil_of_le (by omega), List.nil_append,
      List.drop_append]
    rcases hnone with hnone | rfl
    · rw [Nat.sub_sub, ← List.length_append, hnone, List.drop_zero]
    · rw [List.drop_nil]

/-- Every cut goes through, and gives the stretch that is found by characters. -/
lemma cutStretch?_eq (hbyte : ∀ c, stop c = true → c.utf8Size = 1) (s : Text) (caret : Nat) :
    cutStretch? stop (encode s) (byteOffset s caret) = some (stretchAt stop s caret) := by
  obtain ⟨front, back, h⟩ := exists_isStretch stop s caret
  obtain ⟨w, w', hmid, htake, hdrop⟩ := h.exists_parts
  have hfree := h.free
  rw [hmid] at hfree
  have hsplit : s = front ++ w ++ (w' ++ back) := by
    rw [← htake, ← hdrop, List.take_append_drop]
  have hoffset : byteOffset s caret = byteSize (front ++ w) := by rw [byteOffset, htake]
  have hsize : byteSize s = byteSize (front ++ w) + byteSize (w' ++ back) := by
    conv_lhs => rw [hsplit, byteSize_append]
  have hbefore : slice? (encode s) 0 (byteSize (front ++ w)) = some (front ++ w) :=
    slice?_front hsplit
  have hbehind : slice? (encode s) (byteSize (front ++ w)) (byteSize s) = some (w' ++ back) :=
    slice?_back hsplit
  have hfirst := lastByte?_stretch hbyte (fun c hc => hfree c (List.mem_append_left _ hc)) h.before
  have hlast := firstByte?_stretch (fun c hc => hfree c (List.mem_append_right _ hc)) h.behind
    (byteSize (front ++ w))
  have hcut : slice? (encode s) (byteSize front) (byteSize (front ++ stretchAt stop s caret)) =
      some (stretchAt stop s caret) :=
    slice?_encode h.split
  rw [cutStretch?, length_encode, hoffset, hbefore, hbehind]
  simp only [Option.bind_eq_bind, Option.bind_some]
  rw [hfirst, hsize, hlast, ← byteSize_append, List.append_assoc, ← hmid, hcut]

lemma utf8Size_delimiter {kind : WordKind} (h : kind.delimiters.contains c = true) :
    c.utf8Size = 1 := by
  have hone : kind.delimiters.all (fun c => c.utf8Size = 1) = true := by cases kind <;> decide
  simpa using List.all_eq_true.mp hone c (by simpa using h)

lemma cutStretch?_wordAt (kind : WordKind) (s : Text) (caret : Nat) :
    cutStretch? (fun c => kind.delimiters.contains c) (encode s) (byteOffset s caret) =
      some (wordAt kind s caret) :=
  cutStretch?_eq (fun _ => utf8Size_delimiter) s caret

lemma cutStretch?_fullLineAt (s : Text) (caret : Nat) :
    cutStretch? (fun c => c = '\r' || c = '\n') (encode s) (byteOffset s caret) =
      some (fullLineAt s caret) := by
  refine cutStretch?_eq (fun c hc => ?_) s caret
  rcases (by simpa using hc : c = '\r' ∨ c = '\n') with rfl | rfl <;> rfl

lemma cutStretch?_lineAt (s : Text) (caret : Nat) :
    (cutStretch? (fun c => c = '\r' || c = '\n') (encode s) (byteOffset s caret)).map trim =
      some (lineAt s caret) := by
  rw [cutStretch?_fullLineAt]
  rfl

end Text

/-! ### Prologues -/

namespace Prologue

/-- The byte offset of the first line of code, when the first line is at `offset`. -/
def codeStart? (offset : Nat) : List Text → Option Nat
  | [] => none
  | line :: lines =>
    if isPrologueLine line then codeStart? (offset + byteSize line) lines else some offset

lemma codeStart?_eq (offset : Nat) (lines : List Text) :
    codeStart? offset lines =
      if lines.dropWhile isPrologueLine = [] then none
      else some (offset + byteSize (lines.takeWhile isPrologueLine).flatten) := by
  induction lines generalizing offset with
  | nil => rfl
  | cons line lines ih =>
    rw [codeStart?]
    by_cases hline : isPrologueLine line = true
    · rw [if_pos hline, ih, List.dropWhile_cons_of_pos hline, List.takeWhile_cons_of_pos hline,
        List.flatten_cons, byteSize_append, Nat.add_assoc]
    · rw [if_neg hline, List.dropWhile_cons_of_neg hline, List.takeWhile_cons_of_neg hline,
        if_neg (List.cons_ne_nil _ _)]
      rfl

lemma codeStart?_linesInclusive (s : Text) :
    codeStart? 0 (linesInclusive s) =
      if (split s).2 = [] then none else some (byteSize (split s).1) := by
  have hcode : (linesInclusive s).dropWhile isPrologueLine = [] ↔ (split s).2 = [] := by
    constructor
    · intro h
      rw [split_eq, h]
      rfl
    · intro h
      rw [← (linesInclusive_split s).2, h]
      rfl
  rw [codeStart?_eq, Nat.zero_add]
  simp only [hcode, split_eq]

end Prologue

namespace AutoClass

/-- Wrapping as it cuts the bytes of a script in front of its first line of code. -/
def cutWrap? (s : Text) (caret : UInt64) : Option Wrapping :=
  if occursIn marker s || Declaration.declaresType s then some .declined
  else
    match Prologue.codeStart? 0 (linesInclusive s) with
    | none => some .declined
    | some start => do
      let prologue ← slice? (encode s) 0 start
      let code ← slice? (encode s) start (encode s).length
      let first ← cutCaret? (encode s) start
      match moveCaret? first (opening s).length caret with
      | some moved => some (.wrapped (prologue ++ opening s ++ code ++ closing s) moved)
      | none => some .overflow

lemma cutWrap?_eq (s : Text) (caret : UInt64) : cutWrap? s caret = some (wrap s caret) := by
  have hsplit := Prologue.split_append s
  rw [cutWrap?, Prologue.codeStart?_linesInclusive]
  by_cases hdeclined : (occursIn marker s || Declaration.declaresType s) = true
  · rw [if_pos hdeclined, wrap, if_pos hdeclined]
  · rw [if_neg hdeclined]
    by_cases hcode : (Prologue.split s).2 = []
    · rw [if_pos hcode, wrap, if_neg hdeclined]
      simp [hcode]
    · have hprologue : slice? (encode s) 0 (byteSize (Prologue.split s).1) =
          some (Prologue.split s).1 := slice?_front hsplit.symm
      have hrest : slice? (encode s) (byteSize (Prologue.split s).1) (byteSize s) =
          some (Prologue.split s).2 := slice?_back hsplit.symm
      have hfirst : charOffset s (byteSize (Prologue.split s).1) =
          (Prologue.split s).1.length := charOffset_byteSize hsplit.symm
      rw [if_neg hcode, length_encode]
      simp only [hprologue, hrest, cutCaret?_eq, hfirst, Option.bind_eq_bind, Option.bind_some]
      rw [Bool.or_eq_true, occursIn_iff_isInfix, not_or, Bool.not_eq_true] at hdeclined
      rw [wrap_of_accepts ⟨hdeclined.1, hdeclined.2, hcode⟩, withClass]
      cases moveCaret? (Prologue.split s).1.length (opening s).length caret <;> rfl

end AutoClass

namespace Text

/-- Carets and boundaries correspond in order, so all cuts around carets go through: the caret of an
offset, the words, the line and the wrapped script are found by cutting bytes. -/
theorem carets_correspond_to_boundaries (s : Text) :
    (∀ caret, charOffset s (byteOffset s caret) = min caret s.length) ∧
      (∀ offset, IsGreatest
        {start | IsBoundary (encode s) start ∧ start ≤ min offset (encode s).length}
        (byteOffset s (charOffset s offset))) ∧
      Monotone (byteOffset s) ∧ Monotone (charOffset s) ∧
      (∀ caret, IsBoundary (encode s) (byteOffset s caret)) ∧
      (∀ offset, cutCaret? (encode s) offset = some (charOffset s offset)) ∧
      (∀ kind caret, cutStretch? (fun c => kind.delimiters.contains c) (encode s)
        (byteOffset s caret) = some (wordAt kind s caret)) ∧
      (∀ caret, (cutStretch? (fun c => c = '\r' || c = '\n') (encode s)
        (byteOffset s caret)).map trim = some (lineAt s caret)) ∧
      ∀ caret, AutoClass.cutWrap? s caret = some (AutoClass.wrap s caret) := by
  refine ⟨charOffset_byteOffset s, ?_, byteOffset_mono s, charOffset_mono s,
    isBoundary_byteOffset s, cutCaret?_eq s, fun kind => cutStretch?_wordAt kind s,
    cutStretch?_lineAt s, AutoClass.cutWrap?_eq s⟩
  intro offset
  rw [length_encode]
  exact isGreatest_byteOffset_charOffset s offset

end Text

end ScriptAssist
