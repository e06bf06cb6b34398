import Mathlib.Data.Nat.Basic
import Mathlib.Order.Bounds.Basic
import ScriptAssist.Proofs.Encoding
import ScriptAssist.Text.Caret

/-!
# Character boundaries

Carets count characters, and texts are cut at bytes. Both count the same places: the offsets of
carets are the places in the bytes where a character starts or the text ends, and a caret is at or
before that of an offset if and only if its own offset is. A cut between two such places gives the
characters between them.
-/

namespace ScriptAssist

namespace Utf8

variable {bytes : Bytes} {s front part back : Text} {offset start stop : Nat}

/-- Whether a character starts at the offset, or the bytes end there. -/
def IsBoundary (bytes : Bytes) (offset : Nat) : Prop :=
  offset ≤ bytes.length ∧ ∀ b ∈ bytes[offset]?, b.IsUTF8FirstByte

instance (bytes : Bytes) (offset : Nat) : Decidable (IsBoundary bytes offset) :=
  inferInstanceAs (Decidable (_ ∧ ∀ b ∈ bytes[offset]?, b.IsUTF8FirstByte))

/-- The text between two boundaries. Nothing is cut anywhere else. -/
def slice? (bytes : Bytes) (start stop : Nat) : Option Text :=
  if start ≤ stop ∧ IsBoundary bytes start ∧ IsBoundary bytes stop then
    decode? ((bytes.take stop).drop start)
  else none

/-- The last boundary that is not above the offset, looked for backwards byte by byte. -/
def boundaryUpTo? (bytes : Bytes) : Nat → Option Nat
  | 0 => if IsBoundary bytes 0 then some 0 else none
  | offset + 1 =>
    if IsBoundary bytes (offset + 1) then some (offset + 1) else boundaryUpTo? bytes offset

/-! ### Boundaries -/

lemma byteSize_le_of_isPrefix (h : front <+: s) : byteSize front ≤ byteSize s := by
  obtain ⟨back, rfl⟩ := h
  rw [byteSize_append]
  exact Nat.le_add_right _ _

lemma isBoundary_append {first : Bytes} (h : first.length ≤ offset) :
    IsBoundary (first ++ bytes) offset ↔ IsBoundary bytes (offset - first.length) := by
  rw [IsBoundary, IsBoundary, List.length_append, List.getElem?_append_right h]
  refine and_congr_left' ?_
  omega

/-- Inside the bytes of a character there is no boundary. -/
lemma isBoundary_encodeChar_append {c : Char} (h : offset < c.utf8Size) :
    IsBoundary (String.utf8EncodeChar c ++ bytes) offset ↔ offset = 0 := by
  have hlength : offset < (String.utf8EncodeChar c).length := by simpa using h
  rw [IsBoundary, List.getElem?_append_left hlength, List.getElem?_eq_getElem hlength]
  simp only [Option.mem_some_iff, forall_eq', UInt8.isUTF8FirstByte_getElem_utf8EncodeChar,
    List.length_append, and_iff_right_iff_imp]
  omega

lemma isBoundary_encode_cons {c : Char} :
    IsBoundary (encode (c :: s)) offset ↔
      offset = 0 ∨ c.utf8Size ≤ offset ∧ IsBoundary (encode s) (offset - c.utf8Size) := by
  have hpos := c.utf8Size_pos
  rw [encode_cons]
  by_cases hinside : offset < c.utf8Size
  · rw [isBoundary_encodeChar_append hinside]
    constructor
    · exact .inl
    · rintro (rfl | ⟨hle, -⟩)
      · rfl
      · omega
  · rw [isBoundary_append (by simpa using hinside), String.length_utf8EncodeChar]
    constructor
    · exact fun h => .inr ⟨by omega, h⟩
    · rintro (rfl | ⟨-, h⟩)
      · omega
      · exact h

/-- The boundaries of a text are the sizes of its beginnings. -/
lemma isBoundary_encode_iff :
    IsBoundary (encode s) offset ↔ ∃ front back, s = front ++ back ∧ byteSize front = offset := by
  induction s generalizing offset with
  | nil => simp [IsBoundary, eq_comm]
  | cons c s ih =>
    rw [isBoundary_encode_cons, ih]
    constructor
    · rintro (rfl | ⟨hle, front, back, rfl, hsize⟩)
      · exact ⟨[], c :: s, rfl, rfl⟩
      · exact ⟨c :: front, back, rfl, by rw [byteSize_cons]; omega⟩
    · rintro ⟨front, back, hsplit, rfl⟩
      cases front with
      | nil => exact .inl rfl
      | cons first front =>
        obtain ⟨rfl, rfl⟩ := List.cons.inj hsplit
        exact .inr ⟨by simp, front, back, rfl, by simp⟩

lemma isBoundary_byteSize (front back : Text) :
    IsBoundary (encode (front ++ back)) (byteSize front) :=
  isBoundary_encode_iff.mpr ⟨front, back, rfl, rfl⟩

/-! ### Slices -/

/-- A cut between two boundaries gives what stands between them. -/
lemma slice?_encode (h : s = front ++ part ++ back) :
    slice? (encode s) (byteSize front) (byteSize (front ++ part)) = some part := by
  have hstart : IsBoundary (encode s) (byteSize front) := by
    rw [h, List.append_assoc]
    exact isBoundary_byteSize front (part ++ back)
  have hstop : IsBoundary (encode s) (byteSize (front ++ part)) :=
    h ▸ isBoundary_byteSize (front ++ part) back
  rw [slice?, if_pos ⟨by simp, hstart, hstop⟩, h, encode_append, ← length_encode (front ++ part),
    List.take_left, encode_append, ← length_encode, List.drop_left, decode?_encode]

lemma slice?_front (h : s = front ++ back) :
    slice? (encode s) 0 (byteSize front) = some front := by
  have hwhole : s = [] ++ front ++ back := h
  exact slice?_encode hwhole

lemma slice?_back (h : s = front ++ back) :
    slice? (encode s) (byteSize front) (byteSize s) = some back := by
  have hwhole : s = front ++ back ++ [] := h.trans (List.append_nil _).symm
  have hslice := slice?_encode hwhole
  rwa [← h] at hslice

/-! ### Looking back for a boundary -/

lemma boundaryUpTo?_eq_some (hzero : IsBoundary bytes 0) (offset : Nat) :
    ∃ last, boundaryUpTo? bytes offset = some last ∧
      IsGreatest {start | IsBoundary bytes start ∧ start ≤ offset} last := by
  induction offset with
  | zero => exact ⟨0, by rw [boundaryUpTo?, if_pos hzero], ⟨hzero, le_rfl⟩, fun _ h => h.2⟩
  | succ offset ih =>
    rw [boundaryUpTo?]
    by_cases h : IsBoundary bytes (offset + 1)
    · exact ⟨offset + 1, if_pos h, ⟨h, le_rfl⟩, fun _ h => h.2⟩
    · obtain ⟨last, hlast, ⟨hboundary, hle⟩, hgreatest⟩ := ih
      refine ⟨last, by rw [if_neg h, hlast], ⟨hboundary, by omega⟩, ?_⟩
      rintro start ⟨hstart, hbefore⟩
      refine hgreatest ⟨hstart, ?_⟩
      have hne : start ≠ offset + 1 := fun heq => h (heq ▸ hstart)
      omega

end Utf8

namespace Text

open Utf8

variable {s : Text} {caret offset : Nat}

@[simp] lemma byteOffset_zero (s : Text) : byteOffset s 0 = 0 := rfl

@[simp] lemma byteOffset_nil (caret : Nat) : byteOffset [] caret = 0 := by
  rw [byteOffset, List.take_nil, byteSize_nil]

@[simp] lemma byteOffset_cons (c : Char) (s : Text) (caret : Nat) :
    byteOffset (c :: s) (caret + 1) = c.utf8Size + byteOffset s caret := by
  rw [byteOffset, List.take_succ_cons, byteSize_cons, byteOffset]

lemma byteOffset_length_append (front back : Text) :
    byteOffset (front ++ back) front.length = byteSize front := by
  rw [byteOffset, List.take_left]

lemma byteOffset_mono (s : Text) : Monotone (byteOffset s) :=
  fun _ _ hle => byteSize_le_of_isPrefix (List.take_prefix_take_left hle)

lemma byteOffset_le_byteSize (s : Text) (caret : Nat) : byteOffset s caret ≤ byteSize s :=
  byteSize_le_of_isPrefix (List.take_prefix caret s)

lemma isBoundary_byteOffset (s : Text) (caret : Nat) :
    IsBoundary (encode s) (byteOffset s caret) :=
  isBoundary_encode_iff.mpr ⟨s.take caret, s.drop caret, (List.take_append_drop caret s).symm, rfl⟩

lemma exists_byteOffset_eq (h : IsBoundary (encode s) offset) :
    ∃ caret ≤ s.length, byteOffset s caret = offset := by
  obtain ⟨front, back, rfl, rfl⟩ := isBoundary_encode_iff.mp h
  exact ⟨front.length, by simp, byteOffset_length_append front back⟩

lemma charOffset_le_length (s : Text) (offset : Nat) : charOffset s offset ≤ s.length := by
  fun_induction charOffset s offset with
  | case1 => exact le_rfl
  | case2 => exact Nat.zero_le _
  | case3 c s offset _ ih => simpa using ih

/-- A caret in the text is up to that of an offset if and only if its own offset is. -/
lemma le_charOffset_iff (hcaret : caret ≤ s.length) :
    caret ≤ charOffset s offset ↔ byteOffset s caret ≤ offset := by
  induction s generalizing caret offset with
  | nil =>
    obtain rfl : caret = 0 := Nat.le_zero.mp hcaret
    simp
  | cons c s ih =>
    cases caret with
    | zero => simp
    | succ caret =>
      rw [byteOffset_cons, charOffset]
      by_cases hinside : offset < c.utf8Size
      · rw [if_pos hinside]
        omega
      · rw [if_neg hinside, Nat.add_le_add_iff_right,
          ih (by simpa using hcaret)]
        omega

lemma byteOffset_charOffset_le (s : Text) (offset : Nat) :
    byteOffset s (charOffset s offset) ≤ offset :=
  (le_charOffset_iff (charOffset_le_length s offset)).mp le_rfl

lemma charOffset_mono (s : Text) : Monotone (charOffset s) := by
  intro offset later hle
  rw [le_charOffset_iff (charOffset_le_length s offset)]
  exact (byteOffset_charOffset_le s offset).trans hle

lemma charOffset_byteOffset (s : Text) (caret : Nat) :
    charOffset s (byteOffset s caret) = min caret s.length := by
  induction s generalizing caret with
  | nil => simp [charOffset]
  | cons c s ih =>
    have hpos := c.utf8Size_pos
    cases caret with
    | zero => simp [charOffset, hpos]
    | succ caret =>
      rw [byteOffset_cons, charOffset, if_neg (by omega), Nat.add_sub_cancel_left, ih,
        List.length_cons, Nat.add_min_add_right]

lemma charOffset_byteSize {front back : Text} (h : s = front ++ back) :
    charOffset s (byteSize front) = front.length := by
  rw [h, ← byteOffset_length_append front back, charOffset_byteOffset, List.length_append,
    Nat.min_eq_left (Nat.le_add_right _ _)]

lemma charOffset_min_byteSize (s : Text) (offset : Nat) :
    charOffset s (min offset (byteSize s)) = charOffset s offset := by
  refine le_antisymm (charOffset_mono s (Nat.min_le_left _ _)) ?_
  rw [le_charOffset_iff (charOffset_le_length s offset), Nat.le_min]
  exact ⟨byteOffset_charOffset_le s offset, byteOffset_le_byteSize s _⟩

/-- The offset of the caret of an offset is the last boundary up to it. -/
lemma isGreatest_byteOffset_charOffset (s : Text) (offset : Nat) :
    IsGreatest {start | IsBoundary (encode s) start ∧ start ≤ min offset (byteSize s)}
      (byteOffset s (charOffset s offset)) := by
  refine ⟨⟨isBoundary_byteOffset s _, ?_⟩, ?_⟩
  · rw [← charOffset_min_byteSize]
    exact byteOffset_charOffset_le s _
  · rintro start ⟨hboundary, hle⟩
    obtain ⟨caret, hcaret, rfl⟩ := exists_byteOffset_eq hboundary
    apply byteOffset_mono
    rw [le_charOffset_iff hcaret]
    exact hle.trans (Nat.min_le_left _ _)

example : (List.range 9).map (charOffset "aé😀".toList) = [0, 1, 1, 2, 2, 2, 2, 3, 3] := by decide

/-- Looking back from an offset finds the offset of its caret. -/
lemma boundaryUpTo?_encode (s : Text) (offset : Nat) :
    boundaryUpTo? (encode s) (min offset (byteSize s)) =
      some (byteOffset s (charOffset s offset)) := by
  have hzero : IsBoundary (encode s) 0 := isBoundary_byteSize [] s
  obtain ⟨last, hlast, hgreatest⟩ := boundaryUpTo?_eq_some hzero (min offset (byteSize s))
  rw [hlast, hgreatest.unique (isGreatest_byteOffset_charOffset s offset)]

end Text

end ScriptAssist
