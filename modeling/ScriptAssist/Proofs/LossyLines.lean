import Mathlib.Data.List.DropRight
import Mathlib.Tactic.Lemma
import Mathlib.Tactic.SplitIfs
import ScriptAssist.Text.Utf8

/-!
# Lines of any bytes

Bytes that are no text are read leniently, but the characters of one byte, such as line feeds and
points, are never lost or made up: no sequence of bytes reaches across one. So what stands before
one is read independently of what follows it, and bytes can be cut behind any of their line feeds.
-/

namespace ScriptAssist

lemma Text.length_splitOn (mark : Char) (s : Text) :
    (s.splitOn mark).length = s.count mark + 1 := by
  induction s with
  | nil => rfl
  | cons c s ih =>
    rw [List.splitOn_cons_eq_if_modifyHead, List.count_cons]
    split_ifs
    · rw [List.length_cons, ih]
    · rw [List.length_modifyHead, ih, Nat.add_zero]

namespace Utf8

/-- A byte that is a character by itself. -/
structure IsSingle (b : UInt8) (c : Char) : Prop where
  toChar : Char.ofNat b.toNat = c
  pos : 0 < b.toNat
  small : b.toNat < 0x80

lemma isSingle_lineFeed : IsSingle lineFeed '\n' :=
  ⟨rfl, by decide, by decide⟩

lemma isSingle_point : IsSingle point '.' :=
  ⟨rfl, by decide, by decide⟩

/-- The byte between the names of a path. -/
def slash : UInt8 := 0x2F

lemma isSingle_slash : IsSingle slash '/' :=
  ⟨rfl, by decide, by decide⟩

lemma scanFrom_cons (reader : Reader) (b : UInt8) (bytes : Bytes) :
    scanFrom reader (b :: bytes) = (reader.step b).1 ++ scanFrom (reader.step b).2 bytes := by
  cases reader <;> rfl

/-- The character that a reader is inside, if any, takes more than one byte. -/
def Reader.IsWide : Reader → Prop
  | .between => True
  | .inside owed low _ value =>
    0x80 ≤ low.toNat ∧ 2 ≤ if owed ≤ 1 then value else value * 64 + (low.toNat - 0x80)

section Singles

variable {mark b : UInt8} {c : Char} {reader : Reader}

lemma IsSingle.ofNat_eq_iff (h : IsSingle mark c) {n : Nat} :
    Char.ofNat n = c ↔ n = mark.toNat := by
  obtain ⟨rfl, hpos, hsmall⟩ := h
  have hvalue : ∀ n, n.isValidChar → (Char.ofNat n).val.toNat = n := by
    intro n hvalid
    have hchar : Char.ofNat n = Char.ofNatAux n hvalid := dif_pos hvalid
    rw [hchar]
    rfl
  have hmark := hvalue mark.toNat (.inl (by omega))
  constructor
  · intro h
    rw [← h] at hmark
    by_cases hvalid : n.isValidChar
    · exact (hvalue n hvalid).symm.trans hmark
    · -- what is no character is read as the character of value zero
      have hchar : Char.ofNat n = '\x00' := dif_neg hvalid
      rw [hchar] at hmark
      exact absurd hmark hpos.ne
  · rintro rfl
    rfl

namespace Reader

lemma isWide_start (b : UInt8) : (start b).2.IsWide := by
  have hbyte := b.toNat_lt
  rw [start]
  generalize b.toNat = n at hbyte
  repeat' split
  all_goals first | exact trivial | refine ⟨by decide, ?_⟩
  -- the bounds of the next byte keep out the values that one byte would do for
  all_goals first | decide | (split <;> omega)

lemma count_start (h : IsSingle mark c) (b : UInt8) :
    (start b).1.count (some c) = if b = mark then 1 else 0 := by
  have hmark : b = mark ↔ b.toNat = mark.toNat := UInt8.toNat_inj.symm
  by_cases hsmall : b.toNat < 0x80
  · rw [start, if_pos hsmall, List.count_singleton]
    simp [hmark, h.ofNat_eq_iff]
  · have hother : b ≠ mark := fun heq => hsmall (heq ▸ h.small)
    rw [start, if_neg hsmall, if_neg hother]
    generalize b.toNat = n
    repeat' split
    all_goals rfl

/-- A reader goes on to wide characters only, and finds the single bytes that it reads. -/
lemma IsWide.step (hwide : reader.IsWide) (b : UInt8) :
    (reader.step b).2.IsWide ∧ ∀ mark c, IsSingle mark c →
      (reader.step b).1.count (some c) = if b = mark then 1 else 0 := by
  cases reader with
  | between => exact ⟨isWide_start b, fun mark c h => count_start h b⟩
  | inside owed low high value =>
    obtain ⟨hlow, hvalue⟩ := hwide
    by_cases hin : (low ≤ b && b ≤ high) = true
    · have hbyte : low.toNat ≤ b.toNat := by
        simp [UInt8.le_iff_toNat_le] at hin
        exact hin.1
      have hother : ∀ mark c, IsSingle mark c → b ≠ mark := by
        rintro mark c h rfl
        have hsmall := h.small
        omega
      rw [Reader.step, if_pos hin]
      by_cases howed : owed ≤ 1
      · rw [if_pos howed] at hvalue
        dsimp only
        rw [if_pos howed]
        refine ⟨trivial, fun mark c h => ?_⟩
        rw [if_neg (hother mark c h)]
        refine List.count_eq_zero_of_not_mem ?_
        have hsmall := h.small
        rw [List.mem_singleton, Option.some.injEq, eq_comm, h.ofNat_eq_iff]
        omega
      · rw [if_neg howed] at hvalue
        dsimp only
        rw [if_neg howed]
        refine ⟨⟨by decide, ?_⟩, fun mark c h => (if_neg (hother mark c h)).symm⟩
        split_ifs
        · omega
        · omega
    · rw [Reader.step, if_neg hin]
      exact ⟨isWide_start b, fun mark c h => by rw [List.count_cons, count_start h]; simp⟩

/-- A single byte ends whatever is read: the gap that is left does not depend on it. -/
lemma IsWide.step_single (hwide : reader.IsWide) (h : IsSingle mark c) :
    reader.step mark = (scanFrom reader [] ++ [some c], .between) := by
  have hstart : start mark = ([some c], .between) := by
    rw [start, if_pos h.small, h.toChar]
  cases reader with
  | between => exact hstart
  | inside owed low high value =>
    have hout : (low ≤ mark && mark ≤ high) = false := by
      have hlow := hwide.1
      have hsmall := h.small
      simp [UInt8.le_iff_toNat_le]
      omega
    rw [Reader.step, if_neg (by simp [hout]), hstart]
    rfl

end Reader

lemma count_scanFrom (hwide : reader.IsWide) (h : IsSingle mark c) (bytes : Bytes) :
    (scanFrom reader bytes).count (some c) = bytes.count mark := by
  induction bytes generalizing reader with
  | nil => cases reader <;> rfl
  | cons b bytes ih =>
    obtain ⟨hnext, hcount⟩ := hwide.step b
    rw [scanFrom_cons, List.count_append, hcount mark c h, ih hnext, List.count_cons, Nat.add_comm]
    simp

/-- Lenient reading keeps the characters of one byte, and makes none up. -/
theorem count_decodeLossy (h : IsSingle mark c) (bytes : Bytes) :
    (decodeLossy bytes).count c = bytes.count mark := by
  have hwide : Reader.IsWide .between := trivial
  rw [← count_scanFrom hwide h, decodeLossy, scan, List.count, List.countP_map, List.count]
  refine List.countP_congr fun found _ => ?_
  cases found with
  | none =>
    have hgap : (0xFFFD : Nat) ≠ mark.toNat := by
      have hsmall := h.small
      omega
    have hother : Char.ofNat 0xFFFD ≠ c := fun heq => hgap (h.ofNat_eq_iff.mp heq)
    simpa using hother
  | some c => simp

lemma scanFrom_append_single (hwide : reader.IsWide) (h : IsSingle mark c) (front rest : Bytes) :
    scanFrom reader (front ++ mark :: rest) = scanFrom reader front ++ some c :: scan rest := by
  induction front generalizing reader with
  | nil =>
    rw [List.nil_append, scanFrom_cons, hwide.step_single h, List.append_assoc]
    rfl
  | cons b front ih =>
    rw [List.cons_append, scanFrom_cons, ih (hwide.step b).1, scanFrom_cons, List.append_assoc]

/-- Bytes on the two sides of a single byte are read independently. -/
lemma decodeLossy_append_single (h : IsSingle mark c) (front rest : Bytes) :
    decodeLossy (front ++ mark :: rest) = decodeLossy front ++ c :: decodeLossy rest := by
  have hwide : Reader.IsWide .between := trivial
  rw [decodeLossy, scan, scanFrom_append_single hwide h, List.map_append]
  rfl

lemma mem_decodeLossy_iff (h : IsSingle mark c) {bytes : Bytes} :
    c ∈ decodeLossy bytes ↔ mark ∈ bytes := by
  rw [← List.count_pos_iff, count_decodeLossy h, List.count_pos_iff]

end Singles

/-- Of bytes that are cut anywhere, the lines that end before the cut are read as they would be of
the whole, and one line at most is cut. -/
theorem exists_splitOn_decodeLossy (front rest : Bytes) :
    ∃ kept cut others, (decodeLossy front).splitOn '\n' = kept ++ [cut] ∧
      (decodeLossy (front ++ rest)).splitOn '\n' = kept ++ others ∧
      kept.length = front.count lineFeed := by
  let before := front.rdropWhile fun b => b ≠ lineFeed
  let behind := front.rtakeWhile fun b => b ≠ lineFeed
  have hsplit : before ++ behind = front := List.rdropWhile_append_rtakeWhile
  have hbehind : '\n' ∉ decodeLossy behind := by
    rw [mem_decodeLossy_iff isSingle_lineFeed]
    exact fun hmem => by simpa using List.mem_rtakeWhile_imp hmem
  obtain ⟨kept, cut, others, hfront, hwhole⟩ : ∃ kept cut others,
      (decodeLossy front).splitOn '\n' = kept ++ [cut] ∧
        (decodeLossy (front ++ rest)).splitOn '\n' = kept ++ others := by
    by_cases hbefore : before = []
    · rw [hbefore, List.nil_append] at hsplit
      refine ⟨[], decodeLossy behind, _, ?_, rfl⟩
      rw [← hsplit, List.splitOn_eq_singleton hbehind]
      rfl
    · have hlast : before.getLast hbefore = lineFeed := by
        have hkept := List.rdropWhile_last_not (fun b => decide (b ≠ lineFeed)) front hbefore
        rwa [decide_eq_true_eq, not_not] at hkept
      obtain ⟨first, hends⟩ : ∃ first, before = first ++ [lineFeed] :=
        ⟨before.dropLast, by rw [← hlast, List.dropLast_append_getLast]⟩
      have htext := decodeLossy_append_single isSingle_lineFeed first
      refine ⟨(decodeLossy first).splitOn '\n', decodeLossy behind,
        (decodeLossy (behind ++ rest)).splitOn '\n', ?_, ?_⟩
      · rw [← hsplit, hends, List.append_assoc, List.singleton_append, htext,
          List.splitOn_append_cons_self, List.splitOn_eq_singleton hbehind]
      · rw [← hsplit, hends, List.append_assoc, List.append_assoc, List.singleton_append,
          htext, List.splitOn_append_cons_self]
  refine ⟨kept, cut, others, hfront, hwhole, ?_⟩
  have hlength := Text.length_splitOn '\n' (decodeLossy front)
  rw [hfront, List.length_append, List.length_singleton, count_decodeLossy isSingle_lineFeed]
    at hlength
  exact Nat.add_right_cancel hlength

end Utf8

end ScriptAssist
