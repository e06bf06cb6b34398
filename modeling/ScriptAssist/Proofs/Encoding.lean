import Mathlib.Tactic.Lemma
import ScriptAssist.Text.Utf8

/-!
# Encoded texts

What UTF-8 keeps of a text. Strict reading undoes writing, and the line feeds of a text are
exactly the bytes of that value in its encoding, so lines can be cut before they are read.
-/

namespace ScriptAssist

lemma Text.length_le_byteSize (s : Text) : s.length ≤ Utf8.byteSize s := by
  induction s with
  | nil => simp
  | cons c s ih =>
    have hsize := c.utf8Size_pos
    rw [List.length_cons, Utf8.byteSize_cons]
    omega

namespace Utf8

/-! ### Reading what was written -/

lemma scanFrom_start {b : UInt8} {reader : Reader} (h : Reader.start b = ([], reader))
    (rest : Bytes) : scanFrom .between (b :: rest) = scanFrom reader rest := by
  rw [scanFrom, Reader.step, h]
  rfl

lemma scanFrom_inside_last {low high b : UInt8} (hlow : low.toNat ≤ b.toNat)
    (hhigh : b.toNat ≤ high.toNat) (value : Nat) (rest : Bytes) :
    scanFrom (.inside 1 low high value) (b :: rest) =
      some (Char.ofNat (value * 64 + (b.toNat - 0x80))) :: scanFrom .between rest := by
  have hin : (low ≤ b && b ≤ high) = true := by
    simp [UInt8.le_iff_toNat_le, hlow, hhigh]
  rw [scanFrom, Reader.step, if_pos hin]
  simp

lemma scanFrom_inside_more {low high b : UInt8} (hlow : low.toNat ≤ b.toNat)
    (hhigh : b.toNat ≤ high.toNat) (owed value : Nat) (rest : Bytes) :
    scanFrom (.inside (owed + 2) low high value) (b :: rest) =
      scanFrom (.inside (owed + 1) 0x80 0xBF (value * 64 + (b.toNat - 0x80))) rest := by
  have hin : (low ≤ b && b ≤ high) = true := by
    simp [UInt8.le_iff_toNat_le, hlow, hhigh]
  rw [scanFrom, Reader.step, if_pos hin]
  simp

/-- The byte that carries the last six bits of `n` behind a first byte. -/
def tailByte (n : Nat) : UInt8 :=
  UInt8.ofNat (n % 0x40 + 0x80)

lemma toNat_tailByte (n : Nat) : (tailByte n).toNat = n % 64 + 128 := by
  rw [tailByte, UInt8.toNat_ofNat_of_lt' (show _ < 256 by omega)]

lemma scanFrom_one {v : Nat} (h : v ≤ 0x7F) (rest : Bytes) :
    scanFrom .between (UInt8.ofNat v :: rest) = some (Char.ofNat v) :: scanFrom .between rest := by
  have hfirst : (UInt8.ofNat v).toNat = v := UInt8.toNat_ofNat_of_lt' (show _ < 256 by omega)
  have hsmall : v < 0x80 := by omega
  rw [scanFrom, Reader.step, Reader.start]
  simp [hfirst, hsmall]

lemma scanFrom_two {v : Nat} (h : 0x7F < v) (h' : v ≤ 0x7FF) (rest : Bytes) :
    scanFrom .between (UInt8.ofNat (v / 64 % 0x20 + 0xC0) :: tailByte v :: rest) =
      some (Char.ofNat v) :: scanFrom .between rest := by
  have hstart : Reader.start (UInt8.ofNat (v / 64 % 0x20 + 0xC0)) =
      ([], .inside 1 0x80 0xBF (v / 64)) := by
    have hfirst : (UInt8.ofNat (v / 64 % 0x20 + 0xC0)).toNat = v / 64 + 0xC0 := by
      rw [UInt8.toNat_ofNat_of_lt' (show _ < 256 by omega)]
      omega
    rw [Reader.start, hfirst, if_neg (by omega), if_neg (by omega), if_pos (by omega)]
    simp
  have htail := toNat_tailByte v
  have hlow : (0x80 : UInt8).toNat ≤ (tailByte v).toNat := by simp [htail]
  have hhigh : (tailByte v).toNat ≤ (0xBF : UInt8).toNat := by simp [htail]; omega
  rw [scanFrom_start hstart, scanFrom_inside_last hlow hhigh, htail]
  rw [show v / 64 * 64 + (v % 64 + 128 - 0x80) = v by omega]

lemma start_three {v : Nat} (h : 0x7FF < v) (h' : v ≤ 0xFFFF)
    (hvalid : v < 0xD800 ∨ 0xDFFF < v) :
    ∃ low high : UInt8, Reader.start (UInt8.ofNat (v / 4096 % 0x10 + 0xE0)) =
        ([], .inside 2 low high (v / 4096)) ∧
      low.toNat ≤ (tailByte (v / 64)).toNat ∧ (tailByte (v / 64)).toNat ≤ high.toNat := by
  have hfirst : (UInt8.ofNat (v / 4096 % 0x10 + 0xE0)).toNat = v / 4096 + 0xE0 := by
    rw [UInt8.toNat_ofNat_of_lt' (show _ < 256 by omega)]
    omega
  have htail := toNat_tailByte (v / 64)
  rw [Reader.start, hfirst, htail, if_neg (by omega), if_neg (by omega), if_neg (by omega)]
  by_cases hlowest : v / 4096 = 0
  · rw [if_pos (by omega), hlowest]
    exact ⟨0xA0, 0xBF, rfl, by simp; omega, by simp; omega⟩
  · rw [if_neg (by omega)]
    by_cases hsurrogate : v / 4096 = 0xD
    · rw [if_pos (by omega), hsurrogate]
      exact ⟨0x80, 0x9F, rfl, by simp, by simp; omega⟩
    · rw [if_neg (by omega), if_pos (by omega)]
      exact ⟨0x80, 0xBF, by simp, by simp, by simp; omega⟩

lemma start_four {v : Nat} (h : 0xFFFF < v) (h' : v < 0x110000) :
    ∃ low high : UInt8, Reader.start (UInt8.ofNat (v / 262144 % 0x08 + 0xF0)) =
        ([], .inside 3 low high (v / 262144)) ∧
      low.toNat ≤ (tailByte (v / 4096)).toNat ∧ (tailByte (v / 4096)).toNat ≤ high.toNat := by
  have hfirst : (UInt8.ofNat (v / 262144 % 0x08 + 0xF0)).toNat = v / 262144 + 0xF0 := by
    rw [UInt8.toNat_ofNat_of_lt' (show _ < 256 by omega)]
    omega
  have htail := toNat_tailByte (v / 4096)
  rw [Reader.start, hfirst, htail, if_neg (by omega), if_neg (by omega), if_neg (by omega),
    if_neg (by omega), if_neg (by omega), if_neg (by omega)]
  by_cases hlowest : v / 262144 = 0
  · rw [if_pos (by omega), hlowest]
    exact ⟨0x90, 0xBF, rfl, by simp; omega, by simp; omega⟩
  · rw [if_neg (by omega)]
    by_cases hhighest : v / 262144 = 4
    · rw [if_neg (by omega), if_pos (by omega), hhighest]
      exact ⟨0x80, 0x8F, rfl, by simp, by simp; omega⟩
    · rw [if_pos (by omega)]
      exact ⟨0x80, 0xBF, by simp, by simp, by simp; omega⟩

lemma tailByte_between (n : Nat) : (0x80 : UInt8).toNat ≤ (tailByte n).toNat ∧
    (tailByte n).toNat ≤ (0xBF : UInt8).toNat := by
  rw [toNat_tailByte]
  constructor
  · simp
  · simp
    omega

lemma scanFrom_three {v : Nat} (h : 0x7FF < v) (h' : v ≤ 0xFFFF)
    (hvalid : v < 0xD800 ∨ 0xDFFF < v) (rest : Bytes) :
    scanFrom .between
        (UInt8.ofNat (v / 4096 % 0x10 + 0xE0) :: tailByte (v / 64) :: tailByte v :: rest) =
      some (Char.ofNat v) :: scanFrom .between rest := by
  obtain ⟨low, high, hstart, hlow, hhigh⟩ := start_three h h' hvalid
  have hlast := tailByte_between v
  rw [scanFrom_start hstart, scanFrom_inside_more hlow hhigh 0,
    scanFrom_inside_last hlast.1 hlast.2, toNat_tailByte, toNat_tailByte]
  rw [show (v / 4096 * 64 + (v / 64 % 64 + 128 - 0x80)) * 64 + (v % 64 + 128 - 0x80) = v by
    omega]

lemma scanFrom_four {v : Nat} (h : 0xFFFF < v) (h' : v < 0x110000) (rest : Bytes) :
    scanFrom .between
        (UInt8.ofNat (v / 262144 % 0x08 + 0xF0) :: tailByte (v / 4096) :: tailByte (v / 64) ::
          tailByte v :: rest) =
      some (Char.ofNat v) :: scanFrom .between rest := by
  obtain ⟨low, high, hstart, hlow, hhigh⟩ := start_four h h'
  have hthird := tailByte_between (v / 64)
  have hlast := tailByte_between v
  rw [scanFrom_start hstart, scanFrom_inside_more hlow hhigh 1,
    scanFrom_inside_more hthird.1 hthird.2 0, scanFrom_inside_last hlast.1 hlast.2,
    toNat_tailByte, toNat_tailByte, toNat_tailByte]
  rw [show ((v / 262144 * 64 + (v / 4096 % 64 + 128 - 0x80)) * 64 +
    (v / 64 % 64 + 128 - 0x80)) * 64 + (v % 64 + 128 - 0x80) = v by omega]

lemma scanFrom_encodeChar (c : Char) (rest : Bytes) :
    scanFrom .between (String.utf8EncodeChar c ++ rest) = some c :: scanFrom .between rest := by
  have hchar : Char.ofNat c.val.toNat = c := Char.ofNat_toNat c
  have hvalid : c.val.toNat < 0xD800 ∨ 0xDFFF < c.val.toNat ∧ c.val.toNat < 0x110000 := c.valid
  fun_cases String.utf8EncodeChar c with
  | case1 v h =>
    have hscan := scanFrom_one h rest
    rwa [hchar] at hscan
  | case2 v h h' =>
    have hscan := scanFrom_two (by omega) h' rest
    rwa [hchar] at hscan
  | case3 v h h' h'' =>
    have hscan := scanFrom_three (by omega) h'' (by omega) rest
    rwa [hchar] at hscan
  | case4 v h h' h'' =>
    have hscan := scanFrom_four (v := v) (by omega) (by omega) rest
    rwa [hchar] at hscan

lemma scanFrom_encode (s : Text) (rest : Bytes) :
    scanFrom .between (encode s ++ rest) = s.map some ++ scanFrom .between rest := by
  induction s with
  | nil => rfl
  | cons c s ih => rw [encode_cons, List.append_assoc, scanFrom_encodeChar, ih]; rfl

lemma scan_encode (s : Text) : scan (encode s) = s.map some := by
  have h := scanFrom_encode s []
  rwa [List.append_nil, scanFrom, List.append_nil] at h

theorem decode?_encode (s : Text) : decode? (encode s) = some s := by
  rw [decode?, scan_encode, List.mapM_map]
  exact (List.mapM_pure (f := id)).trans (by rw [List.map_id]; rfl)

theorem decodeLossy_encode (s : Text) : decodeLossy (encode s) = s := by
  rw [decodeLossy, scan_encode, List.map_map]
  exact List.map_id s

/-! ### Line feeds in encoded texts -/

lemma lineFeed_notMem_encodeChar {c : Char} (hc : c ≠ '\n') :
    lineFeed ∉ String.utf8EncodeChar c := by
  have hhigh : ∀ n, 128 ≤ n → n < 256 → lineFeed ≠ UInt8.ofNat n := by
    intro n hlow hn heq
    have hvalue := UInt8.toNat_ofNat_of_lt' (show n < 256 from hn)
    rw [← heq] at hvalue
    have hten : lineFeed.toNat = 10 := rfl
    omega
  fun_cases String.utf8EncodeChar c with
  | case1 v h =>
    intro hmem
    have heq : lineFeed = UInt8.ofNat v := List.mem_singleton.mp hmem
    have hvalue : v = 10 := by
      have hv := UInt8.toNat_ofNat_of_lt' (show v < 256 by omega)
      rw [← heq] at hv
      exact hv.symm
    apply hc
    rw [← Char.ofNat_toNat c, show c.toNat = v from rfl, hvalue]
  | case2 v h h' =>
    simp only [List.mem_cons, List.not_mem_nil, or_false, not_or]
    exact ⟨hhigh _ (by omega) (by omega), hhigh _ (by omega) (by omega)⟩
  | case3 v h h' h'' =>
    simp only [List.mem_cons, List.not_mem_nil, or_false, not_or]
    exact ⟨hhigh _ (by omega) (by omega), hhigh _ (by omega) (by omega),
      hhigh _ (by omega) (by omega)⟩
  | case4 v h h' h'' =>
    simp only [List.mem_cons, List.not_mem_nil, or_false, not_or]
    exact ⟨hhigh _ (by omega) (by omega), hhigh _ (by omega) (by omega),
      hhigh _ (by omega) (by omega), hhigh _ (by omega) (by omega)⟩

@[simp] lemma encodeChar_lineFeed : String.utf8EncodeChar '\n' = [lineFeed] := rfl

lemma lineFeed_notMem_encode {s : Text} (hs : '\n' ∉ s) : lineFeed ∉ encode s := by
  intro hmem
  obtain ⟨c, hc, hbyte⟩ := List.mem_flatMap.mp hmem
  exact lineFeed_notMem_encodeChar (fun h => hs (h ▸ hc)) hbyte

/-- The line feeds of a text are the bytes of that value in its encoding. -/
lemma count_encode_lineFeed (s : Text) : (encode s).count lineFeed = s.count '\n' := by
  induction s with
  | nil => rfl
  | cons c s ih =>
    rw [encode_cons, List.count_append, ih, List.count_cons]
    by_cases hc : c = '\n'
    · subst hc
      simp [Nat.add_comm]
    · rw [List.count_eq_zero_of_not_mem (lineFeed_notMem_encodeChar hc)]
      simp [hc]

/-- The bytes before a caret encode the characters before it. -/
lemma take_encode (s : Text) (caret : Nat) :
    (encode s).take (byteSize (s.take caret)) = encode (s.take caret) := by
  have hsplit : encode s = encode (s.take caret) ++ encode (s.drop caret) := by
    rw [← encode_append, List.take_append_drop]
  rw [hsplit, ← length_encode, List.take_left]

end Utf8

end ScriptAssist
