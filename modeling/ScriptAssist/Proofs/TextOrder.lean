import Mathlib.Data.Char
import Mathlib.Data.List.Lex
import Mathlib.Order.Lattice
import Mathlib.Tactic.Lemma
import ScriptAssist.Text.Utf8

/-!
# The order of texts

Texts are ordered like lists of characters, and their encodings like lists of bytes. A search in a
sorted list finds the least of the wanted entries that it holds.
-/

namespace ScriptAssist.Text

variable {s t u : Text}

lemma precedes_iff_lt : precedes s t = true ↔ s < t := by
  induction t generalizing s with
  | nil => simp [precedes]
  | cons b t ih =>
    cases s with
    | nil => simp [precedes]
    | cons a s => simp [precedes, ih, List.cons_lt_cons_iff]

lemma precedes_trans (h : precedes s t = true) (h' : precedes t u = true) :
    precedes s u = true := by
  rw [precedes_iff_lt] at h h' ⊢
  exact lt_trans h h'

lemma precedes_self (s : Text) : precedes s s = false := by
  rw [← Bool.not_eq_true, precedes_iff_lt]
  exact lt_irrefl s

lemma notAfter_iff_le : notAfter s t = true ↔ s ≤ t := by
  rw [notAfter, Bool.not_eq_true', ← Bool.not_eq_true, precedes_iff_lt]
  exact not_lt

lemma eq_of_not_precedes (h : precedes s t = false) (h' : precedes t s = false) : s = t := by
  rw [← Bool.not_eq_true, precedes_iff_lt] at h h'
  exact le_antisymm (not_lt.mp h') (not_lt.mp h)

end ScriptAssist.Text

namespace ScriptAssist

instance linearOrderByte : LinearOrder UInt8 where
  le_refl := UInt8.le_refl
  le_trans _ _ _ := UInt8.le_trans
  le_antisymm _ _ := UInt8.le_antisymm
  le_total := UInt8.le_total
  lt_iff_le_not_ge a b := by
    rw [UInt8.lt_iff_toNat_lt, UInt8.le_iff_toNat_le, UInt8.le_iff_toNat_le]
    omega
  toDecidableLE := inferInstance
  toDecidableLT := inferInstance
  toDecidableEq := inferInstance

section Sorted

variable {α : Type} [LinearOrder α] {a : α} {entries : List α}

lemma lt_append (front : List α) {back : List α} (h : back ≠ []) : front < front ++ back := by
  obtain ⟨c, rest, rfl⟩ := List.exists_cons_of_ne_nil h
  have hnil : ([] : List α) < c :: rest := List.nil_lt_cons c rest
  have hfront : front ++ [] < front ++ c :: rest := List.append_left_lt hnil
  rwa [List.append_nil] at hfront

lemma pairwise_le_mergeSort {le : α → α → Bool} (hle : ∀ a b, le a b = true ↔ a ≤ b)
    (entries : List α) : (entries.mergeSort le).Pairwise (· ≤ ·) := by
  have hsorted : (entries.mergeSort le).Pairwise fun a b => le a b = true := by
    apply List.pairwise_mergeSort
    · intro a b c hab hbc
      exact (hle a c).mpr (le_trans ((hle a b).mp hab) ((hle b c).mp hbc))
    · intro a b
      rw [Bool.or_eq_true, hle, hle]
      exact le_total a b
  exact hsorted.imp fun {a b} h => (hle a b).mp h

/-- The first of a sorted list's entries that is wanted is the least one. -/
lemma find?_eq_some_iff_of_sorted {wanted : α → Bool} (hsorted : entries.Pairwise (· ≤ ·)) :
    entries.find? wanted = some a ↔
      a ∈ entries ∧ wanted a = true ∧ ∀ b ∈ entries, wanted b = true → a ≤ b := by
  rw [List.find?_eq_some_iff_append]
  constructor
  · rintro ⟨ha, before, after, rfl, hbefore⟩
    refine ⟨by simp, ha, fun b hb hwanted => ?_⟩
    rcases List.mem_append.mp hb with hfront | hback
    · have hunwanted := hbefore b hfront
      rw [hwanted] at hunwanted
      exact absurd hunwanted (by decide)
    · rcases List.mem_cons.mp hback with rfl | hafter
      · exact le_refl b
      · exact (List.pairwise_cons.mp (List.pairwise_append.mp hsorted).2.1).1 b hafter
  · rintro ⟨hmem, ha, hleast⟩
    obtain ⟨before, after, rfl, hbefore⟩ := List.eq_append_cons_of_mem hmem
    refine ⟨ha, before, after, rfl, fun b hb => ?_⟩
    by_contra hwanted
    have hle : b ≤ a := (List.pairwise_append.mp hsorted).2.2 b hb a List.mem_cons_self
    have hge := hleast b (by simp [hb]) (by simpa using hwanted)
    exact hbefore (le_antisymm hge hle ▸ hb)

end Sorted

end ScriptAssist
