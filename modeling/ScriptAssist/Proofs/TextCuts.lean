import Mathlib.Data.List.Induction
import Mathlib.Tactic.Lemma
import Mathlib.Tactic.SplitIfs
import ScriptAssist.Text.Basic

/-!
# Cuts of texts

The search for a text finds its first occurrence, and an occurrence without a mark, such as a line
feed or a quote, lies on one side of every mark. So a search can skip whole lines in which the text
does not occur.
-/

namespace ScriptAssist.Text

lemma append_of_cutAt? {needle s front rest : Text} (h : cutAt? needle s = some (front, rest)) :
    s = front ++ needle ++ rest := by
  induction s generalizing front with
  | nil =>
    simp only [cutAt?, Option.ite_none_right_eq_some, List.isEmpty_iff, Option.some.injEq,
      Prod.mk.injEq] at h
    obtain ⟨rfl, rfl, rfl⟩ := h
    rfl
  | cons c s ih =>
    rw [cutAt?] at h
    split at h
    · next after hafter =>
      simp only [Option.some.injEq, Prod.mk.injEq] at h
      obtain ⟨rfl, rfl⟩ := h
      exact after?_eq_some_iff.mp hafter
    · simp only [Option.map_eq_some_iff, Prod.mk.injEq] at h
      obtain ⟨⟨front', rest'⟩, hcut, rfl, rfl⟩ := h
      rw [ih hcut]
      rfl

lemma after?_append (start rest : Text) : after? start (start ++ rest) = some rest :=
  after?_eq_some_iff.mpr rfl

lemma cutAt?_self_append (needle rest : Text) :
    cutAt? needle (needle ++ rest) = some ([], rest) := by
  cases needle with
  | nil => cases rest <;> simp [cutAt?, after?]
  | cons a needle =>
    rw [List.cons_append, cutAt?, ← List.cons_append, after?_append]

lemma cutAt?_cons_of_after?_eq_none {needle : Text} {c : Char} {s : Text}
    (h : after? needle (c :: s) = none) :
    cutAt? needle (c :: s) = (cutAt? needle s).map fun around => (c :: around.1, around.2) := by
  rw [cutAt?, h]

/-- A text occurs in another one if and only if it stands between two parts of that. -/
theorem occursIn_iff_isInfix {needle s : Text} : occursIn needle s = true ↔ needle <:+: s := by
  rw [occursIn, Option.isSome_iff_exists]
  constructor
  · rintro ⟨⟨front, rest⟩, hcut⟩
    exact ⟨front, rest, (append_of_cutAt? hcut).symm⟩
  · rintro ⟨front, rest, rfl⟩
    induction front with
    | nil => exact ⟨_, cutAt?_self_append needle rest⟩
    | cons c front ih =>
      obtain ⟨around, hcut⟩ := ih
      cases hafter : after? needle (c :: (front ++ needle ++ rest)) with
      | some after =>
        refine ⟨([], after), ?_⟩
        simp only [List.cons_append, cutAt?, hafter]
      | none =>
        refine ⟨(c :: around.1, around.2), ?_⟩
        rw [List.cons_append, List.cons_append, cutAt?_cons_of_after?_eq_none hafter, hcut]
        rfl

/-- Characters other than the first one of the needle are passed over. -/
lemma cutAt?_append_of_notMem {a : Char} {front : Text} (hfront : a ∉ front) (needle s : Text) :
    cutAt? (a :: needle) (front ++ s) =
      (cutAt? (a :: needle) s).map fun around => (front ++ around.1, around.2) := by
  induction front with
  | nil => simp
  | cons c front ih =>
    have hc : a ≠ c := List.ne_of_not_mem_cons hfront
    have hrest : a ∉ front := List.not_mem_of_not_mem_cons hfront
    have hafter : after? (a :: needle) (c :: (front ++ s)) = none := by
      rw [after?, if_neg hc]
    rw [List.cons_append, cutAt?_cons_of_after?_eq_none hafter, ih hrest, Option.map_map]
    rfl

/-- What stands in a text with a mark in it, and lacks the mark, stands on one side of it. -/
lemma prefix_append_mark {mark : Char} {needle front line back : Text} (hneedle : mark ∉ needle)
    (h : front ++ needle <+: line ++ mark :: back) :
    front ++ needle <+: line ∨
      ∃ rest, front = line ++ mark :: rest ∧ rest ++ needle <+: back := by
  obtain ⟨after, hafter⟩ := h
  rw [List.append_assoc] at hafter
  rcases List.append_eq_append_iff.mp hafter with ⟨more, hline, hmore⟩ | ⟨more, hfront, hmore⟩
  · rcases List.append_eq_append_iff.mp hmore with ⟨last, hlast, -⟩ | ⟨last, hlast, hmark⟩
    · exact .inl ⟨last, by rw [hline, hlast, List.append_assoc]⟩
    · cases last with
      | nil => exact .inl ⟨[], by rw [hline, hlast]; simp⟩
      | cons c last =>
        rw [List.cons_append, List.cons.injEq] at hmark
        exact absurd (by simp [hlast, ← hmark.1]) hneedle
  · cases more with
    | nil =>
      cases needle with
      | nil => exact .inl ⟨[], by simp [hfront]⟩
      | cons c needle =>
        rw [List.nil_append, List.cons_append, List.cons.injEq] at hmore
        exact absurd (by simp [← hmore.1]) hneedle
    | cons c more =>
      rw [List.cons_append, List.cons.injEq] at hmore
      exact .inr ⟨more, by rw [hfront, hmore.1], after, by rw [List.append_assoc, hmore.2]⟩

/-- Characters that the needle lacks add no place where it occurs. -/
lemma isInfix_of_append {needle front back : Text} (hne : needle ≠ [])
    (hback : ∀ c ∈ back, c ∉ needle) (h : needle <:+: front ++ back) : needle <:+: front := by
  induction back using List.reverseRecOn with
  | nil => simpa using h
  | append_singleton back c ih =>
    rw [← List.append_assoc, List.infix_concat_iff, List.suffix_concat_iff] at h
    rcases h with (hnil | ⟨rest, hrest, -⟩) | hinfix
    · exact absurd hnil hne
    · exact absurd (by simp [hrest]) (hback c (by simp))
    · exact ih (fun other hother => hback other (by simp [hother])) hinfix

/-- A text in which the needle does not occur is passed over up to a mark that the needle lacks. -/
lemma cutAt?_append_mark {mark : Char} {needle line : Text} (hneedle : mark ∉ needle)
    (hline : ¬ needle <:+: line) (s : Text) :
    cutAt? needle (line ++ mark :: s) =
      (cutAt? needle s).map fun around => (line ++ mark :: around.1, around.2) := by
  have hafter : ∀ part : Text, ¬ needle <:+: part → after? needle (part ++ mark :: s) = none := by
    intro part hpart
    rw [Option.eq_none_iff_forall_ne_some]
    intro rest hrest
    have hstart : [] ++ needle <+: part ++ mark :: s :=
      ⟨rest, (after?_eq_some_iff.mp hrest).symm⟩
    rcases prefix_append_mark hneedle hstart with hline | ⟨_, hnil, -⟩
    · exact hpart hline.isInfix
    · exact absurd hnil (by simp)
  induction line with
  | nil => exact cutAt?_cons_of_after?_eq_none (hafter [] hline)
  | cons c line ih =>
    have hrest : ¬ needle <:+: line := fun h => hline (h.trans (List.suffix_cons c line).isInfix)
    have hskip : cutAt? needle (c :: (line ++ mark :: s)) =
        (cutAt? needle (line ++ mark :: s)).map fun around => (c :: around.1, around.2) :=
      cutAt?_cons_of_after?_eq_none (hafter (c :: line) hline)
    rw [List.cons_append, hskip, ih hrest, Option.map_map]
    rfl

/-- A text whose first character stands nowhere else in it is found where it first stands. -/
lemma cutAt?_append_self {a : Char} {needle front : Text} (ha : a ∉ needle)
    (hfront : ¬ a :: needle <:+: front) (rest : Text) :
    cutAt? (a :: needle) (front ++ (a :: needle ++ rest)) = some (front, rest) := by
  induction front with
  | nil => exact cutAt?_self_append (a :: needle) rest
  | cons c front ih =>
    have hafter : after? (a :: needle) (c :: (front ++ (a :: needle ++ rest))) = none := by
      rw [Option.eq_none_iff_forall_ne_some]
      intro more hmore
      have hstart : [a] ++ needle <+: c :: front ++ a :: (needle ++ rest) :=
        ⟨more, (after?_eq_some_iff.mp hmore).symm⟩
      rcases prefix_append_mark ha hstart with hinfix | ⟨_, hlength, -⟩
      · exact hfront hinfix.isInfix
      · exact absurd (congrArg List.length hlength) (by simp)
    rw [List.cons_append, cutAt?_cons_of_after?_eq_none hafter,
      ih fun h => hfront (h.trans (List.suffix_cons c front).isInfix)]
    rfl

/-- The characters before a caret that has moved with the text behind an insertion. -/
lemma take_insert {front back : Text} {caret : Nat} (hfront : front.length ≤ caret)
    (hback : caret ≤ front.length + back.length) (put rest : Text) :
    (front ++ put ++ back ++ rest).take (caret + put.length) =
      front ++ put ++ back.take (caret - front.length) := by
  have hwhole : (front ++ put).length ≤ caret + put.length := by
    rw [List.length_append]
    omega
  have hnone : caret + put.length - (front ++ put ++ back).length = 0 := by
    rw [List.length_append, List.length_append]
    omega
  have hpart : caret + put.length - (front ++ put).length = caret - front.length := by
    rw [List.length_append]
    omega
  rw [List.take_append, List.take_append, List.take_of_length_le hwhole, hnone, hpart,
    List.take_zero, List.append_nil]

end ScriptAssist.Text
