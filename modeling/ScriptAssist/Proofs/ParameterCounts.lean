import Mathlib.Data.List.Infix
import ScriptAssist.Proofs.OverloadChoice

/-!
# Counts of parameters

A signature has as many parameters as its parentheses have parts between commas outside all angle
brackets. The count keeps one level for the whole list. As every parameter closes the brackets it
opens, each one starts at level zero again, and only the commas between two of them are counted.
-/

namespace ScriptAssist.Signature

open Text

variable {s front back inner parameter : Text} {parameters : List Text} {level : Int}

/-- How many more angle brackets a text opens than it closes. -/
def depth (s : Text) : Int :=
  s.count '<' - s.count '>'

/-- What may stand between two commas of a signature: it closes all angle brackets that it opens,
none before it is opened, and has commas only between them. -/
structure IsParameter (s : Text) : Prop where
  opened : ∀ front, front <+: s → 0 ≤ depth front
  closed : depth s = 0
  nested : ∀ front, front ++ [','] <+: s → 0 < depth front

instance (s : Text) : Decidable (IsParameter s) :=
  decidable_of_iff
    ((∀ front ∈ s.inits, 0 ≤ depth front ∧ (front ++ [','] <+: s → 0 < depth front)) ∧
      depth s = 0)
    ⟨fun h => ⟨fun front hfront => (h.1 front ((List.mem_inits front s).mpr hfront)).1, h.2,
        fun front hcomma => (h.1 front ((List.mem_inits front s).mpr
          ((List.prefix_append front [',']).trans hcomma))).2 hcomma⟩,
      fun h => ⟨fun front hfront => ⟨h.opened front ((List.mem_inits front s).mp hfront),
        h.nested front⟩, h.closed⟩⟩

/-! ### Levels -/

lemma depth_append (s t : Text) : depth (s ++ t) = depth s + depth t := by
  simp only [depth, List.count_append]
  omega

lemma depth_cons (c : Char) (s : Text) : depth (c :: s) = depth [c] + depth s :=
  depth_append [c] s

/-- One character counts if it is a comma at level zero, and moves the level by its depth. -/
lemma commasAt_cons (level : Int) (c : Char) (s : Text) :
    commasAt level (c :: s) =
      (if c = ',' ∧ level = 0 then 1 else 0) + commasAt (level + depth [c]) s := by
  rw [commasAt]
  by_cases hopen : c = '<'
  · simp [hopen, depth]
  · by_cases hclose : c = '>'
    · simp [hclose, depth, Int.sub_eq_add_neg]
    · have hdepth : depth [c] = 0 := by simp [depth, hopen, hclose]
      rw [if_neg hopen, if_neg hclose, hdepth, Int.add_zero]
      by_cases hcomma : c = ',' ∧ level = 0
      · simp [hcomma, Nat.add_comm]
      · simp [hcomma]

/-- What follows a text is read at the level that the text leaves behind. -/
lemma commasAt_append (level : Int) (s t : Text) :
    commasAt level (s ++ t) = commasAt level s + commasAt (level + depth s) t := by
  induction s generalizing level with
  | nil => simp [commasAt, depth]
  | cons c s ih =>
    rw [List.cons_append, commasAt_cons, commasAt_cons, ih, depth_cons c s, Int.add_assoc level,
      Nat.add_assoc]

/-- No comma is counted if none stands at level zero. -/
lemma commasAt_eq_zero (h : ∀ front, front ++ [','] <+: s → level + depth front ≠ 0) :
    commasAt level s = 0 := by
  induction s generalizing level with
  | nil => rfl
  | cons c s ih =>
    have hfirst : ¬ (c = ',' ∧ level = 0) := by
      rintro ⟨rfl, rfl⟩
      exact h [] (List.prefix_append [','] s) rfl
    rw [commasAt_cons, if_neg hfirst, Nat.zero_add]
    apply ih
    intro front hfront
    rw [Int.add_assoc, ← depth_cons c front]
    exact h (c :: front) ((List.prefix_cons_inj c).mpr hfront)

namespace IsParameter

lemma commasAt_eq_zero (h : IsParameter s) : commasAt 0 s = 0 := by
  apply Signature.commasAt_eq_zero
  intro front hcomma
  have hpositive := h.nested front hcomma
  omega

/-- Behind a parameter the level is what it was before it. -/
lemma commasAt_append_comma (h : IsParameter s) (rest : Text) :
    commasAt 0 (s ++ ',' :: rest) = commasAt 0 rest + 1 := by
  have hcomma : depth [','] = 0 := by decide
  rw [commasAt_append, h.commasAt_eq_zero, h.closed, commasAt_cons, hcomma, if_pos ⟨rfl, rfl⟩]
  simp [Nat.add_comm]

end IsParameter

/-! ### Counts -/

/-- Between parameters there is one comma less than there are parameters. -/
lemma commasAt_joinWith (hne : parameters ≠ [])
    (h : ∀ parameter ∈ parameters, IsParameter parameter) :
    commasAt 0 (joinWith [','] parameters) + 1 = parameters.length := by
  induction parameters with
  | nil => exact absurd rfl hne
  | cons parameter others ih =>
    have hparameter := h parameter List.mem_cons_self
    by_cases hothers : others = []
    · rw [hothers, joinWith_singleton, hparameter.commasAt_eq_zero]
      rfl
    · rw [joinWith_cons ',' parameter hothers, hparameter.commasAt_append_comma,
        ih hothers fun other hother => h other (List.mem_cons_of_mem _ hother)]
      rfl

lemma argumentCount_append_parentheses (hfront : '(' ∉ front) (hback : ')' ∉ back)
    (inner : Text) :
    argumentCount (front ++ '(' :: (inner ++ ')' :: back)) =
      if inner.isEmpty then 0 else commasAt 0 inner + 1 := by
  have hinner : parameters? (front ++ '(' :: (inner ++ ')' :: back)) = some inner :=
    parameters?_eq_some_iff.mpr ⟨front, back, rfl, hfront, hback⟩
  rw [argumentCount, hinner]

lemma argumentCount_of_notMem_opening (h : '(' ∉ s) : argumentCount s = 0 := by
  rw [argumentCount, parameters?, cutAtChar?_eq_none h]
  rfl

/-- A signature whose first opening and last closing parenthesis enclose some parameters takes as
many arguments, however deep the commas within them are nested. Without anything between the
parentheses, or without one of them, it takes none. -/
theorem argumentCount_eq_length (hfront : '(' ∉ front) (hback : ')' ∉ back) :
    (∀ parameters, (∀ parameter ∈ parameters, IsParameter parameter) →
      joinWith [','] parameters ≠ [] →
      argumentCount (front ++ '(' :: (joinWith [','] parameters ++ ')' :: back)) =
        parameters.length) ∧
    argumentCount (front ++ '(' :: ')' :: back) = 0 ∧
    ∀ s, '(' ∉ s ∨ ')' ∉ s → argumentCount s = 0 := by
  refine ⟨fun parameters hparameters hjoined => ?_, ?_, fun s hs => ?_⟩
  · have hne : parameters ≠ [] := by
      rintro rfl
      exact hjoined rfl
    rw [argumentCount_append_parentheses hfront hback, if_neg (by simpa using hjoined),
      commasAt_joinWith hne hparameters]
  · exact argumentCount_append_parentheses hfront hback []
  · exact hs.elim argumentCount_of_notMem_opening argumentCount_of_notMem

/-- Parameters with nested generics, parentheses of their own, and nothing but a blank. -/
def nestedParameters : List Text :=
  ["this Map<int, List<Pair<A, B>>> map", " Func<(int a, int b), Map<A, B>> f = default(F<A, B>)",
    " "].map String.toList

theorem argumentCount_eq_length_nested :
    '(' ∉ "Method) void F<A, B>".toList ∧ ')' ∉ " where A : (B".toList ∧
      (∀ parameter ∈ nestedParameters, IsParameter parameter) ∧
      joinWith [','] nestedParameters ≠ [] ∧
      argumentCount ("Method) void F<A, B>".toList ++ '(' ::
        (joinWith [','] nestedParameters ++ ')' :: " where A : (B".toList)) = 3 := by
  have hfront : '(' ∉ "Method) void F<A, B>".toList := by decide
  have hback : ')' ∉ " where A : (B".toList := by decide
  have hparameters : ∀ parameter ∈ nestedParameters, IsParameter parameter := by decide
  have hjoined : joinWith [','] nestedParameters ≠ [] := by decide
  exact ⟨hfront, hback, hparameters, hjoined,
    (argumentCount_eq_length hfront hback).1 nestedParameters hparameters hjoined⟩

end ScriptAssist.Signature
