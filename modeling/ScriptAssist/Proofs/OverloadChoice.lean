import Mathlib.Data.List.Find
import ScriptAssist.Answer.Signature
import ScriptAssist.Proofs.LossyLines
import ScriptAssist.Proofs.TextLines

/-!
# Choice of an overload

For a hint the first block is chosen that takes as many arguments, or the first of all if none does.
Short answers count the arguments of signatures, full ones those of whole blocks. So both describe
the same overload as long as the documentation of a block does not decide whether it fits.
-/

namespace ScriptAssist.Signature

open Text

variable {blocks : List Text} {block hint : Text}

/-! ### Arguments -/

/-- The parameters stand between the first opening parenthesis and the last closing one. -/
theorem parameters?_eq_some_iff {s inner : Text} :
    parameters? s = some inner ↔
      ∃ front back, s = front ++ '(' :: (inner ++ ')' :: back) ∧ '(' ∉ front ∧ ')' ∉ back := by
  constructor
  · intro h
    obtain ⟨⟨front, rest⟩, hopen, hrest⟩ := Option.bind_eq_some_iff.mp h
    obtain ⟨⟨back, reversed⟩, hclose, hinner⟩ := Option.bind_eq_some_iff.mp hrest
    obtain ⟨rfl, hfront⟩ := append_of_cutAtChar? hopen
    obtain ⟨hreverse, hback⟩ := append_of_cutAtChar? hclose
    refine ⟨front, back.reverse, ?_, hfront, by simpa using hback⟩
    rw [← List.reverse_reverse rest, hreverse, ← Option.some.inj hinner]
    simp
  · rintro ⟨front, back, rfl, hfront, hback⟩
    have hreverse : (inner ++ ')' :: back).reverse = back.reverse ++ ')' :: inner.reverse := by
      simp
    rw [parameters?, cutAtChar?_append hfront]
    dsimp only [bind, Option.bind_some]
    rw [hreverse, cutAtChar?_append (by simpa using hback)]
    simp

/-- Text without a closing parenthesis adds no parameters. -/
lemma parameters?_append {s back : Text} (hback : ')' ∉ back) :
    parameters? (s ++ back) = parameters? s := by
  apply Option.ext
  intro inner
  rw [parameters?_eq_some_iff, parameters?_eq_some_iff]
  constructor
  · rintro ⟨front, rest, heq, hfront, hrest⟩
    have hparts : s ++ back = (front ++ '(' :: inner) ++ ')' :: rest := by
      rw [heq]
      simp
    rcases List.append_eq_append_iff.mp hparts with ⟨more, -, hmore⟩ | ⟨more, hs, hmore⟩
    · exact (hback (by simp [hmore])).elim
    · cases more with
      | nil =>
        rw [List.nil_append] at hmore
        exact (hback (by simp [← hmore])).elim
      | cons c more =>
        obtain ⟨rfl, rfl⟩ := List.cons.inj hmore
        exact ⟨front, more, by simp [hs], hfront, fun hmem => hrest (by simp [hmem])⟩
  · rintro ⟨front, rest, rfl, hfront, hrest⟩
    exact ⟨front, rest ++ back, by simp, hfront, by simp [hrest, hback]⟩

lemma argumentCount_append {s back : Text} (hback : ')' ∉ back) :
    argumentCount (s ++ back) = argumentCount s := by
  rw [argumentCount, argumentCount, parameters?_append hback]

lemma argumentCount_of_notMem {s : Text} (h : ')' ∉ s) : argumentCount s = 0 :=
  argumentCount_append h (s := [])

lemma hintCount_eq (hint : Text) : hintCount hint = hint.count ',' + 1 :=
  length_splitOn ',' hint

/-! ### Signatures -/

lemma exists_eq_dropLineBreak_append (line : Text) :
    ∃ back, line = dropLineBreak line ++ back ∧ ∀ c ∈ back, c = '\n' ∨ c = '\r' := by
  rw [dropLineBreak]
  split
  · next rest heq =>
    refine ⟨['\r', '\n'], ?_, by simp⟩
    rw [← List.reverse_reverse line, heq]
    simp
  · next rest _ heq =>
    refine ⟨['\n'], ?_, by simp⟩
    rw [← List.reverse_reverse line, heq]
    simp
  · exact ⟨[], by simp, by simp⟩

/-- A block is its signature and a text of line breaks and the lines below it. -/
lemma exists_eq_firstLine_append (block : Text) :
    ∃ back, block = firstLine block ++ back ∧
      ∀ c ∈ back, c = '\n' ∨ c = '\r' ∨ ∃ line ∈ (lines block).tail, c ∈ line := by
  have hflat := flatten_linesInclusive block
  rw [firstLine, lines]
  cases hlines : linesInclusive block with
  | nil =>
    rw [hlines] at hflat
    exact ⟨[], by simp [← hflat], by simp⟩
  | cons first rest =>
    obtain ⟨stop, hfirst, hstop⟩ := exists_eq_dropLineBreak_append first
    rw [hlines, List.flatten_cons] at hflat
    refine ⟨stop ++ rest.flatten, ?_, fun c hc => ?_⟩
    · rw [List.map_cons, List.headD_cons, ← List.append_assoc, ← hfirst, hflat]
    · rcases List.mem_append.mp hc with hmem | hmem
      · exact (hstop c hmem).imp_right .inl
      · obtain ⟨line, hline, hc⟩ := List.mem_flatten.mp hmem
        obtain ⟨back, heq, hback⟩ := exists_eq_dropLineBreak_append line
        rw [heq, List.mem_append] at hc
        rcases hc with hc | hc
        · exact .inr (.inr ⟨_, List.mem_map_of_mem hline, hc⟩)
        · exact (hback c hc).imp_right .inl

/-- Whether a block takes as many arguments by its whole text exactly if it does by its
signature. -/
def FitsAlike (count : Nat) (block : Text) : Prop :=
  argumentCount block = count ↔ argumentCount (firstLine block) = count

instance (count : Nat) (block : Text) : Decidable (FitsAlike count block) :=
  inferInstanceAs (Decidable (_ ↔ _))

/-! ### Choices -/

/-- The block that is chosen if the arguments of each are counted this way. -/
def choice (argumentsOf : Text → Nat) (count : Nat) (blocks : List Text) : Option Text :=
  (blocks.find? fun block => argumentsOf block = count).or blocks.head?

lemma select_full (hhint : hint ≠ []) :
    select blocks hint false = choice argumentCount (hintCount hint) blocks := by
  rw [select, if_neg (by simpa using hhint)]
  exact Option.orElse_eq_or

lemma select_short (hhint : hint ≠ []) :
    select blocks hint true =
      (choice (argumentCount ∘ firstLine) (hintCount hint) blocks).map firstLine := by
  have hfind : (blocks.map firstLine).find? (fun block => argumentCount block = hintCount hint) =
      (blocks.find? fun block => argumentCount (firstLine block) = hintCount hint).map firstLine :=
    List.find?_map
  rw [select, if_neg (by simpa using hhint), choice, Option.map_or, ← List.head?_map]
  simp only [Function.comp_apply, if_true]
  rw [← hfind]
  exact Option.orElse_eq_or

lemma fitsAlike_of_notMem (h : ∀ line ∈ (lines block).tail, ')' ∉ line) (count : Nat) :
    FitsAlike count block := by
  obtain ⟨back, hblock, hback⟩ := exists_eq_firstLine_append block
  have hcount : argumentCount block = argumentCount (firstLine block) := by
    conv_lhs => rw [hblock]
    apply argumentCount_append
    intro hmem
    rcases hback _ hmem with heq | heq | ⟨line, hline, hin⟩
    · exact absurd heq (by decide)
    · exact absurd heq (by decide)
    · exact h line hline hin
  rw [FitsAlike, hcount]

lemma select_short_of_fitsAlike (hhint : hint ≠ [])
    (h : ∀ block ∈ blocks, FitsAlike (hintCount hint) block) :
    select blocks hint true = (select blocks hint false).map firstLine := by
  have hfind : blocks.find? (fun block => (argumentCount ∘ firstLine) block = hintCount hint) =
      blocks.find? fun block => argumentCount block = hintCount hint :=
    List.find?_congr fun block hblock => decide_eq_decide.mpr (h block hblock).symm
  rw [select_short hhint, select_full hhint, choice, choice, hfind]

lemma firstLine_of_notMem {s : Text} (h : '\n' ∉ s) : firstLine s = s := by
  rw [firstLine, lines]
  by_cases hempty : s = []
  · rw [hempty]
    rfl
  · rw [linesInclusive_of_notMem h hempty, List.map_singleton, List.headD_cons,
      dropLineBreak_eq_self h]

/-- Behind a signature that does not fit, a block that fits in one way only is chosen in that way
only. -/
lemma exists_select_ne (hhint : hint ≠ []) (h : ¬ FitsAlike (hintCount hint) block) :
    ∃ signature, '\n' ∉ signature ∧
      select [signature, block] hint true ≠
        (select [signature, block] hint false).map firstLine := by
  obtain ⟨signature, hfeed, hparen, hne⟩ : ∃ signature, '\n' ∉ signature ∧ ')' ∉ signature ∧
      signature ≠ firstLine block := by
    by_cases hempty : firstLine block = []
    · exact ⟨['x'], by decide, by decide, by simp [hempty]⟩
    · exact ⟨[], by decide, by decide, Ne.symm hempty⟩
  have hfirst := firstLine_of_notMem hfeed
  have hmisfit : argumentCount signature ≠ hintCount hint := by
    rw [argumentCount_of_notMem hparen, hintCount_eq]
    omega
  refine ⟨signature, hfeed, ?_⟩
  rw [select_short hhint, select_full hhint, choice, choice]
  by_cases hwhole : argumentCount block = hintCount hint
  · have hline : argumentCount (firstLine block) ≠ hintCount hint :=
      fun heq => h (iff_of_true hwhole heq)
    simp [hfirst, hmisfit, hwhole, hline, hne]
  · have hline : argumentCount (firstLine block) = hintCount hint := by
      by_contra heq
      exact h (iff_of_false hwhole heq)
    simp [hfirst, hmisfit, hwhole, hline, hne.symm]

/-- Short and full answers to a hint describe the same overload if no block fits the hint by its
whole text and not by its signature, or the other way round. Behind some signature every such block
makes them differ. Documentation without a closing parenthesis makes no difference to what fits. -/
theorem documentation_keeps_choice (hhint : hint ≠ []) :
    (∀ blocks, (∀ block ∈ blocks, FitsAlike (hintCount hint) block) →
      select blocks hint true = (select blocks hint false).map firstLine) ∧
    (∀ block, ¬ FitsAlike (hintCount hint) block → ∃ signature, '\n' ∉ signature ∧
      select [signature, block] hint true ≠
        (select [signature, block] hint false).map firstLine) ∧
    ∀ block, (∀ line ∈ (lines block).tail, ')' ∉ line) → FitsAlike (hintCount hint) block :=
  ⟨fun _ => select_short_of_fitsAlike hhint, fun _ => exists_select_ne hhint,
    fun _ hlines => fitsAlike_of_notMem hlines _⟩

/-- Documentation with parentheses of its own, which changes the number of arguments of the second
block, from one to three. -/
def notedOverloads : List Text :=
  ["Method: void F()\nDoes nothing.", "Method: void F(int a)\nSee F(a, 0, 0).",
    "Method: void F(int a, int b)\r\nAdds (once).",
    "Method: void F<T>(Map<int, T> a, T b)"].map String.toList

theorem documentation_keeps_choice_noted :
    "x, y".toList ≠ [] ∧ (∀ block ∈ notedOverloads, FitsAlike 2 block) ∧
      select notedOverloads "x, y".toList true = some "Method: void F(int a, int b)".toList ∧
      select notedOverloads "x, y".toList true =
        (select notedOverloads "x, y".toList false).map firstLine ∧
      ∃ signature, select [signature, "Method: void F(int a)\nSee F(a, 0, 0).".toList]
          "x".toList true ≠
        (select [signature, "Method: void F(int a)\nSee F(a, 0, 0).".toList]
          "x".toList false).map firstLine := by
  have hhint : "x, y".toList ≠ [] := by decide
  have halike : ∀ block ∈ notedOverloads, FitsAlike (hintCount "x, y".toList) block := by decide
  obtain ⟨signature, -, hne⟩ := (@documentation_keeps_choice "x".toList (by decide)).2.1
    "Method: void F(int a)\nSee F(a, 0, 0).".toList (by decide)
  exact ⟨hhint, halike, by decide, (documentation_keeps_choice hhint).1 _ halike, signature, hne⟩

/-- The first block takes two arguments by its whole text, and one by its signature. -/
def crossReferences : List Text :=
  ["Method: void F(int a)\nSee also F(int, int).", "Method: void F(int a, int b)\nAdds."].map
    String.toList

theorem cross_reference_changes_choice :
    select crossReferences "x, y".toList true = some "Method: void F(int a, int b)".toList ∧
      (select crossReferences "x, y".toList false).map firstLine =
        some "Method: void F(int a)".toList ∧
      select crossReferences "x, y".toList true ≠
        (select crossReferences "x, y".toList false).map firstLine := by
  decide

end ScriptAssist.Signature
