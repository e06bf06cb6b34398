import ScriptAssist.Proofs.TextCuts
import ScriptAssist.Tool.Toolchain

/-!
# Decorations

A toolchain may put anything around a script, or nothing. Decoration takes what it answers as a
whole, and only if it has the marker and the script has none, or it takes nothing of it. The marker
then tells decorated text from scripts: it is decorated no more, and the line of the marker is found
in it.
-/

namespace ScriptAssist

open Text

namespace Decoration

variable {wrap : Text → UInt64 → Option (Text × UInt64)} {default : Bool} {s wrapped : Text}
  {caret moved : UInt64}

lemma decorate_cases (wrap : Text → UInt64 → Option (Text × UInt64)) (default : Bool) (s : Text)
    (caret : UInt64) :
    decorate wrap default s caret = unchanged s caret ∨
      ∃ wrapped moved, wrap s caret = some (wrapped, moved) ∧
        decorate wrap default s caret = ⟨wrapped, moved, true⟩ ∧ ¬ AutoClass.marker <:+: s ∧
        Options.wantsClass s default = true ∧ AutoClass.marker <:+: wrapped := by
  rw [decorate]
  split
  · exact .inl rfl
  · next hwanted =>
    rw [Bool.or_eq_true, not_or, occursIn_iff_isInfix, Bool.not_eq_true', Bool.not_eq_false]
      at hwanted
    split
    · next wrapped moved hwrap =>
      split
      · next hmarked =>
        exact .inr ⟨wrapped, moved, hwrap, rfl, hwanted.1, hwanted.2,
          occursIn_iff_isInfix.mp hmarked⟩
      · exact .inl rfl
    · exact .inl rfl

lemma decorate_of_marked (h : AutoClass.marker <:+: s) :
    decorate wrap default s caret = unchanged s caret := by
  rw [decorate, if_pos (by simp [occursIn_iff_isInfix.mpr h])]

lemma decorate_of_wrap (hs : ¬ AutoClass.marker <:+: s)
    (hwants : Options.wantsClass s default = true) (hwrap : wrap s caret = some (wrapped, moved))
    (hmarked : AutoClass.marker <:+: wrapped) :
    decorate wrap default s caret = ⟨wrapped, moved, true⟩ := by
  have hnone : occursIn AutoClass.marker s = false := by
    rw [← Bool.not_eq_true, occursIn_iff_isInfix]
    exact hs
  rw [decorate, if_neg (by simp [hnone, hwants]), hwrap]
  exact if_pos (occursIn_iff_isInfix.mpr hmarked)

/-- A script is decorated exactly if it asks for a class, has none yet and the toolchain puts one
around it. -/
lemma decorated_iff :
    (decorate wrap default s caret).decorated = true ↔
      ¬ AutoClass.marker <:+: s ∧ Options.wantsClass s default = true ∧
        ∃ wrapped moved, wrap s caret = some (wrapped, moved) ∧ AutoClass.marker <:+: wrapped := by
  constructor
  · intro hdecorated
    rcases decorate_cases wrap default s caret with
      hsame | ⟨wrapped, moved, hwrap, -, hs, hwants, hmarked⟩
    · rw [hsame] at hdecorated
      exact absurd hdecorated Bool.false_ne_true
    · exact ⟨hs, hwants, wrapped, moved, hwrap, hmarked⟩
  · rintro ⟨hs, hwants, wrapped, moved, hwrap, hmarked⟩
    rw [decorate_of_wrap hs hwants hwrap hmarked]

lemma isSome_injectedLine?_iff :
    (injectedLine? s).isSome = true ↔ AutoClass.marker <:+: s := by
  rw [injectedLine?, Option.isSome_map, ← occursIn, occursIn_iff_isInfix]

end Decoration

namespace Toolchain

open Decoration

/-- A script is decorated as a whole or not at all, and once only. -/
theorem decorate_whole_and_once (toolchain : Toolchain) (files : Files) (s : Text)
    (caret : UInt64) :
    let decoration := toolchain.decorate files s caret
    (decoration.decorated = true ↔
        AutoClass.marker <:+: decoration.text ∧ ¬ AutoClass.marker <:+: s) ∧
      (decoration.decorated = true ↔
        ¬ AutoClass.marker <:+: s ∧
          Options.wantsClass s (files.enablesClass toolchain.config) = true ∧
          ∃ wrapped moved, toolchain.wrap s caret = some (wrapped, moved) ∧
            AutoClass.marker <:+: wrapped) ∧
      (decoration.decorated = true →
        toolchain.wrap s caret = some (decoration.text, decoration.caret) ∧
          (injectedLine? decoration.text).isSome = true) ∧
      (decoration.decorated = false → decoration.text = s ∧ decoration.caret = caret) ∧
      toolchain.decorate files decoration.text decoration.caret =
        unchanged decoration.text decoration.caret := by
  intro decoration
  have hdecorated : decoration.decorated = true ↔ _ := decorated_iff
  rcases decorate_cases toolchain.wrap (files.enablesClass toolchain.config) s caret with
    hsame | ⟨wrapped, moved, hwrap, htaken, hs, -, hmarked⟩
  · have hdecoration : decoration = unchanged s caret := hsame
    refine ⟨?_, hdecorated, ?_⟩
    · rw [hdecoration]
      exact ⟨fun h => absurd h Bool.false_ne_true, fun h => absurd h.1 h.2⟩
    · rw [hdecoration]
      exact ⟨fun h => absurd h Bool.false_ne_true, fun _ => ⟨rfl, rfl⟩, hsame⟩
  · have hdecoration : decoration = ⟨wrapped, moved, true⟩ := htaken
    refine ⟨?_, hdecorated, ?_⟩
    · rw [hdecoration]
      exact ⟨fun _ => ⟨hmarked, hs⟩, fun _ => rfl⟩
    · rw [hdecoration]
      exact ⟨fun _ => ⟨hwrap, isSome_injectedLine?_iff.mpr hmarked⟩,
        fun h => absurd h.symm Bool.false_ne_true, decorate_of_marked hmarked⟩

end Toolchain

end ScriptAssist
