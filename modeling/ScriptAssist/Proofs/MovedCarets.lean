import ScriptAssist.Proofs.UndecoratedRegions
import ScriptAssist.Service.Request

/-!
# Carets of wrapped scripts

A request may have any caret that fits into 64 bits, also one far behind the script. Wrapping moves
it by the length of the line that is put in, which may take it past the last number of 64 bits. Up
to there carets move forward and keep their order; from there on the program stops.
-/

namespace ScriptAssist.AutoClass

variable {s wrapped : Text} {caret moved earlier : UInt64}

lemma length_prologue_le (s : Text) : (Prologue.split s).1.length ≤ s.length := by
  conv_rhs => rw [← Prologue.split_append s, List.length_append]
  omega

lemma HasRoom.of_le (h : HasRoom s caret) (hle : earlier ≤ caret) : HasRoom s earlier := by
  have := UInt64.le_iff_toNat_le.mp hle
  rw [HasRoom] at h ⊢
  omega

/-- A caret without room is far behind the prologue, so it would have to move. -/
lemma moveCaret?_eq_none (hs : s.length + 130 ≤ UInt64.size) (hroom : ¬ HasRoom s caret) :
    moveCaret? (Prologue.split s).1.length (opening s).length caret = none := by
  have hlength := length_opening_lt s
  have hprologue := length_prologue_le s
  rw [HasRoom] at hroom
  rw [moveCaret?, if_neg (by omega), if_neg hroom]

lemma wrap_of_not_hasRoom (hs : s.length + 130 ≤ UInt64.size) (haccepts : Accepts s)
    (hroom : ¬ HasRoom s caret) : wrap s caret = .overflow := by
  rw [wrap_of_accepts haccepts, withClass, moveCaret?_eq_none hs hroom]

lemma le_moved (h : wrap s caret = .wrapped wrapped moved) : caret ≤ moved := by
  rw [UInt64.le_iff_toNat_le, toNat_moved h]
  split_ifs <;> omega

lemma moved_le_moved {movedEarlier : UInt64} (h : wrap s caret = .wrapped wrapped moved)
    (h' : wrap s earlier = .wrapped wrapped movedEarlier) (hle : earlier ≤ caret) :
    movedEarlier ≤ moved := by
  have hbefore := UInt64.le_iff_toNat_le.mp hle
  rw [UInt64.le_iff_toNat_le, toNat_moved h, toNat_moved h']
  split_ifs <;> omega

/-- A script with a class around it has the caret moved forward and behind all carets that were
before it exactly if the caret has room. Without room there is no result. -/
theorem moved_forward_iff_hasRoom (hs : Utf8.byteSize s < 0x8000000000000000)
    (h : wrap s caret ≠ .declined) :
    ((∃ wrapped moved, wrap s caret = .wrapped wrapped moved ∧ caret ≤ moved ∧
        ∀ earlier ≤ caret, ∃ movedEarlier,
          wrap s earlier = .wrapped wrapped movedEarlier ∧ movedEarlier ≤ moved) ↔
      HasRoom s caret) ∧
      (wrap s caret = .overflow ↔ ¬ HasRoom s caret) := by
  have hlength := Text.length_le_byteSize s
  have hsize : UInt64.size = 2 ^ 64 := rfl
  have haccepts : Accepts s := by
    by_contra hdeclined
    exact h (wrap_eq_declined_iff.mpr hdeclined)
  have hstops : ¬ HasRoom s caret → wrap s caret = .overflow :=
    wrap_of_not_hasRoom (by omega) haccepts
  refine ⟨⟨?_, fun hroom => ?_⟩, ⟨fun hoverflow hroom => ?_, hstops⟩⟩
  · rintro ⟨wrapped, moved, hwrap, -⟩
    by_contra hroom
    rw [hstops hroom] at hwrap
    exact absurd hwrap (by simp)
  · obtain ⟨moved, hwrap⟩ := exists_wrap_of_hasRoom haccepts hroom
    refine ⟨_, moved, hwrap, le_moved hwrap, fun earlier hle => ?_⟩
    obtain ⟨movedEarlier, hwrapEarlier⟩ := exists_wrap_of_wrap hwrap (hroom.of_le hle)
    exact ⟨movedEarlier, hwrapEarlier, moved_le_moved hwrap hwrapEarlier hle⟩
  · obtain ⟨moved, hwrap⟩ := exists_wrap_of_hasRoom haccepts hroom
    rw [hoverflow] at hwrap
    exact absurd hwrap (by simp)

/-- The last caret that has room in a script that is one line of code. -/
theorem moved_forward_iff_hasRoom_bareScript :
    Utf8.byteSize Decoration.bareScript < 0x8000000000000000 ∧
      wrap Decoration.bareScript 18446744073709551512 ≠ .declined ∧
      ∃ wrapped moved, wrap Decoration.bareScript 18446744073709551512 = .wrapped wrapped moved ∧
        (18446744073709551512 : UInt64) ≤ moved := by
  have haccepted : wrap Decoration.bareScript 18446744073709551512 ≠ .declined := by
    decide +kernel
  have hroom : HasRoom Decoration.bareScript 18446744073709551512 :=
    show _ < UInt64.size by decide +kernel
  obtain ⟨wrapped, moved, hwrap, hforward, -⟩ :=
    (moved_forward_iff_hasRoom (by decide) haccepted).1.mpr hroom
  exact ⟨by decide, haccepted, wrapped, moved, hwrap, hforward⟩

/-- The last caret a request can carry has no moved caret: wrapping stops the program. -/
theorem last_caret_overflows :
    (Request.parse "-pos:18446744073709551615".toList).caret = 18446744073709551615 ∧
      wrap Decoration.bareScript 0 = .wrapped Decoration.bareScriptWrapped 103 ∧
      wrap Decoration.bareScript 18446744073709551615 = .overflow := by
  decide +kernel

end ScriptAssist.AutoClass
