import ScriptAssist.Proofs.OverloadChoice
import ScriptAssist.Proofs.ReplyKinds
import ScriptAssist.Proofs.RequestFields

/-!
# Tooltips with a hint

Of a hint the part behind its last colon counts. From the line of a payload to the reply nothing
else changes it than that blanks at its end are trimmed off, so the parts between its commas decide
which block is replied.
-/

namespace ScriptAssist

open Text Signature

variable {payload hint part value : Text} {before after blocks : List Text}

/-! ### Hints -/

/-- The part of a hint behind its last colon, or all of a hint without a colon. -/
def IsLastPart (hint part : Text) : Prop :=
  ':' ∉ part ∧ (hint = part ∨ ∃ front, hint = front ++ ':' :: part)

lemma isLastPart_iff : IsLastPart hint part ↔ tailAfter (fun c => c = ':') hint = part := by
  constructor
  · rintro ⟨hcolon, rfl | ⟨front, rfl⟩⟩
    · exact tailAfter_of_notMem hcolon
    · exact tailAfter_append hcolon front
  · rintro rfl
    refine ⟨notMem_tailAfter ':' hint, ?_⟩
    by_cases hcolon : ':' ∈ hint
    · obtain ⟨back, front, hreverse, hback⟩ :=
        List.eq_append_cons_of_mem (List.mem_reverse.mpr hcolon)
      have hhint : hint = front.reverse ++ ':' :: back.reverse := by
        rw [← List.reverse_reverse hint, hreverse]
        simp
      rw [hhint, tailAfter_append (by simpa using hback)]
      exact .inr ⟨front.reverse, rfl⟩
    · exact .inl (tailAfter_of_notMem hcolon).symm

namespace Text

lemma count_trimEnd {mark : Char} (hmark : isBlank mark = false) (s : Text) :
    (trimEnd s).count mark = s.count mark := by
  obtain ⟨back, hback, hblank⟩ := exists_eq_dropEndWhile_append isBlank s
  have hnone : back.count mark = 0 := by
    rw [List.count_eq_zero]
    intro hmem
    simpa [hmark] using hblank mark hmem
  conv_rhs => rw [hback, List.count_append, hnone, Nat.add_zero]
  rfl

end Text

lemma hintCount_trimEnd (hint : Text) : hintCount (trimEnd hint) = hintCount hint := by
  rw [hintCount_eq, hintCount_eq, count_trimEnd (by decide)]

namespace Operation

lemma parse?_tooltip (h : IsLastPart hint part) :
    parse? ("tooltip:".toList ++ hint) = some (.tooltip (trimEnd part)) := by
  obtain ⟨hcolon, hhint⟩ := h
  have hname : trim ("tooltip:".toList ++ hint) = "tooltip".toList ++ ':' :: trimEnd hint :=
    trim_append_mark (by decide) "tooltip".toList hint
  have hpart : tailAfter (fun c => c = ':') (trim ("tooltip:".toList ++ hint)) = trimEnd part := by
    obtain ⟨front, hfront⟩ : ∃ front, "tooltip:".toList ++ hint = front ++ ':' :: part := by
      rcases hhint with rfl | ⟨front, rfl⟩
      · exact ⟨"tooltip".toList, rfl⟩
      · exact ⟨"tooltip:".toList ++ front, by simp⟩
    rw [hfront, trim_append_mark (by decide)]
    apply tailAfter_append
    exact fun hmem => hcolon ((List.rdropWhile_prefix isBlank part).subset hmem)
  rw [parse?, hpart, hname, cutAtChar?_append (by decide)]
  rfl

lemma parse?_dropEndWhile (value : Text) :
    parse? (dropEndWhile (fun c => c = '\r') value) = parse? value := by
  obtain ⟨returns, hvalue, hreturns⟩ :=
    exists_eq_dropEndWhile_append (fun c => decide (c = '\r')) value
  have htrim : trim value = trim (dropEndWhile (fun c => c = '\r') value) := by
    conv_lhs => rw [hvalue]
    apply trim_append
    intro c hc
    rw [of_decide_eq_true (hreturns c hc)]
    decide
  rw [parse?, parse?, htrim]

end Operation

namespace Request

lemma value?_valueLine (field : Field) (value : Text) :
    field.value? (valueLine field value) = some (dropEndWhile (fun c => c = '\r') value) := by
  obtain ⟨returns, hvalue, hreturns⟩ :=
    exists_eq_dropEndWhile_append (fun c => decide (c = '\r')) value
  have hname : toLower field.name = field.name := Field.ofName?_eq_some_iff.mp field.ofName?_name
  have hended : (dropEndWhile (fun c => decide (c = '\r')) value).getLast? ≠ some '\r' := by
    intro hlast
    exact absurd (getLast?_dropEndWhile hlast) (by decide)
  have haddressed := Field.Addressed.value hname hended fun c hc =>
    of_decide_eq_true (hreturns c hc)
  rw [Field.value?_eq_some_iff, valueLine]
  conv_lhs => rw [hvalue]
  simpa using haddressed

/-- The operation is the one on the last line for it. -/
lemma operation?_parse
    (hpayload : payload.splitOn '\n' = before ++ valueLine .operation value :: after)
    (hlast : ∀ line ∈ after, Field.operation.value? line = none) :
    (parse payload).operation? = Operation.parse? value := by
  have hvalue : (parse payload).operation = some (dropEndWhile (fun c => c = '\r') value) := by
    have hget := get_ofArguments (payload.splitOn '\n') .operation
    rw [hpayload, List.filterMap_append, List.filterMap_cons_some (value?_valueLine _ _),
      List.filterMap_eq_nil_iff.mpr hlast, List.getLast?_concat, ← hpayload,
      ← parse_eq_ofArguments_splitOn] at hget
    exact hget
  rw [operation?, hvalue]
  exact Operation.parse?_dropEndWhile value

end Request

/-! ### Choices -/

namespace Signature

/-- The first of the blocks that take so many arguments. -/
def IsFirstFit (count : Nat) (blocks : List Text) (block : Text) : Prop :=
  ∃ before after, blocks = before ++ block :: after ∧ argumentCount block = count ∧
    ∀ other ∈ before, argumentCount other ≠ count

/-- The block that part of a hint asks for: the first that takes as many arguments as there are
between its commas, or the first of all if none does or the part is blank. -/
inductive IsChosen (part : Text) (blocks : List Text) (block : Text) : Prop
  | fit (typed : isBlankText part = false) (fits : IsFirstFit (hintCount part) blocks block)
  | first (misfits : isBlankText part = true ∨
      ∀ other ∈ blocks, argumentCount other ≠ hintCount part) (leads : blocks.head? = some block)

lemma isFirstFit_iff {count : Nat} {block : Text} :
    IsFirstFit count blocks block ↔
      blocks.find? (fun other => argumentCount other = count) = some block := by
  rw [List.find?_eq_some_iff_append, IsFirstFit]
  constructor
  · rintro ⟨before, after, hblocks, hcount, hbefore⟩
    exact ⟨decide_eq_true hcount, before, after, hblocks, by simpa using hbefore⟩
  · rintro ⟨hcount, before, after, hblocks, hbefore⟩
    exact ⟨before, after, hblocks, of_decide_eq_true hcount, by simpa using hbefore⟩

lemma select_eq_some_iff {block : Text} :
    select blocks (trimEnd part) false = some block ↔ IsChosen part blocks block := by
  by_cases hblank : isBlankText part = true
  · rw [select, if_pos (by simpa using trimEnd_eq_nil_iff.mpr hblank)]
    refine ⟨.first (.inl hblank), fun hchosen => ?_⟩
    cases hchosen with
    | fit typed fits => exact absurd (typed.symm.trans hblank) (by decide)
    | first misfits leads => exact leads
  · have hempty : trimEnd part ≠ [] := fun hnil => hblank (trimEnd_eq_nil_iff.mp hnil)
    rw [select_full hempty, choice, hintCount_trimEnd]
    cases hfind : blocks.find? fun other => argumentCount other = hintCount part with
    | some found =>
      have hfits := isFirstFit_iff.mpr hfind
      rw [Option.some_or]
      constructor
      · rintro ⟨⟩
        exact .fit (by simpa using hblank) hfits
      · intro hchosen
        cases hchosen with
        | fit typed fits => rw [← hfind, isFirstFit_iff.mp fits]
        | first misfits leads =>
          obtain ⟨front, back, rfl, hcount, -⟩ := hfits
          exact absurd hcount (misfits.resolve_left hblank found (by simp))
    | none =>
      rw [Option.none_or]
      refine ⟨.first (.inr (by simpa using hfind)), fun hchosen => ?_⟩
      cases hchosen with
      | fit typed fits => exact absurd (hfind.symm.trans (isFirstFit_iff.mp fits)) (by simp)
      | first misfits leads => exact leads

lemma select_eq_none_iff : select blocks (trimEnd part) false = none ↔ blocks = [] := by
  constructor
  · intro hnone
    rw [← List.head?_eq_none_iff]
    by_cases hempty : trimEnd part = []
    · rwa [select, if_pos (by simpa using hempty)] at hnone
    · rw [select_full hempty, choice, Option.or_eq_none_iff] at hnone
      exact hnone.2
  · rintro rfl
    by_cases hempty : trimEnd part = []
    · rw [select, if_pos (by simpa using hempty)]
      rfl
    · rw [select_full hempty]
      rfl

end Signature

/-! ### Replies -/

namespace Session

variable {assistant : Assistant} {document : Document} {script : Script}
  {session ready : Session} {request : Request} {caret : UInt64} {decoration : Decoration}
  {context : Context}

lemma result_tooltip (hplain : document.rich = false) (hcode : document.script.content ≠ [])
    (hdirective : Directive.parseAt document.script.content caret.toNat = none)
    (hcontext : (decoratedContext assistant document caret).result session =
      (.ok (decoration, context), ready))
    (hblocks : assistant.engine ready.machine (.memberInfo context (!hint.isEmpty)) =
      .ok blocks) :
    (tooltip assistant document caret hint false).result session =
      (.ok (select (blocks.map tidy) hint false),
        ready.log (.query (.memberInfo context (!hint.isEmpty)))) := by
  have hdocument := Document.code_of_ne_nil hcode
  have hmember : (memberBlocks assistant document caret (!hint.isEmpty)).result session =
      (.ok (blocks.map tidy), ready.log (.query (.memberInfo context (!hint.isEmpty)))) := by
    rw [memberBlocks, Action.result_bind_of_ok hcontext,
      Action.result_bind_of_ok (result_ask_of_ok hblocks), Action.result_pure]
  have htext : (tooltipText assistant document caret hint false).result session =
      (.ok (select (blocks.map tidy) hint false),
        ready.log (.query (.memberInfo context (!hint.isEmpty)))) := by
    rw [tooltipText, hdocument, Action.result_bind_of_ok (Action.result_ofExcept _ _), hdirective,
      directiveTooltip, Action.result_bind_of_ok (Action.result_pure _ _)]
    dsimp only
    rw [Action.result_bind_of_ok hmember, Action.result_pure]
  rw [tooltip, Action.result_bind_of_ok htext, Action.result_pure, hplain]
  simp

/-- A payload that asks for no control, and for a plain tooltip with a hint on its last line for
the operation. -/
structure AsksTooltip (payload hint : Text) : Prop where
  last : ∃ before after,
    payload.splitOn '\n' =
        before ++ Request.valueLine .operation ("tooltip:".toList ++ hint) :: after ∧
      ∀ line ∈ after, Request.Field.operation.value? line = none
  uncontrolled : ∀ control : Control, ¬ control.Requested (Request.parse payload)
  plain : (Request.parse payload).rich = false
  full : (Request.parse payload).shortTooltips = false

/-- The script that a request names can be read, and the caret is on none of its directives. -/
structure Reads (session : Session) (request : Request) (script : Script) : Prop where
  source : ∃ path, request.scriptPath? = some path ∧
    session.machine.files.isFile ⟨path⟩ = true ∧
    Script.load session.machine.files ⟨path⟩ (request.rawPath?.map Path.mk) = .ok script
  code : script.content ≠ []
  undirected : Directive.parseAt script.content request.caret.toNat = none

lemma process_of_asksTooltip (hasks : AsksTooltip payload hint)
    (hreads : Reads session (Request.parse payload) script)
    (hcontext : (decoratedContext assistant ⟨script, false⟩ (Request.parse payload).caret).result
      session = (.ok (decoration, context), ready)) (hpart : IsLastPart hint part)
    (hblocks : assistant.engine ready.machine (.memberInfo context (!isBlankText part)) =
      .ok blocks) :
    process assistant (Request.parse payload) session =
      (some (((select (blocks.map tidy) (trimEnd part) false).filter
        fun text => !text.isEmpty).getD nullReply),
        ready.log (.query (.memberInfo context (!isBlankText part)))) := by
  obtain ⟨before, after, hpayload, hlast⟩ := hasks.last
  obtain ⟨path, hpath, hfile, hscript⟩ := hreads.source
  have hoperation : (Request.parse payload).operation? = some (.tooltip (trimEnd part)) := by
    rw [Request.operation?_parse hpayload hlast, Operation.parse?_tooltip hpart]
  have hempty : isBlankText part = (trimEnd part).isEmpty := by
    rw [Bool.eq_iff_iff, ← trimEnd_eq_nil_iff, List.isEmpty_iff]
  rw [hempty] at hblocks ⊢
  have hanswer : (perform assistant ⟨script, (Request.parse payload).rich⟩ (Request.parse payload)
      (.tooltip (trimEnd part))).result session =
        (.ok (select (blocks.map tidy) (trimEnd part) false),
          ready.log (.query (.memberInfo context (!(trimEnd part).isEmpty)))) := by
    rw [perform, hasks.plain, hasks.full]
    exact result_tooltip rfl hreads.code hreads.undirected hcontext hblocks
  exact process_of_script (control?_eq_none_iff.mpr hasks.uncontrolled) hpath
    (result_inquire hfile hoperation hscript hanswer)

/-- Behind the last colon of a hint stands what decides the reply. Whatever blocks the engine has,
it is the tidied block that this part asks for, with a mark of its own for an empty one and for no
block at all. -/
theorem hinted_tooltip (hasks : AsksTooltip payload hint)
    (hreads : Reads session (Request.parse payload) script)
    (hcontext : (decoratedContext assistant ⟨script, false⟩ (Request.parse payload).caret).result
      session = (.ok (decoration, context), ready)) :
    ∃ part, IsLastPart hint part ∧ ∀ blocks,
      assistant.engine ready.machine (.memberInfo context (!isBlankText part)) = .ok blocks →
      ∃ reply, process assistant (Request.parse payload) session =
          (some reply, ready.log (.query (.memberInfo context (!isBlankText part)))) ∧
        (blocks = [] → reply = "<null>".toList) ∧
        (blocks ≠ [] → ∃ block, IsChosen part (blocks.map tidy) block ∧
          reply = if block = [] then "<null>".toList else block) := by
  obtain ⟨part, hpart⟩ : ∃ part, IsLastPart hint part := ⟨_, isLastPart_iff.mpr rfl⟩
  refine ⟨part, hpart, fun blocks hblocks => ?_⟩
  refine ⟨_, process_of_asksTooltip hasks hreads hcontext hpart hblocks, ?_, fun hne => ?_⟩
  · rintro rfl
    rw [select_eq_none_iff.mpr List.map_nil]
    rfl
  · cases hselect : select (blocks.map tidy) (trimEnd part) false with
    | none => exact absurd (List.map_eq_nil_iff.mp (select_eq_none_iff.mp hselect)) hne
    | some block =>
      refine ⟨block, select_eq_some_iff.mp hselect, ?_⟩
      cases block with
      | nil => rfl
      | cons c block => rfl

/-- An engine that tells the same blocks about every member. -/
def describer (blocks : List Text) : Assistant where
  engine _ query :=
    match query with
    | .memberInfo _ _ => .ok blocks
    | _ => .error .connectionLost
  load := loneAssistant.load

/-- Overloads of one member, with a blank line in the last block. -/
def overloads : List Text :=
  ["Method: void F(int a)", "Method: void F(int a, int b)\r\n\r\nAdds.\r\n"].map String.toList

lemma tidy_overloads : overloads.map tidy =
    ["Method: void F(int a)", "Method: void F(int a, int b)\nAdds."].map String.toList := by
  have hplain : tidy "Method: void F(int a)".toList = "Method: void F(int a)".toList := by
    rw [tidy, collapse, if_neg (by decide)]
    decide
  have hbroken : tidy "Method: void F(int a, int b)\r\n\r\nAdds.\r\n".toList =
      "Method: void F(int a, int b)\nAdds.".toList := by
    rw [tidy, collapse, if_pos (by decide), collapse, if_neg (by decide)]
    decide
  rw [overloads, List.map_map, List.map_cons, List.map_cons, List.map_nil, Function.comp_apply,
    Function.comp_apply, hplain, hbroken]
  rfl

/-- A payload that asks for the outline first, and then for a tooltip. -/
def hintedPayload (hint : String) : Text :=
  ("-op:codemap\n-op:tooltip:" ++ hint ++ "\n-script:a.cs\n-pos:1").toList

lemma reads_silentSession {request : Request} (hscript : request.script = some "a.cs".toList)
    (hraw : request.rawFile = none) (hcaret : request.caret = 1) :
    Reads silentSession request ⟨⟨"a.cs".toList⟩, ⟨"a.cs".toList⟩, "f();".toList⟩ where
  source := by
    refine ⟨"a.cs".toList, ?_, by decide, ?_⟩
    · rw [Request.scriptPath?, hscript]
      decide
    · rw [Request.rawPath?, hraw]
      rfl
  code := by decide
  undirected := by
    rw [hcaret]
    decide

theorem hinted_tooltip_conditional :
    (process (describer overloads) (Request.parse (hintedPayload "p ? q : r, f(s) "))
      silentSession).1 = some "Method: void F(int a, int b)\nAdds.".toList := by
  have hasks : AsksTooltip (hintedPayload "p ? q : r, f(s) ") "p ? q : r, f(s) ".toList :=
    ⟨⟨["-op:codemap".toList], ["-script:a.cs".toList, "-pos:1".toList], by decide, by decide⟩,
      control?_eq_none_iff.mp (by decide), by decide, by decide⟩
  obtain ⟨part, hpart, hreply⟩ := @hinted_tooltip _ _ (describer overloads) _ silentSession _ _ _
    hasks (reads_silentSession (by decide) (by decide) (by decide)) (Prod.ext rfl rfl)
  obtain rfl := isLastPart_iff.mp hpart
  obtain ⟨reply, hprocess, -, hchosen⟩ := hreply overloads rfl
  obtain ⟨block, hblock, rfl⟩ := hchosen (by decide)
  rw [← select_eq_some_iff, tidy_overloads] at hblock
  obtain rfl := Option.some.inj (hblock.symm.trans (by decide :
    _ = some "Method: void F(int a, int b)\nAdds.".toList))
  exact congrArg Prod.fst hprocess

/-- Behind the last colon of named arguments stands only the last of them. -/
theorem named_arguments_miss_overload :
    AsksTooltip (hintedPayload "x: 1, y: 2") "x: 1, y: 2".toList ∧
      IsFirstFit (hintCount "x: 1, y: 2".toList) (overloads.map tidy)
        "Method: void F(int a, int b)\nAdds.".toList ∧
      (process (describer overloads) (Request.parse (hintedPayload "x: 1, y: 2"))
        silentSession).1 = some "Method: void F(int a)".toList := by
  have hasks : AsksTooltip (hintedPayload "x: 1, y: 2") "x: 1, y: 2".toList :=
    ⟨⟨["-op:codemap".toList], ["-script:a.cs".toList, "-pos:1".toList], by decide, by decide⟩,
      control?_eq_none_iff.mp (by decide), by decide, by decide⟩
  have hreply := @process_of_asksTooltip _ _ _ overloads (describer overloads) _ silentSession _ _
    _ hasks (reads_silentSession (by decide) (by decide) (by decide)) (Prod.ext rfl rfl)
    (isLastPart_iff.mpr rfl) rfl
  rw [tidy_overloads] at hreply ⊢
  exact ⟨hasks, isFirstFit_iff.mpr (by decide),
    (congrArg Prod.fst hreply).trans (congrArg some (by decide))⟩

end Session

end ScriptAssist
