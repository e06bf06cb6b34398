import ScriptAssist.Proofs.ListedScripts
import ScriptAssist.Proofs.ReplyKinds

/-!
# Tooltips of directives

A tooltip on a directive is found without the engine: in the table of directives, or among the files
in the search directories of the project. The description of a member is always asked of the engine,
on a directive as well.
-/

namespace ScriptAssist

/-! ### Questions to the engine -/

/-- What the engine is asked in an event. -/
def Event.query? : Event → Option Query
  | .query asked => some asked
  | _ => none

namespace Session

variable {assistant : Assistant} {document : Document} {session after : Session} {caret : UInt64}

/-- What the engine has been asked so far. -/
def queries (session : Session) : List Query :=
  session.machine.events.filterMap Event.query?

lemma queries_log (session : Session) (event : Event) :
    (session.log event).queries = session.queries ++ event.query?.toList := by
  show (session.machine.events ++ [event]).filterMap Event.query? = _
  rw [List.filterMap_append]
  cases hquery : event.query? with
  | none => rw [List.filterMap_cons_none hquery]; rfl
  | some query => rw [List.filterMap_cons_some hquery]; rfl

/-- Whatever becomes of the action, the engine is not asked. -/
def IsQuiet {α : Type} (action : Action Session α) : Prop :=
  ∀ session, (action.result session).2.queries = session.queries

section

variable {α β : Type} {action : Action Session α} {next : α → Action Session β}

lemma isQuiet_ofExcept (value : Except Failure α) : IsQuiet (Action.ofExcept value) :=
  fun _ => rfl

lemma isQuiet_pure (a : α) : IsQuiet (pure a) :=
  fun _ => rfl

lemma IsQuiet.bind (h : IsQuiet action) (hnext : ∀ a, IsQuiet (next a)) :
    IsQuiet (action >>= next) := by
  intro session
  have hqueries := h session
  rw [Action.result_bind]
  cases hresult : action.result session with
  | mk outcome between =>
    rw [hresult] at hqueries
    cases outcome with
    | error failure => exact hqueries
    | ok a => exact (hnext a between).trans hqueries

lemma isQuiet_get_bind {next : Session → Action Session β} (h : ∀ session, IsQuiet (next session)) :
    IsQuiet (get >>= next) := by
  intro session
  rw [Action.result_bind_of_ok (Action.result_get session)]
  exact h session session

lemma isQuiet_toolchain (assistant : Assistant) : IsQuiet (toolchain assistant) := by
  intro session
  rw [result_toolchain]
  dsimp only
  split_ifs
  · rfl
  · exact (queries_log session (.load _)).trans (List.append_nil _)

lemma isQuiet_resolveProject (toolchain : Toolchain) (script : Script) :
    IsQuiet (resolveProject toolchain script) := by
  intro session
  have hlog : ∀ path content, (session.log (.project path content)).queries = session.queries :=
    fun path content => (queries_log session (.project path content)).trans (List.append_nil _)
  cases hunsaved : script.isUnsaved with
  | false =>
    rw [resolveProject, if_neg (by simp [hunsaved])]
    exact hlog _ _
  | true =>
    cases hwrite : session.machine.files.write
        (session.machine.freePath script.file.pointedExtension)
        (Utf8.encode script.temporaryText) with
    | error cause => rw [result_resolveProject_of_unwritten hunsaved toolchain hwrite]
    | ok written =>
      rw [result_resolveProject_of_written hunsaved toolchain hwrite]
      exact hlog _ _

lemma isQuiet_project (assistant : Assistant) (document : Document) :
    IsQuiet (project assistant document) :=
  (isQuiet_toolchain assistant).bind fun toolchain =>
    isQuiet_resolveProject toolchain document.script

lemma isQuiet_decoratedContext (assistant : Assistant) (document : Document) (caret : UInt64) :
    IsQuiet (decoratedContext assistant document caret) := by
  refine (isQuiet_ofExcept _).bind fun code => IsQuiet.bind ?_ fun decoration =>
    IsQuiet.bind ?_ fun context => isQuiet_pure _
  · rw [decorate]
    split_ifs
    · exact isQuiet_pure _
    · exact (isQuiet_toolchain assistant).bind fun toolchain =>
        isQuiet_get_bind fun session => isQuiet_pure _
  · exact (isQuiet_project assistant document).bind fun project =>
      isQuiet_get_bind fun session => (isQuiet_ofExcept _).bind fun sources => isQuiet_pure _

/-- Blocks about a member are what the engine says when it is asked, once, and then tidied. -/
lemma ok_of_result_memberBlocks {allOverloads : Bool} {tidied : List Text}
    (h : (memberBlocks assistant document caret allOverloads).result session =
      (.ok tidied, after)) :
    ∃ context ready blocks,
      assistant.engine (Session.machine ready) (.memberInfo context allOverloads) = .ok blocks ∧
      tidied = blocks.map Signature.tidy ∧
      after.queries = session.queries ++ [.memberInfo context allOverloads] := by
  obtain ⟨⟨decoration, context⟩, ready, hcontext, hrest⟩ := Action.ok_of_result_bind h
  -- The context is put together without the engine.
  have hready : ready.queries = session.queries := by
    rw [← isQuiet_decoratedContext assistant document caret session, hcontext]
  obtain ⟨blocks, asked, hask, htidied⟩ := Action.ok_of_result_bind hrest
  have hasked : (ask assistant (.memberInfo context allOverloads)).result ready =
      (assistant.engine ready.machine (.memberInfo context allOverloads),
        ready.log (.query (.memberInfo context allOverloads))) := rfl
  obtain ⟨hblocks, hafter⟩ := Prod.mk.inj (hasked.symm.trans hask)
  obtain ⟨htidied, hsame⟩ := Prod.mk.inj htidied
  refine ⟨context, ready, blocks, hblocks, (Except.ok.inj htidied).symm, ?_⟩
  rw [← hsame, ← hafter, queries_log, hready]
  rfl

end

end Session

/-! ### Directives under the caret -/

namespace Directive

/-- The directive that is under the caret, or on whose line the caret is. -/
def Hit.name : Hit → Text
  | .directive name => name
  | .argument name _ => name

/-- The note on a directive: its name, and what it does on a line of its own. -/
def note (name description : Text) : Text :=
  "Directive: ".toList ++ name ++ '\n' :: description

lemma describe_of_mem {name description : Text} (h : (name, description) ∈ table) :
    describe name = some (note name description) := by
  have hnames : (table.map Prod.fst).Nodup := by decide +kernel
  have hfind : table.find? (fun row => row.1 = name) = some (name, description) := by
    cases hfind : table.find? fun row => row.1 = name with
    | none =>
      have hother := List.find?_eq_none.mp hfind _ h
      exact absurd (decide_eq_true rfl) hother
    | some row =>
      have hname : row.1 = name := of_decide_eq_true (@List.find?_some _ _ row _ hfind)
      have hrow : row = (name, description) :=
        List.inj_on_of_nodup_map hnames (List.mem_of_find?_eq_some hfind) h hname
      rw [hrow]
  rw [describe, hfind]
  rfl

/-- There is no directive in an empty script. -/
lemma ne_nil_of_parseAt {code : Text} {caret : Nat} {hit : Hit}
    (h : parseAt code caret = some hit) : code ≠ [] := by
  rintro rfl
  have hstretch : ∀ stop, Text.stretchAt stop [] caret = [] := by
    intro stop
    rw [Text.stretchAt, List.take_nil, List.drop_nil]
    rfl
  have hat : isAt [] caret = false := by
    rw [isAt, Text.wordAt, Text.lineAt, Text.fullLineAt, hstretch, hstretch]
    decide
  rw [parseAt, hat] at h
  exact absurd h (by simp)

end Directive

/-- What is shown for a text. -/
def Document.shown (document : Document) (text : Text) : Text :=
  if document.rich then (Signature.toJson text).toText else text

/-- What is shown for all of some texts. -/
def Document.shownAll (document : Document) (texts : List Text) : Text :=
  if document.rich then (Json.arr (texts.map Signature.toJson)).toText
  else Text.joinWith ['\n', '\n'] texts

namespace Session

open Directive

variable {assistant : Assistant} {document : Document} {session after : Session} {caret : UInt64}
  {hit : Hit} {description : Text}

lemma isQuiet_directiveTooltip (assistant : Assistant) (document : Document) (hit : Option Hit) :
    IsQuiet (directiveTooltip assistant document hit) := by
  match hit with
  | none => exact isQuiet_pure _
  | some (.directive name) => exact isQuiet_pure _
  | some (.argument directive word) =>
    refine (isQuiet_project assistant document).bind fun project =>
      isQuiet_get_bind fun session => ?_
    split
    · exact isQuiet_pure _
    · exact isQuiet_pure _

/-- What is told about a hit is shown, whatever is typed. -/
lemma result_tooltip_of_hit (hhit : parseAt document.script.content caret.toNat = some hit)
    {outcome : Except Failure Text}
    (htold : (directiveTooltip assistant document (some hit)).result session =
      (outcome.map some, after)) (hint : Text) (short : Bool) :
    (tooltip assistant document caret hint short).result session =
      (outcome.map fun text => some (document.shown text), after) := by
  have htext : (tooltipText assistant document caret hint short).result session =
      (outcome.map some, after) := by
    rw [tooltipText, Document.code_of_ne_nil (ne_nil_of_parseAt hhit),
      Action.result_bind_of_ok (Action.result_ofExcept _ _), hhit, Action.result_bind, htold]
    cases outcome with
    | error failure => rfl
    | ok text => rfl
  rw [tooltip, Action.result_bind, htext]
  cases outcome with
  | error failure => rfl
  | ok text => rfl

/-- A tooltip on a directive of the table never asks the engine. It tells the file that is found for
an argument in the project, and otherwise what the table tells. The description of a member asks the
engine once, whatever is under the caret, and tells what the engine says. -/
theorem tooltip_tells_directive
    (hhit : parseAt document.script.content caret.toNat = some hit)
    (hknown : (hit.name, description) ∈ table) (assistant : Assistant) (session : Session) :
    (∀ (hint : Text) (short : Bool),
      let answered := (tooltip assistant document caret hint short).result session
      answered.2.queries = session.queries ∧
      (∀ name, hit = .directive name →
        answered = (.ok (some (document.shown (note name description))), session)) ∧
      ∀ directive word, hit = .argument directive word →
        (∀ failure resolved,
          (project assistant document).result session = (.error failure, resolved) →
          answered = (.error failure, resolved)) ∧
        ∀ project resolved,
          (Session.project assistant document).result session = (.ok project, resolved) →
          let found? := lookupFile resolved.machine.files project.searchDirs directive word
          let told := (found?.map fileNote).getD (note directive description)
          answered = (.ok (some (document.shown told)), resolved)) ∧
    ∀ hint answer after,
      (memberInfo assistant document caret hint).result session = (.ok answer, after) →
      let allOverloads := hint.any fun hint => !hint.isEmpty
      ∃ context ready blocks,
        assistant.engine (Session.machine ready) (.memberInfo context allOverloads) = .ok blocks ∧
        answer = some (document.shownAll (blocks.map Signature.tidy)) ∧
        after.queries = session.queries ++ [.memberInfo context allOverloads] := by
  replace hknown := describe_of_mem hknown
  refine ⟨fun hint short => ?_, fun hint answer after hanswer => ?_⟩
  · have hquiet := isQuiet_directiveTooltip assistant document (some hit) session
    cases hit with
    | directive name =>
      have htold : (directiveTooltip assistant document (some (.directive name))).result session =
          ((Except.ok (note name description)).map some, session) :=
        congrArg (fun note? => (Except.ok note?, session)) hknown
      rw [result_tooltip_of_hit hhit htold]
      refine ⟨rfl, ?_, by simp⟩
      rintro _ ⟨⟩
      rfl
    | argument directive word =>
      cases hproject : (project assistant document).result session with
      | mk outcome resolved =>
      cases outcome with
      | error failure =>
        have htold : (directiveTooltip assistant document (some (.argument directive word))).result
            session = ((Except.error failure).map some, resolved) := by
          rw [directiveTooltip, Action.result_bind, hproject]
          rfl
        rw [htold] at hquiet
        rw [result_tooltip_of_hit hhit htold]
        refine ⟨hquiet, by simp, fun _ _ _ => ⟨?_, by simp⟩⟩
        rintro _ _ ⟨⟩
        rfl
      | ok project =>
        have htold : (directiveTooltip assistant document (some (.argument directive word))).result
            session = ((Except.ok (((lookupFile resolved.machine.files project.searchDirs directive
              word).map fileNote).getD (note directive description))).map some, resolved) := by
          rw [directiveTooltip, Action.result_bind_of_ok hproject,
            Action.result_bind_of_ok (Action.result_get _)]
          cases lookupFile resolved.machine.files project.searchDirs directive word with
          | some file => rfl
          | none => exact congrArg (fun note? => (Except.ok note?, resolved)) hknown
        rw [htold] at hquiet
        rw [result_tooltip_of_hit hhit htold]
        refine ⟨hquiet, by simp, ?_⟩
        rintro _ _ ⟨⟩
        refine ⟨by simp, ?_⟩
        rintro _ _ ⟨⟩
        rfl
  · rw [memberInfo] at hanswer
    obtain ⟨tidied, asked, hblocks, hshown⟩ := Action.ok_of_result_bind hanswer
    obtain ⟨context, ready, blocks, hengine, rfl, hqueries⟩ := ok_of_result_memberBlocks hblocks
    rw [Action.result_pure] at hshown
    obtain ⟨htext, rfl⟩ := Prod.mk.inj hshown
    exact ⟨context, ready, blocks, hengine, (Except.ok.inj htext).symm, hqueries⟩

/-- A session whose toolchain looks for files in the folder of the script. -/
def includingSession : Session where
  machine := { loneSession.machine with
    files := ⟨[(["s".toList], .folder),
      (["s".toList, "lib.cs".toList], .file (Utf8.encode "h();".toList) false),
      (["s".toList, "main.cs".toList], .file [] false)], []⟩ }
  binding := .keep (.ofString "cscs.exe") (listingToolchain [] [.ofString "/s"])

def includingScript : Script :=
  { savedScript with content := "//css_inc lib".toList }

lemma filesIn_includingSession : includingSession.machine.files.listings.filesIn (.ofString "/s") =
    [⟨.ofString "/s", Utf8.encode "lib.cs".toList⟩,
      ⟨.ofString "/s", Utf8.encode "main.cs".toList⟩] := by
  have hnames : includingSession.machine.files.listings.fileNames (.ofString "/s") =
      [Utf8.encode "lib.cs".toList, Utf8.encode "main.cs".toList] :=
    List.mergeSort_of_pairwise (by decide)
  rw [Listings.filesIn, hnames]
  rfl

theorem tooltip_tells_directive_of_include :
    parseAt includingScript.content (0 : UInt64).toNat = some (.directive "//css_inc".toList) ∧
      parseAt includingScript.content (12 : UInt64).toNat =
        some (.argument "//css_inc".toList "lib".toList) ∧
      ("//css_inc".toList, "Alias of //css_include.".toList) ∈ table ∧
      (tooltip silentAssistant ⟨includingScript, false⟩ 0 [] false).result includingSession =
        (.ok (some "Directive: //css_inc\nAlias of //css_include.".toList), includingSession) ∧
      ((tooltip silentAssistant ⟨includingScript, false⟩ 12 [] false).result
        includingSession).1 = .ok (some "File: /s/lib.cs".toList) ∧
      ∃ context, ((memberInfo silentAssistant ⟨includingScript, false⟩ 0 none).result
        includingSession).2.queries = [.memberInfo context false] := by
  have hdirective : parseAt includingScript.content (0 : UInt64).toNat =
      some (.directive "//css_inc".toList) := by decide
  have hargument : parseAt includingScript.content (12 : UInt64).toNat =
      some (.argument "//css_inc".toList "lib".toList) := by decide
  have hknown : ("//css_inc".toList, "Alias of //css_include.".toList) ∈ table := by decide
  obtain ⟨htooltip, hmember⟩ := @tooltip_tells_directive ⟨includingScript, false⟩ 0 _ _
    hdirective hknown silentAssistant includingSession
  obtain ⟨htooltip', -⟩ := @tooltip_tells_directive ⟨includingScript, false⟩ 12 _ _
    hargument hknown silentAssistant includingSession
  obtain ⟨-, hon, -⟩ := htooltip [] false
  obtain ⟨-, -, hfile⟩ := htooltip' [] false
  obtain ⟨context, _, _, -, -, hqueries⟩ := hmember none (some []) _ (Prod.ext rfl rfl)
  refine ⟨hdirective, hargument, hknown, hon _ rfl, ?_, context, hqueries⟩
  rw [(hfile _ _ rfl).2 ⟨[.ofString "/s/main.cs"], [], [.ofString "/s"], .ofString "/s/main.cs"⟩ _
    (Prod.ext rfl rfl)]
  have hfound : lookupFile includingSession.machine.files [.ofString "/s"] "//css_inc".toList
      "lib".toList = some (.ofString "/s/lib.cs") := by
    rw [lookupFile, findListed, List.flatMap_singleton, filesIn_includingSession]
    decide
  exact congrArg (fun found? : Option Path => Except.ok (some ((found?.map fileNote).getD _)))
    hfound

/-- The description of a member says nothing of the directive on which the caret is. -/
theorem member_info_misses_directive :
    parseAt includingScript.content (0 : UInt64).toNat = some (.directive "//css_inc".toList) ∧
      ("//css_inc".toList, "Alias of //css_include.".toList) ∈ table ∧
      ((memberInfo silentAssistant ⟨includingScript, false⟩ 0 none).result includingSession).1 =
        .ok (some []) ∧
      ((memberInfo silentAssistant ⟨includingScript, false⟩ 0 none).result
        includingSession).2.queries ≠ includingSession.queries := by
  refine ⟨by decide, by decide, rfl, ?_⟩
  exact List.cons_ne_nil _ _

end Session

end ScriptAssist
