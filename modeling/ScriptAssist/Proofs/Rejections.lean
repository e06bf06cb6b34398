import ScriptAssist.Proofs.ReplyKinds

/-!
# Requests that are turned down

A request about a script that is not there, that asks for nothing known, whose unsaved copy is not
there or whose text is empty is turned down at once: nobody is asked, no toolchain is loaded, and
the session stays as it is. Of an empty script only the project can be asked for.
-/

namespace ScriptAssist

/-! ### Empty sources -/

lemma Files.readSource_of_read {files : Files} {path : Path} {content : Bytes}
    (h : files.read path = .ok content) :
    files.readSource path = .ok (Utf8.dropByteOrderMark (Utf8.decodeLossy content)) := by
  rw [readSource, h]
  rfl

lemma Files.readSource_of_byteOrderMark {files : Files} {path : Path}
    (h : files.read path = .ok (Utf8.encode [Utf8.byteOrderMark])) :
    files.readSource path = .ok [] := by
  have hdropped : Utf8.dropByteOrderMark (Utf8.decodeLossy (Utf8.encode [Utf8.byteOrderMark])) = [] := by
    decide
  rw [Files.readSource_of_read h, hdropped]

namespace Session

variable {assistant : Assistant} {request : Request} {session : Session} {document : Document}
  {operation : Operation} {failure : Failure} {path : Text} {α β : Type}

/-! ### Failing at once -/

/-- In every session the action fails and leaves the session as it is. -/
def FailsAtOnce (failure : Failure) (action : Action Session α) : Prop :=
  ∀ session, action.result session = (.error failure, session)

lemma failsAtOnce_ofExcept {value : Except Failure α} (h : value = .error failure) :
    FailsAtOnce failure (Action.ofExcept value) := by
  intro session
  rw [h]
  rfl

lemma FailsAtOnce.bind {action : Action Session α} (h : FailsAtOnce failure action)
    (next : α → Action Session β) : FailsAtOnce failure (action >>= next) := by
  intro session
  rw [Action.result_bind, h session]

/-- Every operation but one looks at the text before it asks anyone. -/
lemma failsAtOnce_perform (h : document.code = .error failure) (hoperation : operation ≠ .project)
    (assistant : Assistant) (request : Request) :
    FailsAtOnce failure (perform assistant document request operation) := by
  have hcode : FailsAtOnce failure (Action.ofExcept document.code) := failsAtOnce_ofExcept h
  have hcontext : ∀ caret, FailsAtOnce failure (decoratedContext assistant document caret) :=
    fun _ => hcode.bind _
  cases operation with
  | references => exact (hcontext _).bind _
  | suggestUsings word => exact hcode.bind _
  | resolve =>
    have hregion : FailsAtOnce failure (resolveRegion assistant document request.caret) :=
      hcode.bind _
    exact hregion.bind _
  | completion =>
    have hitems : FailsAtOnce failure (completions assistant document request.caret) :=
      hcode.bind _
    exact hitems.bind _
  | tooltip hint =>
    have htext : FailsAtOnce failure
        (tooltipText assistant document request.caret hint request.shortTooltips) :=
      hcode.bind _
    exact htext.bind _
  | memberInfo hint =>
    have hblocks : ∀ allOverloads, FailsAtOnce failure
        (memberBlocks assistant document request.caret allOverloads) :=
      fun _ => (hcontext _).bind _
    exact (hblocks _).bind _
  | project => exact absurd rfl hoperation
  | codeMap => exact hcode.bind _
  | codeMapTree => exact hcode.bind _
  | format => exact hcode.bind _

/-! ### Turning down -/

lemma process_of_inquire_error (hcontrol : control? request = none)
    (hpath : request.scriptPath? = some path)
    (h : (inquire assistant request ⟨path⟩).result session = (.error failure, session)) :
    process assistant request session = (some (failureStart ++ failure.message), session) := by
  rw [process, dispatch, hcontrol]
  dsimp only
  rw [hpath]
  dsimp only
  rw [map_eq_pure_bind, Action.result_bind, h]
  rfl

lemma failureStart_append_fileNotFound (file : Text) :
    failureStart ++ (Failure.fileNotFound file).message =
      "<error>File '".toList ++ file ++ "' doesn't exist".toList := by
  have hstart : "<error>File '".toList = failureStart ++ "File '".toList := by decide
  have hmessage : (Failure.fileNotFound file).message =
      "File '".toList ++ file ++ "' doesn't exist".toList := by
    rw [Failure.message, Failure.chain, Text.joinWith, List.intercalate_singleton]
  rw [hstart, hmessage, List.append_assoc, List.append_assoc, List.append_assoc]

lemma result_inquire_of_missing (h : session.machine.files.isFile ⟨path⟩ = false) :
    (inquire assistant request ⟨path⟩).result session = (.error (.fileNotFound path), session) := by
  rw [inquire, Action.result_bind_of_ok (Action.result_get session)]
  dsimp only
  rw [if_pos (by simp [h])]
  rfl

/-- With a file and an operation that is known, the script is loaded before anything is done. -/
lemma result_inquire_of_operation (hfile : session.machine.files.isFile ⟨path⟩ = true)
    (hoperation : request.operation? = some operation) :
    (inquire assistant request ⟨path⟩).result session =
      (Action.ofExcept (Script.load session.machine.files ⟨path⟩ (request.rawPath?.map Path.mk)) >>=
        fun script => perform assistant ⟨script, request.rich⟩ request operation >>= fun reply =>
          pure ((reply.filter fun text => !text.isEmpty).getD nullReply)).result session := by
  rw [inquire, Action.result_bind_of_ok (Action.result_get session)]
  dsimp only
  rw [if_neg (by simp [hfile]), hoperation]

lemma result_inquire_of_missing_copy {raw : Text}
    (hfile : session.machine.files.isFile ⟨path⟩ = true)
    (hoperation : request.operation? = some operation) (hraw : request.rawPath? = some raw)
    (h : session.machine.files.isFile ⟨raw⟩ = false) :
    (inquire assistant request ⟨path⟩).result session = (.error (.fileNotFound raw), session) := by
  have hload : Script.load session.machine.files ⟨path⟩ (some ⟨raw⟩) =
      .error (.fileNotFound raw) := by
    simp [Script.load, h]
  rw [result_inquire_of_operation hfile hoperation, hraw]
  exact (failsAtOnce_ofExcept hload).bind _ session

lemma result_inquire_of_empty (hfile : session.machine.files.isFile ⟨path⟩ = true)
    (hoperation : request.operation? = some operation) (hne : operation ≠ .project)
    (hsource : session.machine.files.isFile ⟨request.rawPath?.getD path⟩ = true)
    (hempty : session.machine.files.readSource ⟨request.rawPath?.getD path⟩ = .ok []) :
    (inquire assistant request ⟨path⟩).result session = (.error .emptySource, session) := by
  let script : Script := ⟨⟨path⟩, ⟨request.rawPath?.getD path⟩, []⟩
  have hraw : (request.rawPath?.map Path.mk).getD ⟨path⟩ = ⟨request.rawPath?.getD path⟩ := by
    cases request.rawPath? <;> rfl
  have hload : Script.load session.machine.files ⟨path⟩ (request.rawPath?.map Path.mk) =
      .ok script := by
    rw [Script.load, hraw, hempty]
    dsimp only
    rw [if_pos hsource]
  have hcode : Document.code ⟨script, request.rich⟩ = .error .emptySource := rfl
  rw [result_inquire_of_operation hfile hoperation, hload,
    Action.result_bind_of_ok (Action.result_ofExcept _ _)]
  exact (failsAtOnce_perform hcode hne assistant request).bind _ session

/-- A request about a script is turned down if the script is no file, else if its operation is not
known, else if its unsaved copy is no file, else if the text is empty, unless it asks for the
project. Whatever else it says, nobody is asked, no toolchain is loaded and the session stays as it
is; there is a reply for each reason. -/
theorem process_of_turned_down (assistant : Assistant) (session : Session)
    (hcontrol : ∀ control : Control, ¬ control.Requested request)
    (hpath : request.scriptPath? = some path) :
    let files := session.machine.files
    let source : Path := ⟨request.rawPath?.getD path⟩
    let repliesOnly (reply : Text) := process assistant request session = (some reply, session)
    (files.isFile ⟨path⟩ = false →
      repliesOnly ("<error>File '".toList ++ path ++ "' doesn't exist".toList)) ∧
    (files.isFile ⟨path⟩ = true → request.operation? = none → repliesOnly "<null>".toList) ∧
    (∀ operation, files.isFile ⟨path⟩ = true → request.operation? = some operation →
      (∀ raw, request.rawPath? = some raw → files.isFile ⟨raw⟩ = false →
        repliesOnly ("<error>File '".toList ++ raw ++ "' doesn't exist".toList)) ∧
      (files.isFile source = true → files.readSource source = .ok [] → operation ≠ .project →
        repliesOnly "<error>The file containing code is empty".toList)) ∧
    (∀ content, content = [] ∨ content = Utf8.encode [Utf8.byteOrderMark] →
      files.read source = .ok content → files.readSource source = .ok []) := by
  intro files source repliesOnly
  have hnone : control? request = none := control?_eq_none_iff.2 hcontrol
  refine ⟨fun hmissing => ?_, fun hfile hunknown => ?_, fun operation hfile hoperation =>
    ⟨fun raw hraw hmissing => ?_, fun hsource hempty hne => ?_⟩, ?_⟩
  · rw [← failureStart_append_fileNotFound]
    exact process_of_inquire_error hnone hpath (result_inquire_of_missing hmissing)
  · exact process_of_script hnone hpath (result_inquire_of_unknown hfile hunknown)
  · rw [← failureStart_append_fileNotFound]
    exact process_of_inquire_error hnone hpath
      (result_inquire_of_missing_copy hfile hoperation hraw hmissing)
  · exact process_of_inquire_error hnone hpath
      (result_inquire_of_empty hfile hoperation hne hsource hempty)
  · rintro content (rfl | rfl) hread
    · exact Files.readSource_of_read hread
    · exact Files.readSource_of_byteOrderMark hread

/-- A script, and a file that holds a byte order mark only. -/
def markedSession : Session :=
  { silentSession with machine := { silentSession.machine with
      files := ⟨[(["a.cs".toList], .file (Utf8.encode "f();".toList) false),
        (["b.cs".toList], .file [0xEF, 0xBB, 0xBF] false)], []⟩ } }

def question (script rawFile operation : String) : Request :=
  { Request.default with
    script := some script.toList
    rawFile := some rawFile.toList
    operation := some operation.toList }

theorem process_of_turned_down_marked :
    process silentAssistant (question "c.cs" "" "format") markedSession =
        (some "<error>File 'c.cs' doesn't exist".toList, markedSession) ∧
      process silentAssistant (question "a.cs" "c.cs" "rename") markedSession =
        (some "<null>".toList, markedSession) ∧
      process silentAssistant (question "a.cs" "c.cs" "format") markedSession =
        (some "<error>File 'c.cs' doesn't exist".toList, markedSession) ∧
      process silentAssistant (question "a.cs" "b.cs" "tooltip:") markedSession =
        (some "<error>The file containing code is empty".toList, markedSession) := by
  have hcontrol : ∀ {script rawFile operation},
      ∀ control : Control, ¬ control.Requested (question script rawFile operation) :=
    fun {_ _ _} => control?_eq_none_iff.1 rfl
  have hdown := fun script rawFile operation path hpath =>
    @process_of_turned_down (question script rawFile operation) path silentAssistant markedSession
      hcontrol hpath
  obtain ⟨hmissing, -, -, -⟩ := hdown "c.cs" "" "format" "c.cs".toList (by decide)
  obtain ⟨-, hunknown, -, -⟩ := hdown "a.cs" "c.cs" "rename" "a.cs".toList (by decide)
  obtain ⟨-, -, hcopy, -⟩ := hdown "a.cs" "c.cs" "format" "a.cs".toList (by decide)
  obtain ⟨-, -, hempty, hmark⟩ := hdown "a.cs" "b.cs" "tooltip:" "a.cs".toList (by decide)
  have hsource := hmark [0xEF, 0xBB, 0xBF] (.inr (by decide)) rfl
  exact ⟨hmissing (by decide), hunknown (by decide) (by decide),
    (hcopy .format (by decide) (by decide)).1 "c.cs".toList (by decide) (by decide),
    (hempty (.tooltip []) (by decide) (by decide)).2 (by decide) hsource (by decide)⟩

end Session

end ScriptAssist
