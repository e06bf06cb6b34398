import Mathlib.Logic.Relation
import ScriptAssist.Proofs.SteadyAnswers

/-!
# What is done for an answer

For the answer to a question about a script a session asks the engine and the toolchain, loads the
toolchain if it has to and writes files. It starts no program, kills no process and binds no other
toolchain.
-/

namespace ScriptAssist.Session

/-! ### Steps of work -/

/-- The toolchain that is loaded. -/
def Holds (session : Session) (toolchain : Toolchain) : Prop :=
  session.binding.loaded.map Loaded.toolchain = some toolchain

/-- A step of work. A toolchain that prints its help text does so in its own way; everything else
on the machine stays, apart from files and the record of what was asked. -/
inductive WorkStep (assistant : Assistant) (session : Session) : Session → Prop
  | ask (query : Query) : WorkStep assistant session (session.log (.query query))
  | askProject (script : Path) (content : Option Text) :
      WorkStep assistant session (session.log (.project script content))
  | askHelp : WorkStep assistant session (session.log .help)
  | load {toolchain : Toolchain} (unloaded : session.binding.loaded = none)
      (loads : assistant.load session.machine session.source = .ok toolchain) :
      WorkStep assistant session
        ⟨session.machine.log (.load session.source), .keep session.source toolchain⟩
  | failToLoad (unloaded : session.binding.loaded = none) :
      WorkStep assistant session (session.log (.load session.source))
  | store (files : Files) :
      WorkStep assistant session (session.withMachine { session.machine with files := files })
  | print {toolchain : Toolchain} {print : Machine → Except Failure Text × Machine}
      (holds : session.Holds toolchain) (prints : toolchain.help = .printed print) :
      WorkStep assistant session (session.withMachine (print session.machine).2)
  | keepHelp (file : Path) :
      WorkStep assistant session ⟨session.machine, session.binding.rememberHelp file⟩

/-- Any number of steps of work. -/
def Work (assistant : Assistant) : Session → Session → Prop :=
  Relation.ReflTransGen (WorkStep assistant)

/-- Whatever becomes of the action, it only works. -/
def Works (assistant : Assistant) {α : Type} (action : Action Session α) : Prop :=
  ∀ session, Work assistant session (action.result session).2

/-- The action only works if the toolchain is loaded. -/
def WorksWith (assistant : Assistant) (toolchain : Toolchain) {α : Type}
    (action : Action Session α) : Prop :=
  ∀ session, session.Holds toolchain → Work assistant session (action.result session).2

section

variable {assistant : Assistant} {α β : Type} {action : Action Session α}
  {next : α → Action Session β}

lemma works_ofExcept (value : Except Failure α) : Works assistant (Action.ofExcept value) :=
  fun _ => .refl

lemma works_pure (a : α) : Works assistant (pure a : Action Session α) :=
  fun _ => .refl

lemma work_bind {session : Session} (h : Work assistant session (action.result session).2)
    (hnext : ∀ a, Works assistant (next a)) :
    Work assistant session ((action >>= next).result session).2 := by
  rw [Action.result_bind]
  cases hresult : action.result session with
  | mk outcome between =>
    rw [hresult] at h
    cases outcome with
    | error failure => exact h
    | ok a => exact h.trans (hnext a between)

lemma Works.bind (h : Works assistant action) (hnext : ∀ a, Works assistant (next a)) :
    Works assistant (action >>= next) :=
  fun session => work_bind (h session) hnext

lemma works_get_bind {next : Session → Action Session β}
    (hnext : ∀ session, Work assistant session ((next session).result session).2) :
    Works assistant (get >>= next) := by
  intro session
  rw [Action.result_bind_of_ok (Action.result_get session)]
  exact hnext session

/-! ### Steps of a session -/

lemma works_ask (query : Query) : Works assistant (ask assistant query) :=
  fun _ => .single (.ask query)

lemma works_toolchain : Works assistant (toolchain assistant) := by
  intro session
  cases hloaded : session.binding.loaded with
  | some found =>
    rw [result_toolchain_of_loaded hloaded]
    exact .refl
  | none =>
    rw [result_toolchain_of_notLoaded hloaded]
    cases hload : assistant.load session.machine session.source with
    | error failure => exact .single (.failToLoad hloaded)
    | ok toolchain => exact .single (.load hloaded hload)

lemma holds_of_toolchain {session after : Session} {found : Toolchain}
    (h : (toolchain assistant).result session = (.ok found, after)) : after.Holds found := by
  rw [result_toolchain, Prod.mk.injEq] at h
  obtain ⟨loaded, hloaded, rfl⟩ := loaded_of_get_ok h.1
  rw [← h.2, Holds, hloaded]
  rfl

lemma works_toolchain_bind {next : Toolchain → Action Session β}
    (hnext : ∀ toolchain, WorksWith assistant toolchain (next toolchain)) :
    Works assistant (toolchain assistant >>= next) := by
  intro session
  have hwork : Work assistant session ((toolchain assistant).result session).2 :=
    works_toolchain session
  rw [Action.result_bind]
  cases hresult : (toolchain assistant).result session with
  | mk outcome between =>
    rw [hresult] at hwork
    cases outcome with
    | error failure => exact hwork
    | ok found => exact hwork.trans (hnext found between (holds_of_toolchain hresult))

lemma works_askProject (toolchain : Toolchain) (script : Path) :
    Works assistant (askProject toolchain script) :=
  works_get_bind fun _ => .single (.askProject script _)

lemma workStep_remove (session : Session) (path : Path) :
    WorkStep assistant session (session.withMachine (session.machine.remove path)) := by
  rw [Machine.remove]
  split
  · exact .store _
  · exact .store session.machine.files

lemma works_writeTemporary (script : Script) : Works assistant (writeTemporary script) := by
  refine works_get_bind fun session => ?_
  dsimp only
  rw [Machine.write]
  cases session.machine.files.write _ (Utf8.encode script.temporaryText) with
  | error cause => exact .refl
  | ok files => exact .single (.store files)

lemma works_resolveProject (toolchain : Toolchain) (script : Script) :
    Works assistant (resolveProject toolchain script) := by
  rw [resolveProject]
  split_ifs
  · refine (works_writeTemporary script).bind fun temporary => ?_
    refine works_get_bind fun session => work_bind ?_ fun project => works_pure _
    rw [Action.result_finallyDo]
    exact (works_askProject toolchain temporary session).tail (workStep_remove _ temporary)
  · exact works_askProject toolchain script.file

lemma works_project (document : Document) : Works assistant (project assistant document) :=
  works_toolchain.bind fun toolchain => works_resolveProject toolchain document.script

/-- Keeping a help text changes files only. -/
lemma files_of_keepHelp {machine kept : Machine} {file : Path} {help : Text}
    (h : keepHelp machine file help = .ok kept) :
    ∃ files, kept = { machine with files := files } := by
  simp only [keepHelp] at h
  split at h
  · exact absurd h (by simp)
  · split at h
    · exact absurd h (by simp)
    · next files hwrite => exact ⟨files, (Except.ok.inj h).symm⟩

lemma worksWith_helpFile (toolchain : Toolchain) :
    WorksWith assistant toolchain (helpFile toolchain) := by
  intro session hholds
  have hasked : Work assistant session (session.log .help) := .single .askHelp
  have hmodify : (modify fun session => session.log .help : Action Session PUnit).result session =
      (.ok ⟨⟩, session.log .help) := rfl
  rw [helpFile, Action.result_bind_of_ok hmodify,
    Action.result_bind_of_ok (Action.result_get _)]
  cases hhelp : toolchain.help with
  | named find => exact hasked
  | printed print =>
    dsimp only
    split
    · exact hasked
    · -- Whether or not the text can be kept then, it has been printed.
      have hprinted : Work assistant session
          ((session.log .help).withMachine (print (session.log .help).machine).2) :=
        hasked.tail (.print hholds hhelp)
      rw [Action.result_bind_of_ok (Action.result_set _ _)]
      cases hprint : (print (session.log .help).machine).1 with
      | error failure => exact hprinted
      | ok help =>
        rw [Action.result_bind_of_ok (Action.result_ofExcept _ _)]
        cases hkeep : keepHelp (print (session.log .help).machine).2
            (printedHelpFile (print (session.log .help).machine).2) help with
        | error failure => exact hprinted
        | ok kept =>
          obtain ⟨files, rfl⟩ := files_of_keepHelp hkeep
          exact (hprinted.tail (.store files)).tail (.keepHelp _)

lemma worksWith_helpRegion (toolchain : Toolchain) (directive : Text) :
    WorksWith assistant toolchain (helpRegion toolchain directive) := by
  intro session hholds
  refine work_bind ?_ fun file => works_get_bind fun session => ?_
  · have hfile : Work assistant session ((some <$> helpFile toolchain).result session).2 := by
      rw [map_eq_pure_bind]
      exact work_bind (worksWith_helpFile toolchain session hholds) fun _ => works_pure _
    rw [Action.result_tryCatch]
    cases hresult : (some <$> helpFile toolchain).result session with
    | mk outcome after =>
      rw [hresult] at hfile
      cases outcome with
      | error failure => exact hfile
      | ok file => exact hfile
  · split
    · exact .refl
    · split
      · exact .refl
      · exact .refl

lemma isCompositional_works (assistant : Assistant) :
    IsCompositional assistant fun _ action => Works assistant action where
  ofExcept := works_ofExcept
  bind := Works.bind
  look hnext _ := works_get_bind fun session => hnext session session
  ask := works_ask
  toolchain := works_toolchain
  project := works_project
  help directive := works_toolchain_bind fun toolchain => worksWith_helpRegion toolchain directive

/-- For a request that controls nothing a session only works. -/
theorem works_dispatch {request : Request} (h : control? request = none) :
    Works assistant (dispatch assistant request) :=
  (isCompositional_works assistant).dispatch h

end

end ScriptAssist.Session
