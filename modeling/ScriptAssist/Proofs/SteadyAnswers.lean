import Mathlib.Tactic.Lemma
import Mathlib.Tactic.SplitIfs
import ScriptAssist.Proofs.Compositions
import ScriptAssist.Proofs.TemporaryFiles
import ScriptAssist.Proofs.ToolchainLoads

/-!
# Steady answers

If the engine and the toolchains have no memory, what a request comes to rests on the machine and
the location of the toolchain only. Neither what was recorded before nor whether the toolchain is
loaded makes a difference, and the request leaves the machine and the location as they are.
-/

namespace ScriptAssist

/-! ### Without a record -/

/-- The machine as if nothing had happened on it. -/
def Machine.unrecorded (machine : Machine) : Machine :=
  { machine with events := [] }

/-- A help text in a file that is named regardless of what happened before. One that is printed is
kept in a file of its own, so the files do not stay as they are. -/
def HelpSource.IsMemoryless : HelpSource → Prop
  | .named find => ∀ machine, find machine = find machine.unrecorded
  | .printed _ => False

/-- A toolchain whose answers depend on the machine, but not on what happened before. -/
structure Toolchain.IsMemoryless (toolchain : Toolchain) : Prop where
  project : ∀ machine script,
    toolchain.project machine script = toolchain.project machine.unrecorded script
  help : toolchain.help.IsMemoryless

/-- An engine whose answers do not depend on what happened before, and toolchains that do not
either. -/
structure Assistant.IsMemoryless (assistant : Assistant) : Prop where
  engine : ∀ machine query,
    assistant.engine machine query = assistant.engine machine.unrecorded query
  load : ∀ machine location,
    assistant.load machine location = assistant.load machine.unrecorded location
  loaded : ∀ machine location toolchain, assistant.load machine location = .ok toolchain →
    toolchain.IsMemoryless

def Event.isLoad : Event → Bool
  | .load _ => true
  | _ => false

namespace Machine

lemma freePath_unrecorded (machine : Machine) (extension : Text) :
    machine.unrecorded.freePath extension = machine.freePath extension := by
  have hnumber : ∀ tries number, machine.unrecorded.freeNumber extension number tries =
      machine.freeNumber extension number tries := by
    intro tries
    induction tries with
    | zero => exact fun _ => rfl
    | succ tries ih =>
      intro number
      rw [freeNumber, freeNumber, ih]
      rfl
  rw [freePath, hnumber]
  rfl

lemma write_eq_unrecorded (machine : Machine) (path : Path) (content : Bytes) :
    machine.write path content =
      (machine.unrecorded.write path content).map fun written =>
        { written with events := machine.events } := by
  have hwrite : machine.unrecorded.write path content =
      (machine.files.write path content).map fun files => { machine.unrecorded with files := files } :=
    rfl
  rw [hwrite, write]
  cases machine.files.write path content with
  | error cause => rfl
  | ok files => rfl

end Machine

open Session

/-- What the answers to requests rest on. -/
structure Basis where
  assistant : Assistant
  memoryless : assistant.IsMemoryless
  machine : Machine
  location : Path

namespace Basis

variable {α β : Type} {basis : Basis} {session before between after : Session}
  {asked asked' : List Event}

/-- A session on the machine, whose toolchain is loaded, or is to be loaded, from the location. -/
structure Supports (basis : Basis) (session : Session) : Prop where
  machine : session.machine.unrecorded = basis.machine
  source : session.source = basis.location
  loaded : ∀ found, session.binding.loaded = some found →
    basis.assistant.load basis.machine basis.location = .ok found.toolchain

/-- The first session on the machine. -/
def origin (basis : Basis) : Session :=
  ⟨basis.machine, .unbound⟩

/-- What is asked of others from one session to another, apart from loads of the toolchain. -/
def Asks (before after : Session) (asked : List Event) : Prop :=
  ∃ events, after.machine.events = before.machine.events ++ events ∧
    events.filter (fun event => !event.isLoad) = asked

lemma asks_self (session : Session) : Asks session session [] :=
  ⟨[], (List.append_nil _).symm, rfl⟩

lemma asks_log (session : Session) {event : Event} (h : event.isLoad = false) :
    Asks session (session.log event) [event] :=
  ⟨[event], rfl, by simp [h]⟩

lemma Asks.trans (h : Asks before between asked) (h' : Asks between after asked') :
    Asks before after (asked ++ asked') := by
  obtain ⟨events, hevents, rfl⟩ := h
  obtain ⟨events', hevents', rfl⟩ := h'
  exact ⟨events ++ events', by rw [hevents', hevents, List.append_assoc], List.filter_append ..⟩

namespace Supports

lemma files (h : basis.Supports session) : session.machine.files = basis.machine.files := by
  rw [← h.machine]
  rfl

lemma engine (h : basis.Supports session) (query : Query) :
    basis.assistant.engine session.machine query = basis.assistant.engine basis.machine query := by
  rw [basis.memoryless.engine, h.machine]

lemma load (h : basis.Supports session) :
    basis.assistant.load session.machine session.source =
      basis.assistant.load basis.machine basis.location := by
  rw [basis.memoryless.load, h.machine, h.source]

lemma log (h : basis.Supports session) (event : Event) : basis.Supports (session.log event) :=
  ⟨h.machine, h.source, h.loaded⟩

end Supports

/-- From every session that the basis supports, the action comes to this outcome and asks this, and
the session behind it is supported too. -/
def Gives (basis : Basis) (action : Action Session α) (outcome : Except Failure α)
    (asked : List Event) : Prop :=
  ∀ session, basis.Supports session →
    (action.result session).1 = outcome ∧
      Asks session (action.result session).2 asked ∧ basis.Supports (action.result session).2

/-- What the action comes to, and what it asks, rests on the basis. -/
def Steady (basis : Basis) (action : Action Session α) : Prop :=
  ∃ outcome asked, basis.Gives action outcome asked

section

variable {action : Action Session α} {next : α → Action Session β} {a : α} {failure : Failure}
  {outcome : Except Failure β}

lemma Gives.bind_ok (h : basis.Gives action (.ok a) asked)
    (hnext : basis.Gives (next a) outcome asked') :
    basis.Gives (action >>= next) outcome (asked ++ asked') := by
  intro session hsession
  obtain ⟨houtcome, hasked, hbetween⟩ := h session hsession
  obtain ⟨houtcome', hasked', hafter⟩ := hnext _ hbetween
  rw [Action.result_bind_of_ok (Prod.ext houtcome rfl)]
  exact ⟨houtcome', hasked.trans hasked', hafter⟩

lemma Gives.bind_error (h : basis.Gives action (.error failure) asked) :
    basis.Gives (action >>= next) (.error failure) asked := by
  intro session hsession
  obtain ⟨houtcome, hasked, hafter⟩ := h session hsession
  rw [Action.result_bind, show action.result session = (.error failure, _) from Prod.ext houtcome rfl]
  exact ⟨rfl, hasked, hafter⟩

lemma Gives.bind {outcome : Except Failure α} (h : basis.Gives action outcome asked)
    (hnext : ∀ a, outcome = .ok a → basis.Steady (next a)) : basis.Steady (action >>= next) := by
  cases outcome with
  | error failure => exact ⟨_, _, h.bind_error⟩
  | ok a =>
    obtain ⟨outcome', asked', hnext⟩ := hnext a rfl
    exact ⟨_, _, h.bind_ok hnext⟩

lemma Steady.bind (h : basis.Steady action) (hnext : ∀ a, basis.Steady (next a)) :
    basis.Steady (action >>= next) := by
  obtain ⟨outcome, asked, h⟩ := h
  exact h.bind fun a _ => hnext a

lemma gives_ofExcept (value : Except Failure α) : basis.Gives (Action.ofExcept value) value [] :=
  fun session hsession => ⟨rfl, asks_self session, hsession⟩

lemma steady_ofExcept (value : Except Failure α) : basis.Steady (Action.ofExcept value) :=
  ⟨value, [], gives_ofExcept value⟩

lemma steady_pure (a : α) : basis.Steady (pure a) :=
  steady_ofExcept (.ok a)

lemma Steady.map (h : basis.Steady action) (f : α → β) : basis.Steady (f <$> action) := by
  have hbind := h.bind fun a => steady_pure (f a)
  rwa [← map_eq_pure_bind] at hbind

lemma Steady.tryCatch (h : basis.Steady action) {handler : Failure → Action Session α}
    (hhandler : ∀ failure, basis.Steady (handler failure)) :
    basis.Steady (tryCatch action handler) := by
  obtain ⟨outcome, asked, h⟩ := h
  cases outcome with
  | ok a =>
    refine ⟨.ok a, asked, fun session hsession => ?_⟩
    obtain ⟨houtcome, hasked, hafter⟩ := h session hsession
    rw [Action.result_tryCatch, show action.result session = (.ok a, _) from Prod.ext houtcome rfl]
    exact ⟨rfl, hasked, hafter⟩
  | error failure =>
    obtain ⟨outcome', asked', hhandler⟩ := hhandler failure
    refine ⟨outcome', asked ++ asked', fun session hsession => ?_⟩
    obtain ⟨houtcome, hasked, hbetween⟩ := h session hsession
    obtain ⟨houtcome', hasked', hafter⟩ := hhandler _ hbetween
    rw [Action.result_tryCatch,
      show action.result session = (.error failure, _) from Prod.ext houtcome rfl]
    exact ⟨houtcome', hasked.trans hasked', hafter⟩

/-- What follows a look at the session may use what the basis fixes. -/
lemma steady_get_bind {next : Session → Action Session β}
    (hsame : ∀ session, basis.Supports session → next session = next basis.origin)
    (hnext : basis.Steady (next basis.origin)) : basis.Steady (get >>= next) := by
  obtain ⟨outcome, asked, hnext⟩ := hnext
  refine ⟨outcome, asked, fun session hsession => ?_⟩
  rw [Action.result_bind_of_ok (Action.result_get session), hsame session hsession]
  exact hnext session hsession

end

/-! ### Steps of a session -/

lemma gives_ask (query : Query) :
    basis.Gives (ask basis.assistant query) (basis.assistant.engine basis.machine query)
      [.query query] :=
  fun session hsession => ⟨hsession.engine query, asks_log session rfl, hsession.log _⟩

lemma steady_ask (query : Query) : basis.Steady (ask basis.assistant query) :=
  ⟨_, _, gives_ask query⟩

/-- The toolchain that is loaded, or is to be loaded, from the location of the basis. -/
def toolchain (basis : Basis) : Except Failure Toolchain :=
  match basis.assistant.load basis.machine basis.location with
  | .ok toolchain => .ok toolchain
  | .error _ => .error (.toolchainUnavailable basis.location)

lemma toolchain_eq_ok {toolchain : Toolchain} (h : basis.toolchain = .ok toolchain) :
    basis.assistant.load basis.machine basis.location = .ok toolchain := by
  rw [Basis.toolchain] at h
  split at h
  · next fresh hload => rw [hload, Except.ok.inj h]
  · exact absurd h (by simp)

lemma gives_toolchain : basis.Gives (Session.toolchain basis.assistant) basis.toolchain [] := by
  intro session hsession
  cases hloaded : session.binding.loaded with
  | some found =>
    rw [result_toolchain_of_loaded hloaded, Basis.toolchain, hsession.loaded found hloaded]
    exact ⟨rfl, asks_self session, hsession⟩
  | none =>
    have hasks : ∀ binding, Asks session
        ⟨session.machine.log (.load session.source), binding⟩ [] :=
      fun _ => ⟨[.load session.source], rfl, rfl⟩
    rw [result_toolchain_of_notLoaded hloaded, Basis.toolchain, hsession.load]
    cases hload : basis.assistant.load basis.machine basis.location with
    | error failure =>
      refine ⟨by rw [hsession.source], hasks _, hsession.machine, hsession.source, ?_⟩
      exact hsession.loaded
    | ok toolchain =>
      refine ⟨rfl, hasks _, hsession.machine, hsession.source, fun found hfound => ?_⟩
      obtain rfl := Option.some.inj hfound
      exact hload

lemma steady_toolchain_bind {next : Toolchain → Action Session β}
    (h : ∀ toolchain, toolchain.IsMemoryless → basis.Steady (next toolchain)) :
    basis.Steady (Session.toolchain basis.assistant >>= next) :=
  gives_toolchain.bind fun toolchain htoolchain =>
    h toolchain (basis.memoryless.loaded _ _ _ (toolchain_eq_ok htoolchain))

lemma steady_askProject {toolchain : Toolchain} (h : toolchain.IsMemoryless) (script : Path) :
    basis.Steady (askProject toolchain script) := by
  refine ⟨toolchain.project basis.machine script,
    [.project script (basis.machine.files.readSource script).toOption], fun session hsession => ?_⟩
  have hresult : (askProject toolchain script).result session =
      (toolchain.project session.machine script,
        session.log (.project script (session.machine.files.readSource script).toOption)) := rfl
  rw [hresult, h.project, hsession.machine, hsession.files]
  exact ⟨rfl, asks_log session rfl, hsession.log _⟩

/-- The temporary file for an unsaved script is only there while the toolchain is asked. -/
lemma result_resolveProject_of_unsaved {script : Script} (hunsaved : script.isUnsaved = true)
    (toolchain : Toolchain) (session : Session) :
    let path := session.machine.freePath script.file.pointedExtension
    (resolveProject toolchain script).result session =
      match session.machine.write path (Utf8.encode script.temporaryText) with
      | .ok written =>
        ((toolchain.project written path).map fun project =>
            project.standFor script.file path ((written.files.canonical? path).getD path),
          session.log (.project path (written.files.readSource path).toOption))
      | .error cause => (.error (.cannotCreateScript cause), session) := by
  intro path
  have hwritten : (writeTemporary script).result session =
      match session.machine.write path (Utf8.encode script.temporaryText) with
      | .ok written => (.ok path, session.withMachine written)
      | .error cause => (.error (.cannotCreateScript cause), session) := by
    rw [writeTemporary, Action.result_bind_of_ok (Action.result_get session)]
    dsimp only
    cases session.machine.write path (Utf8.encode script.temporaryText) with
    | ok written => rfl
    | error cause => rfl
  rw [resolveProject, if_pos hunsaved, Action.result_bind, hwritten]
  cases hwrite : session.machine.write path (Utf8.encode script.temporaryText) with
  | error cause => rfl
  | ok written =>
    have hremove := Machine.remove_freePath script.file.noSlash_pointedExtension hwrite
      (.project path (written.files.readSource path).toOption)
    have hasked : ((askProject toolchain path).finallyDo fun session =>
          session.withMachine (session.machine.remove path)).result (session.withMachine written) =
        (toolchain.project written path,
          session.log (.project path (written.files.readSource path).toOption)) := by
      rw [Action.result_finallyDo]
      exact Prod.ext rfl (congrArg session.withMachine hremove)
    dsimp only
    rw [Action.result_bind_of_ok (Action.result_get _), Action.result_bind, hasked]
    cases toolchain.project written path with
    | error failure => rfl
    | ok project => rfl

lemma steady_resolveProject {toolchain : Toolchain} (h : toolchain.IsMemoryless)
    (script : Script) : basis.Steady (resolveProject toolchain script) := by
  cases hunsaved : script.isUnsaved with
  | false =>
    rw [resolveProject, if_neg (by simp [hunsaved])]
    exact steady_askProject h script.file
  | true =>
    let path := basis.machine.freePath script.file.pointedExtension
    have hpath : ∀ session, basis.Supports session →
        session.machine.freePath script.file.pointedExtension = path := by
      intro session hsession
      rw [← Machine.freePath_unrecorded, hsession.machine]
    cases hwrite : basis.machine.write path (Utf8.encode script.temporaryText) with
    | error cause =>
      refine ⟨.error (.cannotCreateScript cause), [], fun session hsession => ?_⟩
      rw [result_resolveProject_of_unsaved hunsaved, hpath session hsession,
        Machine.write_eq_unrecorded, hsession.machine, hwrite]
      exact ⟨rfl, asks_self session, hsession⟩
    | ok written =>
      refine ⟨(toolchain.project written path).map fun project =>
          project.standFor script.file path ((written.files.canonical? path).getD path),
        [.project path (written.files.readSource path).toOption], fun session hsession => ?_⟩
      rw [result_resolveProject_of_unsaved hunsaved, hpath session hsession,
        Machine.write_eq_unrecorded, hsession.machine, hwrite, Except.map, h.project written]
      dsimp only
      rw [h.project]
      exact ⟨rfl, asks_log session rfl, hsession.log _⟩

lemma steady_project (document : Document) :
    basis.Steady (Session.project basis.assistant document) :=
  steady_toolchain_bind fun _ h => steady_resolveProject h document.script

lemma steady_helpFile {toolchain : Toolchain} (h : toolchain.IsMemoryless) :
    basis.Steady (helpFile toolchain) := by
  have hmemoryless := h.help
  cases hhelp : toolchain.help with
  | printed print =>
    rw [hhelp] at hmemoryless
    exact hmemoryless.elim
  | named find =>
    rw [hhelp] at hmemoryless
    refine ⟨find basis.machine, [.help], fun session hsession => ?_⟩
    have hresult : (helpFile toolchain).result session =
        (find (session.log .help).machine, session.log .help) := by
      rw [helpFile, hhelp]
      rfl
    rw [hresult, hmemoryless, (hsession.log .help).machine]
    exact ⟨rfl, asks_log session rfl, hsession.log .help⟩

lemma steady_helpRegion {toolchain : Toolchain} (h : toolchain.IsMemoryless) (directive : Text) :
    basis.Steady (helpRegion toolchain directive) := by
  refine Steady.bind (((steady_helpFile h).map some).tryCatch fun _ => steady_pure none)
    fun file => steady_get_bind (fun session hsession => ?_) ?_
  · rw [hsession.files]
    rfl
  · split
    · exact steady_pure _
    · split
      · exact steady_pure _
      · exact steady_pure _

lemma isCompositional_steady (basis : Basis) :
    IsCompositional basis.assistant fun _ action => basis.Steady action where
  ofExcept := steady_ofExcept
  bind := Steady.bind
  look hnext hsame :=
    steady_get_bind (fun session hsession => hsame session basis.origin hsession.files)
      (hnext basis.origin)
  ask := steady_ask
  toolchain := ⟨_, _, gives_toolchain⟩
  project := steady_project
  help directive := steady_toolchain_bind fun _ htoolchain => steady_helpRegion htoolchain directive

/-- A request that controls nothing is answered from the basis. -/
theorem steady_dispatch {request : Request} (h : control? request = none) :
    basis.Steady (dispatch basis.assistant request) :=
  basis.isCompositional_steady.dispatch h

end Basis

end ScriptAssist
