import ScriptAssist.Proofs.ServerBooks
import ScriptAssist.Proofs.SteadyAnswers

/-!
# Histories

What came before a request shows in its answer only through the location that is bound when it
comes: neither the requests that were answered or failed before, nor the temporary files they had
written, nor whether the toolchain has been loaded make a difference.
-/

namespace ScriptAssist

namespace Session

/-- The session after a history of requests, which starts with no toolchain bound. -/
def after (assistant : Assistant) (machine : Machine) (history : List Request) : Session :=
  (processAll assistant history ⟨machine, .unbound⟩).2

/-- Whether a request starts no program and kills no process. It may be about a script, bind the
toolchain, or ask for nothing that is known. -/
def sparesProcesses (request : Request) : Bool :=
  match control? request with
  | none | some (.rebind _) => true
  | some (.start _) | some (.kill _) => false

/-- A request that may bind the default toolchain, but not by another way to write its location. -/
def NamesDefaultPlainly (machine : Machine) (request : Request) : Prop :=
  ∀ text, control? request = some (.rebind text) →
    machine.defaultToolchain.sameAs (machine.resolveLocation text) = true →
    machine.resolveLocation text = machine.defaultToolchain

/-- What comes of a request: the reply, and what is asked of others apart from loads of the
toolchain. -/
def response (assistant : Assistant) (session : Session) (request : Request) :
    Option Text × List Event :=
  let handled := process assistant request session
  (handled.1, (handled.2.machine.events.drop session.machine.events.length).filter
    fun event => !event.isLoad)

lemma sparesProcesses_cases {request : Request} (h : sparesProcesses request = true) :
    control? request = none ∨ ∃ text, control? request = some (.rebind text) := by
  rw [sparesProcesses] at h
  split at h
  · next hanalysis => exact .inl hanalysis
  · next text hcontrol => exact .inr ⟨text, hcontrol⟩
  · exact absurd h (by decide)
  · exact absurd h (by decide)

lemma processAll_append (assistant : Assistant) (requests later : List Request)
    (session : Session) :
    (processAll assistant (requests ++ later) session).2 =
      (processAll assistant later (processAll assistant requests session).2).2 := by
  induction requests generalizing session with
  | nil => rfl
  | cons request requests ih => exact ih (process assistant request session).2

lemma process_rebind {request : Request} {text : Text}
    (h : control? request = some (.rebind text)) (assistant : Assistant) (session : Session) :
    (process assistant request session).2 = (session.rebind text).2 := by
  rw [process, dispatch, h]
  rfl

/-- Where binding the toolchain leads does not depend on whether the default location was bound or
only meant. -/
lemma source_rebind (session : Session) {text : Text}
    (hplain : session.machine.defaultToolchain.sameAs (session.machine.resolveLocation text) = true →
      session.machine.resolveLocation text = session.machine.defaultToolchain) :
    (session.rebind text).2.source =
      if session.source.sameAs (session.machine.resolveLocation text) then session.source
      else session.machine.resolveLocation text := by
  rw [rebind_eq]
  cases hlocation : session.binding.location with
  | none =>
    have hsource : session.source = session.machine.defaultToolchain := by
      rw [source, Binding.source, hlocation]
      rfl
    rw [hsource]
    by_cases hsame : session.machine.defaultToolchain.sameAs
        (session.machine.resolveLocation text) = true
    · rw [if_pos hsame, ← hplain hsame]
      rfl
    · rw [if_neg hsame]
      rfl
  | some bound =>
    have hsource : session.source = bound := by
      rw [source, Binding.source, hlocation]
      rfl
    rw [Option.any_some, hsource]
    split_ifs
    · exact hsource
    · rfl

end Session

open Session

namespace Basis

variable {basis : Basis} {session session' : Session} {request : Request}

/-! ### What a session rests on after a request -/

/-- The basis with the toolchain at another location. -/
def moveTo (basis : Basis) (location : Path) : Basis :=
  { basis with location := location }

/-- A session that the basis supports, but for the location. -/
def Carries (basis : Basis) (session : Session) : Prop :=
  (basis.moveTo session.source).Supports session

lemma carries_of_notLoaded (hmachine : session.machine.unrecorded = basis.machine)
    (hloaded : session.binding.loaded = none) : basis.Carries session :=
  ⟨hmachine, rfl, fun found hfound => absurd (hloaded ▸ hfound) (by simp)⟩

lemma Carries.rebind (h : basis.Carries session) (text : Text) :
    basis.Carries (session.rebind text).2 := by
  rw [rebind_eq]
  split_ifs
  · exact h
  · exact carries_of_notLoaded h.machine rfl

lemma Carries.analyse (h : basis.Carries session) (hanalysis : control? request = none) :
    basis.Carries (process basis.assistant request session).2 ∧
      (process basis.assistant request session).2.source = session.source := by
  obtain ⟨outcome, asked, hgives⟩ := (basis.moveTo session.source).steady_dispatch hanalysis
  have hafter : (basis.moveTo session.source).Supports
      (process basis.assistant request session).2 := (hgives session h).2.2
  have hsource : (process basis.assistant request session).2.source = session.source :=
    hafter.source
  exact ⟨by rwa [Carries, hsource], hsource⟩

lemma Carries.process (h : basis.Carries session) (hspares : sparesProcesses request = true) :
    basis.Carries (process basis.assistant request session).2 := by
  obtain hanalysis | ⟨text, hcontrol⟩ := sparesProcesses_cases hspares
  · exact (h.analyse hanalysis).1
  · rw [process_rebind hcontrol]
    exact h.rebind text

lemma Carries.processAll {requests : List Request} (h : basis.Carries session)
    (hspares : ∀ request ∈ requests, sparesProcesses request = true) :
    basis.Carries (processAll basis.assistant requests session).2 := by
  induction requests generalizing session with
  | nil => exact h
  | cons request requests ih =>
    have hfirst := h.process (hspares request List.mem_cons_self)
    exact ih hfirst fun other hother => hspares other (List.mem_cons_of_mem request hother)

lemma Carries.source_rebind (h : basis.Carries session) {text : Text}
    (hplain : basis.machine.defaultToolchain.sameAs (basis.machine.resolveLocation text) = true →
      basis.machine.resolveLocation text = basis.machine.defaultToolchain) :
    (session.rebind text).2.source =
      if session.source.sameAs (basis.machine.resolveLocation text) then session.source
      else basis.machine.resolveLocation text := by
  have hmachine : session.machine.unrecorded = basis.machine := h.machine
  rw [← hmachine] at hplain ⊢
  exact Session.source_rebind session hplain

/-- Sessions with the same location move to the same one, whether or not the default location had
been bound. -/
lemma source_process_eq (h : basis.Carries session) (h' : basis.Carries session')
    (hsource : session.source = session'.source) (hspares : sparesProcesses request = true)
    (hplain : NamesDefaultPlainly basis.machine request) :
    (process basis.assistant request session).2.source =
      (process basis.assistant request session').2.source := by
  obtain hanalysis | ⟨text, hcontrol⟩ := sparesProcesses_cases hspares
  · rw [(h.analyse hanalysis).2, (h'.analyse hanalysis).2, hsource]
  · rw [process_rebind hcontrol, process_rebind hcontrol, h.source_rebind (hplain text hcontrol),
      h'.source_rebind (hplain text hcontrol), hsource]

lemma source_processAll_eq {requests : List Request} (h : basis.Carries session)
    (h' : basis.Carries session') (hsource : session.source = session'.source)
    (hspares : ∀ request ∈ requests, sparesProcesses request = true)
    (hplain : ∀ request ∈ requests, NamesDefaultPlainly basis.machine request) :
    (processAll basis.assistant requests session).2.source =
      (processAll basis.assistant requests session').2.source := by
  induction requests generalizing session session' with
  | nil => exact hsource
  | cons request requests ih =>
    have hfirst := hspares request List.mem_cons_self
    exact ih (h.process hfirst) (h'.process hfirst)
      (source_process_eq h h' hsource hfirst (hplain request List.mem_cons_self))
      (fun other hother => hspares other (List.mem_cons_of_mem request hother))
      fun other hother => hplain other (List.mem_cons_of_mem request hother)

/-! ### What comes of a request -/

/-- What a control request comes to, and what it asks, rests on the basis, even where it changes the
machine or the location. -/
lemma exists_outcome_obey (basis : Basis) (control : Control) :
    ∃ outcome asked, ∀ session, basis.Supports session →
      ((obey control).result session).1 = outcome ∧
        Asks session ((obey control).result session).2 asked := by
  cases control with
  | start spec =>
    cases hcommand : Command.ofSpec spec with
    | error failure =>
      refine ⟨.error failure, [], fun session _ => ?_⟩
      rw [result_obey_start, hcommand]
      exact ⟨rfl, asks_self session⟩
    | ok command =>
      have hsame : ∀ session, basis.Supports session →
          session.machine.check command = basis.machine.check command := by
        intro session hsession
        rw [← hsession.machine]
        rfl
      cases hcheck : basis.machine.check command with
      | ok _ =>
        refine ⟨.ok (), [.start command], fun session hsession => ?_⟩
        rw [result_obey_start, hcommand]
        dsimp only
        rw [hsame session hsession, hcheck]
        exact ⟨rfl, asks_log session rfl⟩
      | error cause =>
        refine ⟨.error (.cannotStart command.program.text cause), [], fun session hsession => ?_⟩
        rw [result_obey_start, hcommand]
        dsimp only
        rw [hsame session hsession, hcheck]
        exact ⟨rfl, asks_self session⟩
  | kill pid =>
    cases pid with
    | none => exact ⟨.ok (), [], fun session _ => ⟨rfl, asks_self session⟩⟩
    | some pid => exact ⟨.ok (), [.kill pid], fun session _ => ⟨rfl, [.kill pid], rfl, rfl⟩⟩
  | rebind text =>
    refine ⟨.ok (), [], fun session _ => ⟨rfl, [], ?_, rfl⟩⟩
    have hevents : (session.rebind text).2.machine.events = session.machine.events := by
      rw [rebind_eq]
      split_ifs
      · rfl
      · rfl
    rw [List.append_nil]
    exact hevents

lemma exists_outcome_dispatch (basis : Basis) (request : Request) :
    ∃ outcome asked, ∀ session, basis.Supports session →
      ((dispatch basis.assistant request).result session).1 = outcome ∧
        Asks session ((dispatch basis.assistant request).result session).2 asked := by
  cases hcontrol : control? request with
  | none =>
    obtain ⟨outcome, asked, hgives⟩ := basis.steady_dispatch hcontrol
    exact ⟨outcome, asked, fun session hsession =>
      ⟨(hgives session hsession).1, (hgives session hsession).2.1⟩⟩
  | some control =>
    obtain ⟨outcome, asked, hobey⟩ := basis.exists_outcome_obey control
    refine ⟨outcome.map fun _ => none, asked, fun session hsession => ?_⟩
    obtain ⟨houtcome, hasked⟩ := hobey session hsession
    rw [dispatch, hcontrol]
    dsimp only
    rw [Action.result_bind]
    cases hresult : (obey control).result session with
    | mk value behind =>
      rw [hresult] at houtcome hasked
      dsimp only at houtcome hasked
      rw [← houtcome]
      cases value with
      | ok _ => exact ⟨rfl, hasked⟩
      | error failure => exact ⟨rfl, hasked⟩

lemma response_eq (h : basis.Carries session) (h' : basis.Carries session')
    (hsource : session.source = session'.source) (request : Request) :
    response basis.assistant session request = response basis.assistant session' request := by
  obtain ⟨outcome, asked, hdispatch⟩ :=
    (basis.moveTo session.source).exists_outcome_dispatch request
  have hresponse : ∀ other, (basis.moveTo session.source).Supports other →
      response basis.assistant other request = (replyFor outcome, asked) := by
    intro other hother
    obtain ⟨houtcome, events, hevents, hasked⟩ := hdispatch other hother
    have hhandled : process basis.assistant request other =
        (replyFor outcome, ((dispatch basis.assistant request).result other).2) := by
      rw [← houtcome]
      rfl
    have hrecord : (process basis.assistant request other).2.machine.events =
        other.machine.events ++ events := hevents
    rw [response, hrecord, List.drop_left, hasked, hhandled]
  rw [hresponse session h, hresponse session' (hsource ▸ h')]

end Basis

namespace Session

/-- Without memory on the other side, a request is answered the same after any two histories that
end with the same location bound, the default one counting as bound when none is. So a request
about a script changes no later answer, unless the default toolchain has been bound in between by
another way to write its location. -/
theorem response_ignores_history {assistant : Assistant} (hmemoryless : assistant.IsMemoryless)
    (machine : Machine) :
    (∀ history history' : List Request,
      (∀ request ∈ history ++ history', sparesProcesses request = true) →
      (after assistant machine history).source = (after assistant machine history').source →
      ∀ request, response assistant (after assistant machine history) request =
        response assistant (after assistant machine history') request) ∧
    ∀ (history later : List Request) (analysis : Request),
      (∀ request ∈ history ++ later, sparesProcesses request = true) →
      (∀ request ∈ later, NamesDefaultPlainly machine request) → control? analysis = none →
      ∀ request, response assistant (after assistant machine (history ++ analysis :: later)) request =
        response assistant (after assistant machine (history ++ later)) request := by
  let basis : Basis := ⟨assistant, hmemoryless, machine.unrecorded, machine.defaultToolchain⟩
  have hstart : basis.Carries ⟨machine, .unbound⟩ := Basis.carries_of_notLoaded rfl rfl
  constructor
  · intro history history' hspares hsource request
    have hcarries : basis.Carries (after assistant machine history) :=
      hstart.processAll fun other hother => hspares other (List.mem_append_left _ hother)
    have hcarries' : basis.Carries (after assistant machine history') :=
      hstart.processAll fun other hother => hspares other (List.mem_append_right _ hother)
    exact Basis.response_eq hcarries hcarries' hsource request
  · intro history later analysis hspares hplain hanalysis request
    have hlater : ∀ request ∈ later, sparesProcesses request = true := fun other hother =>
      hspares other (List.mem_append_right _ hother)
    have hbefore : basis.Carries (after assistant machine history) :=
      hstart.processAll fun other hother => hspares other (List.mem_append_left _ hother)
    obtain ⟨hanalysed, hkept⟩ := hbefore.analyse hanalysis
    have hsource := Basis.source_processAll_eq hanalysed hbefore hkept hlater hplain
    have hresponse := Basis.response_eq (hanalysed.processAll hlater) (hbefore.processAll hlater)
      hsource request
    rw [after, processAll_append, after, processAll_append]
    exact hresponse

/-- A script whose editor keeps its text in another file. -/
def unsavedMachine : Machine :=
  { loneSession.machine with
    files := ⟨[(["tmp".toList], .folder), (["a.cs".toList], .file [] false),
      (["b.cs".toList], .file (Utf8.encode "f();".toList) false)], []⟩ }

def unsavedRequest : Request :=
  { Request.default with
    script := some "a.cs".toList
    rawFile := some "b.cs".toList
    operation := some "project".toList }

def bindingRequest : Request :=
  { Request.default with toolchain := some Machine.defaultToolchainText }

theorem response_ignores_history_of_unsaved :
    loneAssistant.IsMemoryless ∧
      (after loneAssistant unsavedMachine [unsavedRequest, bindingRequest]).binding.isLoaded = true ∧
      (after loneAssistant unsavedMachine []).binding.isLoaded = false ∧
      response loneAssistant (after loneAssistant unsavedMachine [unsavedRequest, bindingRequest])
          unsavedRequest =
        response loneAssistant (after loneAssistant unsavedMachine []) unsavedRequest ∧
      response loneAssistant (after loneAssistant unsavedMachine [unsavedRequest, bindingRequest])
          unsavedRequest =
        response loneAssistant (after loneAssistant unsavedMachine [bindingRequest])
          unsavedRequest ∧
      (response loneAssistant (after loneAssistant unsavedMachine []) unsavedRequest).1 =
        some "file:a.cs".toList := by
  have hmemoryless : loneAssistant.IsMemoryless :=
    ⟨fun _ _ => rfl, fun _ _ => rfl, fun _ _ toolchain htoolchain => by
      obtain rfl := Except.ok.inj htoolchain
      exact ⟨fun _ _ => rfl, fun _ => rfl⟩⟩
  have hplain : ∀ request ∈ [bindingRequest], NamesDefaultPlainly unsavedMachine request := by
    intro request hrequest text hcontrol
    obtain rfl := List.mem_singleton.1 hrequest
    have htext : Machine.defaultToolchainText = text := by
      simpa [control?, bindingRequest, Request.default, Request.startSpec?] using hcontrol
    subst htext
    exact fun _ => by decide
  have hignores := response_ignores_history hmemoryless unsavedMachine
  exact ⟨hmemoryless, by decide, by decide,
    hignores.1 [unsavedRequest, bindingRequest] [] (by decide) (by decide) unsavedRequest,
    hignores.2 [] [bindingRequest] unsavedRequest (by decide) hplain (by decide) unsavedRequest,
    by decide⟩

end Session

end ScriptAssist
