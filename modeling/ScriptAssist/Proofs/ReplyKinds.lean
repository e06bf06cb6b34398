import ScriptAssist.Proofs.SessionWork

/-!
# Kinds of replies

A request has one control carried out, the first that it asks for, or is worked on. There is no
reply exactly if the control was carried out, or if the request asks for no control and names no
script. Any other request is replied to with a text, which is never empty.
-/

namespace ScriptAssist.Session

/-! ### Controls -/

namespace Control

/-- The controls that a request asks for. -/
def Requested (request : Request) : Control → Prop
  | .start spec => request.start = some spec ∧ Text.trim spec ≠ []
  | .kill process => request.kill = true ∧ process = request.process
  | .rebind location => request.toolchain = some location

/-- The order in which controls come. -/
def rank : Control → Nat
  | .start _ => 0
  | .kill _ => 1
  | .rebind _ => 2

/-- The request asks for this control, and for none that comes before it. -/
def Applies (request : Request) (control : Control) : Prop :=
  control.Requested request ∧ ∀ other : Control, other.Requested request → control.rank ≤ other.rank

end Control

/-- Carrying out a control on a session. A program is started only if there is one that can be, and
without a process there is nothing to kill. -/
inductive ControlStep (session : Session) : Control → Session → Prop
  | start {spec : Text} {command : Command} (reads : Command.ofSpec spec = .ok command)
      (starts : session.machine.check command = .ok ()) :
      ControlStep session (.start spec) (session.log (.start command))
  | kill (pid : UInt32) :
      ControlStep session (.kill (some pid)) (session.withMachine (session.machine.kill pid))
  | killNone : ControlStep session (.kill none) session
  | rebind (location : Text) :
      ControlStep session (.rebind location) (session.rebind location).2

/-- The process is no longer running and the machine has a record of that. All other processes, the
files and the binding are what they were. -/
structure Killed (session : Session) (pid : UInt32) (after : Session) : Prop where
  gone : after.machine.isRunning pid = false
  others : ∀ other, other ≠ pid →
    after.machine.isRunning other = session.machine.isRunning other
  recorded : after.machine.events = session.machine.events ++ [.kill pid]
  files : after.machine.files = session.machine.files
  binding : after.binding = session.binding

section

variable {request : Request} {control other : Control} {session after : Session}
  {assistant : Assistant}

lemma ControlStep.killed {pid : UInt32} (h : ControlStep session (.kill (some pid)) after) :
    Killed session pid after := by
  cases h with
  | kill pid =>
    refine ⟨?_, fun other hother => ?_, rfl, rfl, rfl⟩
    · simp [Session.withMachine, Machine.kill, Machine.log, Machine.isRunning]
    · simp [Session.withMachine, Machine.kill, Machine.log, Machine.isRunning, hother]

lemma Control.eq_of_rank_eq (h : control.Requested request) (h' : other.Requested request)
    (hrank : control.rank = other.rank) : control = other := by
  cases control with
  | start spec =>
    cases other with
    | start spec' => rw [Option.some.inj (h.1.symm.trans h'.1)]
    | kill process | rebind location => exact absurd hrank (by simp [rank])
  | kill process =>
    cases other with
    | kill process' => rw [h.2, h'.2]
    | start spec | rebind location => exact absurd hrank (by simp [rank])
  | rebind location =>
    cases other with
    | rebind location' => rw [Option.some.inj (h.symm.trans h')]
    | start spec | kill process => exact absurd hrank (by simp [rank])

lemma Control.Applies.unique (h : control.Applies request) (h' : other.Applies request) :
    control = other :=
  eq_of_rank_eq h.1 h'.1 (Nat.le_antisymm (h.2 other h'.1) (h'.2 control h.1))

lemma startSpec?_eq_some_iff {spec : Text} :
    request.startSpec? = some spec ↔ (Control.start spec).Requested request := by
  simp [Request.startSpec?, Option.filter_eq_some_iff, Control.Requested]

lemma control?_eq_none_iff :
    control? request = none ↔ ∀ control : Control, ¬ control.Requested request := by
  rw [control?]
  cases hspec : request.startSpec? with
  | some spec =>
    exact iff_of_false (by simp) fun hnone => hnone _ (startSpec?_eq_some_iff.1 hspec)
  | none =>
    by_cases hkill : request.kill = true
    · rw [if_pos hkill]
      exact iff_of_false (by simp) fun hnone => hnone (.kill request.process) ⟨hkill, rfl⟩
    · rw [if_neg hkill, Option.map_eq_none_iff]
      constructor
      · intro htoolchain control hrequested
        cases control with
        | start spec => exact absurd (startSpec?_eq_some_iff.2 hrequested) (by simp [hspec])
        | kill process => exact hkill hrequested.1
        | rebind location => exact absurd hrequested (by simp [Control.Requested, htoolchain])
      · intro hnone
        rw [Option.eq_none_iff_forall_ne_some]
        exact fun location hlocation => hnone (.rebind location) hlocation

/-- What is looked for first is what applies. -/
lemma applies_of_control? (h : control? request = some control) : control.Applies request := by
  rw [control?] at h
  split at h
  · next spec hspec =>
    obtain rfl := Option.some.inj h
    exact ⟨startSpec?_eq_some_iff.1 hspec, fun other _ => Nat.zero_le _⟩
  · next hspec =>
    have hstart : ∀ spec, ¬ (Control.start spec).Requested request := fun spec hrequested =>
      absurd (startSpec?_eq_some_iff.2 hrequested) (by simp [hspec])
    split at h
    · next hkill =>
      obtain rfl := Option.some.inj h
      refine ⟨⟨hkill, rfl⟩, fun other hother => ?_⟩
      cases other with
      | start spec => exact absurd hother (hstart spec)
      | kill process => exact Nat.le_refl 1
      | rebind location => exact Nat.le_succ 1
    · next hkill =>
      obtain ⟨location, hlocation, rfl⟩ := Option.map_eq_some_iff.1 h
      refine ⟨hlocation, fun other hother => ?_⟩
      cases other with
      | start spec => exact absurd hother (hstart spec)
      | kill process => exact absurd hother.1 hkill
      | rebind location => exact Nat.le_refl 2

lemma control?_eq_some_iff : control? request = some control ↔ control.Applies request := by
  refine ⟨applies_of_control?, fun happlies => ?_⟩
  cases hfound : control? request with
  | none => exact absurd happlies.1 (control?_eq_none_iff.1 hfound control)
  | some found => rw [(applies_of_control? hfound).unique happlies]

/-! ### Carrying out a control -/

/-- A control is carried out, or it cannot be and the session stays as it is. -/
lemma obey_cases (control : Control) (session : Session) :
    (∃ after, ControlStep session control after ∧ (obey control).result session = (.ok (), after)) ∨
      (∀ after, ¬ ControlStep session control after) ∧
        ∃ failure, (obey control).result session = (.error failure, session) := by
  cases control with
  | start spec =>
    rw [result_obey_start]
    cases hread : Command.ofSpec spec with
    | error failure =>
      refine .inr ⟨fun after hstep => ?_, failure, rfl⟩
      cases hstep with
      | start reads starts => exact absurd (reads.symm.trans hread) (by simp)
    | ok command =>
      dsimp only
      cases hcheck : session.machine.check command with
      | error cause =>
        refine .inr ⟨fun after hstep => ?_, _, rfl⟩
        cases hstep with
        | start reads starts =>
          obtain rfl := Except.ok.inj (reads.symm.trans hread)
          exact absurd (starts.symm.trans hcheck) (by simp)
      | ok _ => exact .inl ⟨_, .start hread hcheck, rfl⟩
  | kill process =>
    cases process with
    | none => exact .inl ⟨session, .killNone, rfl⟩
    | some pid => exact .inl ⟨_, .kill pid, rfl⟩
  | rebind location => exact .inl ⟨_, .rebind location, rfl⟩

lemma process_of_control (h : control? request = some control) (assistant : Assistant) :
    process assistant request session =
      match (obey control).result session with
      | (.ok _, after) => (none, after)
      | (.error failure, after) => (some (failureStart ++ failure.message), after) := by
  rw [process, dispatch, h]
  dsimp only
  rw [Action.result_bind]
  cases (obey control).result session with
  | mk outcome after => cases outcome <;> rfl

lemma process_of_applies (h : control.Applies request) (assistant : Assistant)
    (session : Session) :
    (∃ after, ControlStep session control after ∧
        process assistant request session = (none, after)) ∨
      (∀ after, ¬ ControlStep session control after) ∧ ∃ failure : Failure,
        process assistant request session = (some (failureStart ++ failure.message), session) := by
  rw [process_of_control (control?_eq_some_iff.2 h)]
  obtain ⟨after, hstep, hobey⟩ | ⟨hvain, failure, hobey⟩ := obey_cases control session
  · exact .inl ⟨after, hstep, by rw [hobey]⟩
  · exact .inr ⟨hvain, failure, by rw [hobey]⟩

/-! ### Working on a script -/

lemma scriptPath?_eq_none_iff :
    request.scriptPath? = none ↔
      ∀ script, request.script = some script → Text.trim script = [] := by
  simp [Request.scriptPath?, Option.filter_eq_none_iff]

lemma failureStart_append_ne_nil (text : Text) : failureStart ++ text ≠ [] := by
  intro hnil
  have hstart : failureStart ≠ [] := by decide
  exact hstart (List.append_eq_nil_iff.1 hnil).1

/-- What an operation has to say, or that it has nothing to say. -/
lemma answer_ne_nil (answer : Option Text) :
    (answer.filter fun text => !text.isEmpty).getD nullReply ≠ [] := by
  cases hfilter : answer.filter fun text => !text.isEmpty with
  | none => decide
  | some text =>
    obtain ⟨-, htext⟩ := Option.filter_eq_some_iff.1 hfilter
    simpa using htext

lemma process_of_script {path : Text} (h : control? request = none)
    (hpath : request.scriptPath? = some path) {text : Text}
    (hreply : (inquire assistant request ⟨path⟩).result session = (.ok text, after)) :
    process assistant request session = (some text, after) := by
  rw [process, dispatch, h]
  dsimp only
  rw [hpath]
  dsimp only
  rw [map_eq_pure_bind, Action.result_bind_of_ok hreply]
  rfl

lemma result_inquire {path : Path} {operation : Operation} {script : Script}
    {answer : Option Text} (hfile : session.machine.files.isFile path = true)
    (hoperation : request.operation? = some operation)
    (hscript : Script.load session.machine.files path (request.rawPath?.map Path.mk) = .ok script)
    (hanswer : (perform assistant ⟨script, request.rich⟩ request operation).result session =
      (.ok answer, after)) :
    (inquire assistant request path).result session =
      (.ok ((answer.filter fun text => !text.isEmpty).getD nullReply), after) := by
  rw [inquire, Action.result_bind_of_ok (Action.result_get session)]
  dsimp only
  rw [if_neg (by simp [hfile]), hoperation]
  dsimp only
  rw [hscript, Action.result_bind_of_ok (Action.result_ofExcept _ _),
    Action.result_bind_of_ok hanswer]
  rfl

lemma result_inquire_of_unknown {path : Path}
    (hfile : session.machine.files.isFile path = true) (hoperation : request.operation? = none) :
    (inquire assistant request path).result session = (.ok nullReply, session) := by
  rw [inquire, Action.result_bind_of_ok (Action.result_get session)]
  dsimp only
  rw [if_neg (by simp [hfile]), hoperation]
  rfl

lemma inquire_ne_nil {path : Path} {text : Text}
    (h : (inquire assistant request path).result session = (.ok text, after)) : text ≠ [] := by
  rw [inquire, Action.result_bind_of_ok (Action.result_get session)] at h
  dsimp only at h
  split at h
  · exact nomatch h
  · split at h
    · obtain rfl := Except.ok.inj (congrArg Prod.fst h)
      decide
    · obtain ⟨script, between, -, hperform⟩ := Action.ok_of_result_bind h
      obtain ⟨answer, after', -, hanswer⟩ := Action.ok_of_result_bind hperform
      obtain rfl := Except.ok.inj (congrArg Prod.fst hanswer)
      exact answer_ne_nil answer

/-- A request without a control has no reply exactly if it names no script, and never an empty
one. -/
lemma process_of_analysis (h : control? request = none) (assistant : Assistant)
    (session : Session) :
    ((process assistant request session).1 = none ↔ request.scriptPath? = none) ∧
      (process assistant request session).1 ≠ some [] := by
  rw [process, dispatch, h]
  dsimp only
  cases request.scriptPath? with
  | none => exact ⟨iff_of_true rfl rfl, by simp [replyFor]⟩
  | some path =>
    dsimp only
    rw [map_eq_pure_bind, Action.result_bind]
    cases hresult : (inquire assistant request ⟨path⟩).result session with
    | mk outcome after =>
      cases outcome with
      | error failure =>
        exact ⟨by simp [replyFor], fun hnil => failureStart_append_ne_nil _ (Option.some.inj hnil)⟩
      | ok text =>
        exact ⟨by simp [replyFor], fun hnil => inquire_ne_nil hresult (Option.some.inj hnil)⟩

/-- There is no reply exactly if a control was carried out or nothing was asked for, and never an
empty one. -/
lemma process_eq_none_iff (assistant : Assistant) (request : Request) (session : Session) :
    ((process assistant request session).1 = none ↔
      (∃ control after, control.Applies request ∧ ControlStep session control after) ∨
        (∀ control : Control, ¬ control.Requested request) ∧
          ∀ script, request.script = some script → Text.trim script = []) ∧
      (process assistant request session).1 ≠ some [] := by
  cases hcontrol : control? request with
  | none =>
    have hnone : ∀ control : Control, ¬ control.Requested request := control?_eq_none_iff.1 hcontrol
    obtain ⟨hscript, hne⟩ := process_of_analysis hcontrol assistant session
    refine ⟨hscript.trans (scriptPath?_eq_none_iff.trans ⟨fun h => .inr ⟨hnone, h⟩, ?_⟩), hne⟩
    rintro (⟨control, -, happlies, -⟩ | ⟨-, h⟩)
    · exact absurd happlies.1 (hnone control)
    · exact h
  | some control =>
    have happlies : control.Applies request := control?_eq_some_iff.1 hcontrol
    obtain ⟨after, hstep, hhandled⟩ | ⟨hvain, failure, hhandled⟩ :=
      process_of_applies happlies assistant session
    · rw [hhandled]
      exact ⟨iff_of_true rfl (.inl ⟨control, after, happlies, hstep⟩), by simp⟩
    · rw [hhandled]
      refine ⟨iff_of_false (by simp) ?_, fun hnil =>
        failureStart_append_ne_nil _ (Option.some.inj hnil)⟩
      rintro (⟨other, after, hother, hstep⟩ | ⟨hnone, -⟩)
      · rw [← happlies.unique hother] at hstep
        exact hvain after hstep
      · exact hnone control happlies.1

end

/-- An engine that knows of no member. -/
def silentEngine : Engine := fun _ query =>
  match query with
  | .memberInfo _ _ => .ok []
  | _ => .error .connectionLost

def silentAssistant : Assistant :=
  ⟨silentEngine, fun _ _ => .ok loneToolchain⟩

def silentSession : Session :=
  ⟨{ loneSession.machine with
      files := ⟨[(["a.cs".toList], .file (Utf8.encode "f();".toList) false)], []⟩ }, .unbound⟩

/-- A tooltip is asked for, and may be a process is to be killed and a toolchain to be bound first.
The program to start is blank. -/
def tooltipRequest (kill : Bool) (toolchain : Option Text) : Request :=
  { Request.default with
    script := some " a.cs".toList
    operation := some "tooltip:".toList
    toolchain := toolchain
    kill := kill
    process := some 7
    start := some " ".toList }

end ScriptAssist.Session
