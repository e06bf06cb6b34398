import ScriptAssist.Service.Reply

/-!
# Dispatch

How a request is handled: a control request does what it asks for and has no reply; a request with
a script has its operation performed and always has one. Failures are replies of their own form,
and so is having nothing to say.
-/

namespace ScriptAssist.Session

/-- The reply to an unknown operation, and to one that has nothing to say. -/
def nullReply : Text :=
  "<null>".toList

/-- What the reply to a failed request starts with. -/
def failureStart : Text :=
  "<error>".toList

/-- A request that is no question about a script. -/
inductive Control where
  | start (spec : Text)
  | kill (process : Option UInt32)
  | rebind (location : Text)
  deriving DecidableEq, Repr

/-- What a request controls: the first that it asks for of starting a program, killing a process
and binding the toolchain. -/
def control? (request : Request) : Option Control :=
  match request.startSpec? with
  | some spec => some (.start spec)
  | none =>
    if request.kill then some (.kill request.process)
    else request.toolchain.map .rebind

/-- Does what a control request asks for. -/
def obey : Control → Action Session Unit
  | .start spec => do
    let session ← get
    let command ← Action.ofExcept (Command.ofSpec spec)
    match session.machine.start command with
    | .ok machine => set (session.withMachine machine)
    | .error cause => throw (.cannotStart command.program.text cause)
  | .kill none => pure ()
  | .kill (some pid) => modify fun session => session.withMachine (session.machine.kill pid)
  | .rebind location => modify fun session => (session.rebind location).2

/-- The reply to a request about the script at a path. -/
def inquire (assistant : Assistant) (request : Request) (path : Path) : Action Session Text := do
  let session ← get
  if !session.machine.files.isFile path then throw (.fileNotFound path.text)
  else
    match request.operation? with
    | none => pure nullReply
    | some operation =>
      let rawFile := request.rawPath?.map Path.mk
      let script ← Action.ofExcept (Script.load session.machine.files path rawFile)
      let reply ← perform assistant ⟨script, request.rich⟩ request operation
      pure ((reply.filter fun text => !text.isEmpty).getD nullReply)

/-- Handles a request: the reply, if there is to be one. -/
def dispatch (assistant : Assistant) (request : Request) : Action Session (Option Text) := do
  match control? request with
  | some control =>
    obey control
    pure none
  | none =>
    match request.scriptPath? with
    | none => pure none
    | some path => some <$> inquire assistant request ⟨path⟩

/-- The reply for what came of a request. -/
def replyFor : Except Failure (Option Text) → Option Text
  | .ok reply => reply
  | .error failure => some (failureStart ++ failure.message)

/-- Handles a request whatever comes of it: the reply, if there is to be one, and the session behind
it. -/
def process (assistant : Assistant) (request : Request) (session : Session) :
    Option Text × Session :=
  let (outcome, session) := (dispatch assistant request).result session
  (replyFor outcome, session)

/-- Has the engine get ready. Its failing to do so is of no consequence yet. -/
def preload (assistant : Assistant) (session : Session) : Session :=
  ((ask assistant .preload).result session).2

end ScriptAssist.Session
