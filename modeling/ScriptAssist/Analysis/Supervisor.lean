import ScriptAssist.Analysis.Engine
import ScriptAssist.Analysis.Link

/-!
# Supervisors

A supervisor keeps the engine's program going: it starts the program for the first query, and again
for the first one after the program has gone. Each query is a call over the link to it.
-/

namespace ScriptAssist

/-- What the engine's program does about a request: it answers with some bytes, or it ends. -/
inductive EngineReaction where
  | answers (bytes : Bytes)
  | ends
  deriving DecidableEq, Repr

/-- The engine's program and the link to it, once it has been started. -/
structure Supervisor where
  program : Path
  link : Option Link

namespace Supervisor

/-- A supervisor that has not started its program. -/
def start (program : Path) : Supervisor :=
  ⟨program, none⟩

/-- The link to the running program, which is started if it is not running. -/
def connect (supervisor : Supervisor) (machine : Machine) : Except Failure Link :=
  match supervisor.link.filter Link.isConnected with
  | some link => .ok link
  | none =>
    match machine.check ⟨supervisor.program, []⟩ with
    | .ok () => .ok .start
    | .error _ => .error (.engineUnavailable supervisor.program)

/-- The link after a call, and after what the program did about its request. -/
def exchange (link : Link) (method : Text) (params : Json) (react : Json → EngineReaction) :
    Link :=
  let request := Link.requestMessage (Link.numberOf link.calls.length) method params
  let asked := (link.apply (.begin method params)).settle
  match react request with
  | .answers bytes => (asked.apply (.arrive bytes)).settle
  | .ends => (asked.apply .hangUp).settle

/-- The answer that a value gives to a query. -/
def answerOf (query : Query) (value : Json) : Except Failure query.Answer :=
  match query.decode? value with
  | some answer => .ok answer
  | none => .error (.unexpectedReply query.method)

/-- Asks the engine's program, which does `react request` about a request. A program that neither
answers nor ends leaves the query without an answer. -/
def ask (supervisor : Supervisor) (machine : Machine) (self : UInt32)
    (react : Json → EngineReaction) (query : Query) :
    Option (Except Failure query.Answer) × Supervisor :=
  match supervisor.connect machine with
  | .error failure => (some (.error failure), supervisor)
  | .ok link =>
    let call := link.calls.length
    let link := exchange link query.method (query.params self) react
    let answer := (link.result? call).map fun result => result.bind (answerOf query)
    (answer, { supervisor with link := some link })

end Supervisor

end ScriptAssist
