import ScriptAssist.Service.Request
import ScriptAssist.Tool.Location

/-!
# Settings

What a server is told when it starts.
-/

namespace ScriptAssist

/-- What a server is told when it starts. -/
structure Settings where
  port : UInt16
  /-- The milliseconds between two looks at the clients. -/
  interval : UInt64
  client : Option UInt32
  engine : Path
  deriving DecidableEq, Repr

namespace Settings

/-- The settings when nothing is asked for. -/
def default (machine : Machine) : Settings :=
  ⟨Request.defaultPort, Request.defaultTimeout, none, machine.defaultEngine⟩

/-- The settings a request asks for. -/
def ofRequest (machine : Machine) (request : Request) : Settings :=
  { default machine with
    port := request.port
    interval := request.timeout
    client := request.client }

end Settings

end ScriptAssist
