import ScriptAssist.Text.Blank
import ScriptAssist.Text.Numeral

/-!
# Requests

A request is a list of arguments of the form `-name:value` or `-flag`, one on each line of a
payload or one for each argument of a command. Names match in any case, the last argument for a
field counts, and what is no argument for a field is ignored.
-/

namespace ScriptAssist

/-- What an editor asks for. -/
structure Request where
  script : Option Text
  /-- The editor's copy of the script while it has not been saved. -/
  rawFile : Option Text
  operation : Option Text
  caret : UInt64
  listen : Bool
  port : UInt16
  timeout : UInt64
  /-- The process for which the server is to stay. -/
  client : Option UInt32
  exit : Bool
  toolchain : Option Text
  kill : Bool
  process : Option UInt32
  processName : Option Text
  /-- A program to start. -/
  start : Option Text
  rich : Bool
  shortTooltips : Bool
  deriving DecidableEq, Repr

namespace Request

/-- The port of a request that gives none. -/
def defaultPort : UInt16 := 18000

/-- The milliseconds between two looks at the clients, if a request does not say. -/
def defaultTimeout : UInt64 := 60000

/-- The request without any argument. -/
def default : Request where
  script := none
  rawFile := none
  operation := none
  caret := 0
  listen := false
  port := defaultPort
  timeout := defaultTimeout
  client := none
  exit := false
  toolchain := none
  kill := false
  process := none
  processName := none
  start := none
  rich := false
  shortTooltips := false

/-- The parts of a request. -/
inductive Field where
  | script
  | rawFile
  | operation
  | caret
  | listen
  | port
  | timeout
  | client
  | exit
  | toolchain
  | kill
  | process
  | processName
  | start
  | rich
  | shortTooltips
  deriving DecidableEq, Repr

/-- All fields. -/
def Field.all : List Field :=
  [.script, .rawFile, .operation, .caret, .listen, .port, .timeout, .client, .exit, .toolchain,
    .kill, .process, .processName, .start, .rich, .shortTooltips]

/-- The name of a field in an argument. -/
def Field.name : Field → Text
  | .script => "script".toList
  | .rawFile => "rawfile".toList
  | .operation => "op".toList
  | .caret => "pos".toList
  | .listen => "listen".toList
  | .port => "port".toList
  | .timeout => "timeout".toList
  | .client => "client".toList
  | .exit => "exit".toList
  | .toolchain => "cscs_path".toList
  | .kill => "pkill".toList
  | .process => "pid".toList
  | .processName => "pname".toList
  | .start => "popen".toList
  | .rich => "rich_serialization".toList
  | .shortTooltips => "short_hinted_tooltips".toList

/-- The field of this name, in any case. -/
def Field.ofName? (name : Text) : Option Field :=
  all.find? fun field => field.name = Text.toLower name

/-- Whether the name of the field alone is an argument. -/
def Field.isFlag : Field → Bool
  | .listen | .exit | .kill | .rich => true
  | _ => false

/-- An argument that addresses a field. -/
inductive Argument where
  | value (field : Field) (value : Text)
  | flag (field : Field)
  deriving DecidableEq, Repr

/-- The argument a text is, if it addresses a field. Carriage returns at its end do not count. -/
def Argument.ofText? (s : Text) : Option Argument :=
  match Text.dropEndWhile (fun c => c = '\r') s with
  | '-' :: token =>
    match Text.cutAtChar? ':' token with
    | some (name, text) => (Field.ofName? name).map fun field => .value field text
    | none => ((Field.ofName? token).filter Field.isFlag).map .flag
  | _ => none

/-- The number below `bound` that a value denotes, whatever blanks are around it. -/
def number? (bound : Nat) (value : Text) : Option Nat :=
  Text.toNat? bound (Text.trim value)

/-- The process a value names. There is no process zero. -/
def process? (value : Text) : Option UInt32 :=
  ((number? UInt32.size value).filter fun pid => pid ≠ 0).map UInt32.ofNat

/-- Whether a value turns a flag on: it is blank, one or the word for it in any case. -/
def isOn (value : Text) : Bool :=
  let value := Text.toLower (Text.trim value)
  value.isEmpty || value = "1".toList || value = "true".toList

/-- The request with a field set to a value. -/
def assign (request : Request) (value : Text) : Field → Request
  | .script => { request with script := some value }
  | .rawFile => { request with rawFile := some value }
  | .operation => { request with operation := some value }
  | .caret => { request with caret := UInt64.ofNat ((number? UInt64.size value).getD 0) }
  | .listen => { request with listen := isOn value }
  | .port =>
    { request with port := ((number? UInt16.size value).map UInt16.ofNat).getD defaultPort }
  | .timeout =>
    { request with timeout := ((number? UInt64.size value).map UInt64.ofNat).getD defaultTimeout }
  | .client => { request with client := process? value }
  | .exit => { request with exit := isOn value }
  | .toolchain => { request with toolchain := some value }
  | .kill => { request with kill := isOn value }
  | .process => { request with process := process? value }
  | .processName => { request with processName := if value.isEmpty then none else some value }
  | .start => { request with start := some value }
  | .rich => { request with rich := isOn value }
  | .shortTooltips => { request with shortTooltips := Text.trim value = "1".toList }

/-- The request with a flag turned on. -/
def raise (request : Request) : Field → Request
  | .listen => { request with listen := true }
  | .exit => { request with exit := true }
  | .kill => { request with kill := true }
  | .rich => { request with rich := true }
  | _ => request

/-- The request with one more argument. -/
def apply (request : Request) : Argument → Request
  | .value field value => request.assign value field
  | .flag field => request.raise field

/-- The request that these arguments make. -/
def ofArguments (arguments : List Text) : Request :=
  (arguments.filterMap Argument.ofText?).foldl apply default

/-- The request that the lines of a payload make. -/
def parse (payload : Text) : Request :=
  ofArguments (Text.lines payload)

/-- The path of the script, if there is one that is not blank. -/
def scriptPath? (request : Request) : Option Text :=
  (request.script.map Text.trim).filter fun path => !path.isEmpty

/-- The path of the unsaved copy, if there is one that is not blank. -/
def rawPath? (request : Request) : Option Text :=
  (request.rawFile.map Text.trim).filter fun path => !path.isEmpty

/-- The program to start, if there is one that is not blank. -/
def startSpec? (request : Request) : Option Text :=
  request.start.filter fun spec => !(Text.trim spec).isEmpty

/-- The argument that sets a field to a value. -/
def valueLine (field : Field) (value : Text) : Text :=
  '-' :: field.name ++ ':' :: value

/-- The argument that turns a flag on. -/
def flagLine (field : Field) : Text :=
  '-' :: field.name

/-- The lines of the payload for a request. What a client does not send is left out. -/
def wireLines (request : Request) : List Text :=
  let text (field : Field) (value : Option Text) := (value.map (valueLine field)).toList
  let number (field : Field) (value : Option UInt32) :=
    (value.map fun n => valueLine field (Text.ofNat n.toNat)).toList
  let flag (line : Text) (on : Bool) := if on then [line] else []
  text .operation request.operation
    ++ text .script request.script
    ++ text .rawFile request.rawFile
    ++ [valueLine .caret (Text.ofNat request.caret.toNat)]
    ++ number .client request.client
    ++ text .toolchain request.toolchain
    ++ text .start request.start
    ++ flag (flagLine .kill) request.kill
    ++ number .process request.process
    ++ text .processName request.processName
    ++ flag (flagLine .rich) request.rich
    ++ flag (valueLine .shortTooltips ['1']) request.shortTooltips
    ++ flag (flagLine .exit) request.exit

/-- The payload for a request. -/
def toWire (request : Request) : Text :=
  Text.joinLines request.wireLines

theorem Field.mem_all (field : Field) : field ∈ Field.all := by
  cases field <;> decide

theorem Field.ofName?_name (field : Field) : Field.ofName? field.name = some field := by
  cases field <;> decide

end Request

end ScriptAssist
