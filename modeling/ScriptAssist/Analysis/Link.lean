import ScriptAssist.Analysis.Frame
import ScriptAssist.Files.Failure

/-!
# Links

A link carries any number of calls at a time to the engine and matches the answers to them by
number. Every call, the writer and the reader go on independently of each other; what they share is
the table of calls that wait for an answer, the queue of requests and whether the link is up. Each
access to one of these is a move, and a run of the link is any sequence of moves.

A call enters the table before it looks whether the link is up, and whoever ends the link marks it
as down before clearing the table, so no call is left waiting.
-/

namespace ScriptAssist

namespace Link

/-- What a call comes to. -/
abbrev Result := Except Failure Json

/-- How far a call has come. -/
inductive Phase where
  /-- It has its number. -/
  | numbered
  /-- It is in the table. -/
  | registered
  /-- It has seen that the link is down. -/
  | refused
  /-- It has seen that the link is up. -/
  | cleared
  /-- Its request is in the queue, and it waits for an answer. -/
  | waiting
  | done (result : Result)

/-- A call: its request, how far it has come, and the answer once one has been delivered. -/
structure Call where
  request : Json
  phase : Phase
  delivered : Option Result

/-- What the reader is doing. -/
inductive Reader where
  | reading
  /-- It has taken a call from the table and is about to deliver the answer. -/
  | delivering (call : Nat) (result : Result)
  /-- There is nothing more to read. -/
  | ending
  /-- It has marked the link as down. -/
  | clearing
  | ended
  /-- It waits for a body that cannot be held. -/
  | stuck

/-- What the writer is doing. -/
inductive Writer where
  | idle
  | writing (request : Json)
  /-- A request could not be written. -/
  | failed
  /-- It has marked the link as down. -/
  | clearing
  /-- It has cleared the table. -/
  | closing
  | ended

/-- How many requests the queue holds. -/
def queueSize : Nat := 32

/-- The message that asks for an answer with the given number. -/
def requestMessage (number : Nat) (method : Text) (params : Json) : Json :=
  Json.sorted (.obj [
    ("jsonrpc".toList, .str "2.0".toList),
    ("id".toList, .int number),
    ("method".toList, .str method),
    ("params".toList, params)])

/-- The result in a message: the error if there is one, with its own message or else its text, and
otherwise the result, which may be missing. -/
def resultOf (message : Json) : Result :=
  match message.field? "error".toList with
  | some error =>
    match (error.field? "message".toList).bind Json.text? with
    | some text => .error (.reported text [])
    | none => .error (.reported error.toText [])
  | none => .ok ((message.field? "result".toList).getD .null)

/-- The number of the call that a message answers. -/
def answered? (message : Json) : Option Int :=
  (message.field? "id".toList).bind fun id => id.int? Int64.minValue.toInt Int64.maxValue.toInt

end Link

/-- A link to the engine. Calls are known by their place in the list; the number a call goes by is
one more. -/
structure Link where
  calls : List Link.Call
  /-- The calls that wait for an answer. -/
  table : List Nat
  isUp : Bool
  queue : List Json
  takesRequests : Bool
  /-- What has arrived and has not been read. -/
  incoming : Bytes
  /-- The engine has closed its end: nothing more will arrive, and nothing more can be written. -/
  hungUp : Bool
  /-- What has been written. -/
  sent : Bytes
  reader : Link.Reader
  writer : Link.Writer

namespace Link

/-- A new link. -/
def start : Link where
  calls := []
  table := []
  isUp := true
  queue := []
  takesRequests := true
  incoming := []
  hungUp := false
  sent := []
  reader := .reading
  writer := .idle

/-- The number a call goes by. -/
def numberOf (call : Nat) : Nat :=
  call + 1

/-- The link with a call changed. -/
def modifyCall (link : Link) (call : Nat) (change : Call → Call) : Link :=
  { link with calls := link.calls.modify call change }

/-- The link with a call come further. -/
def advance (link : Link) (call : Nat) (phase : Phase) : Link :=
  link.modifyCall call fun state => { state with phase := phase }

/-- The link with an answer delivered to a call. -/
def deliver (link : Link) (call : Nat) (result : Result) : Link :=
  link.modifyCall call fun state => { state with delivered := some result }

/-- The link with the table cleared: every call in it is told that the connection is lost. -/
def clearTable (link : Link) : Link :=
  let told := link.table.foldl (fun link call => link.deliver call (.error .connectionLost)) link
  { told with table := [] }

/-- The link after the reader has read a message: if a call in the table goes by its number, the
call is taken from the table and will get the result. -/
def dispatch (link : Link) (message : Json) : Link :=
  let called := link.table.find? fun call => answered? message = some (numberOf call : Int)
  match called with
  | some call =>
    { link with
      table := link.table.filter fun other => other ≠ call
      reader := .delivering call (resultOf message) }
  | none => link

/-- A move. -/
inductive Move where
  /-- A new call gets its number. -/
  | begin (method : Text) (params : Json)
  /-- A call enters the table. -/
  | register (call : Nat)
  /-- A call looks whether the link is up. -/
  | look (call : Nat)
  /-- A refused call leaves the table. -/
  | withdraw (call : Nat)
  /-- A call puts its request into the queue. -/
  | enqueue (call : Nat)
  /-- A call takes its answer. -/
  | finish (call : Nat)
  /-- The writer takes a request from the queue. -/
  | take
  /-- The writer writes a request, which it can until the engine closes its end. -/
  | write
  /-- A request cannot be written. -/
  | failWriting
  /-- The writer, then the reader, goes on to end the link. -/
  | endWriter
  /-- The reader reads a message, or finds that there is none to come. -/
  | read
  /-- The reader delivers an answer. -/
  | deliver
  /-- Reading fails. -/
  | failReading
  | endReader
  /-- Bytes arrive from the engine. -/
  | arrive (bytes : Bytes)
  /-- The engine closes its end. -/
  | hangUp

/-- A call's own move, if it has come to the phase for it. -/
def stepCall (link : Link) (call : Nat) (move : Call → Option Link) : Option Link :=
  link.calls[call]?.bind move

/-- The writer's way to the end: mark the link as down, clear the table, close the queue. -/
def stepEndWriter (link : Link) : Option Link :=
  match link.writer with
  | .failed => some { link with isUp := false, writer := .clearing }
  | .clearing => some { link.clearTable with writer := .closing }
  | .closing => some { link with takesRequests := false, writer := .ended }
  | _ => none

/-- The reader's way to the end: mark the link as down, clear the table. -/
def stepEndReader (link : Link) : Option Link :=
  match link.reader with
  | .ending => some { link with isUp := false, reader := .clearing }
  | .clearing => some { link.clearTable with reader := .ended }
  | _ => none

/-- The reader reads a message, or finds that there is none to come. It waits while a message has
not arrived in full. -/
def stepRead (link : Link) : Option Link :=
  match link.reader with
  | .reading =>
    match Frame.read link.incoming with
    | .message value rest => some ({ link with incoming := rest }.dispatch value)
    | .broken => some { link with reader := .ending }
    | .stuck => some { link with reader := .stuck }
    | .inHeader _ | .inBody => if link.hungUp then some { link with reader := .ending } else none
  | _ => none

/-- The link after a move, if the move can be made. -/
def step (link : Link) : Move → Option Link
  | .begin method params =>
    let request := requestMessage (numberOf link.calls.length) method params
    some { link with calls := link.calls ++ [⟨request, .numbered, none⟩] }
  | .register call => link.stepCall call fun state =>
    match state.phase with
    | .numbered => some { link.advance call .registered with table := link.table ++ [call] }
    | _ => none
  | .look call => link.stepCall call fun state =>
    match state.phase with
    | .registered => some (link.advance call (if link.isUp then .cleared else .refused))
    | _ => none
  | .withdraw call => link.stepCall call fun state =>
    match state.phase with
    | .refused =>
      some { link.advance call (.done (.error .connectionLost)) with
        table := link.table.filter fun other => other ≠ call }
    | _ => none
  | .enqueue call => link.stepCall call fun state =>
    match state.phase with
    | .cleared =>
      if !link.takesRequests then some (link.advance call (.done (.error .connectionClosed)))
      else if link.queue.length < queueSize then
        some { link.advance call .waiting with queue := link.queue ++ [state.request] }
      else none
    | _ => none
  | .finish call => link.stepCall call fun state =>
    match state.phase, state.delivered with
    | .waiting, some result => some (link.advance call (.done result))
    | _, _ => none
  | .take =>
    match link.writer, link.queue with
    | .idle, request :: queue => some { link with writer := .writing request, queue := queue }
    | _, _ => none
  | .write =>
    match link.writer with
    | .writing request =>
      if link.hungUp then none
      else some { link with sent := link.sent ++ Frame.write request, writer := .idle }
    | _ => none
  | .failWriting =>
    match link.writer with
    | .writing _ => some { link with writer := .failed }
    | _ => none
  | .endWriter => link.stepEndWriter
  | .read => link.stepRead
  | .deliver =>
    match link.reader with
    | .delivering call result => some { link.deliver call result with reader := .reading }
    | _ => none
  | .failReading =>
    match link.reader with
    | .reading => some { link with reader := .ending }
    | _ => none
  | .endReader => link.stepEndReader
  | .arrive bytes =>
    if link.hungUp then none else some { link with incoming := link.incoming ++ bytes }
  | .hangUp => some { link with hungUp := true }

/-- Whether one move leads from a link to another. -/
def Steps (link link' : Link) : Prop :=
  ∃ move, link.step move = some link'

/-- The link after a move; one that cannot be made changes nothing. -/
def apply (link : Link) (move : Move) : Link :=
  (link.step move).getD link

/-- The moves of the reader and the writer that nothing from outside is needed for, each before
those that are only made instead of it: writing fails when it cannot be done. -/
def ownMoves : List Move :=
  [.deliver, .endReader, .read, .write, .failWriting, .endWriter, .take]

/-- The moves of a call that nothing from outside is needed for. -/
def callMoves (call : Nat) : List Move :=
  [.register call, .look call, .withdraw call, .enqueue call, .finish call]

/-- A move that can be made without anything from outside. -/
def nextMove? (link : Link) : Option Link :=
  let moves := (List.range link.calls.length).flatMap callMoves ++ ownMoves
  moves.findSome? link.step

/-- Makes so many moves, as long as there is one that needs nothing from outside. -/
def settleFor (link : Link) : Nat → Link
  | 0 => link
  | moves + 1 =>
    match link.nextMove? with
    | some next => next.settleFor moves
    | none => link

/-- Moves until something from outside is needed. Every call has five moves and two of the writer,
and every byte at most gives a message and a delivery. -/
def settle (link : Link) : Link :=
  link.settleFor (8 * link.calls.length + 2 * link.incoming.length + 8)

/-- What a call has come to, if it is done. -/
def result? (link : Link) (call : Nat) : Option Result :=
  match link.calls[call]?.map Call.phase with
  | some (.done result) => some result
  | _ => none

/-- Whether the link takes calls. -/
def isConnected (link : Link) : Bool :=
  link.isUp && link.takesRequests

end Link

end ScriptAssist
