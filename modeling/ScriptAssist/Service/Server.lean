import ScriptAssist.Service.Dispatch
import ScriptAssist.Service.Watch

/-!
# Servers

A server takes connections one at a time: it reads a request, replies to it, or not, and goes on.
It stops when a request says so, or when the watch over its clients is over; the watch goes on
beside the connections, and whether it is over is only looked at between two of them.
-/

namespace ScriptAssist

/-- A connection, as the pieces in which the client's bytes arrive. -/
structure Connection where
  pieces : List Bytes
  deriving DecidableEq, Repr

namespace Connection

/-- The most bytes that are taken for a request. -/
def maxRequestSize : Nat := 64 * 1024

/-- What one read of the connection gives. -/
def firstRead (connection : Connection) : Bytes :=
  (connection.pieces.headD []).take maxRequestSize

/-- The request on a connection. -/
def request (connection : Connection) : Request :=
  .parse (Utf8.decodeLossy connection.firstRead)

end Connection

/-- Why a server has stopped. -/
inductive StopReason where
  | exitRequested
  | clientsGone
  deriving DecidableEq, Repr

/-- What a server is doing. -/
inductive Phase where
  /-- It is about to see whether the watch is over. -/
  | waiting
  /-- The watch was not over, and a connection may be taken. -/
  | ready
  | accepted (connection : Connection)
  /-- The request has been read. -/
  | read (request : Request)
  /-- The client has been registered, if there is one. -/
  | registered (request : Request)
  | replying (reply : Option Text)
  | stopped (reason : StopReason)

/-- A server: the session, the watch over the clients, what it is doing and the replies so far, one
for each connection. -/
structure Server where
  session : Session
  monitor : Monitor
  phase : Phase
  replies : List (Option Text)

namespace Server

/-- The reply to a request to stop. -/
def farewell : Text :=
  "Bye".toList

/-- A server that has just started and had its engine get ready. -/
def start (assistant : Assistant) (session : Session) (monitor : Monitor) : Server :=
  ⟨Session.preload assistant session, monitor, .waiting, []⟩

/-- A step of the server itself, or something that happens beside it. -/
inductive Move where
  /-- Sees whether the watch is over. -/
  | check
  | accept (connection : Connection)
  | read
  | register
  | process
  | reply
  | beside (happening : Happening)

/-- The server after a move, if it can make it. -/
def step (assistant : Assistant) (server : Server) : Move → Option Server
  | .check =>
    match server.phase with
    | .waiting | .ready =>
      if server.monitor.isOver then some { server with phase := .stopped .clientsGone }
      else some { server with phase := .ready }
    | _ => none
  | .accept connection =>
    match server.phase with
    | .ready => some { server with phase := .accepted connection }
    | _ => none
  | .read =>
    match server.phase with
    | .accepted connection => some { server with phase := .read connection.request }
    | _ => none
  | .register =>
    match server.phase with
    | .read request =>
      if request.exit then none
      else
        match request.client with
        | some pid =>
          some { server with
            monitor := server.monitor.step (.register pid)
            phase := .registered request }
        | none => some { server with phase := .registered request }
    | _ => none
  | .process =>
    match server.phase with
    | .registered request =>
      let (reply, session) := Session.process assistant request server.session
      some { server with session := session, phase := .replying reply }
    | _ => none
  | .reply =>
    match server.phase with
    | .read request =>
      if request.exit then
        some { server with
          replies := server.replies ++ [some farewell]
          phase := .stopped .exitRequested }
      else none
    | .replying reply =>
      some { server with replies := server.replies ++ [reply], phase := .waiting }
    | _ => none
  | .beside happening =>
    match happening with
    | .register _ => none
    | happening => some { server with monitor := server.monitor.step happening }

/-- The server after several moves. A move that cannot be made changes nothing. -/
def run (assistant : Assistant) (server : Server) (moves : List Move) : Server :=
  moves.foldl (fun server move => (server.step assistant move).getD server) server

/-- The moves that take a connection and deal with it. -/
def movesFor (connection : Connection) : List Move :=
  [.check, .accept connection, .read, .register, .process, .reply]

/-- The server after it has dealt with these connections in order, with nothing beside them. -/
def serve (assistant : Assistant) (server : Server) (connections : List Connection) : Server :=
  server.run assistant (connections.flatMap movesFor)

/-- Whether the server has stopped. -/
def hasStopped (server : Server) : Bool :=
  match server.phase with
  | .stopped _ => true
  | _ => false

end Server

end ScriptAssist
