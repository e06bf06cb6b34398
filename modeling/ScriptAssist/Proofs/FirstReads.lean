import Mathlib.Data.List.Forall2
import ScriptAssist.Proofs.Encoding
import ScriptAssist.Proofs.LossyLines
import ScriptAssist.Proofs.RequestFields
import ScriptAssist.Proofs.SequentialService

/-!
# First reads

A server reads a connection once, and takes a bounded number of bytes. What it reads is the request:
a server runs as if nothing else had been sent. Of a payload that is not read as a whole, the lines
that end within the read still count as they were sent.
-/

namespace ScriptAssist

namespace Connection

variable {connection : Connection} {payload : Bytes}

/-- The client sends the payload, which arrives in the pieces of the connection. -/
structure Delivers (connection : Connection) (payload : Bytes) : Prop where
  flatten : connection.pieces.flatten = payload
  nonempty : [] ∉ connection.pieces

/-- The connection as if nothing had been sent but what is read of it. -/
def cut (connection : Connection) : Connection :=
  ⟨[connection.firstRead]⟩

lemma firstRead_cut (connection : Connection) : connection.cut.firstRead = connection.firstRead := by
  rw [cut, firstRead, List.headD_cons, firstRead, List.take_take, Nat.min_self]

lemma request_cut (connection : Connection) : connection.cut.request = connection.request := by
  rw [request, firstRead_cut, request]

/-- What the one read of a connection takes of the payload, and what the request keeps of it. -/
structure ReadsFront (connection : Connection) (payload : Bytes) : Prop where
  front : connection.firstRead <+: payload
  length_le : connection.firstRead.length ≤ maxRequestSize
  ne_nil : payload ≠ [] → connection.firstRead ≠ []
  whole : connection.firstRead = payload ↔
    payload.length ≤ maxRequestSize ∧ connection.pieces.length ≤ 1
  lines : ∃ kept last others,
    (Utf8.decodeLossy connection.firstRead).splitOn '\n' = kept ++ [last] ∧
      (Utf8.decodeLossy payload).splitOn '\n' = kept ++ others ∧
      kept.length = connection.firstRead.count Utf8.lineFeed ∧
      connection.request = .ofArguments (kept ++ [last]) ∧
      Request.parse (Utf8.decodeLossy payload) = .ofArguments (kept ++ others)

lemma Delivers.firstRead_prefix (h : connection.Delivers payload) :
    connection.firstRead <+: payload := by
  rw [← h.flatten, firstRead]
  cases connection.pieces with
  | nil => exact List.nil_prefix
  | cons piece pieces =>
    exact (List.take_prefix maxRequestSize piece).trans (List.prefix_append piece pieces.flatten)

lemma Delivers.firstRead_ne_nil (h : connection.Delivers payload) (hsent : payload ≠ []) :
    connection.firstRead ≠ [] := by
  rw [firstRead]
  cases hpieces : connection.pieces with
  | nil =>
    rw [← h.flatten, hpieces] at hsent
    exact absurd rfl hsent
  | cons piece pieces =>
    have hpiece : piece ≠ [] := fun heq => h.nonempty (by simp [hpieces, heq])
    simpa [maxRequestSize] using hpiece

/-- A payload is read as a whole if it is not too large and arrives in one piece, and only then. -/
lemma Delivers.firstRead_eq_iff (h : connection.Delivers payload) :
    connection.firstRead = payload ↔
      payload.length ≤ maxRequestSize ∧ connection.pieces.length ≤ 1 := by
  constructor
  · intro hwhole
    constructor
    · rw [← hwhole, firstRead]
      exact List.length_take_le maxRequestSize _
    · by_contra hmore
      have hlength := congrArg List.length (hwhole.trans h.flatten.symm)
      rw [firstRead] at hlength
      match hpieces : connection.pieces with
      | [] | [_] => simp [hpieces] at hmore
      | piece :: next :: pieces =>
        have hnext : next ≠ [] := fun heq => h.nonempty (by simp [hpieces, heq])
        have hpositive := List.length_pos_of_ne_nil hnext
        simp [hpieces] at hlength
        omega
  · rintro ⟨hsize, hpieces⟩
    rw [← h.flatten] at hsize ⊢
    rw [firstRead]
    match hlist : connection.pieces with
    | [] => rfl
    | [piece] =>
      rw [hlist, List.flatten_singleton] at hsize
      rw [List.headD_cons, List.flatten_singleton, List.take_of_length_le hsize]
    | _ :: _ :: _ => simp [hlist] at hpieces

theorem Delivers.readsFront (h : connection.Delivers payload) : connection.ReadsFront payload := by
  refine ⟨h.firstRead_prefix, List.length_take_le maxRequestSize _, h.firstRead_ne_nil,
    h.firstRead_eq_iff, ?_⟩
  obtain ⟨rest, hrest⟩ := h.firstRead_prefix
  obtain ⟨kept, last, others, hread, hsent, hkept⟩ :=
    Utf8.exists_splitOn_decodeLossy connection.firstRead rest
  rw [hrest] at hsent
  refine ⟨kept, last, others, hread, hsent, hkept, ?_, ?_⟩
  · rw [request, Request.parse_eq_ofArguments_splitOn, hread]
  · rw [Request.parse_eq_ofArguments_splitOn, hsent]

end Connection

namespace Server

variable {assistant : Assistant} {origin server server' final : Server} {records : List Record}

/-! ### As if only what is read had been sent -/

def Phase.cut : Phase → Phase
  | .accepted connection => .accepted connection.cut
  | phase => phase

/-- The server with nothing but the first read of a connection that it has not read yet. -/
def cut (server : Server) : Server :=
  { server with phase := Phase.cut server.phase }

def Move.cut : Move → Move
  | .accept connection => .accept connection.cut
  | move => move

def Record.cut : Record → Record
  | .accepted connection => .accepted connection.cut
  | record => record

lemma step_cut {move : Move} (moved : server.step assistant move = some server') :
    server.cut.step assistant move.cut = some server'.cut := by
  obtain ⟨session, monitor, phase, replies⟩ := server
  cases move with
  | accept connection =>
    cases phase with
    | ready =>
      obtain rfl := Option.some.inj moved
      rfl
    | _ => exact absurd moved (by simp [step])
  | read =>
    cases phase with
    | accepted connection =>
      obtain rfl := Option.some.inj moved
      exact congrArg (fun request => some (Server.mk session monitor (.read request) replies))
        connection.request_cut
    | _ => exact absurd moved (by simp [step])
  | check =>
    cases phase with
    | waiting | ready =>
      refine moved.trans (congrArg some ?_)
      simp only [step] at moved
      split_ifs at moved
      · obtain rfl := Option.some.inj moved
        rfl
      · obtain rfl := Option.some.inj moved
        rfl
    | _ => exact absurd moved (by simp [step])
  | register =>
    cases phase with
    | read request =>
      refine moved.trans (congrArg some ?_)
      simp only [step] at moved
      split_ifs at moved
      split at moved
      · obtain rfl := Option.some.inj moved
        rfl
      · obtain rfl := Option.some.inj moved
        rfl
    | _ => exact absurd moved (by simp [step])
  | process =>
    cases phase with
    | registered request =>
      obtain rfl := Option.some.inj moved
      rfl
    | _ => exact absurd moved (by simp [step])
  | reply =>
    cases phase with
    | read request =>
      refine moved.trans (congrArg some ?_)
      simp only [step] at moved
      split_ifs at moved
      obtain rfl := Option.some.inj moved
      rfl
    | replying reply =>
      obtain rfl := Option.some.inj moved
      rfl
    | _ => exact absurd moved (by simp [step])
  | beside happening =>
    cases happening with
    | register pid => exact absurd moved (by simp [step])
    | _ =>
      obtain rfl := Option.some.inj moved
      rfl

lemma record?_cut (server : Server) (move : Move) :
    server.cut.record? move.cut = (server.record? move).map Record.cut := by
  obtain ⟨session, monitor, phase, replies⟩ := server
  cases move with
  | register =>
    cases phase with
    | read request => exact (Option.map_map Record.cut Record.registered request.client).symm
    | _ => rfl
  | process => cases phase <;> rfl
  | _ => rfl

lemma connections_cut (records : List Record) :
    connections (records.map Record.cut) = (connections records).map Connection.cut := by
  rw [connections, List.filterMap_map, connections, List.map_filterMap]
  refine List.filterMap_congr fun record _ => ?_
  cases record <;> rfl

/-- A server runs as if of each connection only the first read had been sent. -/
lemma Run.cut (run : Run assistant origin records final) :
    Run assistant origin.cut (records.map Record.cut) final.cut := by
  induction run with
  | start => exact .start
  | step run move moved ih =>
    have hnext := ih.step move.cut (step_cut moved)
    rw [record?_cut] at hnext
    rw [List.map_append, ← Option.toList_map]
    exact hnext

/-! ### What is handled -/

lemma processed_record? {move : Move} (h : move ≠ .process) :
    processed (server.record? move).toList = [] := by
  cases move with
  | register =>
    rw [record?]
    split
    · next request _ => cases request.client <;> rfl
    · rfl
  | process => exact absurd rfl h
  | _ => rfl

/-- What a server processes are the requests on its connections, in order. -/
lemma Run.processed_prefix (hstart : origin.phase = .waiting)
    (run : Run assistant origin records final) :
    processed records <+: (connections records).map Connection.request := by
  induction run with
  | start => exact List.nil_prefix
  | @step records server server' run move moved ih =>
    rw [processed_append, connections_append, List.map_append]
    by_cases hmove : move = .process
    · subst hmove
      obtain ⟨done, hbalance⟩ := run.balance hstart
      cases hphase : server.phase with
      | registered request =>
        rw [hphase] at hbalance
        have hrecord : server.record? .process = some (.processed request) := by
          rw [record?, hphase]
        rw [hrecord, hbalance.1.processed, hbalance.1.connections]
        simp [processed, connections]
      | _ => exact absurd moved (by simp [Server.step, hphase])
    · rw [processed_record? hmove, List.append_nil]
      exact ih.trans (List.prefix_append _ _)

/-- Every run handles of each connection what one read of it gives: a front of the payload, whole if
the payload is not too large and arrives in one piece, and cut within a line otherwise. The run is
one in which only these fronts have been sent, each in one piece. As long as the watch is not over,
the server can deal with the connection in hand, and has then served the requests of the fronts. -/
theorem Run.handles_first_reads {payloads : List Bytes} (hstart : origin.phase = .waiting)
    (run : Run assistant origin records final)
    (hdelivers : List.Forall₂ Connection.Delivers (connections records) payloads) :
    let fronts := (connections records).map Connection.firstRead
    let requests := fronts.map fun front => Request.parse (Utf8.decodeLossy front)
    List.Forall₂ Connection.ReadsFront (connections records) payloads ∧
      (Run assistant origin (records.map Record.cut) final.cut ∧
        connections (records.map Record.cut) = fronts.map fun front => ⟨[front]⟩) ∧
      processed records <+: requests ∧
      (final.monitor.isOver = false → final.isResting = true →
        Served assistant origin records requests final) ∧
      (final.monitor.isOver = false → ∃ more next, Run assistant origin (records ++ more) next ∧
        connections more = [] ∧ next.isResting = true ∧ next.monitor.isOver = false) := by
  intro fronts requests
  have hrequests : requests = (connections records).map Connection.request := by
    show ((connections records).map Connection.firstRead).map _ = _
    rw [List.map_map]
    rfl
  have horigin : origin.cut = origin := by
    obtain ⟨session, monitor, phase, replies⟩ := origin
    obtain rfl : phase = .waiting := hstart
    rfl
  refine ⟨hdelivers.imp fun _ _ h => h.readsFront, ⟨?_, ?_⟩, ?_, ?_, fun hover => run.canFinish hover⟩
  · rw [← horigin]
    exact run.cut
  · rw [connections_cut, List.map_map]
    rfl
  · rw [hrequests]
    exact run.processed_prefix hstart
  · intro hover hresting
    rw [hrequests]
    exact run.served hstart hover hresting

/-- A request to stop that arrives in two pieces. -/
def splitExit : Connection :=
  ⟨[Utf8.encode "-client:7\n-ex".toList, Utf8.encode "it".toList]⟩

theorem Run.handles_first_reads_splitExit :
    splitExit.Delivers (Utf8.encode "-client:7\n-exit".toList) ∧
      ∃ records final, Run failingAssistant bareServer records final ∧
        connections records = [splitExit] ∧ registrations records = [7] ∧
        processed records = [Request.parse "-client:7\n-ex".toList] ∧
        final.hasStopped = false ∧
        Run failingAssistant bareServer (records.map Record.cut) final.cut ∧
        connections (records.map Record.cut) = [⟨[Utf8.encode "-client:7\n-ex".toList]⟩] := by
  have hdelivers : splitExit.Delivers (Utf8.encode "-client:7\n-exit".toList) :=
    ⟨by decide, by decide⟩
  have opened : Run failingAssistant bareServer [] bareServer := .start
  have handled := ((((((opened.step .check rfl).step (.accept splitExit) rfl).step .read rfl).step
    (.beside (.starts 7)) rfl).step .register rfl).step .process rfl).step .reply rfl
  obtain ⟨-, ⟨hrun, hcut⟩, -, hserved, -⟩ :=
    handled.handles_first_reads rfl (.cons hdelivers .nil)
  have hserved := hserved rfl rfl
  exact ⟨hdelivers, _, _, handled, rfl, hserved.registrations.trans (by decide),
    hserved.processed.trans (by decide), rfl, hrun, hcut.trans (by decide)⟩

/-- More bytes than are taken for a request, with a request to stop behind them. -/
def lateExit : Bytes :=
  Utf8.encode (List.replicate Connection.maxRequestSize 'x' ++ "\n-exit".toList)

lemma byteSize_replicate (n : Nat) : Utf8.byteSize (List.replicate n 'x') = n := by
  induction n with
  | zero => rfl
  | succ n ih =>
    rw [List.replicate_succ, Utf8.byteSize_cons, ih, Nat.add_comm]
    rfl

lemma ofText?_replicate {n : Nat} (h : n ≠ 0) :
    Request.Argument.ofText? (List.replicate n 'x') = none := by
  obtain ⟨n, rfl⟩ := Nat.exists_eq_succ_of_ne_zero h
  have hends : Text.dropEndWhile (fun c => c = '\r') (List.replicate (n + 1) 'x') =
      List.replicate (n + 1) 'x' := by
    refine Text.dropEndWhile_eq_self fun c hc => ?_
    rw [List.eq_of_mem_replicate (List.mem_of_getLast? hc)]
    decide
  rw [Request.Argument.ofText?, hends]
  rfl

lemma decodeLossy_lateExit : Utf8.decodeLossy lateExit =
    List.replicate Connection.maxRequestSize 'x' ++ '\n' :: "-exit".toList :=
  Utf8.decodeLossy_encode _

lemma firstRead_lateExit : (Connection.mk [lateExit]).firstRead =
    Utf8.encode (List.replicate Connection.maxRequestSize 'x') := by
  rw [Connection.firstRead, List.headD_cons, lateExit, Utf8.encode_append]
  exact List.take_left' (by rw [Utf8.length_encode, byteSize_replicate])

lemma lineFeed_notMem_replicate (n : Nat) : '\n' ∉ List.replicate n 'x' := by
  intro hmem
  exact absurd (List.eq_of_mem_replicate hmem) (by decide)

lemma request_lateExit : (Connection.mk [lateExit]).request = Request.default := by
  rw [Connection.request, firstRead_lateExit, Utf8.decodeLossy_encode,
    Request.parse_eq_ofArguments_splitOn, List.splitOn_eq_singleton (lineFeed_notMem_replicate _),
    Request.ofArguments, List.filterMap_cons_none (ofText?_replicate (by decide))]
  rfl

/-- A request to stop is not heard where it comes behind what is read, or is cut by it. -/
theorem late_exit_not_handled :
    ((Connection.mk [lateExit]).Delivers lateExit ∧
      (Request.parse (Utf8.decodeLossy lateExit)).exit = true ∧
      ∃ records final, Run failingAssistant bareServer records final ∧
        connections records = [⟨[lateExit]⟩] ∧ processed records = [Request.default] ∧
        final.replies = [none] ∧ final.hasStopped = false) ∧
      splitExit.Delivers (Utf8.encode "-client:7\n-exit".toList) ∧
      (Request.parse "-client:7\n-exit".toList).exit = true ∧ splitExit.request.exit = false := by
  refine ⟨⟨⟨List.flatten_singleton, ?_⟩, ?_, ?_⟩, ⟨by decide, by decide⟩, by decide, by decide⟩
  · intro hmem
    have hlength := congrArg List.length (List.mem_singleton.1 hmem)
    rw [lateExit, Utf8.length_encode, Utf8.byteSize_append, byteSize_replicate] at hlength
    have hpositive : 0 < Connection.maxRequestSize := by decide
    simp at hlength
    omega
  · rw [decodeLossy_lateExit, Request.parse_eq_ofArguments_splitOn, List.splitOn_append_cons_self,
      List.splitOn_eq_singleton (lineFeed_notMem_replicate _), Request.ofArguments,
      List.singleton_append, List.filterMap_cons_none (ofText?_replicate (by decide))]
    decide
  · have opened : Run failingAssistant bareServer [] bareServer := .start
    have accepted := (opened.step .check rfl).step (.accept ⟨[lateExit]⟩) rfl
    have read : Server.step failingAssistant { bareServer with phase := .accepted ⟨[lateExit]⟩ }
        .read = some { bareServer with phase := .read Request.default } := by
      rw [← request_lateExit]
      rfl
    have handled := (((accepted.step .read read).step .register rfl).step .process rfl).step
      .reply rfl
    exact ⟨_, _, handled, rfl, rfl, rfl, rfl⟩

end Server

end ScriptAssist
