import ScriptAssist.Proofs.ServerBooks

/-!
# Serving is processing in sequence

A server that takes connections one at a time replies to each what processing the requests in
sequence replies, whatever happens to its clients beside that, until a request asks it to stop.
-/

namespace ScriptAssist.Server

section Runs

variable {assistant : Assistant} {origin server final : Server} {records : List Record}
  {done : List Request}

/-! ### The connection in hand -/

/-- The server can go on from here, without another connection, until it has none in hand, and the
watch is not over then. -/
def CanFinish (assistant : Assistant) (origin : Server) (records : List Record) : Prop :=
  ∃ more next, Run assistant origin (records ++ more) next ∧ connections more = [] ∧
    next.isResting = true ∧ next.monitor.isOver = false

lemma CanFinish.of_record {record : Option Record} (hrecord : connections record.toList = [])
    (h : CanFinish assistant origin (records ++ record.toList)) :
    CanFinish assistant origin records := by
  obtain ⟨more, next, run, hmore, hrest⟩ := h
  refine ⟨record.toList ++ more, next, ?_, ?_, hrest⟩
  · rwa [← List.append_assoc]
  · rw [connections_append, hrecord, hmore]
    rfl

lemma Run.canFinish_of_isResting (run : Run assistant origin records server)
    (hresting : server.isResting = true) (hover : server.monitor.isOver = false) :
    CanFinish assistant origin records :=
  ⟨[], server, by rwa [List.append_nil], rfl, hresting, hover⟩

lemma Run.canFinish_of_replying (run : Run assistant origin records server) {reply : Option Text}
    (hphase : server.phase = .replying reply) (hover : server.monitor.isOver = false) :
    CanFinish assistant origin records := by
  have moved : server.step assistant .reply =
      some { server with replies := server.replies ++ [reply], phase := .waiting } := by
    simp only [Server.step, hphase]
  exact .of_record rfl ((run.step .reply moved).canFinish_of_isResting rfl hover)

lemma Run.canFinish_of_registered (run : Run assistant origin records server) {request : Request}
    (hphase : server.phase = .registered request) (hover : server.monitor.isOver = false) :
    CanFinish assistant origin records := by
  have moved : server.step assistant .process =
      some { server with
        session := (Session.process assistant request server.session).2
        phase := .replying (Session.process assistant request server.session).1 } := by
    simp only [Server.step, hphase]
  have hrecord : connections (server.record? .process).toList = [] := by
    simp only [record?, hphase]
    rfl
  exact .of_record hrecord ((run.step .process moved).canFinish_of_replying rfl hover)

lemma Run.canFinish_of_read (run : Run assistant origin records server) {request : Request}
    (hphase : server.phase = .read request) (hover : server.monitor.isOver = false) :
    CanFinish assistant origin records := by
  cases hexit : request.exit with
  | true =>
    have moved : server.step assistant .reply =
        some { server with
          replies := server.replies ++ [some farewell]
          phase := .stopped .exitRequested } := by
      simp [Server.step, hphase, hexit]
    exact .of_record rfl ((run.step .reply moved).canFinish_of_isResting rfl hover)
  | false =>
    have hrecord : connections (server.record? .register).toList = [] := by
      simp only [record?, hphase]
      cases request.client <;> rfl
    cases hclient : request.client with
    | none =>
      have moved : server.step assistant .register =
          some { server with phase := .registered request } := by
        simp [Server.step, hphase, hexit, hclient]
      exact .of_record hrecord ((run.step .register moved).canFinish_of_registered rfl hover)
    | some pid =>
      have moved : server.step assistant .register =
          some { server with
            monitor := server.monitor.step (.register pid)
            phase := .registered request } := by
        simp [Server.step, hphase, hexit, hclient]
      have hafter : (server.monitor.step (.register pid)).isOver = false := by
        rw [Monitor.isOver_step_register, hover]
      exact .of_record hrecord ((run.step .register moved).canFinish_of_registered rfl hafter)

lemma Run.canFinish (run : Run assistant origin records server)
    (hover : server.monitor.isOver = false) : CanFinish assistant origin records := by
  cases hphase : server.phase with
  | waiting => exact run.canFinish_of_isResting (by simp [isResting, hphase]) hover
  | ready => exact run.canFinish_of_isResting (by simp [isResting, hphase]) hover
  | stopped reason => exact run.canFinish_of_isResting (by simp [isResting, hphase]) hover
  | accepted connection =>
    have moved : server.step assistant .read =
        some { server with phase := .read connection.request } := by
      simp only [Server.step, hphase]
    exact .of_record rfl ((run.step .read moved).canFinish_of_read rfl hover)
  | read request => exact run.canFinish_of_read hphase hover
  | registered request => exact run.canFinish_of_registered hphase hover
  | replying reply => exact run.canFinish_of_replying hphase hover

/-- A server that has neither stopped nor a connection in hand takes any connection. -/
lemma Run.exists_accepted (run : Run assistant origin records server)
    (hresting : server.isResting = true) (hgoing : server.hasStopped = false)
    (hover : server.monitor.isOver = false) (connection : Connection) :
    ∃ next, Run assistant origin (records ++ [.accepted connection]) next ∧
      next.monitor = server.monitor := by
  have checked : server.step assistant .check = some { server with phase := .ready } := by
    cases hphase : server.phase with
    | waiting => simp [Server.step, hphase, hover]
    | ready => simp [Server.step, hphase, hover]
    | stopped reason => simp [hasStopped, hphase] at hgoing
    | _ => simp [isResting, hphase] at hresting
  have hready := run.step .check checked
  rw [show server.record? .check = none from rfl, Option.toList_none, List.append_nil] at hready
  exact ⟨{ server with phase := .accepted connection },
    hready.step (.accept connection) rfl, rfl⟩

/-! ### Serving and processing -/

def heard (requests : List Request) : List Request :=
  requests.takeWhile fun request => !request.exit

lemma heard_append (hdone : ∀ request ∈ done, request.exit = false) (rest : List Request) :
    heard (done ++ rest) = done ++ heard rest :=
  List.takeWhile_append_of_pos fun request hrequest => by simp [hdone request hrequest]

/-- At most one request is accepted behind those that are heard: the one that asks to stop. -/
lemma Books.length_le {current : Session} {accepted entered handled : List Request}
    (h : Books assistant origin records current done accepted entered handled)
    (haccepted : accepted.length ≤ 1) :
    ((Server.connections records).map Connection.request).length ≤
      (heard ((Server.connections records).map Connection.request)).length + 1 := by
  rw [h.connections, heard_append h.noExit, List.length_append, List.length_append]
  omega

lemma Balance.length_le {phase : Phase} (h : Balance assistant origin records server done phase)
    (hphase : phase ≠ .stopped .clientsGone) :
    ((connections records).map Connection.request).length ≤
      (heard ((connections records).map Connection.request)).length + 1 := by
  cases phase with
  | waiting => exact h.1.length_le (by simp)
  | ready => exact h.1.length_le (by simp)
  | accepted connection => exact h.1.length_le (by simp)
  | read request => exact h.1.length_le (by simp)
  | registered request => exact h.1.length_le (by simp)
  | replying reply =>
    obtain ⟨request, hbooks, -⟩ := h
    exact hbooks.length_le (by simp)
  | stopped reason =>
    cases reason with
    | exitRequested =>
      obtain ⟨request, hbooks, -⟩ := h
      exact hbooks.length_le (by simp)
    | clientsGone => exact absurd rfl hphase

/-- What a server with no connection in hand has done for the connections it has accepted. -/
structure Served (assistant : Assistant) (origin : Server) (records : List Record)
    (requests : List Request) (server : Server) : Prop where
  stopped : server.hasStopped = true ↔ heard requests ≠ requests
  replies : server.replies =
    origin.replies ++ (Session.processAll assistant (heard requests) origin.session).1 ++
      if heard requests = requests then [] else [some farewell]
  session : server.session = (Session.processAll assistant (heard requests) origin.session).2
  registrations : registrations records = (heard requests).filterMap Request.client
  processed : processed records = heard requests

lemma Served.of_pause
    (hbooks : Books assistant origin records server.session done [] [] [])
    (hreplies : server.replies =
      origin.replies ++ (Session.processAll assistant done origin.session).1)
    (hgoing : server.hasStopped = false) :
    Served assistant origin records ((connections records).map Connection.request) server := by
  have hall : (connections records).map Connection.request = done := by
    rw [hbooks.connections, List.append_nil]
  have hheard : heard done = done := by
    simpa [heard] using heard_append hbooks.noExit []
  rw [hall]
  refine ⟨?_, ?_, ?_, ?_, ?_⟩
  · simp [hgoing, hheard]
  · rw [if_pos hheard, hheard, hreplies, List.append_nil]
  · rw [hheard, hbooks.session, List.append_nil]
  · rw [hheard, hbooks.registrations, List.append_nil]
  · rw [hheard, hbooks.processed, List.append_nil]

lemma Served.of_exit {request : Request}
    (hbooks : Books assistant origin records server.session done [request] [] [])
    (hexit : request.exit = true)
    (hreplies : server.replies = origin.replies ++
      (Session.processAll assistant done origin.session).1 ++ [some farewell])
    (hstopped : server.hasStopped = true) :
    Served assistant origin records ((connections records).map Connection.request) server := by
  have hheard : heard (done ++ [request]) = done := by
    rw [heard_append hbooks.noExit]
    simp [heard, hexit]
  have hne : heard (done ++ [request]) ≠ done ++ [request] := by
    rw [hheard]
    intro heq
    have hlength := congrArg List.length heq
    simp at hlength
  rw [hbooks.connections]
  refine ⟨?_, ?_, ?_, ?_, ?_⟩
  · simp [hstopped, hne]
  · rw [if_neg hne, hheard, hreplies]
  · rw [hheard, hbooks.session, List.append_nil]
  · rw [hheard, hbooks.registrations, List.append_nil]
  · rw [hheard, hbooks.processed, List.append_nil]

lemma Run.served (hstart : origin.phase = .waiting) (run : Run assistant origin records server)
    (hover : server.monitor.isOver = false) (hresting : server.isResting = true) :
    Served assistant origin records ((connections records).map Connection.request) server := by
  obtain ⟨done, hbalance⟩ := run.balance hstart
  cases hphase : server.phase with
  | waiting =>
    rw [hphase] at hbalance
    exact .of_pause hbalance.1 hbalance.2 (by simp [hasStopped, hphase])
  | ready =>
    rw [hphase] at hbalance
    exact .of_pause hbalance.1 hbalance.2 (by simp [hasStopped, hphase])
  | stopped reason =>
    rw [hphase] at hbalance
    cases reason with
    | exitRequested =>
      obtain ⟨request, hbooks, hexit, hreplies⟩ := hbalance
      exact .of_exit hbooks hexit hreplies (by simp [hasStopped, hphase])
    | clientsGone =>
      have hgone : server.monitor.isOver = true := hbalance
      rw [hover] at hgone
      exact absurd hgone (by decide)
  | _ => simp [isResting, hphase] at hresting

end Runs

def failingAssistant : Assistant :=
  ⟨fun _ _ => .error .connectionLost, fun _ _ => .error .emptySource⟩

def bareServer : Server where
  session :=
    ⟨⟨⟨[], []⟩, .ofString "/tmp", none, none, [], [], fun _ _ => ⟨0, [], []⟩, []⟩, .unbound⟩
  monitor := .start none []
  phase := .waiting
  replies := []

/-- A request without a reply, bytes that are no text, a request that fails, and one to stop. -/
def mixedPayloads : List Bytes :=
  [Utf8.encode "-client:7\n-cscs_path:/opt".toList, [0xFF, 0x2D],
    Utf8.encode "-script:/a".toList, Utf8.encode "-client:9\n-script:/a\n-exit".toList]

end ScriptAssist.Server
