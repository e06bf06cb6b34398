import Mathlib.Tactic.Lemma
import Mathlib.Tactic.SplitIfs
import ScriptAssist.Service.Server

/-!
# The books of a server

The books of a run hold which requests a server has dealt with, and how far it has come with the one
it has in hand. They balance after every move: what has been replied and what the session has become
is what processing the same requests in sequence gives.
-/

namespace ScriptAssist

/-! ### Requests in sequence -/

def Session.processAll (assistant : Assistant) :
    List Request → Session → List (Option Text) × Session
  | [], session => ([], session)
  | request :: requests, session =>
    let after := process assistant request session
    let rest := processAll assistant requests after.2
    (after.1 :: rest.1, rest.2)

lemma Session.processAll_concat (assistant : Assistant) (requests : List Request)
    (request : Request) (session : Session) :
    processAll assistant (requests ++ [request]) session =
      let before := processAll assistant requests session
      let after := process assistant request before.2
      (before.1 ++ [after.1], after.2) := by
  induction requests generalizing session with
  | nil => rfl
  | cons first requests ih =>
    rw [List.cons_append, processAll, ih]
    rfl

lemma Monitor.isOver_step {monitor : Monitor} (h : monitor.isOver = true)
    (happening : Happening) : (monitor.step happening).isOver = true := by
  cases happening with
  | register pid =>
    simp only [step]
    split_ifs
    · exact h
    · exact h
  | exits pid => exact h
  | starts pid =>
    simp only [step]
    split_ifs
    · exact h
    · exact h
  | tick =>
    simp only [step]
    split_ifs <;> exact h
  | announce =>
    simp only [step]
    split_ifs
    · simp [isOver]
    · exact h
  | close =>
    simp only [step]
    split_ifs
    · exact h
    · exact h

lemma Monitor.isOver_step_register (monitor : Monitor) (pid : UInt32) :
    (monitor.step (.register pid)).isOver = monitor.isOver := by
  simp only [step]
  split_ifs
  · rfl
  · rfl

/-- A payload that arrives in one piece and is not too large is read as it is. -/
lemma Connection.request_of_payload {payload : Bytes} (h : payload.length ≤ maxRequestSize) :
    Connection.request ⟨[payload]⟩ = .parse (Utf8.decodeLossy payload) := by
  unfold request firstRead
  rw [List.headD_cons, List.take_of_length_le h]

namespace Server

variable {assistant : Assistant} {origin server server' final : Server}

/-! ### What a move can do -/

/-- Everything that a move of a server can come to. -/
inductive Moved (assistant : Assistant) (server : Server) : Move → Server → Prop where
  | stop (hphase : server.phase = .waiting ∨ server.phase = .ready)
      (hover : server.monitor.isOver = true) :
      Moved assistant server .check { server with phase := .stopped .clientsGone }
  | stay (hphase : server.phase = .waiting ∨ server.phase = .ready)
      (hover : server.monitor.isOver = false) :
      Moved assistant server .check { server with phase := .ready }
  | accept (connection : Connection) (hphase : server.phase = .ready) :
      Moved assistant server (.accept connection) { server with phase := .accepted connection }
  | read {connection : Connection} (hphase : server.phase = .accepted connection) :
      Moved assistant server .read { server with phase := .read connection.request }
  | register {request : Request} {pid : UInt32} (hphase : server.phase = .read request)
      (hexit : request.exit = false) (hclient : request.client = some pid) :
      Moved assistant server .register
        { server with
          monitor := server.monitor.step (.register pid)
          phase := .registered request }
  | pass {request : Request} (hphase : server.phase = .read request)
      (hexit : request.exit = false) (hclient : request.client = none) :
      Moved assistant server .register { server with phase := .registered request }
  | process {request : Request} (hphase : server.phase = .registered request) :
      Moved assistant server .process
        { server with
          session := (Session.process assistant request server.session).2
          phase := .replying (Session.process assistant request server.session).1 }
  | farewell {request : Request} (hphase : server.phase = .read request)
      (hexit : request.exit = true) :
      Moved assistant server .reply
        { server with
          replies := server.replies ++ [some farewell]
          phase := .stopped .exitRequested }
  | reply {reply : Option Text} (hphase : server.phase = .replying reply) :
      Moved assistant server .reply
        { server with replies := server.replies ++ [reply], phase := .waiting }
  | beside (happening : Happening) (hbeside : ∀ pid, happening ≠ .register pid) :
      Moved assistant server (.beside happening)
        { server with monitor := server.monitor.step happening }

lemma moved_of_step {move : Move} (h : server.step assistant move = some server') :
    Moved assistant server move server' := by
  cases move with
  | check =>
    simp only [step] at h
    split at h
    · next hphase =>
      split_ifs at h with hover
      · exact Option.some.inj h ▸ .stop (.inl hphase) hover
      · exact Option.some.inj h ▸ .stay (.inl hphase) (by simpa using hover)
    · next hphase =>
      split_ifs at h with hover
      · exact Option.some.inj h ▸ .stop (.inr hphase) hover
      · exact Option.some.inj h ▸ .stay (.inr hphase) (by simpa using hover)
    · exact absurd h (by simp)
  | accept connection =>
    simp only [step] at h
    split at h
    · next hphase => exact Option.some.inj h ▸ .accept connection hphase
    · exact absurd h (by simp)
  | read =>
    simp only [step] at h
    split at h
    · next hphase => exact Option.some.inj h ▸ .read hphase
    · exact absurd h (by simp)
  | register =>
    simp only [step] at h
    split at h
    · next request hphase =>
      split_ifs at h with hexit
      have hgoing : request.exit = false := by simpa using hexit
      split at h
      · next hclient => exact Option.some.inj h ▸ .register hphase hgoing hclient
      · next hclient => exact Option.some.inj h ▸ .pass hphase hgoing hclient
    · exact absurd h (by simp)
  | process =>
    simp only [step] at h
    split at h
    · next hphase => exact Option.some.inj h ▸ .process hphase
    · exact absurd h (by simp)
  | reply =>
    simp only [step] at h
    split at h
    · next hphase =>
      split_ifs at h with hexit
      exact Option.some.inj h ▸ .farewell hphase hexit
    · next hphase => exact Option.some.inj h ▸ .reply hphase
    · exact absurd h (by simp)
  | beside happening =>
    cases happening with
    | register pid => exact absurd h (by simp [step])
    | _ => exact Option.some.inj h ▸ .beside _ fun _ => Happening.noConfusion

/-! ### Runs and their records -/

/-- What is recorded of a run. -/
inductive Record where
  | accepted (connection : Connection)
  | registered (pid : UInt32)
  | processed (request : Request)
  | happened (happening : Happening)

def record? (server : Server) : Move → Option Record
  | .accept connection => some (.accepted connection)
  | .register =>
    match server.phase with
    | .read request => request.client.map .registered
    | _ => none
  | .process =>
    match server.phase with
    | .registered request => some (.processed request)
    | _ => none
  | .beside happening => some (.happened happening)
  | _ => none

/-- The runs of a server from an origin, with their records. What happens beside the server's own
moves may happen between any two of them. -/
inductive Run (assistant : Assistant) (origin : Server) : List Record → Server → Prop where
  | start : Run assistant origin [] origin
  | step {records : List Record} {server server' : Server}
      (run : Run assistant origin records server) (move : Move)
      (moved : server.step assistant move = some server') :
      Run assistant origin (records ++ (server.record? move).toList) server'

def connections (records : List Record) : List Connection :=
  records.filterMap fun
    | .accepted connection => some connection
    | _ => none

/-- What has happened to the watch: the registrations that the server has made, and what happened
beside it. -/
def happenings (records : List Record) : List Happening :=
  records.filterMap fun
    | .registered pid => some (.register pid)
    | .happened happening => some happening
    | _ => none

def registrations (records : List Record) : List UInt32 :=
  (happenings records).filterMap fun
    | .register pid => some pid
    | _ => none

def processed (records : List Record) : List Request :=
  records.filterMap fun
    | .processed request => some request
    | _ => none

/-- Whether the server has no connection in hand. -/
def isResting (server : Server) : Bool :=
  match server.phase with
  | .waiting | .ready | .stopped _ => true
  | _ => false

/-! ### Books -/

/-- The books of a run in which the requests `done` have been dealt with, and for the request in
hand it has been recorded that it was accepted, had its client registered and was processed as far
as these lists hold it. -/
structure Books (assistant : Assistant) (origin : Server) (records : List Record)
    (current : Session) (done accepted entered handled : List Request) : Prop where
  noExit : ∀ request ∈ done, request.exit = false
  connections : (connections records).map Connection.request = done ++ accepted
  registrations : registrations records = (done ++ entered).filterMap Request.client
  processed : processed records = done ++ handled
  session : current = (Session.processAll assistant (done ++ handled) origin.session).2

/-- What the books are in each phase, and which replies have been given. -/
def Balance (assistant : Assistant) (origin : Server) (records : List Record) (server : Server)
    (done : List Request) : Phase → Prop
  | .waiting | .ready =>
    Books assistant origin records server.session done [] [] [] ∧
      server.replies = origin.replies ++ (Session.processAll assistant done origin.session).1
  | .accepted connection =>
    Books assistant origin records server.session done [connection.request] [] [] ∧
      server.replies = origin.replies ++ (Session.processAll assistant done origin.session).1
  | .read request =>
    Books assistant origin records server.session done [request] [] [] ∧
      server.replies = origin.replies ++ (Session.processAll assistant done origin.session).1
  | .registered request =>
    Books assistant origin records server.session done [request] [request] [] ∧
      request.exit = false ∧
      server.replies = origin.replies ++ (Session.processAll assistant done origin.session).1
  | .replying reply => ∃ request,
    Books assistant origin records server.session done [request] [request] [request] ∧
      request.exit = false ∧
      server.replies ++ [reply] =
        origin.replies ++ (Session.processAll assistant (done ++ [request]) origin.session).1
  | .stopped .exitRequested => ∃ request,
    Books assistant origin records server.session done [request] [] [] ∧ request.exit = true ∧
      server.replies =
        origin.replies ++ (Session.processAll assistant done origin.session).1 ++ [some farewell]
  | .stopped .clientsGone => server.monitor.isOver = true

section Steps

variable {records : List Record} {done : List Request}

lemma connections_append (records more : List Record) :
    connections (records ++ more) = connections records ++ connections more :=
  List.filterMap_append

lemma happenings_append (records more : List Record) :
    happenings (records ++ more) = happenings records ++ happenings more :=
  List.filterMap_append

lemma registrations_append (records more : List Record) :
    registrations (records ++ more) = registrations records ++ registrations more := by
  rw [registrations, happenings_append, List.filterMap_append]
  rfl

lemma processed_append (records more : List Record) :
    processed (records ++ more) = processed records ++ processed more :=
  List.filterMap_append

lemma Balance.start : Balance assistant origin [] origin [] .waiting :=
  ⟨⟨by simp, rfl, rfl, rfl, rfl⟩, by simp [Session.processAll]⟩

lemma Balance.check (h : Balance assistant origin records server done server.phase)
    (moved : Moved assistant server .check server') :
    Balance assistant origin records server' done server'.phase := by
  cases moved with
  | stop _ hover => exact hover
  | stay hphase _ =>
    obtain hphase | hphase := hphase
    · rw [hphase] at h
      exact h
    · rw [hphase] at h
      exact h

lemma Balance.accept (h : Balance assistant origin records server done server.phase)
    {connection : Connection} (moved : Moved assistant server (.accept connection) server') :
    Balance assistant origin (records ++ [.accepted connection]) server' done server'.phase := by
  cases moved with
  | accept _ hphase =>
    rw [hphase] at h
    obtain ⟨hbooks, hreplies⟩ := h
    refine ⟨⟨hbooks.noExit, ?_, ?_, ?_, hbooks.session⟩, hreplies⟩
    · rw [connections_append, List.map_append, hbooks.connections, List.append_nil]
      rfl
    · rw [registrations_append, hbooks.registrations]
      exact List.append_nil _
    · rw [processed_append, hbooks.processed]
      exact List.append_nil _

lemma Balance.read (h : Balance assistant origin records server done server.phase)
    (moved : Moved assistant server .read server') :
    Balance assistant origin records server' done server'.phase := by
  cases moved with
  | read hphase =>
    rw [hphase] at h
    exact h

lemma Balance.register (h : Balance assistant origin records server done server.phase)
    (moved : Moved assistant server .register server') :
    Balance assistant origin (records ++ (server.record? .register).toList) server' done
      server'.phase := by
  have hafter : ∀ request, server.phase = .read request →
      Books assistant origin (records ++ (server.record? .register).toList)
        server.session done [request] [request] [] := by
    intro request hphase
    rw [hphase] at h
    have hbooks := h.1
    have hrecord : server.record? .register = request.client.map .registered := by
      simp only [record?, hphase]
    have hconnections : connections (request.client.map .registered).toList = [] := by
      cases request.client <;> rfl
    have hregistrations : registrations (request.client.map .registered).toList =
        [request].filterMap Request.client := by
      cases hclient : request.client <;> simp [hclient, registrations, happenings]
    have hprocessed : processed (request.client.map .registered).toList = [] := by
      cases request.client <;> rfl
    refine ⟨hbooks.noExit, ?_, ?_, ?_, hbooks.session⟩
    · rw [hrecord, connections_append, List.map_append, hconnections, hbooks.connections]
      exact List.append_nil _
    · rw [hrecord, registrations_append, hregistrations, hbooks.registrations,
        ← List.filterMap_append, List.append_nil]
    · rw [hrecord, processed_append, hprocessed, hbooks.processed]
      exact List.append_nil _
  cases moved with
  | register hphase hexit _ | pass hphase hexit _ =>
    have hbooks := hafter _ hphase
    rw [hphase] at h
    exact ⟨hbooks, hexit, h.2⟩

lemma Balance.process (h : Balance assistant origin records server done server.phase)
    (moved : Moved assistant server .process server') :
    Balance assistant origin (records ++ (server.record? .process).toList) server' done
      server'.phase := by
  cases moved with
  | @process request hphase =>
    rw [hphase] at h
    obtain ⟨hbooks, hnoExit, hreplies⟩ := h
    have hrecord : server.record? .process = some (.processed request) := by
      simp only [record?, hphase]
    have hsession := hbooks.session
    rw [List.append_nil] at hsession
    refine ⟨request, ⟨hbooks.noExit, ?_, ?_, ?_, ?_⟩, hnoExit, ?_⟩
    · rw [hrecord, connections_append, List.map_append, hbooks.connections]
      exact List.append_nil _
    · rw [hrecord, registrations_append, hbooks.registrations]
      exact List.append_nil _
    · rw [hrecord, processed_append, hbooks.processed, List.append_nil]
      rfl
    · rw [Session.processAll_concat, hsession]
    · rw [Session.processAll_concat, hreplies, hsession, List.append_assoc]

lemma Balance.reply (h : Balance assistant origin records server done server.phase)
    (moved : Moved assistant server .reply server') :
    ∃ done, Balance assistant origin records server' done server'.phase := by
  cases moved with
  | @farewell request hphase hexit =>
    rw [hphase] at h
    obtain ⟨hbooks, hreplies⟩ := h
    -- a request to stop has not been registered or processed, so the books stay as they are
    exact ⟨done, request, hbooks, hexit, by rw [← hreplies]⟩
  | reply hphase =>
    rw [hphase] at h
    obtain ⟨request, hbooks, hnoExit, hreplies⟩ := h
    refine ⟨done ++ [request], ⟨?_, ?_, ?_, ?_, ?_⟩, hreplies⟩
    · intro other hother
      obtain hbefore | hlast := List.mem_append.1 hother
      · exact hbooks.noExit other hbefore
      · obtain rfl := List.mem_singleton.1 hlast
        exact hnoExit
    · rw [hbooks.connections, List.append_nil]
    · rw [hbooks.registrations, List.append_nil]
    · rw [hbooks.processed, List.append_nil]
    · rw [List.append_nil]
      exact hbooks.session

lemma Books.beside {current : Session} {accepted entered handled : List Request}
    (h : Books assistant origin records current done accepted entered handled)
    {happening : Happening} (hbeside : ∀ pid, happening ≠ .register pid) :
    Books assistant origin (records ++ [.happened happening]) current done accepted entered
      handled := by
  have hregistrations : Server.registrations [.happened happening] = [] := by
    cases happening with
    | register pid => exact absurd rfl (hbeside pid)
    | _ => rfl
  refine ⟨h.noExit, ?_, ?_, ?_, h.session⟩
  · rw [connections_append, List.map_append, h.connections]
    exact List.append_nil _
  · rw [registrations_append, h.registrations, hregistrations, List.append_nil]
  · rw [processed_append, h.processed]
    exact List.append_nil _

lemma Balance.beside (h : Balance assistant origin records server done server.phase)
    {happening : Happening} (hbeside : ∀ pid, happening ≠ .register pid) :
    Balance assistant origin (records ++ [.happened happening])
      { server with monitor := server.monitor.step happening } done server.phase := by
  -- the books do not look at the watch, but for whether it is over once the server has stopped
  have hphases : ∀ phase, Balance assistant origin records server done phase →
      Balance assistant origin (records ++ [.happened happening])
        { server with monitor := server.monitor.step happening } done phase := by
    intro phase hbalance
    cases phase with
    | registered request => exact ⟨hbalance.1.beside hbeside, hbalance.2⟩
    | replying reply =>
      obtain ⟨request, hbooks, hrest⟩ := hbalance
      exact ⟨request, hbooks.beside hbeside, hrest⟩
    | stopped reason =>
      cases reason with
      | exitRequested =>
        obtain ⟨request, hbooks, hrest⟩ := hbalance
        exact ⟨request, hbooks.beside hbeside, hrest⟩
      | clientsGone => exact Monitor.isOver_step hbalance happening
    | _ => exact ⟨hbalance.1.beside hbeside, hbalance.2⟩
  exact hphases server.phase h

lemma Balance.step (h : Balance assistant origin records server done server.phase) {move : Move}
    (moved : Moved assistant server move server') :
    ∃ done, Balance assistant origin (records ++ (server.record? move).toList) server' done
      server'.phase := by
  cases move with
  | check => exact ⟨done, by simpa [record?] using h.check moved⟩
  | accept connection => exact ⟨done, h.accept moved⟩
  | read => exact ⟨done, by simpa [record?] using h.read moved⟩
  | register => exact ⟨done, h.register moved⟩
  | process => exact ⟨done, h.process moved⟩
  | reply => simpa [record?] using h.reply moved
  | beside happening =>
    cases moved with
    | beside _ hbeside => exact ⟨done, h.beside hbeside⟩

lemma Run.balance (hstart : origin.phase = .waiting) (run : Run assistant origin records server) :
    ∃ done, Balance assistant origin records server done server.phase := by
  induction run with
  | start => exact ⟨[], hstart ▸ Balance.start⟩
  | step run move moved ih =>
    obtain ⟨done, hbalance⟩ := ih
    exact hbalance.step (moved_of_step moved)

/-- The watch of a server has come to what it is by the happenings on record. -/
lemma Run.monitor_eq (run : Run assistant origin records server) :
    server.monitor = origin.monitor.run (happenings records) := by
  induction run with
  | start => rfl
  | @step records server server' run move moved ih =>
    have hstep : ∀ happening, (origin.monitor.run (happenings records ++ [happening])) =
        server.monitor.step happening := by
      intro happening
      rw [Monitor.run, List.foldl_append, ih]
      rfl
    have hquiet : server.monitor = origin.monitor.run (happenings records ++ []) := by
      rw [List.append_nil, ih]
    rw [happenings_append]
    cases moved_of_step moved with
    | register hphase hexit hclient =>
      simp only [record?, hphase, hclient]
      exact (hstep (.register _)).symm
    | pass hphase hexit hclient =>
      simp only [record?, hphase, hclient]
      exact hquiet
    | process hphase =>
      simp only [record?, hphase]
      exact hquiet
    | beside happening _ => exact (hstep happening).symm
    | _ => exact hquiet

end Steps

end Server

end ScriptAssist
