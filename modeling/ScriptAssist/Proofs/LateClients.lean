import ScriptAssist.Proofs.SequentialService
import ScriptAssist.Proofs.WatchRounds

/-!
# Clients that come late

When a server stops because its clients are gone, every client that was registered before the last
tick has been found gone by a tick. The watch waits neither for the connection in hand nor for the
server to notice: a client that is registered after the last tick is not tracked, and the server
stops on it.
-/

namespace ScriptAssist

namespace Monitor

variable {monitor : Monitor} {pid : UInt32}

/-- Whether a tick would find that a client it looks for is not running. -/
def FindsGone (monitor : Monitor) (pid : UInt32) : Prop :=
  monitor.stage = .watching ∧ monitor.IsCandidate pid ∧ monitor.isRunning pid = false

instance (monitor : Monitor) (pid : UInt32) : Decidable (monitor.FindsGone pid) :=
  inferInstanceAs (Decidable (_ ∧ _ ∧ _))

/-- A client in question stays so, and there are more ticks, unless a tick finds the client gone. -/
lemma isCandidate_step (hstage : monitor.stage = .watching) (hcandidate : monitor.IsCandidate pid)
    (happening : Happening) :
    happening = .tick ∧ monitor.FindsGone pid ∨
      (monitor.step happening).stage = .watching ∧ (monitor.step happening).IsCandidate pid := by
  by_cases htick : happening = .tick
  · subst htick
    cases hrunning : monitor.isRunning pid with
    | false => exact .inl ⟨rfl, hstage, hcandidate, hrunning⟩
    | true =>
      have hkept : (monitor.keepWatch .tick).IsCandidate pid :=
        (isCandidate_keepWatch_tick monitor pid).2 ⟨hcandidate, hrunning⟩
      have hwatched : pid ∈ (monitor.keepWatch .tick).watch.watched :=
        (mem_watched_tick monitor pid).2 ⟨hcandidate, hrunning⟩
      rw [step_eq_keepWatch hstage fun _ => List.ne_nil_of_mem hwatched]
      exact .inr ⟨hstage, hkept⟩
  · rw [step_eq_keepWatch hstage fun heq => absurd heq htick]
    exact .inr ⟨(going_keepWatch hstage happening).1,
      (isCandidate_keepWatch_of_ne hstage htick pid).2 (.inl hcandidate)⟩

/-- A client that is registered before the last tick comes into question. -/
lemma going_step_register (hstage : monitor.stage = .watching) (pid : UInt32) :
    (monitor.step (.register pid)).stage = .watching ∧
      (monitor.step (.register pid)).IsCandidate pid :=
  ⟨(going_keepWatch hstage (.register pid)).1,
    (isCandidate_keepWatch_of_ne hstage (by simp) pid).2 (.inr rfl)⟩

/-- There are no ticks after the last one. -/
lemma stage_step_ne (hstage : monitor.stage ≠ .watching) (happening : Happening) :
    (monitor.step happening).stage ≠ .watching := by
  cases happening with
  | tick => simp [step, hstage]
  | exits pid => exact hstage
  | _ =>
    simp only [step]
    split_ifs
    · simp_all
    · simp_all

/-- Before the last tick nothing is announced. -/
lemma stage_ne_of_isOver_step (h : monitor.isOver = true → monitor.stage ≠ .watching)
    (happening : Happening) (hover : (monitor.step happening).isOver = true) :
    (monitor.step happening).stage ≠ .watching := by
  by_cases hstage : monitor.stage = .watching
  · have hgoing : monitor.announced = 0 := by
      by_contra hannounced
      exact h (by simp [isOver, hannounced]) hstage
    have hstill : (monitor.step happening).announced = 0 := by
      cases happening with
      | announce | close => simpa [step, hstage] using hgoing
      | tick => simpa [step, hstage] using hgoing
      | exits pid => exact hgoing
      | _ =>
        simp only [step]
        split_ifs
        · exact hgoing
        · exact hgoing
    simp [isOver, hstill] at hover
  · exact stage_step_ne hstage happening

end Monitor

namespace Server

variable {assistant : Assistant} {origin server server' : Server} {pid : UInt32}

/-! ### Ticks that find clients gone -/

/-- The client that the server is about to register. -/
def entering? (server : Server) : Option UInt32 :=
  match server.phase with
  | .read request => if request.exit then none else request.client
  | _ => none

/-- Whether a move is a tick that finds a client gone. -/
def findsGone (server : Server) (pid : UInt32) : Move → Bool
  | .beside .tick => decide (server.monitor.FindsGone pid)
  | _ => false

/-- Whether one of these moves is a tick that finds a client gone. -/
def everFindsGone (assistant : Assistant) (pid : UInt32) : Server → List Move → Bool
  | _, [] => false
  | server, move :: moves =>
    server.findsGone pid move ||
      everFindsGone assistant pid ((server.step assistant move).getD server) moves

lemma isCandidate_moved {move : Move} (hstage : server.monitor.stage = .watching)
    (hcandidate : server.monitor.IsCandidate pid) (hmoved : Moved assistant server move server') :
    server.findsGone pid move = true ∨
      server'.monitor.stage = .watching ∧ server'.monitor.IsCandidate pid := by
  cases hmoved with
  | register => exact .inr ((Monitor.isCandidate_step hstage hcandidate _).resolve_left (by simp))
  | beside happening _ =>
    refine (Monitor.isCandidate_step hstage hcandidate happening).imp_left ?_
    rintro ⟨rfl, hgone⟩
    exact decide_eq_true hgone
  | _ => exact .inr ⟨hstage, hcandidate⟩

lemma run_cons (move : Move) (moves : List Move) :
    server.run assistant (move :: moves) =
      ((server.step assistant move).getD server).run assistant moves :=
  rfl

/-- What every move keeps, a run keeps: a move that cannot be made changes nothing. -/
lemma run_of_moved {P : Server → Prop}
    (hmoved : ∀ {server server' : Server} {move : Move}, P server →
      Moved assistant server move server' → P server')
    (h : P server) (moves : List Move) : P (server.run assistant moves) := by
  induction moves generalizing server with
  | nil => exact h
  | cons move moves ih =>
    rw [run_cons]
    cases hstep : server.step assistant move with
    | none => exact ih h
    | some next => exact ih (hmoved h (moved_of_step hstep))

/-- A client in question stays so until a tick finds it gone. -/
lemma isCandidate_run (moves : List Move) (hstage : server.monitor.stage = .watching)
    (hcandidate : server.monitor.IsCandidate pid) :
    everFindsGone assistant pid server moves = true ∨
      (server.run assistant moves).monitor.stage = .watching := by
  induction moves generalizing server with
  | nil => exact .inr hstage
  | cons move moves ih =>
    rw [everFindsGone, run_cons, Bool.or_eq_true, or_assoc]
    cases hstep : server.step assistant move with
    | none => exact .inr (ih hstage hcandidate)
    | some next =>
      refine (isCandidate_moved hstage hcandidate (moved_of_step hstep)).imp_right ?_
      rintro ⟨hnext, hstill⟩
      exact ih hnext hstill

lemma stage_moved_ne {move : Move} (hstage : server.monitor.stage ≠ .watching)
    (hmoved : Moved assistant server move server') : server'.monitor.stage ≠ .watching := by
  cases hmoved with
  | register => exact Monitor.stage_step_ne hstage _
  | beside happening _ => exact Monitor.stage_step_ne hstage happening
  | _ => exact hstage

/-- After the last tick no client is found gone any more. -/
lemma everFindsGone_eq_false (moves : List Move) (hstage : server.monitor.stage ≠ .watching) :
    everFindsGone assistant pid server moves = false := by
  induction moves generalizing server with
  | nil => rfl
  | cons move moves ih =>
    have hnot : server.findsGone pid move = false := by
      unfold findsGone
      split
      · exact decide_eq_false fun hgone => hstage hgone.1
      · rfl
    rw [everFindsGone, hnot, Bool.false_or]
    cases hstep : server.step assistant move with
    | none => exact ih hstage
    | some next => exact ih (stage_moved_ne hstage (moved_of_step hstep))

/-! ### The connection in hand -/

/-- The watch is over, and the server has not yet replied to the connection in hand, to which its
reply will be the last: it will be number `count`. -/
def Closing (count : Nat) (server : Server) : Prop :=
  server.monitor.isOver = true ∧
    match server.phase with
    | .registered _ | .replying _ => server.replies.length + 1 = count
    | .waiting | .stopped _ => server.replies.length = count
    | _ => False

lemma Closing.moved {count : Nat} {move : Move} (h : Closing count server)
    (hmoved : Moved assistant server move server') : Closing count server' := by
  obtain ⟨hover, hphases⟩ := h
  cases hmoved with
  | stop hphase =>
    obtain hphase | hphase := hphase
    · rw [hphase] at hphases
      exact ⟨hover, hphases⟩
    · rw [hphase] at hphases
      exact hphases.elim
  | stay _ hgoing =>
    rw [hover] at hgoing
    exact absurd hgoing (by decide)
  | process hphase =>
    rw [hphase] at hphases
    exact ⟨hover, hphases⟩
  | reply hphase =>
    rw [hphase] at hphases
    exact ⟨hover, by simpa using hphases⟩
  | beside happening _ => exact ⟨Monitor.isOver_step hover happening, hphases⟩
  | accept _ hphase | read hphase | register hphase | pass hphase | farewell hphase =>
    rw [hphase] at hphases
    exact hphases.elim

lemma Closing.run {count : Nat} (h : Closing count server) (assistant : Assistant)
    (moves : List Move) :
    Closing count (server.run assistant moves) :=
  run_of_moved (fun hclosing hmoved => hclosing.moved hmoved) h moves

/-! ### Servers that stop because their clients are gone -/

/-- What a server knows of the watch holds of it: the server stops only after the announcement,
which comes after the last tick. -/
structure Heeds (server : Server) : Prop where
  told : server.phase = .stopped .clientsGone → server.monitor.isOver = true
  last : server.monitor.isOver = true → server.monitor.stage ≠ .watching

lemma Heeds.moved {move : Move} (h : server.Heeds) (hmoved : Moved assistant server move server') :
    server'.Heeds := by
  cases hmoved with
  | stop _ hover => exact ⟨fun _ => hover, h.last⟩
  | beside happening _ =>
    exact ⟨fun hstopped => Monitor.isOver_step (h.told hstopped) happening,
      Monitor.stage_ne_of_isOver_step h.last happening⟩
  | register => exact ⟨by simp, Monitor.stage_ne_of_isOver_step h.last _⟩
  | _ => exact ⟨by simp, h.last⟩

lemma Heeds.run (h : server.Heeds) (assistant : Assistant) (moves : List Move) :
    (server.run assistant moves).Heeds :=
  run_of_moved (fun hheeds hmoved => hheeds.moved hmoved) h moves

lemma heeds_start (assistant : Assistant) (session : Session) (client : Option UInt32)
    (running : List UInt32) : (start assistant session (.start client running)).Heeds :=
  ⟨by simp [start], by simp [start, Monitor.start, Monitor.isOver]⟩

lemma run_append (first second : List Move) :
    server.run assistant (first ++ second) =
      (server.run assistant first).run assistant second := by
  rw [run, List.foldl_append]
  rfl

lemma step_register_of_entering (assistant : Assistant) (h : server.entering? = some pid) :
    ∃ request, server.step assistant .register =
      some { server with
        monitor := server.monitor.step (.register pid)
        phase := .registered request } := by
  rw [entering?] at h
  split at h
  · next request hphase =>
    split_ifs at h with hexit
    refine ⟨request, ?_⟩
    simp only [step, hphase, h]
    rw [if_neg hexit]
  · exact absurd h (by simp)

/-- A server with client 5 at the start, while client 7 is running too. -/
def twoClientServer : Server :=
  start failingAssistant bareServer.session (.start (some 5) [5, 7])

def registration : Connection :=
  ⟨[Utf8.encode "-client:7".toList]⟩

end Server

end ScriptAssist
