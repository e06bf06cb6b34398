import ScriptAssist.Proofs.CallOutcomes
import ScriptAssist.Proofs.InsertedFrames

/-!
# Runs with and without inserted messages

Messages that carry a method but no number of a call can be inserted into what arrives: a run then
has its like on the stream without them, and the other way round. The links in the two runs differ
only in the bytes that they have yet to read, as every message that was inserted is read without any
effect.
-/

namespace ScriptAssist.Link

open ScriptAssist.Frame

variable {link link' wide plain wide' plain' : Link} {move : Move} {received bytes : Bytes}
  {events events' : List Event} {messages : Set Json} {message : Json}
  {stream unread later taken behind chunk : Stream} {limit : Nat}

/-! ### Runs and what has arrived -/

/-- The bytes that arrive in a move. -/
def Move.arrived : Move → Bytes
  | .arrive bytes => bytes
  | _ => []

/-- A run in which these bytes have arrived, and what is remembered of it. -/
inductive RunOn : Bytes → List Event → Link → Prop where
  | start : RunOn [] [] .start
  | step {received : Bytes} {events : List Event} {link link' : Link}
      (run : RunOn received events link) (move : Move) (moved : link.step move = some link') :
      RunOn (received ++ move.arrived) (events ++ (link.event? move).toList) link'

lemma RunOn.run (run : RunOn received events link) : Run events link := by
  induction run with
  | start => exact .start
  | step run move moved ih => exact ih.step move moved

/-- Whether an event is one of a call. -/
def Event.isOfCall : Event → Bool
  | .dispatched _ => false
  | _ => true

/-- What can have become of calls while no more than this stream has arrived: which of them entered
the table and came to a result, in this order, and how they stand. -/
def Outcome (stream : Bytes) (history : List Event) (calls : List Call) : Prop :=
  ∃ received events link, received <+: stream ∧ RunOn received events link ∧
    events.filter Event.isOfCall = history ∧ link.calls = calls

/-- No message with a method that can be framed goes by the number of one of so many calls. -/
def AnswersNone (messages : Set Json) (limit : Nat) : Prop :=
  ∀ message ∈ messages, CarriesMethod message → (∃ bytes, Gives bytes (some message)) →
    ∀ call < limit, answered? message ≠ some (numberOf call : Int)

lemma lt_length_of_phaseOf? {calls : List Call} {call : Nat} {phase : Phase}
    (h : phaseOf? calls call = some phase) : call < calls.length := by
  obtain ⟨state, hstate, -⟩ := Option.map_eq_some_iff.mp h
  exact (List.getElem?_eq_some_iff.mp hstate).1

lemma Run.lt_length_of_mem_table (run : Run events link) {call : Nat} (h : call ∈ link.table) :
    call < link.calls.length := by
  obtain ⟨phase, hphase, -⟩ := (run.accounted.registered call).mp (run.accounted.table call h).1
  exact lt_length_of_phaseOf? hphase

lemma length_calls_clearTable (link : Link) :
    link.clearTable.calls.length = link.calls.length := by
  let tell (link : Link) (call : Nat) := link.deliver call (.error .connectionLost)
  have htold : ∀ (table : List Nat) (link : Link),
      (table.foldl tell link).calls.length = link.calls.length := by
    intro table
    induction table with
    | nil => exact fun _ => rfl
    | cons call table ih => exact fun link => (ih (tell link call)).trans (List.length_modify ..)
  exact htold link.table link

/-- Calls are never forgotten. -/
lemma length_calls_le (moved : link.step move = some link') :
    link.calls.length ≤ link'.calls.length := by
  have hchanges := changes_of_step moved
  generalize link.event? move = event at hchanges
  cases hchanges with
  | dispatch message rest hreading =>
    obtain ⟨call, -, -, heq⟩ | ⟨-, heq⟩ := dispatch_cases { link with incoming := rest } message
    · rw [heq]
    · rw [heq]
  | clearByWriter => exact (length_calls_clearTable link).ge
  | clearByReader => exact (length_calls_clearTable link).ge
  | aside link' hcalls => rw [hcalls]
  | begin request => simp
  | _ => simp [advance, deliver, modifyCall]

/-! ### Links with other bytes to read -/

/-- The link with other bytes to read. -/
def withIncoming (link : Link) (bytes : Bytes) : Link :=
  { link with incoming := bytes }

lemma clearTable_withIncoming (link : Link) (bytes : Bytes) :
    (link.withIncoming bytes).clearTable = link.clearTable.withIncoming bytes := by
  let tell (link : Link) (call : Nat) := link.deliver call (.error .connectionLost)
  have htold : ∀ (table : List Nat) (link : Link),
      table.foldl tell (link.withIncoming bytes) = (table.foldl tell link).withIncoming bytes := by
    intro table
    induction table with
    | nil => exact fun _ => rfl
    | cons call table ih => exact fun link => ih (tell link call)
  unfold clearTable
  rw [show (link.withIncoming bytes).table = link.table from rfl, htold link.table link]
  rfl

lemma dispatch_withIncoming (link : Link) (bytes : Bytes) (message : Json) :
    (link.withIncoming bytes).dispatch message = (link.dispatch message).withIncoming bytes := by
  unfold dispatch
  cases hfind : link.table.find? fun call => answered? message = some (numberOf call : Int) with
  | none =>
    simp only [withIncoming, hfind]
  | some call =>
    simp only [withIncoming, hfind]

lemma stepCall_withIncoming (link : Link) (bytes : Bytes) (call : Nat)
    {go go' : Call → Option Link} (h : ∀ state, go' state = (go state).map (·.withIncoming bytes)) :
    (link.withIncoming bytes).stepCall call go' =
      (link.stepCall call go).map (·.withIncoming bytes) := by
  unfold stepCall
  rw [show (link.withIncoming bytes).calls = link.calls from rfl]
  cases link.calls[call]? with
  | none => rfl
  | some state => exact h state

/-- Only the reader sees the bytes to read. -/
lemma step_withIncoming (link : Link) (bytes : Bytes) (hread : move ≠ .read)
    (harrive : ∀ more, move ≠ .arrive more) :
    (link.withIncoming bytes).step move = (link.step move).map (·.withIncoming bytes) := by
  cases move with
  | begin method params => rfl
  | register call =>
    refine stepCall_withIncoming link bytes call fun state => ?_
    cases state.phase <;> rfl
  | look call =>
    refine stepCall_withIncoming link bytes call fun state => ?_
    cases state.phase <;> rfl
  | withdraw call =>
    refine stepCall_withIncoming link bytes call fun state => ?_
    cases state.phase <;> rfl
  | enqueue call =>
    refine stepCall_withIncoming link bytes call fun state => ?_
    cases state.phase with
    | cleared =>
      dsimp only
      rw [apply_ite (Option.map _), apply_ite (Option.map _)]
      rfl
    | _ => rfl
  | finish call =>
    refine stepCall_withIncoming link bytes call fun state => ?_
    cases state.phase <;> cases state.delivered <;> rfl
  | take =>
    dsimp only [step, withIncoming]
    cases link.writer <;> cases link.queue <;> rfl
  | write =>
    dsimp only [step, withIncoming]
    cases link.writer with
    | writing request =>
      dsimp only
      split_ifs <;> rfl
    | _ => rfl
  | failWriting =>
    dsimp only [step, withIncoming]
    cases link.writer <;> rfl
  | endWriter =>
    dsimp only [step, stepEndWriter]
    rw [clearTable_withIncoming]
    dsimp only [withIncoming]
    cases link.writer <;> rfl
  | read => exact absurd rfl hread
  | deliver =>
    dsimp only [step, withIncoming]
    cases link.reader <;> rfl
  | failReading =>
    dsimp only [step, withIncoming]
    cases link.reader <;> rfl
  | endReader =>
    dsimp only [step, stepEndReader]
    rw [clearTable_withIncoming]
    dsimp only [withIncoming]
    cases link.reader <;> rfl
  | arrive more => exact absurd rfl (harrive more)
  | hangUp => rfl

lemma incoming_of_step (hread : move ≠ .read) (harrive : ∀ more, move ≠ .arrive more)
    (moved : link.step move = some link') : link'.incoming = link.incoming := by
  have hself := step_withIncoming link link.incoming hread harrive
  rw [show link.withIncoming link.incoming = link from rfl, moved, Option.map_some,
    Option.some.injEq] at hself
  rw [hself]
  rfl

/-! ### Links that read the stream with and without the inserted messages -/

/-- The link has yet to read this part of a stream, and these bytes are read as that part without
the inserted messages. -/
structure Matched (messages : Set Json) (unread later : Stream) (wide : Link) (bytes : Bytes) :
    Prop where
  stream : WithInserted messages (unread ++ later)
  incoming : wide.incoming = unread.all
  reads : ReadsLike bytes unread.kept

/-- A link and the same with other bytes to read can both make a move, which leaves them alike, or
neither can. -/
def MoveAlike (messages : Set Json) (later : Stream) (wide : Link) (bytes : Bytes)
    (move move' : Move) : Prop :=
  Option.Rel (fun wide' plain' => wide.event? move = (wide.withIncoming bytes).event? move' ∧
    ∃ unread bytes', plain' = wide'.withIncoming bytes' ∧
      Matched messages unread later wide' bytes')
    (wide.step move) ((wide.withIncoming bytes).step move')

lemma event?_withIncoming (link : Link) (bytes : Bytes) (hread : move ≠ .read) :
    (link.withIncoming bytes).event? move = link.event? move := by
  cases move with
  | read => exact absurd rfl hread
  | _ => rfl

lemma Matched.moveAlike_of_ne (h : Matched messages unread later wide bytes) (hread : move ≠ .read)
    (harrive : ∀ more, move ≠ .arrive more) : MoveAlike messages later wide bytes move move := by
  unfold MoveAlike
  rw [step_withIncoming wide bytes hread harrive]
  cases hstep : wide.step move with
  | none => exact .none
  | some wide' =>
    have hincoming := (incoming_of_step hread harrive hstep).trans h.incoming
    exact .some ⟨(event?_withIncoming wide bytes hread).symm, unread, bytes, rfl, h.stream,
      hincoming, h.reads⟩

lemma Matched.moveAlike_arrive (h : Matched messages unread (chunk ++ later) wide bytes) :
    MoveAlike messages later wide bytes (.arrive chunk.all) (.arrive chunk.kept) := by
  unfold MoveAlike
  dsimp only [step, withIncoming]
  split_ifs
  · exact .none
  · refine .some ⟨rfl, unread ++ chunk, bytes ++ chunk.kept, rfl, ?_, ?_, ?_⟩
    · rw [List.append_assoc]
      exact h.stream
    · simp [h.incoming]
    · simpa using h.reads.append chunk.kept

lemma moveAlike_of_none (hwide : wide.step move = none)
    (hplain : (wide.withIncoming bytes).step move = none) :
    MoveAlike messages later wide bytes move move := by
  unfold MoveAlike
  rw [hwide, hplain]
  exact .none

lemma incoming_dispatch (link : Link) (message : Json) :
    (link.dispatch message).incoming = link.incoming := by
  obtain ⟨call, -, -, heq⟩ | ⟨-, heq⟩ := dispatch_cases link message <;> rw [heq]

/-! ### Readers that read alike -/

lemma step_read_of_ne (hreading : link.reader ≠ .reading) : link.step .read = none := by
  simp only [step, stepRead]

lemma event?_read_of_message (link : Link) {rest : Bytes}
    (h : Frame.read link.incoming = .message message rest) :
    link.event? .read = some (.dispatched message) := by
  simp only [event?, h]

/-- The reader that stops at what it reads, if nothing more will arrive. -/
def stopAt? (link : Link) : Reading → Option Link
  | .message .. => none
  | .broken => some { link with reader := .ending }
  | .stuck => some { link with reader := .stuck }
  | .inHeader _ | .inBody => if link.hungUp then some { link with reader := .ending } else none

lemma step_read_of_not_message (link : Link) (hreading : link.reader = .reading)
    (h : ∀ message rest, Frame.read link.incoming ≠ .message message rest) :
    link.step .read = link.stopAt? (Frame.read link.incoming) ∧ link.event? .read = none := by
  simp only [step, stepRead, hreading, event?]
  cases hread : Frame.read link.incoming with
  | message message rest => exact absurd hread (h message rest)
  | _ => simp [stopAt?]

lemma stopAt?_of_isUnfinished (link : Link) {reading : Reading} (h : reading.isUnfinished = true) :
    link.stopAt? reading = if link.hungUp then some { link with reader := .ending } else none := by
  cases reading <;> simp_all [stopAt?, Reading.isUnfinished]

lemma stopAt?_withIncoming (link : Link) (bytes : Bytes) (reading : Reading) :
    (link.withIncoming bytes).stopAt? reading =
      (link.stopAt? reading).map (·.withIncoming bytes) := by
  cases reading <;> dsimp only [stopAt?, withIncoming] <;> first | rfl | (split_ifs <;> rfl)

lemma incoming_of_stopAt? {reading : Reading} (h : link.stopAt? reading = some link') :
    link'.incoming = link.incoming := by
  have hself := stopAt?_withIncoming link link.incoming reading
  rw [show link.withIncoming link.incoming = link from rfl, h, Option.map_some,
    Option.some.injEq] at hself
  rw [hself]
  rfl

/-- Readers that find no message stop alike. -/
lemma Matched.moveAlike_stop (h : Matched messages unread later wide bytes)
    (hreading : wide.reader = .reading)
    (hwide : ∀ message rest, Frame.read wide.incoming ≠ .message message rest)
    (hplain : ∀ message rest, Frame.read bytes ≠ .message message rest)
    (hsame : wide.stopAt? (Frame.read wide.incoming) = wide.stopAt? (Frame.read bytes)) :
    MoveAlike messages later wide bytes .read .read := by
  obtain ⟨hstep, hevent⟩ := step_read_of_not_message wide hreading hwide
  obtain ⟨hstep', hevent'⟩ := step_read_of_not_message (wide.withIncoming bytes) hreading hplain
  unfold MoveAlike
  rw [hstep, hstep', hevent, hevent', stopAt?_withIncoming, hsame,
    show (wide.withIncoming bytes).incoming = bytes from rfl]
  cases hstop : wide.stopAt? (Frame.read bytes) with
  | none => exact .none
  | some stopped =>
    have hincoming := (incoming_of_stopAt? hstop).trans h.incoming
    exact .some ⟨rfl, unread, bytes, rfl, h.stream, hincoming, h.reads⟩

lemma Matched.moveAlike_read (h : Matched messages unread later wide bytes)
    (hnext : ReadsAlike messages unread later) :
    MoveAlike messages later wide bytes .read .read := by
  by_cases hreading : wide.reader = .reading
  · cases hnext with
    | message message behind hreads hreads' hafter =>
      rw [← h.incoming] at hreads
      rw [← h.reads.read_eq] at hreads'
      have hplain := @step_read_of_message (wide.withIncoming bytes) _ _ hreading hreads'
      unfold MoveAlike
      rw [step_read_of_message hreading hreads, hplain, event?_read_of_message wide hreads,
        event?_read_of_message (wide.withIncoming bytes) hreads']
      exact .some ⟨rfl, behind, behind.kept,
        dispatch_withIncoming { wide with incoming := behind.all } behind.kept message, hafter,
        incoming_dispatch _ message, fun _ => rfl⟩
    | unfinished hreads hreads' =>
      rw [← h.incoming] at hreads
      rw [← h.reads.read_eq] at hreads'
      refine h.moveAlike_stop hreading (Reading.not_message_of_isUnfinished hreads)
        (Reading.not_message_of_isUnfinished hreads') ?_
      rw [stopAt?_of_isUnfinished wide hreads, stopAt?_of_isUnfinished wide hreads']
    | ended hended hsame =>
      rw [← h.incoming] at hended hsame
      rw [← h.reads.read_eq] at hsame
      have hwide := Reading.not_message_of_isOver hended
      exact h.moveAlike_stop hreading hwide (hsame ▸ hwide) (by rw [hsame])
  · exact moveAlike_of_none (step_read_of_ne hreading)
      (@step_read_of_ne (wide.withIncoming bytes) hreading)

/-- An inserted message that answers no call is read without any effect. -/
lemma Matched.read_inserted (h : Matched messages unread later wide bytes)
    (hnext : StartsInserted messages unread later message behind)
    (hreading : wide.reader = .reading)
    (hnone : ∀ call ∈ wide.table, answered? message ≠ some (numberOf call : Int)) :
    wide.step .read = some (wide.withIncoming behind.all) ∧
      wide.event? .read = some (.dispatched message) ∧
      Matched messages behind later (wide.withIncoming behind.all) bytes := by
  have hread : Frame.read wide.incoming = .message message behind.all := by
    rw [h.incoming, hnext.reads]
  refine ⟨?_, event?_read_of_message wide hread, hnext.after, rfl,
    fun more => (h.reads more).trans (hnext.passed more)⟩
  obtain ⟨call, hcall, hanswered, -⟩ | ⟨-, heq⟩ :=
    dispatch_cases (wide.withIncoming behind.all) message
  · exact absurd hanswered (hnone call hcall)
  · rw [step_read_of_message hreading hread]
    exact congrArg some heq

/-! ### Runs with and without the inserted messages -/

/-- A run in which part of a stream has arrived, and one in which the same part has arrived without
the inserted messages, remember the same of the calls and lead to links that are alike. -/
structure Mirrors (messages : Set Json) (taken later unread : Stream) (events events' : List Event)
    (wide : Link) (bytes : Bytes) : Prop
    extends Matched messages unread later wide bytes where
  run : RunOn taken.all events wide
  run' : RunOn taken.kept events' (wide.withIncoming bytes)
  history : events.filter Event.isOfCall = events'.filter Event.isOfCall

lemma Move.kinds (move : Move) :
    (∃ bytes, move = .arrive bytes) ∨
      ((∀ bytes, move ≠ .arrive bytes) ∧ move.arrived = []) := by
  cases move <;> simp [Move.arrived]

lemma reading_of_step_read (moved : link.step .read = some link') : link.reader = .reading := by
  by_contra hreading
  rw [step_read_of_ne hreading] at moved
  exact absurd moved (by simp)

lemma AnswersNone.answers_ne (hnone : AnswersNone messages limit)
    (hstarts : StartsInserted messages unread later message behind) (run : Run events link)
    (hlimit : link.calls.length ≤ limit) :
    ∀ call ∈ link.table, answered? message ≠ some (numberOf call : Int) := fun call hcall =>
  hnone message hstarts.mem hstarts.method hstarts.framed call
    ((run.lt_length_of_mem_table hcall).trans_le hlimit)

/-- An inserted message that is read next is read without any effect. -/
lemma Mirrors.read_inserted
    (h : Mirrors messages taken later unread events events' wide bytes)
    (hstarts : StartsInserted messages unread later message behind)
    (hreading : wide.reader = .reading)
    (hne : ∀ call ∈ wide.table, answered? message ≠ some (numberOf call : Int)) :
    wide.step .read = some (wide.withIncoming behind.all) ∧
      Mirrors messages taken later behind (events ++ (wide.event? .read).toList) events'
        (wide.withIncoming behind.all) bytes := by
  obtain ⟨hstep, hevent, hmatched⟩ := h.toMatched.read_inserted hstarts hreading hne
  have hrun := h.run.step .read hstep
  rw [show Move.read.arrived = [] from rfl, List.append_nil] at hrun
  refine ⟨hstep, hmatched, hrun, h.run', ?_⟩
  rw [hevent, List.filter_append, h.history]
  exact List.append_nil _

/-- All inserted messages that are read next are read without any effect. -/
lemma Mirrors.exists_readsAlike (hnone : AnswersNone messages limit)
    (h : Mirrors messages taken later unread events events' wide bytes)
    (hlimit : wide.calls.length ≤ limit) (hreading : wide.reader = .reading) :
    ∃ unread events wide', wide'.withIncoming bytes = wide.withIncoming bytes ∧
      Mirrors messages taken later unread events events' wide' bytes ∧
      ReadsAlike messages unread later := by
  generalize hlength : unread.length = length
  induction length using Nat.strong_induction_on generalizing unread events wide with
  | h length ih =>
    rcases h.stream.next with ⟨message, behind, hstarts⟩ | halike
    · obtain ⟨-, hmirrors⟩ :=
        h.read_inserted hstarts hreading (hnone.answers_ne hstarts h.run.run hlimit)
      have hshorter : behind.length < length := by
        have hlt := length_lt_of_read hstarts.reads
        rwa [Stream.all, Stream.all, List.length_map, List.length_map, hlength] at hlt
      have hbehind := ih behind.length hshorter hmirrors hlimit hreading rfl
      exact hbehind
    · exact ⟨unread, events, wide, rfl, h, halike⟩

lemma MoveAlike.isSome_eq {move' : Move} (h : MoveAlike messages later wide bytes move move') :
    (wide.step move).isSome = ((wide.withIncoming bytes).step move').isSome := by
  unfold MoveAlike at h
  generalize wide.step move = moved, (wide.withIncoming bytes).step move' = moved' at h
  cases h with
  | some => rfl
  | none => rfl

/-- Moves that both links make keep the runs alike. -/
lemma Mirrors.step {move' : Move}
    (h : Mirrors messages taken (chunk ++ later) unread events events' wide bytes)
    (halike : MoveAlike messages later wide bytes move move') (hall : move.arrived = chunk.all)
    (hkept : move'.arrived = chunk.kept) (moved : wide.step move = some wide')
    (moved' : (wide.withIncoming bytes).step move' = some plain') :
    ∃ unread bytes', plain' = wide'.withIncoming bytes' ∧
      Mirrors messages (taken ++ chunk) later unread (events ++ (wide.event? move).toList)
        (events' ++ ((wide.withIncoming bytes).event? move').toList) wide' bytes' := by
  unfold MoveAlike at halike
  rw [moved, moved', Option.rel_some_some] at halike
  obtain ⟨hevent, unread, bytes', rfl, hmatched⟩ := halike
  have hrun := h.run.step move moved
  have hrun' := h.run'.step move' moved'
  rw [hall, ← Stream.all_append] at hrun
  rw [hkept, ← Stream.kept_append] at hrun'
  refine ⟨unread, bytes', rfl, hmatched, hrun, hrun', ?_⟩
  rw [List.filter_append, List.filter_append, h.history, hevent]

lemma Mirrors.start (hmixed : WithInserted messages stream) :
    Mirrors messages [] stream [] [] [] .start [] where
  stream := hmixed
  incoming := rfl
  reads := fun _ => rfl
  run := .start
  run' := .start
  history := rfl

/-- What a run does in a move that both links make, its like without the inserted messages does. -/
lemma Mirrors.exists_kept_of_moveAlike {move' : Move}
    (h : Mirrors messages taken (chunk ++ later) unread events events' wide bytes)
    (halike : MoveAlike messages later wide bytes move move') (hall : move.arrived = chunk.all)
    (hkept : move'.arrived = chunk.kept) (moved : wide.step move = some wide') :
    ∃ chunk' later' unread events' bytes, chunk ++ later = chunk' ++ later' ∧
      chunk'.all = move.arrived ∧
      Mirrors messages (taken ++ chunk') later' unread (events ++ (wide.event? move).toList) events'
        wide' bytes := by
  have hsome := halike.isSome_eq
  rw [moved] at hsome
  obtain ⟨plain', moved'⟩ := Option.isSome_iff_exists.mp hsome.symm
  obtain ⟨unread', bytes', -, hnext⟩ := h.step halike hall hkept moved moved'
  exact ⟨chunk, later, unread', _, bytes', rfl, hall.symm, hnext⟩

/-- What a run does next, its like without the inserted messages does, -/
lemma Mirrors.exists_kept_step (hnone : AnswersNone messages limit)
    (h : Mirrors messages taken later unread events events' wide bytes)
    (moved : wide.step move = some wide') (hlimit : wide.calls.length ≤ limit)
    (harrived : move.arrived <+: later.all) :
    ∃ chunk later' unread events' bytes, later = chunk ++ later' ∧ chunk.all = move.arrived ∧
      Mirrors messages (taken ++ chunk) later' unread (events ++ (wide.event? move).toList) events'
        wide' bytes := by
  have hnil : Mirrors messages taken ([] ++ later) unread events events' wide bytes := h
  rcases move.kinds with ⟨more, rfl⟩ | ⟨harrive, hnothing⟩
  · obtain ⟨chunk, later', rfl, rfl⟩ := Stream.exists_all_eq harrived
    exact h.exists_kept_of_moveAlike h.toMatched.moveAlike_arrive rfl rfl moved
  · by_cases hread : move = .read
    · subst hread
      have hreading := reading_of_step_read moved
      rcases h.stream.next with ⟨message, behind, hstarts⟩ | halike
      · obtain ⟨hstep, hmirrors⟩ :=
          h.read_inserted hstarts hreading (hnone.answers_ne hstarts h.run.run hlimit)
        obtain rfl := Option.some.inj (moved.symm.trans hstep)
        exact ⟨[], later, behind, events', bytes, rfl, rfl, by rwa [List.append_nil]⟩
      · exact hnil.exists_kept_of_moveAlike (h.toMatched.moveAlike_read halike) rfl rfl moved
    · exact hnil.exists_kept_of_moveAlike (h.toMatched.moveAlike_of_ne hread harrive) hnothing
        hnothing moved

/-- and the other way round, once the inserted messages that come first have been read. -/
lemma Mirrors.exists_moveAlike (hnone : AnswersNone messages limit)
    (h : Mirrors messages taken later unread events events' wide bytes)
    (moved : (wide.withIncoming bytes).step move = some plain')
    (hlimit : wide.calls.length ≤ limit) (harrived : move.arrived <+: later.kept) :
    ∃ chunk later' move' unread events ready, later = chunk ++ later' ∧
      move'.arrived = chunk.all ∧ move.arrived = chunk.kept ∧
      ready.withIncoming bytes = wide.withIncoming bytes ∧
      Mirrors messages taken later unread events events' ready bytes ∧
      MoveAlike messages later' ready bytes move' move := by
  rcases move.kinds with ⟨more, rfl⟩ | ⟨harrive, hnothing⟩
  · obtain ⟨chunk, later', rfl, rfl⟩ := Stream.exists_kept_eq harrived
    exact ⟨chunk, later', .arrive chunk.all, unread, events, wide, rfl, rfl, rfl, rfl, h,
      h.toMatched.moveAlike_arrive⟩
  · by_cases hread : move = .read
    · subst hread
      have hreading := @reading_of_step_read (wide.withIncoming bytes) plain' moved
      obtain ⟨unread', events'', ready, hsame, hmirrors, halike⟩ :=
        h.exists_readsAlike hnone hlimit hreading
      exact ⟨[], later, .read, unread', events'', ready, rfl, rfl, rfl, hsame, hmirrors,
        hmirrors.toMatched.moveAlike_read halike⟩
    · exact ⟨[], later, move, unread, events, wide, rfl, hnothing, hnothing, rfl, h,
        h.toMatched.moveAlike_of_ne hread harrive⟩

lemma Mirrors.exists_all_step (hnone : AnswersNone messages limit)
    (h : Mirrors messages taken later unread events events' wide bytes)
    (moved : (wide.withIncoming bytes).step move = some plain')
    (hlimit : wide.calls.length ≤ limit) (harrived : move.arrived <+: later.kept) :
    ∃ chunk later' unread events wide' bytes', later = chunk ++ later' ∧
      chunk.kept = move.arrived ∧ plain' = wide'.withIncoming bytes' ∧
      Mirrors messages (taken ++ chunk) later' unread events
        (events' ++ ((wide.withIncoming bytes).event? move).toList) wide' bytes' := by
  obtain ⟨chunk, later', move', unread', events'', ready, rfl, hall, hkept, hsame, hmirrors,
    halike⟩ := h.exists_moveAlike hnone moved hlimit harrived
  rw [← hsame] at moved ⊢
  have hsome := halike.isSome_eq
  rw [moved] at hsome
  obtain ⟨wide', moved'⟩ := Option.isSome_iff_exists.mp hsome
  obtain ⟨unread', bytes', hplain, hnext⟩ := hmirrors.step halike hall hkept moved' moved
  exact ⟨chunk, later', unread', _, wide', bytes', rfl, hkept.symm, hplain, hnext⟩

/-- Every run on a stream has its like on the stream without the inserted messages, -/
lemma RunOn.exists_kept (hnone : AnswersNone messages limit)
    (hmixed : WithInserted messages stream) (run : RunOn received events wide)
    (hlimit : wide.calls.length ≤ limit) (hreceived : received <+: stream.all) :
    ∃ taken later unread events' bytes, stream = taken ++ later ∧ taken.all = received ∧
      Mirrors messages taken later unread events events' wide bytes := by
  induction run with
  | start => exact ⟨[], stream, [], [], [], rfl, rfl, .start hmixed⟩
  | @step received events wide wide' run move moved ih =>
    have hbefore := (length_calls_le moved).trans hlimit
    obtain ⟨taken, later, unread, events', bytes, rfl, rfl, hmirrors⟩ :=
      ih hbefore ((List.prefix_append _ _).trans hreceived)
    rw [Stream.all_append, List.prefix_append_right_inj] at hreceived
    obtain ⟨chunk, later', unread', events'', bytes', rfl, hchunk, hnext⟩ :=
      hmirrors.exists_kept_step hnone moved hbefore hreceived
    exact ⟨taken ++ chunk, later', unread', events'', bytes', by rw [List.append_assoc],
      by rw [Stream.all_append, hchunk], hnext⟩

/-- and every run on that has its like on the whole stream. -/
lemma RunOn.exists_all (hnone : AnswersNone messages limit)
    (hmixed : WithInserted messages stream) (run : RunOn received events' plain)
    (hlimit : plain.calls.length ≤ limit) (hreceived : received <+: stream.kept) :
    ∃ taken later unread events wide bytes, stream = taken ++ later ∧ taken.kept = received ∧
      plain = wide.withIncoming bytes ∧
      Mirrors messages taken later unread events events' wide bytes := by
  induction run with
  | start => exact ⟨[], stream, [], [], .start, [], rfl, rfl, rfl, .start hmixed⟩
  | @step received events' plain plain' run move moved ih =>
    have hbefore := (length_calls_le moved).trans hlimit
    obtain ⟨taken, later, unread, events, wide, bytes, rfl, rfl, rfl, hmirrors⟩ :=
      ih hbefore ((List.prefix_append _ _).trans hreceived)
    rw [Stream.kept_append, List.prefix_append_right_inj] at hreceived
    obtain ⟨chunk, later', unread', events'', wide', bytes', rfl, hchunk, hplain, hnext⟩ :=
      hmirrors.exists_all_step hnone moved hbefore hreceived
    exact ⟨taken ++ chunk, later', unread', events'', wide', bytes', by rw [List.append_assoc],
      by rw [Stream.kept_append, hchunk], hplain, hnext⟩

/-- Messages that answer none of the calls change nothing that can become of these. -/
lemma outcome_all_iff (hnone : AnswersNone messages limit) (hmixed : WithInserted messages stream)
    {history : List Event} {calls : List Call} (hlimit : calls.length ≤ limit) :
    Outcome stream.all history calls ↔ Outcome stream.kept history calls := by
  constructor
  · rintro ⟨received, events, wide, hreceived, run, rfl, rfl⟩
    obtain ⟨taken, later, unread, events', bytes, rfl, rfl, hmirrors⟩ :=
      run.exists_kept hnone hmixed hlimit hreceived
    exact ⟨taken.kept, events', wide.withIncoming bytes, by simp, hmirrors.run',
      hmirrors.history.symm, rfl⟩
  · rintro ⟨received, events', plain, hreceived, run, rfl, rfl⟩
    obtain ⟨taken, later, unread, events, wide, bytes, rfl, rfl, rfl, hmirrors⟩ :=
      run.exists_all hnone hmixed hlimit hreceived
    exact ⟨taken.all, events, wide, by simp, hmirrors.run, hmirrors.history, rfl⟩

end ScriptAssist.Link
