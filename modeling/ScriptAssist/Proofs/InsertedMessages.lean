import ScriptAssist.Proofs.JsonText
import ScriptAssist.Proofs.MirroredRuns

/-!
# Messages that answer no call

Messages with a method are notifications and requests, and the engine may send any number of them
between its answers. They are passed over unless they carry the number of a call that waits: the
reader looks at the number alone, so a request of the engine that has chosen it is taken for the
answer.
-/

namespace ScriptAssist.Link

open ScriptAssist.Frame

variable {link link' : Link} {move : Move} {received bytes : Bytes} {events : List Event}
  {message : Json}

/-! ### A message that is taken for an answer -/

lemma step_register {call : Nat} (h : phaseOf? link.calls call = some .numbered) :
    link.step (.register call) =
      some { link.advance call .registered with table := link.table ++ [call] } := by
  obtain ⟨state, hstate, hphase⟩ := Option.map_eq_some_iff.mp h
  simp [step, stepCall, hstate, hphase]

lemma step_look {call : Nat} (h : phaseOf? link.calls call = some .registered) :
    link.step (.look call) =
      some (link.advance call (if link.isUp then .cleared else .refused)) := by
  obtain ⟨state, hstate, hphase⟩ := Option.map_eq_some_iff.mp h
  simp [step, stepCall, hstate, hphase]

lemma RunOn.exists_enqueued (run : RunOn received events link) (call : Nat)
    (h : phaseOf? link.calls call = some .cleared) (htakes : link.takesRequests = true)
    (hroom : link.queue.length < queueSize) :
    ∃ request, RunOn received events
      { link.advance call .waiting with queue := link.queue ++ [request] } := by
  obtain ⟨state, hstate, hphase⟩ := Option.map_eq_some_iff.mp h
  have hstep : link.step (.enqueue call) =
      some { link.advance call .waiting with queue := link.queue ++ [state.request] } := by
    simp [Link.step, stepCall, hstate, hphase, htakes, hroom]
  have hevent : link.event? (.enqueue call) = none := if_pos htakes
  have hrun := run.step (.enqueue call) hstep
  rw [hevent, show (Move.enqueue call).arrived = [] from rfl, Option.toList_none, List.append_nil,
    List.append_nil] at hrun
  exact ⟨state.request, hrun⟩

lemma step_finish {call : Nat} (result : Result) (h : phaseOf? link.calls call = some .waiting)
    (hdelivered : deliveredTo? link.calls call = some result) :
    link.step (.finish call) = some (link.advance call (.done result)) := by
  obtain ⟨state, hstate, hphase⟩ := Option.map_eq_some_iff.mp h
  have hresult : state.delivered = some result := by
    simpa [deliveredTo?, hstate] using hdelivered
  simp [step, stepCall, hstate, hphase, hresult]

/-- The link when so many calls have got their numbers. -/
lemma exists_begun (count : Nat) :
    ∃ calls : List Call, calls.length = count ∧ RunOn [] [] { Link.start with calls := calls } := by
  induction count with
  | zero => exact ⟨[], rfl, .start⟩
  | succ count ih =>
    obtain ⟨calls, rfl, run⟩ := ih
    exact ⟨_, List.length_append, run.step (.begin [] .null) rfl⟩

/-- A call that has put its request into the queue. -/
lemma exists_waiting (call : Nat) :
    ∃ link, RunOn [] [.registered call] link ∧ link.calls.length = call + 1 ∧
      phaseOf? link.calls call = some .waiting ∧ link.table = [call] ∧ link.incoming = [] ∧
      link.hungUp = false ∧ link.reader = .reading := by
  obtain ⟨calls, hlength, run⟩ := exists_begun call
  have begun := run.step (.begin [] .null) rfl
  have hbegun : phaseOf? (calls ++ [⟨requestMessage (numberOf calls.length) [] .null, .numbered,
      none⟩]) call = some .numbered := by
    rw [phaseOf?_append_numbered, if_pos hlength.symm]
  have registered := begun.step (.register call) (step_register hbegun)
  have looked := registered.step (.look call) (step_look (by simp [hbegun]))
  have hroom : 0 < queueSize := by decide
  obtain ⟨request, waiting⟩ := looked.exists_enqueued call (by simp [hbegun]; rfl) rfl hroom
  refine ⟨_, waiting, ?_, ?_, rfl, rfl, rfl, rfl⟩
  · simp [advance, modifyCall, hlength]
  · simp [hbegun]

/-- A message with the number of a call that waits is taken for the answer to it. -/
lemma outcome_answered {call : Nat} (hgives : Gives bytes (some message))
    (hanswered : answered? message = some (numberOf call : Int)) :
    ∃ calls : List Call, calls.length = call + 1 ∧
      Outcome bytes [.registered call, .completed call (resultOf message)] calls := by
  obtain ⟨link, waiting, hlength, hphase, htable, hincoming, hhungUp, hreading⟩ :=
    exists_waiting call
  have hread : Frame.read (link.incoming ++ bytes) = .message message [] := by
    simpa [hincoming] using hgives []
  have harrive : link.step (.arrive bytes) =
      some { link with incoming := link.incoming ++ bytes } := by
    simp [step, hhungUp]
  have arrived := waiting.step (.arrive bytes) harrive
  have read := arrived.step .read (step_read_of_message hreading hread)
  rw [event?_read_of_message _ hread] at read
  obtain ⟨other, hother, -, heq⟩ | ⟨hnone, -⟩ :=
    dispatch_cases { link with incoming := [] } message
  · obtain rfl : other = call := by simpa [htable] using hother
    rw [heq] at read
    have delivered := read.step .deliver rfl
    have finished := delivered.step (.finish other)
      (step_finish (resultOf message) (by simpa using hphase) (by simp [hphase]))
    have hevent : ∀ link : Link, deliveredTo? link.calls other = some (resultOf message) →
        link.event? (.finish other) = some (.completed other (resultOf message)) := by
      intro link hdelivered
      simp only [event?, hdelivered, Option.map_some]
    rw [hevent _ (by simp [hphase])] at finished
    refine ⟨_, ?_, _, _, _, ?_, finished, rfl, rfl⟩
    · simp [advance, Link.deliver, modifyCall, hlength]
    · simp [Move.arrived]
  · exact absurd hanswered (hnone call (by simp [htable]))

/-! ### Links at which nothing arrives -/

lemma eq_read_of_event?_eq {link : Link} (h : link.event? move = some (.dispatched message)) :
    move = .read := by
  cases move with
  | read => rfl
  | enqueue call =>
    dsimp only [event?] at h
    split_ifs at h
    exact absurd h (by simp)
  | finish call =>
    obtain ⟨result, -, hcompleted⟩ := Option.map_eq_some_iff.mp h
    exact absurd hcompleted (by simp)
  | _ => exact absurd h (by simp [event?])

/-- The reader finds no message in a move in which nothing arrives. -/
lemma silent_of_step (hincoming : link.incoming = []) (harrived : move.arrived = [])
    (moved : link.step move = some link') :
    link'.incoming = [] ∧ ∀ message, link.event? move ≠ some (.dispatched message) := by
  have hnothing : ∀ message rest, Frame.read link.incoming ≠ .message message rest := by
    rw [hincoming, read_nil]
    simp
  constructor
  · rcases move.kinds with ⟨more, rfl⟩ | ⟨harrive, -⟩
    · have hmore : more = [] := harrived
      simp only [step] at moved
      split_ifs at moved
      rw [← Option.some.inj moved, hmore, hincoming]
      rfl
    · by_cases hread : move = .read
      · subst hread
        rw [(step_read_of_not_message link (reading_of_step_read moved) hnothing).1] at moved
        rw [incoming_of_stopAt? moved, hincoming]
      · rw [incoming_of_step hread harrive moved, hincoming]
  · intro message hevent
    obtain rfl := eq_read_of_event?_eq hevent
    rw [(step_read_of_not_message link (reading_of_step_read moved) hnothing).2] at hevent
    exact absurd hevent (by simp)

/-- The reader finds no message if nothing has arrived. -/
lemma RunOn.silent (run : RunOn received events link) (h : received = []) :
    link.incoming = [] ∧ ∀ message, .dispatched message ∉ events := by
  induction run with
  | start => exact ⟨rfl, fun _ => List.not_mem_nil⟩
  | step run move moved ih =>
    obtain ⟨hreceived, harrived⟩ := List.append_eq_nil_iff.mp h
    obtain ⟨hincoming, hsilent⟩ := ih hreceived
    obtain ⟨hincoming', hevent⟩ := silent_of_step hincoming harrived moved
    refine ⟨hincoming', fun message hmem => ?_⟩
    rcases List.mem_append.mp hmem with hmem | hmem
    · exact hsilent message hmem
    · exact hevent message (Option.mem_toList.mp hmem)

lemma completions_filter (call : Nat) (events : List Event) :
    completions call (events.filter Event.isOfCall) = completions call events := by
  unfold completions
  rw [List.filterMap_filter]
  refine List.filterMap_congr fun event _ => ?_
  cases event <;> rfl

lemma not_isConnectionError_resultOf (message : Json) : ¬ IsConnectionError (resultOf message) := by
  unfold resultOf IsConnectionError
  split
  · split <;> simp
  · simp

/-- No call gets a result of its own if nothing arrives. -/
lemma not_outcome_nil {call : Nat} {result : Result} (hresult : ¬ IsConnectionError result)
    {history : List Event} (hcompleted : .completed call result ∈ history) (calls : List Call) :
    ¬ Outcome [] history calls := by
  rintro ⟨received, events, link, hreceived, run, rfl, -⟩
  obtain ⟨-, hsilent⟩ := run.silent (List.prefix_nil.mp hreceived)
  have hmem : result ∈ completions call events := by
    rw [← completions_filter]
    exact List.mem_filterMap.mpr ⟨_, hcompleted, if_pos rfl⟩
  have hdone : phaseOf? link.calls call = some (.done result) := by
    rw [run.run.accounted.completions call, Option.mem_toList] at hmem
    obtain ⟨phase, hphase, hphaseDone⟩ := Option.bind_eq_some_iff.mp hmem
    cases phase <;> simp_all [Phase.result?]
  obtain herror | hanswer := run.run.accounted.outcome call result hdone
  · exact hresult herror
  · -- an answer would have been found in a message
    obtain ⟨event, hevent, hfound⟩ := List.exists_of_findSome?_eq_some hanswer
    cases event with
    | dispatched message =>
      exact hsilent message ((List.dropWhile_sublist _).subset hevent)
    | registered other => exact absurd hfound (by simp [Event.answer?])
    | completed other found => exact absurd hfound (by simp [Event.answer?])

/-- Inserting messages that carry a method into a stream changes nothing that can become of calls if
and only if none of them carries the number of one of the calls. -/
theorem inserted_messages_change_nothing_iff (messages : Set Json) (limit : Nat) :
    (∀ stream, WithInserted messages stream → ∀ history (calls : List Call), calls.length ≤ limit →
      (Outcome stream.all history calls ↔ Outcome stream.kept history calls)) ↔
    AnswersNone messages limit := by
  constructor
  · rintro hsame message hmem hmethod ⟨bytes, hgives⟩ call hcall hanswered
    have hmixed : WithInserted messages (.inserted bytes ++ .own []) :=
      .insert hgives hmem hmethod (.rest [])
    obtain ⟨calls, hlength, houtcome⟩ := outcome_answered hgives hanswered
    have hwithout := (hsame _ hmixed _ calls (by omega)).mp (by simpa using houtcome)
    have hcompleted : Event.completed call (resultOf message) ∈
        [Event.registered call, Event.completed call (resultOf message)] := by simp
    exact not_outcome_nil (not_isConnectionError_resultOf message) hcompleted calls
      (by simpa using hwithout)
  · intro hnone stream hmixed history calls hlimit
    exact outcome_all_iff hnone hmixed hlimit

/-- A notification. -/
def logMessage : Json :=
  .obj [("method".toList, .str "log".toList)]

theorem inserted_messages_change_nothing_logMessage :
    CarriesMethod logMessage ∧ (∃ bytes, Gives bytes (some logMessage)) ∧
      ∀ stream, WithInserted {logMessage} stream → ∀ history (calls : List Call), calls.length ≤ 2 →
        (Outcome stream.all history calls ↔ Outcome stream.kept history calls) := by
  have hprintable : Json.Printable Json.maxDepth logMessage := by
    simp [logMessage, Json.maxDepth, Json.Printable]
  have hjson : Json.ofText? logMessage.toText = some logMessage := Json.ofText?_toText hprintable
  have hnumber : answered? logMessage = none := rfl
  refine ⟨rfl, ⟨_, gives_write hjson (by decide)⟩, ?_⟩
  refine (inserted_messages_change_nothing_iff {logMessage} 2).mpr ?_
  rintro message rfl - - call - hanswered
  rw [hnumber] at hanswered
  exact absurd hanswered (by simp)

/-- A request of the engine that has the number of the first call. -/
def engineRequest : Json :=
  .obj [("id".toList, .int 1), ("method".toList, .str "ask".toList)]

/-- The request of the engine is taken for the answer, while without it there is no answer. -/
theorem engine_request_taken_for_answer :
    let stream := Stream.inserted (Frame.write engineRequest) ++ .own []
    CarriesMethod engineRequest ∧ WithInserted {engineRequest} stream ∧
      ∃ calls : List Call, calls.length = 1 ∧
        Outcome stream.all [.registered 0, .completed 0 (.ok .null)] calls ∧
        ¬ Outcome stream.kept [.registered 0, .completed 0 (.ok .null)] calls := by
  have hprintable : Json.Printable Json.maxDepth engineRequest := by
    simp only [engineRequest, Json.maxDepth, Json.Printable, List.forall_mem_cons, and_true,
      List.not_mem_nil, false_imp_iff, implies_true]
    exact ⟨by decide, by decide⟩
  have hjson : Json.ofText? engineRequest.toText = some engineRequest :=
    Json.ofText?_toText hprintable
  have hgives : Gives (Frame.write engineRequest) (some engineRequest) :=
    gives_write hjson (by decide)
  have hanswered : answered? engineRequest = some (numberOf 0 : Int) := rfl
  have hresult : resultOf engineRequest = .ok .null := rfl
  have hmixed : WithInserted {engineRequest} (.inserted (Frame.write engineRequest) ++ .own []) :=
    .insert hgives rfl rfl (.rest [])
  obtain ⟨calls, hlength, houtcome⟩ := outcome_answered hgives hanswered
  have hcompleted : Event.completed 0 (.ok .null) ∈ [.registered 0, .completed 0 (.ok .null)] :=
    List.mem_cons_of_mem _ List.mem_cons_self
  have hnot := not_outcome_nil (hresult ▸ not_isConnectionError_resultOf engineRequest) hcompleted
    calls
  rw [hresult] at houtcome
  exact ⟨rfl, hmixed, calls, hlength, by simpa using houtcome, by simpa using hnot⟩

end ScriptAssist.Link
