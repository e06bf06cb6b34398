import Mathlib.Tactic.Lemma
import Mathlib.Tactic.SplitIfs
import ScriptAssist.Analysis.Link

/-!
# What a move of a link changes

The moves of a link are brought down to the few kinds of change that its calls, its table and the
way to its end can see. Each kind says what held before the move and what the link is after it.
-/

namespace ScriptAssist.Link

/-! ### Calls -/

def phaseOf? (calls : List Call) (call : Nat) : Option Phase :=
  calls[call]?.map Call.phase

def deliveredTo? (calls : List Call) (call : Nat) : Option Result :=
  calls[call]?.bind Call.delivered

def Phase.result? : Phase → Option Result
  | .done result => some result
  | _ => none

/-- Whether a call in this phase has entered the table and is not done. -/
def Phase.isOpen : Phase → Bool
  | .numbered | .done _ => false
  | _ => true

/-- Whether a call in this phase has seen that the link is up and is not done. -/
def Phase.isLetThrough : Phase → Bool
  | .cleared | .waiting => true
  | _ => false

lemma result?_eq_bind (link : Link) (call : Nat) :
    link.result? call = (phaseOf? link.calls call).bind Phase.result? := by
  unfold result? phaseOf?
  cases link.calls[call]?.map Call.phase with
  | none => rfl
  | some phase => cases phase <;> rfl

lemma phaseOf?_length (calls : List Call) : phaseOf? calls calls.length = none := by
  simp [phaseOf?]

lemma getElem?_append_of_gt {calls : List Call} {call : Nat} (h : calls.length < call)
    (new : Call) : (calls ++ [new])[call]? = none ∧ calls[call]? = none := by
  simp only [List.getElem?_eq_none_iff, List.length_append, List.length_singleton]
  omega

lemma phaseOf?_append_numbered (calls : List Call) (request : Json) (call : Nat) :
    phaseOf? (calls ++ [⟨request, .numbered, none⟩]) call =
      if call = calls.length then some .numbered else phaseOf? calls call := by
  unfold phaseOf?
  obtain hlt | rfl | hgt := Nat.lt_trichotomy call calls.length
  · rw [List.getElem?_append_left hlt, if_neg (Nat.ne_of_lt hlt)]
  · simp
  · obtain ⟨hnew, hold⟩ := getElem?_append_of_gt hgt ⟨request, .numbered, none⟩
    rw [hnew, hold, if_neg (Nat.ne_of_gt hgt)]

lemma deliveredTo?_append_numbered (calls : List Call) (request : Json) (call : Nat) :
    deliveredTo? (calls ++ [⟨request, .numbered, none⟩]) call = deliveredTo? calls call := by
  unfold deliveredTo?
  obtain hlt | rfl | hgt := Nat.lt_trichotomy call calls.length
  · rw [List.getElem?_append_left hlt]
  · simp
  · obtain ⟨hnew, hold⟩ := getElem?_append_of_gt hgt ⟨request, .numbered, none⟩
    rw [hnew, hold]

lemma phaseOf?_modify (calls : List Call) (call : Nat) (change : Call → Call) (other : Nat) :
    phaseOf? (calls.modify call change) other =
      if call = other then calls[other]?.map fun state => (change state).phase
      else phaseOf? calls other := by
  unfold phaseOf?
  rw [List.getElem?_modify]
  cases calls[other]? <;> split_ifs <;> simp_all

lemma deliveredTo?_modify (calls : List Call) (call : Nat) (change : Call → Call) (other : Nat) :
    deliveredTo? (calls.modify call change) other =
      if call = other then calls[other]?.bind fun state => (change state).delivered
      else deliveredTo? calls other := by
  unfold deliveredTo?
  rw [List.getElem?_modify]
  cases calls[other]? <;> split_ifs <;> simp_all

@[simp] lemma phaseOf?_advance (link : Link) (call : Nat) (phase : Phase) (other : Nat) :
    phaseOf? (link.advance call phase).calls other =
      if call = other then (phaseOf? link.calls other).map fun _ => phase
      else phaseOf? link.calls other := by
  have hmap : phaseOf? (link.advance call phase).calls other =
      if call = other then link.calls[other]?.map fun _ => phase
      else phaseOf? link.calls other := phaseOf?_modify ..
  rw [hmap, phaseOf?, Option.map_map]
  rfl

@[simp] lemma deliveredTo?_advance (link : Link) (call : Nat) (phase : Phase) (other : Nat) :
    deliveredTo? (link.advance call phase).calls other = deliveredTo? link.calls other := by
  simp only [advance, modifyCall, deliveredTo?_modify]
  exact ite_self _

@[simp] lemma phaseOf?_deliver (link : Link) (call : Nat) (result : Result) (other : Nat) :
    phaseOf? (link.deliver call result).calls other = phaseOf? link.calls other := by
  simp only [deliver, modifyCall, phaseOf?_modify]
  exact ite_self _

@[simp] lemma deliveredTo?_deliver (link : Link) (call : Nat) (result : Result) (other : Nat) :
    deliveredTo? (link.deliver call result).calls other =
      if call = other then (phaseOf? link.calls other).map fun _ => result
      else deliveredTo? link.calls other := by
  simp only [deliver, modifyCall, deliveredTo?_modify, phaseOf?, Option.map_map]
  cases link.calls[other]? <;> rfl

@[simp] lemma table_advance (link : Link) (call : Nat) (phase : Phase) :
    (link.advance call phase).table = link.table := rfl

@[simp] lemma writer_deliver (link : Link) (call : Nat) (result : Result) :
    (link.deliver call result).writer = link.writer := rfl

/-- Clearing the table delivers to every call in it that the connection is lost. -/
lemma calls_clearTable (link : Link) (other : Nat) :
    phaseOf? link.clearTable.calls other = phaseOf? link.calls other ∧
      deliveredTo? link.clearTable.calls other =
        if other ∈ link.table then
          (phaseOf? link.calls other).map fun _ => .error .connectionLost
        else deliveredTo? link.calls other := by
  let tell (link : Link) (call : Nat) := link.deliver call (.error .connectionLost)
  have htold : ∀ (table : List Nat) (link : Link),
      phaseOf? (table.foldl tell link).calls other = phaseOf? link.calls other ∧
        deliveredTo? (table.foldl tell link).calls other =
          if other ∈ table then (phaseOf? link.calls other).map fun _ => .error .connectionLost
          else deliveredTo? link.calls other := by
    intro table
    induction table with
    | nil => simp
    | cons call table ih =>
      intro link
      rw [List.foldl_cons, (ih _).1, (ih _).2]
      simp only [tell, phaseOf?_deliver, deliveredTo?_deliver, List.mem_cons, true_and]
      by_cases hcall : call = other
      · simp [hcall]
      · simp [hcall, Ne.symm hcall]
  exact htold link.table link

@[simp] lemma phaseOf?_clearTable (link : Link) (other : Nat) :
    phaseOf? link.clearTable.calls other = phaseOf? link.calls other :=
  (calls_clearTable link other).1

@[simp] lemma deliveredTo?_clearTable (link : Link) (other : Nat) :
    deliveredTo? link.clearTable.calls other =
      if other ∈ link.table then (phaseOf? link.calls other).map fun _ => .error .connectionLost
      else deliveredTo? link.calls other :=
  (calls_clearTable link other).2

@[simp] lemma table_clearTable (link : Link) : link.clearTable.table = [] := rfl

lemma clearTable_eq (link : Link) :
    link.clearTable = { link with calls := link.clearTable.calls, table := [] } := by
  let tell (link : Link) (call : Nat) := link.deliver call (.error .connectionLost)
  have htold : ∀ (table : List Nat) (link : Link),
      table.foldl tell link = { link with calls := (table.foldl tell link).calls } := by
    intro table
    induction table with
    | nil => exact fun _ => rfl
    | cons call table ih => exact fun link => ih (tell link call)
  unfold clearTable
  rw [htold link.table link]

@[simp] lemma reader_clearTable (link : Link) : link.clearTable.reader = link.reader := by
  rw [clearTable_eq]

@[simp] lemma isUp_clearTable (link : Link) : link.clearTable.isUp = link.isUp := by
  rw [clearTable_eq]

lemma dispatch_cases (link : Link) (message : Json) :
    (∃ call ∈ link.table, answered? message = some (numberOf call : Int) ∧
      link.dispatch message =
        { link with
          table := link.table.filter fun other => other ≠ call
          reader := .delivering call (resultOf message) }) ∨
      (∀ call ∈ link.table, answered? message ≠ some (numberOf call : Int)) ∧
        link.dispatch message = link := by
  unfold dispatch
  cases hfind : link.table.find? fun call => answered? message = some (numberOf call : Int) with
  | none =>
    refine .inr ⟨fun call hcall hanswered => ?_, rfl⟩
    exact List.find?_eq_none.1 hfind call hcall (by simpa using hanswered)
  | some call =>
    have hanswered := List.find?_some hfind
    exact .inl ⟨call, List.mem_of_find?_eq_some hfind, by simpa using hanswered, rfl⟩

/-! ### The way to the end -/

def Reader.held? : Reader → Option (Nat × Result)
  | .delivering call result => some (call, result)
  | _ => none

def Reader.hasMarked : Reader → Bool
  | .clearing | .ended => true
  | _ => false

def Reader.hasCleared : Reader → Bool
  | .ended => true
  | _ => false

def Writer.hasMarked : Writer → Bool
  | .clearing | .closing | .ended => true
  | _ => false

def Writer.hasCleared : Writer → Bool
  | .closing | .ended => true
  | _ => false

/-- Whether the reader or the writer has marked the link as down. -/
def isMarkedDown (link : Link) : Bool :=
  link.reader.hasMarked || link.writer.hasMarked

/-- Whether the reader or the writer has aborted: it has marked the link as down and cleared the
table. -/
def hasAborted (link : Link) : Bool :=
  link.reader.hasCleared || link.writer.hasCleared

lemma isMarkedDown_of_hasAborted {link : Link} (h : link.hasAborted = true) :
    link.isMarkedDown = true := by
  have hreader : link.reader.hasCleared = true → link.reader.hasMarked = true := by
    cases link.reader <;> simp [Reader.hasCleared, Reader.hasMarked]
  have hwriter : link.writer.hasCleared = true → link.writer.hasMarked = true := by
    cases link.writer <;> simp [Writer.hasCleared, Writer.hasMarked]
  exact Bool.or_eq_true_iff.2 ((Bool.or_eq_true_iff.1 h).imp hreader hwriter)

/-! ### Changes -/

/-- What is remembered of a run: that a call entered the table, that the reader found a message,
and that a call came to a result. -/
inductive Event where
  | registered (call : Nat)
  | dispatched (message : Json)
  | completed (call : Nat) (result : Result)

def event? (link : Link) : Move → Option Event
  | .register call => some (.registered call)
  | .withdraw call => some (.completed call (.error .connectionLost))
  | .enqueue call =>
    if link.takesRequests then none else some (.completed call (.error .connectionClosed))
  | .finish call => (deliveredTo? link.calls call).map (.completed call)
  | .read =>
    match Frame.read link.incoming with
    | .message message _ => some (.dispatched message)
    | _ => none
  | _ => none

/-- How a link changes, with what is remembered of it. -/
inductive Changes (link : Link) : Option Event → Link → Prop where
  | begin (request : Json) :
    Changes link none { link with calls := link.calls ++ [⟨request, .numbered, none⟩] }
  | register (call : Nat) (phase : phaseOf? link.calls call = some .numbered) :
    Changes link (some (.registered call))
      { link.advance call .registered with table := link.table ++ [call] }
  | look (call : Nat) (phase : phaseOf? link.calls call = some .registered) :
    Changes link none (link.advance call (if link.isUp then .cleared else .refused))
  | withdraw (call : Nat) (phase : phaseOf? link.calls call = some .refused) :
    Changes link (some (.completed call (.error .connectionLost)))
      { link.advance call (.done (.error .connectionLost)) with
        table := link.table.filter fun other => other ≠ call }
  | enqueue (call : Nat) (request : Json) (phase : phaseOf? link.calls call = some .cleared) :
    Changes link none
      { link.advance call .waiting with queue := link.queue ++ [request] }
  | drop (call : Nat) (phase : phaseOf? link.calls call = some .cleared) :
    Changes link (some (.completed call (.error .connectionClosed)))
      (link.advance call (.done (.error .connectionClosed)))
  | finish (call : Nat) (result : Result) (phase : phaseOf? link.calls call = some .waiting)
      (delivered : deliveredTo? link.calls call = some result) :
    Changes link (some (.completed call result)) (link.advance call (.done result))
  | dispatch (message : Json) (rest : Bytes) (reading : link.reader = .reading) :
    Changes link (some (.dispatched message)) ({ link with incoming := rest }.dispatch message)
  | deliver (call : Nat) (result : Result) (held : link.reader = .delivering call result) :
    Changes link none { link.deliver call result with reader := .reading }
  | markByWriter (failed : link.writer = .failed) :
    Changes link none { link with isUp := false, writer := .clearing }
  | markByReader (ending : link.reader = .ending) :
    Changes link none { link with isUp := false, reader := .clearing }
  | clearByWriter (clearing : link.writer = .clearing) :
    Changes link none { link.clearTable with writer := .closing }
  | clearByReader (clearing : link.reader = .clearing) :
    Changes link none { link.clearTable with reader := .ended }
  | aside (link' : Link) (calls : link'.calls = link.calls) (table : link'.table = link.table)
      (isUp : link'.isUp = link.isUp) (held : link'.reader.held? = link.reader.held?)
      (marked : link'.isMarkedDown = link.isMarkedDown)
      (aborted : link'.hasAborted = link.hasAborted) : Changes link none link'

lemma stepCall_eq_some {link link' : Link} {call : Nat} {move : Call → Option Link}
    (h : link.stepCall call move = some link') :
    ∃ state, phaseOf? link.calls call = some state.phase ∧
      deliveredTo? link.calls call = state.delivered ∧ move state = some link' := by
  obtain ⟨state, hstate, hmove⟩ := Option.bind_eq_some_iff.1 h
  exact ⟨state, by simp [phaseOf?, hstate], by simp [deliveredTo?, hstate], hmove⟩

lemma changes_of_stepEndWriter {link link' : Link} (h : link.stepEndWriter = some link') :
    Changes link none link' := by
  unfold stepEndWriter at h
  split at h
  · next hfailed => exact Option.some.inj h ▸ .markByWriter hfailed
  · next hclearing => exact Option.some.inj h ▸ .clearByWriter hclearing
  · next hclosing =>
    refine Option.some.inj h ▸ .aside _ rfl rfl rfl rfl ?_ ?_
    · simp [isMarkedDown, Writer.hasMarked, hclosing]
    · simp [hasAborted, Writer.hasCleared, hclosing]
  · exact absurd h (by simp)

lemma changes_of_stepEndReader {link link' : Link} (h : link.stepEndReader = some link') :
    Changes link none link' := by
  unfold stepEndReader at h
  split at h
  · next hending => exact Option.some.inj h ▸ .markByReader hending
  · next hclearing => exact Option.some.inj h ▸ .clearByReader hclearing
  · exact absurd h (by simp)

lemma changes_of_stopReading {link : Link} {reader : Reader} (hreading : link.reader = .reading)
    (hreader : reader = .ending ∨ reader = .stuck) :
    Changes link none { link with reader := reader } := by
  refine .aside _ rfl rfl rfl ?_ ?_ ?_
  · obtain rfl | rfl := hreader <;> simp [Reader.held?, hreading]
  · obtain rfl | rfl := hreader <;> simp [isMarkedDown, Reader.hasMarked, hreading]
  · obtain rfl | rfl := hreader <;> simp [hasAborted, Reader.hasCleared, hreading]

lemma changes_of_stepRead {link link' : Link} (h : link.stepRead = some link') :
    Changes link (link.event? .read) link' := by
  unfold stepRead at h
  split at h
  · next hreading =>
    unfold event?
    split at h
    · next message rest hread =>
      rw [hread]
      exact Option.some.inj h ▸ .dispatch message rest hreading
    · next hread =>
      rw [hread]
      exact Option.some.inj h ▸ changes_of_stopReading hreading (.inl rfl)
    · next hread =>
      rw [hread]
      exact Option.some.inj h ▸ changes_of_stopReading hreading (.inr rfl)
    all_goals
      next hread =>
        rw [hread]
        split at h
        · exact Option.some.inj h ▸ changes_of_stopReading hreading (.inl rfl)
        · exact absurd h (by simp)
  · exact absurd h (by simp)

lemma changes_of_writer {link : Link} {writer : Writer} (queue : List Json) (sent : Bytes)
    (hbefore : link.writer.hasMarked = false) (hafter : writer.hasMarked = false) :
    Changes link none { link with queue := queue, sent := sent, writer := writer } := by
  have hcleared : ∀ {writer : Writer}, writer.hasMarked = false → writer.hasCleared = false := by
    intro writer h
    cases writer <;> simp_all [Writer.hasMarked, Writer.hasCleared]
  refine .aside _ rfl rfl rfl rfl ?_ ?_
  · simp [isMarkedDown, hbefore, hafter]
  · simp [hasAborted, hcleared hbefore, hcleared hafter]

/-- Every move makes one of the changes. -/
theorem changes_of_step {link link' : Link} {move : Move} (h : link.step move = some link') :
    Changes link (link.event? move) link' := by
  cases move with
  | begin method params => exact Option.some.inj h ▸ .begin _
  | register call =>
    obtain ⟨state, hphase, -, h⟩ := stepCall_eq_some h
    split at h
    · next hstate => exact Option.some.inj h ▸ .register call (hstate ▸ hphase)
    · exact absurd h (by simp)
  | look call =>
    obtain ⟨state, hphase, -, h⟩ := stepCall_eq_some h
    split at h
    · next hstate => exact Option.some.inj h ▸ .look call (hstate ▸ hphase)
    · exact absurd h (by simp)
  | withdraw call =>
    obtain ⟨state, hphase, -, h⟩ := stepCall_eq_some h
    split at h
    · next hstate => exact Option.some.inj h ▸ .withdraw call (hstate ▸ hphase)
    · exact absurd h (by simp)
  | enqueue call =>
    obtain ⟨state, hphase, -, h⟩ := stepCall_eq_some h
    split at h
    · next hstate =>
      unfold event?
      cases hopen : link.takesRequests with
      | false =>
        simp only [hopen, Bool.not_false, if_true, Option.some.injEq] at h
        exact h ▸ .drop call (hstate ▸ hphase)
      | true =>
        simp only [hopen, Bool.not_true, if_false, Bool.false_eq_true] at h
        split at h
        · exact Option.some.inj h ▸ .enqueue call state.request (hstate ▸ hphase)
        · exact absurd h (by simp)
    · exact absurd h (by simp)
  | finish call =>
    obtain ⟨state, hphase, hdelivered, h⟩ := stepCall_eq_some h
    split at h
    · next result hstate hresult =>
      have hanswer : deliveredTo? link.calls call = some result := hdelivered.trans hresult
      rw [event?, hanswer]
      exact Option.some.inj h ▸ .finish call result (hstate ▸ hphase) hanswer
    · exact absurd h (by simp)
  | take =>
    simp only [step] at h
    split at h
    · next request queue hidle _ =>
      exact Option.some.inj h ▸ changes_of_writer queue link.sent (hidle ▸ rfl) rfl
    · exact absurd h (by simp)
  | write =>
    simp only [step] at h
    split at h
    · next request hwriting =>
      split at h
      · exact absurd h (by simp)
      · exact Option.some.inj h ▸ changes_of_writer link.queue _ (hwriting ▸ rfl) rfl
    · exact absurd h (by simp)
  | failWriting =>
    simp only [step] at h
    split at h
    · next request hwriting =>
      exact Option.some.inj h ▸ changes_of_writer link.queue link.sent (hwriting ▸ rfl) rfl
    · exact absurd h (by simp)
  | endWriter => exact changes_of_stepEndWriter h
  | read => exact changes_of_stepRead h
  | deliver =>
    simp only [step] at h
    split at h
    · next call result hheld => exact Option.some.inj h ▸ .deliver call result hheld
    · exact absurd h (by simp)
  | failReading =>
    simp only [step] at h
    split at h
    · next hreading => exact Option.some.inj h ▸ changes_of_stopReading hreading (.inl rfl)
    · exact absurd h (by simp)
  | endReader => exact changes_of_stepEndReader h
  | arrive bytes =>
    simp only [step] at h
    split at h
    · exact absurd h (by simp)
    · exact Option.some.inj h ▸ .aside _ rfl rfl rfl rfl rfl rfl
  | hangUp => exact Option.some.inj h ▸ .aside _ rfl rfl rfl rfl rfl rfl

end ScriptAssist.Link
