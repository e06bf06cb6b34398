import Mathlib.Logic.Relation
import ScriptAssist.Proofs.CallAccounts
import ScriptAssist.Proofs.FrameStream

/-!
# What calls come to

Over any run of a link, with any number of calls, a call comes to one result at most: the answer in
the first message with its number that the reader finds after the call has entered the table, or an
error of the connection. Once the reader or the writer has aborted, no call waits any more, and none
ever starts to.

That no call is left waiting rests on the order of two pairs of accesses: a call enters the table
before it looks whether the link is up, and whoever ends the link marks it as down before clearing
the table. `Guarded` says what this comes to: after the clearing, the calls in the table are
those that have not looked yet or have been refused.
-/

namespace ScriptAssist.Link

variable {events : List Event} {link link' : Link} {call : Nat}

/-! ### Calls that see the link go down -/

/-- Once the link is marked as down it stays down, and once the table has been cleared after that,
no call in the table has been let through. -/
structure Guarded (link : Link) : Prop where
  down : link.isMarkedDown = true → link.isUp = false
  outside : link.hasAborted = true → ∀ call ∈ link.table,
    phaseOf? link.calls call = some .registered ∨ phaseOf? link.calls call = some .refused

lemma Guarded.start : Guarded .start where
  down := by simp [isMarkedDown, Link.start, Reader.hasMarked, Writer.hasMarked]
  outside := by simp [Link.start]

lemma Guarded.notMem (h : Guarded link) (haborted : link.hasAborted = true) {phase : Phase}
    (hphase : phaseOf? link.calls call = some phase) (hthrough : phase.isLetThrough = true) :
    call ∉ link.table := by
  intro hcall
  obtain hregistered | hrefused := h.outside haborted call hcall
  · rw [hphase, Option.some.injEq] at hregistered
    simp [hregistered, Phase.isLetThrough] at hthrough
  · rw [hphase, Option.some.injEq] at hrefused
    simp [hrefused, Phase.isLetThrough] at hthrough

lemma Guarded.advance (h : Guarded link) {new : Phase}
    (hnew : link.hasAborted = true → call ∈ link.table → new = .refused) :
    Guarded (link.advance call new) where
  down := h.down
  outside := by
    intro haborted other hother
    have hold := h.outside haborted other hother
    rw [phaseOf?_advance]
    split_ifs with hcall
    · subst hcall
      rw [hnew haborted hother]
      obtain hphase | hphase := hold <;> exact .inr (by simp [hphase])
    · exact hold

lemma Guarded.changes (h : Guarded link) {event : Option Event}
    (hchanges : Changes link event link') : Guarded link' := by
  cases hchanges with
  | begin request =>
    refine ⟨h.down, fun haborted call hcall => ?_⟩
    have hold := h.outside haborted call hcall
    have hne : call ≠ link.calls.length := by
      rintro rfl
      simp [phaseOf?_length] at hold
    rw [phaseOf?_append_numbered, if_neg hne]
    exact hold
  | register call hphase =>
    refine ⟨h.down, fun haborted other hother => ?_⟩
    rw [phaseOf?_advance]
    split_ifs with hcall
    · subst hcall
      exact .inl (by simp [hphase])
    · have hne : other ≠ call := Ne.symm hcall
      exact h.outside haborted other (by simpa [hne] using hother)
  | look call hphase =>
    -- this is where the order counts: the call is in the table before it looks
    refine h.advance fun haborted _ => ?_
    rw [h.down (isMarkedDown_of_hasAborted haborted)]
    rfl
  | withdraw call hphase =>
    refine ⟨h.down, fun haborted other hother => ?_⟩
    obtain ⟨htable, hne⟩ := List.mem_filter.1 hother
    have hcall : call ≠ other := fun heq => of_decide_eq_true hne heq.symm
    rw [phaseOf?_advance, if_neg hcall]
    exact h.outside haborted other htable
  | enqueue call request hphase =>
    have hwaiting : Guarded (link.advance call .waiting) :=
      h.advance fun haborted hcall => absurd hcall (h.notMem haborted hphase rfl)
    exact ⟨hwaiting.down, hwaiting.outside⟩
  | drop call hphase =>
    exact h.advance fun haborted hcall => absurd hcall (h.notMem haborted hphase rfl)
  | finish call result hphase =>
    exact h.advance fun haborted hcall => absurd hcall (h.notMem haborted hphase rfl)
  | dispatch message rest hreading =>
    obtain ⟨call, -, -, heq⟩ | ⟨-, heq⟩ := dispatch_cases { link with incoming := rest } message
    · rw [heq]
      refine ⟨fun hmarked => h.down ?_, fun haborted other hother => h.outside ?_ other ?_⟩
      · simpa [isMarkedDown, Reader.hasMarked, hreading] using hmarked
      · simpa [hasAborted, Reader.hasCleared, hreading] using haborted
      · exact (List.mem_filter.1 hother).1
    · rw [heq]
      exact ⟨h.down, h.outside⟩
  | deliver call result hheld =>
    refine ⟨fun hmarked => h.down ?_, fun haborted other hother => ?_⟩
    · simpa [isMarkedDown, Reader.hasMarked, hheld] using hmarked
    · rw [phaseOf?_deliver]
      refine h.outside ?_ other hother
      simpa [hasAborted, Reader.hasCleared, hheld] using haborted
  | markByWriter hfailed =>
    refine ⟨fun _ => rfl, fun haborted => h.outside ?_⟩
    simpa [hasAborted, Writer.hasCleared, hfailed] using haborted
  | markByReader hending =>
    refine ⟨fun _ => rfl, fun haborted => h.outside ?_⟩
    simpa [hasAborted, Reader.hasCleared, hending] using haborted
  | clearByWriter hclearing =>
    -- and here: the link is down before the table is cleared
    refine ⟨fun _ => ?_, fun _ => by simp⟩
    rw [isUp_clearTable]
    exact h.down (by simp [isMarkedDown, hclearing, Writer.hasMarked])
  | clearByReader hclearing =>
    refine ⟨fun _ => ?_, fun _ => by simp⟩
    rw [isUp_clearTable]
    exact h.down (by simp [isMarkedDown, hclearing, Reader.hasMarked])
  | aside link' hcalls htable hisUp hheld hmarked haborted =>
    exact ⟨by rw [hmarked, hisUp]; exact h.down,
      by rw [haborted, hcalls, htable]; exact h.outside⟩

/-! ### After an abort -/

/-- Whether a call has been let through: it waits for its answer or is about to. -/
def isLetThrough (link : Link) (call : Nat) : Bool :=
  (phaseOf? link.calls call).any Phase.isLetThrough

lemma isLetThrough_advance {phase : Phase} {other : Nat} (hphase : phase.isLetThrough = false)
    (h : (link.advance call phase).isLetThrough other = true) : link.isLetThrough other = true := by
  unfold isLetThrough at h ⊢
  rw [phaseOf?_advance] at h
  split_ifs at h
  · simp [Option.any_map, hphase] at h
  · exact h

lemma hasAborted_of_changes {event : Option Event} (hchanges : Changes link event link')
    (h : link.hasAborted = true) : link'.hasAborted = true := by
  have hcleared : link.reader.hasCleared = true ∨ link.writer.hasCleared = true :=
    Bool.or_eq_true_iff.1 h
  cases hchanges with
  | dispatch message rest hreading =>
    have hwriter : link.writer.hasCleared = true :=
      hcleared.resolve_left (by simp [hreading, Reader.hasCleared])
    obtain ⟨other, -, -, heq⟩ | ⟨-, heq⟩ := dispatch_cases { link with incoming := rest } message
    · rw [heq]
      exact Bool.or_eq_true_iff.2 (.inr hwriter)
    · rw [heq]
      exact h
  | deliver other result hheld =>
    have hwriter : link.writer.hasCleared = true :=
      hcleared.resolve_left (by simp [hheld, Reader.hasCleared])
    exact Bool.or_eq_true_iff.2 (.inr hwriter)
  | markByWriter hfailed =>
    have hreader : link.reader.hasCleared = true :=
      hcleared.resolve_right (by simp [hfailed, Writer.hasCleared])
    exact Bool.or_eq_true_iff.2 (.inl hreader)
  | markByReader hending =>
    have hwriter : link.writer.hasCleared = true :=
      hcleared.resolve_left (by simp [hending, Reader.hasCleared])
    exact Bool.or_eq_true_iff.2 (.inr hwriter)
  | clearByWriter hclearing => exact Bool.or_eq_true_iff.2 (.inr rfl)
  | clearByReader hclearing => exact Bool.or_eq_true_iff.2 (.inl rfl)
  | aside link' hcalls htable hisUp hheld hmarked haborted => exact haborted ▸ h
  | _ => exact h

/-- Once the link has aborted, no call is let through any more. -/
lemma isLetThrough_of_changes (hguarded : Guarded link) (haborted : link.hasAborted = true)
    {event : Option Event} (hchanges : Changes link event link')
    (h : link'.isLetThrough call = true) : link.isLetThrough call = true := by
  cases hchanges with
  | begin request =>
    unfold isLetThrough at h ⊢
    rw [phaseOf?_append_numbered] at h
    split_ifs at h
    · simp [Phase.isLetThrough] at h
    · exact h
  | register other hphase => exact isLetThrough_advance rfl h
  | look other hphase =>
    rw [hguarded.down (isMarkedDown_of_hasAborted haborted)] at h
    exact isLetThrough_advance rfl h
  | withdraw other hphase => exact isLetThrough_advance rfl h
  | enqueue other request hphase =>
    unfold isLetThrough at h ⊢
    rw [phaseOf?_advance] at h
    split_ifs at h with hother
    · rw [← hother, hphase]
      rfl
    · exact h
  | drop other hphase => exact isLetThrough_advance rfl h
  | finish other result hphase => exact isLetThrough_advance rfl h
  | dispatch message rest hreading =>
    obtain ⟨other, -, -, heq⟩ | ⟨-, heq⟩ := dispatch_cases { link with incoming := rest } message
    · rw [heq] at h
      exact h
    · rw [heq] at h
      exact h
  | deliver other result hheld =>
    unfold isLetThrough at h ⊢
    rwa [phaseOf?_deliver] at h
  | markByWriter hfailed => exact h
  | markByReader hending => exact h
  | clearByWriter hclearing =>
    unfold isLetThrough at h ⊢
    rwa [phaseOf?_clearTable] at h
  | clearByReader hclearing =>
    unfold isLetThrough at h ⊢
    rwa [phaseOf?_clearTable] at h
  | aside link' hcalls =>
    unfold isLetThrough at h ⊢
    rwa [hcalls] at h

/-! ### Whole runs -/

lemma Run.accounted (run : Run events link) : Accounted events link := by
  induction run with
  | start => exact Accounted.start
  | step run move moved ih => exact ih.changes (changes_of_step moved)

lemma Run.guarded (run : Run events link) : Guarded link := by
  induction run with
  | start => exact Guarded.start
  | step run move moved ih => exact ih.changes (changes_of_step moved)

lemma Guarded.later (h : Guarded link) (haborted : link.hasAborted = true)
    (later : Relation.ReflTransGen Steps link link') :
    Guarded link' ∧ link'.hasAborted = true ∧
      ∀ call, link'.isLetThrough call = true → link.isLetThrough call = true := by
  induction later with
  | refl => exact ⟨h, haborted, fun _ hthrough => hthrough⟩
  | tail _ steps ih =>
    obtain ⟨hguarded, haborted, hthrough⟩ := ih
    obtain ⟨move, moved⟩ := steps
    have hchanges := changes_of_step moved
    exact ⟨hguarded.changes hchanges, hasAborted_of_changes hchanges haborted, fun call hcall =>
      hthrough call (isLetThrough_of_changes hguarded haborted hchanges hcall)⟩

lemma Run.answered_of_hasAborted (run : Run events link) (haborted : link.hasAborted = true)
    (hwaiting : phaseOf? link.calls call = some .waiting) :
    (link.step (.finish call)).isSome = true ∨ ∃ result, link.reader = .delivering call result := by
  have hnot : call ∉ link.table := run.guarded.notMem haborted hwaiting rfl
  obtain htable | hdelivered | ⟨result, hheld⟩ := run.accounted.kept call .waiting hwaiting rfl
  · exact absurd htable hnot
  · obtain ⟨state, hstate, hphase⟩ := Option.map_eq_some_iff.1 hwaiting
    obtain ⟨result, hresult⟩ := Option.isSome_iff_exists.1 hdelivered
    have hanswer : state.delivered = some result := by
      simpa [deliveredTo?, hstate] using hresult
    exact .inl (by simp [Link.step, stepCall, hstate, hphase, hanswer])
  · refine .inr ⟨result, ?_⟩
    cases hreader : link.reader <;> simp_all [Reader.held?]

/-- In every run, a call comes to one result at most: the first answer with its number that is read
after it has entered the table, or an error of the connection. When the reader or the writer has
aborted, a call whose request is in the queue can take its answer, unless the reader is just about
to deliver it, and from then on no call is let through that was not let through before. -/
theorem Run.no_lost_call (run : Run events link) :
    (∀ call, (completions call events).length ≤ 1 ∧
      (∀ result, link.result? call = some result ↔ result ∈ completions call events) ∧
      ∀ result ∈ completions call events,
        IsConnectionError result ∨ firstAnswer? call events = some result) ∧
    (link.hasAborted = true →
      (∀ call, phaseOf? link.calls call = some .waiting →
        (link.step (.finish call)).isSome = true ∨
          ∃ result, link.reader = .delivering call result) ∧
      ∀ later, Relation.ReflTransGen Steps link later → later.hasAborted = true ∧
        ∀ call, later.isLetThrough call = true → link.isLetThrough call = true) := by
  refine ⟨fun call => ?_, fun haborted => ⟨fun call => run.answered_of_hasAborted haborted, ?_⟩⟩
  · have hcompletions : completions call events = (link.result? call).toList := by
      rw [run.accounted.completions call, result?_eq_bind]
    rw [hcompletions]
    refine ⟨?_, ?_, ?_⟩
    · cases link.result? call <;> simp
    · exact fun result => Option.mem_toList.symm
    · intro result hresult
      rw [Option.mem_toList, result?_eq_bind] at hresult
      obtain ⟨phase, hphase, hdone⟩ := Option.bind_eq_some_iff.1 hresult
      refine run.accounted.outcome call result ?_
      cases phase <;> simp_all [Phase.result?]
  · exact fun later hlater => (run.guarded.later haborted hlater).2

lemma step_read_of_message {message : Json} {rest : Bytes} (hreading : link.reader = .reading)
    (hread : Frame.read link.incoming = .message message rest) :
    link.step .read = some ({ link with incoming := rest }.dispatch message) := by
  simp only [step, stepRead, hreading, hread]

def firstReply : Json :=
  .obj [("id".toList, .int 1)]

/-- The first of two calls gets its reply before reading fails, and the second looks too late. -/
theorem Run.no_lost_call_of_two_calls :
    ∃ events link, Run events link ∧ link.hasAborted = true ∧
      link.result? 0 = some (.ok .null) ∧ firstAnswer? 0 events = some (.ok .null) ∧
      link.result? 1 = some (.error .connectionLost) := by
  have hjson : Json.ofText? firstReply.toText = some firstReply := rfl
  have hread : Frame.read (Frame.write firstReply) = .message firstReply [] := by
    simpa using Frame.read_write hjson (by decide) []
  have arrived := (((((((Run.start.step (.begin "format".toList .null) rfl).step
    (.begin "outline".toList .null) rfl).step (.register 0) rfl).step (.register 1) rfl).step
    (.look 0) rfl).step (.enqueue 0) rfl).step (.arrive (Frame.write firstReply)) rfl)
  have answered := ((arrived.step .read (step_read_of_message rfl hread)).step
    .deliver rfl).step (.finish 0) rfl
  have aborted := (((((answered.step .failReading rfl).step .endReader rfl).step
    .endReader rfl).step (.look 1) rfl).step (.withdraw 1) rfl)
  obtain ⟨hcalls, -⟩ := aborted.no_lost_call
  obtain ⟨-, hcompleted, houtcome⟩ := hcalls 0
  refine ⟨_, _, aborted, rfl, rfl, ?_, rfl⟩
  have herror : ¬ IsConnectionError (.ok .null) := by simp [IsConnectionError]
  exact (houtcome _ ((hcompleted _).1 rfl)).resolve_left herror

end ScriptAssist.Link
