import Mathlib.Data.List.TakeWhile
import ScriptAssist.Proofs.LinkMoves

/-!
# Where answers are

Every answer is followed from the message it came in over the table, the reader's hand and the call
to the result of the call. At any moment of any run each answer and each open call is in exactly the
places where it can be, which is what `Accounted` says, and every change of the link keeps it so.
-/

namespace ScriptAssist.Link

variable {events : List Event} {link link' : Link} {call : Nat}

/-! ### Runs and what is remembered of them -/

inductive Run : List Event → Link → Prop where
  | start : Run [] .start
  | step {events : List Event} {link link' : Link} (run : Run events link) (move : Move)
      (moved : link.step move = some link') : Run (events ++ (link.event? move).toList) link'

def Event.registers (call : Nat) : Event → Bool
  | .registered other => other = call
  | _ => false

def Event.answer? (call : Nat) : Event → Option Result
  | .dispatched message =>
    if answered? message = some (numberOf call : Int) then some (resultOf message) else none
  | _ => none

def Event.completion? (call : Nat) : Event → Option Result
  | .completed other result => if other = call then some result else none
  | _ => none

/-- The first answer to a call that the reader finds after the call has entered the table. -/
def firstAnswer? (call : Nat) (events : List Event) : Option Result :=
  (events.dropWhile fun event => !event.registers call).findSome? (Event.answer? call)

def completions (call : Nat) (events : List Event) : List Result :=
  events.filterMap (Event.completion? call)

def IsConnectionError (result : Result) : Prop :=
  result = .error .connectionLost ∨ result = .error .connectionClosed

lemma dropWhile_registers_ne_nil (h : .registered call ∈ events) :
    events.dropWhile (fun event => !event.registers call) ≠ [] := by
  intro hnil
  have hall := List.dropWhile_eq_nil_iff.1 hnil _ h
  simp [Event.registers] at hall

lemma dropWhile_registers_eq_nil (h : .registered call ∉ events) :
    events.dropWhile (fun event => !event.registers call) = [] := by
  refine List.dropWhile_eq_nil_iff.2 fun event hevent => ?_
  cases event with
  | registered other =>
    have hother : other ≠ call := fun heq => h (heq ▸ hevent)
    simp [Event.registers, hother]
  | _ => rfl

lemma registered_of_firstAnswer? {result : Result} (h : firstAnswer? call events = some result) :
    .registered call ∈ events := by
  by_contra hnot
  have hall : events.dropWhile (fun event => !event.registers call) = [] :=
    dropWhile_registers_eq_nil hnot
  rw [firstAnswer?, hall] at h
  exact absurd h (by simp)

lemma firstAnswer?_append_of_some {result : Result} (h : firstAnswer? call events = some result)
    (more : List Event) : firstAnswer? call (events ++ more) = some result := by
  unfold firstAnswer? at h ⊢
  rw [List.dropWhile_append]
  split_ifs with hempty
  · rw [List.isEmpty_iff.1 hempty] at h
    simp at h
  · rw [List.findSome?_append, h, Option.some_or]

lemma firstAnswer?_append_of_registered (h : .registered call ∈ events) (event : Event) :
    firstAnswer? call (events ++ [event]) = (firstAnswer? call events).or (event.answer? call) := by
  unfold firstAnswer?
  rw [List.dropWhile_append, if_neg (by simpa using dropWhile_registers_ne_nil h),
    List.findSome?_append]
  simp

lemma firstAnswer?_append_registered (h : .registered call ∉ events) :
    firstAnswer? call (events ++ [.registered call]) = none := by
  unfold firstAnswer?
  rw [List.dropWhile_append, dropWhile_registers_eq_nil h]
  simp [Event.registers, Event.answer?]

lemma completions_append (call : Nat) (events : List Event) (event : Event) :
    completions call (events ++ [event]) =
      completions call events ++ (event.completion? call).toList := by
  unfold completions
  rw [List.filterMap_append]
  cases h : event.completion? call <;> simp [h]

/-! ### Where answers are -/

/-- Every answer and every open call is accounted for. -/
structure Accounted (events : List Event) (link : Link) : Prop where
  registered : ∀ call, .registered call ∈ events ↔
    ∃ phase, phaseOf? link.calls call = some phase ∧ phase ≠ .numbered
  completions : ∀ call,
    completions call events = ((phaseOf? link.calls call).bind Phase.result?).toList
  outcome : ∀ call result, phaseOf? link.calls call = some (.done result) →
    IsConnectionError result ∨ firstAnswer? call events = some result
  table : ∀ call ∈ link.table, .registered call ∈ events ∧ firstAnswer? call events = none ∧
    deliveredTo? link.calls call = none
  held : ∀ call result, link.reader.held? = some (call, result) →
    firstAnswer? call events = some result ∧ call ∉ link.table
  delivered : ∀ call result, deliveredTo? link.calls call = some result →
    .registered call ∈ events ∧
      (result = .error .connectionLost ∨ firstAnswer? call events = some result)
  kept : ∀ call phase, phaseOf? link.calls call = some phase → phase.isOpen = true →
    call ∈ link.table ∨ (deliveredTo? link.calls call).isSome = true ∨
      ∃ result, link.reader.held? = some (call, result)

lemma Accounted.start : Accounted [] .start where
  registered := by simp [Link.start, phaseOf?]
  completions := by simp [Link.start, phaseOf?, Link.completions]
  outcome := by simp [Link.start, phaseOf?]
  table := by simp [Link.start]
  held := by simp [Link.start, Reader.held?]
  delivered := by simp [Link.start, deliveredTo?]
  kept := by simp [Link.start, phaseOf?]

/-- What the calls, the table and the reader's hand do not show does not matter. -/
lemma Accounted.congr (h : Accounted events link)
    (hphase : ∀ call, phaseOf? link'.calls call = phaseOf? link.calls call)
    (hdelivered : ∀ call, deliveredTo? link'.calls call = deliveredTo? link.calls call)
    (htable : link'.table = link.table) (hheld : link'.reader.held? = link.reader.held?) :
    Accounted events link' where
  registered := by simpa only [hphase] using h.registered
  completions := by simpa only [hphase] using h.completions
  outcome := by simpa only [hphase] using h.outcome
  table := by simpa only [hdelivered, htable] using h.table
  held := by simpa only [htable, hheld] using h.held
  delivered := by simpa only [hdelivered] using h.delivered
  kept := by simpa only [hphase, hdelivered, htable, hheld] using h.kept

lemma Accounted.outcome_append (h : Accounted events link) {result : Result}
    (hdone : phaseOf? link.calls call = some (.done result)) (event : Event) :
    IsConnectionError result ∨ firstAnswer? call (events ++ [event]) = some result := by
  obtain herror | hanswer := h.outcome call result hdone
  · exact .inl herror
  · exact .inr (firstAnswer?_append_of_some hanswer _)

lemma Accounted.table_append (h : Accounted events link) {event : Event}
    (hnone : event.answer? call = none) (hcall : call ∈ link.table) :
    .registered call ∈ events ++ [event] ∧ firstAnswer? call (events ++ [event]) = none ∧
      deliveredTo? link.calls call = none := by
  obtain ⟨hregistered, hanswer, hdelivered⟩ := h.table call hcall
  refine ⟨List.mem_append_left _ hregistered, ?_, hdelivered⟩
  rw [firstAnswer?_append_of_registered hregistered, hanswer, hnone]
  rfl

lemma Accounted.held_append (h : Accounted events link) {result : Result}
    (hheld : link.reader.held? = some (call, result)) (event : Event) :
    firstAnswer? call (events ++ [event]) = some result ∧ call ∉ link.table := by
  obtain ⟨hanswer, hnot⟩ := h.held call result hheld
  exact ⟨firstAnswer?_append_of_some hanswer _, hnot⟩

lemma Accounted.delivered_append (h : Accounted events link) {result : Result}
    (hdelivered : deliveredTo? link.calls call = some result) (event : Event) :
    .registered call ∈ events ++ [event] ∧
      (result = .error .connectionLost ∨ firstAnswer? call (events ++ [event]) = some result) := by
  obtain ⟨hregistered, hlost | hanswer⟩ := h.delivered call result hdelivered
  · exact ⟨List.mem_append_left _ hregistered, .inl hlost⟩
  · exact ⟨List.mem_append_left _ hregistered, .inr (firstAnswer?_append_of_some hanswer _)⟩

lemma Accounted.begin (h : Accounted events link) (request : Json) :
    Accounted events { link with calls := link.calls ++ [⟨request, .numbered, none⟩] } where
  registered := by
    intro call
    rw [h.registered, phaseOf?_append_numbered]
    split_ifs with hcall
    · simp [hcall, phaseOf?_length]
    · rfl
  completions := by
    intro call
    rw [h.completions, phaseOf?_append_numbered]
    split_ifs with hcall
    · simp [hcall, phaseOf?_length, Phase.result?]
    · rfl
  outcome := by
    intro call result hdone
    rw [phaseOf?_append_numbered] at hdone
    split_ifs at hdone
    · simp at hdone
    · exact h.outcome call result hdone
  table := by simpa only [deliveredTo?_append_numbered] using h.table
  held := h.held
  delivered := by simpa only [deliveredTo?_append_numbered] using h.delivered
  kept := by
    intro call phase hphase hopen
    rw [phaseOf?_append_numbered] at hphase
    rw [deliveredTo?_append_numbered]
    split_ifs at hphase
    · simp only [Option.some.injEq] at hphase
      simp [← hphase, Phase.isOpen] at hopen
    · exact h.kept call phase hphase hopen

lemma isOpen_iff {phase : Phase} :
    phase.isOpen = true ↔ phase ≠ .numbered ∧ phase.result? = none := by
  cases phase <;> simp [Phase.isOpen, Phase.result?]

lemma Accounted.advance (h : Accounted events link) {old new : Phase}
    (hold : phaseOf? link.calls call = some old) (hopen : old.isOpen = true)
    (hnew : new.isOpen = true) : Accounted events (link.advance call new) where
  registered := by
    intro other
    rw [h.registered, phaseOf?_advance]
    split_ifs with hcall
    · subst hcall
      simp [hold, (isOpen_iff.1 hopen).1, (isOpen_iff.1 hnew).1]
    · rfl
  completions := by
    intro other
    rw [h.completions, phaseOf?_advance]
    split_ifs with hcall
    · subst hcall
      simp [hold, (isOpen_iff.1 hopen).2, (isOpen_iff.1 hnew).2]
    · rfl
  outcome := by
    intro other result hdone
    rw [phaseOf?_advance] at hdone
    split_ifs at hdone with hcall
    · subst hcall
      simp only [hold, Option.map_some, Option.some.injEq] at hdone
      simp [hdone, Phase.isOpen] at hnew
    · exact h.outcome other result hdone
  table := by simpa only [deliveredTo?_advance, table_advance] using h.table
  held := h.held
  delivered := by simpa only [deliveredTo?_advance] using h.delivered
  kept := by
    intro other phase hphase hphaseOpen
    rw [phaseOf?_advance] at hphase
    rw [deliveredTo?_advance]
    split_ifs at hphase with hcall
    · subst hcall
      -- the call stays where it was kept in its old phase
      exact h.kept call old hold hopen
    · exact h.kept other phase hphase hphaseOpen

/-- An open call comes to a result, which is an error of the connection or was delivered to it. -/
lemma Accounted.complete (h : Accounted events link) {old : Phase} {result : Result}
    (hold : phaseOf? link.calls call = some old) (hopen : old.isOpen = true)
    (hresult : IsConnectionError result ∨ deliveredTo? link.calls call = some result) :
    Accounted (events ++ [.completed call result]) (link.advance call (.done result)) where
  registered := by
    intro other
    have hmem : .registered other ∈ events ++ [.completed call result] ↔
        .registered other ∈ events := by simp
    rw [hmem, h.registered, phaseOf?_advance]
    split_ifs with hcall
    · subst hcall
      simp [hold, (isOpen_iff.1 hopen).1]
    · rfl
  completions := by
    intro other
    rw [completions_append, h.completions, phaseOf?_advance]
    split_ifs with hcall
    · subst hcall
      have hdone : (Phase.done result).result? = some result := rfl
      simp [hold, (isOpen_iff.1 hopen).2, hdone, Event.completion?]
    · simp [Event.completion?, hcall]
  outcome := by
    intro other found hdone
    rw [phaseOf?_advance] at hdone
    split_ifs at hdone with hcall
    · subst hcall
      simp only [hold, Option.map_some, Option.some.injEq, Phase.done.injEq] at hdone
      subst hdone
      obtain herror | hdelivered := hresult
      · exact .inl herror
      · obtain hlost | hanswer := (h.delivered call result hdelivered).2
        · exact .inl (.inl hlost)
        · exact .inr (firstAnswer?_append_of_some hanswer _)
    · exact h.outcome_append hdone _
  table := by
    intro other hother
    rw [deliveredTo?_advance]
    exact h.table_append rfl hother
  held := fun other found hheld => h.held_append hheld _
  delivered := by
    intro other found hdelivered
    rw [deliveredTo?_advance] at hdelivered
    exact h.delivered_append hdelivered _
  kept := by
    intro other phase hphase hphaseOpen
    rw [phaseOf?_advance] at hphase
    rw [deliveredTo?_advance]
    split_ifs at hphase with hcall
    · subst hcall
      simp only [hold, Option.map_some, Option.some.injEq] at hphase
      simp [← hphase, Phase.isOpen] at hphaseOpen
    · exact h.kept other phase hphase hphaseOpen

lemma Accounted.leave (h : Accounted events link) {phase : Phase}
    (hphase : phaseOf? link.calls call = some phase) (hopen : phase.isOpen = false) :
    Accounted events { link with table := link.table.filter fun other => other ≠ call } where
  registered := h.registered
  completions := h.completions
  outcome := h.outcome
  table := fun other hother => h.table other (List.mem_filter.1 hother).1
  held := fun other found hheld => (h.held other found hheld).imp_right fun hnot hother =>
    hnot (List.mem_filter.1 hother).1
  delivered := h.delivered
  kept := by
    intro other found hfound hfoundOpen
    have hne : other ≠ call := by
      intro heq
      rw [heq, hphase, Option.some.injEq] at hfound
      rw [← hfound, hopen] at hfoundOpen
      exact absurd hfoundOpen (by decide)
    exact (h.kept other found hfound hfoundOpen).imp_left fun hother =>
      List.mem_filter.2 ⟨hother, by simpa using hne⟩

/-- A call enters the table, where nothing can have answered it yet. -/
lemma Accounted.register (h : Accounted events link)
    (hphase : phaseOf? link.calls call = some .numbered) :
    Accounted (events ++ [.registered call])
      { link.advance call .registered with table := link.table ++ [call] } := by
  have hnot : .registered call ∉ events := by
    rw [h.registered]
    rintro ⟨phase, hfound, hne⟩
    rw [hphase, Option.some.injEq] at hfound
    exact hne hfound.symm
  -- nothing is delivered to a call, and no answer counts for it, before it enters the table
  have hundelivered : deliveredTo? link.calls call = none := by
    cases hdelivered : deliveredTo? link.calls call with
    | none => rfl
    | some result => exact absurd (h.delivered call result hdelivered).1 hnot
  exact {
    registered := by
      intro other
      rw [List.mem_append, List.mem_singleton, h.registered, phaseOf?_advance]
      split_ifs with hcall
      · subst hcall
        simp [hphase]
      · simp [Ne.symm hcall]
    completions := by
      intro other
      rw [completions_append, h.completions, phaseOf?_advance]
      split_ifs with hcall
      · subst hcall
        simp [hphase, Event.completion?, Phase.result?]
      · simp [Event.completion?]
    outcome := by
      intro other found hdone
      rw [phaseOf?_advance] at hdone
      split_ifs at hdone
      · simp [Option.map_eq_some_iff] at hdone
      · exact h.outcome_append hdone _
    table := by
      intro other hother
      rw [deliveredTo?_advance]
      obtain htable | hsingle := List.mem_append.1 hother
      · exact h.table_append rfl htable
      · obtain rfl := List.mem_singleton.1 hsingle
        exact ⟨by simp, firstAnswer?_append_registered hnot, hundelivered⟩
    held := by
      intro other found hheld
      obtain ⟨hanswer, hother⟩ := h.held other found hheld
      refine ⟨firstAnswer?_append_of_some hanswer _, fun hmem => ?_⟩
      obtain htable | hsingle := List.mem_append.1 hmem
      · exact hother htable
      · obtain rfl := List.mem_singleton.1 hsingle
        exact hnot (registered_of_firstAnswer? hanswer)
    delivered := by
      intro other found hdelivered
      rw [deliveredTo?_advance] at hdelivered
      exact h.delivered_append hdelivered _
    kept := by
      intro other phase hfound hopen
      rw [phaseOf?_advance] at hfound
      rw [deliveredTo?_advance]
      split_ifs at hfound with hcall
      · exact .inl (by simp [hcall])
      · exact (h.kept other phase hfound hopen).imp_left fun htable =>
          List.mem_append_left _ htable }

lemma Event.answer?_of_ne {message : Json} (h : answered? message ≠ some (numberOf call : Int)) :
    Event.answer? call (.dispatched message) = none :=
  if_neg h

lemma Accounted.passOver (h : Accounted events link) {message : Json}
    (hnone : ∀ call ∈ link.table, answered? message ≠ some (numberOf call : Int)) :
    Accounted (events ++ [.dispatched message]) link where
  registered := by simpa using h.registered
  completions := by simpa [completions_append, Event.completion?] using h.completions
  outcome := fun other found hdone => h.outcome_append hdone _
  table := fun other hother => h.table_append (Event.answer?_of_ne (hnone other hother)) hother
  held := fun other found hheld => h.held_append hheld _
  delivered := fun other found hdelivered => h.delivered_append hdelivered _
  kept := h.kept

/-- A message with the number of a call in the table is its first answer, and goes to the reader's
hand. -/
lemma Accounted.takeOut (h : Accounted events link) (hreading : link.reader = .reading)
    {message : Json} (hcall : call ∈ link.table)
    (hanswered : answered? message = some (numberOf call : Int)) :
    Accounted (events ++ [.dispatched message])
      { link with
        table := link.table.filter fun other => other ≠ call
        reader := .delivering call (resultOf message) } := by
  have hfree : link.reader.held? = none := by rw [hreading]; rfl
  -- no two calls have the same number, so the other calls in the table stay without an answer
  have hothers : ∀ other, other ≠ call → answered? message ≠ some (numberOf other : Int) := by
    intro other hne heq
    rw [hanswered, Option.some.injEq] at heq
    unfold numberOf at heq
    omega
  exact {
    registered := by simpa using h.registered
    completions := by simpa [completions_append, Event.completion?] using h.completions
    outcome := fun other found hdone => h.outcome_append hdone _
    table := by
      intro other hother
      obtain ⟨htable, hne⟩ := List.mem_filter.1 hother
      have hother : answered? message ≠ some (numberOf other : Int) :=
        hothers other (of_decide_eq_true hne)
      exact h.table_append (Event.answer?_of_ne hother) htable
    held := by
      intro other found hheld
      simp only [Reader.held?, Option.some.injEq, Prod.mk.injEq] at hheld
      obtain ⟨rfl, rfl⟩ := hheld
      obtain ⟨hregistered, hanswer, -⟩ := h.table call hcall
      have hfirst : Event.answer? call (.dispatched message) = some (resultOf message) :=
        if_pos hanswered
      refine ⟨?_, by simp⟩
      rw [firstAnswer?_append_of_registered hregistered, hanswer, hfirst]
      rfl
    delivered := fun other found hdelivered => h.delivered_append hdelivered _
    kept := by
      intro other phase hphase hopen
      by_cases hother : other = call
      · exact .inr (.inr ⟨resultOf message, by rw [hother]; rfl⟩)
      · obtain htable | hdelivered | ⟨found, hfound⟩ := h.kept other phase hphase hopen
        · exact .inl (List.mem_filter.2 ⟨htable, by simpa using hother⟩)
        · exact .inr (.inl hdelivered)
        · rw [hfree] at hfound
          exact absurd hfound (by simp) }

lemma Accounted.dispatch (h : Accounted events link) (hreading : link.reader = .reading)
    (message : Json) : Accounted (events ++ [.dispatched message]) (link.dispatch message) := by
  obtain ⟨call, hcall, hanswered, heq⟩ | ⟨hnone, heq⟩ := dispatch_cases link message
  · rw [heq]
    exact h.takeOut hreading hcall hanswered
  · rw [heq]
    exact h.passOver hnone

lemma Accounted.deliver (h : Accounted events link) {result : Result}
    (hheld : link.reader = .delivering call result) :
    Accounted events { link.deliver call result with reader := .reading } := by
  have hhand : link.reader.held? = some (call, result) := by rw [hheld]; rfl
  obtain ⟨hanswer, hnot⟩ := h.held call result hhand
  exact {
    registered := by simpa only [phaseOf?_deliver] using h.registered
    completions := by simpa only [phaseOf?_deliver] using h.completions
    outcome := by simpa only [phaseOf?_deliver] using h.outcome
    table := by
      intro other hother
      have hne : call ≠ other := fun heq => hnot (heq ▸ hother)
      rw [deliveredTo?_deliver, if_neg hne]
      exact h.table other hother
    held := by simp [Reader.held?]
    delivered := by
      intro other found hfound
      rw [deliveredTo?_deliver] at hfound
      split_ifs at hfound with hcall
      · subst hcall
        obtain ⟨-, -, rfl⟩ := Option.map_eq_some_iff.1 hfound
        exact ⟨registered_of_firstAnswer? hanswer, .inr hanswer⟩
      · exact h.delivered other found hfound
    kept := by
      intro other phase hphase hopen
      rw [phaseOf?_deliver] at hphase
      rw [deliveredTo?_deliver]
      split_ifs with hcall
      · exact .inr (.inl (by simp [hphase]))
      · obtain htable | hdelivered | ⟨found, hfound⟩ := h.kept other phase hphase hopen
        · exact .inl htable
        · exact .inr (.inl hdelivered)
        · rw [hhand, Option.some.injEq, Prod.mk.injEq] at hfound
          exact absurd hfound.1 hcall }

lemma Accounted.clearTable (h : Accounted events link) : Accounted events link.clearTable where
  registered := by simpa only [phaseOf?_clearTable] using h.registered
  completions := by simpa only [phaseOf?_clearTable] using h.completions
  outcome := by simpa only [phaseOf?_clearTable] using h.outcome
  table := by simp
  held := by
    intro other found hfound
    rw [reader_clearTable] at hfound
    exact (h.held other found hfound).imp_right fun _ => List.not_mem_nil
  delivered := by
    intro other found hfound
    rw [deliveredTo?_clearTable] at hfound
    split_ifs at hfound with hother
    · obtain ⟨-, -, rfl⟩ := Option.map_eq_some_iff.1 hfound
      exact ⟨(h.table other hother).1, .inl rfl⟩
    · exact h.delivered other found hfound
  kept := by
    intro other phase hphase hopen
    rw [phaseOf?_clearTable] at hphase
    rw [deliveredTo?_clearTable, reader_clearTable]
    split_ifs with hother
    · exact .inr (.inl (by simp [hphase]))
    · exact .inr ((h.kept other phase hphase hopen).resolve_left hother)

lemma Accounted.changes (h : Accounted events link) {event : Option Event}
    (hchanges : Changes link event link') : Accounted (events ++ event.toList) link' := by
  cases hchanges with
  | register call hphase => exact h.register hphase
  | withdraw call hphase =>
    have hdone := h.complete hphase rfl (.inl (.inl rfl))
    have hafter : phaseOf? (link.advance call (.done (.error .connectionLost))).calls call =
        some (.done (.error .connectionLost)) := by simp [hphase]
    exact hdone.leave hafter rfl
  | drop call hphase => exact h.complete hphase rfl (.inl (.inr rfl))
  | finish call result hphase hdelivered => exact h.complete hphase rfl (.inr hdelivered)
  | dispatch message rest hreading =>
    have hread : Accounted events { link with incoming := rest } :=
      h.congr (fun _ => rfl) (fun _ => rfl) rfl rfl
    exact hread.dispatch hreading message
  | begin request =>
    rw [Option.toList_none, List.append_nil]
    exact h.begin request
  | look call hphase =>
    rw [Option.toList_none, List.append_nil]
    exact h.advance hphase rfl (by split <;> rfl)
  | enqueue call request hphase =>
    rw [Option.toList_none, List.append_nil]
    have hwaiting : Accounted events (link.advance call .waiting) := h.advance hphase rfl rfl
    exact hwaiting.congr (fun _ => rfl) (fun _ => rfl) rfl rfl
  | deliver call result hheld =>
    rw [Option.toList_none, List.append_nil]
    exact h.deliver hheld
  | markByWriter hfailed =>
    rw [Option.toList_none, List.append_nil]
    exact h.congr (fun _ => rfl) (fun _ => rfl) rfl rfl
  | markByReader hending =>
    rw [Option.toList_none, List.append_nil]
    exact h.congr (fun _ => rfl) (fun _ => rfl) rfl (by rw [hending]; rfl)
  | clearByWriter hclearing =>
    rw [Option.toList_none, List.append_nil]
    exact h.clearTable.congr (fun _ => rfl) (fun _ => rfl) rfl rfl
  | clearByReader hclearing =>
    rw [Option.toList_none, List.append_nil]
    exact h.clearTable.congr (fun _ => rfl) (fun _ => rfl) rfl
      (by rw [reader_clearTable, hclearing]; rfl)
  | aside link' hcalls htable hisUp hheld hmarked haborted =>
    rw [Option.toList_none, List.append_nil]
    exact h.congr (by simp [hcalls]) (by simp [hcalls]) htable hheld

end ScriptAssist.Link
