import Mathlib.Data.List.Induction
import Mathlib.Tactic.Lemma
import Mathlib.Tactic.SplitIfs
import ScriptAssist.Proofs.CaretLines

/-!
# Loads of the toolchain

However a session's toolchain is bound and asked for, and whichever loads fail: what is loaded is
what the last load gave for the location that is bound now, and there is at most one load more than
there were changes of the location.
-/

namespace ScriptAssist.Session

/-! ### Runs -/

/-- A call that binds the toolchain or asks for it, with a loader that may be another one each time;
or a change of the machine beside that. -/
inductive Call where
  | rebind (text : Text)
  | get (assistant : Assistant)
  | beside (machine : Machine)

def afterCall (session : Session) : Call → Session
  | .rebind text => (session.rebind text).2
  | .get assistant => ((Session.toolchain assistant).result session).2
  | .beside machine => session.withMachine { machine with events := session.machine.events }

def afterCalls (session : Session) (calls : List Call) : Session :=
  calls.foldl afterCall session

/-- The location a toolchain is or would be loaded from. -/
def source (session : Session) : Path :=
  session.binding.source session.machine.defaultToolchain

/-- The load that a call comes to, with its outcome. -/
def attempt? (session : Session) : Call → Option (Path × Except Failure Toolchain)
  | .get assistant =>
    if session.binding.isLoaded then none
    else some (session.source, assistant.load session.machine session.source)
  | _ => none

/-- Whether a call changes the location that is bound. -/
def changesLocation (session : Session) : Call → Bool
  | .rebind text => (session.rebind text).1
  | _ => false

def attempts : Session → List Call → List (Path × Except Failure Toolchain)
  | _, [] => []
  | session, call :: calls =>
    (session.attempt? call).toList ++ attempts (session.afterCall call) calls

/-- How many attempts to load a toolchain have succeeded. -/
def countLoads (attempts : List (Path × Except Failure Toolchain)) : Nat :=
  attempts.countP fun attempt => attempt.2.toOption.isSome

def countChanges : Session → List Call → Nat
  | _, [] => 0
  | session, call :: calls =>
    (session.changesLocation call).toNat + countChanges (session.afterCall call) calls

/-! ### One call -/

/-- Binding tells of a change exactly if the location differs, as a path, from the one that is
bound, and drops what is loaded exactly then. It loads nothing. -/
def RebindsLazily (session : Session) : Prop :=
  ∀ text,
    let location := session.machine.resolveLocation text
    let rebound := session.rebind text
    (rebound.1 = true ↔
      ∀ bound, session.binding.location = some bound → bound.sameAs location = false) ∧
    rebound.2 = if rebound.1 then ⟨session.machine, ⟨some location, none⟩⟩ else session

/-- Asking for the toolchain loads one exactly if none is loaded. If that fails the binding is as it
was, and else the toolchain is bound to where it comes from. -/
def LoadsOnDemand (session : Session) : Prop :=
  ∀ assistant,
    let found := (Session.toolchain assistant).result session
    found.2.machine.events = session.machine.events ++
      (if session.binding.isLoaded then [] else [.load session.source]) ∧
    (∀ old, session.binding.loaded = some old → found = (.ok old.toolchain, session)) ∧
    (session.binding.loaded = none → ∀ toolchain,
      found.1 = .ok toolchain ↔
        assistant.load session.machine session.source = .ok toolchain) ∧
    (∀ failure, found.1 = .error failure → found.2.binding = session.binding) ∧
    ∀ toolchain, found.1 = .ok toolchain →
      ∃ loaded, loaded.toolchain = toolchain ∧
        found.2.binding = ⟨some session.source, some loaded⟩

variable {session : Session}

lemma rebind_eq (session : Session) (text : Text) :
    session.rebind text =
      if session.binding.location.any fun bound =>
          bound.sameAs (session.machine.resolveLocation text) then (false, session)
      else (true, ⟨session.machine, ⟨some (session.machine.resolveLocation text), none⟩⟩) := by
  rw [Session.rebind, Binding.rebind]
  split_ifs
  · rfl
  · rfl

lemma rebindsLazily (session : Session) : session.RebindsLazily := by
  intro text location rebound
  have hrebound : rebound = _ := rebind_eq session text
  by_cases hsame : (session.binding.location.any fun bound => bound.sameAs location) = true
  · rw [if_pos hsame] at hrebound
    obtain ⟨bound, hbound, heq⟩ := (Option.any_eq_true _ _).1 hsame
    rw [hrebound]
    refine ⟨⟨fun h => absurd h (by simp), fun h => ?_⟩, rfl⟩
    rw [h bound hbound] at heq
    exact absurd heq (by decide)
  · rw [if_neg hsame] at hrebound
    rw [hrebound]
    refine ⟨⟨fun _ bound hbound => ?_, fun _ => rfl⟩, rfl⟩
    simpa [hbound] using hsame

/-- What is loaded came from the location that is bound. -/
def IsSettled (session : Session) : Prop :=
  ∀ found, session.binding.loaded = some found → session.binding.location = some session.source

lemma result_toolchain_of_notLoaded (h : session.binding.loaded = none) (assistant : Assistant) :
    (Session.toolchain assistant).result session =
      match assistant.load session.machine session.source with
      | .ok toolchain =>
        (.ok toolchain, ⟨session.machine.log (.load session.source),
          .keep session.source toolchain⟩)
      | .error _ =>
        (.error (.toolchainUnavailable session.source),
          ⟨session.machine.log (.load session.source), session.binding⟩) := by
  rw [result_toolchain, source]
  simp only [Binding.get, Binding.isLoaded, h]
  cases assistant.load session.machine (session.binding.source session.machine.defaultToolchain)
  · rfl
  · rfl

lemma IsSettled.loadsOnDemand (h : session.IsSettled) : session.LoadsOnDemand := by
  intro assistant found
  cases hloaded : session.binding.loaded with
  | some old =>
    have hfound : found = (.ok old.toolchain, session) := result_toolchain_of_loaded hloaded
    rw [hfound, if_pos (by simp [Binding.isLoaded, hloaded]), List.append_nil]
    refine ⟨rfl, fun other hother => ?_, fun hnone => absurd hnone (by simp),
      fun failure hfailure => absurd hfailure (by simp), fun toolchain htoolchain => ?_⟩
    · rw [Option.some.inj hother]
    · exact ⟨old, Except.ok.inj htoolchain, by rw [← h old hloaded, ← hloaded]⟩
  | none =>
    have hfound : found = _ := result_toolchain_of_notLoaded hloaded assistant
    rw [if_neg (by simp [Binding.isLoaded, hloaded])]
    cases hload : assistant.load session.machine session.source with
    | error failure =>
      rw [hload] at hfound
      rw [hfound]
      exact ⟨rfl, fun old hold => absurd hold (by simp), fun _ toolchain => by simp,
        fun _ _ => rfl, fun toolchain htoolchain => absurd htoolchain (by simp)⟩
    | ok fresh =>
      rw [hload] at hfound
      rw [hfound]
      exact ⟨rfl, fun old hold => absurd hold (by simp), fun _ toolchain => Iff.rfl,
        fun failure hfailure => absurd hfailure (by simp), fun toolchain htoolchain =>
        ⟨⟨fresh, none⟩, Except.ok.inj htoolchain, rfl⟩⟩

/-! ### Whole runs -/

lemma afterCalls_append (session : Session) (calls : List Call) (call : Call) :
    session.afterCalls (calls ++ [call]) = (session.afterCalls calls).afterCall call := by
  rw [afterCalls, List.foldl_append]
  rfl

lemma attempts_append (session : Session) (calls : List Call) (call : Call) :
    session.attempts (calls ++ [call]) =
      session.attempts calls ++ ((session.afterCalls calls).attempt? call).toList := by
  induction calls generalizing session with
  | nil => simp [attempts, afterCalls]
  | cons first calls ih =>
    rw [List.cons_append, attempts, ih, attempts, List.append_assoc]
    rfl

lemma countChanges_append (session : Session) (calls : List Call) (call : Call) :
    session.countChanges (calls ++ [call]) =
      session.countChanges calls + ((session.afterCalls calls).changesLocation call).toNat := by
  induction calls generalizing session with
  | nil => simp [countChanges, afterCalls]
  | cons first calls ih =>
    rw [List.cons_append, countChanges, ih, countChanges, Nat.add_assoc]
    rfl

/-- What the attempts to load a toolchain and the number of changes of its location say about a
session: the last attempt gave what is loaded, the record holds all attempts, and a load that is no
longer there has been dropped by a change. -/
structure Traced (record : List Event) (attempts : List (Path × Except Failure Toolchain))
    (changes : Nat) (session : Session) : Prop where
  last : ∀ found, session.binding.loaded = some found → ∃ location,
    session.binding.location = some location ∧
      attempts.getLast? = some (location, .ok found.toolchain)
  events : session.machine.events = record ++ attempts.map fun attempt => .load attempt.1
  count : countLoads attempts ≤ changes + session.binding.isLoaded.toNat

section Traced

variable {record : List Event} {attempts : List (Path × Except Failure Toolchain)} {changes : Nat}

lemma Traced.start (machine : Machine) :
    Traced machine.events [] 0 ⟨machine, .unbound⟩ where
  last := by simp [Binding.unbound]
  events := (List.append_nil _).symm
  count := Nat.zero_le _

lemma Traced.isSettled (h : Traced record attempts changes session) : session.IsSettled := by
  intro found hfound
  obtain ⟨location, hlocation, -⟩ := h.last found hfound
  rw [hlocation, source, Binding.source, hlocation]
  rfl

lemma Traced.rebind (h : Traced record attempts changes session) (text : Text) :
    Traced record attempts (changes + (session.rebind text).1.toNat) (session.rebind text).2 := by
  obtain ⟨-, hrebound⟩ := session.rebindsLazily text
  rw [hrebound]
  cases (session.rebind text).1 with
  | false => exact h
  | true =>
    refine ⟨fun found hfound => absurd hfound (by simp), h.events, Nat.le_trans h.count ?_⟩
    have hone := Bool.toNat_le session.binding.isLoaded
    change changes + session.binding.isLoaded.toNat ≤ changes + 1 + 0
    omega

lemma Traced.get (h : Traced record attempts changes session) (assistant : Assistant) :
    Traced record (attempts ++ (session.attempt? (.get assistant)).toList) changes
      ((Session.toolchain assistant).result session).2 := by
  cases hloaded : session.binding.loaded with
  | some found =>
    have hnone : session.attempt? (.get assistant) = none := by
      simp [attempt?, Binding.isLoaded, hloaded]
    rw [hnone, result_toolchain_of_loaded hloaded, Option.toList_none, List.append_nil]
    exact h
  | none =>
    have hattempt : session.attempt? (.get assistant) =
        some (session.source, assistant.load session.machine session.source) := by
      simp [attempt?, Binding.isLoaded, hloaded]
    have hcount : countLoads attempts ≤ changes := by
      simpa [Binding.isLoaded, hloaded] using h.count
    rw [hattempt, result_toolchain_of_notLoaded hloaded]
    cases assistant.load session.machine session.source with
    | error failure =>
      refine ⟨fun found hfound => ?_, ?_, ?_⟩
      · rw [hloaded] at hfound
        exact absurd hfound (by simp)
      · simp [Machine.log, h.events]
      · simpa [countLoads, Except.toOption, Binding.isLoaded, hloaded] using hcount
    | ok toolchain =>
      refine ⟨fun found hfound => ?_, ?_, ?_⟩
      · obtain rfl := Option.some.inj hfound
        exact ⟨session.source, rfl, by simp⟩
      · simp [Machine.log, h.events]
      · simpa [countLoads, Except.toOption, Binding.isLoaded, Binding.keep] using hcount

lemma Traced.afterCall (h : Traced record attempts changes session) (call : Call) :
    Traced record (attempts ++ (session.attempt? call).toList)
      (changes + (session.changesLocation call).toNat) (session.afterCall call) := by
  cases call with
  | rebind text =>
    have hrebound := h.rebind text
    rwa [← List.append_nil attempts] at hrebound
  | get assistant => exact h.get assistant
  | beside machine =>
    rw [show session.attempt? (.beside machine) = none from rfl, Option.toList_none,
      List.append_nil]
    exact ⟨h.last, h.events, h.count⟩

end Traced

lemma traced_afterCalls (machine : Machine) (calls : List Call) :
    let origin : Session := ⟨machine, .unbound⟩
    Traced machine.events (origin.attempts calls) (origin.countChanges calls)
      (origin.afterCalls calls) := by
  intro origin
  induction calls using List.reverseRecOn with
  | nil => exact .start machine
  | append_singleton calls call ih =>
    rw [attempts_append, countChanges_append, afterCalls_append]
    exact ih.afterCall call

/-- In every run from an unbound toolchain, what is loaded is what the last attempt to load gave,
for the location that is bound; binding is lazy and loading is on demand; the record has all
attempts; and at most one more of them succeeded than there were changes of the location. -/
theorem loaded_from_bound_location (machine : Machine) (calls : List Call) :
    let origin : Session := ⟨machine, .unbound⟩
    let session := origin.afterCalls calls
    let attempts := origin.attempts calls
    (∀ found, session.binding.loaded = some found → ∃ location,
      session.binding.location = some location ∧
        attempts.getLast? = some (location, .ok found.toolchain)) ∧
    session.RebindsLazily ∧ session.LoadsOnDemand ∧
    session.machine.events = machine.events ++ attempts.map (fun attempt => .load attempt.1) ∧
    countLoads attempts ≤ 1 + origin.countChanges calls := by
  intro origin session attempts
  have htraced : Traced machine.events attempts (origin.countChanges calls) session :=
    traced_afterCalls machine calls
  refine ⟨htraced.last, session.rebindsLazily, htraced.isSettled.loadsOnDemand, htraced.events,
    Nat.le_trans htraced.count ?_⟩
  have hone := Bool.toNat_le session.binding.isLoaded
  omega

end ScriptAssist.Session
