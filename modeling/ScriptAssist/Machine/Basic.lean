import ScriptAssist.Analysis.Query
import ScriptAssist.Files.Tree
import ScriptAssist.Machine.Command
import ScriptAssist.Script.Project

/-!
# Machines

What the library sees of the machine it runs on: its files, its processes, the programs that can
be started, and a record of everything that was asked of others. Programs are functions of that
record, so they may answer differently each time.
-/

namespace ScriptAssist

/-- How a program ended: its status, and what it printed. -/
structure Outcome where
  status : Nat
  output : Bytes
  complaint : Bytes
  deriving DecidableEq, Repr

/-- Something that was asked of the engine, of the toolchain or of the machine. -/
inductive Event where
  /-- The engine was asked. -/
  | query (query : Query)
  /-- The toolchain was asked for the project of a script, whose text was then the given one. -/
  | project (script : Path) (content : Option Text)
  /-- The toolchain was asked for its help file. -/
  | help
  /-- A toolchain was to be loaded. -/
  | load (location : Path)
  /-- A program was run to its end. -/
  | run (command : Command)
  /-- A program was started and left alone. -/
  | start (command : Command)
  /-- A process was to be killed. -/
  | kill (pid : UInt32)
  deriving DecidableEq, Repr

/-- The machine. -/
structure Machine where
  files : Files
  /-- The folder for temporary files. -/
  tempDir : Path
  /-- The folder of the running program, if it is known. -/
  programDir : Option Path
  /-- The engine that a variable of the environment names. -/
  engineVariable : Option Text
  /-- The folders in which programs are looked for. -/
  searchPath : List Path
  /-- The running processes. -/
  processes : List UInt32
  /-- What running a program comes to, given what happened before. -/
  programs : List Event → Command → Outcome
  /-- What happened so far. -/
  events : List Event

namespace Machine

/-- The machine after one more event. -/
def log (machine : Machine) (event : Event) : Machine :=
  { machine with events := machine.events ++ [event] }

/-- Whether a file is there and may be run. -/
def checkProgram (files : Files) (path : Path) : Except SystemError Unit := do
  let place ← files.locate path
  match files.entryAt? place with
  | some (.file _ true) => .ok ()
  | _ => .error .permissionDenied

/-- Looks for a program in folders. That it is not there, or may not be run, is no reason to stop;
any other refusal is. -/
def search (files : Files) (program : Path) : List Path → Except SystemError Unit
  | [] => .error .notFound
  | folder :: folders =>
    match checkProgram files (folder.join program) with
    | .error .permissionDenied =>
      match search files program folders with
      | .error .notFound => .error .permissionDenied
      | outcome => outcome
    | .error .notFound | .error .notADirectory => search files program folders
    | outcome => outcome

/-- Whether there is a program to start. One without a slash is looked for on the search path. -/
def find (machine : Machine) (program : Path) : Except SystemError Unit :=
  if program.text.contains '/' then checkProgram machine.files program
  else if program.text.isEmpty then .error .notFound
  else search machine.files program machine.searchPath

/-- The most bytes that a program takes as one argument. -/
def maxArgumentSize : Nat := 131071

/-- Whether a command can be started. Its arguments are only looked at once its program is found. -/
def check (machine : Machine) (command : Command) : Except SystemError Unit := do
  let texts := command.program.text :: command.arguments
  if texts.any fun text => text.contains '\x00' then .error .nulInArgument
  else
    machine.find command.program
    if command.arguments.any fun text => maxArgumentSize < Utf8.byteSize text then
      .error .argumentsTooLong
    else .ok ()

/-- Runs a program to its end. -/
def run (machine : Machine) (command : Command) : Except SystemError Outcome × Machine :=
  match machine.check command with
  | .error cause => (.error cause, machine)
  | .ok () => (.ok (machine.programs machine.events command), machine.log (.run command))

/-- Starts a program and leaves it alone. -/
def start (machine : Machine) (command : Command) : Except SystemError Machine := do
  machine.check command
  .ok (machine.log (.start command))

/-- Whether a process is running. -/
def isRunning (machine : Machine) (pid : UInt32) : Bool :=
  machine.processes.contains pid

/-- Kills a process, if it is running. -/
def kill (machine : Machine) (pid : UInt32) : Machine :=
  let left := machine.processes.filter fun running => running ≠ pid
  { machine with processes := left }.log (.kill pid)

/-- Writes a file. -/
def write (machine : Machine) (path : Path) (content : Bytes) : Except SystemError Machine :=
  (machine.files.write path content).map fun files => { machine with files := files }

/-- Removes a file, if it is there. -/
def remove (machine : Machine) (path : Path) : Machine :=
  match machine.files.remove path with
  | .ok files => { machine with files := files }
  | .error _ => machine

/-- The name of the temporary file with this number. -/
def temporaryName (number : Nat) (extension : Text) : Text :=
  "syntaxer-".toList ++ Text.ofNat number ++ extension

/-- The least number, from the given one on, for which no temporary file is there; so many are
tried. -/
def freeNumber (machine : Machine) (extension : Text) (number : Nat) : Nat → Nat
  | 0 => number
  | tries + 1 =>
    let path := machine.tempDir.child (temporaryName number extension)
    if (machine.files.lookup? path).isSome then
      machine.freeNumber extension (number + 1) tries
    else number

/-- A path for a temporary file, at which nothing is yet. -/
def freePath (machine : Machine) (extension : Text) : Path :=
  let number := machine.freeNumber extension 0 machine.files.entries.length
  machine.tempDir.child (temporaryName number extension)

end Machine

/-- A step of work on a state: it may fail, and what it has done to the state stays done. -/
abbrev Action (σ α : Type) := ExceptT Failure (StateM σ) α

namespace Action

variable {σ α : Type}

/-- What an action comes to, and the state behind it. -/
def result (action : Action σ α) (state : σ) : Except Failure α × σ :=
  StateT.run (ExceptT.run action) state

/-- The value, or the failure. -/
def ofExcept (value : Except Failure α) : Action σ α :=
  ExceptT.mk (pure value)

/-- Does `action`, then `cleanup` whatever became of it. -/
def finallyDo (action : Action σ α) (cleanup : σ → σ) : Action σ α :=
  ExceptT.mk do
    let outcome ← ExceptT.run action
    modify cleanup
    pure outcome

section

variable {β : Type} {action : Action σ α} {state state' : σ}

@[simp] theorem result_pure (a : α) (state : σ) :
    (pure a : Action σ α).result state = (.ok a, state) := rfl

@[simp] theorem result_ofExcept (value : Except Failure α) (state : σ) :
    (ofExcept value : Action σ α).result state = (value, state) := rfl

@[simp] theorem result_get (state : σ) : (get : Action σ σ).result state = (.ok state, state) := rfl

@[simp] theorem result_set (state state' : σ) :
    (set state' : Action σ PUnit).result state = (.ok ⟨⟩, state') := rfl

theorem result_bind_of_ok {a : α} (h : action.result state = (.ok a, state'))
    (next : α → Action σ β) : (action >>= next).result state = (next a).result state' := by
  have hbind : (action >>= next).result state =
      match action.result state with
      | (.ok a, state) => (next a).result state
      | (.error failure, state) => (.error failure, state) := by
    simp only [result, bind, ExceptT.bind, ExceptT.run, ExceptT.mk, StateT.bind, StateT.run]
    cases action state with
    | mk outcome state => cases outcome <;> rfl
  rw [hbind, h]

end

end Action

end ScriptAssist
