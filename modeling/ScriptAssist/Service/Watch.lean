/-!
# Watching clients

A server stays as long as one of its clients is running. Clients are registered at any time; at
every tick the registrations are taken in, clients that are not running are forgotten, and once
none is left there are no more ticks. Then the end of the watch is announced, and after that
registrations are no longer taken.
-/

namespace ScriptAssist

/-- The clients that are watched, and the registrations since the last tick in the order they
came. -/
structure Watch where
  watched : List UInt32
  registered : List UInt32
  deriving DecidableEq, Repr

namespace Watch

/-- The watch at the start, on the client that is known from the beginning. -/
def start (client : Option UInt32) : Watch :=
  ⟨client.toList, []⟩

/-- One more registration. -/
def register (watch : Watch) (pid : UInt32) : Watch :=
  { watch with registered := watch.registered ++ [pid] }

/-- The client among the others, once. -/
def enter (watched : List UInt32) (pid : UInt32) : List UInt32 :=
  if watched.contains pid then watched else watched ++ [pid]

/-- A tick: takes in the registrations and forgets whom `isRunning` does not hold of. Tells whether
anyone is left. -/
def tick (watch : Watch) (isRunning : UInt32 → Bool) : Bool × Watch :=
  let left := (watch.registered.foldl enter watch.watched).filter isRunning
  (!left.isEmpty, ⟨left, []⟩)

end Watch

/-- What can happen while clients are watched. A tick looks at those who were registered before it;
a registration that comes while it is looking is one that comes after it, and a process that ends
while it is looking has ended before it or ends after it, according to what it has seen. -/
inductive Happening where
  | register (pid : UInt32)
  | exits (pid : UInt32)
  | starts (pid : UInt32)
  | tick
  /-- The end of the watch is announced. -/
  | announce
  /-- Registrations are taken no longer. -/
  | close
  deriving DecidableEq, Repr

/-- How far a watch has come. -/
inductive Stage where
  | watching
  /-- The last tick has left nobody. -/
  | deserted
  | announced
  | closed
  deriving DecidableEq, Repr

/-- A watch among running processes, how far it has come, and how often its end has been
announced. -/
structure Monitor where
  watch : Watch
  running : List UInt32
  stage : Stage
  announced : Nat
  deriving DecidableEq, Repr

namespace Monitor

/-- The monitor at the start. -/
def start (client : Option UInt32) (running : List UInt32) : Monitor :=
  ⟨.start client, running, .watching, 0⟩

/-- Whether the end of the watch has been announced. -/
def isOver (monitor : Monitor) : Bool :=
  monitor.announced ≠ 0

/-- Whether a process is running. -/
def isRunning (monitor : Monitor) (pid : UInt32) : Bool :=
  monitor.running.contains pid

/-- The monitor after something has happened. Between the last tick and the close registrations are
kept, but nobody looks at them; after the close they are lost. -/
def step (monitor : Monitor) : Happening → Monitor
  | .register pid =>
    if monitor.stage = .closed then monitor
    else { monitor with watch := monitor.watch.register pid }
  | .exits pid => { monitor with running := monitor.running.filter fun other => other ≠ pid }
  | .starts pid =>
    if monitor.isRunning pid then monitor else { monitor with running := pid :: monitor.running }
  | .tick =>
    if monitor.stage = .watching then
      let (anyLeft, watch) := monitor.watch.tick monitor.isRunning
      { monitor with watch := watch, stage := if anyLeft then .watching else .deserted }
    else monitor
  | .announce =>
    if monitor.stage = .deserted then
      { monitor with stage := .announced, announced := monitor.announced + 1 }
    else monitor
  | .close => if monitor.stage = .announced then { monitor with stage := .closed } else monitor

/-- The monitor after several things have happened, in order. -/
def run (monitor : Monitor) (happenings : List Happening) : Monitor :=
  happenings.foldl step monitor

/-- Runs the monitor by a clock, from the given tick on for so many ticks: at each tick everything
that is due by then has happened before. Gives the time of the last tick, at which the watch comes
to its end. -/
def runClock (monitor : Monitor) (interval tick : Nat) (events : List (Nat × Happening)) :
    Nat → Option Nat × Monitor
  | 0 => (none, monitor.run (events.map Prod.snd))
  | ticks + 1 =>
    let now := tick * interval
    let (due, later) := events.span fun event => event.1 ≤ now
    let monitor := (monitor.run (due.map Prod.snd)).step .tick
    if monitor.stage = .watching then monitor.runClock interval (tick + 1) later ticks
    else (some now, monitor.run [.announce, .close])

/-- How many ticks there are up to a time. Without an interval everything is at the start, where one
tick is as good as many. -/
def ticksUntil (interval limit : Nat) : Nat :=
  if interval = 0 then 1 else limit / interval

/-- The longest time from one tick to the next, in milliseconds: thirty years of 365 days. -/
def maxInterval : Nat := 946080000000

/-- Runs the monitor from time zero to the limit, with things that happen at known times. A longer
interval than the longest one counts as that. -/
def runUntil (monitor : Monitor) (interval limit : Nat) (events : List (Nat × Happening)) :
    Option Nat × Monitor :=
  let interval := min interval maxInterval
  let ordered := events.mergeSort fun a b => a.1 ≤ b.1
  monitor.runClock interval 1 ordered (ticksUntil interval limit)

end Monitor

end ScriptAssist
