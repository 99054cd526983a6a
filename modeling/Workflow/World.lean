import Workflow.Error
import Workflow.Reference.Resolution
import Workflow.Value.Objects

/-!
# The world of a run

What a run reads and changes besides its own records: the clock and the supply of
identifiers, what changeable values hold, chance, the log, the waiting between
invocations, and the state of the executors.  A run is a computation in this world that may raise an error; what happened
before it was raised stays.
-/

namespace Workflow

/-- How grave a line of the log is. -/
inductive LogLevel where
  | info
  | warning
  | error
  deriving Repr, DecidableEq

/-- The name of a level. -/
def LogLevel.name : LogLevel -> String
  | .info => "INFO"
  | .warning => "WARNING"
  | .error => "ERROR"

/-- A line of the log. -/
structure LogLine where
  level : LogLevel
  message : String
  deriving Repr, DecidableEq

/-- The world of a run, with the state of its executors. -/
structure World (σ : Type) where
  fresh : Fresh
  /-- What the changeable values of the run hold by now. -/
  objects : Objects
  /-- What chance gives each time, at least zero and below one. -/
  chance : Float
  /-- The lines logged so far, in order. -/
  log : List LogLine
  /-- The delays waited for so far, in seconds. -/
  delays : List Float
  /-- Seconds spent in invocations that did not end by themselves. -/
  elapsed : Float
  /-- The place of the deadline that ran out, counted from the outermost one. -/
  expired : Option Nat
  executors : σ

/-- A computation in a world that may raise an error. -/
abbrev Run (σ : Type) := EStateM Raised (World σ)

namespace World

/-- A world in which nothing has happened yet. -/
def start (fresh : Fresh) (chance : Float) (executors : σ) : World σ :=
  ⟨fresh, .empty, chance, [], [], 0.0, none, executors⟩

/-- The world with a line added to the log. -/
def logged (w : World σ) (level : LogLevel) (message : String) : World σ :=
  { w with log := w.log ++ [⟨level, message⟩] }

end World

namespace Run

variable {σ α : Type}

/-- Raise an error. -/
def fail (e : Error) : Run σ α :=
  throw (.error e)

/-- A result that does not depend on the world. -/
def ofExcept (r : Except Raised α) : Run σ α :=
  match r with
  | .ok a => pure a
  | .error e => throw e

/-- A result that may be an error of the engine. -/
def ofResult (r : Except Error α) : Run σ α :=
  ofExcept (r.mapError .error)

/-- A result that may be a fault of values. -/
def ofOutcome (r : Outcome α) : Run σ α :=
  ofExcept (r.mapError .fault)

/-- The result of a computation, or what it raised; the world it leaves stays. -/
def attempt (m : Run σ α) : Run σ (Except Raised α) := fun w =>
  match m w with
  | .ok a w => .ok (.ok a) w
  | .error e w => .ok (.error e) w

/-- Resolve tokens with the values of this world. -/
def resolving (m : Reference.Resolving α) : Run σ α := fun w =>
  match m w.fresh with
  | .ok a fresh => .ok a { w with fresh }
  | .error f fresh => .error (.fault f) { w with fresh }

/-- Do something that reads and changes values; its result, or why there is none. -/
def tried {ε : Type} (m : EStateM ε Objects α) : Run σ (Except ε α) := fun w =>
  match m w.objects with
  | .ok a objects => .ok (.ok a) { w with objects }
  | .error e objects => .ok (.error e) { w with objects }

/-- Do something that reads and changes values, and may raise something. -/
def changing (m : EStateM Raised Objects α) : Run σ α := do
  ofExcept (<- tried m)

/-- A value with all that it holds by now. -/
def current (v : Value) : Run σ Value := do
  pure ((<- get).objects.refresh v)

/-- A new value, which can be changed from now on. -/
def own (v : Value) : Run σ Value := fun w =>
  let (v, objects) := w.objects.adopt v
  .ok v { w with objects }

/-- A new value of which what it holds can be changed from now on. -/
def ownParts (v : Value) : Run σ Value := fun w =>
  let (v, objects) := w.objects.adoptParts v
  .ok v { w with objects }

/-- Add a line to the log. -/
def log (level : LogLevel) (message : String) : Run σ Unit :=
  modify fun w => w.logged level message

/-- Log what is worth knowing. -/
def inform (message : String) : Run σ Unit :=
  log .info message

/-- Log what is odd. -/
def warn (message : String) : Run σ Unit :=
  log .warning message

/-- Log a failure. -/
def complain (message : String) : Run σ Unit :=
  log .error message

/-- The time of the clock. -/
def now : Run σ DateTime := do
  pure (<- get).fresh.now

/-- A new identifier. -/
def identifier : Run σ String := fun w =>
  let (id, fresh) := w.fresh.issue
  .ok id { w with fresh }

/-- Wait for some seconds. -/
def wait (delay : Float) : Run σ Unit :=
  modify fun w => { w with delays := w.delays ++ [delay] }

end Run

end Workflow
