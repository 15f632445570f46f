import Dashboard.Document.Params
import Dashboard.Session
/-!
# The log

While a document is interpreted, it is said which statements are submitted and which params are
bound. How much of that is shown depends on the verbosity, unless the environment has a filter of
its own.
-/
namespace Dashboard

/-- What may be said. The engine of the program takes every statement, and nothing is said of
failures. -/
inductive LogEvent where
  | submitting (work : Materialization)
  | dryRun (statement : String)
  | keeping (name : String)
  | binding (name kind : String)
  deriving DecidableEq, Repr

namespace LogEvent

/-- The verbosity from which on an event is shown. -/
def level : LogEvent → Nat
  | dryRun _ => 1
  | _ => 2

def text : LogEvent → String
  | submitting work => "DEBUG submitting table=" ++ work.table ++ " statement=" ++ work.statement
  | dryRun statement => "INFO dry run statement=" ++ statement
  | keeping name => "DEBUG param already bound, keeping existing instance name=" ++ name
  | binding name kind => "DEBUG binding param name=" ++ name ++ " select=" ++ kind

end LogEvent

/-- How events are written. -/
structure Logging where
  /-- What the environment wants to see, if it says so. -/
  filter? : Option (LogEvent → Bool) := none
  /-- The line of the event that is shown as the `n`-th one. It may tell the time. -/
  line : Nat → LogEvent → String := fun _ event => event.text

namespace Logging

def shows (logging : Logging) (verbosity : Nat) (event : LogEvent) : Bool :=
  match logging.filter? with
  | some filter => filter event
  | none => event.level ≤ verbosity

def lines (logging : Logging) (events : List LogEvent) : List String :=
  events.mapIdx logging.line

/-- The lines of the events that are shown. -/
def write (logging : Logging) (verbosity : Nat) (events : List LogEvent) : List String :=
  logging.lines (events.filter (logging.shows verbosity))

end Logging

/-! ## What is said -/

/-- Each statement is announced, and the engine tells that it has come. -/
def logOfData (work : List Materialization) : List LogEvent :=
  work.flatMap fun work => [.submitting work, .dryRun work.statement]

/-- Nothing is said of an entry that defines nothing, nor of those behind it. -/
def logOfEntries (params : Table (Json → Live)) (scope : Scope) : Fields → List LogEvent
  | [] => []
  | (name, entry) :: entries =>
    let (kind?, value) := paramDefinition entry
    match kind?.bind fun kind => (params.lookup kind).map (kind, ·) with
    | none => []
    | some (kind, construct) =>
      match scope.handle? name with
      | some _ => .keeping name :: logOfEntries params scope entries
      | none =>
        .binding name kind :: logOfEntries params (scope.bind ⟨name, construct value⟩) entries

def logOfParams (params : Table (Json → Live)) (scope : Scope) : Json → List LogEvent
  | .object entries => logOfEntries params scope entries
  | _ => []

/-- What is said while a session interprets a text. -/
def Session.log (session : Session) (text : String) : List LogEvent :=
  match Json.read text with
  | .ok (.object root) =>
    match Source.materializations session.rules.catalog.formats (Fields.valueAt root "data") with
    | .error _ => []
    | .ok work =>
      logOfData work ++
        logOfParams session.rules.catalog.params session.scope (Fields.valueAt root "params")
  | _ => []

end Dashboard
