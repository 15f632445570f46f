import Dashboard.Catalog.Basic
import Dashboard.Interpreting
import Dashboard.Source.Basic
/-!
# Loading data

The data section is turned into statements as a whole before the first one is submitted. All of
them are then submitted in order; a failure of one is only reported.
-/
namespace Dashboard

/-- A statement that fills a table. -/
structure Materialization where
  table : String
  statement : String
  deriving DecidableEq, Repr

namespace Source

/-- The statement for one source, if it needs one. -/
def materializeSource? (formats : Table Format) (table : String) (source : Fields) :
    Except DocumentError (Option Materialization) :=
  match formats.lookup (formatName source) with
  | none => .error (.unknownFormat (.object source))
  | some format => (format table source).map fun statement => statement.map (⟨table, ·⟩)

/-- The statement for one entry of the data section. -/
def materialize? (formats : Table Format) (table : String) (entry : Json) :
    Except DocumentError (Option Materialization) := do
  materializeSource? formats table (← normalize entry)

def materializeEntries (formats : Table Format) :
    Fields → Except DocumentError (List Materialization)
  | [] => .ok []
  | (table, entry) :: entries => do
    let first ← materialize? formats table entry
    let others ← materializeEntries formats entries
    return first.toList ++ others

/-- The statements of a data section, or the first error in it. -/
def materializations (formats : Table Format) :
    Json → Except DocumentError (List Materialization)
  | .null => .ok []
  | .object entries => materializeEntries formats entries
  | data => .error (.wrongPropertyType "data" data)

end Source

/-- What becomes of a statement after those that the engine got before: `none` if it succeeds, else
the chain of causes from the outermost to the innermost. -/
abbrev Engine := List String → String → Option (List String)

/-- The engine that only takes statements. -/
def Engine.dry : Engine := fun _ _ => none

structure LoadOutcome where
  table : String
  statement : String
  error : Option String
  deriving DecidableEq, Repr

abbrev LoadReport := List LoadOutcome

namespace LoadReport

def failures (report : LoadReport) : LoadReport :=
  report.filter (·.error.isSome)

def allSucceeded (report : LoadReport) : Bool :=
  report.failures.isEmpty

end LoadReport

namespace Interpreting

/-- Submits a statement and waits for it. -/
def submit (engine : Engine) (work : Materialization) : Interpreting LoadOutcome := do
  let context ← get
  set (context.submit work.statement)
  let failure := engine context.statements work.statement
  return ⟨work.table, work.statement, failure.map (": ".intercalate ·)⟩

/-- Loads a data section. -/
def loadData (formats : Table Format) (engine : Engine) (data : Json) :
    Interpreting LoadReport := do
  let work ← Source.materializations formats data
  work.mapM (submit engine)

end Interpreting

end Dashboard
