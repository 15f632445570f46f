import Dashboard.Logging
import Dashboard.Proofs.Residue
/-!
# What the log tells

The log tells the statements that are submitted and the names that the params section binds, each
of them once and in their order, whether the text is accepted or not. Nothing of it is shown before
the verbosity is raised; then it is the statements, and then everything.
-/
namespace Dashboard

namespace LogEvent

/-- The statement that the engine is told to have got. -/
def statement? : LogEvent → Option String
  | dryRun statement => some statement
  | _ => none

end LogEvent

end Dashboard
