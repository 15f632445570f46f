import Dashboard.Reading
/-!
# Data sources

A data source says where the rows of a table come from. A string is short for a query.
-/
namespace Dashboard.Source

/-- The object form of an entry of the data section. -/
def normalize : Json → Except DocumentError Fields
  | .string query => .ok [("format", .string "table"), ("query", .string query)]
  | .object source => .ok source
  | entry => .error (.wrongPropertyType "data" entry)

/-- What follows the last point of a file name. -/
def extension? (file : String) : Option String :=
  let cs := file.toList
  if '.' ∈ cs then some (String.ofList (cs.reverse.takeWhile (· ≠ '.')).reverse) else none

/-- The name of the format: the one given, else the extension of the file, else `table`. -/
def formatName (source : Fields) : String :=
  match source.string? "format" with
  | some format => format
  | none => ((source.string? "file").bind extension?).getD "table"

end Dashboard.Source
