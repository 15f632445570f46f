import Dashboard.Catalog.Basic
import Dashboard.Query.Statement
import Dashboard.Source.Basic
import Dashboard.Text.Uppercase
/-!
# The standard formats

A table comes from a query, or is there already. The other formats read a file; the keys that say
nothing about file and columns are options of the reading function.
-/
namespace Dashboard.Source

/-- The keys that are no options of a reading function. -/
def reservedKeys : List String := ["format", "file", "query", "select"]

/-- The options of the reading function, with upper-case keys, in the order of the source. -/
def readerOptions (source : Fields) : List (String × String) :=
  (Table.without source reservedKeys).map fun (key, value) =>
    (Text.upper key, Query.literal value)

def file (source : Fields) : Except DocumentError String :=
  match source.string? "file" with
  | some file => .ok file
  | none => .error (.wrongPropertyType "file" (.object source))

def columnNames : List Json → Except DocumentError (List String)
  | [] => .ok []
  | .string name :: columns => (columnNames columns).map (name :: ·)
  | column :: _ => .error (.wrongPropertyType "select" column)

/-- The chosen columns; all of them if nothing is chosen. -/
def columns (source : Fields) : Except DocumentError (List String) :=
  match source.valueAt "select" with
  | .null => .ok ["*"]
  | .string name => .ok [name]
  | .array names => columnNames names
  | choice => .error (.wrongPropertyType "select" choice)

/-- Fills a table with the chosen columns of a file. -/
def fromFile (function : String) (options : Fields → List (String × String)) : Format :=
  fun table source => do
    let file ← file source
    let columns ← columns source
    let rows := Query.tableCall function file (options source)
    return some (Query.createTable table (Query.selectFrom columns rows))

def table : Format := fun table source =>
  match source.valueAt "query" with
  | .null => .ok none
  | .string query => .ok (some (Query.createTable table query))
  | query => .error (.wrongPropertyType "query" query)

def parquet : Format :=
  fromFile "read_parquet" fun _ => []

/-- The sample size may be overridden, and of two spellings of a key the last value counts. -/
def csvOptions (source : Fields) : Table String :=
  Table.putAll [("SAMPLE_SIZE", "-1")] (readerOptions source)

def csv : Format :=
  fromFile "read_csv_auto" csvOptions

def json : Format :=
  fromFile "read_json_auto" readerOptions

end Dashboard.Source
