import Dashboard.Query.Term
/-!
# Statements

A statement fills a temporary table from a query. A file is queried through a reading function,
whose options follow the name of the file.
-/
namespace Dashboard.Query

/-- A column of a result. The star stands for all columns. -/
def column (name : String) : String :=
  if name = "*" then name else identifier name

/-- The chosen columns of a table or a call; all of them if none is chosen. -/
def selectFrom (columns : List String) (source : String) : String :=
  let chosen := if columns.isEmpty then ["*"] else columns.map column
  "SELECT " ++ ", ".intercalate chosen ++ " FROM " ++ source

def createTable (name query : String) : String :=
  "CREATE TEMP TABLE IF NOT EXISTS " ++ name ++ " AS " ++ query

def tableCall (function file : String) (options : List (String × String)) : String :=
  call function (textLiteral file :: options.map fun (key, value) => key ++ "=" ++ value)

end Dashboard.Query
