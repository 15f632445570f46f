import Dashboard.Json.Printer
/-!
# Terms of a query

Names and texts stand between marks, and a mark inside is written twice.
-/
namespace Dashboard.Query

def doubled (mark : Char) (cs : List Char) : List Char :=
  cs.flatMap fun c => if c = mark then [mark, mark] else [c]

def enclosed (mark : Char) (s : String) : String :=
  String.ofList (mark :: doubled mark s.toList ++ [mark])

def identifier (name : String) : String :=
  enclosed '"' name

def textLiteral (s : String) : String :=
  enclosed '\'' s

mutual

/-- The literal of a value. An object is the text of its compact JSON. -/
def literal : Json → String
  | .null => "NULL"
  | .bool b => if b then "TRUE" else "FALSE"
  | .number n => n.text
  | .string s => textLiteral s
  | .array items => "[" ++ ", ".intercalate (literals items) ++ "]"
  | .object fields => textLiteral (Json.object fields).compact

def literals : List Json → List String
  | [] => []
  | item :: items => literal item :: literals items

end

/-- An argument of a function. A string names a column, all else is a literal. -/
def argument : Json → String
  | .string name => identifier name
  | v => literal v

def call (name : String) (arguments : List String) : String :=
  name ++ "(" ++ ", ".intercalate arguments ++ ")"

end Dashboard.Query
