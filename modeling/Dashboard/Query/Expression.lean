import Dashboard.Query.Term
/-!
# Expressions

An expression computes a channel of a mark from the columns of its table.
-/
namespace Dashboard

structure Expression where
  text : String
  label : Option String := none
  aggregate : Bool := false
  deriving DecidableEq, Repr

namespace Expression

/-- The call of a function on columns and literals. -/
def call (function : String) (arguments : List Json) : Expression :=
  { text := Query.call function (arguments.map Query.argument) }

def aggregateCall (function : String) (arguments : List Json) : Expression :=
  { call function arguments with aggregate := true }

def labelled (e : Expression) (label : String) : Expression :=
  { e with label := some label }

def json (e : Expression) : Json :=
  .object
    (("sql", .string e.text) ::
      (e.label.map fun label => ("label", Json.string label)).toList ++
      [("aggregate", .bool e.aggregate)])

end Expression

end Dashboard
