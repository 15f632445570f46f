import Dashboard.Json.Basic
/-!
# Live values

A name stands for a live value. A param holds one value. A selection gathers clauses, at most one
for each source, in the order in which the sources last spoke; a single selection keeps only the
last of all.
-/
namespace Dashboard

/-- How a selection merges the clauses of its sources. -/
inductive SelectionKind where
  | intersect
  | union
  | crossfilter
  | single
  deriving DecidableEq, Repr

namespace SelectionKind

def all : List SelectionKind := [intersect, union, crossfilter, single]

def name : SelectionKind → String
  | intersect => "intersect"
  | union => "union"
  | crossfilter => "crossfilter"
  | single => "single"

end SelectionKind

/-- What one source contributes to a selection. -/
structure Clause where
  source : String
  predicate : String
  value : Json
  deriving Repr

/-- What a live value is told. A param takes the value; a selection takes the clause, or drops the
one of this source if there is no predicate. -/
structure Change where
  source : String := ""
  predicate : Option String := none
  value : Json
  deriving Repr

def Change.clause? (change : Change) : Option Clause :=
  change.predicate.map fun predicate => ⟨change.source, predicate, change.value⟩

inductive Live where
  | param (value : Json)
  | selection (kind : SelectionKind) (clauses : List Clause)
  deriving Repr

namespace Live

def empty (kind : SelectionKind) : Live :=
  selection kind []

/-- The clauses that a change of one source leaves in place. -/
def kept (kind : SelectionKind) (clauses : List Clause) (source : String) : List Clause :=
  match kind with
  | .single => []
  | _ => clauses.filter (·.source != source)

def update : Live → Change → Live
  | param _, change => param change.value
  | selection kind clauses, change =>
    selection kind (kept kind clauses change.source ++ change.clause?.toList)

/-- The value of a param, or of the last clause of a selection. -/
def value : Live → Json
  | param v => v
  | selection _ clauses => (clauses.getLast?.map (·.value)).getD .null

def kindName : Live → String
  | param _ => "param"
  | selection kind _ => kind.name

/-- What a reference shows. -/
def json : Live → Json
  | param v => .object [("param", v)]
  | selection kind _ => .object [("selection", .string kind.name)]

end Live

end Dashboard
