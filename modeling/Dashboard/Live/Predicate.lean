import Dashboard.Live.Basic
/-!
# Combined predicates

The clauses of a selection combine into one predicate, each in parentheses. A client of a
crossfilter selection does not see its own clause.
-/
namespace Dashboard.Live

/-- The clauses that count for a client. -/
def contributing (kind : SelectionKind) (client : Option String) (clauses : List Clause) :
    List Clause :=
  match kind with
  | .crossfilter => clauses.filter fun clause => some clause.source != client
  | _ => clauses

@[simp] theorem contributing_none (kind : SelectionKind) (clauses : List Clause) :
    contributing kind none clauses = clauses := by
  cases kind <;> simp [contributing]

theorem contributing_client (client : String) (clauses : List Clause) :
    contributing .crossfilter (some client) clauses = clauses.filter (·.source != client) := by
  simp only [contributing, bne, Option.some_beq_some]

/-- Only a crossfilter selection minds who looks. -/
theorem contributing_of_ne {kind : SelectionKind} (other : kind ≠ .crossfilter)
    (client : Option String) (clauses : List Clause) :
    contributing kind client clauses = clauses := by
  cases kind with
  | crossfilter => exact absurd rfl other
  | _ => rfl

def connective : SelectionKind → String
  | .union => " OR "
  | _ => " AND "

/-- The predicates in parentheses, joined; `none` if there is none. -/
def combined (kind : SelectionKind) (predicates : List String) : Option String :=
  if predicates.isEmpty then none
  else some ((connective kind).intercalate (predicates.map fun p => "(" ++ p ++ ")"))

/-- The predicate of a selection as a client sees it. -/
def predicate? (live : Live) (client : Option String) : Option String :=
  match live with
  | param _ => none
  | selection kind clauses =>
    combined kind ((contributing kind client clauses).map (·.predicate))

theorem predicate?_selection (kind : SelectionKind) (clauses : List Clause)
    (client : Option String) : (selection kind clauses).predicate? client =
      combined kind ((contributing kind client clauses).map (·.predicate)) := rfl

end Dashboard.Live
