import Dashboard.Document.Basic
import Dashboard.Live.Notification
import Dashboard.Live.Predicate
/-!
# Sessions

A session interprets documents one after another in one scope. Names keep their live values from
document to document, and a tree shows the values that its names have now.
-/
namespace Dashboard

structure Session extends Context where
  rules : Rules
  engine : Engine := Engine.dry
  /-- The documents read so far, the first one first. -/
  documents : List (Document Handle) := []

/-- What a call answers, what it did, and the session after it. -/
structure Answered (α : Type) where
  outcome : Except DocumentError α
  effects : List Effect
  session : Session

/-- The statements that a call submitted. -/
def Answered.statements {α : Type} (answered : Answered α) : List String :=
  answered.effects.filterMap Effect.statement?

namespace Session

/-- Interprets something in the scope of the session. -/
def run {α : Type} (session : Session) (work : Interpreting α) : Answered α :=
  let (outcome, context) := work.runIn session.toContext
  { outcome
    effects := context.journal.drop session.journal.length
    session := { session with toContext := context } }

/-- Interprets a document. -/
def interpretDocument (session : Session) (root : Json) : Answered (Document Handle) :=
  let answered := session.run (.document session.rules session.engine root)
  { answered with session :=
    { answered.session with
      documents := session.documents ++ answered.outcome.toOption.toList } }

theorem effects_interpretDocument (session : Session) (root : Json) :
    (session.interpretDocument root).effects =
      ((Interpreting.document session.rules session.engine root).runIn
        session.toContext).2.journal.drop session.journal.length := rfl

theorem outcome_interpretDocument (session : Session) (root : Json) :
    (session.interpretDocument root).outcome =
      ((Interpreting.document session.rules session.engine root).runIn session.toContext).1 := rfl

theorem context_interpretDocument (session : Session) (root : Json) :
    (session.interpretDocument root).session.toContext =
      ((Interpreting.document session.rules session.engine root).runIn session.toContext).2 := rfl

/-- Interprets a document that is given as text. -/
def parse (session : Session) (text : String) : Answered (Document Handle) :=
  match Json.read text with
  | .error e => ⟨.error (.notJson e), [], session⟩
  | .ok root => session.interpretDocument root

def interpret (session : Session) (node : Json) : Answered (Directive Handle) :=
  session.run (readNode session.rules node)

/-- Interprets an object as a plot, whatever keys it has. -/
def interpretPlot (session : Session) (fields : Fields) : Answered (Directive Handle) :=
  session.run (.plot <$> readPlot session.rules.catalog fields (plotItems fields))

def loadData (session : Session) (data : Json) : Answered LoadReport :=
  session.run (.loadData session.rules.catalog.formats session.engine data)

/-- Binds what a params section defines. -/
def bindParams (session : Session) (params : Json) : Answered Unit :=
  session.run (readParams session.rules.catalog params)

/-- Resolves a value where a name that is not bound yet stands for `initial`. -/
def resolve (session : Session) (value : Json) (initial : Live := freshParam) :
    Answered (Resolved Handle) :=
  session.run (readValue initial value)

def resolveTransform (session : Session) (value : Json) : Option Expression :=
  transform? session.rules.catalog.transforms value

/-- Performs an action. Returns the calls it caused, or `none` if its name is not bound. -/
def perform (session : Session) (action : Action) : Option (List Notice) × Session :=
  match session.scope.handle? action.name with
  | none => (none, session)
  | some _ =>
    let (store, events) := session.scope.store.perform session.scope.names action
    (some (events.filterMap Event.notice?), { session with scope.store := store })

/-- Whether two names stand for one live value; `none` if one of them is not bound. -/
def same? (session : Session) (a b : String) : Option Bool := do
  let a ← session.scope.handle? a
  let b ← session.scope.handle? b
  return a == b

end Session

/-! ## Whole sessions -/

inductive Step where
  | parse (text : String)
  | interpret (node : Json)
  | interpretPlot (fields : Fields)
  | loadData (data : Json)
  | resolve (value : Json) (initial : Live)
  | perform (action : Action)

namespace Session

/-- The session after a step. -/
def after (session : Session) : Step → Session
  | .parse text => (session.parse text).session
  | .interpret node => (session.interpret node).session
  | .interpretPlot fields => (session.interpretPlot fields).session
  | .loadData data => (session.loadData data).session
  | .resolve value initial => (session.resolve value initial).session
  | .perform action => (session.perform action).2

def afterAll (session : Session) (steps : List Step) : Session :=
  steps.foldl after session

end Session

end Dashboard
