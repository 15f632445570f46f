import Dashboard.Session
/-!
# What loading data does

Loading the data section submits its statements, one after another, or does nothing at all if there
is an error in it. Names are not touched. A document is read only after that.
-/
namespace Dashboard

namespace Effect

theorem statements_bound (names : List String) :
    (names.map bound).filterMap statement? = [] := by
  apply List.filterMap_eq_nil_iff.2
  intro effect here
  obtain ⟨name, -, rfl⟩ := List.mem_map.1 here
  rfl

theorem statements_submitted (statements : List String) :
    (statements.map submitted).filterMap statement? = statements := by
  rw [List.filterMap_map]
  exact List.filterMap_some

end Effect

namespace Context

def submitAll (context : Context) (statements : List String) : Context :=
  statements.foldl submit context

theorem submitAll_eq (context : Context) (statements : List String) :
    context.submitAll statements =
      { context with journal := context.journal ++ statements.map .submitted } := by
  induction statements generalizing context with
  | nil => rw [List.map_nil, List.append_nil]; rfl
  | cons statement statements ih =>
    refine (ih (context.submit statement)).trans ?_
    rw [submit, List.append_assoc, List.map_cons, List.singleton_append]

theorem statements_submit (context : Context) (statement : String) :
    (context.submit statement).statements = context.statements ++ [statement] := by
  simp [statements, submit, Effect.statement?]

@[simp] theorem scope_submitAll (context : Context) (statements : List String) :
    (context.submitAll statements).scope = context.scope := by
  rw [submitAll_eq]

end Context

namespace Engine

/-- What a report says of a statement that the engine gets after the earlier ones. -/
def settle (engine : Engine) (earlier : List String) (work : Materialization) : LoadOutcome :=
  ⟨work.table, work.statement, (engine earlier work.statement).map (": ".intercalate ·)⟩

/-- The report on statements that are submitted one after another. -/
def settleAll (engine : Engine) : List String → List Materialization → LoadReport
  | _, [] => []
  | earlier, first :: others =>
    engine.settle earlier first :: engine.settleAll (earlier ++ [first.statement]) others

end Engine

namespace Interpreting

theorem runIn_submit (engine : Engine) (work : Materialization) (context : Context) :
    (submit engine work).runIn context =
      (.ok (engine.settle context.statements work), context.submit work.statement) := by
  unfold submit
  simp only [runIn_bind, runIn_get, runIn_set, runIn_pure]
  rfl

theorem runIn_mapM_submit (engine : Engine) (work : List Materialization) (context : Context) :
    (work.mapM (submit engine)).runIn context =
      (.ok (engine.settleAll context.statements work),
        context.submitAll (work.map (·.statement))) := by
  induction work generalizing context with
  | nil => rfl
  | cons first others ih =>
    simp only [List.mapM_cons, runIn_bind, runIn_submit, ih, runIn_pure, Engine.settleAll,
      Context.statements_submit]
    rfl

/-- Nothing is submitted unless the whole data section is sound. -/
theorem runIn_loadData (formats : Table Format) (engine : Engine) (data : Json)
    (context : Context) :
    (loadData formats engine data).runIn context =
      match Source.materializations formats data with
      | .error e => (.error e, context)
      | .ok work => (.ok (engine.settleAll context.statements work),
          context.submitAll (work.map (·.statement))) := by
  have start : (liftM (Source.materializations formats data) :
      Interpreting (List Materialization)).runIn context =
        (Source.materializations formats data, context) := rfl
  unfold loadData
  rw [runIn_bind, start]
  cases Source.materializations formats data with
  | error e => rfl
  | ok work => exact runIn_mapM_submit engine work context

/-- Params and layout are read after the statements were submitted. -/
theorem runIn_document (rules : Rules) (engine : Engine) (fields : Fields) (context : Context) :
    (document rules engine (.object fields)).runIn context =
      match Source.materializations rules.catalog.formats (fields.valueAt "data") with
      | .error e => (.error e, context)
      | .ok work =>
        runIn (readDocument rules fields) (context.submitAll (work.map (·.statement))) := by
  unfold document
  rw [runIn_bind, runIn_loadData]
  cases Source.materializations rules.catalog.formats (fields.valueAt "data") with
  | error e => rfl
  | ok work => rfl

end Interpreting

namespace Session
variable {session : Session} {data : Json}

theorem loadData_of_faulty {e : DocumentError}
    (faulty : Source.materializations session.rules.catalog.formats data = .error e) :
    session.loadData data = ⟨.error e, [], session⟩ := by
  unfold loadData run
  rw [Interpreting.runIn_loadData, faulty]
  simp

theorem loadData_of_sound {work : List Materialization}
    (sound : Source.materializations session.rules.catalog.formats data = .ok work) :
    session.loadData data =
      ⟨.ok (session.engine.settleAll session.statements work),
        (work.map (·.statement)).map .submitted,
        { session with toContext := session.submitAll (work.map (·.statement)) }⟩ := by
  unfold loadData run
  rw [Interpreting.runIn_loadData, sound]
  simp [Context.submitAll_eq]

end Session

end Dashboard
