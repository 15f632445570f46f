import Dashboard.Proofs.Identity
import Dashboard.Proofs.Matching
import Dashboard.Proofs.Residue
/-!
# Interpreting a document again

A document that is interpreted again meets the same references up to the same fault, and the first
time has bound them all. What happened to their values in the meantime is not looked at. So the
second time submits the same statements, binds nothing and answers the same.
-/
namespace Dashboard

namespace Scope
variable {scope : Scope} {refs : List Reference}

/-- Names that are bound need not be bound again. -/
theorem bindAll_of_bound (bound : ∀ ref ∈ refs, ∃ handle, scope.handle? ref.name = some handle) :
    scope.bindAll refs = scope ∧ scope.newNames refs = [] := by
  induction refs with
  | nil => exact ⟨rfl, rfl⟩
  | cons ref refs ih =>
    obtain ⟨handle, here⟩ := bound ref List.mem_cons_self
    have rest := ih fun ref inside => bound ref (List.mem_cons_of_mem _ inside)
    rw [bindAll_cons, bind_of_bound here, newNames, here]
    exact rest

theorem Binds.unique {name : String} {cell cell' : Handle} (h : scope.Binds name cell)
    (k : scope.Binds name cell') : cell = cell' :=
  Option.some.inj (h.symm.trans k)

theorem binds_congr {scope' : Scope} (names : scope'.names = scope.names) :
    scope'.Binds = scope.Binds := by
  funext name cell
  rw [Binds, Binds, handle?, handle?, names]

end Scope

namespace Session

/-- A session after updates and subscriptions. -/
def acting (session : Session) (actions : List Action) : Session :=
  session.afterAll (actions.map .perform)

theorem acting_eq (session : Session) (actions : List Action) :
    ∃ store, session.acting actions = { session with scope.store := store } := by
  unfold acting
  induction actions generalizing session with
  | nil => exact ⟨session.scope.store, rfl⟩
  | cons action actions ih =>
    have first : ∃ store, (session.perform action).2 = { session with scope.store := store } := by
      unfold perform
      cases session.scope.handle? action.name with
      | none => exact ⟨session.scope.store, rfl⟩
      | some target => exact ⟨_, rfl⟩
    obtain ⟨store, first⟩ := first
    obtain ⟨last, rest⟩ := ih (session.perform action).2
    refine ⟨last, rest.trans ?_⟩
    rw [first]

end Session

/-- The second of two calls, made in a session `between`, answers what the first one answered. It
submits the same statements and binds nothing. -/
structure Repeats {α : Type} (first : Answered α) (between : Session) (second : Answered α) :
    Prop where
  outcome : second.outcome = first.outcome
  statements : second.statements = first.statements
  effects : second.effects = first.statements.map .submitted
  scope : second.session.scope = between.scope
  names : between.scope.names = first.session.scope.names

/-- What fails before anything is done fails so again. -/
theorem repeats_of_failed {session : Session} {root : Json} {e : DocumentError}
    (fails : ∀ context, (Interpreting.document session.rules session.engine root).runIn context =
      (.error e, context)) (actions : List Action) :
    let first := session.interpretDocument root
    let between := first.session.acting actions
    Repeats first between (between.interpretDocument root) := by
  intro first between
  have now : first = ⟨.error e, [], session⟩ := interpretDocument_of_failed (fails _)
  obtain ⟨store, acted⟩ := session.acting_eq actions
  have same : between = { session with scope.store := store } := by
    simp only [between, now, acted]
  have again : between.interpretDocument root = ⟨.error e, [], between⟩ := by
    rw [same]
    exact interpretDocument_of_failed (fails _)
  rw [again, now, same]
  exact ⟨rfl, rfl, rfl, rfl, rfl⟩

/-- The answer is decided by the rules, the document and the cells that names have in the end. -/
theorem outcome_of_names {session session' : Session} (rules : session'.rules = session.rules)
    {root : Fields} {statements : List String}
    (gives : Source.DataGives session.rules.catalog.formats (root.valueAt "data") statements)
    (names : (session'.interpretDocument (.object root)).session.scope.names =
      (session.interpretDocument (.object root)).session.scope.names) :
    (session'.interpretDocument (.object root)).outcome =
      (session.interpretDocument (.object root)).outcome := by
  have gives' : Source.DataGives session'.rules.catalog.formats (root.valueAt "data")
      statements := by
    rw [rules]
    exact gives
  obtain ⟨-, -, read⟩ := interpretDocument_of_loaded session gives
  obtain ⟨-, -, read'⟩ := interpretDocument_of_loaded session' gives'
  rw [rules] at read'
  cases answer : (session.interpretDocument (.object root)).outcome with
  | error e => exact (read'.error_iff e).1 ((read.error_iff e).2 answer)
  | ok document =>
    obtain ⟨document', answer'⟩ := read'.ok_iff.1 (read.ok_iff.2 ⟨document, answer⟩)
    have mirrors := mirrors_of_accepted answer
    have mirrors' := mirrors_of_accepted answer'
    rw [rules, Scope.binds_congr names] at mirrors'
    rw [answer', mirrors'.unique mirrors fun _ _ _ => Scope.Binds.unique]

/-- A document that only refers to bound names binds nothing. -/
theorem interpretDocument_of_bound {session : Session} {root : Fields} {statements : List String}
    (gives : Source.DataGives session.rules.catalog.formats (root.valueAt "data") statements)
    (known : ∀ ref ∈ (readDocument session.rules root : Reading (Document String)).references,
      ∃ handle, session.scope.handle? ref.name = some handle) :
    (session.interpretDocument (.object root)).effects = statements.map .submitted ∧
      (session.interpretDocument (.object root)).session.scope = session.scope := by
  obtain ⟨effects, scope, -⟩ := interpretDocument_of_loaded session gives
  obtain ⟨same, silent⟩ := Scope.bindAll_of_bound known
  rw [silent, List.map_nil, List.append_nil] at effects
  exact ⟨effects, scope.trans same⟩

/-- What is read once the statements are submitted is read again. -/
theorem repeats_of_loaded {session : Session} {root : Fields} {statements : List String}
    (gives : Source.DataGives session.rules.catalog.formats (root.valueAt "data") statements)
    (actions : List Action) :
    let first := session.interpretDocument (.object root)
    let between := first.session.acting actions
    Repeats first between (between.interpretDocument (.object root)) := by
  intro first between
  obtain ⟨store, acted⟩ : ∃ store, between = { first.session with scope.store := store } :=
    first.session.acting_eq actions
  have rules : between.rules = session.rules := by
    rw [acted]
    rfl
  have names : between.scope.names = first.session.scope.names := by rw [acted]
  obtain ⟨-, scope, -⟩ := interpretDocument_of_loaded session gives
  have submitted : first.statements = statements := statements_interpretDocument gives
  -- the first reading has bound whatever the second one meets
  have known : ∀ ref ∈ (readDocument between.rules root : Reading (Document String)).references,
      ∃ handle, between.scope.handle? ref.name = some handle := by
    intro ref met
    rw [rules] at met
    rw [Scope.handle?, names, scope]
    exact Scope.bound_bindAll met session.scope
  have gives' : Source.DataGives between.rules.catalog.formats (root.valueAt "data")
      statements := by
    rw [rules]
    exact gives
  obtain ⟨effects', scope'⟩ := interpretDocument_of_bound gives' known
  constructor
  · exact outcome_of_names rules gives (by rw [scope', names])
  · rw [Answered.statements, effects', Effect.statements_submitted, submitted]
  · rw [effects', submitted]
  · exact scope'
  · exact names

theorem repeats_interpretDocument (session : Session) (root : Json) (actions : List Action) :
    let first := session.interpretDocument root
    let between := first.session.acting actions
    Repeats first between (between.interpretDocument root) := by
  cases root with
  | object fields =>
    cases loaded : Source.materializations session.rules.catalog.formats
        (Fields.valueAt fields "data") with
    | ok work => exact repeats_of_loaded (Source.dataGives_iff.2 ⟨work, loaded, rfl⟩) actions
    | error e =>
      have fails (context : Context) :
          (Interpreting.document session.rules session.engine (.object fields)).runIn context =
            (.error e, context) := by
        rw [Interpreting.runIn_document, loaded]
      exact repeats_of_failed fails actions
  | _ => exact repeats_of_failed (fun _ => rfl) actions

/-- A document is interpreted, the values of names are updated and subscribed to, and the document
is interpreted again: it answers the same, which is the same tree with the same cells in it or the
same error, submits the same statements and binds nothing. -/
theorem parse_again (session : Session) (actions : List Action) :
    (∀ root,
      let first := session.interpretDocument root
      let between := first.session.acting actions
      Repeats first between (between.interpretDocument root)) ∧
    ∀ text,
      let first := session.parse text
      let between := first.session.acting actions
      Repeats first between (between.parse text) := by
  refine ⟨fun root => repeats_interpretDocument session root actions, fun text => ?_⟩
  cases read : Json.read text with
  | ok root =>
    simp only [parse_of_read read]
    exact repeats_interpretDocument session root actions
  | error e =>
    have fails (session : Session) : session.parse text = ⟨.error (.notJson e), [], session⟩ := by
      rw [Session.parse, read]
    obtain ⟨store, acted⟩ := session.acting_eq actions
    simp only [fails, acted]
    exact ⟨rfl, rfl, rfl, rfl, rfl⟩

end Dashboard
