import Dashboard.Proofs.FirstReference
import Dashboard.Proofs.Loading
import Dashboard.Proofs.Sections
/-!
# What a parse leaves behind

A parse has three phases: it submits the statements of the data section, binds what the params
section defines, and binds what the layout refers to. A parse that fails has done what comes before
the fault.
-/
namespace Dashboard

/-! ## Whole documents -/

/-- A document whose data section is in order is read with its statements submitted. -/
theorem interpretDocument_of_loaded (session : Session) {root : Fields} {statements : List String}
    (gives : Source.DataGives session.rules.catalog.formats (root.valueAt "data") statements) :
    let answered := session.interpretDocument (.object root)
    let reading : Reading (Document String) := readDocument session.rules root
    answered.effects = statements.map .submitted ++
        (session.scope.newNames reading.references).map .bound ∧
      answered.session.scope = session.scope.bindAll reading.references ∧
      SameOutcome (fun _ => True) reading.outcome answered.outcome := by
  intro answered reading
  obtain ⟨work, done, rfl⟩ := Source.dataGives_iff.1 gives
  generalize statements_eq : work.map (·.statement) = statements
  have follows : Follows (session.toContext.submitAll statements) _ reading _ :=
    follows_readDocument session.rules root
  have run := Interpreting.runIn_document session.rules session.engine root session.toContext
  simp only [done, statements_eq] at run
  rw [Context.submitAll_eq] at run follows
  refine ⟨(session.effects_interpretDocument _).trans ?_,
    (congrArg Context.scope (session.context_interpretDocument _)).trans ?_, ?_⟩
  · rw [run, follows.after, Context.journal_bindAll, List.append_assoc, List.drop_left]
  · rw [run, follows.scope]
  · show SameOutcome _ _ (session.interpretDocument (.object root)).outcome
    rw [session.outcome_interpretDocument, run]
    exact follows.outcome.imp fun _ _ => trivial

theorem statements_interpretDocument {session : Session} {root : Fields}
    {statements : List String}
    (gives : Source.DataGives session.rules.catalog.formats (root.valueAt "data") statements) :
    (session.interpretDocument (.object root)).statements = statements := by
  obtain ⟨effects, -, -⟩ := interpretDocument_of_loaded session gives
  rw [Answered.statements, effects, List.filterMap_append, Effect.statements_submitted,
    Effect.statements_bound, List.append_nil]

theorem interpretDocument_of_failed {session : Session} {root : Json} {e : DocumentError}
    (fails : (Interpreting.document session.rules session.engine root).runIn session.toContext =
      (.error e, session.toContext)) :
    session.interpretDocument root = ⟨.error e, [], session⟩ := by
  unfold Session.interpretDocument Session.run
  rw [fails]
  simp [Except.toOption]

/-- Nothing is done unless there is an object with a data section that is in order. -/
theorem parse_of_faulty_data {session : Session} {text : String}
    (faulty : ∀ (root : Fields) statements, Json.read text = .ok (.object root) →
      ¬ Source.DataGives session.rules.catalog.formats (root.valueAt "data") statements) :
    ∃ e, session.parse text = ⟨.error e, [], session⟩ := by
  unfold Session.parse
  cases read : Json.read text with
  | error e => exact ⟨.notJson e, rfl⟩
  | ok root =>
    cases root with
    | object fields =>
      cases loaded : Source.materializations session.rules.catalog.formats
          (Fields.valueAt fields "data") with
      | ok work => exact absurd (Source.dataGives_iff.2 ⟨work, loaded, rfl⟩) (faulty fields _ read)
      | error e =>
        refine ⟨e, interpretDocument_of_failed ?_⟩
        rw [Interpreting.runIn_document, loaded]
    | _ => exact ⟨_, interpretDocument_of_failed rfl⟩

theorem parse_of_read {session : Session} {text : String} {root : Json}
    (read : Json.read text = .ok root) : session.parse text = session.interpretDocument root := by
  rw [Session.parse, read]

/-- A document whose params section is in order is read by reading its layout. -/
theorem readDocument_of_define {rules : Rules} {root : Fields} {declared : List Reference}
    (define : ParamsDefine rules.catalog.params (root.valueAt "params") declared) :
    ∃ layout : Reading (Document String), Along (Visit.ofNode rules (layoutOf root)) layout ∧
      readDocument rules root =
        (⟨declared ++ layout.references, layout.outcome⟩ : Reading (Document String)) := by
  refine ⟨_, along_map (along_readNode rules (layoutOf root)) (⟨root.lookup "meta", ·⟩), ?_⟩
  rw [readDocument, readParams_of_define define, Reading.bind_ok]
  rfl

theorem readDocument_of_fail {rules : Rules} {root : Fields} {declared : List Reference}
    (fails : ParamsFail rules.catalog.params (root.valueAt "params") declared) :
    ∃ e, readDocument rules root = (⟨declared, .error e⟩ : Reading (Document String)) := by
  obtain ⟨e, stops⟩ := readParams_of_fail fails
  exact ⟨e, by rw [readDocument, stops, Reading.bind_error]⟩

/-- What a parse leaves behind. If the text is not JSON, the root is no object or there is an error
in the data section, nothing was done. If there is an error in the params section, the statements
were submitted, and what stands before the first faulty entry is bound. Otherwise all that the
section defines is bound, and then what the layout refers to, up to the fault. -/
theorem parse_leaves (session : Session) (text : String) :
    let answered := session.parse text
    let catalog := session.rules.catalog
    ((∀ (root : Fields) statements, Json.read text = .ok (.object root) →
        ¬ Source.DataGives catalog.formats (root.valueAt "data") statements) →
      (∃ e, answered.outcome = .error e) ∧ answered.effects = [] ∧ answered.session = session) ∧
    ∀ (root : Fields) statements, Json.read text = .ok (.object root) →
      Source.DataGives catalog.formats (root.valueAt "data") statements →
      (∀ declared, ParamsFail catalog.params (root.valueAt "params") declared →
        (∃ e, answered.outcome = .error e) ∧
        answered.effects = statements.map .submitted ++
          (session.scope.newNames declared).map .bound ∧
        FirstReferenceWins session.scope declared answered.session.scope) ∧
      (∀ declared, ParamsDefine catalog.params (root.valueAt "params") declared →
        ∃ met, met <+: references session.rules (layoutOf root) ∧
          (∀ document, answered.outcome = .ok document →
            met = references session.rules (layoutOf root)) ∧
          answered.effects = statements.map .submitted ++
            ((session.scope.newNames declared).map .bound ++
              ((session.scope.bindAll declared).newNames met).map .bound) ∧
          FirstReferenceWins session.scope (declared ++ met) answered.session.scope) ∧
      ∃ declared, ParamsDefine catalog.params (root.valueAt "params") declared ∨
        ParamsFail catalog.params (root.valueAt "params") declared := by
  intro answered catalog
  refine ⟨fun faulty => ?_, fun root statements read gives => ?_⟩
  · obtain ⟨e, same⟩ := parse_of_faulty_data faulty
    have same : answered = ⟨.error e, [], session⟩ := same
    rw [same]
    exact ⟨⟨e, rfl⟩, rfl, rfl⟩
  · obtain ⟨effects, scope, same⟩ := interpretDocument_of_loaded session gives
    rw [← parse_of_read read] at effects scope same
    refine ⟨fun declared fails => ?_, fun declared define => ?_, paramsDefine_or_paramsFail _⟩
    · obtain ⟨e, reads⟩ := readDocument_of_fail fails
      rw [reads] at effects scope same
      exact ⟨⟨e, (same.error_iff e).1 rfl⟩, effects,
        scope ▸ firstReferenceWins_bindAll session.scope declared⟩
    · obtain ⟨layout, along, reads⟩ := readDocument_of_define define
      rw [reads] at effects scope same
      refine ⟨layout.references, along.isPrefix, fun document done => ?_, ?_,
        scope ▸ firstReferenceWins_bindAll session.scope _⟩
      · obtain ⟨tree, whole⟩ := same.ok_iff.2 ⟨document, done⟩
        exact along.references_eq whole
      · rw [← List.map_append, ← Scope.newNames_append]
        exact effects

end Dashboard
