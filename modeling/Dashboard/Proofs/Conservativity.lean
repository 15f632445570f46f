import Dashboard.Proofs.Registering
/-!
# More names change nothing but refusals

A document that is accepted, or refused for another reason than an unknown name, is treated in the
same way when the catalog is given more names. One that is refused for an unknown name gets at
least as far.
-/
namespace Dashboard

/-! ## The data section -/

namespace Source
variable {narrow wide : Table Format} (more : narrow.IncludedIn wide)
include more

theorem materialize?_of_included (table : String) (entry : Json) :
    materialize? wide table entry = materialize? narrow table entry ∨
      ∃ e, e.isUnknownName = true ∧ materialize? narrow table entry = .error e := by
  unfold materialize?
  cases normalize entry with
  | error e => exact .inl rfl
  | ok source =>
    show materializeSource? wide table source = materializeSource? narrow table source ∨
      ∃ e, e.isUnknownName = true ∧ materializeSource? narrow table source = .error e
    unfold materializeSource?
    cases known : narrow.lookup (formatName source) with
    | none => exact .inr ⟨.unknownFormat (.object source), rfl, rfl⟩
    | some format =>
      rw [more _ _ known]
      exact .inl rfl

theorem materializeEntries_of_included (entries : Fields) :
    materializeEntries wide entries = materializeEntries narrow entries ∨
      ∃ e, e.isUnknownName = true ∧ materializeEntries narrow entries = .error e := by
  induction entries with
  | nil => exact .inl rfl
  | cons entry entries ih =>
    rw [materializeEntries, materializeEntries]
    obtain first | ⟨e, unknown, fails⟩ := materialize?_of_included more entry.1 entry.2
    · rw [first]
      cases materialize? narrow entry.1 entry.2 with
      | error e => exact .inl rfl
      | ok work =>
        obtain others | ⟨e, unknown, fails⟩ := ih
        · rw [others]
          exact .inl rfl
        · rw [fails]
          exact .inr ⟨e, unknown, rfl⟩
    · rw [fails]
      exact .inr ⟨e, unknown, rfl⟩

theorem materializations_of_included (data : Json) :
    materializations wide data = materializations narrow data ∨
      ∃ e, e.isUnknownName = true ∧ materializations narrow data = .error e := by
  cases data with
  | object entries => exact materializeEntries_of_included more entries
  | _ => exact .inl rfl

end Source

/-! ## Documents -/

/-- What the second context was made of adds to what the first one was made of. -/
structure Context.Precedes (before after : Context) : Prop where
  journal : before.journal <+: after.journal
  scope : before.scope.Extends after.scope

theorem Context.Precedes.refl (context : Context) : context.Precedes context :=
  ⟨List.prefix_rfl, .refl _⟩

theorem Context.Precedes.trans {a b c : Context} (h : a.Precedes b) (k : b.Precedes c) :
    a.Precedes c :=
  ⟨h.journal.trans k.journal, h.scope.trans k.scope⟩

theorem Context.precedes_bindAll (context : Context) (refs : List Reference) :
    context.Precedes (context.bindAll refs) := by
  refine ⟨?_, context.extends_bindAll refs⟩
  rw [journal_bindAll]
  exact List.prefix_append _ _

theorem Context.precedes_submitAll (context : Context) (statements : List String) :
    context.Precedes (context.submitAll statements) := by
  rw [submitAll_eq]
  exact ⟨List.prefix_append _ _, .refl _⟩

/-- The larger catalog makes the same of a document, or the smaller one stops at an unknown name
and the larger one has done that much, too. -/
theorem runIn_document_of_included {narrow wide : Rules}
    (more : narrow.catalog.IncludedIn wide.catalog) (strict : wide.strict = narrow.strict)
    (engine : Engine) (root : Json) (context : Context) :
    let first := (Interpreting.document narrow engine root).runIn context
    let second := (Interpreting.document wide engine root).runIn context
    second = first ∨
      ∃ e, e.isUnknownName = true ∧ first.1 = .error e ∧ first.2.Precedes second.2 := by
  cases root with
  | object fields =>
    dsimp only
    rw [Interpreting.runIn_document, Interpreting.runIn_document]
    have further := goesFurther_readDocument more strict fields
    obtain same | ⟨e, unknown, fails⟩ :=
      Source.materializations_of_included more.formats (Fields.valueAt fields "data")
    · rw [same]
      cases Source.materializations narrow.catalog.formats (Fields.valueAt fields "data") with
      | error e => exact .inl rfl
      | ok work =>
        obtain same | ⟨e, stopped, refs, unknown, stops, behind⟩ :=
          further.run (context.submitAll (work.map (·.statement)))
        · exact .inl same
        · refine .inr ⟨e, unknown, ?_⟩
          dsimp only
          rw [stops, behind]
          exact ⟨rfl, stopped.precedes_bindAll refs⟩
    · -- nothing was submitted, so whatever is done with more formats comes on top
      refine .inr ⟨e, unknown, ?_⟩
      rw [fails]
      refine ⟨rfl, ?_⟩
      cases Source.materializations wide.catalog.formats (Fields.valueAt fields "data") with
      | error e' => exact .refl context
      | ok work =>
        obtain ⟨refs, behind⟩ := further.binds (context.submitAll (work.map (·.statement)))
        dsimp only
        rw [behind]
        exact (context.precedes_submitAll _).trans (Context.precedes_bindAll _ refs)
  | _ => exact .inl rfl

/-- A session whose catalog has more names. -/
def Session.registering (session : Session) (registrations : List Registration) : Session :=
  { session with
    rules := { session.rules with catalog := session.rules.catalog.registerAll registrations } }

/-- What a call answers with more names, compared with what it answers with fewer. Nothing differs
unless the call with fewer names fails at an unknown one. If it does, what it did was done with
more names as well. -/
structure Answered.ConservedBy {α : Type} (narrow wide : Answered α) : Prop where
  kept : (∀ e, narrow.outcome = .error e → e.isUnknownName = false) →
    wide.outcome = narrow.outcome ∧ wide.statements = narrow.statements ∧
      wide.session.scope = narrow.session.scope
  grown : ∀ e, narrow.outcome = .error e → e.isUnknownName = true →
    narrow.statements <+: wide.statements ∧
      narrow.session.scope.Extends wide.session.scope

theorem conservedBy_interpretDocument {session : Session} {registrations : List Registration}
    (new : ∀ registration ∈ registrations, registration.IsNew session.rules.catalog)
    (root : Json) :
    (session.interpretDocument root).ConservedBy
      ((session.registering registrations).interpretDocument root) := by
  let wide := session.registering registrations
  have more : session.rules.catalog.IncludedIn wide.rules.catalog :=
    (Catalog.IncludedIn.refl _).registerAll new
  have runs := runIn_document_of_included more rfl session.engine root session.toContext
  obtain same | ⟨e, unknown, fails, behind⟩ := runs
  · have outcome : (wide.interpretDocument root).outcome =
        (session.interpretDocument root).outcome := congrArg Prod.fst same
    have scope : (wide.interpretDocument root).session.scope =
        (session.interpretDocument root).session.scope := congrArg (·.2.scope) same
    have effects : (wide.interpretDocument root).effects =
        (session.interpretDocument root).effects :=
      congrArg (·.2.journal.drop session.journal.length) same
    have statements : (wide.interpretDocument root).statements =
        (session.interpretDocument root).statements :=
      congrArg (List.filterMap Effect.statement?) effects
    refine ⟨fun _ => ⟨outcome, statements, scope⟩, fun _ _ _ => ?_⟩
    rw [statements, scope]
    exact ⟨List.prefix_rfl, .refl _⟩
  · refine ⟨fun known => ?_, fun _ _ _ => ⟨?_, behind.scope⟩⟩
    · exact absurd (known e fails) (by rw [unknown]; exact nofun)
    · obtain ⟨added, whole⟩ := behind.journal
      have effects : ∃ more, (wide.interpretDocument root).effects =
          (session.interpretDocument root).effects ++ more :=
        ⟨_, (congrArg (List.drop session.journal.length) whole.symm).trans List.drop_append⟩
      obtain ⟨more, effects⟩ := effects
      rw [Answered.statements, Answered.statements, effects, List.filterMap_append]
      exact List.prefix_append _ _

/-- New names in a catalog are conservative. A document that is accepted without them, or refused
for another reason than an unknown name, gives the same outcome, the same statements and the same
scope with them. If it is refused for an unknown name, the statements submitted are the first ones
of those submitted with the new names, and what was bound is bound to the same with them. -/
theorem registering_conservative (session : Session) {registrations : List Registration}
    (new : ∀ registration ∈ registrations, registration.IsNew session.rules.catalog) :
    let wide := session.registering registrations
    (∀ root, (session.interpretDocument root).ConservedBy (wide.interpretDocument root)) ∧
    ∀ text, (session.parse text).ConservedBy (wide.parse text) := by
  intro wide
  refine ⟨conservedBy_interpretDocument new, fun text => ?_⟩
  unfold Session.parse
  cases Json.read text with
  | ok root => exact conservedBy_interpretDocument new root
  | error e =>
    refine ⟨fun _ => ⟨rfl, rfl, rfl⟩, fun _ failed unknown => ?_⟩
    cases failed
    cases unknown

/-- A mark of a new type. Without it the params section is bound, and then the mark is refused; the
width of the plot is bound with and without it. -/
theorem registering_conservative_of_mark :
    let session : Session := { rules := { catalog := Standard.catalog } }
    let registration : Registration := .mark "blob" "blob"
    let wide := session.registering [registration]
    let plot (mark : String) : Json := .object
      [("params", .object [("x", .string "one")]),
        ("plot", .array [.object [("mark", .string mark)]]), ("width", .string "$w")]
    registration.IsNew Standard.catalog ∧
      (session.interpretDocument (plot "blob")).outcome =
        .error (.unknownMark (.object [("mark", .string "blob")])) ∧
      (session.interpretDocument (plot "blob")).session.scope.Extends
        (wide.interpretDocument (plot "blob")).session.scope ∧
      (wide.interpretDocument (plot "dot")).outcome =
        (session.interpretDocument (plot "dot")).outcome := by
  intro session registration wide plot
  have new : registration.IsNew Standard.catalog := by
    show "blob" ∉ Standard.catalog.marks.names
    decide
  have conserved := (registering_conservative session
    (List.forall_mem_singleton.2 new)).1
  have refused : (session.interpretDocument (plot "blob")).outcome =
      .error (.unknownMark (.object [("mark", .string "blob")])) := by
    rw [Session.outcome_interpretDocument, Interpreting.runIn_document]
    show (Interpreting.runIn (readDocument session.rules _) session.toContext).1 = _
    rw [readDocument, layoutOf, readNode_object]
    rfl
  have accepted : ∃ document, (session.interpretDocument (plot "dot")).outcome = .ok document := by
    rw [Session.outcome_interpretDocument, Interpreting.runIn_document]
    show ∃ document, (Interpreting.runIn (readDocument session.rules _) session.toContext).1 = _
    rw [readDocument, layoutOf, readNode_object]
    exact ⟨_, rfl⟩
  refine ⟨new, refused, ((conserved _).grown _ refused rfl).2, ((conserved _).kept ?_).1⟩
  intro e failed
  obtain ⟨document, accepted⟩ := accepted
  rw [accepted] at failed
  cases failed

end Dashboard
