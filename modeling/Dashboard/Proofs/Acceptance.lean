import Dashboard.Proofs.Along
import Dashboard.Proofs.FirstFaults
import Dashboard.Proofs.Following
import Dashboard.Proofs.Settling
/-!
# Acceptance

A document is accepted exactly if it is in the grammar, and an error is its first fault.
-/
namespace Dashboard

/-! ## Outcomes -/

/-- An outcome reports the first fault, if there is one. -/
def Reports {α : Type} (visits : List Visit) (outcome : Except DocumentError α) : Prop :=
  match outcome with
  | .ok _ => Visit.Faultless visits
  | .error e => ∃ before rest, visits = before ++ .fault e :: rest ∧ Visit.Faultless before

section Reports
variable {α β : Type} {visits more : List Visit}

theorem Reports.append_of_error {e : DocumentError} (h : Reports visits (.error e : Except _ α)) :
    Reports (visits ++ more) (.error e : Except _ β) := by
  obtain ⟨before, rest, rfl, sound⟩ := h
  exact ⟨before, rest ++ more, by rw [List.append_assoc, List.cons_append], sound⟩

theorem Reports.append {outcome : Except DocumentError α} (sound : Visit.Faultless visits)
    (h : Reports more outcome) : Reports (visits ++ more) outcome := by
  cases outcome with
  | ok a => exact Visit.faultless_append.2 ⟨sound, h⟩
  | error e =>
    obtain ⟨before, rest, rfl, sound'⟩ := h
    exact ⟨visits ++ before, rest, (List.append_assoc _ _ _).symm,
      Visit.faultless_append.2 ⟨sound, sound'⟩⟩

theorem Reports.error_iff {outcome : Except DocumentError α} (h : Reports visits outcome)
    (e : DocumentError) : outcome = .error e ↔ Visit.FirstFault visits e := by
  cases outcome with
  | ok a => exact iff_of_false nofun (Visit.Faultless.not_firstFault h e)
  | error first =>
    obtain ⟨before, rest, rfl, sound⟩ := h
    have found : Visit.FirstFault (before ++ .fault first :: rest) first :=
      Visit.firstFault_append.2 (.inr ⟨sound, rfl⟩)
    exact ⟨fun same => Except.error.inj same ▸ found,
      fun same => congrArg Except.error (Option.some.inj (found.symm.trans same))⟩

theorem Reports.ok_iff {outcome : Except DocumentError α} (h : Reports visits outcome) :
    (∃ a, outcome = .ok a) ↔ Visit.Faultless visits := by
  cases outcome with
  | ok a => exact iff_of_true ⟨a, rfl⟩ h
  | error first =>
    obtain ⟨before, rest, rfl, -⟩ := h
    refine iff_of_false nofun fun sound => ?_
    cases sound (.fault first) (List.mem_append_right before List.mem_cons_self)

theorem Along.reports {x : Reading α} (h : Along visits x) : Reports visits x.outcome := by
  obtain ⟨refs, _ | a⟩ := x
  · obtain ⟨rest, rfl⟩ := h
    exact ⟨_, rest, rfl, Visit.faultless_references refs⟩
  · obtain rfl : visits = refs.map .reference := h
    exact Visit.faultless_references refs

theorem SameOutcome.reports {p : β → Prop} {x : Except DocumentError α}
    {y : Except DocumentError β} (same : SameOutcome p x y) (h : Reports visits x) :
    Reports visits y := by
  cases same with
  | ok _ _ => exact h
  | error e => exact h

end Reports

/-! ## Sections -/

theorem reports_materialize (formats : Table Format) (entry : String × Json) :
    Reports (Visit.ofSource formats entry) (Source.materialize? formats entry.1 entry.2) := by
  unfold Visit.ofSource Source.materialize?
  cases Source.normalize entry.2 with
  | error e => exact ⟨[], [], rfl, Visit.faultless_nil⟩
  | ok source =>
    dsimp only [bind, Except.bind]
    unfold Visit.ofFormat Source.materializeSource?
    cases formats.lookup (Source.formatName source) with
    | none => exact ⟨[], [], rfl, Visit.faultless_nil⟩
    | some format =>
      dsimp only
      cases format entry.1 source with
      | error e => exact ⟨[], [], rfl, Visit.faultless_nil⟩
      | ok statement => exact Visit.faultless_nil

theorem faultless_ofSource {formats : Table Format} {entry : String × Json} :
    Visit.Faultless (Visit.ofSource formats entry) ↔ IsSource formats entry.1 entry.2 := by
  rw [← (reports_materialize formats entry).ok_iff]
  constructor
  · intro done
    rcases done with ⟨work, done⟩
    rcases Source.gives_of_materialize? done with ⟨statement, gives, -⟩
    exact ⟨statement, gives⟩
  · intro ok
    rcases ok with ⟨statement, gives⟩
    exact ⟨_, gives.materialize?⟩

theorem faultless_ofParam {params : Table (Json → Live)} (plain : "value" ∈ params.names)
    {entry : String × Json} :
    Visit.Faultless (Visit.ofParam params entry) ↔ IsParam params entry.2 := by
  have reports := (along_readParam params entry).reports
  rw [← reports.ok_iff, isParam_iff_defines plain]
  by_cases known : ∃ ref, Defines params entry ref
  · rcases known with ⟨ref, defines⟩
    rw [readParam_of_defines defines]
    exact iff_of_true ⟨(), rfl⟩ ⟨ref, defines⟩
  · rw [readParam_of_not_defines (not_exists.1 known)]
    exact iff_of_false nofun known

theorem faultless_ofSection {key : String} {visits : String × Json → List Visit}
    {isEntry : String × Json → Prop}
    (each : ∀ entry, Visit.Faultless (visits entry) ↔ isEntry entry) {value : Json} :
    Visit.Faultless (Visit.ofSection key visits value) ↔ IsSection isEntry value := by
  unfold Visit.ofSection
  cases value with
  | null => exact iff_of_true Visit.faultless_nil .null
  | object entries =>
    rw [Visit.faultless_flatMap]
    constructor
    · intro all
      exact .entries fun entry inside => (each entry).1 (all entry inside)
    · intro ok entry inside
      cases ok with
      | entries all => exact (each entry).2 (all entry inside)
  | _ => exact iff_of_false (Visit.faultless_fault _) nofun

theorem faultless_ofData {formats : Table Format} {data : Json} :
    Visit.Faultless (Visit.ofData formats data) ↔
      IsSection (fun entry => IsSource formats entry.1 entry.2) data :=
  faultless_ofSection fun _ => faultless_ofSource

theorem faultless_ofParams {params : Table (Json → Live)} (plain : "value" ∈ params.names)
    {value : Json} :
    Visit.Faultless (Visit.ofParams params value) ↔
      IsSection (fun entry => IsParam params entry.2) value :=
  faultless_ofSection fun _ => faultless_ofParam plain

/-- Each entry of the params section is a reference or a fault. -/
theorem firstFault_ofParam {params : Table (Json → Live)} (plain : "value" ∈ params.names)
    {entry : String × Json} {e : DocumentError} :
    Visit.FirstFault (Visit.ofParam params entry) e ↔
      ¬ IsParam params entry.2 ∧ .unknownParamType entry.2 = e := by
  rw [← faultless_ofParam plain]
  unfold Visit.ofParam
  dsimp only
  split
  · rw [Visit.firstFault_fault, and_iff_right (Visit.faultless_fault _)]
  · next ref _ =>
    have sound := Visit.faultless_reference ⟨entry.1, ref (paramDefinition entry.2).2⟩
    exact iff_of_false (sound.not_firstFault e) fun faulty => faulty.1 sound

theorem firstFault_ofParams {params : Table (Json → Live)} (plain : "value" ∈ params.names)
    {value : Json} {e : DocumentError} :
    Visit.FirstFault (Visit.ofParams params value) e ↔ ParamsFault params value e := by
  unfold Visit.ofParams Visit.ofSection
  cases value with
  | null =>
    refine iff_of_false (Visit.faultless_nil.not_firstFault e) fun fails => ?_
    cases fails with
    | shape notNull _ => exact notNull rfl
  | object entries =>
    simp only [Visit.firstFault_flatMap, faultless_ofParam plain, firstFault_ofParam plain]
    constructor
    · rintro ⟨before, bad, after, rfl, sound, faulty, rfl⟩
      exact .entry sound faulty
    · intro fails
      cases fails with
      | shape _ notObject => exact absurd rfl (notObject entries)
      | entry sound faulty => exact ⟨_, _, _, rfl, sound, faulty, rfl⟩
  | _ =>
    rw [Visit.firstFault_fault]
    constructor
    · rintro rfl
      exact .shape nofun nofun
    · intro fails
      cases fails
      rfl

/-! ## Documents -/

/-- What reading takes for the layout of a document. -/
theorem layoutOf_eq (root : Fields) :
    layoutOf root = .object (root.filter fun field => field.1 ∉ ["data", "params", "meta"]) := by
  refine congrArg Json.object (List.filter_congr fun field _ => ?_)
  simp [documentKeys]

theorem faultless_ofDocument {rules : Rules} (plain : "value" ∈ rules.catalog.params.names)
    {root : Json} : Visit.Faultless (Visit.ofDocument rules root) ↔ IsDocument rules root := by
  unfold Visit.ofDocument
  cases root with
  | object fields =>
    dsimp only
    rw [Visit.faultless_append, Visit.faultless_append, faultless_ofData, faultless_ofParams plain,
      faultless_ofNode, layoutOf_eq]
    constructor
    · intro all
      rcases all with ⟨data, params, layout⟩
      exact .mk data params layout
    · intro ok
      cases ok with
      | mk data params layout => exact ⟨data, params, layout⟩
  | _ => exact iff_of_false (Visit.faultless_fault _) nofun

theorem reports_materializations (formats : Table Format) (data : Json) :
    Reports (Visit.ofData formats data) (Source.materializations formats data) := by
  unfold Visit.ofData Visit.ofSection Source.materializations
  cases data with
  | null => exact Visit.faultless_nil
  | object entries =>
    dsimp only
    -- an error in an entry hides those of later entries
    induction entries with
    | nil => exact Visit.faultless_nil
    | cons entry entries ih =>
      have first := reports_materialize formats entry
      rw [List.flatMap_cons, Source.materializeEntries]
      cases found : Source.materialize? formats entry.1 entry.2 with
      | error e =>
        rw [found] at first
        exact first.append_of_error
      | ok statement =>
        rw [found] at first
        dsimp only [bind, Except.bind]
        cases others : Source.materializeEntries formats entries with
        | error e =>
          rw [others] at ih
          exact ih.append first
        | ok work =>
          rw [others] at ih
          exact Visit.faultless_append.2 ⟨first, ih⟩
  | _ => exact ⟨[], [], rfl, Visit.faultless_nil⟩

theorem reports_document (rules : Rules) (engine : Engine) (root : Json) (context : Context) :
    Reports (Visit.ofDocument rules root)
      ((Interpreting.document rules engine root).runIn context).1 := by
  cases root with
  | object fields =>
    have data := reports_materializations rules.catalog.formats (Fields.valueAt fields "data")
    rw [Interpreting.runIn_document]
    cases loaded : Source.materializations rules.catalog.formats
        (Fields.valueAt fields "data") with
    | error e =>
      rw [loaded] at data
      exact data.append_of_error
    | ok work =>
      rw [loaded] at data
      refine Reports.append data ?_
      exact (follows_readDocument rules fields).outcome.reports
        (along_readDocument rules fields).reports
  | _ => exact ⟨[], [], rfl, Visit.faultless_nil⟩

theorem firstFault_ofData {formats : Table Format} {data : Json} {e : DocumentError} :
    Visit.FirstFault (Visit.ofData formats data) e ↔ Source.DataFails formats data e := by
  rw [← (reports_materializations formats data).error_iff, Source.dataFails_iff]

/-- The traversal of a document meets its first fault first. -/
theorem firstFault_ofDocument {rules : Rules} (plain : "value" ∈ rules.catalog.params.names)
    {root : Json} {e : DocumentError} :
    Visit.FirstFault (Visit.ofDocument rules root) e ↔ DocumentFails rules root e := by
  unfold Visit.ofDocument
  cases root with
  | object fields =>
    dsimp only
    rw [Visit.firstFault_append, Visit.firstFault_append, firstFault_ofData, faultless_ofData,
      firstFault_ofParams plain, faultless_ofParams plain, firstFault_ofNode, layoutOf_eq]
    constructor
    · rintro (fails | ⟨data, fails | ⟨params, fails⟩⟩)
      · exact .data fails
      · exact .params data fails
      · exact .layout data params fails
    · intro fails
      cases fails with
      | shape notObject => exact absurd rfl (notObject fields)
      | data fails => exact .inl fails
      | params data fails => exact .inr ⟨data, .inl fails⟩
      | layout data params fails => exact .inr ⟨data, .inr ⟨params, fails⟩⟩
  | _ =>
    rw [Visit.firstFault_fault]
    constructor
    · rintro rfl
      exact .shape nofun
    · intro fails
      cases fails
      rfl

/-- A document is accepted exactly if it is in the grammar, and otherwise the error is its first
fault; whatever was registered, and whatever the scope is. -/
theorem accepted_iff_isDocument (registrations : List Registration) (strict : Bool)
    (engine : Engine) (context : Context) (documents : List (Document Handle)) (root : Json) :
    let rules : Rules := { catalog := Standard.catalog.registerAll registrations, strict }
    let session : Session := { toContext := context, rules, engine, documents }
    rules.catalog.directives = DirectiveKind.all ∧
    ((∃ document, (session.interpretDocument root).outcome = .ok document) ↔
      IsDocument rules root) ∧
    ∀ e, (session.interpretDocument root).outcome = .error e ↔ DocumentFails rules root e := by
  intro rules session
  have plain : "value" ∈ rules.catalog.params.names :=
    Catalog.params_registerAll List.mem_cons_self registrations
  have reports : Reports (Visit.ofDocument rules root) (session.interpretDocument root).outcome :=
    reports_document rules engine root context
  exact ⟨Standard.catalog.directives_registerAll registrations,
    reports.ok_iff.trans (faultless_ofDocument plain),
    fun e => (reports.error_iff e).trans (firstFault_ofDocument plain)⟩

end Dashboard
