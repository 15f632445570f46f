import Dashboard.Proofs.Loading
import Dashboard.Proofs.Sections
/-!
# All statements of a data section or none

A data section with a fault in it submits nothing, and the first fault is the error. Otherwise each
entry gives a statement or is skipped, all statements are submitted in their order, whatever the
engine says to those before, and the report has what the engine said to each of them.
-/
namespace Dashboard

namespace Source
variable {formats : Table Format}

/-! ## Faults and statements -/

/-- The statements of entries that are in order. Each entry gives its own, or none. -/
inductive Fills (formats : Table Format) : Fields → List Materialization → Prop
  | nil : Fills formats [] []
  | skip {table : String} {entry : Json} {entries : Fields} {work : List Materialization} :
      Gives formats table entry none → Fills formats entries work →
      Fills formats ((table, entry) :: entries) work
  | fill {table statement : String} {entry : Json} {entries : Fields}
      {work : List Materialization} :
      Gives formats table entry (some statement) → Fills formats entries work →
      Fills formats ((table, entry) :: entries) (⟨table, statement⟩ :: work)

/-- The statements of a data section that is in order. -/
inductive DataFills (formats : Table Format) : Json → List Materialization → Prop
  | null : DataFills formats .null []
  | entries {entries : Fields} {work : List Materialization} :
      Fills formats entries work → DataFills formats (.object entries) work

theorem materializeSource?_eq_error {table : String} {source : Fields} {e : DocumentError} :
    materializeSource? formats table source = .error e ↔
      (formats.lookup (formatName source) = none ∧ .unknownFormat (.object source) = e) ∨
      ∃ format, formats.lookup (formatName source) = some format ∧
        format table source = .error e := by
  unfold materializeSource?
  cases formats.lookup (formatName source) with
  | none => simp
  | some format => cases taken : format table source <;> simp [Except.map, taken]

theorem refuses_iff {table : String} {entry : Json} {e : DocumentError} :
    Refuses formats table entry e ↔ materialize? formats table entry = .error e := by
  unfold materialize?
  constructor
  · intro refused
    cases refused with
    | shape noText noObject =>
      cases entry with
      | string query => exact absurd rfl (noText query)
      | object source => exact absurd rfl (noObject source)
      | _ => rfl
    | unknown describes named missing =>
      obtain rfl := hasFormat_iff.1 named
      rw [describes_iff.1 describes]
      exact materializeSource?_eq_error.2 (.inl ⟨missing, rfl⟩)
    | rejected describes named known rejects =>
      obtain rfl := hasFormat_iff.1 named
      rw [describes_iff.1 describes]
      exact materializeSource?_eq_error.2 (.inr ⟨_, known, rejects⟩)
  · intro refused
    cases normal : normalize entry with
    | error e' =>
      rw [normal] at refused
      cases refused
      cases entry with
      | string query => cases normal
      | object source => cases normal
      | _ =>
        cases normal
        exact .shape nofun nofun
    | ok source =>
      rw [normal] at refused
      obtain ⟨missing, rfl⟩ | ⟨format, known, rejects⟩ := materializeSource?_eq_error.1 refused
      · exact .unknown (describes_iff.2 normal) (hasFormat_iff.2 rfl) missing
      · exact .rejected (describes_iff.2 normal) (hasFormat_iff.2 rfl) known rejects

theorem isSource_or_refuses (formats : Table Format) (table : String) (entry : Json) :
    IsSource formats table entry ∨ ∃ e, Refuses formats table entry e := by
  cases outcome : materialize? formats table entry with
  | ok work =>
    obtain ⟨statement, gives, -⟩ := gives_of_materialize? outcome
    exact .inl ⟨statement, gives⟩
  | error e => exact .inr ⟨e, refuses_iff.2 outcome⟩

theorem Fills.materializeEntries {entries : Fields} {work : List Materialization}
    (h : Fills formats entries work) : materializeEntries formats entries = .ok work := by
  induction h with
  | nil => rfl
  | skip gives _ ih =>
    rw [Source.materializeEntries, gives.materialize?, ih]
    rfl
  | fill gives _ ih =>
    rw [Source.materializeEntries, gives.materialize?, ih]
    rfl

theorem materializeEntries_of_refused {before after : Fields} {table : String} {bad : Json}
    {e : DocumentError} (sound : ∀ entry ∈ before, IsSource formats entry.1 entry.2)
    (refused : Refuses formats table bad e) :
    materializeEntries formats (before ++ (table, bad) :: after) = .error e := by
  induction before with
  | nil =>
    rw [List.nil_append, materializeEntries, refuses_iff.1 refused]
    rfl
  | cons entry before ih =>
    obtain ⟨statement, gives⟩ := sound entry List.mem_cons_self
    have others := ih fun entry inside => sound entry (List.mem_cons_of_mem _ inside)
    rw [List.cons_append, materializeEntries, gives.materialize?, others]
    rfl

/-- Entries are in order or one of them is the first that is not. -/
theorem fills_or_fails (formats : Table Format) (entries : Fields) :
    (∃ work, Fills formats entries work) ∨ ∃ e, DataFails formats (.object entries) e := by
  induction entries with
  | nil => exact .inl ⟨[], .nil⟩
  | cons first entries ih =>
    obtain ⟨table, entry⟩ := first
    obtain ⟨statement, gives⟩ | ⟨e, refused⟩ := isSource_or_refuses formats table entry
    · obtain ⟨work, others⟩ | ⟨e, fails⟩ := ih
      · cases statement with
        | none => exact .inl ⟨work, .skip gives others⟩
        | some statement => exact .inl ⟨⟨table, statement⟩ :: work, .fill gives others⟩
      · refine .inr ⟨e, ?_⟩
        cases fails with
        | shape _ noObject => exact absurd rfl (noObject entries)
        | @entry before after _ bad _ sound refused =>
          have more : ∀ entry' ∈ (table, entry) :: before, IsSource formats entry'.1 entry'.2 :=
            List.forall_mem_cons.2 ⟨⟨statement, gives⟩, sound⟩
          exact .entry more refused
    · have none : ∀ entry' ∈ ([] : Fields), IsSource formats entry'.1 entry'.2 := nofun
      exact .inr ⟨e, .entry none refused⟩

theorem dataFills_or_dataFails (formats : Table Format) (data : Json) :
    (∃ work, DataFills formats data work) ∨ ∃ e, DataFails formats data e := by
  cases data with
  | null => exact .inl ⟨[], .null⟩
  | object entries =>
    obtain ⟨work, fills⟩ | fails := fills_or_fails formats entries
    · exact .inl ⟨work, .entries fills⟩
    · exact .inr fails
  | _ => exact .inr ⟨_, .shape nofun nofun⟩

theorem DataFills.materializations {data : Json} {work : List Materialization}
    (h : DataFills formats data work) : materializations formats data = .ok work := by
  cases h with
  | null => rfl
  | entries fills => exact fills.materializeEntries

theorem DataFails.materializations {data : Json} {e : DocumentError}
    (h : DataFails formats data e) : materializations formats data = .error e := by
  cases h with
  | shape notNull noObject =>
    cases data with
    | null => exact absurd rfl notNull
    | object entries => exact absurd rfl (noObject entries)
    | _ => rfl
  | entry sound refused => exact materializeEntries_of_refused sound refused

theorem dataFails_iff {data : Json} {e : DocumentError} :
    DataFails formats data e ↔ materializations formats data = .error e := by
  refine ⟨DataFails.materializations, fun failed => ?_⟩
  obtain ⟨work, fills⟩ | ⟨e', fails⟩ := dataFills_or_dataFails formats data
  · cases fills.materializations.symm.trans failed
  · cases fails.materializations.symm.trans failed
    exact fails

end Source

/-! ## Reports -/

namespace Engine

/-- What the engine says to the statement at place `i`, after those before it. -/
def verdict? (engine : Engine) (earlier : List String) (work : List Materialization) (i : Nat) :
    Option (List String) :=
  work[i]?.bind fun this => engine (earlier ++ (work.take i).map (·.statement)) this.statement

/-- A report on statements that were all submitted after the earlier ones. -/
structure Settles (engine : Engine) (earlier : List String) (work : List Materialization)
    (report : LoadReport) : Prop where
  listed : report.map (fun outcome => ⟨outcome.table, outcome.statement⟩) = work
  errors : ∀ i, report[i]?.bind (·.error) =
    (engine.verdict? earlier work i).map (": ".intercalate ·)
  failures : report.failures = (List.range work.length).filterMap fun i =>
    if (engine.verdict? earlier work i).isSome then report[i]? else none
  succeeded : report.allSucceeded = true ↔ ∀ i, engine.verdict? earlier work i = none

variable (engine : Engine) (earlier : List String)

theorem verdict?_zero (first : Materialization) (others : List Materialization) :
    engine.verdict? earlier (first :: others) 0 = engine earlier first.statement := by
  simp [verdict?]

theorem verdict?_succ (first : Materialization) (others : List Materialization) (i : Nat) :
    engine.verdict? earlier (first :: others) (i + 1) =
      engine.verdict? (earlier ++ [first.statement]) others i := by
  simp [verdict?]

theorem error_settleAll (work : List Materialization) (i : Nat) :
    (engine.settleAll earlier work)[i]?.bind (·.error) =
      (engine.verdict? earlier work i).map (": ".intercalate ·) := by
  induction work generalizing earlier i with
  | nil => rfl
  | cons first others ih =>
    cases i with
    | zero =>
      rw [verdict?_zero]
      rfl
    | succ i =>
      rw [verdict?_succ]
      exact ih _ i

theorem failures_settleAll (work : List Materialization) :
    LoadReport.failures (engine.settleAll earlier work) =
      (List.range work.length).filterMap fun i =>
        if (engine.verdict? earlier work i).isSome then (engine.settleAll earlier work)[i]?
        else none := by
  induction work generalizing earlier with
  | nil => rfl
  | cons first others ih =>
    have rest := ih (earlier ++ [first.statement])
    unfold LoadReport.failures at rest ⊢
    rw [List.length_cons, List.range_succ_eq_map, List.filterMap_cons, List.filterMap_map,
      verdict?_zero, settleAll, List.filter_cons, rest]
    simp only [Function.comp_def, verdict?_succ, List.getElem?_cons_succ]
    cases said : engine earlier first.statement <;> simp [settle, said]

theorem allSucceeded_settleAll (work : List Materialization) :
    LoadReport.allSucceeded (engine.settleAll earlier work) = true ↔
      ∀ i, engine.verdict? earlier work i = none := by
  have none_iff (i : Nat) : engine.verdict? earlier work i = none ↔
      ∀ outcome, (engine.settleAll earlier work)[i]? = some outcome → outcome.error = none := by
    rw [← Option.map_eq_none_iff, ← error_settleAll, Option.bind_eq_none_iff]
  simp only [none_iff]
  unfold LoadReport.allSucceeded LoadReport.failures
  rw [List.isEmpty_iff, List.filter_eq_nil_iff]
  constructor
  · intro sound i outcome here
    exact Option.not_isSome_iff_eq_none.1 (sound outcome (List.mem_of_getElem? here))
  · intro sound outcome inside
    obtain ⟨i, here⟩ := List.mem_iff_getElem?.1 inside
    exact Option.not_isSome_iff_eq_none.2 (sound i outcome here)

theorem settles_settleAll (work : List Materialization) :
    engine.Settles earlier work (engine.settleAll earlier work) where
  listed := by
    induction work generalizing earlier with
    | nil => rfl
    | cons first others ih => exact congrArg (first :: ·) (ih _)
  errors := engine.error_settleAll earlier work
  failures := engine.failures_settleAll earlier work
  succeeded := engine.allSucceeded_settleAll earlier work

end Engine

/-- Loading is all or nothing up to the first statement, and after that every statement is
submitted. A data section has a first fault or statements. With a fault nothing is done and the
fault is the error; otherwise exactly these statements are submitted, in their order, and the report
has what the engine said to each of them. -/
theorem loads_all_or_nothing (session : Session) (data : Json) :
    let formats := session.rules.catalog.formats
    let answered := session.loadData data
    ((∃ work, Source.DataFills formats data work) ∨ ∃ e, Source.DataFails formats data e) ∧
    (∀ e, Source.DataFails formats data e → answered = ⟨.error e, [], session⟩) ∧
    ∀ work, Source.DataFills formats data work →
      answered.effects = (work.map (·.statement)).map .submitted ∧
      answered.session.scope = session.scope ∧
      ∃ report, answered.outcome = .ok report ∧
        session.engine.Settles session.statements work report := by
  intro formats answered
  refine ⟨Source.dataFills_or_dataFails formats data, fun e fails => ?_, fun work fills => ?_⟩
  · exact Session.loadData_of_faulty fails.materializations
  · have done : answered = _ := Session.loadData_of_sound fills.materializations
    rw [done]
    exact ⟨rfl, Context.scope_submitAll _ _, _, rfl, session.engine.settles_settleAll _ work⟩

end Dashboard
