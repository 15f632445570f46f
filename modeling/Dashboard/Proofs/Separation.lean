import Dashboard.Proofs.Reordering
import Dashboard.Proofs.Repetition
/-!
# Loading and interpreting keep apart

What an engine says to a statement ends up in a report, and nobody looks at the report of a
document. So the engine makes no difference to an interpretation. In the other direction, the
statements are decided by the data section and the formats before anything else is read, and what
is read after them is read as if there were no data.
-/
namespace Dashboard

/-! ## From loading to interpreting -/

/-- An engine only decides what a report says. -/
theorem Interpreting.runIn_document_engine (rules : Rules) (engine engine' : Engine) (root : Json)
    (context : Context) :
    (document rules engine root).runIn context = (document rules engine' root).runIn context := by
  cases root with
  | object fields => rw [runIn_document, runIn_document]
  | _ => rfl

namespace Session
variable (session : Session) (engine : Engine)

theorem interpretDocument_engine (root : Json) :
    { session with engine }.interpretDocument root =
      let answered := session.interpretDocument root
      { answered with session := { answered.session with engine } } := by
  unfold interpretDocument run
  rw [Interpreting.runIn_document_engine _ engine session.engine]

theorem parse_engine (text : String) :
    { session with engine }.parse text =
      let answered := session.parse text
      { answered with session := { answered.session with engine } } := by
  unfold parse
  cases Json.read text with
  | error e => rfl
  | ok root => exact session.interpretDocument_engine engine root

end Session

/-! ## From interpreting to loading -/

theorem statements_loadData {session : Session} {data : Json} {statements : List String}
    (gives : Source.DataGives session.rules.catalog.formats data statements) :
    (session.loadData data).statements = statements := by
  obtain ⟨work, done, rfl⟩ := Source.dataGives_iff.1 gives
  rw [Answered.statements, Session.loadData_of_sound done, Effect.statements_submitted]

/-! ## Documents without data -/

section Data
variable {ρ : Type} {rules : Rules} {root : Fields}

theorem dataGives_without_data (formats : Table Format) (root : Fields) :
    Source.DataGives formats (Fields.valueAt (root.without ["data"]) "data") [] := by
  rw [Fields.valueAt, Table.lookup_without_of_mem List.mem_cons_self]
  exact .null

theorem layoutOf_without_data : layoutOf (root.without ["data"]) = layoutOf root := by
  unfold layoutOf
  rw [Table.without_without (by simp [documentKeys])]

theorem readDocument_without_data {m : Type → Type} [Reader ρ m] :
    (readDocument rules (root.without ["data"]) : m (Document ρ)) = readDocument rules root := by
  unfold readDocument Fields.valueAt
  rw [Table.lookup_without (by decide), Table.lookup_without (by decide), layoutOf_without_data]

theorem Document.Mirrors.of_without_data {binds : String → ρ → Prop} {document : Document ρ}
    (h : document.Mirrors binds rules (root.without ["data"])) :
    document.Mirrors binds rules root := by
  obtain ⟨metadata, layout⟩ := h
  rw [Table.lookup_without (by decide)] at metadata
  rw [layoutOf_without_data] at layout
  exact ⟨metadata, layout⟩

end Data

/-- Without its data section an accepted document is read as before. -/
theorem interpretDocument_without_data {session : Session} {root : Fields}
    {document : Document Handle}
    (accepted : (session.interpretDocument (.object root)).outcome = .ok document) :
    let rest := session.interpretDocument (.object (root.without ["data"]))
    rest.outcome = .ok document ∧
      rest.session.scope = (session.interpretDocument (.object root)).session.scope := by
  intro rest
  obtain ⟨statements, gives⟩ := gives_of_accepted accepted
  obtain ⟨-, scope, read⟩ := interpretDocument_of_loaded session gives
  obtain ⟨-, scope', read'⟩ := interpretDocument_of_loaded session
    (dataGives_without_data session.rules.catalog.formats root)
  rw [readDocument_without_data] at scope' read'
  have same : rest.session.scope = (session.interpretDocument (.object root)).session.scope :=
    scope'.trans scope.symm
  refine ⟨?_, same⟩
  obtain ⟨document', accepted'⟩ := read'.ok_iff.1 (read.ok_iff.2 ⟨document, accepted⟩)
  have mirrors := mirrors_of_accepted accepted
  have mirrors' := (mirrors_of_accepted accepted').of_without_data
  rw [Scope.binds_congr (congrArg Scope.names same)] at mirrors'
  rw [accepted', mirrors'.unique mirrors fun _ _ _ => Scope.Binds.unique]

/-- Loading and interpreting keep apart. With another engine a call answers the same, has the same
effects and leaves the same session, which keeps its engine. The statements of a data section that
is in order are the same in every session with the same formats and in every document with this
section. An accepted document without its data section submits nothing, has the same tree and
leaves the same names. -/
theorem loading_apart_from_interpreting (session : Session) :
    (∀ engine root, { session with engine }.interpretDocument root =
      let answered := session.interpretDocument root
      { answered with session := { answered.session with engine } }) ∧
    (∀ engine text, { session with engine }.parse text =
      let answered := session.parse text
      { answered with session := { answered.session with engine } }) ∧
    (∀ data statements, Source.DataGives session.rules.catalog.formats data statements →
      ∀ other : Session, other.rules.catalog.formats = session.rules.catalog.formats →
        (other.loadData data).statements = statements ∧
        ∀ root : Fields, root.valueAt "data" = data →
          (other.interpretDocument (.object root)).statements = statements) ∧
    ∀ (root : Fields) document,
      (session.interpretDocument (.object root)).outcome = .ok document →
      let rest := session.interpretDocument (.object (root.without ["data"]))
      rest.outcome = .ok document ∧ rest.statements = [] ∧
        rest.session.scope = (session.interpretDocument (.object root)).session.scope := by
  refine ⟨session.interpretDocument_engine, session.parse_engine, ?_, ?_⟩
  · intro data statements gives other formats
    rw [← formats] at gives
    refine ⟨statements_loadData gives, ?_⟩
    rintro root rfl
    exact statements_interpretDocument gives
  · intro root document accepted rest
    obtain ⟨outcome, scope⟩ := interpretDocument_without_data accepted
    have silent : rest.statements = [] :=
      statements_interpretDocument (dataGives_without_data _ root)
    exact ⟨outcome, silent, scope⟩

end Dashboard
