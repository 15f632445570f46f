import Dashboard.Proofs.Traversal
import Mathlib.Tactic.SplitIfs
/-!
# Reading goes along the traversal

A reading notes the references of the traversal one by one. It stops at the first fault, which is
then its error, or goes to the end.
-/
namespace Dashboard
variable {α β : Type}

/-- A reading has noted what stands before the first fault, which is its error, or everything if
there is none. -/
def Along (visits : List Visit) (x : Reading α) : Prop :=
  match x.outcome with
  | .ok _ => visits = x.references.map .reference
  | .error e => ∃ rest, visits = x.references.map .reference ++ .fault e :: rest

section Combinators
open Visit

theorem along_pure (a : α) : Along [] (pure a : Reading α) := rfl

theorem along_fail (e : DocumentError) (rest : List Visit) :
    Along (fault e :: rest) (Reader.fail e : Reading α) :=
  ⟨rest, rfl⟩

theorem along_meet (ref : Reference) : Along [reference ref] (Reader.meet ref) := rfl

theorem along_bind {x : Reading α} {f : α → Reading β} {first second : List Visit}
    (h : Along first x) (next : ∀ a, Along second (f a)) : Along (first ++ second) (x >>= f) := by
  obtain ⟨refs, _ | a⟩ := x
  · obtain ⟨rest, rfl⟩ := h
    exact ⟨rest ++ second, List.append_assoc _ _ _⟩
  · obtain rfl : first = refs.map .reference := h
    have more := next a
    unfold Along at more ⊢
    rw [Reading.bind_ok]
    dsimp only
    cases outcome : (f a).outcome with
    | error e =>
      rw [outcome] at more
      obtain ⟨rest, same⟩ := more
      exact ⟨rest, by rw [same, List.map_append, List.append_assoc]⟩
    | ok b =>
      rw [outcome] at more
      exact (congrArg _ more).trans List.map_append.symm

theorem along_map {x : Reading α} {visits : List Visit} (h : Along visits x) (f : α → β) :
    Along visits (f <$> x) := by
  rw [map_eq_pure_bind, ← List.append_nil visits]
  exact along_bind h fun a => along_pure (f a)

theorem along_mapM {ι : Type} {f : ι → Reading α} {visits : ι → List Visit} {is : List ι}
    (each : ∀ i ∈ is, Along (visits i) (f i)) : Along (is.flatMap visits) (is.mapM f) := by
  induction is with
  | nil =>
    rw [List.mapM_nil]
    exact along_pure []
  | cons i is ih =>
    have others := ih fun i inside => each i (List.mem_cons_of_mem _ inside)
    rw [List.mapM_cons, List.flatMap_cons]
    exact along_bind (each i List.mem_cons_self) fun a => along_map others (a :: ·)

theorem along_forM {ι : Type} {f : ι → Reading Unit} {visits : ι → List Visit}
    (each : ∀ i, Along (visits i) (f i)) (is : List ι) :
    Along (is.flatMap visits) (forM is f) := by
  induction is with
  | nil => exact along_pure ()
  | cons i is ih =>
    rw [List.forM_cons, List.flatMap_cons]
    exact along_bind (each i) fun _ => ih

end Combinators

/-! ## Values and plots -/

theorem along_readValue (initial : Live) (value : Json) :
    Along (Visit.ofValue initial value) (readValue initial value) := by
  unfold readValue Visit.ofValue
  cases referenceName? value with
  | none => exact along_pure _
  | some name => exact along_map (along_meet ⟨name, initial⟩) _

theorem along_readChannel (transforms : Table (List Json → Expression)) (value : Json) :
    Along (Visit.ofChannel transforms value) (readChannel transforms value) := by
  unfold readChannel Visit.ofChannel
  cases transform? transforms value with
  | none => exact along_readValue freshParam value
  | some e => exact along_pure _

theorem along_readOptions (fields : Fields) (reserved : List String) :
    Along (Visit.ofOptions fields reserved) (readOptions (fields.without reserved)) :=
  along_mapM fun field _ => along_map (along_readValue freshSelection field.2) _

theorem along_readProperty (catalog : Catalog) (field : String × Json) :
    Along (Visit.ofProperty catalog field) (readProperty catalog field) := by
  unfold readProperty Visit.ofProperty
  cases catalog.attributes.lookup field.1 with
  | none => exact along_fail _ _
  | some name =>
    refine along_map ?_ _
    unfold readPropertyValue
    split
    · exact along_pure _
    · exact along_readValue freshParam field.2

theorem along_readMarkData (data : Json) : Along (Visit.ofMarkData data) (readMarkData data) := by
  unfold readMarkData Visit.ofMarkData
  cases data with
  | object fields =>
    dsimp only
    cases Fields.string? fields "from" with
    | none => exact along_fail _ _
    | some table => exact along_map (along_readOptions fields ["from"]) _
  | _ => exact along_fail _ _

theorem along_readData (fields : Fields) :
    Along ((fields.present? "data").toList.flatMap Visit.ofMarkData) (readData fields) := by
  unfold readData
  cases fields.present? "data" with
  | none => exact along_pure none
  | some data =>
    rw [Option.toList_some, List.flatMap_singleton]
    exact along_map (along_readMarkData data) some

theorem along_readMark (catalog : Catalog) (fields : Fields) :
    Along (Visit.ofMark catalog fields) (readMark catalog fields) := by
  unfold readMark Visit.ofMark
  cases typeUnder? catalog.marks fields "mark" with
  | none => exact along_fail _ _
  | some type =>
    refine along_bind (along_readData fields) fun data => along_map ?_ _
    exact along_mapM fun field _ => along_map (along_readChannel catalog.transforms field.2) _

theorem along_readLegend (catalog : Catalog) (fields : Fields) :
    Along (Visit.ofLegend catalog fields) (readLegend catalog fields) := by
  unfold readLegend Visit.ofLegend
  cases legendType? catalog fields with
  | none => exact along_fail _ _
  | some type => exact along_map (along_readOptions fields ["legend"]) _

theorem along_readInteractor (catalog : Catalog) (fields : Fields) :
    Along (Visit.ofInteractor catalog fields) (readInteractor catalog fields) := by
  unfold readInteractor Visit.ofInteractor
  cases typeUnder? catalog.interactors fields "select" with
  | none => exact along_fail _ _
  | some type => exact along_map (along_readOptions fields ["select"]) _

theorem along_readEntry (catalog : Catalog) (entry : Json) :
    Along (Visit.ofEntry catalog entry) (readEntry catalog entry) := by
  unfold readEntry Visit.ofEntry
  cases entry with
  | object fields =>
    dsimp only
    split_ifs
    · exact along_readMark catalog fields
    · exact along_readLegend catalog fields
    · exact along_readInteractor catalog fields
    · exact along_fail _ _
  | _ => exact along_fail _ _

theorem along_readPlot (catalog : Catalog) (fields : Fields) (items : List Json) :
    Along (Visit.ofPlot catalog fields items) (readPlot catalog fields items) := by
  unfold readPlot Visit.ofPlot
  refine along_bind (along_mapM fun field _ => along_readProperty catalog field) fun _ => ?_
  exact along_map (along_mapM fun entry _ => along_readEntry catalog entry) _

/-! ## Layouts and documents -/

theorem along_readInput (catalog : Catalog) (fields : Fields) (name : String) :
    Along (Visit.ofInput catalog fields name) (readInput catalog fields name) := by
  unfold readInput Visit.ofInput
  cases catalog.inputs.lookup name with
  | none => exact along_fail _ _
  | some type => exact along_map (along_readOptions fields ["input"]) _

theorem along_readNode (rules : Rules) (node : Json) :
    Along (Visit.ofNode rules node) (readNode rules node) := by
  induction node using Rules.induction rules with
  | other node other =>
    rw [readNode_other rules other, Visit.ofNode_other rules other]
    exact along_fail _ _
  | object fields ih =>
    have inside (items : List Json)
        (each : ∀ item ∈ items, Along (Visit.ofNode rules item) (readNode rules item)) :
        Along (Visit.ofNodes rules items) (readNodes rules items) := by
      rw [readNodes_eq, Visit.ofNodes_eq]
      exact along_mapM each
    rw [readNode_object, Visit.ofNode_object]
    cases found : rules.content fields with
    | error e => exact along_fail e _
    | ok content =>
      have items := ih content found
      cases content with
      | plot items => exact along_map (along_readPlot rules.catalog fields _) _
      | hconcat nodes => exact along_map (inside nodes items) _
      | vconcat nodes => exact along_map (inside nodes items) _
      | hspace size => exact along_pure _
      | vspace size => exact along_pure _
      | input name => exact along_readInput rules.catalog fields name

theorem along_readParam (params : Table (Json → Live)) (entry : String × Json) :
    Along (Visit.ofParam params entry) (readParam params entry) := by
  unfold readParam Visit.ofParam
  dsimp only
  cases (paramDefinition entry.2).1.bind fun kind => params.lookup kind with
  | none => exact along_fail _ _
  | some construct => exact along_map (along_meet _) _

theorem along_readParams (catalog : Catalog) (params : Json) :
    Along (Visit.ofParams catalog.params params) (readParams catalog params) := by
  unfold readParams Visit.ofParams Visit.ofSection
  cases params with
  | null => exact along_pure ()
  | object entries => exact along_forM (along_readParam catalog.params) entries
  | _ => exact along_fail _ _

theorem along_readDocument (rules : Rules) (root : Fields) :
    Along (Visit.ofParams rules.catalog.params (root.valueAt "params") ++
        Visit.ofNode rules (layoutOf root))
      (readDocument rules root) := by
  unfold readDocument
  refine along_bind (along_readParams rules.catalog _) fun _ => ?_
  exact along_map (along_readNode rules _) _

end Dashboard
