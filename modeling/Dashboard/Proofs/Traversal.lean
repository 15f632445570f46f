import Dashboard.Document.Basic
/-!
# The traversal of a document

The traversal lists what stands in a document: references, each with what its name stands for if
it is new, and faults. It goes on behind a fault, and it knows nothing of scopes and trees. What a
node is and which names are listed it asks as reading does; the grammar says that on its own.

The data section comes first, then the params, then the layout. Children of a node come from left
to right. In a plot, properties come before entries, and in a mark its `data` before its channels,
wherever these keys stand.
-/
namespace Dashboard

inductive Visit where
  | reference (ref : Reference)
  | fault (e : DocumentError)

namespace Visit

def reference? : Visit → Option Reference
  | reference ref => some ref
  | fault _ => none

def fault? : Visit → Option DocumentError
  | reference _ => none
  | fault e => some e

/-- A fault, unless something is there. -/
def demand {α : Type} (found : Option α) (e : DocumentError) : List Visit :=
  if found.isSome then [] else [fault e]

/-! ## Layouts -/

def ofValue (initial : Live) (value : Json) : List Visit :=
  (referenceName? value).toList.map fun name => reference ⟨name, initial⟩

/-- Transforms and expressions refer to nothing. -/
def ofChannel (transforms : Table (List Json → Expression)) (value : Json) : List Visit :=
  if (transform? transforms value).isSome then [] else ofValue (.param .null) value

/-- The options of an object, which are its keys without the reserved ones. -/
def ofOptions (fields : Fields) (reserved : List String) : List Visit :=
  (fields.without reserved).flatMap fun (_, value) => ofValue (.selection .intersect []) value

def ofProperty (catalog : Catalog) (field : String × Json) : List Visit :=
  demand (catalog.attributes.lookup field.1) (.unknownAttribute (.object [field])) ++
    if field.2.string? = some fixedMarker then [] else ofValue (.param .null) field.2

def ofMarkData (data : Json) : List Visit :=
  match data with
  | .object fields =>
    demand (Fields.string? fields "from") (.wrongPropertyType "data" data) ++
      ofOptions fields ["from"]
  | _ => [fault (.wrongPropertyType "data" data)]

def ofMark (catalog : Catalog) (fields : Fields) : List Visit :=
  demand (typeUnder? catalog.marks fields "mark") (.unknownMark (.object fields)) ++
    (fields.present? "data").toList.flatMap ofMarkData ++
    (fields.without ["mark", "data"]).flatMap fun (_, value) => ofChannel catalog.transforms value

def ofLegend (catalog : Catalog) (fields : Fields) : List Visit :=
  demand (legendType? catalog fields) (.unknownLegend (.object fields)) ++
    ofOptions fields ["legend"]

def ofInteractor (catalog : Catalog) (fields : Fields) : List Visit :=
  demand (typeUnder? catalog.interactors fields "select") (.unknownInteractor (.object fields)) ++
    ofOptions fields ["select"]

def ofEntry (catalog : Catalog) (entry : Json) : List Visit :=
  match entry with
  | .object fields =>
    if (Fields.present? fields "mark").isSome then ofMark catalog fields
    else if (Fields.present? fields "legend").isSome then ofLegend catalog fields
    else if (Fields.present? fields "select").isSome then ofInteractor catalog fields
    else [fault (.notAPlotEntry entry)]
  | _ => [fault (.notAPlotEntry entry)]

def ofPlot (catalog : Catalog) (fields : Fields) (items : List Json) : List Visit :=
  (fields.without (catalog.directives.map (·.key))).flatMap (ofProperty catalog) ++
    items.flatMap (ofEntry catalog)

def ofInput (catalog : Catalog) (fields : Fields) (name : String) : List Visit :=
  demand (catalog.inputs.lookup name) (.unknownInput (.object fields)) ++
    ofOptions fields ["input"]

mutual

def ofNode (rules : Rules) (node : Json) : List Visit :=
  match node with
  | .object fields =>
    match _h : rules.content fields with
    | .error e => [fault e]
    | .ok (.plot items) => ofPlot rules.catalog fields items
    | .ok (.hconcat items) => ofNodes rules items
    | .ok (.vconcat items) => ofNodes rules items
    | .ok (.hspace _) => []
    | .ok (.vspace _) => []
    | .ok (.input name) => ofInput rules.catalog fields name
  | _ => [fault (.notALayout node)]
termination_by sizeOf node
decreasing_by
  all_goals
    have := rules.sizeOf_items _h
    simp only [NodeContent.items] at this
    simp only [Json.object.sizeOf_spec]
    omega

def ofNodes (rules : Rules) (nodes : List Json) : List Visit :=
  match nodes with
  | [] => []
  | node :: nodes => ofNode rules node ++ ofNodes rules nodes
termination_by sizeOf nodes

end

theorem ofNode_object (rules : Rules) (fields : Fields) :
    ofNode rules (.object fields) =
      match rules.content fields with
      | .error e => [fault e]
      | .ok (.plot items) => ofPlot rules.catalog fields items
      | .ok (.hconcat items) => ofNodes rules items
      | .ok (.vconcat items) => ofNodes rules items
      | .ok (.hspace _) => []
      | .ok (.vspace _) => []
      | .ok (.input name) => ofInput rules.catalog fields name := by
  rw [ofNode]
  split <;> simp only [*]

theorem ofNode_other (rules : Rules) {node : Json} (other : ∀ fields, node ≠ .object fields) :
    ofNode rules node = [fault (.notALayout node)] := by
  cases node with
  | object fields => exact absurd rfl (other fields)
  | _ => rw [ofNode]; simp

theorem ofNodes_eq (rules : Rules) (nodes : List Json) :
    ofNodes rules nodes = nodes.flatMap (ofNode rules) := by
  induction nodes with
  | nil => rw [ofNodes, List.flatMap_nil]
  | cons node nodes ih => rw [ofNodes, List.flatMap_cons, ih]

/-! ## Documents -/

/-- An entry of the data section is no reference, but there may be a fault in it. -/
def ofFormat (formats : Table Format) (table : String) (source : Fields) : List Visit :=
  match formats.lookup (Source.formatName source) with
  | none => [fault (.unknownFormat (.object source))]
  | some format =>
    match format table source with
    | .error e => [fault e]
    | .ok _ => []

def ofSource (formats : Table Format) (entry : String × Json) : List Visit :=
  match Source.normalize entry.2 with
  | .error e => [fault e]
  | .ok source => ofFormat formats entry.1 source

def ofParam (params : Table (Json → Live)) (entry : String × Json) : List Visit :=
  let (kind, value) := paramDefinition entry.2
  match kind.bind fun kind => params.lookup kind with
  | none => [fault (.unknownParamType entry.2)]
  | some construct => [reference ⟨entry.1, construct value⟩]

/-- The entries of the section under `key`, which may be null. -/
def ofSection (key : String) (visits : String × Json → List Visit) : Json → List Visit
  | .null => []
  | .object entries => entries.flatMap visits
  | other => [fault (.wrongPropertyType key other)]

def ofData (formats : Table Format) : Json → List Visit :=
  ofSection "data" (ofSource formats)

def ofParams (params : Table (Json → Live)) : Json → List Visit :=
  ofSection "params" (ofParam params)

def ofDocument (rules : Rules) (root : Json) : List Visit :=
  match root with
  | .object fields =>
    ofData rules.catalog.formats (Fields.valueAt fields "data") ++
      (ofParams rules.catalog.params (Fields.valueAt fields "params") ++
        ofNode rules (layoutOf fields))
  | _ => [fault (.notALayout root)]

end Visit

/-- The references of a layout, in the order of its traversal. -/
def references (rules : Rules) (node : Json) : List Reference :=
  (Visit.ofNode rules node).filterMap Visit.reference?

end Dashboard
