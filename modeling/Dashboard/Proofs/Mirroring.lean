import Dashboard.Document.Basic
import Mathlib.Data.List.Forall2
/-!
# Trees that mirror documents

A tree mirrors a document if it shows, position by position, what stands there: the types that the
catalog gives, the values as they are written, and where a value refers to a name, a reference that
the name is bound to. What a name is bound to is a parameter.
-/
namespace Dashboard
variable {ρ : Type} {binds binds' : String → ρ → Prop}

/-- What a value is that may refer to a name. -/
inductive Resolved.Mirrors (binds : String → ρ → Prop) : Json → Resolved ρ → Prop
  | literal {value : Json} :
      referenceName? value = none → Mirrors binds value (.literal value)
  | reference {value : Json} {name : String} {target : ρ} :
      referenceName? value = some name → binds name target →
      Mirrors binds value (.reference target)

/-- In a channel, a transform or an expression comes first. -/
inductive Resolved.MirrorsChannel (binds : String → ρ → Prop)
    (transforms : Table (List Json → Expression)) : Json → Resolved ρ → Prop
  | expression {value : Json} {e : Expression} :
      transform? transforms value = some e →
      MirrorsChannel binds transforms value (.expression e)
  | value {value : Json} {resolved : Resolved ρ} :
      transform? transforms value = none → resolved.Mirrors binds value →
      MirrorsChannel binds transforms value resolved

/-- In a property, `"Fixed"` is no value. -/
inductive Resolved.MirrorsProperty (binds : String → ρ → Prop) : Json → Resolved ρ → Prop
  | fixed {value : Json} :
      value.string? = some fixedMarker → MirrorsProperty binds value .fixed
  | value {value : Json} {resolved : Resolved ρ} :
      value.string? ≠ some fixedMarker → resolved.Mirrors binds value →
      MirrorsProperty binds value resolved

/-- Options have the keys of fields, in their order. -/
def Options.Mirror (mirrors : Json → Resolved ρ → Prop) : Fields → Options ρ → Prop :=
  List.Forall₂ fun field option => field.1 = option.1 ∧ mirrors field.2 option.2

inductive MarkData.Mirrors (binds : String → ρ → Prop) : Json → MarkData ρ → Prop
  | mk {fields : Fields} {table : String} {options : Options ρ} :
      fields.string? "from" = some table →
      Options.Mirror (Resolved.Mirrors binds) (fields.without ["from"]) options →
      Mirrors binds (.object fields) ⟨table, options⟩

inductive PlotEntry.MirrorsProperty (binds : String → ρ → Prop) (catalog : Catalog) :
    String × Json → PlotEntry ρ → Prop
  | mk {field : String × Json} {name : String} {value : Resolved ρ} :
      catalog.attributes.lookup field.1 = some name → value.MirrorsProperty binds field.2 →
      MirrorsProperty binds catalog field (.property name value)

inductive PlotEntry.Mirrors (binds : String → ρ → Prop) (catalog : Catalog) :
    Json → PlotEntry ρ → Prop
  | mark {fields : Fields} {type : String} {data : Option (MarkData ρ)} {options : Options ρ} :
      typeUnder? catalog.marks fields "mark" = some type →
      Option.Rel (MarkData.Mirrors binds) (fields.present? "data") data →
      Options.Mirror (Resolved.MirrorsChannel binds catalog.transforms)
        (fields.without ["mark", "data"]) options →
      Mirrors binds catalog (.object fields) (.mark type data options)
  | legend {fields : Fields} {type : String} {options : Options ρ} :
      fields.present? "mark" = none → legendType? catalog fields = some type →
      Options.Mirror (Resolved.Mirrors binds) (fields.without ["legend"]) options →
      Mirrors binds catalog (.object fields) (.legend type options)
  | interactor {fields : Fields} {type : String} {options : Options ρ} :
      fields.present? "mark" = none → fields.present? "legend" = none →
      typeUnder? catalog.interactors fields "select" = some type →
      Options.Mirror (Resolved.Mirrors binds) (fields.without ["select"]) options →
      Mirrors binds catalog (.object fields) (.interactor type options)

/-- The properties of a plot and then its entries. -/
inductive PlotEntry.MirrorPlot (binds : String → ρ → Prop) (catalog : Catalog) (fields : Fields)
    (items : List Json) : List (PlotEntry ρ) → Prop
  | mk {properties entries : List (PlotEntry ρ)} :
      List.Forall₂ (PlotEntry.MirrorsProperty binds catalog)
        (fields.without (catalog.directives.map (·.key))) properties →
      List.Forall₂ (PlotEntry.Mirrors binds catalog) items entries →
      MirrorPlot binds catalog fields items (properties ++ entries)

inductive Directive.Mirrors (binds : String → ρ → Prop) (rules : Rules) :
    Json → Directive ρ → Prop
  | plot {fields : Fields} {items : List Json} {entries : List (PlotEntry ρ)} :
      rules.content fields = .ok (.plot items) →
      PlotEntry.MirrorPlot binds rules.catalog fields items entries →
      Mirrors binds rules (.object fields) (.plot entries)
  | hconcat {fields : Fields} {nodes : List Json} {items : List (Directive ρ)} :
      rules.content fields = .ok (.hconcat nodes) →
      List.Forall₂ (Mirrors binds rules) nodes items →
      Mirrors binds rules (.object fields) (.hconcat items)
  | vconcat {fields : Fields} {nodes : List Json} {items : List (Directive ρ)} :
      rules.content fields = .ok (.vconcat nodes) →
      List.Forall₂ (Mirrors binds rules) nodes items →
      Mirrors binds rules (.object fields) (.vconcat items)
  | hspace {fields : Fields} {size : Binary64} :
      rules.content fields = .ok (.hspace size) →
      Mirrors binds rules (.object fields) (.hspace size)
  | vspace {fields : Fields} {size : Binary64} :
      rules.content fields = .ok (.vspace size) →
      Mirrors binds rules (.object fields) (.vspace size)
  | input {fields : Fields} {name type : String} {options : Options ρ} :
      rules.content fields = .ok (.input name) → rules.catalog.inputs.lookup name = some type →
      Options.Mirror (Resolved.Mirrors binds) (fields.without ["input"]) options →
      Mirrors binds rules (.object fields) (.input type options)

structure Document.Mirrors (binds : String → ρ → Prop) (rules : Rules) (root : Fields)
    (document : Document ρ) : Prop where
  metadata : document.metadata = root.lookup "meta"
  layout : document.layout.Mirrors binds rules (layoutOf root)

/-! ## More names

A tree still mirrors its document when more names are bound. -/

section Mono
variable (sub : ∀ name target, binds name target → binds' name target)
include sub

theorem Resolved.Mirrors.mono {value : Json} {resolved : Resolved ρ}
    (h : resolved.Mirrors binds value) : resolved.Mirrors binds' value := by
  cases h with
  | literal none => exact .literal none
  | reference named bound => exact .reference named (sub _ _ bound)

theorem Resolved.MirrorsChannel.mono {transforms : Table (List Json → Expression)} {value : Json}
    {resolved : Resolved ρ} (h : resolved.MirrorsChannel binds transforms value) :
    resolved.MirrorsChannel binds' transforms value := by
  cases h with
  | expression found => exact .expression found
  | value none mirrors => exact .value none (mirrors.mono sub)

theorem Resolved.MirrorsProperty.mono {value : Json} {resolved : Resolved ρ}
    (h : resolved.MirrorsProperty binds value) : resolved.MirrorsProperty binds' value := by
  cases h with
  | fixed written => exact .fixed written
  | value other mirrors => exact .value other (mirrors.mono sub)

omit sub in
theorem Options.Mirror.mono {mirrors mirrors' : Json → Resolved ρ → Prop} {fields : Fields}
    {options : Options ρ} (each : ∀ value resolved, mirrors value resolved →
      mirrors' value resolved) (h : Options.Mirror mirrors fields options) :
    Options.Mirror mirrors' fields options :=
  List.Forall₂.imp (fun _ _ same => ⟨same.1, each _ _ same.2⟩) h

theorem MarkData.Mirrors.mono {json : Json} {data : MarkData ρ} (h : data.Mirrors binds json) :
    data.Mirrors binds' json := by
  cases h with
  | mk table options => exact .mk table (options.mono fun _ _ => .mono sub)

theorem PlotEntry.MirrorsProperty.mono {catalog : Catalog} {field : String × Json}
    {entry : PlotEntry ρ} (h : entry.MirrorsProperty binds catalog field) :
    entry.MirrorsProperty binds' catalog field := by
  cases h with
  | mk name value => exact .mk name (value.mono sub)

theorem PlotEntry.Mirrors.mono {catalog : Catalog} {json : Json} {entry : PlotEntry ρ}
    (h : entry.Mirrors binds catalog json) : entry.Mirrors binds' catalog json := by
  cases h with
  | mark type data options =>
    refine .mark type ?_ (options.mono fun _ _ => .mono sub)
    generalize Fields.present? _ "data" = found at data
    cases data with
    | some mirrors => exact .some (mirrors.mono sub)
    | none => exact .none
  | legend noMark type options => exact .legend noMark type (options.mono fun _ _ => .mono sub)
  | interactor noMark noLegend type options =>
    exact .interactor noMark noLegend type (options.mono fun _ _ => .mono sub)

theorem PlotEntry.MirrorPlot.mono {catalog : Catalog} {fields : Fields} {items : List Json}
    {entries : List (PlotEntry ρ)} (h : MirrorPlot binds catalog fields items entries) :
    MirrorPlot binds' catalog fields items entries := by
  cases h with
  | mk properties entries =>
    exact .mk (properties.imp fun _ _ => .mono sub) (entries.imp fun _ _ => .mono sub)

end Mono

mutual

theorem Directive.Mirrors.mono (sub : ∀ name target, binds name target → binds' name target)
    {rules : Rules} {node : Json} {tree : Directive ρ} (h : tree.Mirrors binds rules node) :
    tree.Mirrors binds' rules node :=
  match h with
  | .plot found entries => .plot found (entries.mono sub)
  | .hconcat found items => .hconcat found (Directive.Mirrors.mono_all sub items)
  | .vconcat found items => .vconcat found (Directive.Mirrors.mono_all sub items)
  | .hspace found => .hspace found
  | .vspace found => .vspace found
  | .input found type options => .input found type (options.mono fun _ _ => .mono sub)

theorem Directive.Mirrors.mono_all (sub : ∀ name target, binds name target → binds' name target)
    {rules : Rules} {nodes : List Json} {trees : List (Directive ρ)}
    (h : List.Forall₂ (Directive.Mirrors binds rules) nodes trees) :
    List.Forall₂ (Directive.Mirrors binds' rules) nodes trees :=
  match h with
  | .nil => .nil
  | .cons first others =>
    .cons (Directive.Mirrors.mono sub first) (Directive.Mirrors.mono_all sub others)

end

theorem Document.Mirrors.mono (sub : ∀ name target, binds name target → binds' name target)
    {rules : Rules} {root : Fields} {document : Document ρ}
    (h : document.Mirrors binds rules root) : document.Mirrors binds' rules root :=
  ⟨h.metadata, h.layout.mono sub⟩

end Dashboard
