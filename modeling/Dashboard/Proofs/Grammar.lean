import Dashboard.Catalog.Standard
import Dashboard.Document.Basic
import Dashboard.Proofs.Decimals
import Mathlib.Data.List.Forall2
import Mathlib.Data.List.ReduceOption
/-!
# The grammar of documents

Which documents are in order, and what the first fault of the others is. Neither is said in terms
of how documents are read: there are no scopes, no trees and no outcomes, and the format of a
source, the name of a legend, sizes and the content of a node are said anew.
-/
namespace Dashboard

/-- A key that is there, and does not hold null. -/
def Fields.Has (fields : Fields) (key : String) : Prop :=
  ∃ value, fields.lookup key = some value ∧ value ≠ .null

theorem Fields.present?_isSome {fields : Fields} {key : String} :
    (fields.present? key).isSome ↔ fields.Has key := by
  rw [Option.isSome_iff_exists]
  exact exists_congr fun _ => Fields.present?_eq_some

instance (fields : Fields) (key : String) : Decidable (fields.Has key) :=
  decidable_of_iff _ Fields.present?_isSome

/-! ## Documents in order -/

/-- A section that may be absent or null. -/
inductive IsSection (isEntry : String × Json → Prop) : Json → Prop
  | null : IsSection isEntry .null
  | entries {entries : Fields} : (∀ entry ∈ entries, isEntry entry) →
      IsSection isEntry (.object entries)

/-- The source that an entry of the data section describes. A string is a query for a table. -/
inductive Source.Describes : Json → Fields → Prop
  | query {query : String} :
      Describes (.string query) [("format", .string "table"), ("query", .string query)]
  | object {source : Fields} : Describes (.object source) source

/-- The format of a source: the one that it names, else what follows the last point of its file
name, else a table. -/
inductive Source.HasFormat (source : Fields) : String → Prop
  | named {name : String} :
      source.lookup "format" = some (.string name) → HasFormat source name
  | extension {file : String} {front last : List Char} :
      (∀ name, source.lookup "format" ≠ some (.string name)) →
      source.lookup "file" = some (.string file) → file.toList = front ++ '.' :: last →
      '.' ∉ last → HasFormat source (String.ofList last)
  | table :
      (∀ name, source.lookup "format" ≠ some (.string name)) →
      (∀ file, source.lookup "file" = some (.string file) → '.' ∉ file.toList) →
      HasFormat source "table"

/-- What a data source comes to whose format is known and takes it. -/
inductive Source.Gives (formats : Table Format) (table : String) :
    Json → Option String → Prop
  | mk {entry : Json} {source : Fields} {name : String} {format : Format}
      {statement : Option String} :
      Describes entry source → HasFormat source name → formats.lookup name = some format →
      format table source = .ok statement → Gives formats table entry statement

def IsSource (formats : Table Format) (table : String) (entry : Json) : Prop :=
  ∃ statement, Source.Gives formats table entry statement

/-- The statements of a data section that is in order. -/
inductive Source.DataGives (formats : Table Format) : Json → List String → Prop
  | null : DataGives formats .null []
  | entries {entries : Fields} {given : List (Option String)} :
      List.Forall₂ (fun entry statement => Gives formats entry.1 entry.2 statement)
        entries given →
      DataGives formats (.object entries) given.reduceOption

/-- An entry of the params section: a plain value, or an object that names its kind. -/
inductive IsParam (params : Table (Json → Live)) : Json → Prop
  | plain {entry : Json} : IsPlain entry → IsParam params entry
  | kind {fields : Fields} {kind : String} :
      fields.lookup "select" = some (.string kind) → kind ∈ params.names →
      IsParam params (.object fields)

/-- What an entry of the params section defines. -/
inductive Defines (params : Table (Json → Live)) : String × Json → Reference → Prop
  | plain {name : String} {entry : Json} {construct : Json → Live} :
      IsPlain entry → params.lookup "value" = some construct →
      Defines params (name, entry) ⟨name, construct entry⟩
  | kind {name kind : String} {fields : Fields} {construct : Json → Live} :
      fields.lookup "select" = some (.string kind) → params.lookup kind = some construct →
      Defines params (name, .object fields) ⟨name, construct (fields.valueAt "value")⟩

/-- What a params section defines that is in order. -/
inductive ParamsDefine (params : Table (Json → Live)) : Json → List Reference → Prop
  | null : ParamsDefine params .null []
  | entries {entries : Fields} {refs : List Reference} :
      List.Forall₂ (Defines params) entries refs → ParamsDefine params (.object entries) refs

/-- What stands before the fault of a params section. -/
inductive ParamsFail (params : Table (Json → Live)) : Json → List Reference → Prop
  | shape {value : Json} :
      value ≠ .null → (∀ entries, value ≠ .object entries) → ParamsFail params value []
  | entry {before after : Fields} {bad : String × Json} {refs : List Reference} :
      List.Forall₂ (Defines params) before refs → (∀ ref, ¬ Defines params bad ref) →
      ParamsFail params (.object (before ++ bad :: after)) refs

/-- The `data` of a mark names a table. -/
inductive IsMarkData : Json → Prop
  | mk {fields : Fields} {table : String} :
      fields.lookup "from" = some (.string table) → IsMarkData (.object fields)

/-- The name under which a legend is listed: `legend`, and its own name with the first character in
upper case. -/
inductive IsListed : String → String → Prop
  | empty : IsListed "" "legend"
  | cons {c : Char} {cs : List Char} :
      IsListed (String.ofList (c :: cs)) ("legend" ++ String.ofList (Text.upperChar c ++ cs))

/-- A plot entry: a mark, a legend or an interactor, by the first of these keys that it has. -/
inductive IsEntry (catalog : Catalog) : Json → Prop
  | mark {fields : Fields} {name : String} :
      fields.lookup "mark" = some (.string name) → name ∈ catalog.marks.names →
      (∀ data, fields.lookup "data" = some data → data ≠ .null → IsMarkData data) →
      IsEntry catalog (.object fields)
  | legend {fields : Fields} {name listed : String} :
      ¬ fields.Has "mark" →
      fields.lookup "legend" = some (.string name) → IsListed name listed →
      listed ∈ catalog.legends.names → IsEntry catalog (.object fields)
  | interactor {fields : Fields} {name : String} :
      ¬ fields.Has "mark" → ¬ fields.Has "legend" →
      fields.lookup "select" = some (.string name) → name ∈ catalog.interactors.names →
      IsEntry catalog (.object fields)

/-- A finite number, or a text that spells one, perhaps with blanks around it. -/
inductive IsSize : Json → Prop
  | integer {n : ℤ} : (n.natAbs : ℚ) < Binary64.limit → IsSize (.number (.integer n))
  | real {x : Binary64} : IsSize (.number (.real x))
  | text {s : String} {before spelled after : List Char} {negative : Bool} {digits : Nat}
      {exponent : ℤ} :
      s.toList = before ++ (spelled ++ after) →
      Binary64.Blanks before → Binary64.Blanks after →
      Binary64.IsDecimal spelled negative digits exponent →
      (digits * 10 ^ exponent : ℚ) < Binary64.limit → IsSize (.string s)

/-- A property of a plot: a key of the directive table, which is no attribute, or an attribute that
is registered. -/
def IsProperty (catalog : Catalog) (field : String × Json) : Prop :=
  field.1 ∉ catalog.directives.map (·.key) → field.1 ∈ catalog.attributes.names

/-- The kind of a node: no key before it in the table is there. In strict mode no other key of the
table is there. -/
inductive Rules.Decides (rules : Rules) (fields : Fields) (kind : DirectiveKind) : Prop
  | mk {before after : List DirectiveKind} :
      rules.catalog.directives = before ++ kind :: after →
      (∀ other ∈ before, ¬ fields.Has other.key) → fields.Has kind.key →
      (rules.strict = true → ∀ other ∈ after, ¬ fields.Has other.key) →
      Decides rules fields kind

/-- A layout node. Keys that are not in the directive table are attributes of a plot, and options
of an input; elsewhere they are ignored. -/
inductive IsNode (rules : Rules) : Json → Prop
  | plot {fields : Fields} {items : List Json} :
      rules.Decides fields .plot → fields.lookup "plot" = some (.array items) →
      (∀ property ∈ fields, IsProperty rules.catalog property) →
      (∀ item ∈ items, IsEntry rules.catalog item) →
      IsNode rules (.object fields)
  | hconcat {fields : Fields} {items : List Json} :
      rules.Decides fields .hconcat → fields.lookup "hconcat" = some (.array items) →
      (∀ item ∈ items, IsNode rules item) → IsNode rules (.object fields)
  | vconcat {fields : Fields} {items : List Json} :
      rules.Decides fields .vconcat → fields.lookup "vconcat" = some (.array items) →
      (∀ item ∈ items, IsNode rules item) → IsNode rules (.object fields)
  | hspace {fields : Fields} {size : Json} :
      rules.Decides fields .hspace → fields.lookup "hspace" = some size → IsSize size →
      IsNode rules (.object fields)
  | vspace {fields : Fields} {size : Json} :
      rules.Decides fields .vspace → fields.lookup "vspace" = some size → IsSize size →
      IsNode rules (.object fields)
  | input {fields : Fields} {name : String} :
      rules.Decides fields .input → fields.lookup "input" = some (.string name) →
      name ∈ rules.catalog.inputs.names → IsNode rules (.object fields)

/-- A document: an object with a data section, a params section and, in its other keys without
`meta`, a layout. -/
inductive IsDocument (rules : Rules) : Json → Prop
  | mk {root : Fields} :
      IsSection (fun entry => IsSource rules.catalog.formats entry.1 entry.2)
        (root.valueAt "data") →
      IsSection (fun entry => IsParam rules.catalog.params entry.2) (root.valueAt "params") →
      IsNode rules (.object (root.filter fun field => field.1 ∉ ["data", "params", "meta"])) →
      IsDocument rules (.object root)

/-! ## First faults -/

/-- What is wrong with an entry of the data section. -/
inductive Source.Refuses (formats : Table Format) (table : String) : Json → DocumentError → Prop
  | shape {entry : Json} :
      (∀ query, entry ≠ .string query) → (∀ source, entry ≠ .object source) →
      Refuses formats table entry (.wrongPropertyType "data" entry)
  | unknown {entry : Json} {source : Fields} {name : String} :
      Describes entry source → HasFormat source name → formats.lookup name = none →
      Refuses formats table entry (.unknownFormat (.object source))
  | rejected {entry : Json} {source : Fields} {name : String} {format : Format}
      {e : DocumentError} :
      Describes entry source → HasFormat source name → formats.lookup name = some format →
      format table source = .error e → Refuses formats table entry e

/-- The first fault of a data section. -/
inductive Source.DataFails (formats : Table Format) : Json → DocumentError → Prop
  | shape {data : Json} :
      data ≠ .null → (∀ entries, data ≠ .object entries) →
      DataFails formats data (.wrongPropertyType "data" data)
  | entry {before after : Fields} {table : String} {bad : Json} {e : DocumentError} :
      (∀ entry ∈ before, IsSource formats entry.1 entry.2) → Refuses formats table bad e →
      DataFails formats (.object (before ++ (table, bad) :: after)) e

/-- The first fault of a params section. -/
inductive ParamsFault (params : Table (Json → Live)) : Json → DocumentError → Prop
  | shape {value : Json} :
      value ≠ .null → (∀ entries, value ≠ .object entries) →
      ParamsFault params value (.wrongPropertyType "params" value)
  | entry {before after : Fields} {bad : String × Json} :
      (∀ entry ∈ before, IsParam params entry.2) → ¬ IsParam params bad.2 →
      ParamsFault params (.object (before ++ bad :: after)) (.unknownParamType bad.2)

/-- The first fault of a plot entry. The type of a mark comes before its data. -/
inductive EntryFails (catalog : Catalog) : Json → DocumentError → Prop
  | shape {entry : Json} :
      (∀ fields, entry ≠ .object fields) → EntryFails catalog entry (.notAPlotEntry entry)
  | noKey {fields : Fields} :
      ¬ fields.Has "mark" → ¬ fields.Has "legend" → ¬ fields.Has "select" →
      EntryFails catalog (.object fields) (.notAPlotEntry (.object fields))
  | mark {fields : Fields} :
      fields.Has "mark" →
      (∀ name, fields.lookup "mark" = some (.string name) → name ∉ catalog.marks.names) →
      EntryFails catalog (.object fields) (.unknownMark (.object fields))
  | data {fields : Fields} {name : String} {data : Json} :
      fields.lookup "mark" = some (.string name) → name ∈ catalog.marks.names →
      fields.lookup "data" = some data → data ≠ .null → ¬ IsMarkData data →
      EntryFails catalog (.object fields) (.wrongPropertyType "data" data)
  | legend {fields : Fields} :
      ¬ fields.Has "mark" → fields.Has "legend" →
      (∀ name listed, fields.lookup "legend" = some (.string name) → IsListed name listed →
        listed ∉ catalog.legends.names) →
      EntryFails catalog (.object fields) (.unknownLegend (.object fields))
  | interactor {fields : Fields} :
      ¬ fields.Has "mark" → ¬ fields.Has "legend" → fields.Has "select" →
      (∀ name, fields.lookup "select" = some (.string name) → name ∉ catalog.interactors.names) →
      EntryFails catalog (.object fields) (.unknownInteractor (.object fields))

/-- What has to stand under the key of a directive. -/
inductive DirectiveKind.Takes : DirectiveKind → Json → Prop
  | plot {items : List Json} : Takes .plot (.array items)
  | hconcat {items : List Json} : Takes .hconcat (.array items)
  | vconcat {items : List Json} : Takes .vconcat (.array items)
  | hspace {size : Json} : IsSize size → Takes .hspace size
  | vspace {size : Json} : IsSize size → Takes .vspace size
  | input {name : String} : Takes .input (.string name)

/-- The first fault of a node: what it is comes before what stands in it, the properties of a plot
before its entries, and children from left to right. -/
inductive NodeFails (rules : Rules) : Json → DocumentError → Prop
  | shape {node : Json} :
      (∀ fields, node ≠ .object fields) → NodeFails rules node (.notALayout node)
  | noKey {fields : Fields} :
      (∀ kind ∈ rules.catalog.directives, ¬ fields.Has kind.key) →
      NodeFails rules (.object fields) (.notALayout (.object fields))
  | ambiguous {fields : Fields} {held : List DirectiveKind} :
      rules.strict = true →
      rules.catalog.directives.filter (fun kind => fields.Has kind.key) = held →
      2 ≤ held.length →
      NodeFails rules (.object fields) (.ambiguousLayout (held.map (·.key)) (.object fields))
  | value {fields : Fields} {kind : DirectiveKind} {value : Json} :
      rules.Decides fields kind → fields.lookup kind.key = some value → ¬ kind.Takes value →
      NodeFails rules (.object fields) (.wrongPropertyType kind.key (.object fields))
  | property {before after : Fields} {field : String × Json} {items : List Json} :
      rules.Decides (before ++ field :: after) .plot →
      List.lookup "plot" (before ++ field :: after) = some (.array items) →
      (∀ property ∈ before, IsProperty rules.catalog property) →
      ¬ IsProperty rules.catalog field →
      NodeFails rules (.object (before ++ field :: after)) (.unknownAttribute (.object [field]))
  | entry {fields : Fields} {before after : List Json} {bad : Json} {e : DocumentError} :
      rules.Decides fields .plot →
      fields.lookup "plot" = some (.array (before ++ bad :: after)) →
      (∀ property ∈ fields, IsProperty rules.catalog property) →
      (∀ item ∈ before, IsEntry rules.catalog item) → EntryFails rules.catalog bad e →
      NodeFails rules (.object fields) e
  | hconcat {fields : Fields} {before after : List Json} {bad : Json} {e : DocumentError} :
      rules.Decides fields .hconcat →
      fields.lookup "hconcat" = some (.array (before ++ bad :: after)) →
      (∀ item ∈ before, IsNode rules item) → NodeFails rules bad e →
      NodeFails rules (.object fields) e
  | vconcat {fields : Fields} {before after : List Json} {bad : Json} {e : DocumentError} :
      rules.Decides fields .vconcat →
      fields.lookup "vconcat" = some (.array (before ++ bad :: after)) →
      (∀ item ∈ before, IsNode rules item) → NodeFails rules bad e →
      NodeFails rules (.object fields) e
  | input {fields : Fields} {name : String} :
      rules.Decides fields .input → fields.lookup "input" = some (.string name) →
      name ∉ rules.catalog.inputs.names →
      NodeFails rules (.object fields) (.unknownInput (.object fields))

/-- The first fault of a document. The data section comes first, then the params, then the
layout. -/
inductive DocumentFails (rules : Rules) : Json → DocumentError → Prop
  | shape {root : Json} :
      (∀ fields, root ≠ .object fields) → DocumentFails rules root (.notALayout root)
  | data {root : Fields} {e : DocumentError} :
      Source.DataFails rules.catalog.formats (root.valueAt "data") e →
      DocumentFails rules (.object root) e
  | params {root : Fields} {e : DocumentError} :
      IsSection (fun entry => IsSource rules.catalog.formats entry.1 entry.2)
        (root.valueAt "data") →
      ParamsFault rules.catalog.params (root.valueAt "params") e →
      DocumentFails rules (.object root) e
  | layout {root : Fields} {e : DocumentError} :
      IsSection (fun entry => IsSource rules.catalog.formats entry.1 entry.2)
        (root.valueAt "data") →
      IsSection (fun entry => IsParam rules.catalog.params entry.2) (root.valueAt "params") →
      NodeFails rules (.object (root.filter fun field => field.1 ∉ ["data", "params", "meta"])) e →
      DocumentFails rules (.object root) e

end Dashboard
