import Dashboard.Layout.Tree
import Dashboard.Number.Decimal
import Dashboard.Reading
import Dashboard.Settings
/-!
# Catalogs

A catalog says which names a document may use and what each of them stands for. The directive
table is ordered: of the keys that a layout node holds, the first in the table decides.
-/
namespace Dashboard

/-- The six kinds of layout node. -/
inductive DirectiveKind where
  | plot
  | hconcat
  | vconcat
  | hspace
  | vspace
  | input
  deriving DecidableEq, Repr

/-- What stands under the key of a layout node. -/
inductive NodeContent where
  | plot (items : List Json)
  | hconcat (items : List Json)
  | vconcat (items : List Json)
  | hspace (size : Binary64)
  | vspace (size : Binary64)
  | input (name : String)

/-- The width of a space: a number, or a string that spells one. -/
def spaceOf? : Json → Option Binary64
  | .number n => n.toBinary64?
  | .string s => Binary64.ofText? s
  | _ => none

namespace DirectiveKind

def all : List DirectiveKind := [plot, hconcat, vconcat, hspace, vspace, input]

def key : DirectiveKind → String
  | plot => "plot"
  | hconcat => "hconcat"
  | vconcat => "vconcat"
  | hspace => "hspace"
  | vspace => "vspace"
  | input => "input"

/-- The content that a value is for a node of this kind, if it fits. -/
def content? (kind : DirectiveKind) (value : Json) : Option NodeContent :=
  match kind with
  | plot => value.array?.map .plot
  | hconcat => value.array?.map .hconcat
  | vconcat => value.array?.map .vconcat
  | hspace => (spaceOf? value).map .hspace
  | vspace => (spaceOf? value).map .vspace
  | input => value.string?.map .input

def accepts (kind : DirectiveKind) (value : Json) : Bool :=
  (kind.content? value).isSome

end DirectiveKind

/-- What becomes of a data source: an error, nothing to do, or a statement that fills the table. -/
abbrev Format := String → Fields → Except DocumentError (Option String)

/-- The names that a document may use. Where a name stands only for the type of what it makes, the
table holds that type. -/
structure Catalog where
  formats : Table Format
  directives : List DirectiveKind
  transforms : Table (List Json → Expression)
  params : Table (Json → Live)
  interactors : Table String
  attributes : Table String
  legends : Table String
  inputs : Table String
  marks : Table String

/-- A name to add to a catalog, in place of an entry of this name if there is one. -/
inductive Registration where
  | format (name : String) (format : Format)
  | transform (name : String) (transform : List Json → Expression)
  | param (name : String) (construct : Json → Live)
  | interactor (name type : String)
  | property (name type : String)
  | legend (name type : String)
  | input (name type : String)
  | mark (name type : String)

namespace Catalog

def register (catalog : Catalog) : Registration → Catalog
  | .format name format => { catalog with formats := catalog.formats.put name format }
  | .transform name transform =>
    { catalog with transforms := catalog.transforms.put name transform }
  | .param name construct => { catalog with params := catalog.params.put name construct }
  | .interactor name type => { catalog with interactors := catalog.interactors.put name type }
  | .property name type =>
    { catalog with attributes := catalog.attributes.put name type }
  | .legend name type => { catalog with legends := catalog.legends.put name type }
  | .input name type => { catalog with inputs := catalog.inputs.put name type }
  | .mark name type => { catalog with marks := catalog.marks.put name type }

def registerAll (catalog : Catalog) (registrations : List Registration) : Catalog :=
  registrations.foldl register catalog

theorem directives_registerAll (catalog : Catalog) (registrations : List Registration) :
    (catalog.registerAll registrations).directives = catalog.directives := by
  induction registrations generalizing catalog with
  | nil => rfl
  | cons registration registrations ih =>
    refine (ih (catalog.register registration)).trans ?_
    cases registration <;> rfl

/-- A registration takes no name away. -/
theorem params_registerAll {catalog : Catalog} {name : String} (h : name ∈ catalog.params.names)
    (registrations : List Registration) :
    name ∈ (catalog.registerAll registrations).params.names := by
  induction registrations generalizing catalog with
  | nil => exact h
  | cons registration registrations ih =>
    refine ih ?_
    cases registration with
    | param other construct =>
      rw [register, Table.names_put]
      split
      · exact h
      · exact List.mem_append_left _ h
    | _ => exact h

end Catalog

/-- How documents are read. -/
structure Rules extends Settings where
  catalog : Catalog

end Dashboard
