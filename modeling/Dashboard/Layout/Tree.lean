import Dashboard.Query.Expression
import Dashboard.Scope
/-!
# Directive trees

The tree that a layout stands for. A value of the document is left as it is, refers to a live
value, or is an expression to be computed; an attribute may also be held fixed.

A reference is a cell of the store in an interpreted tree, and a name in one that was read without
a scope.
-/
namespace Dashboard

inductive Resolved (ρ : Type) where
  | literal (value : Json)
  | reference (target : ρ)
  | expression (expression : Expression)
  | fixed
  deriving Repr

abbrev Options (ρ : Type) := Table (Resolved ρ)

/-- The table that a mark draws, and what else its `data` says. -/
structure MarkData (ρ : Type) where
  table : String
  options : Options ρ

/-- What a plot holds: the values of its attributes, and what it draws or listens to. Names of
attributes and types of the others are those that the catalog gives them. -/
inductive PlotEntry (ρ : Type) where
  | property (name : String) (value : Resolved ρ)
  | mark (type : String) (data : Option (MarkData ρ)) (options : Options ρ)
  | legend (type : String) (options : Options ρ)
  | interactor (type : String) (options : Options ρ)

inductive Directive (ρ : Type) where
  | plot (entries : List (PlotEntry ρ))
  | hconcat (items : List (Directive ρ))
  | vconcat (items : List (Directive ρ))
  | hspace (size : Binary64)
  | vspace (size : Binary64)
  | input (type : String) (options : Options ρ)

/-- A document that was read. -/
structure Document (ρ : Type) where
  metadata : Option Json
  layout : Directive ρ

def PlotEntry.isProperty {ρ : Type} : PlotEntry ρ → Bool
  | property _ _ => true
  | _ => false

def PlotEntry.isMark {ρ : Type} : PlotEntry ρ → Bool
  | mark _ _ _ => true
  | _ => false

/-! ## What a tree shows -/

/-- What a reference to a cell shows. -/
def Store.json (store : Store) (handle : Handle) : Json :=
  ((store.live? handle).map Live.json).getD .null

namespace Resolved

def json (store : Store) : Resolved Handle → Json
  | literal v => v
  | reference handle => store.json handle
  | expression e => e.json
  | fixed => .string "Fixed"

end Resolved

namespace Options

def json (store : Store) (options : Options Handle) : Json :=
  .object (options.map fun (key, value) => (key, value.json store))

end Options

def MarkData.json (store : Store) (data : MarkData Handle) : Json :=
  .object [("from", .string data.table), ("options", data.options.json store)]

/-- A thing with a type and options. -/
def typedJson (type : String) (options : Json) : Json :=
  .object [("type", .string type), ("options", options)]

def PlotEntry.json (store : Store) : PlotEntry Handle → Json
  | property name value =>
    .object [("attribute", .object [("name", .string name), ("value", value.json store)])]
  | mark type data options =>
    .object [("mark", .object
      (("type", .string type) ::
        (data.map fun d => ("data", d.json store)).toList ++
        [("options", options.json store)]))]
  | legend type options => .object [("legend", typedJson type (options.json store))]
  | interactor type options => .object [("interactor", typedJson type (options.json store))]

namespace Directive

mutual

def json (store : Store) : Directive Handle → Json
  | plot entries =>
    .object [("plot", .object [("entries", .array (entries.map (·.json store)))])]
  | hconcat items => .object [("hconcat", .array (jsonAll store items))]
  | vconcat items => .object [("vconcat", .array (jsonAll store items))]
  | hspace size => .object [("hspace", .number (.real size))]
  | vspace size => .object [("vspace", .number (.real size))]
  | input type options => .object [("input", typedJson type (options.json store))]

def jsonAll (store : Store) : List (Directive Handle) → List Json
  | [] => []
  | item :: items => json store item :: jsonAll store items

end

end Directive

def Document.json (store : Store) (document : Document Handle) : Json :=
  .object
    ((document.metadata.map fun m => ("meta", m)).toList ++
      [("directive", document.layout.json store)])

end Dashboard
