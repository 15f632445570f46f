import Dashboard.Document.Params
import Dashboard.Json.Reader
import Dashboard.Layout.Node
import Dashboard.Source.Load
/-!
# Documents

A document is an object with a data section, a params section and metadata; what remains of it is
the layout. The data section alone decides which statements are submitted. They are submitted only
if that section is sound, and before anything is said about the rest.
-/
namespace Dashboard

/-- The keys that are not part of the layout. -/
def documentKeys : List String := ["data", "params", "meta"]

/-- The layout of a document. -/
def layoutOf (root : Fields) : Json :=
  .object (root.without documentKeys)

/-- Reads params and layout. -/
def readDocument {ρ : Type} {m : Type → Type} [Reader ρ m] (rules : Rules) (root : Fields) :
    m (Document ρ) := do
  readParams rules.catalog (root.valueAt "params")
  let layout ← readNode rules (layoutOf root)
  return ⟨root.lookup "meta", layout⟩

/-- Interprets a document: loads its data and then reads the rest. -/
def Interpreting.document (rules : Rules) (engine : Engine) (root : Json) :
    Interpreting (Document Handle) :=
  match root with
  | .object fields => do
    let _report ← loadData rules.catalog.formats engine (Fields.valueAt fields "data")
    readDocument rules fields
  | _ => throw (.notALayout root)

end Dashboard
