import Dashboard.Json.Printer
import Dashboard.Json.Problem
import Dashboard.Text.Quoted
/-!
# What can be wrong with a document

Every cause but a broken JSON text carries the fragment of the document that is to blame.
-/
namespace Dashboard

inductive DocumentError where
  | notJson (error : Json.ReadError)
  | unknownFormat (fragment : Json)
  | unknownParamType (fragment : Json)
  | wrongPropertyType (key : String) (fragment : Json)
  | notALayout (fragment : Json)
  | ambiguousLayout (keys : List String) (fragment : Json)
  | unknownInput (fragment : Json)
  | unknownMark (fragment : Json)
  | unknownLegend (fragment : Json)
  | unknownInteractor (fragment : Json)
  | unknownAttribute (fragment : Json)
  | notAPlotEntry (fragment : Json)
  deriving Repr

namespace DocumentError

def fragment? : DocumentError → Option Json
  | notJson _ => none
  | unknownFormat fragment => some fragment
  | unknownParamType fragment => some fragment
  | wrongPropertyType _ fragment => some fragment
  | notALayout fragment => some fragment
  | ambiguousLayout _ fragment => some fragment
  | unknownInput fragment => some fragment
  | unknownMark fragment => some fragment
  | unknownLegend fragment => some fragment
  | unknownInteractor fragment => some fragment
  | unknownAttribute fragment => some fragment
  | notAPlotEntry fragment => some fragment

def message : DocumentError → String
  | notJson error => "Invalid JSON specification: " ++ error.message
  | unknownFormat fragment => "Unrecognized data format type: " ++ fragment.compact
  | unknownParamType fragment => "Unrecognized param type: " ++ fragment.compact
  | wrongPropertyType key fragment =>
    "Invalid property type for '" ++ key ++ "': " ++ fragment.compact
  | notALayout fragment => "Invalid specification: " ++ fragment.compact
  | ambiguousLayout keys fragment =>
    "Ambiguous specification, directive keys " ++ Text.quotedList keys ++ " in: " ++
      fragment.compact
  | unknownInput fragment => "Unrecognized input: " ++ fragment.compact
  | unknownMark fragment => "Unrecognized mark type: " ++ fragment.compact
  | unknownLegend fragment => "Unrecognized legend type: " ++ fragment.compact
  | unknownInteractor fragment => "Unrecognized selection type: " ++ fragment.compact
  | unknownAttribute fragment => "Unrecognized attribute: " ++ fragment.compact
  | notAPlotEntry fragment => "Invalid plot entry: " ++ fragment.compact

end DocumentError

end Dashboard
