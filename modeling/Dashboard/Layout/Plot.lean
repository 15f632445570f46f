import Dashboard.Layout.Value
import Dashboard.Text.Uppercase
/-!
# Plots

The properties of a plot come first, in the order of its keys, and then its entries. An entry is a
mark, a legend or an interactor, by the first of these keys that it has.
-/
namespace Dashboard
variable {ρ : Type} {m : Type → Type} [Reader ρ m]

/-- The value of an attribute that holds a scale as it is. -/
def fixedMarker : String := "Fixed"

def readPropertyValue (value : Json) : m (Resolved ρ) :=
  if value.string? = some fixedMarker then pure .fixed else readValue freshParam value

def readProperty (catalog : Catalog) (field : String × Json) : m (PlotEntry ρ) :=
  match catalog.attributes.lookup field.1 with
  | none => Reader.fail (.unknownAttribute (.object [field]))
  | some name => .property name <$> readPropertyValue field.2

/-- The type that a catalog gives to the name under `key`. -/
def typeUnder? (types : Table String) (fields : Fields) (key : String) : Option String :=
  (fields.string? key).bind fun name => types.lookup name

/-- Reads the `data` of a mark, which names its table under `from`. -/
def readMarkData (data : Json) : m (MarkData ρ) :=
  match data with
  | .object fields =>
    match Fields.string? fields "from" with
    | some table => .mk table <$> readOptions (Table.without fields ["from"])
    | none => Reader.fail (.wrongPropertyType "data" data)
  | _ => Reader.fail (.wrongPropertyType "data" data)

def readData (fields : Fields) : m (Option (MarkData ρ)) :=
  match fields.present? "data" with
  | none => pure none
  | some data => some <$> readMarkData data

def readMark (catalog : Catalog) (fields : Fields) : m (PlotEntry ρ) :=
  match typeUnder? catalog.marks fields "mark" with
  | none => Reader.fail (.unknownMark (.object fields))
  | some type => do
    let data ← readData fields
    let options ← readChannels catalog (Table.without fields ["mark", "data"])
    return .mark type data options

/-- The name under which a legend is listed: `color` is `legendColor`. -/
def legendName (kind : String) : String :=
  "legend" ++ Text.capitalize kind

/-- The type that a catalog gives to a legend. -/
def legendType? (catalog : Catalog) (fields : Fields) : Option String :=
  ((fields.string? "legend").map legendName).bind fun name => catalog.legends.lookup name

def readLegend (catalog : Catalog) (fields : Fields) : m (PlotEntry ρ) :=
  match legendType? catalog fields with
  | none => Reader.fail (.unknownLegend (.object fields))
  | some type => .legend type <$> readOptions (Table.without fields ["legend"])

def readInteractor (catalog : Catalog) (fields : Fields) : m (PlotEntry ρ) :=
  match typeUnder? catalog.interactors fields "select" with
  | none => Reader.fail (.unknownInteractor (.object fields))
  | some type => .interactor type <$> readOptions (Table.without fields ["select"])

def readEntry (catalog : Catalog) (entry : Json) : m (PlotEntry ρ) :=
  match entry with
  | .object fields =>
    if (Fields.present? fields "mark").isSome then readMark catalog fields
    else if (Fields.present? fields "legend").isSome then readLegend catalog fields
    else if (Fields.present? fields "select").isSome then readInteractor catalog fields
    else Reader.fail (.notAPlotEntry entry)
  | _ => Reader.fail (.notAPlotEntry entry)

/-- What stands under `plot`, if it is a list. -/
def plotItems (fields : Fields) : List Json :=
  ((fields.lookup "plot").bind Json.array?).getD []

/-- Reads the properties and entries of a plot. Keys of directives are no properties, also those
that did not decide what the node is. -/
def readPlot (catalog : Catalog) (fields : Fields) (items : List Json) :
    m (List (PlotEntry ρ)) := do
  let properties ← (Table.without fields (catalog.directives.map (·.key))).mapM
    (readProperty catalog)
  let entries ← items.mapM (readEntry catalog)
  return properties ++ entries

end Dashboard
