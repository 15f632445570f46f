import Dashboard.Catalog.Basic
import Dashboard.Source.Format
/-!
# The standard catalog

The names that every document may use.
-/
namespace Dashboard.Standard

/-- The aggregates, with the functions that compute them. -/
def aggregates : List (String × String) :=
  [("argmax", "ARG_MAX"), ("argmin", "ARG_MIN"), ("avg", "AVG"), ("first", "FIRST"),
   ("last", "LAST"), ("max", "MAX"), ("median", "MEDIAN"), ("min", "MIN"), ("mode", "MODE"),
   ("product", "PRODUCT"), ("quantile", "QUANTILE"), ("stddev", "STDDEV"),
   ("stddevPop", "STDDEV_POP"), ("sum", "SUM"), ("variance", "VARIANCE"), ("varPop", "VAR_POP")]

/-- The first argument, which date parts and geometries are taken of. -/
def firstArgument : List Json → String
  | [] => "NULL"
  | v :: _ => Query.argument v

/-- A date in one common year, so that dates of different years line up. -/
def commonDate (month day : String) : Expression :=
  { text := Query.call "MAKE_DATE" ["2012", month, day] }

def monthOf (column : String) : String := Query.call "MONTH" [column]

def dayOf (column : String) : String := Query.call "DAY" [column]

/-- Nested calls of functions on one argument, the outermost first. -/
def nested (functions : List String) (argument : String) : Expression :=
  { text := functions.foldr (fun f a => Query.call f [a]) argument }

def transforms : Table (List Json → Expression) :=
  aggregates.map (fun (name, function) => (name, Expression.aggregateCall function)) ++
  [("count", fun _ => { text := "COUNT(*)", aggregate := true }),
   ("dateMonth", fun args => commonDate (monthOf (firstArgument args)) "1"),
   ("dateMonthDay", fun args =>
      commonDate (monthOf (firstArgument args)) (dayOf (firstArgument args))),
   ("dateDay", fun args => commonDate "1" (dayOf (firstArgument args))),
   ("centroidX", fun args => nested ["ST_X", "ST_Centroid"] (firstArgument args)),
   ("centroidY", fun args => nested ["ST_Y", "ST_Centroid"] (firstArgument args)),
   ("geojson", fun args => nested ["ST_AsGeoJSON"] (firstArgument args))]

def params : Table (Json → Live) :=
  ("value", Live.param) :: SelectionKind.all.map fun kind => (kind.name, fun _ => Live.empty kind)

def marks : List String :=
  ["area", "areaX", "areaY", "arrow", "axisX", "axisY", "axisFx", "axisFy", "barX", "barY",
   "cell", "cellX", "cellY", "circle", "contour", "denseLine", "density", "densityX", "densityY",
   "dot", "dotX", "dotY", "errorbarX", "errorbarY", "frame", "geo", "graticule", "gridX",
   "gridY", "gridFx", "gridFy", "heatmap", "hexagon", "hexbin", "hexgrid", "image", "line",
   "lineX", "lineY", "link", "raster", "rasterTile", "rect", "rectX", "rectY", "regressionY",
   "ruleX", "ruleY", "sphere", "spike", "text", "textX", "textY", "tickX", "tickY", "vector",
   "vectorX", "vectorY"]

def legends : List String :=
  ["legendColor", "legendOpacity", "legendSymbol"]

def interactors : List String :=
  ["highlight", "intervalX", "intervalXY", "intervalY", "nearest", "nearestX", "nearestY", "pan",
   "panX", "panY", "panZoom", "panZoomX", "panZoomY", "toggle", "toggleColor", "toggleX",
   "toggleY", "toggleZ"]

def inputs : List String :=
  ["menu", "search", "slider", "table"]

/-- The attributes of a plot as a whole. -/
def plotAttributes : List String :=
  ["style", "width", "height", "margin", "marginTop", "marginRight", "marginBottom",
   "marginLeft", "margins", "inset", "align", "aspectRatio", "axis", "ariaLabel",
   "ariaDescription", "clip", "grid", "label", "padding", "round", "name", "projectionType",
   "projectionParallels", "projectionPrecision", "projectionRotate", "projectionDomain",
   "projectionInset", "projectionClip"]

def positionScales : List String :=
  ["x", "y", "fx", "fy"]

def positionProperties : List String :=
  ["Scale", "Domain", "Range", "Nice", "Inset", "InsetLeft", "InsetRight", "InsetTop",
   "InsetBottom", "Clamp", "Round", "Align", "Padding", "PaddingInner", "PaddingOuter", "Axis",
   "Ticks", "TickSize", "TickSpacing", "TickPadding", "TickFormat", "TickRotate", "Grid", "Line",
   "Label", "LabelAnchor", "LabelArrow", "LabelOffset", "FontVariant", "AriaLabel",
   "AriaDescription", "Reverse", "Zero", "Percent", "Base", "Exponent", "Constant"]

def visualScales : List String :=
  ["color", "opacity", "r", "length", "symbol"]

def visualProperties : List String :=
  ["Scale", "Domain", "Range", "Clamp", "N", "Nice", "Scheme", "Unknown", "Interpolate", "Pivot",
   "Symmetric", "Label", "Reverse", "Zero", "TickFormat", "Base", "Exponent", "Constant"]

/-- An attribute for each property of each scale. -/
def scaleAttributes (scales properties : List String) : List String :=
  scales.flatMap fun scale => properties.map (scale ++ ·)

/-- Names that stand for a type of the same name. -/
def ownTypes (names : List String) : Table String :=
  names.map fun name => (name, name)

def catalog : Catalog where
  formats :=
    [("table", Source.table), ("parquet", Source.parquet), ("csv", Source.csv),
     ("json", Source.json)]
  directives := DirectiveKind.all
  transforms := transforms
  params := params
  interactors := ownTypes interactors
  attributes := ownTypes
    (plotAttributes ++ scaleAttributes positionScales positionProperties ++
      scaleAttributes visualScales visualProperties)
  legends := ownTypes legends
  inputs := ownTypes inputs
  marks := ownTypes marks

end Dashboard.Standard
