import Dashboard.Catalog.Basic
/-!
# Values in a layout

A value refers to a name, in one of two spellings, or it is an expression, or it stands for
itself. Expressions are looked for in the channels of marks only, and there before references.
-/
namespace Dashboard
variable {ρ : Type} {m : Type → Type} [Reader ρ m]

/-- The name that a value refers to: `"$name"` or an object with a string under `param`. -/
def referenceName? : Json → Option String
  | .string s =>
    match s.toList with
    | '$' :: c :: cs => some (String.ofList (c :: cs))
    | _ => none
  | .object fields => Fields.string? fields "param"
  | _ => none

/-- Reads a reference, or else the value itself. A name that is not bound yet stands for
`initial`. -/
def readValue (initial : Live) (value : Json) : m (Resolved ρ) :=
  match referenceName? value with
  | some name => .reference <$> Reader.meet ⟨name, initial⟩
  | none => pure (.literal value)

/-- The arguments of a transform. A count has none, whatever is written. -/
def transformArguments (name : String) (payload : Json) : List Json :=
  if name = "count" then []
  else
    match payload with
    | .array items => items
    | v => [v]

/-- An expression as written. What is no string is written as JSON. -/
def writtenExpression (text : Json) (label : Option String) : Expression :=
  { text := text.string?.getD text.compact, label }

/-- The expression of an object with a key `expr`, or of one whose only key names a transform. -/
def transform? (transforms : Table (List Json → Expression)) : Json → Option Expression
  | .object fields =>
    match fields.lookup "expr" with
    | some text => some (writtenExpression text (Fields.string? fields "label"))
    | none =>
      match fields with
      | [(name, payload)] =>
        (transforms.lookup name).map fun transform => transform (transformArguments name payload)
      | _ => none
  | _ => none

/-- What a name stands for where a value is expected. -/
def freshParam : Live := .param .null

/-- What a name stands for where a selection is expected. -/
def freshSelection : Live := .empty .intersect

/-- Reads the value of a channel. -/
def readChannel (transforms : Table (List Json → Expression)) (value : Json) : m (Resolved ρ) :=
  match transform? transforms value with
  | some e => pure (.expression e)
  | none => readValue freshParam value

/-- Reads the value of every field and keeps it in its place. -/
def readFields (read : Json → m (Resolved ρ)) (fields : Fields) : m (Options ρ) :=
  fields.mapM fun (key, value) => (key, ·) <$> read value

/-- Reads options that may refer to selections. -/
def readOptions (fields : Fields) : m (Options ρ) :=
  readFields (readValue freshSelection) fields

/-- Reads the channels of a mark. -/
def readChannels (catalog : Catalog) (fields : Fields) : m (Options ρ) :=
  readFields (readChannel catalog.transforms) fields

end Dashboard
