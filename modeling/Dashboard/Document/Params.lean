import Dashboard.Catalog.Basic
/-!
# The params section

Every entry defines a name. An object with a key `select` names the kind of live value; anything
else is the initial value of a plain param.
-/
namespace Dashboard

/-- The kind that an entry names, if it is a string, and its initial value. -/
def paramDefinition (entry : Json) : Option String × Json :=
  match entry with
  | .object fields =>
    match fields.lookup "select" with
    | some kind => (kind.string?, Fields.valueAt fields "value")
    | none => (some "value", entry)
  | _ => (some "value", entry)

/-- An entry without `select`. -/
def IsPlain (entry : Json) : Prop :=
  ∀ fields, entry = .object fields → fields.lookup "select" = none

theorem paramDefinition_of_plain {entry : Json} (h : IsPlain entry) :
    paramDefinition entry = (some "value", entry) := by
  cases entry with
  | object fields => simp only [paramDefinition, h fields rfl]
  | _ => rfl

theorem paramDefinition_of_kind {fields : Fields} {kind : Json}
    (h : fields.lookup "select" = some kind) :
    paramDefinition (.object fields) = (kind.string?, fields.valueAt "value") := by
  simp only [paramDefinition, h]

theorem isPlain_or_kind (entry : Json) :
    IsPlain entry ∨ ∃ fields kind, entry = .object fields ∧ fields.lookup "select" = some kind := by
  cases entry with
  | object fields =>
    cases here : fields.lookup "select" with
    | none =>
      refine .inl ?_
      rintro _ ⟨⟩
      exact here
    | some kind => exact .inr ⟨fields, kind, rfl, here⟩
  | _ => exact .inl nofun

variable {ρ : Type} {m : Type → Type} [Reader ρ m]

/-- Reads an entry, which is an occurrence of the name that it defines. -/
def readParam (params : Table (Json → Live)) (entry : String × Json) : m Unit :=
  let (kind, value) := paramDefinition entry.2
  match kind.bind fun kind => params.lookup kind with
  | some construct => discard (Reader.meet ⟨entry.1, construct value⟩)
  | none => Reader.fail (.unknownParamType entry.2)

/-- Reads a params section. -/
def readParams (catalog : Catalog) (params : Json) : m Unit :=
  match params with
  | .null => pure ()
  | .object entries => forM entries (readParam catalog.params)
  | _ => Reader.fail (.wrongPropertyType "params" params)

end Dashboard
