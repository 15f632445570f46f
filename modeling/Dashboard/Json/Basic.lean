import Dashboard.Number.Binary64
import Dashboard.Table
/-!
# JSON values

Integers and reals are kept apart, as their texts are. The fields of an object keep their order.
-/
namespace Dashboard

inductive Number where
  | integer (n : Int)
  | real (x : Binary64)
  deriving DecidableEq, Repr

inductive Json where
  | null
  | bool (b : Bool)
  | number (n : Number)
  | string (s : String)
  | array (items : List Json)
  | object (fields : List (String × Json))
  deriving Repr, Inhabited

/-- The nearest 64-bit number, if it is finite. -/
def Number.toBinary64? : Number → Option Binary64
  | .integer n => Binary64.ofInt? n
  | .real x => some x

namespace Json

def string? : Json → Option String
  | string s => some s
  | _ => none

def array? : Json → Option (List Json)
  | array items => some items
  | _ => none

def isNull : Json → Bool
  | null => true
  | _ => false

theorem string?_eq_some {value : Json} {s : String} :
    value.string? = some s ↔ value = .string s := by
  cases value <;> simp [string?]

theorem array?_eq_some {value : Json} {items : List Json} :
    value.array? = some items ↔ value = .array items := by
  cases value <;> simp [array?]

end Json

abbrev Fields := Table Json

namespace Fields

/-- The value under `key`, where null counts as absent. -/
def present? (fields : Fields) (key : String) : Option Json :=
  (fields.lookup key).filter fun v => !v.isNull

/-- The value under `key`, null if there is none. -/
def valueAt (fields : Fields) (key : String) : Json :=
  (fields.lookup key).getD .null

def string? (fields : Fields) (key : String) : Option String :=
  (fields.lookup key).bind Json.string?

theorem present?_eq_some {fields : Fields} {key : String} {value : Json} :
    fields.present? key = some value ↔ fields.lookup key = some value ∧ value ≠ .null := by
  rw [present?, Option.filter_eq_some_iff]
  cases value <;> simp [Json.isNull]

theorem string?_eq_some {fields : Fields} {key s : String} :
    fields.string? key = some s ↔ fields.lookup key = some (.string s) := by
  rw [string?]
  cases fields.lookup key with
  | none => simp
  | some value => cases value <;> simp [Json.string?]

end Fields

theorem sizeOf_lt_of_lookup {key : String} {v : Json} :
    {fields : Fields} → fields.lookup key = some v → sizeOf v < sizeOf fields
  | (k, w) :: rest, h => by
    rw [List.lookup_cons] at h
    split at h
    · cases h
      simp only [List.cons.sizeOf_spec, Prod.mk.sizeOf_spec]
      omega
    · have := sizeOf_lt_of_lookup h
      simp only [List.cons.sizeOf_spec]
      omega

end Dashboard
