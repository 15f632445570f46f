import Dashboard.Proofs.Rereading
import Dashboard.Query.Expression
import Mathlib.Data.List.Forall2
/-!
# Reading the arguments of a call back

A literal is read as the value that it was made from, but that an object has become the text of its
compact JSON. A name is read as itself, and no literal begins as a name does. So the text of a call
says what its arguments are, one by one.
-/
namespace Dashboard

/-! ## Values without objects -/

mutual

/-- The value with the text of its compact JSON in the place of every object. -/
def Json.flattened : Json → Json
  | .array items => .array (flattenedItems items)
  | .object fields => .string (Json.object fields).compact
  | v => v

def Json.flattenedItems : List Json → List Json
  | [] => []
  | item :: items => item.flattened :: flattenedItems items

end

namespace Query

mutual

/-- The value that a literal stands for, unless it has a numeral in it that is no number. -/
def Literal.json? : Literal → Option Json
  | .null => some .null
  | .bool b => some (.bool b)
  | .numeral written => (Number.ofText? written).map .number
  | .text s => some (.string s)
  | .list items => (Literal.jsonAll? items).map .array

def Literal.jsonAll? : List Literal → Option (List Json)
  | [] => some []
  | item :: items => item.json?.bind fun v => (Literal.jsonAll? items).map (v :: ·)

end

mutual

theorem json?_ofJson (v : Json) : (Literal.ofJson v).json? = some v.flattened := by
  cases v with
  | array items => rw [Literal.ofJson, Literal.json?, jsonAll?_ofItems items]; rfl
  | number n => rw [Literal.ofJson, Literal.json?, n.ofText?_text]; rfl
  | _ => rfl

theorem jsonAll?_ofItems (items : List Json) :
    Literal.jsonAll? (Literal.ofItems items) = some (Json.flattenedItems items) := by
  cases items with
  | nil => rfl
  | cons item items =>
    rw [Literal.ofItems, Literal.jsonAll?, json?_ofJson item, jsonAll?_ofItems items]
    rfl

end

mutual

/-- A literal does not tell an object from its text. -/
theorem literal_flattened (v : Json) : literal v.flattened = literal v := by
  cases v with
  | array items => rw [Json.flattened, literal, literals_flattened items, literal]
  | _ => rfl

theorem literals_flattened (items : List Json) :
    literals (Json.flattenedItems items) = literals items := by
  cases items with
  | nil => rfl
  | cons item items =>
    rw [Json.flattenedItems, literals, literal_flattened item, literals_flattened items, literals]

end

/-- Reads a literal as the value that it stands for. -/
def readValue : Decoder Json := fun cs =>
  (readLiteral cs.length cs).bind fun (found, rest) => found.json?.map fun v => (v, rest)

theorem readValue_literal (v : Json) {rest : List Char} (ends : Ends rest) :
    readValue ((literal v).toList ++ rest) = some (v.flattened, rest) := by
  have enough : (literal v).toList.length ≤ ((literal v).toList ++ rest).length := by simp
  rw [readValue, readLiteral_literal v enough ends]
  simp only [Option.bind_some, json?_ofJson, Option.map_some]

/-! ## Names -/

def readIdentifier : Decoder String
  | '"' :: rest => (readMarked '"' rest).map fun (name, rest) => (String.ofList name, rest)
  | _ => none

theorem readIdentifier_identifier (name : String) {rest : List Char}
    (closed : ∀ c ∈ rest.head?, c ≠ '"') :
    readIdentifier ((identifier name).toList ++ rest) = some (name, rest) := by
  rw [identifier, toList_enclosed, readIdentifier, readMarked_doubled closed]
  simp only [Option.map_some, String.ofList_toList]

theorem readIdentifier_other {c : Char} (other : c ≠ '"') (cs : List Char) :
    readIdentifier (c :: cs) = none := by
  unfold readIdentifier
  split
  · next same => exact absurd (List.cons.inj same).1 other
  · rfl

/-! ## Arguments -/

/-- What an argument says: the name of a column, or a value. -/
inductive Argument where
  | column (name : String)
  | value (v : Json)

def Argument.ofJson : Json → Argument
  | .string name => .column name
  | v => .value v.flattened

/-- The two arguments are the same column, or neither is a column and they are the same value but
for objects that are texts. -/
inductive SameArgument : Json → Json → Prop
  | column (name : String) : SameArgument (.string name) (.string name)
  | value {v w : Json} : (∀ s, v ≠ .string s) → (∀ s, w ≠ .string s) →
      v.flattened = w.flattened → SameArgument v w

theorem ofJson_of_value {v : Json} (noColumn : ∀ s, v ≠ .string s) :
    Argument.ofJson v = .value v.flattened := by
  cases v with
  | string s => exact absurd rfl (noColumn s)
  | _ => rfl

theorem argument_of_value {v : Json} (noColumn : ∀ s, v ≠ .string s) : argument v = literal v := by
  cases v with
  | string s => exact absurd rfl (noColumn s)
  | _ => rfl

theorem sameArgument_of_ofJson {v w : Json} (same : Argument.ofJson v = Argument.ofJson w) :
    SameArgument v w := by
  by_cases left : ∃ name, v = .string name
  · obtain ⟨name, rfl⟩ := left
    by_cases right : ∃ name, w = .string name
    · obtain ⟨other, rfl⟩ := right
      rw [Argument.column.inj same]
      exact .column other
    · rw [ofJson_of_value (not_exists.1 right)] at same
      cases same
  · have noColumn := not_exists.1 left
    rw [ofJson_of_value noColumn] at same
    by_cases right : ∃ name, w = .string name
    · obtain ⟨other, rfl⟩ := right
      cases same
    · rw [ofJson_of_value (not_exists.1 right)] at same
      exact .value noColumn (not_exists.1 right) (Argument.value.inj same)

theorem SameArgument.argument_eq {v w : Json} (h : SameArgument v w) : argument v = argument w := by
  cases h with
  | column name => rfl
  | value noColumn noColumn' same =>
    rw [argument_of_value noColumn, argument_of_value noColumn', ← literal_flattened v, same,
      literal_flattened]

/-- Reads a name, or else a literal. -/
def readArgument : Decoder Argument := fun cs =>
  ((readIdentifier cs).map fun (name, rest) => (.column name, rest)) <|>
    (readValue cs).map fun (v, rest) => (.value v, rest)

theorem readArgument_argument (v : Json) {rest : List Char} (ends : Ends rest) :
    readArgument ((argument v).toList ++ rest) = some (.ofJson v, rest) := by
  by_cases column : ∃ name, v = .string name
  · obtain ⟨name, rfl⟩ := column
    rw [readArgument, argument, readIdentifier_identifier name (ends.ne_mark rfl)]
    rfl
  · have noColumn := not_exists.1 column
    have noName : readIdentifier ((literal v).toList ++ rest) = none := by
      obtain ⟨c, cs, written, -, other⟩ := opens_literal v
      rw [written, List.cons_append, readIdentifier_other other]
    rw [readArgument, argument_of_value noColumn, noName, readValue_literal v ends,
      ofJson_of_value noColumn]
    rfl

/-- Reads the arguments of a call after its opening bracket, as many as there are. -/
def readArguments : Decoder (List Argument) := fun cs =>
  ((readArgument cs).bind fun (first, rest) =>
    (readMore readArgument rest.length rest).map fun (others, rest) => (first :: others, rest)) <|>
  some ([], cs)

theorem readArguments_joined (arguments : List Json) (rest : List Char) :
    readArguments ((", ".intercalate (arguments.map argument)).toList ++ ')' :: rest) =
      some (arguments.map .ofJson, ')' :: rest) := by
  cases arguments with
  | nil => rfl
  | cons v others =>
    -- a closing bracket ends the last argument, a comma every other one
    have closing : Ends (')' :: rest) := ends_cons rfl rest
    have reads (w : Json) (_ : w ∈ v :: others) (rest : List Char) (ends : Ends rest) :=
      readArgument_argument w ends
    obtain ⟨left, head, tail⟩ := reads_joined (fun rest => ends_cons rfl (' ' :: rest)) reads
      closing (by rintro _ ⟨⟩; decide)
    rw [readArguments, head]
    simp only [Option.bind_some, tail, Option.map_some, List.map_cons]
    rfl

theorem ofJson_of_call_eq {function : String} {a b : List Json}
    (same : call function (a.map argument) = call function (b.map argument)) :
    a.map Argument.ofJson = b.map Argument.ofJson := by
  have bracketed (arguments : List Json) : (call function (arguments.map argument)).toList =
      function.toList ++ '(' :: ((", ".intercalate (arguments.map argument)).toList ++ [')']) := by
    simp [call]
  have behind := congrArg String.toList same
  rw [bracketed, bracketed] at behind
  have read := congrArg readArguments (List.cons.inj (List.append_cancel_left behind)).2
  rw [readArguments_joined, readArguments_joined] at read
  exact (Prod.mk.inj (Option.some.inj read)).1

/-- Calls of a function are the same text just if their arguments are the same one by one. -/
theorem call_eq_iff (function : String) (a b : List Json) :
    call function (a.map argument) = call function (b.map argument) ↔
      List.Forall₂ SameArgument a b := by
  constructor
  · intro same
    have found := List.forall₂_map_left_iff.1 (List.forall₂_map_right_iff.1
      (List.forall₂_eq_eq_eq ▸ ofJson_of_call_eq same))
    exact found.imp fun _ _ => sameArgument_of_ofJson
  · intro same
    have texts : a.map argument = b.map argument := by
      induction same with
      | nil => rfl
      | cons first _ ih => rw [List.map_cons, List.map_cons, first.argument_eq, ih]
    rw [texts]

/-- Arguments are read back from the text of a query: a literal as its value with texts for objects,
whatever follows it, a number as itself, a name as itself. So the text of a call tells all arguments
apart that are not the same. -/
theorem arguments_uniquely_decodable :
    (∀ (v : Json) (rest : List Char), Ends rest →
      readValue ((literal v).toList ++ rest) = some (v.flattened, rest)) ∧
    (∀ (name : String) (rest : List Char), (∀ c ∈ rest.head?, c ≠ '"') →
      readIdentifier ((identifier name).toList ++ rest) = some (name, rest)) ∧
    (∀ m n : Number, m.text = n.text ↔ m = n) ∧
    ∀ (function : String) (a b : List Json),
      (Expression.call function a).text = (Expression.call function b).text ↔
        List.Forall₂ SameArgument a b :=
  ⟨fun v _ ends => readValue_literal v ends,
    fun name _ closed => readIdentifier_identifier name closed,
    fun _ _ => ⟨fun same => Number.text_injective same, congrArg Number.text⟩,
    fun function a b => call_eq_iff function a b⟩

end Query
end Dashboard
