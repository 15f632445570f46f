import Dashboard.Json.Printer
import Dashboard.Json.Skip
import Dashboard.Text.Quoted
/-!
# Settings

Settings are read from JSON: an object, whose other keys are skipped, or a list of the values in
their order. A value that is missing is off.
-/
namespace Dashboard

structure Settings where
  /-- Refuse layout nodes with more than one directive key. -/
  strict : Bool := false
  deriving DecidableEq, Repr

namespace Settings

open Json (Reads Stop Problem skipBlanks)

def describe : Number → String
  | .integer n => "integer `" ++ toString n ++ "`"
  | .real x => "floating point `" ++ x.text ++ "`"

/-- What is wrong in a value, or else that it is of the wrong kind. -/
def misplaced {α : Type} (demanded : String) (value : Reads α) (found : α → String) : Stop :=
  match value with
  | .error e => e
  | .ok (a, rest) => .here (.wrongKind (found a) demanded) rest

/-- A value of the wrong kind, met where it starts. It is read if it is no container. -/
def wrongKind (demanded : String) (cs : List Char) : Stop :=
  match cs with
  | 'n' :: rest => misplaced demanded (Json.readWord ['u', 'l', 'l'] rest) fun _ => "null"
  | 't' :: rest => misplaced demanded (Json.readWord ['r', 'u', 'e'] rest) fun _ => "boolean `true`"
  | 'f' :: rest =>
    misplaced demanded (Json.readWord ['a', 'l', 's', 'e'] rest) fun _ => "boolean `false`"
  | '-' :: rest => misplaced demanded (Json.readNumber true rest) describe
  | '"' :: rest => misplaced demanded (Json.readString rest) fun s => "string " ++ Text.quoted s
  | '[' :: _ => .here (.wrongKind "sequence" demanded) cs
  | '\x7b' :: _ => .here (.wrongKind "map" demanded) cs
  | c :: _ =>
    if c.isDigit then misplaced demanded (Json.readNumber false cs) describe
    else .peeking .expectedValue cs
  | [] => .peeking .endInValue []

def readBool (cs : List Char) : Reads Bool :=
  match skipBlanks cs with
  | 't' :: rest => (Json.readWord ['r', 'u', 'e'] rest).map fun ((), rest) => (true, rest)
  | 'f' :: rest => (Json.readWord ['a', 'l', 's', 'e'] rest).map fun ((), rest) => (false, rest)
  | rest => .error (wrongKind "a boolean" rest)

/-- What messages call settings as a whole. -/
def title : String := "struct ParseOptions"

/-- Reads the list form after its opening bracket. -/
def readList (cs : List Char) : Reads Settings :=
  match skipBlanks cs with
  | [] => .error (.peeking .endInList [])
  | ']' :: rest => .ok ({}, rest)
  | rest =>
    (readBool rest).bind fun (strict, rest) =>
      match skipBlanks rest with
      | [] => .error (.peeking .endInList [])
      | ']' :: rest => .ok (⟨strict⟩, rest)
      | ',' :: rest =>
        match skipBlanks rest with
        | ']' :: rest => .error (.peeking .trailingComma (']' :: rest))
        | rest => .error (.peeking .trailingCharacters rest)
      | rest => .error (.peeking .trailingCharacters rest)

/-- Where a repeated key is reported: behind the blanks after it, and behind the bracket if that
comes next. -/
def afterKey (cs : List Char) : List Char :=
  match skipBlanks cs with
  | '\x7d' :: rest => rest
  | rest => rest

/-- Reads a field after the opening quote of its key, given what was read before. -/
def readField (found : Option Bool) (cs : List Char) : Reads (Option Bool) :=
  (Json.readString cs).bind fun (key, rest) =>
    if key = "strict" then
      if found.isSome then .error (.here (.repeatedField key) (afterKey rest))
      else
        (Json.readColon rest).bind fun ((), rest) =>
          (readBool rest).map fun (strict, rest) => (some strict, rest)
    else
      (Json.readColon rest).bind fun ((), rest) =>
        (Json.skipValue rest).map fun ((), rest) => (found, rest)

/-- Reads the fields after the first one. Every field takes a character, so the count of
characters bounds the loop. -/
def readMoreFields : Nat → Option Bool → List Char → Reads (Option Bool)
  | 0, _, cs => .error (.peeking .endInObject cs)
  | bound + 1, found, cs =>
    match skipBlanks cs with
    | [] => .error (.peeking .endInObject [])
    | '\x7d' :: rest => .ok (found, rest)
    | ',' :: rest =>
      match skipBlanks rest with
      | [] => .error (.peeking .endInValue [])
      | '\x7d' :: rest => .error (.peeking .trailingComma ('\x7d' :: rest))
      | '"' :: rest =>
        (readField found rest).bind fun (found, rest) => readMoreFields bound found rest
      | rest => .error (.peeking .keyNotString rest)
    | rest => .error (.peeking .expectedObjectCommaOrEnd rest)

/-- Reads the object form after its opening bracket. -/
def readFields (cs : List Char) : Reads Settings :=
  let fields : Reads (Option Bool) :=
    match skipBlanks cs with
    | [] => .error (.peeking .endInObject [])
    | '\x7d' :: rest => .ok (none, rest)
    | '"' :: rest =>
      (readField none rest).bind fun (found, rest) => readMoreFields cs.length found rest
    | rest => .error (.peeking .keyNotString rest)
  fields.map fun (found, rest) => (⟨found.getD false⟩, rest)

def readForm (cs : List Char) : Reads Settings :=
  match skipBlanks cs with
  | '[' :: rest => readList rest
  | '\x7b' :: rest => readFields rest
  | rest => .error (wrongKind title rest)

/-- Reads settings from a whole text. -/
def read (text : String) : Except Json.ReadError Settings :=
  Except.mapError (Stop.locate text) do
    let (settings, rest) ← readForm text.toList
    Json.readNothing rest
    return settings

end Settings

end Dashboard
