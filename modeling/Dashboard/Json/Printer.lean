import Dashboard.Json.Basic
import Dashboard.Number.Shortest
/-!
# JSON text

One printer serves both forms: a style says what is put before each item, before a closing
bracket and after a colon. The compact form puts nothing there, the pretty form line breaks and
two blanks for each level of nesting. Empty containers have no inner line.
-/
namespace Dashboard

def Number.text : Number → String
  | .integer n => toString n
  | .real x => x.text

namespace Json

def hexDigit (n : Nat) : Char :=
  if n < 10 then Char.ofNat (48 + n) else Char.ofNat (87 + n)

/-- What stands for a character between quotes. -/
def escape (c : Char) : List Char :=
  match c with
  | '"' => ['\\', '"']
  | '\\' => ['\\', '\\']
  | '\x08' => ['\\', 'b']
  | '\x0c' => ['\\', 'f']
  | '\n' => ['\\', 'n']
  | '\r' => ['\\', 'r']
  | '\t' => ['\\', 't']
  | c =>
    if c.toNat < 32 then ['\\', 'u', '0', '0', hexDigit (c.toNat / 16), hexDigit (c.toNat % 16)]
    else [c]

def quoted (s : String) : String :=
  "\"" ++ String.ofList (s.toList.flatMap escape) ++ "\""

structure Style where
  /-- What precedes an item or a closing bracket at a depth of nesting. -/
  lineBreak : Nat → String
  afterColon : String

def Style.compact : Style := ⟨fun _ => "", ""⟩

def Style.pretty : Style :=
  ⟨fun depth => "\n" ++ String.ofList (List.replicate (2 * depth) ' '), " "⟩

/-- The items of a container at `depth` between its brackets. -/
def Style.enclose (style : Style) (opening closing : String) (depth : Nat) :
    List String → String
  | [] => opening ++ closing
  | items =>
    opening ++ style.lineBreak (depth + 1) ++
      ("," ++ style.lineBreak (depth + 1)).intercalate items ++
      style.lineBreak depth ++ closing

mutual

def render (style : Style) (depth : Nat) : Json → String
  | null => "null"
  | bool b => if b then "true" else "false"
  | number n => n.text
  | string s => quoted s
  | array items => style.enclose "[" "]" depth (renderItems style (depth + 1) items)
  | object fields => style.enclose "\x7b" "\x7d" depth (renderFields style (depth + 1) fields)

def renderItems (style : Style) (depth : Nat) : List Json → List String
  | [] => []
  | item :: items => render style depth item :: renderItems style depth items

def renderFields (style : Style) (depth : Nat) : List (String × Json) → List String
  | [] => []
  | (key, value) :: fields =>
    (quoted key ++ ":" ++ style.afterColon ++ render style depth value) ::
      renderFields style depth fields

end

def compact (v : Json) : String := v.render .compact 0

def pretty (v : Json) : String := v.render .pretty 0

end Json

end Dashboard
