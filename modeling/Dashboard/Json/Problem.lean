/-!
# What can be wrong with a JSON text

A problem is found at a place: the characters not yet consumed, and a number of bytes of them that
the reader took as well before it gave up. Lines count from 1 and columns count bytes.
-/
namespace Dashboard.Json

inductive Problem where
  | endInValue
  | endInList
  | endInObject
  | endInString
  | expectedValue
  | expectedWord
  | expectedColon
  | expectedListCommaOrEnd
  | expectedObjectCommaOrEnd
  | keyNotString
  | trailingComma
  | trailingCharacters
  | invalidNumber
  | numberOutOfRange
  | invalidEscape
  | controlCharacter
  | loneSurrogate
  | brokenSurrogatePair
  | tooDeep
  /-- A value of one kind where another is demanded. -/
  | wrongKind (found demanded : String)
  | repeatedField (name : String)
  deriving DecidableEq, Repr

def Problem.message : Problem → String
  | .endInValue => "EOF while parsing a value"
  | .endInList => "EOF while parsing a list"
  | .endInObject => "EOF while parsing an object"
  | .endInString => "EOF while parsing a string"
  | .expectedValue => "expected value"
  | .expectedWord => "expected ident"
  | .expectedColon => "expected `:`"
  | .expectedListCommaOrEnd => "expected `,` or `]`"
  | .expectedObjectCommaOrEnd => "expected `,` or `\x7d`"
  | .keyNotString => "key must be a string"
  | .trailingComma => "trailing comma"
  | .trailingCharacters => "trailing characters"
  | .invalidNumber => "invalid number"
  | .numberOutOfRange => "number out of range"
  | .invalidEscape => "invalid escape"
  | .controlCharacter => "control character (\\u0000-\\u001F) found while parsing a string"
  | .loneSurrogate => "lone leading surrogate in hex escape"
  | .brokenSurrogatePair => "unexpected end of hex escape"
  | .tooDeep => "recursion limit exceeded"
  | .wrongKind found demanded => "invalid type: " ++ found ++ ", expected " ++ demanded
  | .repeatedField name => "duplicate field `" ++ name ++ "`"

/-- A problem and where it was found. -/
structure Stop where
  problem : Problem
  rest : List Char
  taken : Nat
  deriving DecidableEq, Repr

namespace Stop

/-- Right before `rest`. -/
def here (problem : Problem) (rest : List Char) : Stop := ⟨problem, rest, 0⟩

/-- At the next byte, which counts as consumed if there is one. -/
def peeking (problem : Problem) (rest : List Char) : Stop :=
  ⟨problem, rest, if rest.isEmpty then 0 else 1⟩

end Stop

/-- A problem with its place in the text. -/
structure ReadError where
  problem : Problem
  line : Nat
  column : Nat
  deriving DecidableEq, Repr

def ReadError.message (e : ReadError) : String :=
  e.problem.message ++ " at line " ++ toString e.line ++ " column " ++ toString e.column

/-- The place of a stop in the text that was read. -/
def Stop.locate (text : String) (stop : Stop) : ReadError :=
  let bytes := text.toUTF8.toList
  let consumed := bytes.take (bytes.length - (String.ofList stop.rest).utf8ByteSize + stop.taken)
  { problem := stop.problem
    line := 1 + consumed.count 10
    column := (consumed.reverse.takeWhile (· != 10)).length }

abbrev Reads (α : Type) := Except Stop (α × List Char)

def isBlank (c : Char) : Bool :=
  c = ' ' || c = '\t' || c = '\n' || c = '\r'

def skipBlanks (cs : List Char) : List Char :=
  cs.dropWhile isBlank

end Dashboard.Json
