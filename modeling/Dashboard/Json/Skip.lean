import Dashboard.Json.Reader
/-!
# Skipping JSON text

A value that nobody asks for is skipped. Its outline is checked as a reader would, but containers
may nest to any depth, numbers have no range, and an escaped surrogate may stand alone.
-/
namespace Dashboard.Json

def skipDigits (cs : List Char) : List Char :=
  cs.dropWhile Char.isDigit

/-- Skips an exponent, if there is one. -/
def skipExponent (cs : List Char) : Reads Unit :=
  match cs with
  | mark :: rest =>
    if mark = 'e' ∨ mark = 'E' then
      let digits :=
        match rest with
        | '+' :: r => r
        | '-' :: r => r
        | r => r
      match digits with
      | d :: ds =>
        if d.isDigit then .ok ((), skipDigits ds) else .error (.peeking .invalidNumber (d :: ds))
      | [] => .error (.peeking .invalidNumber [])
    else .ok ((), cs)
  | [] => .ok ((), [])

/-- Skips a number after its sign. -/
def skipNumber (cs : List Char) : Reads Unit :=
  match cs.takeWhile Char.isDigit, skipDigits cs with
  | [], rest => .error (.peeking .invalidNumber rest)
  | '0' :: d :: ds, rest => .error (.peeking .invalidNumber (d :: ds ++ rest))
  | _, '.' :: rest =>
    if (rest.takeWhile Char.isDigit).isEmpty then .error (.peeking .invalidNumber rest)
    else skipExponent (skipDigits rest)
  | _, rest => skipExponent rest

/-- Skips a string after its opening quote. -/
def skipString (cs : List Char) : Reads Unit :=
  match cs with
  | [] => .error (.here .endInString [])
  | '"' :: rest => .ok ((), rest)
  | ['\\'] => .error (.here .endInString [])
  | '\\' :: 'u' :: rest =>
    match _h : readHex rest with
    | .error e => .error e
    | .ok (_, rest) => skipString rest
  | '\\' :: c :: rest =>
    if c ∈ ['"', '\\', '/', 'b', 'f', 'n', 'r', 't'] then skipString rest
    else .error ⟨.invalidEscape, c :: rest, 1⟩
  | c :: rest =>
    if c.toNat < 32 then .error (.here .controlCharacter (c :: rest)) else skipString rest
termination_by cs.length
decreasing_by
  · have := readHex_length _h
    simp only [List.length_cons]
    omega
  · simp only [List.length_cons]
    omega
  · simp

/-- A container that is open. -/
inductive Frame where
  | list
  | object
  deriving DecidableEq, Repr

namespace Frame

def closing : Frame → Char
  | list => ']'
  | object => '\x7d'

def endInside : Frame → Problem
  | list => .endInList
  | object => .endInObject

def expected : Frame → Problem
  | list => .expectedListCommaOrEnd
  | object => .expectedObjectCommaOrEnd

end Frame

/-- Closes frames up to the place of the next item, behind a comma unless the innermost frame was
just opened. No frames are left if the outermost one is closed. -/
def closeFrames (opened : Bool) : List Frame → List Char → Reads (List Frame)
  | [], cs => .ok ([], cs)
  | frame :: frames, cs =>
    match skipBlanks cs with
    | [] => .error (.peeking frame.endInside [])
    | c :: rest =>
      if c = ',' ∧ !opened then .ok (frame :: frames, rest)
      else if c = frame.closing then closeFrames false frames rest
      else if opened then .ok (frame :: frames, c :: rest)
      else .error (.peeking frame.expected (c :: rest))

/-- Skips the key of an item, which only objects have. -/
def skipKey (frame : Frame) (cs : List Char) : Reads Unit :=
  match frame with
  | .list => .ok ((), cs)
  | .object =>
    match skipBlanks cs with
    | [] => .error (.peeking .endInObject [])
    | '"' :: rest => (skipString rest).bind fun ((), rest) => readColon rest
    | rest => .error (.peeking .keyNotString rest)

/-- Skips a value that is no container. -/
def skipScalar (cs : List Char) : Reads Unit :=
  match cs with
  | [] => .error (.peeking .endInValue [])
  | 'n' :: rest => readWord ['u', 'l', 'l'] rest
  | 't' :: rest => readWord ['r', 'u', 'e'] rest
  | 'f' :: rest => readWord ['a', 'l', 's', 'e'] rest
  | '-' :: rest => skipNumber rest
  | '"' :: rest => skipString rest
  | c :: rest =>
    if c.isDigit then skipNumber (c :: rest) else .error (.peeking .expectedValue (c :: rest))

/-- Skips a value inside open frames and all that closes them. Every value takes a character, so
the count of characters bounds the loop. -/
def skipInside : Nat → List Frame → List Char → Reads Unit
  | 0, _, cs => .error (.peeking .endInValue cs)
  | bound + 1, frames, cs =>
    let closed : Reads (List Frame) :=
      match skipBlanks cs with
      | '[' :: rest => closeFrames true (.list :: frames) rest
      | '\x7b' :: rest => closeFrames true (.object :: frames) rest
      | rest => (skipScalar rest).bind fun ((), rest) => closeFrames false frames rest
    closed.bind fun (frames, rest) =>
      match frames with
      | [] => .ok ((), rest)
      | frame :: frames =>
        (skipKey frame rest).bind fun ((), rest) => skipInside bound (frame :: frames) rest

def skipValue (cs : List Char) : Reads Unit :=
  skipInside (cs.length + 1) [] cs

end Dashboard.Json
