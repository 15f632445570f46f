import Dashboard.Json.Numeral
/-!
# Reading JSON text

Blanks are the space, the tab and the two line ends. A repeated key of an object keeps its first
place and takes its last value. At most 127 containers may be open at once. The first problem ends
the reading.
-/
namespace Dashboard.Json

def hexValue? (c : Char) : Option Nat :=
  if c.isDigit then some (c.toNat - '0'.toNat)
  else if 'a' ≤ c ∧ c ≤ 'f' then some (c.toNat - 'a'.toNat + 10)
  else if 'A' ≤ c ∧ c ≤ 'F' then some (c.toNat - 'A'.toNat + 10)
  else none

/-- Reads four hexadecimal digits. Four bytes are taken even if they are something else. -/
def readHex (cs : List Char) : Reads Nat :=
  match (cs.take 4).mapM hexValue? with
  | some [a, b, c, d] => .ok (((a * 16 + b) * 16 + c) * 16 + d, cs.drop 4)
  | _ =>
    if (String.ofList cs).utf8ByteSize < 4 then .error (.here .endInString [])
    else .error ⟨.invalidEscape, cs, 4⟩

/-- Reads the character of a `\u` escape. One beyond 16 bits takes two of them. -/
def readUnicode (cs : List Char) : Reads Char :=
  match readHex cs with
  | .error e => .error e
  | .ok (high, rest) =>
    if 0xDC00 ≤ high ∧ high ≤ 0xDFFF then .error (.here .loneSurrogate rest)
    else if high < 0xD800 ∨ 0xDBFF < high then .ok (Char.ofNat high, rest)
    else
      match rest with
      | [] => .error (.here .endInString [])
      | ['\\'] => .error (.here .endInString [])
      | '\\' :: 'u' :: rest =>
        match readHex rest with
        | .error e => .error e
        | .ok (low, rest) =>
          if 0xDC00 ≤ low ∧ low ≤ 0xDFFF then
            .ok (Char.ofNat (0x10000 + (high - 0xD800) * 0x400 + (low - 0xDC00)), rest)
          else .error (.here .loneSurrogate rest)
      | '\\' :: rest => .error ⟨.brokenSurrogatePair, rest, 1⟩
      | rest => .error ⟨.brokenSurrogatePair, rest, 1⟩

/-- Reads the character of an escape after its backslash. -/
def readEscape : List Char → Reads Char
  | [] => .error (.here .endInString [])
  | '"' :: rest => .ok ('"', rest)
  | '\\' :: rest => .ok ('\\', rest)
  | '/' :: rest => .ok ('/', rest)
  | 'b' :: rest => .ok ('\x08', rest)
  | 'f' :: rest => .ok ('\x0c', rest)
  | 'n' :: rest => .ok ('\n', rest)
  | 'r' :: rest => .ok ('\r', rest)
  | 't' :: rest => .ok ('\t', rest)
  | 'u' :: rest => readUnicode rest
  | rest => .error ⟨.invalidEscape, rest, 1⟩

theorem readHex_length {cs rest : List Char} {n : Nat} (h : readHex cs = .ok (n, rest)) :
    rest.length ≤ cs.length := by
  unfold readHex at h
  split at h
  · cases h
    simp
  · split at h <;> cases h

theorem readUnicode_length {cs rest : List Char} {c : Char} (h : readUnicode cs = .ok (c, rest)) :
    rest.length ≤ cs.length := by
  unfold readUnicode at h
  split at h
  · simp at h
  · next high tail hh =>
    have first := readHex_length hh
    repeat' split at h
    all_goals simp only [Except.ok.injEq, Prod.mk.injEq, reduceCtorEq] at h
    · exact h.2 ▸ first
    · next hl _ =>
      have second := readHex_length hl
      simp only [List.length_cons] at first
      have := h.2 ▸ second
      omega

theorem readEscape_length {cs rest : List Char} {c : Char} (h : readEscape cs = .ok (c, rest)) :
    rest.length < cs.length := by
  unfold readEscape at h
  split at h
  case h_10 => exact Nat.lt_succ_of_le (readUnicode_length h)
  all_goals simp only [Except.ok.injEq, Prod.mk.injEq, reduceCtorEq] at h
  all_goals simp [← h.2]

/-- Reads the characters of a string up to the closing quote. -/
def readChars (cs : List Char) : Reads (List Char) :=
  match cs with
  | [] => .error (.here .endInString [])
  | '"' :: rest => .ok ([], rest)
  | '\\' :: rest =>
    match _h : readEscape rest with
    | .error e => .error e
    | .ok (c, rest) => (readChars rest).map fun (s, rest) => (c :: s, rest)
  | c :: rest =>
    if c.toNat < 32 then .error ⟨.controlCharacter, c :: rest, 1⟩
    else (readChars rest).map fun (s, rest) => (c :: s, rest)
termination_by cs.length
decreasing_by
  · have := readEscape_length _h
    simp only [List.length_cons]
    omega
  · simp

def readString (cs : List Char) : Reads String :=
  (readChars cs).map fun (s, rest) => (String.ofList s, rest)

/-- Reads the rest of a word. The first character that differs is taken. -/
def readWord : List Char → List Char → Reads Unit
  | [], rest => .ok ((), rest)
  | _ :: _, [] => .error (.here .endInValue [])
  | w :: word, c :: rest =>
    if c = w then readWord word rest else .error ⟨.expectedWord, c :: rest, 1⟩

/-- Reads the items of a list after the first one, given a reader for one item. There are fewer
items than characters, so the count of characters bounds the loop. -/
def readMoreItems (item : List Char → Reads Json) : Nat → List Char → Reads (List Json)
  | 0, cs => .error (.peeking .endInList cs)
  | bound + 1, cs =>
    match skipBlanks cs with
    | [] => .error (.peeking .endInList [])
    | ']' :: rest => .ok ([], rest)
    | ',' :: rest =>
      match skipBlanks rest with
      | [] => .error (.peeking .endInValue [])
      | ']' :: rest => .error (.peeking .trailingComma (']' :: rest))
      | rest =>
        (item rest).bind fun (v, rest) =>
          (readMoreItems item bound rest).map fun (vs, rest) => (v :: vs, rest)
    | rest => .error (.peeking .expectedListCommaOrEnd rest)

/-- Reads a list after its opening bracket. -/
def readItems (item : List Char → Reads Json) (cs : List Char) : Reads (List Json) :=
  match skipBlanks cs with
  | [] => .error (.peeking .endInList [])
  | ']' :: rest => .ok ([], rest)
  | rest =>
    (item rest).bind fun (v, rest) =>
      (readMoreItems item cs.length rest).map fun (vs, rest) => (v :: vs, rest)

/-- Reads the colon between a key and its value. -/
def readColon (cs : List Char) : Reads Unit :=
  match skipBlanks cs with
  | [] => .error (.peeking .endInObject [])
  | ':' :: rest => .ok ((), rest)
  | rest => .error (.peeking .expectedColon rest)

/-- Reads a field after the opening quote of its key. -/
def readField (item : List Char → Reads Json) (cs : List Char) : Reads (String × Json) :=
  (readString cs).bind fun (key, rest) =>
    (readColon rest).bind fun ((), rest) =>
      (item rest).map fun (v, rest) => ((key, v), rest)

/-- Reads the fields of an object after the first one. -/
def readMoreFields (item : List Char → Reads Json) :
    Nat → List Char → Reads (List (String × Json))
  | 0, cs => .error (.peeking .endInObject cs)
  | bound + 1, cs =>
    match skipBlanks cs with
    | [] => .error (.peeking .endInObject [])
    | '\x7d' :: rest => .ok ([], rest)
    | ',' :: rest =>
      match skipBlanks rest with
      | [] => .error (.peeking .endInValue [])
      | '\x7d' :: rest => .error (.peeking .trailingComma ('\x7d' :: rest))
      | '"' :: rest =>
        (readField item rest).bind fun (f, rest) =>
          (readMoreFields item bound rest).map fun (fs, rest) => (f :: fs, rest)
      | rest => .error (.peeking .keyNotString rest)
    | rest => .error (.peeking .expectedObjectCommaOrEnd rest)

/-- Reads an object after its opening bracket, field by field as written. -/
def readFields (item : List Char → Reads Json) (cs : List Char) :
    Reads (List (String × Json)) :=
  match skipBlanks cs with
  | [] => .error (.peeking .endInObject [])
  | '\x7d' :: rest => .ok ([], rest)
  | '"' :: rest =>
    (readField item rest).bind fun (f, rest) =>
      (readMoreFields item cs.length rest).map fun (fs, rest) => (f :: fs, rest)
  | rest => .error (.peeking .keyNotString rest)

/-- Reads a value inside which `depth` containers may still be opened. -/
def readValue (depth : Nat) (cs : List Char) : Reads Json :=
  match skipBlanks cs with
  | [] => .error (.peeking .endInValue [])
  | 'n' :: rest => (readWord ['u', 'l', 'l'] rest).map fun ((), rest) => (null, rest)
  | 't' :: rest => (readWord ['r', 'u', 'e'] rest).map fun ((), rest) => (bool true, rest)
  | 'f' :: rest => (readWord ['a', 'l', 's', 'e'] rest).map fun ((), rest) => (bool false, rest)
  | '-' :: rest => (readNumber true rest).map fun (n, rest) => (number n, rest)
  | '"' :: rest => (readString rest).map fun (s, rest) => (string s, rest)
  | '[' :: rest =>
    match depth with
    | 0 => .error (.peeking .tooDeep ('[' :: rest))
    | depth + 1 => (readItems (readValue depth) rest).map fun (vs, rest) => (array vs, rest)
  | '\x7b' :: rest =>
    match depth with
    | 0 => .error (.peeking .tooDeep ('\x7b' :: rest))
    | depth + 1 =>
      (readFields (readValue depth) rest).map fun (fs, rest) => (object (Table.ofList fs), rest)
  | c :: rest =>
    if c.isDigit then (readNumber false (c :: rest)).map fun (n, rest) => (number n, rest)
    else .error (.peeking .expectedValue (c :: rest))

/-- Fails unless only blanks are left. -/
def readNothing (cs : List Char) : Except Stop Unit :=
  match skipBlanks cs with
  | [] => .ok ()
  | rest => .error (.peeking .trailingCharacters rest)

def depthLimit : Nat := 127

/-- Reads a whole text as one value. -/
def read (text : String) : Except ReadError Json :=
  Except.mapError (Stop.locate text) do
    let (v, rest) ← readValue depthLimit text.toList
    readNothing rest
    return v

end Dashboard.Json
