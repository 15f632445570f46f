import Dashboard.Text.CaseTable
/-!
# Upper case

A character may become up to three characters. One without a mapping stays as it is.
-/
namespace Dashboard.Text

def upperChar (c : Char) : List Char :=
  match severalUpper.lookup c.toNat with
  | some several => several.map Char.ofNat
  | none =>
    match caseRuns.find? (·.covers c.toNat) with
    | some run => [Char.ofNat (c.toNat + run.shift).toNat]
    | none => [c]

def upper (s : String) : String :=
  String.ofList (s.toList.flatMap upperChar)

/-- The first character in upper case, the others as they are. -/
def capitalize (s : String) : String :=
  match s.toList with
  | [] => ""
  | c :: cs => String.ofList (upperChar c ++ cs)

end Dashboard.Text
