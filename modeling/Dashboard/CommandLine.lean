import Dashboard.Catalog.Standard
import Dashboard.Folder
import Dashboard.Logging
/-!
# The command line

The program interprets one document and prints its tree, or the statements that fill its tables.
What it logs goes to the standard error, before anything that is said about a failure.
-/
namespace Dashboard.CommandLine

structure Arguments where
  /-- A file, or `-` for the standard input. -/
  path : String
  strict : Bool := false
  statements : Bool := false
  verbosity : Nat := 0
  deriving DecidableEq, Repr

/-- Arguments read so far, where the path may still be to come. -/
structure Draft where
  path : Option String := none
  strict : Bool := false
  statements : Bool := false
  verbosity : Nat := 0

namespace Draft

def withPath? (draft : Draft) (path : String) : Option Draft :=
  if draft.path.isSome then none else some { draft with path := some path }

/-- How often a cluster of short flags asks for more verbosity, if it asks for nothing else. -/
def verbosityOf? (flags : List Char) : Option Nat :=
  if flags ≠ [] ∧ flags.all (· = 'v') then some flags.length else none

/-- Reads a flag after its first dash. -/
def withFlag? (draft : Draft) (flag : List Char) : Option Draft :=
  match String.ofList flag with
  | "-strict" => if draft.strict then none else some { draft with strict := true }
  | "-statements" => if draft.statements then none else some { draft with statements := true }
  | "-verbose" => some { draft with verbosity := draft.verbosity + 1 }
  | _ =>
    (verbosityOf? flag).map fun n => { draft with verbosity := draft.verbosity + n }

def withPaths? (draft : Draft) : List String → Option Draft
  | [] => some draft
  | path :: paths => (draft.withPath? path).bind (·.withPaths? paths)

/-- Reads arguments. Behind two dashes there are no flags, and a single dash is none. -/
def withAll? (draft : Draft) : List String → Option Draft
  | [] => some draft
  | arg :: args =>
    match arg.toList with
    | ['-', '-'] => draft.withPaths? args
    | '-' :: c :: flag => (draft.withFlag? (c :: flag)).bind (·.withAll? args)
    | _ => (draft.withPath? arg).bind (·.withAll? args)

end Draft

/-- The arguments, if they make sense. -/
def Arguments.ofList? (args : List String) : Option Arguments := do
  let draft ← Draft.withAll? {} args
  let path ← draft.path
  return { path, strict := draft.strict, statements := draft.statements,
           verbosity := draft.verbosity }

/-- The text that bytes stand for. -/
def decode (bytes : ByteArray) : Except Unreadable String :=
  match String.fromUTF8? bytes with
  | some text => .ok text
  | none => .error .notText

/-- What the program writes, and its exit code. -/
structure Output where
  code : UInt32
  out : String := ""
  err : String := ""
  deriving DecidableEq, Repr

/-- What is said when the document at a path cannot be read. -/
def unreadable (path : String) (why : Unreadable) : Output :=
  let place := if path = "-" then "from stdin" else "'" ++ path ++ "'"
  { code := 1
    err := "Error: Failed to read specification " ++ place ++ "\n\nCaused by:\n    " ++
      why.cause ++ "\n" }

def lines (ls : List String) : String :=
  String.join (ls.map (· ++ "\n"))

/-- Interprets the text of a document in a fresh session. -/
def interpret (logging : Logging) (arguments : Arguments) (text : String) : Output :=
  let session : Session := { rules := { catalog := Standard.catalog, strict := arguments.strict } }
  let answered := session.parse text
  let log := logging.write arguments.verbosity (session.log text)
  match answered.outcome with
  | .error e => { code := 1, err := lines (log ++ ["Parse error: " ++ e.message]) }
  | .ok document =>
    let tree := (document.json answered.session.scope.store).pretty
    { code := 0
      out := lines (if arguments.statements then answered.statements else [tree])
      err := lines log }

def run (logging : Logging) (arguments : Arguments) (text : Except Unreadable String) : Output :=
  match text with
  | .error why => unreadable arguments.path why
  | .ok text => interpret logging arguments text

/-- What is said about arguments that make no sense. -/
def usage : Output :=
  { code := 2
    err := "Usage: dashboard [--strict] [--statements] [-v]... SPEC\n" }

/-- The program in a folder, with the bytes of its standard input. -/
def runIn (folder : Folder) (stdin : ByteArray) (args : List String) (logging : Logging := {}) :
    Output :=
  match Arguments.ofList? args with
  | none => usage
  | some arguments =>
    run logging arguments <|
      if arguments.path = "-" then decode stdin else folder.read arguments.path >>= decode

end Dashboard.CommandLine
