import Dashboard.CommandLine
import Dashboard.Proofs.Printing
import Dashboard.Proofs.Reordering
import Dashboard.Proofs.Telling
import Mathlib.Data.List.TakeWhile
/-!
# The program and the library

Arguments are flags and one path, in any order; behind two dashes nothing is a flag. What the
program writes to the standard output is what a fresh session answers for the text at the path. It
depends on that text and on two of the flags, and on nothing else. The standard error also has the
lines that are logged, of which there are none unless they are asked for.
-/
namespace Dashboard.CommandLine

/-! ## Arguments -/

/-- Whether an argument before two dashes is a flag: it has a dash and something more. -/
def isFlag (arg : String) : Bool :=
  match arg.toList with
  | '-' :: _ :: _ => true
  | _ => false

/-- What stands before two dashes. -/
def front (args : List String) : List String :=
  args.takeWhile (· ≠ "--")

def flags (args : List String) : List String :=
  (front args).filter isFlag

/-- The arguments that are no flags, those behind two dashes included. -/
def operands (args : List String) : List String :=
  (front args).filter (!isFlag ·) ++ (args.dropWhile (· ≠ "--")).tail

/-- The flags that there are. Letters of short flags may be joined. -/
inductive IsKnown : String → Prop
  | strict : IsKnown "--strict"
  | statements : IsKnown "--statements"
  | verbose : IsKnown "--verbose"
  | short {flag : String} {letters : List Char} : letters ≠ [] → (∀ c ∈ letters, c = 'v') →
      flag.toList = '-' :: letters → IsKnown flag

/-- How much more verbosity a known flag asks for: it has as many letters `v`. -/
def loudness (flag : String) : Nat :=
  flag.toList.count 'v'

namespace Draft

variable {draft after : Draft}

end Draft

/-- What arguments ask for. -/
structure Asks (args : List String) (arguments : Arguments) : Prop where
  path : operands args = [arguments.path]
  known : ∀ flag ∈ flags args, IsKnown flag
  strict : (flags args).count "--strict" = arguments.strict.toNat
  statements : (flags args).count "--statements" = arguments.statements.toNat
  verbosity : arguments.verbosity = total loudness (flags args)

section Asks
variable {args : List String} {arguments : Arguments}

theorem front_eq_self (noDashes : "--" ∉ args) : front args = args :=
  List.takeWhile_eq_self_iff.2 fun _ here => decide_eq_true fun dashes => noDashes (dashes ▸ here)

/-- Where all may be flags, the order of arguments does not matter. -/
theorem Asks.perm (asks : Asks args arguments) {others : List String} (same : others.Perm args)
    (noDashes : "--" ∉ args) : Asks others arguments := by
  have noDashes' : "--" ∉ others := fun here => noDashes (same.mem_iff.1 here)
  have front_perm : (front others).Perm (front args) := by
    rw [front_eq_self noDashes, front_eq_self noDashes']
    exact same
  have flags_perm : (flags others).Perm (flags args) := front_perm.filter isFlag
  have behind {args : List String} (noDashes : "--" ∉ args) :
      operands args = (front args).filter (!isFlag ·) := by
    have none_left : args.dropWhile (· ≠ "--") = [] :=
      List.dropWhile_eq_nil_iff.2 fun _ here =>
        decide_eq_true fun dashes => noDashes (dashes ▸ here)
    rw [operands, none_left, List.tail_nil, List.append_nil]
  constructor
  case path =>
    have one := asks.path
    rw [behind noDashes] at one
    rw [behind noDashes', ← List.perm_singleton, ← one]
    exact front_perm.filter _
  case known => exact fun flag here => asks.known flag (flags_perm.mem_iff.1 here)
  case strict => rw [flags_perm.count_eq, asks.strict]
  case statements => rw [flags_perm.count_eq, asks.statements]
  case verbosity => rw [asks.verbosity, total_perm loudness flags_perm]

end Asks

/-! ## What is written -/

/-- What the library answers for a text, in a fresh session with the standard names. -/
def answer (strict : Bool) (text : String) : Answered (Document Handle) :=
  Session.parse { rules := { catalog := Standard.catalog, strict } } text

end Dashboard.CommandLine
