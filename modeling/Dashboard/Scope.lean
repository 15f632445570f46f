import Dashboard.Live.Store
import Dashboard.Table
/-!
# Names in scope

A name is bound when it is first met, to a cell of its own. It keeps that cell for good.
-/
namespace Dashboard

/-- A name that was met, and what it stands for if it is not bound yet. -/
structure Reference where
  name : String
  initial : Live

structure Scope where
  store : Store := []
  names : Table Handle := []

namespace Scope

def handle? (scope : Scope) (name : String) : Option Handle :=
  scope.names.lookup name

def live? (scope : Scope) (name : String) : Option Live :=
  (scope.handle? name).bind scope.store.live?

def bind (scope : Scope) (ref : Reference) : Scope :=
  match scope.handle? ref.name with
  | some _ => scope
  | none =>
    { store := scope.store.alloc ref.initial
      names := scope.names ++ [(ref.name, scope.store.length)] }

theorem handle?_bind (scope : Scope) (ref : Reference) (name : String) :
    (scope.bind ref).handle? name =
      (scope.handle? name).or (if name = ref.name then some scope.store.length else none) := by
  unfold bind
  split
  · next handle bound =>
    by_cases h : name = ref.name
    · simp [h, bound]
    · simp [h]
  · next free =>
    by_cases h : name = ref.name
    · simp_all [handle?, List.lookup_append]
    · simp [handle?, List.lookup_append, Table.lookup_cons, h]

def bindAll (scope : Scope) (refs : List Reference) : Scope :=
  refs.foldl bind scope

/-- The name that is bound to a cell. -/
def nameOf? (scope : Scope) (handle : Handle) : Option String :=
  (scope.names.find? (·.2 = handle)).map (·.1)

/-- The bound names in the order of their code points. -/
def sortedNames (scope : Scope) : List String :=
  scope.names.names.mergeSort fun a b => decide (a ≤ b)

end Scope

end Dashboard
