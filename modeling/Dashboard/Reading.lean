import Dashboard.Document.Error
import Dashboard.Scope
/-!
# Reading a document

A document is read from its start to its end. A reader may fail, which ends the reading, and it
meets references in the order in which they stand. What becomes of a reference in the tree is up
to the reader.

The reading of a document without a scope leaves a name where a reference stands, and notes the
references that it met, also those before an error.
-/
namespace Dashboard

/-- A way to read, in which a reference becomes a `ρ`. -/
class Reader (ρ : outParam Type) (m : Type → Type) extends Monad m where
  fail {α : Type} (e : DocumentError) : m α
  meet (ref : Reference) : m ρ

structure Reading (α : Type) where
  references : List Reference
  outcome : Except DocumentError α

namespace Reading

def done {α : Type} (a : α) : Reading α :=
  ⟨[], .ok a⟩

/-- Goes on with the result, unless there is none. -/
def andThen {α β : Type} (reading : Reading α) (next : α → Reading β) : Reading β :=
  match reading.outcome with
  | .error e => ⟨reading.references, .error e⟩
  | .ok a => ⟨reading.references ++ (next a).references, (next a).outcome⟩

instance : Reader String Reading where
  pure := done
  bind := andThen
  fail e := ⟨[], .error e⟩
  meet ref := ⟨[ref], .ok ref.name⟩

@[simp] theorem bind_ok {α β : Type} (refs : List Reference) (a : α) (next : α → Reading β) :
    (⟨refs, .ok a⟩ : Reading α) >>= next =
      ⟨refs ++ (next a).references, (next a).outcome⟩ := rfl

@[simp] theorem bind_error {α β : Type} (refs : List Reference) (e : DocumentError)
    (next : α → Reading β) :
    (⟨refs, .error e⟩ : Reading α) >>= next = ⟨refs, .error e⟩ := rfl

instance : LawfulMonad Reading := LawfulMonad.mk' Reading
  (fun x => by
    obtain ⟨refs, _ | a⟩ := x <;> simp [Functor.map, andThen, done])
  (fun a f => by
    show andThen (done a) f = f a
    simp [andThen, done])
  (fun x f g => by
    obtain ⟨refs, _ | a⟩ := x
    · rfl
    · rcases hf : f a with ⟨refs', _ | b⟩ <;> simp [hf])

end Reading

end Dashboard
