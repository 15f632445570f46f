import Dashboard.Reading
/-!
# Interpreting a document

Interpretation works in a scope. A reference becomes the cell of its name, which is bound at once
if it is not bound yet. A journal keeps what was done, in its order, and what was done before an
error stays done.
-/
namespace Dashboard

/-- What interpretation does besides answering. -/
inductive Effect where
  | submitted (statement : String)
  | bound (name : String)
  deriving DecidableEq, Repr

def Effect.statement? : Effect → Option String
  | submitted statement => some statement
  | bound _ => none

/-- What interpretation works in. -/
structure Context where
  scope : Scope := {}
  journal : List Effect := []

namespace Context

/-- The statements submitted so far. -/
def statements (context : Context) : List String :=
  context.journal.filterMap Effect.statement?

def submit (context : Context) (statement : String) : Context :=
  { context with journal := context.journal ++ [.submitted statement] }

/-- Binds a name, unless it is bound. -/
def bind (context : Context) (ref : Reference) : Context :=
  match context.scope.handle? ref.name with
  | some _ => context
  | none => ⟨context.scope.bind ref, context.journal ++ [.bound ref.name]⟩

theorem bind_of_bound {context : Context} {ref : Reference} {handle : Handle}
    (bound : context.scope.handle? ref.name = some handle) : context.bind ref = context := by
  simp only [bind, bound]

theorem bind_of_free {context : Context} {ref : Reference}
    (free : context.scope.handle? ref.name = none) :
    context.bind ref = ⟨context.scope.bind ref, context.journal ++ [.bound ref.name]⟩ := by
  simp only [bind, free]

end Context

abbrev Interpreting := ExceptT DocumentError (StateM Context)

namespace Interpreting
variable {α β : Type}

/-- What interpretation answers in a context, and the context after it. -/
def runIn (work : Interpreting α) (context : Context) : Except DocumentError α × Context :=
  work.run.run context

@[simp] theorem runIn_pure (a : α) (context : Context) :
    (pure a : Interpreting α).runIn context = (.ok a, context) := rfl

theorem runIn_bind (work : Interpreting α) (next : α → Interpreting β) (context : Context) :
    (work >>= next).runIn context =
      match work.runIn context with
      | (.ok a, context) => (next a).runIn context
      | (.error e, context) => (.error e, context) := by
  unfold runIn
  rw [ExceptT.run_bind, StateT.run_bind]
  rcases work.run.run context with ⟨_ | _, _⟩ <;> rfl

theorem runIn_bind_eq_ok {work : Interpreting α} {next : α → Interpreting β}
    {context after : Context} {b : β} :
    (work >>= next).runIn context = (.ok b, after) ↔
      ∃ a between, work.runIn context = (.ok a, between) ∧
        (next a).runIn between = (.ok b, after) := by
  rw [runIn_bind]
  rcases work.runIn context with ⟨_ | a, between⟩
  · simp
  · constructor
    · intro done
      exact ⟨a, between, rfl, done⟩
    · rintro ⟨a', between', same, done⟩
      cases same
      exact done

theorem runIn_map_eq_ok {work : Interpreting α} {f : α → β} {context after : Context} {b : β} :
    (f <$> work).runIn context = (.ok b, after) ↔
      ∃ a, work.runIn context = (.ok a, after) ∧ f a = b := by
  rw [map_eq_pure_bind, runIn_bind_eq_ok]
  constructor
  · rintro ⟨a, between, done, same⟩
    cases same
    exact ⟨a, done, rfl⟩
  · rintro ⟨a, done, rfl⟩
    exact ⟨a, after, done, rfl⟩

@[simp] theorem runIn_get (context : Context) :
    (get : Interpreting Context).runIn context = (.ok context, context) := rfl

@[simp] theorem runIn_set (after context : Context) :
    (set after : Interpreting PUnit).runIn context = (.ok ⟨⟩, after) := rfl

/-- The cell of a name, which is a new one if the name is not bound yet. -/
def meet (ref : Reference) : Interpreting Handle := do
  let context ← get
  match context.scope.handle? ref.name with
  | some handle => return handle
  | none =>
    set (context.bind ref)
    return context.scope.store.length

instance : Reader Handle Interpreting where
  fail e := throw e
  meet := meet

/-- Whether it was bound or not, the name is bound to the cell that is met. -/
theorem runIn_meet (ref : Reference) (context : Context) :
    ∃ handle, (Reader.meet ref : Interpreting Handle).runIn context =
        (.ok handle, context.bind ref) ∧
      (context.bind ref).scope.handle? ref.name = some handle := by
  cases bound : context.scope.handle? ref.name with
  | some handle =>
    have same := Context.bind_of_bound bound
    refine ⟨handle, ?_, by rw [same, bound]⟩
    show (meet ref).runIn context = _
    simp only [meet, runIn_bind, runIn_get, bound, runIn_pure, same]
  | none =>
    refine ⟨context.scope.store.length, ?_, ?_⟩
    · show (meet ref).runIn context = _
      simp only [meet, runIn_bind, runIn_get, bound, runIn_set, runIn_pure]
    · simp [Context.bind, bound, Scope.handle?_bind]

end Interpreting

end Dashboard
