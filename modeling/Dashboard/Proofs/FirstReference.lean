import Dashboard.Proofs.Along
import Dashboard.Proofs.Following
import Dashboard.Session
/-!
# The first reference wins

Interpreting a layout changes the scope as a fold over its traversal does, which binds every name
that is still free. An interpretation that fails has gone along the traversal up to the fault that
it reports.
-/
namespace Dashboard

/-- What becomes of a scope in which references were met: the first reference to a free name
decides what it stands for, and nothing happens to names that were bound. -/
structure FirstReferenceWins (before : Scope) (met : List Reference) (after : Scope) : Prop where
  fold : after = met.foldl Scope.bind before
  kept : before.Extends after
  bound : ∀ ref ∈ met, ∃ handle, after.handle? ref.name = some handle
  only : ∀ {name handle}, before.handle? name = none → after.handle? name = some handle →
    ∃ ref ∈ met, ref.name = name
  first : ∀ {name}, before.handle? name = none →
    after.live? name = (met.find? (·.name = name)).map (·.initial)

theorem firstReferenceWins_bindAll (scope : Scope) (met : List Reference) :
    FirstReferenceWins scope met (scope.bindAll met) where
  fold := rfl
  kept := scope.extends_bindAll met
  bound _ here := Scope.bound_bindAll here scope
  only := Scope.mem_of_bound_bindAll
  first free := Scope.live?_bindAll_of_free free met

theorem filterMap_reference (met : List Reference) (rest : List Visit) :
    (met.map Visit.reference ++ rest).filterMap Visit.reference? =
      met ++ rest.filterMap Visit.reference? := by
  rw [List.filterMap_append, List.filterMap_map]
  exact congrArg (· ++ _) List.filterMap_some

theorem Along.isPrefix {α : Type} {visits : List Visit} {x : Reading α} (h : Along visits x) :
    x.references <+: visits.filterMap Visit.reference? := by
  obtain ⟨met, _ | a⟩ := x
  · obtain ⟨rest, rfl⟩ := h
    rw [filterMap_reference]
    exact List.prefix_append met _
  · obtain rfl : visits = met.map .reference := h
    rw [← List.append_nil (met.map _), filterMap_reference]
    exact List.prefix_append met _

theorem Along.references_eq {α : Type} {visits : List Visit} {x : Reading α}
    (h : Along visits x) {a : α} (done : x.outcome = .ok a) :
    x.references = visits.filterMap Visit.reference? := by
  obtain ⟨met, _ | a⟩ := x
  · cases done
  · obtain rfl : visits = met.map .reference := h
    rw [← List.append_nil (met.map _), filterMap_reference, List.filterMap_nil, List.append_nil]

/-- On every path, the scope after the interpretation of a layout comes from what was met on the
traversal: all of it, or what stands before the fault. -/
theorem interpret_firstReferenceWins (session : Session) (node : Json) :
    let answered := session.interpret node
    ∃ met, FirstReferenceWins session.scope met answered.session.scope ∧
      match answered.outcome with
      | .ok _ =>
        met = references session.rules node ∧
        Visit.ofNode session.rules node = met.map .reference
      | .error e =>
        met <+: references session.rules node ∧
        ∃ rest, Visit.ofNode session.rules node = met.map .reference ++ .fault e :: rest := by
  intro answered
  have follows := follows_readNode session.rules node session.toContext
  have along := along_readNode session.rules node
  generalize (readNode session.rules node : Reading (Directive String)) = reading at follows along
  obtain ⟨met, read⟩ := reading
  have scope : answered.session.scope = session.scope.bindAll met := follows.scope
  have same : SameOutcome _ read answered.outcome := follows.outcome
  refine ⟨met, scope ▸ firstReferenceWins_bindAll session.scope met, ?_⟩
  generalize answered.outcome = outcome at same ⊢
  cases same with
  | ok _ _ => exact ⟨along.references_eq rfl, along⟩
  | error e => exact ⟨along.isPrefix, along⟩

end Dashboard
