import Dashboard.Interpreting
/-!
# Binding names

Binding only adds: a bound name keeps its cell, and a cell keeps what it holds. So the first of
several references to a name decides what the name stands for, and binding a list of references
one after another is a fold over the list.
-/
namespace Dashboard

namespace Scope

/-- What binding leaves in place: the cells of names and the live values of cells. -/
structure Extends (before after : Scope) : Prop where
  handle : ∀ {name handle}, before.handle? name = some handle → after.handle? name = some handle
  live : ∀ {handle live}, before.store.live? handle = some live →
    after.store.live? handle = some live

theorem Extends.refl (scope : Scope) : scope.Extends scope := ⟨id, id⟩

theorem Extends.trans {a b c : Scope} (h : a.Extends b) (k : b.Extends c) : a.Extends c :=
  ⟨fun bound => k.handle (h.handle bound), fun found => k.live (h.live found)⟩

theorem bind_of_bound {scope : Scope} {ref : Reference} {handle : Handle}
    (bound : scope.handle? ref.name = some handle) : scope.bind ref = scope := by
  simp only [bind, bound]

theorem bind_of_free {scope : Scope} {ref : Reference} (free : scope.handle? ref.name = none) :
    scope.bind ref =
      { store := scope.store.alloc ref.initial
        names := scope.names ++ [(ref.name, scope.store.length)] } := by
  simp only [bind, free]

theorem extends_bind (scope : Scope) (ref : Reference) : scope.Extends (scope.bind ref) := by
  refine ⟨fun bound => by rw [handle?_bind, bound, Option.some_or], fun {handle live} found => ?_⟩
  cases free : scope.handle? ref.name with
  | some _ => rwa [bind_of_bound free]
  | none =>
    have inside : handle < scope.store.length := Store.lt_of_live? found
    rw [bind_of_free free]
    exact (Store.live?_alloc_of_lt inside ref.initial).trans found

@[simp] theorem bindAll_nil (scope : Scope) : scope.bindAll [] = scope := rfl

@[simp] theorem bindAll_cons (scope : Scope) (ref : Reference) (refs : List Reference) :
    scope.bindAll (ref :: refs) = (scope.bind ref).bindAll refs := rfl

theorem extends_bindAll (scope : Scope) (refs : List Reference) :
    scope.Extends (scope.bindAll refs) := by
  induction refs generalizing scope with
  | nil => exact .refl scope
  | cons ref refs ih => exact (scope.extends_bind ref).trans (ih (scope.bind ref))

theorem bindAll_append (scope : Scope) (as bs : List Reference) :
    scope.bindAll (as ++ bs) = (scope.bindAll as).bindAll bs :=
  List.foldl_append

/-- A reference is bound by its binding, at the latest. -/
theorem bound_bind (scope : Scope) (ref : Reference) :
    ∃ handle, (scope.bind ref).handle? ref.name = some handle := by
  rw [handle?_bind]
  cases scope.handle? ref.name with
  | some handle => exact ⟨handle, rfl⟩
  | none => exact ⟨scope.store.length, by simp⟩

theorem bound_bindAll {refs : List Reference} {ref : Reference} (h : ref ∈ refs)
    (scope : Scope) : ∃ handle, (scope.bindAll refs).handle? ref.name = some handle := by
  obtain ⟨before, after, rfl⟩ := List.append_of_mem h
  obtain ⟨handle, bound⟩ := (scope.bindAll before).bound_bind ref
  refine ⟨handle, ?_⟩
  rw [bindAll_append]
  exact (extends_bindAll _ after).handle bound

/-- No other name is bound. -/
theorem mem_of_bound_bindAll {refs : List Reference} {scope : Scope} {name : String}
    {handle : Handle} (free : scope.handle? name = none)
    (bound : (scope.bindAll refs).handle? name = some handle) :
    ∃ ref ∈ refs, ref.name = name := by
  induction refs generalizing scope with
  | nil => exact absurd (free.symm.trans bound) (by simp)
  | cons ref refs ih =>
    by_cases here : name = ref.name
    · exact ⟨ref, List.mem_cons_self, here.symm⟩
    · have still : (scope.bind ref).handle? name = none := by
        rw [handle?_bind, free, if_neg here, Option.none_or]
      obtain ⟨later, found, same⟩ := ih still bound
      exact ⟨later, List.mem_cons_of_mem _ found, same⟩

/-- A name that was free stands for what the first reference to it says. -/
theorem live?_bindAll_of_free {scope : Scope} {name : String}
    (free : scope.handle? name = none) (refs : List Reference) :
    (scope.bindAll refs).live? name = (refs.find? (·.name = name)).map (·.initial) := by
  induction refs generalizing scope with
  | nil => simp only [bindAll_nil, live?, free, Option.bind_none, List.find?_nil, Option.map_none]
  | cons ref refs ih =>
    -- from the first reference on the name is bound, and binding leaves its cell alone
    by_cases here : ref.name = name
    · subst here
      have bound : (scope.bind ref).handle? ref.name = some scope.store.length := by
        rw [handle?_bind, free, if_pos rfl, Option.none_or]
      have found : (scope.bind ref).store.live? scope.store.length = some ref.initial := by
        rw [bind_of_free free]
        exact Store.live?_alloc_length _ _
      have rest := extends_bindAll (scope.bind ref) refs
      rw [bindAll_cons, live?, rest.handle bound, Option.bind_some, rest.live found]
      simp
    · have still : (scope.bind ref).handle? name = none := by
        rw [handle?_bind, free, if_neg (Ne.symm here), Option.none_or]
      simpa [here] using ih still

/-- The names that references bind, in the order in which they are bound. -/
def newNames (scope : Scope) : List Reference → List String
  | [] => []
  | ref :: refs =>
    match scope.handle? ref.name with
    | some _ => newNames scope refs
    | none => ref.name :: newNames (scope.bind ref) refs

theorem newNames_append (scope : Scope) (as bs : List Reference) :
    scope.newNames (as ++ bs) = scope.newNames as ++ (scope.bindAll as).newNames bs := by
  induction as generalizing scope with
  | nil => rfl
  | cons ref as ih =>
    rw [List.cons_append, newNames, newNames, bindAll_cons]
    cases bound : scope.handle? ref.name with
    | some handle =>
      rw [bind_of_bound bound]
      exact ih scope
    | none => exact congrArg (ref.name :: ·) (ih (scope.bind ref))

/-- New names are the free names that are referred to. -/
theorem mem_newNames {scope : Scope} {refs : List Reference} {name : String} :
    name ∈ scope.newNames refs ↔ scope.handle? name = none ∧ ∃ ref ∈ refs, ref.name = name := by
  induction refs generalizing scope with
  | nil => simp [newNames]
  | cons ref refs ih =>
    simp only [newNames, List.mem_cons, exists_eq_or_imp]
    cases bound : scope.handle? ref.name with
    | some handle =>
      have other : scope.handle? name = none → ref.name ≠ name := by
        rintro free rfl
        cases bound.symm.trans free
      simp +contextual [ih, other]
    | none =>
      by_cases here : name = ref.name
      · simp [here, bound]
      · simp [ih, handle?_bind, here, Ne.symm here]

theorem nodup_newNames (scope : Scope) (refs : List Reference) : (scope.newNames refs).Nodup := by
  induction refs generalizing scope with
  | nil => exact List.nodup_nil
  | cons ref refs ih =>
    rw [newNames]
    cases scope.handle? ref.name with
    | some handle => exact ih scope
    | none =>
      obtain ⟨handle, bound⟩ := scope.bound_bind ref
      refine List.nodup_cons.2 ⟨fun again => ?_, ih (scope.bind ref)⟩
      cases bound.symm.trans (mem_newNames.1 again).1

/-- New names get the cells behind the old ones, one by one. -/
theorem names_bindAll (scope : Scope) (refs : List Reference) :
    (scope.bindAll refs).names =
      scope.names ++ (scope.newNames refs).zipIdx scope.store.length := by
  induction refs generalizing scope with
  | nil => exact (List.append_nil _).symm
  | cons ref refs ih =>
    rw [bindAll_cons, ih, newNames]
    cases free : scope.handle? ref.name with
    | some handle => rw [bind_of_bound free]
    | none =>
      have length : (scope.store.alloc ref.initial).length = scope.store.length + 1 :=
        List.length_append
      dsimp only
      rw [List.zipIdx_cons, bind_of_free free, length, List.append_assoc, List.singleton_append]

/-- New cells, which nobody listens to, come after the old ones, and new names after the old. -/
structure Grows (before after : Scope) : Prop where
  cells : ∃ fresh, after.store = before.store ++ fresh ∧ ∀ cell ∈ fresh, cell.listeners = []
  names : before.names <+: after.names

theorem Grows.refl (scope : Scope) : scope.Grows scope :=
  ⟨⟨[], (List.append_nil _).symm, nofun⟩, List.prefix_rfl⟩

theorem Grows.trans {a b c : Scope} (h : a.Grows b) (k : b.Grows c) : a.Grows c := by
  obtain ⟨first, one, quiet⟩ := h.cells
  obtain ⟨second, two, silent⟩ := k.cells
  refine ⟨⟨first ++ second, ?_, ?_⟩, h.names.trans k.names⟩
  · rw [two, one, List.append_assoc]
  · intro cell inside
    obtain early | late := List.mem_append.1 inside
    · exact quiet cell early
    · exact silent cell late

theorem grows_bind (scope : Scope) (ref : Reference) : scope.Grows (scope.bind ref) := by
  cases bound : scope.handle? ref.name with
  | some handle =>
    rw [bind_of_bound bound]
    exact .refl scope
  | none =>
    rw [bind_of_free bound]
    exact ⟨⟨[⟨ref.initial, []⟩], rfl, by simp⟩, List.prefix_append _ _⟩

theorem grows_bindAll (scope : Scope) (refs : List Reference) :
    scope.Grows (scope.bindAll refs) := by
  induction refs generalizing scope with
  | nil => exact .refl scope
  | cons ref refs ih => exact (scope.grows_bind ref).trans (ih (scope.bind ref))

/-- A cell is the same cell after growing, with its value, its clauses and its listeners. -/
theorem Grows.cell {before after : Scope} (h : before.Grows after) {handle : Handle} {cell : Cell}
    (found : before.store[handle]? = some cell) : after.store[handle]? = some cell := by
  obtain ⟨fresh, grown, -⟩ := h.cells
  rw [grown, List.getElem?_append_left (List.getElem?_eq_some_iff.1 found).choose]
  exact found

/-- A new name has the cell that comes at its place behind the old ones. -/
theorem getElem?_newNames {scope : Scope} {refs : List Reference} {name : String}
    {handle : Handle} (free : scope.handle? name = none)
    (bound : (scope.bindAll refs).handle? name = some handle) :
    scope.store.length ≤ handle ∧
      (scope.newNames refs)[handle - scope.store.length]? = some name := by
  unfold handle? at free bound
  rw [names_bindAll, List.lookup_append, free, Option.none_or] at bound
  obtain ⟨before, after, split, -⟩ := List.lookup_eq_some_iff.1 bound
  have inside : (name, handle) ∈ (scope.newNames refs).zipIdx scope.store.length := by
    rw [split]
    exact List.mem_append_right _ List.mem_cons_self
  exact List.mk_mem_zipIdx_iff_le_and_getElem?_sub.1 inside

end Scope

namespace Context

def bindAll (context : Context) (refs : List Reference) : Context :=
  refs.foldl bind context

@[simp] theorem bindAll_nil (context : Context) : context.bindAll [] = context := rfl

@[simp] theorem bindAll_cons (context : Context) (ref : Reference) (refs : List Reference) :
    context.bindAll (ref :: refs) = (context.bind ref).bindAll refs := rfl

theorem bindAll_append (context : Context) (as bs : List Reference) :
    context.bindAll (as ++ bs) = (context.bindAll as).bindAll bs :=
  List.foldl_append

theorem scope_bind (context : Context) (ref : Reference) :
    (context.bind ref).scope = context.scope.bind ref := by
  cases bound : context.scope.handle? ref.name with
  | some handle => rw [bind_of_bound bound, Scope.bind_of_bound bound]
  | none => rw [bind_of_free bound]

@[simp] theorem scope_bindAll (context : Context) (refs : List Reference) :
    (context.bindAll refs).scope = context.scope.bindAll refs := by
  induction refs generalizing context with
  | nil => rfl
  | cons ref refs ih => rw [bindAll_cons, Scope.bindAll_cons, ← scope_bind, ih]

theorem extends_bindAll (context : Context) (refs : List Reference) :
    context.scope.Extends (context.bindAll refs).scope := by
  rw [scope_bindAll]
  exact context.scope.extends_bindAll refs

theorem journal_bindAll (context : Context) (refs : List Reference) :
    (context.bindAll refs).journal =
      context.journal ++ (context.scope.newNames refs).map .bound := by
  induction refs generalizing context with
  | nil => simp [Scope.newNames]
  | cons ref refs ih =>
    have rest := ih (context.bind ref)
    cases bound : context.scope.handle? ref.name with
    | some handle =>
      have same := bind_of_bound bound
      rw [same] at rest
      simpa only [bindAll_cons, same, Scope.newNames, bound] using rest
    | none =>
      have noted : (context.bind ref).journal = context.journal ++ [.bound ref.name] := by
        rw [bind_of_free bound]
      rw [noted, scope_bind] at rest
      simpa only [bindAll_cons, Scope.newNames, bound, List.map_cons, List.append_assoc,
        List.singleton_append] using rest

end Context

end Dashboard
