import Dashboard.Live.Predicate
import Dashboard.Proofs.Running
import Mathlib.Data.List.Basic
import Mathlib.Data.List.Induction
/-!
# Selections and their history

What a cell holds depends on nothing but the updates of it, in the order in which they began. Of a
selection, the clauses are those of the updates that are the last ones of their source; a single
selection has that of the last update of all.
-/
namespace Dashboard

def Event.changeOf? (target : Handle) : Event → Option Change
  | updated handle change => if handle = target then some change else none
  | _ => none

/-- The updates of a cell among events, in the order in which they began. -/
def history (target : Handle) (events : List Event) : List Change :=
  events.filterMap (Event.changeOf? target)

@[simp] theorem history_nil (target : Handle) : history target [] = [] := rfl

@[simp] theorem history_updated (target handle : Handle) (change : Change) (events : List Event) :
    history target (.updated handle change :: events) =
      if handle = target then change :: history target events else history target events := by
  by_cases same : handle = target <;> simp [history, Event.changeOf?, same]

@[simp] theorem history_subscribed (target handle : Handle) (listener : Listener)
    (events : List Event) :
    history target (.subscribed handle listener :: events) = history target events := rfl

@[simp] theorem history_called (target handle : Handle) (index : Nat) (notice : Notice)
    (events : List Event) :
    history target (.called handle index notice :: events) = history target events := rfl

theorem history_append (target : Handle) (before later : List Event) :
    history target (before ++ later) = history target before ++ history target later :=
  List.filterMap_append

variable {names : Table Handle} {store after : Store}

theorem Advances.live? {task : Task} {events : List Event} {due : List Task}
    (h : Advances names store task events after due) (target : Handle) :
    after.live? target = (store.live? target).map ((history target events).foldl Live.update) := by
  cases h with
  | unbound _ => simp
  | @update name change handle _ =>
    rw [Store.live?_update]
    by_cases same : handle = target <;> simp [same]
  | subscribe _ => simp
  | call _ _ => simp
  | gone _ => simp

/-- At every moment of a run, a cell holds what the updates begun so far have made of it. -/
theorem Runs.live? {agenda left : List Task} {events : List Event}
    (h : Runs names store agenda events after left) (target : Handle) :
    after.live? target = (store.live? target).map ((history target events).foldl Live.update) := by
  induction h with
  | stop => simp
  | step advances _ ih =>
    rw [ih, advances.live? target, history_append, Option.map_map]
    congr 1
    funext live
    simp only [Function.comp_apply, List.foldl_append]

/-! ## Closed form -/

/-- The changes whose source is silent after them. -/
def lastWords : List Change → List Change
  | [] => []
  | change :: later =>
    if later.any (·.source = change.source) then lastWords later
    else change :: lastWords later

/-- The clauses of a selection after a history of changes. -/
def survivors (kind : SelectionKind) (changes : List Change) : List Clause :=
  match kind with
  | .single => (changes.getLast?.bind Change.clause?).toList
  | _ => (lastWords changes).filterMap Change.clause?

/-- One more change silences the earlier ones of its source. -/
theorem lastWords_concat (changes : List Change) (change : Change) :
    lastWords (changes ++ [change]) =
      (lastWords changes).filter (·.source != change.source) ++ [change] := by
  induction changes with
  | nil => simp [lastWords]
  | cons first changes ih =>
    rw [List.cons_append, lastWords, lastWords, ih]
    by_cases again : changes.any (·.source = first.source)
    · simp [again]
    · by_cases same : change.source = first.source
      · simp [again, same]
      · simp [again, same, Ne.symm same]

theorem Change.clause?_eq_some {change : Change} {clause : Clause} :
    change.clause? = some clause ↔
      change.source = clause.source ∧ change.predicate = some clause.predicate ∧
        change.value = clause.value := by
  constructor
  · intro h
    obtain ⟨predicate, here, rfl⟩ := Option.map_eq_some_iff.1 h
    exact ⟨rfl, here, rfl⟩
  · intro h
    obtain ⟨source, predicate, value⟩ := h
    rw [clause?, predicate, Option.map_some, source, value]

theorem filter_clauses (changes : List Change) (source : String) :
    (changes.filterMap Change.clause?).filter (·.source != source) =
      (changes.filter (·.source != source)).filterMap Change.clause? := by
  induction changes with
  | nil => rfl
  | cons change changes ih =>
    cases clause : change.clause? with
    | none => by_cases other : change.source = source <;> simp [clause, other, ih]
    | some c =>
      have same := (Change.clause?_eq_some.1 clause).1
      by_cases other : c.source = source <;> simp [clause, other, same, ih]

theorem survivors_concat (kind : SelectionKind) (changes : List Change) (change : Change) :
    survivors kind (changes ++ [change]) =
      Live.kept kind (survivors kind changes) change.source ++ change.clause?.toList := by
  have merged : (lastWords (changes ++ [change])).filterMap Change.clause? =
      ((lastWords changes).filterMap Change.clause?).filter (·.source != change.source) ++
        change.clause?.toList := by
    rw [lastWords_concat, filter_clauses, List.filterMap_append]
    cases clause : change.clause? <;> simp [clause]
  cases kind with
  | single => simp [survivors, Live.kept]
  | _ => exact merged

/-- A selection that starts without clauses has the survivors of its history. -/
theorem foldl_update_empty (kind : SelectionKind) (changes : List Change) :
    changes.foldl Live.update (.empty kind) = .selection kind (survivors kind changes) := by
  induction changes using List.reverseRecOn with
  | nil => cases kind <;> rfl
  | append_singleton changes change ih =>
    rw [List.foldl_concat, ih, Live.update, survivors_concat]

/-! ## What follows from it -/

theorem lastWords_sublist (changes : List Change) : (lastWords changes).Sublist changes := by
  induction changes with
  | nil => exact .refl []
  | cons change changes ih =>
    rw [lastWords]
    split
    · exact ih.cons change
    · exact ih.cons_cons change

theorem nodup_lastWords (changes : List Change) : ((lastWords changes).map (·.source)).Nodup := by
  induction changes with
  | nil => exact .nil
  | cons change changes ih =>
    rw [lastWords]
    split
    · exact ih
    · next silent =>
      refine List.nodup_cons.2 ⟨fun again => silent ?_, ih⟩
      obtain ⟨other, inside, same⟩ := List.mem_map.1 again
      have later := (lastWords_sublist changes).subset inside
      exact List.any_eq_true.2 ⟨other, later, decide_eq_true same⟩

theorem sources_sublist (changes : List Change) :
    ((changes.filterMap Change.clause?).map (·.source)).Sublist (changes.map (·.source)) := by
  induction changes with
  | nil => exact .refl []
  | cons change changes ih =>
    cases clause : change.clause? with
    | none =>
      rw [List.filterMap_cons_none clause]
      exact ih.cons _
    | some c =>
      rw [List.filterMap_cons_some clause, List.map_cons, List.map_cons,
        (Change.clause?_eq_some.1 clause).1]
      exact ih.cons_cons _

theorem nodup_survivors (kind : SelectionKind) (changes : List Change) :
    ((survivors kind changes).map (·.source)).Nodup := by
  have several := (nodup_lastWords changes).sublist (sources_sublist (lastWords changes))
  cases kind with
  | single => cases last : changes.getLast?.bind Change.clause? <;> simp [survivors, last]
  | _ => exact several

/-- A clause is that of an update. -/
theorem mem_of_survivor {kind : SelectionKind} {changes : List Change} {clause : Clause}
    (h : clause ∈ survivors kind changes) :
    ∃ change ∈ changes, change.clause? = some clause := by
  have several (inside : clause ∈ (lastWords changes).filterMap Change.clause?) :
      ∃ change ∈ changes, change.clause? = some clause := by
    obtain ⟨change, among, same⟩ := List.mem_filterMap.1 inside
    exact ⟨change, (lastWords_sublist changes).subset among, same⟩
  cases kind with
  | single =>
    obtain ⟨change, last, same⟩ := Option.bind_eq_some_iff.1 (Option.mem_toList.1 h)
    exact ⟨change, List.mem_of_getLast? last, same⟩
  | _ => exact several h

theorem Live.predicate?_none_iff (kind : SelectionKind) (clauses : List Clause) :
    (Live.selection kind clauses).predicate? none = none ↔ clauses = [] := by
  simp [Live.predicate?, Live.combined]

/-- A selection holds what its history says: at every moment of a run, whatever listeners do, its
clauses are those of the updates begun so far that are the last ones of their source, and those of
a single selection that of the last update of all. -/
theorem selection_eq_survivors (names : Table Handle) (store : Store) (agenda : List Task)
    {target : Handle} {kind : SelectionKind} (fresh : store.live? target = some (.empty kind)) :
    Runs names store agenda (store.run names agenda).2 (store.run names agenda).1 [] ∧
    ∀ events after left, Runs names store agenda events after left →
      let updates := history target events
      let clauses := survivors kind updates
      after.live? target = some (.selection kind clauses) ∧
      (clauses.map (·.source)).Nodup ∧
      (∀ clause ∈ clauses, ∃ change ∈ updates, change.source = clause.source ∧
        change.predicate = some clause.predicate ∧ change.value = clause.value) ∧
      after.valueAt target = (clauses.getLast?.map (·.value)).getD .null ∧
      ((Live.selection kind clauses).predicate? none = none ↔ clauses = []) := by
  refine ⟨runs_run names store agenda, fun events after left ran => ?_⟩
  intro updates clauses
  have holds : after.live? target = some (.selection kind clauses) := by
    rw [ran.live? target, fresh, Option.map_some, foldl_update_empty]
  refine ⟨holds, nodup_survivors kind updates, fun clause inside => ?_, ?_,
    Live.predicate?_none_iff kind clauses⟩
  · obtain ⟨change, among, same⟩ := mem_of_survivor inside
    exact ⟨change, among, Change.clause?_eq_some.1 same⟩
  · rw [Store.valueAt, holds]
    rfl

/-- The listener of a selection speaks again for the source that it hears. -/
theorem selection_eq_survivors_of_reaction :
    let names : Table Handle := [("brush", 0)]
    let store : Store := [⟨.empty .intersect, [⟨"echo", 0, []⟩]⟩]
    let first : Change := ⟨"a", some "x > 1", .bool true⟩
    let reaction : Change := ⟨"a", some "x > 9", .bool false⟩
    let events : List Event :=
      [.updated 0 first, .called 0 0 ⟨"echo", .bool true, .bool true⟩, .updated 0 reaction]
    store.live? 0 = some (.empty .intersect) ∧
    ∃ after left,
      Runs names store [.perform (.update "brush" first)] events after left ∧
      after.live? 0 = some (.selection .intersect [⟨"a", "x > 9", .bool false⟩]) := by
  intro names store first reaction events
  have fresh : store.live? 0 = some (.empty .intersect) := rfl
  have bound : names.lookup "brush" = some 0 := rfl
  have listener : ((store.update 0 first).listenersAt 0)[0]? = some ⟨"echo", 0, []⟩ := rfl
  obtain ⟨after, left, ran⟩ :
      ∃ after left, Runs names store [.perform (.update "brush" first)] events after left := by
    constructor
    constructor
    apply Runs.step (.update bound)
    apply Runs.step (.call [.update "brush" reaction] listener)
    apply Runs.step (.update bound)
    exact .stop
  have holds := (selection_eq_survivors names store _ fresh).2 events after left ran
  exact ⟨fresh, after, left, ran, holds.1⟩

end Dashboard
