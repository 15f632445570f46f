import Dashboard.Proofs.History
import Dashboard.Proofs.Rounds
import Dashboard.Catalog.Standard
import Dashboard.Session
/-!
# What a listener is given

A listener that acts when it is called may update the cell that is just notifying it. The update
calls all listeners before the round under way goes on, so the rounds of a cell form a stack: a
listener is called with the latest update that it has not been called with yet. That is the value of
the cell, unless the listener has been called with it already. A first listener is never late.
-/
namespace Dashboard
variable {names : Table Handle} {store after : Store}

/-! ## Parts of a run -/

theorem Advances.length {task : Task} {events : List Event} {due : List Task}
    (h : Advances names store task events after due) : after.length = store.length := by
  cases h <;> simp

/-- A run comes to each of its events. -/
theorem Runs.split {agenda left : List Task} {before later : List Event} {event : Event}
    (h : Runs names store agenda (before ++ event :: later) after left) :
    ∃ middle task rest next due, Runs names store agenda before middle (task :: rest) ∧
      Advances names middle task [event] next due ∧
      Runs names next (due ++ rest) later after left := by
  generalize all : before ++ event :: later = events at h
  induction h generalizing before with
  | stop => cases before <;> cases all
  | @step store middle after task due rest left events others advances others_run ih =>
    have short : events = [] ∨ ∃ e, events = [e] := by
      cases advances <;> simp
    obtain rfl | ⟨e, rfl⟩ := short
    · obtain ⟨at_event, task', rest', next, due', run, here, behind⟩ := ih all
      exact ⟨at_event, task', rest', next, due', .step advances run, here, behind⟩
    · cases before with
      | nil =>
        obtain ⟨rfl, rfl⟩ := List.cons.inj all
        exact ⟨store, task, rest, middle, due, .stop, advances, others_run⟩
      | cons first before =>
        obtain ⟨rfl, same⟩ := List.cons.inj all
        obtain ⟨at_event, task', rest', next, due', run, here, behind⟩ := ih same
        exact ⟨at_event, task', rest', next, due', .step advances run, here, behind⟩

/-! ## Dues -/

/-- The value with which an event calls the listener of a cell at an index. -/
def Event.given? (target : Handle) (index : Nat) : Event → Option Json
  | called handle i notice => if handle = target ∧ i = index then some notice.given else none
  | _ => none

/-- What a listener was called with, in this order. -/
def deliveries (target : Handle) (index : Nat) (events : List Event) : List Json :=
  events.filterMap (Event.given? target index)

theorem deliveries_append (target : Handle) (index : Nat) (before later : List Event) :
    deliveries target index (before ++ later) =
      deliveries target index before ++ deliveries target index later :=
  List.filterMap_append

/-- A delivery is a call. -/
theorem Event.given?_eq_some {target : Handle} {index : Nat} {event : Event} {given : Json} :
    event.given? target index = some given ↔
      ∃ notice : Notice, event = .called target index notice ∧ notice.given = given := by
  cases event with
  | called handle i notice =>
    constructor
    · intro h
      obtain ⟨⟨rfl, rfl⟩, same⟩ := Option.ite_none_right_eq_some.1 h
      exact ⟨notice, rfl, Option.some.inj same⟩
    · rintro ⟨notice, same, rfl⟩
      obtain ⟨rfl, rfl, rfl⟩ := Event.called.inj same
      exact if_pos ⟨rfl, rfl⟩
  | _ => simp [given?]

/-- How many listeners a cell has, and the values that one of them is to be called with, the latest
first. -/
structure Dues where
  audience : Nat
  owed : List Json

namespace Dues

/-- An update is owed to a listener that is there, and a call pays what was owed last. -/
def step (target : Handle) (index : Nat) (dues : Dues) : Event → Dues
  | .updated handle change =>
    if handle = target ∧ index < dues.audience then { dues with owed := change.value :: dues.owed }
    else dues
  | .subscribed handle _ =>
    if handle = target then { dues with audience := dues.audience + 1 } else dues
  | .called handle i _ =>
    if handle = target ∧ i = index then { dues with owed := dues.owed.tail } else dues

def steps (target : Handle) (index : Nat) (dues : Dues) (events : List Event) : Dues :=
  events.foldl (step target index) dues

theorem steps_cons (target : Handle) (index : Nat) (dues : Dues) (event : Event)
    (events : List Event) :
    dues.steps target index (event :: events) =
      (dues.step target index event).steps target index events := rfl

theorem steps_append (target : Handle) (index : Nat) (dues : Dues) (before later : List Event) :
    dues.steps target index (before ++ later) =
      (dues.steps target index before).steps target index later :=
  List.foldl_append

theorem audience_le_step (target : Handle) (index : Nat) (dues : Dues) (event : Event) :
    dues.audience ≤ (dues.step target index event).audience := by
  cases event <;> simp only [step] <;> split <;> simp

theorem audience_le_steps (target : Handle) (index : Nat) (dues : Dues) (events : List Event) :
    dues.audience ≤ (dues.steps target index events).audience := by
  induction events generalizing dues with
  | nil => exact Nat.le_refl _
  | cons event events ih =>
    exact Nat.le_trans (audience_le_step target index dues event) (ih _)

/-- While the cell is not updated, calls only pay what was owed. -/
theorem owed_steps {target : Handle} {events : List Event} (quiet : history target events = [])
    (index : Nat) (dues : Dues) :
    (dues.steps target index events).owed =
      dues.owed.drop (deliveries target index events).length := by
  induction events generalizing dues with
  | nil => rfl
  | cons event events ih =>
    cases event with
    | updated handle change =>
      have other : ¬ handle = target := fun same => by simp [same] at quiet
      have rest : history target events = [] := by simpa [other] using quiet
      have kept : dues.step target index (.updated handle change) = dues :=
        if_neg fun both => other both.1
      have whole := ih rest dues
      rwa [steps_cons, kept]
    | subscribed handle listener =>
      have whole := ih quiet (dues.step target index (.subscribed handle listener))
      have kept : (dues.step target index (.subscribed handle listener)).owed = dues.owed := by
        simp only [step]
        split <;> rfl
      rwa [kept] at whole
    | called handle i notice =>
      have whole := ih quiet (dues.step target index (.called handle i notice))
      by_cases same : handle = target ∧ i = index
      · simpa [steps, step, deliveries, Event.given?, same] using whole
      · simpa [steps, step, deliveries, Event.given?, same] using whole

end Dues

/-- The value that a task calls the listener of a cell at an index with. -/
def Task.given? (target : Handle) (index : Nat) : Task → Option Json
  | call handle i given => if handle = target ∧ i = index then some given else none
  | _ => none

/-- What the calls of an agenda owe. -/
def duesOf (target : Handle) (index : Nat) (store : Store) (agenda : List Task) : Dues where
  audience := store.audience target
  owed := agenda.filterMap (Task.given? target index)

theorem owed_performing (target : Handle) (index : Nat) (actions : List Action) :
    (performing actions).filterMap (Task.given? target index) = [] := by
  rw [performing, List.filterMap_map]
  exact List.filterMap_eq_nil_iff.2 fun _ _ => rfl

theorem owed_callsFor (store : Store) (handle target : Handle) (index : Nat) (given : Json) :
    (callsFor store handle given).filterMap (Task.given? target index) =
      if handle = target ∧ index < store.audience target then [given] else [] := by
  unfold callsFor
  rw [List.filterMap_map]
  by_cases same : handle = target
  · subst same
    -- each listener has one place among the calls
    have once (n : Nat) : (List.range n).filterMap (Task.given? handle index ∘
        fun i => .call handle i given) = if index < n then [given] else [] := by
      induction n with
      | zero => rfl
      | succ n ih =>
        rw [List.range_succ, List.filterMap_append, ih]
        by_cases here : n = index
        · simp [Task.given?, here]
        · have still : index < n + 1 ↔ index < n := by omega
          simp [Task.given?, here, still]
    have round := once (store.audience handle)
    by_cases there : index < store.audience handle
    · rw [if_pos there] at round
      rw [if_pos ⟨rfl, there⟩]
      exact round
    · rw [if_neg there] at round
      rw [if_neg fun both => there both.2]
      exact round
  · simp [Function.comp_def, Task.given?, same]

theorem Advances.dues_eq {task : Task} {events : List Event} {due rest : List Task}
    (h : Advances names store task events after due) (attended : Attended store (task :: rest))
    {target : Handle} (inside : target < store.length) (index : Nat) :
    duesOf target index after (due ++ rest) =
      (duesOf target index store (task :: rest)).steps target index events := by
  cases h with
  | unbound _ => rfl
  | @update name change handle _ =>
    have round := owed_callsFor store handle target index change.value
    simp only [duesOf, Dues.steps, Dues.step, List.foldl_cons, List.foldl_nil,
      List.filterMap_append, round, Store.audience_update]
    split <;> rfl
  | @subscribe name label runs actions handle _ =>
    simp only [duesOf, Dues.steps, Dues.step, List.foldl_cons, List.foldl_nil,
      Store.audience_subscribe, inside, and_true]
    split <;> rfl
  | @call handle i given listener reaction here =>
    simp only [duesOf, Dues.steps, Dues.step, List.foldl_cons, List.foldl_nil,
      List.filterMap_append, owed_performing, Store.audience_spend]
    by_cases same : handle = target ∧ i = index <;> simp [Task.given?, same]
  | @gone handle i given gone =>
    have there := attended handle i given List.mem_cons_self
    exact absurd gone (by simpa [Store.audience] using there)

/-- At every moment of a run, what is owed to a listener is what the agenda is going to pay. -/
theorem Runs.dues_eq {agenda left : List Task} {events : List Event}
    (h : Runs names store agenda events after left) (attended : Attended store agenda)
    {target : Handle} (inside : target < store.length) (index : Nat) :
    duesOf target index after left =
      (duesOf target index store agenda).steps target index events := by
  induction h with
  | stop => rfl
  | step advances _ ih =>
    have start := advances.dues_eq attended inside index
    have rest := ih (advances.attended attended) (by rwa [advances.length])
    rw [Dues.steps_append, ← start, rest]

/-! ## The latest update -/

theorem exists_latest {target : Handle} {events : List Event}
    (some_update : history target events ≠ []) :
    ∃ earlier change since, events = earlier ++ .updated target change :: since ∧
      history target since = [] := by
  induction events with
  | nil => exact absurd rfl some_update
  | cons event events ih =>
    by_cases later : history target events = []
    · cases event with
      | updated handle change =>
        by_cases same : handle = target
        · subst same
          exact ⟨[], change, events, rfl, later⟩
        · rw [history_updated, if_neg same] at some_update
          exact absurd later some_update
      | subscribed handle listener => exact absurd later some_update
      | called handle i notice => exact absurd later some_update
    · obtain ⟨earlier, change, since, rfl, quiet⟩ := ih later
      exact ⟨event :: earlier, change, since, rfl, quiet⟩

/-- A param forgets all changes but the last one. -/
theorem foldl_update_param (value : Json) (changes : List Change) (change : Change) :
    (changes ++ [change]).foldl Live.update (.param value) = .param change.value := by
  have stays : ∃ last, changes.foldl Live.update (.param value) = .param last := by
    induction changes generalizing value with
    | nil => exact ⟨value, rfl⟩
    | cons first changes ih => exact ih first.value
  obtain ⟨last, same⟩ := stays
  rw [List.foldl_concat, same, Live.update]

section Runs
variable {actions : List Action} {agenda left : List Task} {target : Handle} {index : Nat}
  {before earlier since later : List Event} {change : Change} {notice : Notice}

theorem Runs.valueAt_of_latest
    (h : Runs names store agenda (earlier ++ .updated target change :: since) after left)
    {value : Json} (param : store.live? target = some (.param value))
    (quiet : history target since = []) : after.valueAt target = change.value := by
  have holds := h.live? target
  have changes : history target (earlier ++ .updated target change :: since) =
      history target earlier ++ [change] := by
    rw [history_append, history_updated, if_pos rfl, quiet]
  rw [param, changes, Option.map_some, foldl_update_param] at holds
  rw [Store.valueAt, holds]
  rfl

theorem Runs.called
    (h : Runs names store agenda (before ++ .called target index notice :: later) after left) :
    ∃ middle rest, Runs names store agenda before middle (.call target index notice.given :: rest) ∧
      notice.current = middle.valueAt target := by
  obtain ⟨middle, task, rest, next, due, ran, here, -⟩ := h.split
  cases here with
  | call reaction _ => exact ⟨middle, rest, ran, rfl⟩

theorem Runs.updated
    (h : Runs names store agenda (earlier ++ .updated target change :: since) after left) :
    ∃ middle name rest,
      Runs names store agenda earlier middle (.perform (.update name change) :: rest) := by
  obtain ⟨middle, task, rest, next, due, ran, here, -⟩ := h.split
  cases here with
  | update bound => exact ⟨middle, _, rest, ran⟩

/-- What is due after events before which nothing was owed. -/
def duesAfter (store : Store) (target : Handle) (index : Nat) (events : List Event) : Dues :=
  Dues.steps target index ⟨store.audience target, []⟩ events

/-- The values of the updates that a listener has not been called with yet, the latest first. -/
def undelivered (store : Store) (target : Handle) (index : Nat) (events : List Event) : List Json :=
  (duesAfter store target index events).owed

theorem duesAfter_append (store : Store) (target : Handle) (index : Nat)
    (before later : List Event) :
    duesAfter store target index (before ++ later) =
      (duesAfter store target index before).steps target index later :=
  Dues.steps_append target index _ before later

/-- At the start of actions nothing is owed. -/
theorem Runs.duesOf_eq (h : Runs names store (performing actions) before after left)
    (inside : target < store.length) (index : Nat) :
    duesOf target index after left = duesAfter store target index before := by
  rw [h.dues_eq (attended_performing store actions) inside index, duesOf, owed_performing]
  rfl

theorem Runs.owed_eq (h : Runs names store (performing actions) before after left)
    (inside : target < store.length) (index : Nat) :
    left.filterMap (Task.given? target index) = undelivered store target index before :=
  congrArg Dues.owed (h.duesOf_eq inside index)

theorem Runs.audience_eq (h : Runs names store (performing actions) before after left)
    (inside : target < store.length) (index : Nat) :
    after.audience target = (duesAfter store target index before).audience :=
  congrArg Dues.audience (h.duesOf_eq inside index)

/-- A listener is called with what was owed to it last. -/
theorem Runs.undelivered_of_called
    (h : Runs names store (performing actions) (before ++ .called target index notice :: later)
      after left) (inside : target < store.length) :
    ∃ owed, undelivered store target index before = notice.given :: owed := by
  obtain ⟨middle, rest, ran, -⟩ := h.called
  refine ⟨rest.filterMap (Task.given? target index), ?_⟩
  rw [← ran.owed_eq inside index, List.filterMap_cons_some]
  exact if_pos ⟨rfl, rfl⟩

/-- From an update on, calls pay first what the update owes and then what was owed before. -/
theorem undelivered_since
    (there : index < (duesAfter store target index earlier).audience)
    (quiet : history target since = []) :
    undelivered store target index (earlier ++ .updated target change :: since) =
      (change.value :: undelivered store target index earlier).drop
        (deliveries target index since).length := by
  unfold undelivered
  rw [duesAfter_append, Dues.steps_cons, Dues.owed_steps quiet]
  congr 1
  exact congrArg Dues.owed (if_pos ⟨rfl, there⟩)

/-- To a listener that comes after an update nothing is owed until the next one. -/
theorem Runs.undelivered_since_of_absent
    (h : Runs names store (performing actions) (earlier ++ .updated target change :: since)
      after left)
    (inside : target < store.length) (quiet : history target since = [])
    (absent : ¬ index < (duesAfter store target index earlier).audience) :
    undelivered store target index (earlier ++ .updated target change :: since) = [] := by
  obtain ⟨middle, name, rest, ran⟩ := h.updated
  have attended := ran.attended (attended_performing store actions)
  have none_before : undelivered store target index earlier = [] := by
    rw [← ran.owed_eq inside index]
    refine List.filterMap_eq_nil_iff.2 fun task due => ?_
    cases task with
    | perform action => rfl
    | call handle i given =>
      refine if_neg fun same => absent ?_
      obtain ⟨rfl, rfl⟩ := same
      rw [← ran.audience_eq inside]
      exact attended handle i given due
  have skipped : (duesAfter store target index earlier).step target index (.updated target change) =
      duesAfter store target index earlier :=
    if_neg fun both => absent both.2
  unfold undelivered at none_before ⊢
  rw [duesAfter_append, Dues.steps_cons, skipped, Dues.owed_steps quiet, none_before,
    List.drop_nil]

/-- The first value that a listener is given after an update is the value of the update. -/
theorem Runs.head?_deliveries
    (h : Runs names store (performing actions) (earlier ++ .updated target change :: since)
      after left)
    (inside : target < store.length) (quiet : history target since = [])
    (there : index < (duesAfter store target index earlier).audience)
    (some_call : deliveries target index since ≠ []) :
    (deliveries target index since).head? = some change.value := by
  obtain ⟨given, others, calls⟩ := List.exists_cons_of_ne_nil some_call
  obtain ⟨between, event, later, rfl, silent, call, -⟩ := List.filterMap_eq_cons_iff.1 calls
  obtain ⟨notice, rfl, rfl⟩ := Event.given?_eq_some.1 call
  have quiet_between : history target between = [] := by
    rw [history_append] at quiet
    exact (List.append_eq_nil_iff.1 quiet).1
  have none_between : deliveries target index between = [] :=
    List.filterMap_eq_nil_iff.2 silent
  rw [← List.cons_append, ← List.append_assoc] at h
  obtain ⟨owed, last⟩ := h.undelivered_of_called inside
  rw [undelivered_since there quiet_between, none_between] at last
  rw [calls, List.head?_cons]
  exact congrArg some (List.cons.inj last).1.symm

end Runs

/-! ## The first listener -/

/-- A call of the first listener of a cell is due at once, or not at all. -/
def Prompt (target : Handle) (agenda : List Task) : Prop :=
  ∀ task ∈ agenda.tail, task.given? target 0 = none

theorem prompt_append {target : Handle} {due rest : List Task} (first : Prompt target due)
    (others : ∀ task ∈ rest, task.given? target 0 = none) : Prompt target (due ++ rest) := by
  intro task inside
  cases due with
  | nil => exact others task (List.mem_of_mem_tail inside)
  | cons head due =>
    obtain here | behind := List.mem_append.1 inside
    · exact first task here
    · exact others task behind

theorem prompt_performing (target : Handle) (actions : List Action) :
    Prompt target (performing actions) := by
  intro task inside
  obtain ⟨action, -, rfl⟩ := List.mem_map.1 (List.mem_of_mem_tail inside)
  rfl

theorem prompt_callsFor (store : Store) (handle target : Handle) (given : Json) :
    Prompt target (callsFor store handle given) := by
  unfold callsFor
  cases (store.listenersAt handle).length with
  | zero => exact nofun
  | succ others =>
    intro task inside
    rw [List.range_succ_eq_map, List.map_cons, List.tail_cons, List.map_map] at inside
    obtain ⟨i, -, rfl⟩ := List.mem_map.1 inside
    exact if_neg fun same => Nat.succ_ne_zero i same.2

theorem Runs.prompt {target : Handle} {agenda left : List Task} {events : List Event}
    (h : Runs names store agenda events after left) (start : Prompt target agenda) :
    Prompt target left := by
  induction h with
  | stop => exact start
  | @step store middle after task due rest left events later advances _ ih =>
    refine ih (prompt_append ?_ start)
    cases advances with
    | unbound _ => exact nofun
    | update _ => exact prompt_callsFor _ _ target _
    | subscribe _ => exact nofun
    | call reaction _ => exact prompt_performing target reaction
    | gone _ => exact nofun

section Runs
variable {actions : List Action} {agenda left : List Task} {target : Handle} {index : Nat}
  {before earlier since later : List Event} {change : Change} {notice : Notice}

/-- When an update begins, nothing is owed to the first listener. -/
theorem Runs.undelivered_first
    (h : Runs names store (performing actions) (earlier ++ .updated target change :: since)
      after left)
    (inside : target < store.length) : undelivered store target 0 earlier = [] := by
  obtain ⟨middle, name, rest, ran⟩ := h.updated
  rw [← ran.owed_eq inside 0, List.filterMap_cons_none rfl]
  exact List.filterMap_eq_nil_iff.2 (ran.prompt (prompt_performing target actions))

/-- A listener is called with the latest value, or it was called with it before. -/
theorem Runs.fresh_or_told
    (h : Runs names store (performing actions)
      (earlier ++ .updated target change :: (since ++ .called target index notice :: later))
      after left)
    {value : Json} (param : store.live? target = some (.param value))
    (inside : target < store.length) (quiet : history target since = []) :
    notice.current = change.value ∧
      (notice.given = change.value ∨
        index ≠ 0 ∧ (deliveries target index since).head? = some change.value) := by
  rw [← List.cons_append, ← List.append_assoc] at h
  obtain ⟨middle, rest, ran, current⟩ := h.called
  obtain ⟨owed, last⟩ := h.undelivered_of_called inside
  refine ⟨current.trans (ran.valueAt_of_latest param quiet), ?_⟩
  by_cases there : index < (duesAfter store target index earlier).audience
  · rw [undelivered_since there quiet] at last
    by_cases silent : deliveries target index since = []
    · rw [silent] at last
      exact .inl (List.cons.inj last).1.symm
    · refine .inr ⟨?_, ran.head?_deliveries inside quiet there silent⟩
      rintro rfl
      have paid : 1 ≤ (deliveries target 0 since).length := List.length_pos_iff.2 silent
      rw [ran.undelivered_first inside, List.drop_eq_nil_of_le paid] at last
      cases last
  · rw [ran.undelivered_since_of_absent inside quiet there] at last
    cases last

theorem Runs.eq_of_mem_deliveries
    (h : Runs names store (performing actions) (earlier ++ .updated target change :: since)
      after left)
    {value : Json} (param : store.live? target = some (.param value))
    (inside : target < store.length) (quiet : history target since = []) {given : Json}
    (told : given ∈ deliveries target 0 since) : given = change.value := by
  obtain ⟨event, here, call⟩ := List.mem_filterMap.1 told
  obtain ⟨notice, rfl, rfl⟩ := Event.given?_eq_some.1 call
  obtain ⟨between, later, rfl⟩ := List.append_of_mem here
  have quiet_between : history target between = [] := by
    rw [history_append] at quiet
    exact (List.append_eq_nil_iff.1 quiet).1
  obtain ⟨-, fresh | ⟨other, -⟩⟩ := h.fresh_or_told param inside quiet_between
  · exact fresh
  · exact absurd rfl other

/-- When a run is over, nothing is owed any more. -/
theorem Runs.deliveries_ne_nil
    (h : Runs names store (performing actions) (earlier ++ .updated target change :: since)
      after [])
    (inside : target < store.length) (quiet : history target since = [])
    (there : index < (duesAfter store target index earlier).audience) :
    deliveries target index since ≠ [] := by
  intro silent
  have paid := h.owed_eq inside index
  rw [undelivered_since there quiet, silent] at paid
  cases paid

end Runs

/-! ## What is given and what is there -/

/-- A listener of a param is given the value of the latest update that it has not been called with.
That is the value of the param at this moment, unless the listener has been called with this value
since the latest update began, which never happens to the first listener. When a run is over, every
listener that was there before has been given the value of the param, and the first one was given no
other value after it. -/
theorem given_latest_undelivered (names : Table Handle) (store : Store) (actions : List Action)
    {target : Handle} {value : Json} (param : store.live? target = some (.param value)) :
    Runs names store (performing actions) (store.run names (performing actions)).2
      (store.run names (performing actions)).1 [] ∧
    ∀ events after left, Runs names store (performing actions) events after left →
      (∀ before index notice later, events = before ++ .called target index notice :: later →
        (undelivered store target index before).head? = some notice.given ∧
        ∃ earlier change since, before = earlier ++ .updated target change :: since ∧
          history target since = [] ∧ notice.current = change.value ∧
          (notice.given = change.value ∨
            index ≠ 0 ∧ (deliveries target index since).head? = some change.value)) ∧
      (left = [] → history target events ≠ [] → ∀ index < store.audience target,
        after.valueAt target ∈ deliveries target index events ∧
        (index = 0 → (deliveries target index events).getLast? = some (after.valueAt target))) := by
  have inside : target < store.length := Store.lt_of_live? param
  refine ⟨runs_run names store _, fun events after left ran => ⟨?_, ?_⟩⟩
  · rintro before index notice later rfl
    obtain ⟨owed, last⟩ := ran.undelivered_of_called inside
    have some_update : history target before ≠ [] := fun quiet => by
      rw [undelivered, duesAfter, Dues.owed_steps quiet, List.drop_nil] at last
      cases last
    obtain ⟨earlier, change, since, rfl, quiet⟩ := exists_latest some_update
    refine ⟨by rw [last, List.head?_cons], earlier, change, since, rfl, quiet, ?_⟩
    rw [List.append_assoc, List.cons_append] at ran
    exact ran.fresh_or_told param inside quiet
  · rintro rfl some_update index there
    obtain ⟨earlier, change, since, rfl, quiet⟩ := exists_latest some_update
    have now : after.valueAt target = change.value := ran.valueAt_of_latest param quiet
    have heard : index < (duesAfter store target index earlier).audience :=
      Nat.lt_of_lt_of_le there (Dues.audience_le_steps target index ⟨_, []⟩ earlier)
    have some_call := ran.deliveries_ne_nil inside quiet heard
    have parts : deliveries target index (earlier ++ .updated target change :: since) =
        deliveries target index earlier ++ deliveries target index since :=
      deliveries_append target index earlier (.updated target change :: since)
    rw [now, parts]
    refine ⟨List.mem_append_right _ ?_, ?_⟩
    · exact List.mem_of_head? (ran.head?_deliveries inside quiet heard some_call)
    · rintro rfl
      rw [List.getLast?_append_of_ne_nil _ some_call, List.getLast?_eq_some_getLast some_call]
      have last := List.getLast_mem some_call
      rw [ran.eq_of_mem_deliveries param inside quiet last]

/-- The first of two listeners updates the param while the second one is still to be called. -/
theorem given_latest_undelivered_of_reaction :
    let names : Table Handle := [("p", 0)]
    let one : Change := { value := .number (.integer 1) }
    let two : Change := { value := .number (.integer 2) }
    let store : Store := [⟨.param .null, [⟨"a", 1, [.update "p" two]⟩, ⟨"b", 0, []⟩]⟩]
    store.live? 0 = some (.param .null) ∧
    ∃ events after, Runs names store (performing [.update "p" one]) events after [] ∧
      history 0 events = [one, two] ∧ after.valueAt 0 = two.value ∧
      (∀ index < 2, two.value ∈ deliveries 0 index events) ∧
      (deliveries 0 0 events).getLast? = some two.value := by
  intro names one two store
  have param : store.live? 0 = some (.param .null) := rfl
  have bound : names.lookup "p" = some 0 := rfl
  have ran : ∃ events after, Runs names store (performing [.update "p" one]) events after [] ∧
      history 0 events = [one, two] ∧ after.valueAt 0 = two.value :=
    ⟨_, _, .step (.update bound) (.step (.call [.update "p" two] rfl) (.step (.update bound)
      (.step (.call [] rfl) (.step (.call [] rfl) (.step (.call [] rfl) .stop))))), rfl, rfl⟩
  obtain ⟨events, after, ran, updates, now⟩ := ran
  have given := (given_latest_undelivered names store [.update "p" one] param).2 events after [] ran
  have told := given.2 rfl (by simp [updates])
  rw [now] at told
  exact ⟨param, events, after, ran, updates, now, fun index there => (told index there).1,
    (told 0 (by decide)).2 rfl⟩

/-- The update that the first listener makes overtakes the one under way: the second listener is
called with the new value first, and then with a value that the param has no longer. -/
theorem inner_update_overtakes :
    let one : Json := .number (.integer 1)
    let two : Json := .number (.integer 2)
    let session := Session.afterAll { rules := { catalog := Standard.catalog } }
      [.resolve (.string "$p") freshParam,
        .perform (.subscribe "p" "a" 1 [.update "p" { value := two }]),
        .perform (.subscribe "p" "b" 0 [])]
    let notices : List Notice :=
      [⟨"a", one, one⟩, ⟨"a", two, two⟩, ⟨"b", two, two⟩, ⟨"b", one, two⟩]
    let (log, after) := session.perform (.update "p" { value := one })
    log = some notices ∧ (∃ notice ∈ notices, notice.given ≠ notice.current) ∧
    ((notices.filter (·.label = "b")).getLast?.map (·.given)) = some one ∧
    after.scope.live? "p" = some (.param two) ∧ one ≠ two := by
  intro one two session notices
  let names : Table Handle := [("p", 0)]
  let a : Listener := ⟨"a", 1, [.update "p" { value := two }]⟩
  let b : Listener := ⟨"b", 0, []⟩
  let store : Store := [⟨.param .null, [a, b]⟩]
  have start : session.scope = { store, names } := by
    have fresh : (Session.resolve { rules := { catalog := Standard.catalog } } (.string "$p")
        freshParam).session.scope = { store := [⟨.param .null, []⟩], names } := rfl
    have bound : names.lookup "p" = some 0 := rfl
    simp only [session, Session.afterAll, List.foldl_cons, List.foldl_nil, Session.after,
      Session.perform, fresh, Scope.handle?, Action.name, bound, Store.perform,
      Store.run_subscribe, Store.run_nil]
    rfl
  have round : store.perform names (.update "p" { value := one }) =
      ([⟨.param two, [{ a with runs := 0 }, b]⟩],
        [.updated 0 { value := one }, .called 0 0 ⟨"a", one, one⟩, .updated 0 { value := two },
          .called 0 0 ⟨"a", two, two⟩, .called 0 1 ⟨"b", two, two⟩,
          .called 0 1 ⟨"b", one, two⟩]) := by
    simp [Store.perform, performing, Store.run_nil, Store.run_update, Store.run_call, names,
      callsFor, store, Store.listenersAt, Store.update, Store.spend, a, b, List.range_succ,
      Store.valueAt, Store.live?, Live.update, Live.value]
  have other : one ≠ two := by simp [one, two]
  have stale : (⟨"b", one, two⟩ : Notice) ∈ notices := by simp [notices]
  simp only [Session.perform, start, Action.name, round]
  exact ⟨rfl, ⟨_, stale, other⟩, by simp [notices], rfl, other⟩

end Dashboard
