import Dashboard.Proofs.Running
import Mathlib.Data.List.Basic
/-!
# Rounds of notification

However listeners react, the events of a run unfold from the tasks of its agenda, one after another.
An update unfolds to the calls of the listeners that its target has then, one call for each in the
order of their subscription. A call unfolds to what the listener causes, before the next call is
made. So a listener is called as often as its target is updated after the subscription.
-/
namespace Dashboard

/-! ## Unfolding -/

/-- What is to be seen of tasks that are done one after another, each with all that it causes. -/
inductive Unfolds (names : Table Handle) : Store → List Task → List Event → Store → Prop
  | nil {store : Store} : Unfolds names store [] [] store
  | unbound {store after : Store} {action : Action} {rest : List Task} {events : List Event} :
      names.lookup action.name = none → Unfolds names store rest events after →
      Unfolds names store (.perform action :: rest) events after
  | update {store middle after : Store} {name : String} {change : Change} {target : Handle}
      {rest : List Task} {round events : List Event} :
      names.lookup name = some target →
      Unfolds names (store.update target change)
        ((List.range (store.audience target)).map fun index => .call target index change.value)
        round middle →
      Unfolds names middle rest events after →
      Unfolds names store (.perform (.update name change) :: rest)
        (.updated target change :: (round ++ events)) after
  | subscribe {store after : Store} {name label : String} {runs : Nat} {actions : List Action}
      {target : Handle} {rest : List Task} {events : List Event} :
      names.lookup name = some target →
      Unfolds names (store.subscribe target ⟨label, runs, actions⟩) rest events after →
      Unfolds names store (.perform (.subscribe name label runs actions) :: rest)
        (.subscribed target ⟨label, runs, actions⟩ :: events) after
  | call {store middle after : Store} {target : Handle} {index : Nat} {given : Json}
      {listener : Listener} {reaction : List Action} {rest : List Task}
      {caused events : List Event} :
      (store.listenersAt target)[index]? = some listener →
      Unfolds names (store.spend target index) (performing reaction) caused middle →
      Unfolds names middle rest events after →
      Unfolds names store (.call target index given :: rest)
        (.called target index ⟨listener.label, given, store.valueAt target⟩ ::
          (caused ++ events)) after

variable {names : Table Handle}

/-- What is to be seen of two lists of tasks is to be seen of one after the other. -/
theorem Unfolds.split {first second : List Task} {store after : Store} {events : List Event}
    (h : Unfolds names store (first ++ second) events after) :
    ∃ before later middle, events = before ++ later ∧
      Unfolds names store first before middle ∧ Unfolds names middle second later after := by
  induction first generalizing store events with
  | nil => exact ⟨[], events, store, rfl, .nil, h⟩
  | cons task first ih =>
    cases h with
    | unbound free rest =>
      obtain ⟨before, later, middle, rfl, one, two⟩ := ih rest
      exact ⟨before, later, middle, rfl, .unbound free one, two⟩
    | update bound round rest =>
      obtain ⟨before, later, middle, rfl, one, two⟩ := ih rest
      refine ⟨_, later, middle, ?_, .update bound round one, two⟩
      rw [List.cons_append, List.append_assoc]
    | subscribe bound rest =>
      obtain ⟨before, later, middle, rfl, one, two⟩ := ih rest
      exact ⟨_, later, middle, rfl, .subscribe bound one, two⟩
    | call here caused rest =>
      obtain ⟨before, later, middle, rfl, one, two⟩ := ih rest
      refine ⟨_, later, middle, ?_, .call here caused one, two⟩
      rw [List.cons_append, List.append_assoc]

/-- The calls of an agenda are calls of listeners that are there. -/
def Attended (store : Store) (agenda : List Task) : Prop :=
  ∀ target index given, .call target index given ∈ agenda → index < store.audience target

theorem attended_performing (store : Store) (actions : List Action) :
    Attended store (performing actions) := by
  intro target index given inside
  obtain ⟨action, -, same⟩ := List.mem_map.1 inside
  cases same

theorem attended_callsFor {store after : Store} {target : Handle}
    (grows : store.audience target ≤ after.audience target) (given : Json) :
    Attended after (callsFor store target given) := by
  intro handle index value inside
  obtain ⟨i, small, same⟩ := List.mem_map.1 inside
  cases same
  exact Nat.lt_of_lt_of_le (List.mem_range.1 small) grows

theorem Attended.append {store : Store} {first second : List Task} (h : Attended store first)
    (k : Attended store second) : Attended store (first ++ second) := by
  intro target index given inside
  obtain left | right := List.mem_append.1 inside
  · exact h target index given left
  · exact k target index given right

/-- Listeners are never removed. -/
theorem Advances.audience_le {store after : Store} {task : Task} {events : List Event}
    {due : List Task} (h : Advances names store task events after due) (target : Handle) :
    store.audience target ≤ after.audience target := by
  cases h with
  | unbound _ => exact Nat.le_refl _
  | update _ => simp
  | subscribe _ =>
    rw [Store.audience_subscribe]
    split <;> omega
  | call _ _ => simp
  | gone _ => exact Nat.le_refl _

theorem Advances.attended_due {store after : Store} {task : Task} {events : List Event}
    {due : List Task} (h : Advances names store task events after due) : Attended after due := by
  cases h with
  | unbound _ => exact nofun
  | update _ => exact attended_callsFor (by simp) _
  | subscribe _ => exact nofun
  | call reaction _ => exact attended_performing _ reaction
  | gone _ => exact nofun

theorem Advances.attended {task : Task} {store after : Store} {events : List Event}
    {due rest : List Task} (h : Advances names store task events after due)
    (attended : Attended store (task :: rest)) : Attended after (due ++ rest) := by
  have kept : Attended after rest := by
    intro target index given inside
    have before := attended target index given (List.mem_cons_of_mem _ inside)
    exact Nat.lt_of_lt_of_le before (h.audience_le target)
  exact h.attended_due.append kept

theorem Runs.attended {store after : Store} {agenda left : List Task} {events : List Event}
    (h : Runs names store agenda events after left) (attended : Attended store agenda) :
    Attended after left := by
  induction h with
  | stop => exact attended
  | step advances _ ih => exact ih (advances.attended attended)

/-- A run to the end of an agenda unfolds the agenda. -/
theorem Runs.unfolds {store after : Store} {agenda : List Task} {events : List Event}
    (h : Runs names store agenda events after []) (attended : Attended store agenda) :
    Unfolds names store agenda events after := by
  generalize done : ([] : List Task) = left at h
  induction h with
  | stop =>
    subst done
    exact .nil
  | @step store middle after task due rest left events later advances _ ih =>
    -- what is due comes first, and all of it is done before the rest
    have unfolds := ih (advances.attended attended) done
    obtain ⟨caused, others, between, rfl, first, second⟩ := unfolds.split
    cases advances with
    | unbound free =>
      cases first
      exact .unbound free second
    | update bound =>
      have whole := Unfolds.update bound first second
      exact whole
    | subscribe bound =>
      cases first
      exact .subscribe bound second
    | @call target index given listener reaction here =>
      have whole : Unfolds names store (.call target index given :: rest) _ after :=
        .call here first second
      exact whole
    | @gone target index given gone =>
      have small := attended target index given List.mem_cons_self
      exact absurd gone (by simpa [Store.audience] using small)

/-! ## Counting -/

/-- Whether an event is a call of the listener of a cell at an index. -/
def Event.isCall (target : Handle) (index : Nat) : Event → Bool
  | called handle i _ => handle = target ∧ i = index
  | _ => false

def Event.isUpdate (target : Handle) : Event → Bool
  | updated handle _ => handle = target
  | _ => false

def Event.isSubscription (target : Handle) : Event → Bool
  | subscribed handle _ => handle = target
  | _ => false

/-- The updates of a cell that began when it had more listeners than `index`, where `audience` is
the number of its listeners at the start. -/
def heard (target : Handle) (index : Nat) : Nat → List Event → Nat
  | _, [] => 0
  | audience, .updated handle _ :: events =>
    (if handle = target ∧ index < audience then 1 else 0) + heard target index audience events
  | audience, .subscribed handle _ :: events =>
    heard target index (if handle = target then audience + 1 else audience) events
  | audience, .called _ _ _ :: events => heard target index audience events

theorem heard_append (target : Handle) (index audience : Nat) (before later : List Event) :
    heard target index audience (before ++ later) =
      heard target index audience before +
        heard target index (audience + before.countP (Event.isSubscription target)) later := by
  induction before generalizing audience with
  | nil => simp [heard]
  | cons event before ih =>
    cases event with
    | updated handle change => simp [heard, ih, Event.isSubscription, Nat.add_assoc]
    | subscribed handle listener =>
      by_cases same : handle = target <;>
        simp [heard, ih, Event.isSubscription, same, Nat.add_assoc, Nat.add_comm 1]
    | called handle i notice => simp [heard, ih, Event.isSubscription]

theorem heard_of_lt {target : Handle} {index audience : Nat} (there : index < audience)
    (events : List Event) :
    heard target index audience events = events.countP (Event.isUpdate target) := by
  induction events generalizing audience with
  | nil => rfl
  | cons event events ih =>
    cases event with
    | updated handle change =>
      by_cases same : handle = target <;>
        simp [heard, ih there, Event.isUpdate, same, there, Nat.add_comm]
    | subscribed handle listener =>
      have still : index < if handle = target then audience + 1 else audience := by
        split <;> omega
      simp [heard, ih still, Event.isUpdate]
    | called handle i notice => simp [heard, ih there, Event.isUpdate]

/-- Nothing is heard before the subscription. -/
theorem heard_of_le {target : Handle} {index audience : Nat} {events : List Event}
    (absent : audience + events.countP (Event.isSubscription target) ≤ index) :
    heard target index audience events = 0 := by
  induction events generalizing audience with
  | nil => rfl
  | cons event events ih =>
    cases event with
    | updated handle change =>
      have rest : audience + events.countP (Event.isSubscription target) ≤ index := by
        simpa [Event.isSubscription] using absent
      have late : ¬ index < audience := by omega
      simp [heard, ih rest, late]
    | subscribed handle listener =>
      by_cases same : handle = target
      · have rest : audience + 1 + events.countP (Event.isSubscription target) ≤ index := by
          simp [Event.isSubscription, same] at absent
          omega
        simp [heard, same, ih rest]
      · have rest : audience + events.countP (Event.isSubscription target) ≤ index := by
          simpa [Event.isSubscription, same] using absent
        simp [heard, same, ih rest]
    | called handle i notice =>
      have rest : audience + events.countP (Event.isSubscription target) ≤ index := by
        simpa [Event.isSubscription] using absent
      simp [heard, ih rest]

/-- Whether a task is the call of the listener of a cell at an index. -/
def Task.isCall (target : Handle) (index : Nat) : Task → Bool
  | call handle i _ => handle = target ∧ i = index
  | _ => false

theorem countP_performing (target : Handle) (index : Nat) (actions : List Action) :
    (performing actions).countP (Task.isCall target index) = 0 := by
  simp [performing, Task.isCall]

/-- An update calls each listener of its target once. -/
theorem countP_callsFor (store : Store) (handle target : Handle) (index : Nat) (given : Json) :
    (callsFor store handle given).countP (Task.isCall target index) =
      if handle = target ∧ index < store.audience target then 1 else 0 := by
  unfold callsFor
  rw [List.countP_map]
  by_cases same : handle = target
  · subst same
    have once := (List.nodup_range (n := store.audience handle)).count (a := index)
    simpa [Function.comp_def, Task.isCall, Store.audience, List.count_eq_countP, beq_eq_decide,
      List.mem_range] using once
  · simp [Function.comp_def, Task.isCall, same]

theorem Unfolds.length {store after : Store} {agenda : List Task} {events : List Event}
    (h : Unfolds names store agenda events after) : after.length = store.length := by
  induction h with
  | nil => rfl
  | unbound _ _ ih => exact ih
  | update _ _ _ round rest => rw [rest, round, Store.length_update]
  | subscribe _ _ ih => rw [ih, Store.length_subscribe]
  | call _ _ _ caused rest => rw [rest, caused, Store.length_spend]

theorem Unfolds.audience {store after : Store} {agenda : List Task} {events : List Event}
    (h : Unfolds names store agenda events after) {target : Handle}
    (inside : target < store.length) :
    after.audience target =
      store.audience target + events.countP (Event.isSubscription target) := by
  induction h with
  | nil => rfl
  | unbound _ _ ih => exact ih inside
  | update _ round _ first second =>
    rw [second (by simpa [round.length] using inside), first (by simpa using inside)]
    simp [Event.isSubscription, Nat.add_assoc]
  | @subscribe store _ _ _ _ _ handle _ _ _ _ ih =>
    rw [ih (by simpa using inside), Store.audience_subscribe]
    by_cases same : handle = target
    · simp [Event.isSubscription, same, inside, Nat.add_assoc, Nat.add_comm 1]
    · simp [Event.isSubscription, same]
  | call _ caused _ first second =>
    rw [second (by simpa [caused.length] using inside), first (by simpa using inside)]
    simp [Event.isSubscription, Nat.add_assoc]

/-- The calls of a listener are those that were due and those that it heard. -/
theorem Unfolds.calls {store after : Store} {agenda : List Task} {events : List Event}
    (h : Unfolds names store agenda events after) {target : Handle}
    (inside : target < store.length) (index : Nat) :
    events.countP (Event.isCall target index) =
      agenda.countP (Task.isCall target index) +
        heard target index (store.audience target) events := by
  induction h with
  | nil => rfl
  | unbound _ _ ih => simpa [Task.isCall] using ih inside
  | @update store middle after name change handle rest round events bound calls others first
      second =>
    have start : target < (store.update handle change).length := by simpa using inside
    have one := first start
    have two := second (calls.length ▸ start)
    have round := countP_callsFor store handle target index change.value
    rw [callsFor, ← Store.audience] at round
    rw [round, Store.audience_update] at one
    rw [calls.audience start, Store.audience_update] at two
    rw [List.countP_cons_of_neg (by simp [Event.isCall]), List.countP_append, one, two,
      List.countP_cons_of_neg (by simp [Task.isCall]), heard, heard_append]
    omega
  | @subscribe store after name label runs actions handle rest events bound others ih =>
    have start : target < (store.subscribe handle ⟨label, runs, actions⟩).length := by
      simpa using inside
    have all := ih start
    rw [Store.audience_subscribe] at all
    simp only [inside, and_true] at all
    rw [List.countP_cons_of_neg (by simp [Event.isCall]), all,
      List.countP_cons_of_neg (by simp [Task.isCall]), heard]
  | @call store middle after handle i given listener reaction rest caused events here causes others
      first second =>
    have start : target < (store.spend handle i).length := by simpa using inside
    have one := first start
    have two := second (causes.length ▸ start)
    rw [countP_performing, Store.audience_spend] at one
    rw [causes.audience start, Store.audience_spend] at two
    have same : Event.isCall target index
        (.called handle i ⟨listener.label, given, store.valueAt handle⟩) =
          Task.isCall target index (.call handle i given) := rfl
    rw [List.countP_cons, List.countP_append, one, two, List.countP_cons, heard, heard_append, same]
    omega

/-- Whatever listeners do when they are called, the events of a run unfold from its actions: an
update calls the listeners that its target had before it, in the order of their subscription, each
once and with the value of the update, and all that a called listener causes happens before the
next call. So no call is lost: a listener that was there at the start is called once for each
update of its target, and a later one once for each update since its subscription. -/
theorem notification_unfolds (names : Table Handle) (store : Store) (actions : List Action) :
    Runs names store (performing actions) (store.run names (performing actions)).2
      (store.run names (performing actions)).1 [] ∧
    ∀ events after, Runs names store (performing actions) events after [] →
      Unfolds names store (performing actions) events after ∧
      (∀ target index, index < store.audience target →
        events.countP (Event.isCall target index) = events.countP (Event.isUpdate target)) ∧
      ∀ target before listener later, target < store.length →
        events = before ++ .subscribed target listener :: later →
        events.countP (Event.isCall target
            (store.audience target + before.countP (Event.isSubscription target))) =
          later.countP (Event.isUpdate target) := by
  refine ⟨runs_run names store _, fun events after ran => ?_⟩
  have unfolds := ran.unfolds (attended_performing store actions)
  have calls (target : Handle) (inside : target < store.length) (index : Nat) :
      events.countP (Event.isCall target index) =
        heard target index (store.audience target) events := by
    rw [unfolds.calls inside, countP_performing, Nat.zero_add]
  refine ⟨unfolds, fun target index there => ?_,
    fun target before listener later inside split => ?_⟩
  · have inside : target < store.length := by
      by_contra outside
      simp [Store.audience, Store.listenersAt, outside] at there
    rw [calls target inside, heard_of_lt there]
  · rw [calls target inside, split, heard_append, heard_of_le (Nat.le_refl _), heard, if_pos rfl,
      heard_of_lt (Nat.lt_succ_self _), Nat.zero_add]

end Dashboard
