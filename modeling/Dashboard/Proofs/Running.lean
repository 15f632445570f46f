import Dashboard.Live.Notification
/-!
# Runs in which listeners do what they like

An agenda is run task by task. What a called listener does is up to the listener, so a run allows
any actions where a listener is called. It may also stop with tasks left. The run of a store, in
which a listener performs the actions that it was subscribed with, is one of these runs.
-/
namespace Dashboard

/-! ## Listeners of a cell -/

theorem modify_of_fixed {α : Type} {f : α → α} {xs : List α} {i : Nat}
    (fixed : ∀ x, xs[i]? = some x → f x = x) : xs.modify i f = xs := by
  apply List.ext_getElem?
  intro j
  rw [List.getElem?_modify]
  by_cases here : i = j
  · subst here
    cases found : xs[i]? with
    | none => rfl
    | some x => simp [fixed x found]
  · simp [here]

namespace Store

@[simp] theorem listenersAt_update (store : Store) (handle : Handle) (change : Change)
    (i : Handle) : (store.update handle change).listenersAt i = store.listenersAt i := by
  by_cases h : handle = i <;> simp [listenersAt, update, h, Function.comp_def]

theorem listenersAt_subscribe (store : Store) (handle : Handle) (listener : Listener)
    (i : Handle) :
    (store.subscribe handle listener).listenersAt i =
      if handle = i ∧ i < store.length then store.listenersAt i ++ [listener]
      else store.listenersAt i := by
  by_cases same : handle = i
  · subst same
    by_cases inside : handle < store.length <;> simp [listenersAt, subscribe, inside]
  · simp [listenersAt, subscribe, same]

theorem listenersAt_spend (store : Store) (handle : Handle) (index : Nat) (i : Handle) :
    (store.spend handle index).listenersAt i =
      if handle = i then
        (store.listenersAt i).modify index fun l => { l with runs := l.runs - 1 }
      else store.listenersAt i := by
  by_cases same : handle = i
  · subst same
    cases here : store[handle]? <;> simp [listenersAt, spend, here]
  · simp [listenersAt, spend, same]

/-- A listener without runs has nothing to spend. -/
theorem spend_of_spent {store : Store} {handle : Handle} {index : Nat} {listener : Listener}
    (here : (store.listenersAt handle)[index]? = some listener) (spent : listener.runs = 0) :
    store.spend handle index = store := by
  apply modify_of_fixed
  intro cell found
  have listeners : store.listenersAt handle = cell.listeners := by
    simp [listenersAt, found]
  rw [listeners] at here
  have kept : (cell.listeners.modify index fun l => { l with runs := l.runs - 1 }) =
      cell.listeners := by
    apply modify_of_fixed
    intro l at_index
    obtain rfl : l = listener := Option.some.inj (at_index.symm.trans here)
    rw [spent, Nat.zero_sub, ← spent]
  simp only [kept]

/-- How many listeners a cell has. -/
def audience (store : Store) (handle : Handle) : Nat :=
  (store.listenersAt handle).length

@[simp] theorem audience_update (store : Store) (handle : Handle) (change : Change)
    (i : Handle) : (store.update handle change).audience i = store.audience i := by
  simp [audience]

theorem audience_subscribe (store : Store) (handle : Handle) (listener : Listener) (i : Handle) :
    (store.subscribe handle listener).audience i =
      if handle = i ∧ i < store.length then store.audience i + 1 else store.audience i := by
  unfold audience
  rw [listenersAt_subscribe]
  split <;> simp

@[simp] theorem audience_spend (store : Store) (handle : Handle) (index : Nat) (i : Handle) :
    (store.spend handle index).audience i = store.audience i := by
  unfold audience
  rw [listenersAt_spend]
  split <;> simp

end Store

/-! ## One task after another -/

namespace Store
variable (names : Table Handle) (store : Store)

theorem run_nil : store.run names [] = (store, []) :=
  run.eq_def names store []

theorem run_update (name : String) (change : Change) (rest : List Task) :
    store.run names (.perform (.update name change) :: rest) =
      match names.lookup name with
      | none => store.run names rest
      | some target =>
        let (after, events) := (store.update target change).run names
          (callsFor store target change.value ++ rest)
        (after, .updated target change :: events) :=
  run.eq_def names store _

theorem run_subscribe (name label : String) (runs : Nat) (actions : List Action)
    (rest : List Task) :
    store.run names (.perform (.subscribe name label runs actions) :: rest) =
      match names.lookup name with
      | none => store.run names rest
      | some target =>
        let (after, events) := (store.subscribe target ⟨label, runs, actions⟩).run names rest
        (after, .subscribed target ⟨label, runs, actions⟩ :: events) :=
  run.eq_def names store _

/-- A called listener uses up a run, if it has one left to react with. -/
theorem run_call (target : Handle) (index : Nat) (given : Json) (rest : List Task) :
    store.run names (.call target index given :: rest) =
      match (store.listenersAt target)[index]? with
      | none => store.run names rest
      | some listener =>
        let reaction := if 0 < listener.runs then listener.actions else []
        let (after, events) := (store.spend target index).run names (performing reaction ++ rest)
        (after, .called target index ⟨listener.label, given, store.valueAt target⟩ :: events) := by
  rw [run]
  split
  · next gone => rw [gone]
  · next listener here =>
    rw [here]
    split
    · next ready => simp only [if_pos ready]
    · next spent =>
      rw [spend_of_spent here (Nat.eq_zero_of_not_pos spent)]
      simp only [if_neg spent]
      rfl

end Store

/-! ## Runs -/

/-- What one task makes of a store: what happened, the store after it, and what is due before the
tasks that were due already. -/
inductive Advances (names : Table Handle) (store : Store) :
    Task → List Event → Store → List Task → Prop
  | unbound {action : Action} :
      names.lookup action.name = none → Advances names store (.perform action) [] store []
  | update {name : String} {change : Change} {target : Handle} :
      names.lookup name = some target →
      Advances names store (.perform (.update name change)) [.updated target change]
        (store.update target change) (callsFor store target change.value)
  | subscribe {name label : String} {runs : Nat} {actions : List Action} {target : Handle} :
      names.lookup name = some target →
      Advances names store (.perform (.subscribe name label runs actions))
        [.subscribed target ⟨label, runs, actions⟩]
        (store.subscribe target ⟨label, runs, actions⟩) []
  | call {target : Handle} {index : Nat} {given : Json} {listener : Listener}
      (reaction : List Action) :
      (store.listenersAt target)[index]? = some listener →
      Advances names store (.call target index given)
        [.called target index ⟨listener.label, given, store.valueAt target⟩]
        (store.spend target index) (performing reaction)
  | gone {target : Handle} {index : Nat} {given : Json} :
      (store.listenersAt target)[index]? = none →
      Advances names store (.call target index given) [] store []

/-- A listener without runs is called and does nothing. -/
theorem Advances.spent {names : Table Handle} {store : Store} {target : Handle} {index : Nat}
    {given : Json} {listener : Listener}
    (here : (store.listenersAt target)[index]? = some listener) (spent : listener.runs = 0) :
    Advances names store (.call target index given)
      [.called target index ⟨listener.label, given, store.valueAt target⟩] store [] := by
  have task : Advances names store (.call target index given)
      [.called target index ⟨listener.label, given, store.valueAt target⟩]
      (store.spend target index) (performing []) := .call [] here
  rwa [Store.spend_of_spent here spent] at task

/-- A run of an agenda, perhaps not to its end: what happened, the store after it, and the tasks
that are left. -/
inductive Runs (names : Table Handle) : Store → List Task → List Event → Store → List Task → Prop
  | stop {store : Store} {agenda : List Task} : Runs names store agenda [] store agenda
  | step {store middle after : Store} {task : Task} {due rest left : List Task}
      {events later : List Event} :
      Advances names store task events middle due →
      Runs names middle (due ++ rest) later after left →
      Runs names store (task :: rest) (events ++ later) after left

/-- The run of a store is a run to the end. -/
theorem runs_run (names : Table Handle) (store : Store) (agenda : List Task) :
    Runs names store agenda (store.run names agenda).2 (store.run names agenda).1 [] := by
  fun_induction Store.run names store agenda with
  | case1 store => exact .stop
  | case2 store name change rest free ih =>
    have task : Advances names store (.perform (.update name change)) [] store [] := .unbound free
    exact .step task ih
  | case3 store name change rest target bound after events run ih =>
    rw [run] at ih
    exact .step (.update bound) ih
  | case4 store name label runs actions rest free ih =>
    have task : Advances names store (.perform (.subscribe name label runs actions)) [] store [] :=
      .unbound free
    exact .step task ih
  | case5 store name label runs actions rest target bound listener after events run ih =>
    rw [run] at ih
    exact .step (.subscribe bound) ih
  | case6 store target index given rest gone ih => exact .step (.gone gone) ih
  | case7 store target index given rest listener here call ready after events run ih =>
    rw [run] at ih
    exact .step (.call listener.actions here) ih
  | case8 store target index given rest listener here call done after events run ih =>
    rw [run] at ih
    exact .step (.spent here (Nat.eq_zero_of_not_pos done)) ih

end Dashboard
