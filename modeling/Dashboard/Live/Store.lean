import Dashboard.Live.Basic
/-!
# The store of live values

A store is a list of cells. A handle is the place of a cell; cells are only ever added, so a
handle stays good. A cell keeps its listeners in the order of their subscription, and listeners
are never removed.

A listener reacts to a call by its actions as often as it has runs left. The budget of a store
bounds the actions that its listeners can still cause.
-/
namespace Dashboard

abbrev Handle := Nat

/-- What a session or a listener does to the live value of a name. The name is looked up when the
action is performed, so it may be bound only after a listener with this action was added. -/
inductive Action where
  | update (name : String) (change : Change)
  | subscribe (name label : String) (runs : Nat) (actions : List Action)

def Action.name : Action → String
  | .update name _ => name
  | .subscribe name _ _ _ => name

structure Listener where
  label : String
  runs : Nat
  actions : List Action

structure Cell where
  live : Live
  listeners : List Listener := []

abbrev Store := List Cell

namespace Store

/-- Adds a cell, whose handle is the old length of the store. -/
def alloc (store : Store) (live : Live) : Store :=
  store ++ [⟨live, []⟩]

def live? (store : Store) (handle : Handle) : Option Live :=
  store[handle]?.map (·.live)

/-- The value behind a handle, null if there is none. -/
def valueAt (store : Store) (handle : Handle) : Json :=
  ((store.live? handle).map (·.value)).getD .null

def listenersAt (store : Store) (handle : Handle) : List Listener :=
  (store[handle]?.map (·.listeners)).getD []

def update (store : Store) (handle : Handle) (change : Change) : Store :=
  store.modify handle fun cell => { cell with live := cell.live.update change }

def subscribe (store : Store) (handle : Handle) (listener : Listener) : Store :=
  store.modify handle fun cell => { cell with listeners := cell.listeners ++ [listener] }

/-- Counts one run of a listener. -/
def spend (store : Store) (handle : Handle) (index : Nat) : Store :=
  store.modify handle fun cell =>
    { cell with
      listeners := cell.listeners.modify index fun l => { l with runs := l.runs - 1 } }

end Store

mutual

/-- The steps that an action can cause: itself, and those of a listener it adds. -/
def Action.weight : Action → Nat
  | .update _ _ => 1
  | .subscribe _ _ runs actions => 1 + runs * (1 + Action.weights actions)

def Action.weights : List Action → Nat
  | [] => 0
  | action :: actions => action.weight + Action.weights actions

end

/-- The sum of the sizes. -/
def total {α : Type} (size : α → Nat) : List α → Nat
  | [] => 0
  | x :: xs => size x + total size xs

def Listener.budget (l : Listener) : Nat :=
  l.runs * (1 + Action.weights l.actions)

def Cell.budget (cell : Cell) : Nat :=
  total Listener.budget cell.listeners

def Store.budget (store : Store) : Nat :=
  total Cell.budget store

theorem Action.weights_append (as bs : List Action) :
    Action.weights (as ++ bs) = Action.weights as + Action.weights bs := by
  induction as with
  | nil => simp [Action.weights]
  | cons a as ih => simp only [List.cons_append, Action.weights, ih]; omega

theorem total_append {α : Type} (size : α → Nat) (xs ys : List α) :
    total size (xs ++ ys) = total size xs + total size ys := by
  induction xs with
  | nil => simp [total]
  | cons x xs ih => simp only [List.cons_append, total, ih]; omega

theorem total_perm {α : Type} (size : α → Nat) {xs ys : List α} (same : xs.Perm ys) :
    total size xs = total size ys := by
  induction same with
  | nil => rfl
  | cons x _ ih => rw [total, total, ih]
  | swap x y xs =>
    simp only [total]
    omega
  | trans _ _ first second => exact first.trans second

/-- A change at one place of a list changes a sum by what it changes at that place. -/
theorem total_modify {α : Type} (size : α → Nat) (f : α → α) {xs : List α} {i : Nat} {x : α}
    (h : xs[i]? = some x) :
    total size (xs.modify i f) + size x = total size xs + size (f x) := by
  induction xs generalizing i with
  | nil => simp at h
  | cons y ys ih =>
    cases i with
    | zero =>
      obtain rfl : y = x := by simpa using h
      simp only [List.modify_zero_cons, total]
      omega
    | succ i =>
      have := ih (i := i) (by simpa using h)
      simp only [List.modify_succ_cons, total]
      omega

theorem modify_of_none {α : Type} (f : α → α) {xs : List α} {i : Nat} (h : xs[i]? = none) :
    xs.modify i f = xs := by
  rw [List.modify_eq_self (by simpa using h)]

namespace Store

@[simp] theorem length_update (store : Store) (handle : Handle) (change : Change) :
    (store.update handle change).length = store.length := by
  simp [update]

@[simp] theorem length_subscribe (store : Store) (handle : Handle) (listener : Listener) :
    (store.subscribe handle listener).length = store.length := by
  simp [subscribe]

@[simp] theorem length_spend (store : Store) (handle : Handle) (index : Nat) :
    (store.spend handle index).length = store.length := by
  simp [spend]

theorem lt_of_live? {store : Store} {handle : Handle} {live : Live}
    (found : store.live? handle = some live) : handle < store.length := by
  obtain ⟨cell, here, -⟩ := Option.map_eq_some_iff.1 found
  exact (List.getElem?_eq_some_iff.1 here).choose

theorem live?_update (store : Store) (handle : Handle) (change : Change) (i : Handle) :
    (store.update handle change).live? i =
      if handle = i then (store.live? i).map (·.update change) else store.live? i := by
  by_cases h : handle = i
  · simp [live?, update, h, Function.comp_def]
  · simp [live?, update, h]

@[simp] theorem live?_subscribe (store : Store) (handle : Handle) (listener : Listener)
    (i : Handle) : (store.subscribe handle listener).live? i = store.live? i := by
  by_cases h : handle = i <;> simp [live?, subscribe, h, Function.comp_def]

@[simp] theorem live?_spend (store : Store) (handle : Handle) (index : Nat) (i : Handle) :
    (store.spend handle index).live? i = store.live? i := by
  by_cases h : handle = i <;> simp [live?, spend, h, Function.comp_def]

theorem live?_alloc_of_lt {store : Store} {i : Handle} (h : i < store.length) (live : Live) :
    (store.alloc live).live? i = store.live? i := by
  simp [live?, alloc, List.getElem?_append_left h]

@[simp] theorem live?_alloc_length (store : Store) (live : Live) :
    (store.alloc live).live? store.length = some live := by
  simp [live?, alloc]

theorem budget_update (store : Store) (handle : Handle) (change : Change) :
    (store.update handle change).budget = store.budget := by
  cases h : store[handle]? with
  | none => rw [update, modify_of_none _ h]
  | some cell =>
    have := total_modify Cell.budget
      (fun cell => { cell with live := cell.live.update change }) h
    simp only [Cell.budget] at this
    simp only [update, budget]
    omega

theorem budget_subscribe (store : Store) (handle : Handle) (listener : Listener) :
    (store.subscribe handle listener).budget ≤ store.budget + listener.budget := by
  cases h : store[handle]? with
  | none => rw [subscribe, modify_of_none _ h]; omega
  | some cell =>
    have := total_modify Cell.budget
      (fun cell => { cell with listeners := cell.listeners ++ [listener] }) h
    simp only [Cell.budget, total_append, total] at this
    simp only [subscribe, budget]
    omega

theorem budget_spend {store : Store} {handle : Handle} {index : Nat} {l : Listener}
    (h : (store.listenersAt handle)[index]? = some l) (pos : 0 < l.runs) :
    (store.spend handle index).budget + (1 + Action.weights l.actions) = store.budget := by
  cases hc : store[handle]? with
  | none => simp [listenersAt, hc] at h
  | some cell =>
    simp only [listenersAt, hc, Option.map_some, Option.getD_some] at h
    have outer := total_modify Cell.budget
      (fun cell => { cell with
        listeners := cell.listeners.modify index fun l => { l with runs := l.runs - 1 } }) hc
    have inner := total_modify Listener.budget (fun l => { l with runs := l.runs - 1 }) h
    have whole : l.runs * (1 + Action.weights l.actions) =
        (l.runs - 1) * (1 + Action.weights l.actions) + (1 + Action.weights l.actions) := by
      rw [← Nat.succ_mul, Nat.succ_eq_add_one, Nat.sub_add_cancel pos]
    simp only [Cell.budget] at outer
    simp only [Listener.budget] at inner
    simp only [spend, budget]
    omega

end Store

end Dashboard
