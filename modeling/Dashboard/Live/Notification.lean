import Dashboard.Live.Store
import Dashboard.Table
/-!
# Notifications

An update changes its target and then calls the listeners that the target has at that moment, in
the order of their subscription, each with the value of the update. A called listener acts at once,
so the calls that its own updates cause come before the calls still due. What is due is an agenda,
a stack of tasks.

The agenda runs dry: each task either uses up budget or only shortens the agenda.
-/
namespace Dashboard

inductive Task where
  | perform (action : Action)
  /-- Call the listener at `index` of the target with a value. -/
  | call (target : Handle) (index : Nat) (given : Json)

/-- A call as a listener saw it: the value it was given and the value of its target. -/
structure Notice where
  label : String
  given : Json
  current : Json
  deriving Repr

/-- What happened in a run. -/
inductive Event where
  | updated (target : Handle) (change : Change)
  | subscribed (target : Handle) (listener : Listener)
  | called (target : Handle) (index : Nat) (notice : Notice)

def Event.notice? : Event → Option Notice
  | called _ _ notice => some notice
  | _ => none

/-- The actions that are due. -/
def Task.weights : List Task → Nat
  | [] => 0
  | .perform action :: agenda => action.weight + Task.weights agenda
  | .call _ _ _ :: agenda => Task.weights agenda

theorem Task.weights_append (as bs : List Task) :
    Task.weights (as ++ bs) = Task.weights as + Task.weights bs := by
  induction as with
  | nil => simp [Task.weights]
  | cons a as ih => cases a <;> simp only [List.cons_append, Task.weights, ih]; omega

def performing (actions : List Action) : List Task :=
  actions.map .perform

theorem weights_performing (actions : List Action) :
    Task.weights (performing actions) = Action.weights actions := by
  induction actions with
  | nil => rfl
  | cons a as ih =>
    simp only [performing, List.map_cons, Task.weights, Action.weights] at ih ⊢
    rw [ih]

/-- The calls of an update: every listener of the target, in order. -/
def callsFor (store : Store) (target : Handle) (given : Json) : List Task :=
  (List.range (store.listenersAt target).length).map fun index => .call target index given

theorem weights_callsFor (store : Store) (target : Handle) (given : Json) :
    Task.weights (callsFor store target given) = 0 := by
  unfold callsFor
  induction List.range (store.listenersAt target).length with
  | nil => rfl
  | cons i is ih => simpa only [List.map_cons, Task.weights] using ih

namespace Store

/-- Runs an agenda to its end. Returns the store and what happened, in its order. An action on a
name that is not bound does nothing; no action binds one. -/
def run (names : Table Handle) (store : Store) (agenda : List Task) : Store × List Event :=
  match agenda with
  | [] => (store, [])
  | .perform (.update name change) :: rest =>
    match names.lookup name with
    | none => run names store rest
    | some target =>
      let (store, events) :=
        run names (store.update target change) (callsFor store target change.value ++ rest)
      (store, .updated target change :: events)
  | .perform (.subscribe name label runs actions) :: rest =>
    match names.lookup name with
    | none => run names store rest
    | some target =>
      let listener : Listener := ⟨label, runs, actions⟩
      let (store, events) := run names (store.subscribe target listener) rest
      (store, .subscribed target listener :: events)
  | .call target index given :: rest =>
    match _h : (store.listenersAt target)[index]? with
    | none => run names store rest
    | some listener =>
      let call := Event.called target index ⟨listener.label, given, store.valueAt target⟩
      if _pos : 0 < listener.runs then
        let (store, events) :=
          run names (store.spend target index) (performing listener.actions ++ rest)
        (store, call :: events)
      else
        let (store, events) := run names store rest
        (store, call :: events)
termination_by (store.budget + Task.weights agenda, agenda.length)
decreasing_by
  · apply Prod.Lex.left
    simp only [Task.weights, Action.weight]
    omega
  · apply Prod.Lex.left
    simp only [budget_update, Task.weights_append, weights_callsFor, Task.weights, Action.weight]
    omega
  · apply Prod.Lex.left
    simp only [Task.weights, Action.weight]
    omega
  · apply Prod.Lex.left
    have := store.budget_subscribe target ⟨label, runs, actions⟩
    simp only [Listener.budget] at this
    simp only [Task.weights, Action.weight]
    omega
  · apply Prod.Lex.right'
    · simp [Task.weights]
    · simp
  · apply Prod.Lex.left
    have := budget_spend _h _pos
    simp only [Task.weights_append, weights_performing, Task.weights]
    omega
  · apply Prod.Lex.right'
    · simp [Task.weights]
    · simp

/-- Performs one action and all that follows from it. -/
def perform (names : Table Handle) (store : Store) (action : Action) : Store × List Event :=
  store.run names [.perform action]

end Store

end Dashboard
