import Dashboard.Proofs.Running
import Mathlib.Data.Multiset.Bind
import Mathlib.Data.Multiset.Replicate
import Mathlib.Logic.Hydra
import Mathlib.Logic.Relation
import Mathlib.Tactic.Abel
/-!
# Cascades of updates

A listener may update the very cell that notifies it, cells may update each other in circles, and
listeners may subscribe listeners while a round is under way. Still every update comes to its end,
if each listener does only so much in its life and subscribes only listeners of a smaller depth.

How much a new listener may do is up to the one that subscribes it, so no number bounds a cascade
beforehand. What is left to do is a multiset of depths instead, one for each operation that a
listener may still perform. A subscription takes one of them away and brings smaller ones, which is
a step of the hydra game; a call only moves depths from what may be done to what is due.
-/
namespace Dashboard
open Relation

/-- What a listener may still do in its life: so many operations, and subscriptions among them only
of listeners of a smaller depth. -/
structure Allowance where
  target : Handle
  index : Nat
  left : Nat
  depth : Nat

/-- A task and the depth of the listener that does it. -/
structure Errand where
  task : Task
  depth : Nat

/-- A moment of a run. A listener without an allowance does nothing when it is called. -/
structure Cascade where
  store : Store
  allowances : Multiset Allowance
  agenda : List Errand

/-- Tasks that are done by someone of a depth. -/
def errands (depth : Nat) (tasks : List Task) : List Errand :=
  tasks.map (⟨·, depth⟩)

def Cascade.tasks (cascade : Cascade) : List Task :=
  cascade.agenda.map Errand.task

@[simp] theorem task_errands (depth : Nat) (tasks : List Task) :
    (errands depth tasks).map Errand.task = tasks := by
  simp [errands, Function.comp_def]

/-- What can come of the first task. A called listener chooses all that it will do in this call, at
most what its allowance has left, and what a new listener may do is chosen when it is
subscribed. -/
inductive Cascade.Step (names : Table Handle) : Cascade → Cascade → Prop
  /-- Nothing to perform comes of the task. -/
  | quiet {store after : Store} {allowances : Multiset Allowance} {task : Task} {depth : Nat}
      {events : List Event} {due : List Task} {rest : List Errand} :
      Advances names store task events after due → (∀ action, .perform action ∉ due) →
      Step names ⟨store, allowances, ⟨task, depth⟩ :: rest⟩
        ⟨after, allowances, errands 0 due ++ rest⟩
  | subscribe {store : Store} {allowances : Multiset Allowance} {name label : String}
      {runs depth left lower : Nat} {actions : List Action} {target : Handle}
      {rest : List Errand} :
      names.lookup name = some target → lower < depth →
      Step names ⟨store, allowances, ⟨.perform (.subscribe name label runs actions), depth⟩ :: rest⟩
        ⟨store.subscribe target ⟨label, runs, actions⟩,
          ⟨target, store.audience target, left, lower⟩ ::ₘ allowances, rest⟩
  | call {store : Store} {allowances : Multiset Allowance} {target : Handle}
      {index left depth idle : Nat} {given : Json} {listener : Listener} {reaction : List Action}
      {rest : List Errand} :
      (store.listenersAt target)[index]? = some listener → reaction.length ≤ left →
      Step names
        ⟨store, ⟨target, index, left, depth⟩ ::ₘ allowances,
          ⟨.call target index given, idle⟩ :: rest⟩
        ⟨store.spend target index, ⟨target, index, left - reaction.length, depth⟩ ::ₘ allowances,
          errands depth (performing reaction) ++ rest⟩

variable {names : Table Handle} {cascade later : Cascade}

/-- Whatever a listener chooses, it is one of the things that listeners can do at all. -/
theorem Cascade.Step.advances (h : Step names cascade later) :
    ∃ errand rest events due, cascade.agenda = errand :: rest ∧
      Advances names cascade.store errand.task events later.store (due.map Errand.task) ∧
      later.agenda = due ++ rest := by
  cases h with
  | @quiet store after allowances task depth events due rest advances _ =>
    refine ⟨⟨task, depth⟩, rest, events, errands 0 due, rfl, ?_, rfl⟩
    rwa [task_errands]
  | @subscribe store allowances name label runs depth left lower actions target rest bound _ =>
    exact ⟨⟨.perform (.subscribe name label runs actions), depth⟩, rest, _, [], rfl,
      .subscribe bound, rfl⟩
  | @call store allowances target index left depth idle given listener reaction rest here _ =>
    refine ⟨⟨.call target index given, idle⟩, rest,
      [.called target index ⟨listener.label, given, store.valueAt target⟩],
      errands depth (performing reaction), rfl, ?_, rfl⟩
    rw [task_errands]
    exact .call reaction here

/-- So a cascade is a run. -/
theorem Cascade.runs_of_steps (h : ReflTransGen (Step names) cascade later) :
    ∃ events, Runs names cascade.store cascade.tasks events later.store later.tasks := by
  induction h using ReflTransGen.head_induction_on with
  | refl => exact ⟨[], .stop⟩
  | head step _ ih =>
    obtain ⟨errand, rest, events, due, start, advances, next⟩ := step.advances
    obtain ⟨others, runs⟩ := ih
    refine ⟨events ++ others, ?_⟩
    rw [tasks, start]
    refine .step advances ?_
    rwa [tasks, next, List.map_append] at runs

/-- As long as something is due, the cascade goes on. -/
theorem Cascade.exists_step (names : Table Handle) (store : Store)
    (allowances : Multiset Allowance) (errand : Errand) (rest : List Errand) :
    ∃ later, Step names ⟨store, allowances, errand :: rest⟩ later := by
  obtain ⟨task, depth⟩ := errand
  match task with
  | .perform action =>
    cases bound : names.lookup action.name with
    | none => exact ⟨_, .quiet (.unbound bound) nofun⟩
    | some target =>
      match action with
      | .update name change => exact ⟨_, .quiet (.update bound) (by simp [callsFor])⟩
      | .subscribe name label runs actions => exact ⟨_, .quiet (.subscribe bound) nofun⟩
  | .call target index given =>
    cases here : (store.listenersAt target)[index]? with
    | none => exact ⟨_, .quiet (.gone here) nofun⟩
    | some listener => exact ⟨_, .quiet (.call [] here) nofun⟩

/-! ## The hydra -/

/-- The depth of what is to be performed. -/
def Errand.heads : Errand → Multiset Nat
  | ⟨.perform _, depth⟩ => {depth}
  | ⟨.call _ _ _, _⟩ => 0

/-- A depth for each operation that is due or may still be chosen. -/
def Cascade.heads (cascade : Cascade) : Multiset Nat :=
  cascade.allowances.bind (fun allowance => .replicate allowance.left allowance.depth) +
    (cascade.agenda.map Errand.heads).sum

/-- The operations that may still be chosen, and the tasks that are due. -/
def Cascade.effort (cascade : Cascade) : Nat :=
  (cascade.allowances.map Allowance.left).sum + cascade.agenda.length

theorem heads_performing (depth : Nat) (actions : List Action) :
    ((errands depth (performing actions)).map Errand.heads).sum =
      .replicate actions.length depth := by
  induction actions with
  | nil => rfl
  | cons action actions ih =>
    simp only [errands, performing, List.map_cons, List.sum_cons, Errand.heads, List.length_cons,
      Multiset.replicate_succ, Multiset.singleton_add] at ih ⊢
    rw [ih]

theorem heads_of_quiet (depth : Nat) {due : List Task} (quiet : ∀ action, .perform action ∉ due) :
    ((errands depth due).map Errand.heads).sum = 0 := by
  induction due with
  | nil => rfl
  | cons task due ih =>
    have later := ih fun action inside => quiet action (.tail task inside)
    cases task with
    | perform action => exact absurd List.mem_cons_self (quiet action)
    | call target index given => simpa [errands, Errand.heads] using later

/-- A call of which nothing to perform comes makes nothing due. -/
theorem Advances.due_of_quiet {store after : Store} {target : Handle} {index : Nat} {given : Json}
    {events : List Event} {due : List Task}
    (h : Advances names store (.call target index given) events after due)
    (quiet : ∀ action, .perform action ∉ due) : due = [] := by
  cases h with
  | call reaction _ =>
    cases reaction with
    | nil => rfl
    | cons action reaction => exact absurd List.mem_cons_self (quiet action)
  | gone _ => rfl

/-- To perform an operation cuts off a head, for which only smaller ones grow. A call moves heads
and shortens what is to be done. -/
theorem Cascade.Step.cuts (h : Step names cascade later) :
    CutExpand (· < ·) later.heads cascade.heads ∨
      later.heads = cascade.heads ∧ later.effort < cascade.effort := by
  cases h with
  | @quiet store after allowances task depth events due rest advances quiet =>
    have none := heads_of_quiet 0 quiet
    cases task with
    | perform action =>
      left
      refine ⟨0, depth, by simp, ?_⟩
      simp only [heads, List.map_append, List.sum_append, none, List.map_cons, List.sum_cons,
        Errand.heads]
      abel
    | call target index given =>
      right
      obtain rfl := advances.due_of_quiet quiet
      simp [heads, effort, errands, Errand.heads]
  | @subscribe store allowances name label runs depth left lower actions target rest _ small =>
    left
    refine ⟨.replicate left lower, depth, fun head inside => ?_, ?_⟩
    · rwa [Multiset.eq_of_mem_replicate inside]
    · simp only [heads, Multiset.cons_bind, List.map_cons, List.sum_cons, Errand.heads]
      abel
  | @call store allowances target index left depth idle given listener reaction rest _ enough =>
    right
    have moved : Multiset.replicate left depth =
        .replicate (left - reaction.length) depth + .replicate reaction.length depth := by
      rw [← Multiset.replicate_add, Nat.sub_add_cancel enough]
    constructor
    · simp only [heads, Multiset.cons_bind, List.map_append, List.sum_append, heads_performing,
        List.map_cons, List.sum_cons, Errand.heads, moved]
      abel
    · simp only [effort, Multiset.map_cons, Multiset.sum_cons, List.length_append, errands,
        performing, List.length_map, List.length_cons]
      omega

/-- No cascade goes on for ever. -/
theorem Cascade.wellFounded (names : Table Handle) :
    WellFounded fun later cascade : Cascade => Step names cascade later := by
  have lex : WellFounded (Prod.Lex (CutExpand (· < ·)) (· < ·) : Multiset Nat × Nat → _ → Prop) :=
    Nat.lt_wfRel.wf.cutExpand.prod_lex Nat.lt_wfRel.wf
  refine Subrelation.wf (fun {later cascade} step => ?_)
    (InvImage.wf (fun cascade => (cascade.heads, cascade.effort)) lex)
  obtain cut | ⟨same, less⟩ := step.cuts
  · exact .left _ _ cut
  · exact Prod.lex_iff.2 (.inr ⟨same, less⟩)

/-! ## Returning -/

/-- Whichever way things go from here, they come to a goal. -/
inductive Inevitable {α : Type} (next : α → α → Prop) (goal : α → Prop) : α → Prop
  | now {a : α} : goal a → Inevitable next goal a
  | later {a : α} : (∃ b, next a b) → (∀ b, next a b → Inevitable next goal b) →
      Inevitable next goal a

theorem Cascade.inevitable (names : Table Handle) (rest : List Errand) (cascade : Cascade) :
    ∀ due, cascade.agenda = due ++ rest →
      Inevitable (Step names) (fun later => later.agenda = rest) cascade := by
  induction cascade using (wellFounded names).induction with
  | _ cascade ih =>
    intro due split
    cases due with
    | nil => exact .now split
    | cons errand due =>
      obtain ⟨store, allowances, agenda⟩ := cascade
      obtain rfl : agenda = errand :: (due ++ rest) := split
      refine .later (exists_step names store allowances errand _) fun later step => ?_
      obtain ⟨_, _, _, more, start, -, next⟩ := step.advances
      obtain ⟨rfl, rfl⟩ := List.cons.inj start
      exact ih later step (more ++ due) (by rw [next, List.append_assoc])

/-! ## The listeners of a session -/

mutual

/-- How deep subscriptions are nested in an action. -/
def Action.depth : Action → Nat
  | .update _ _ => 0
  | .subscribe _ _ _ actions => Action.depths actions + 1

def Action.depths : List Action → Nat
  | [] => 0
  | action :: actions => max action.depth (Action.depths actions)

end

theorem Action.depth_le_depths {action : Action} {actions : List Action}
    (inside : action ∈ actions) : action.depth ≤ Action.depths actions := by
  induction actions with
  | nil => cases inside
  | cons first actions ih =>
    rw [Action.depths]
    cases inside with
    | head => exact Nat.le_max_left _ _
    | tail _ inside => exact Nat.le_trans (ih inside) (Nat.le_max_right _ _)

/-- What a listener needs that performs its actions in each of its runs. -/
def Listener.allowance (listener : Listener) (target : Handle) (index : Nat) : Allowance :=
  ⟨target, index, listener.runs * listener.actions.length, Action.depths listener.actions⟩

/-- What the listeners of a store need. -/
def Store.allowances (store : Store) : Multiset Allowance :=
  Multiset.ofList <| (List.range store.length).flatMap fun target =>
    (store.listenersAt target).mapIdx fun index listener => listener.allowance target index

/-- Every listener of a store can do what it was subscribed with. -/
def Covers (allowances : Multiset Allowance) (store : Store) : Prop :=
  ∀ (target : Handle) (index : Nat) (listener : Listener),
    (store.listenersAt target)[index]? = some listener →
      listener.allowance target index ∈ allowances

theorem Store.covers_allowances (store : Store) : Covers store.allowances store := by
  intro target index listener here
  have inside : target < store.length := by
    by_contra outside
    simp [listenersAt, outside] at here
  refine List.mem_flatMap.2 ⟨target, List.mem_range.2 inside, List.mem_mapIdx.2 ?_⟩
  obtain ⟨small, rfl⟩ := List.getElem?_eq_some_iff.1 here
  exact ⟨index, small, rfl⟩

namespace Covers
variable {allowances : Multiset Allowance} {store : Store}

theorem update (covers : Covers allowances store) (target : Handle) (change : Change) :
    Covers allowances (store.update target change) := by
  intro handle index listener here
  rw [Store.listenersAt_update] at here
  exact covers handle index listener here

theorem subscribe (covers : Covers allowances store) (target : Handle) (listener : Listener) :
    Covers (listener.allowance target (store.audience target) ::ₘ allowances)
      (store.subscribe target listener) := by
  intro handle index other here
  rw [Store.listenersAt_subscribe] at here
  split at here
  · next new =>
    obtain ⟨rfl, -⟩ := new
    rw [List.getElem?_append] at here
    split at here
    · exact Multiset.mem_cons_of_mem (covers target index other here)
    · next late =>
      obtain ⟨last, rfl⟩ : index - (store.listenersAt target).length = 0 ∧ listener = other := by
        simpa [List.getElem?_singleton] using here
      obtain rfl : index = store.audience target := by
        rw [Store.audience]
        omega
      exact Multiset.mem_cons_self _ _
  · exact Multiset.mem_cons_of_mem (covers handle index other here)

/-- A run that is spent is taken from the allowance. -/
theorem spend {target : Handle} {index : Nat} {listener : Listener}
    (here : (store.listenersAt target)[index]? = some listener)
    (covers : Covers (listener.allowance target index ::ₘ allowances) store) :
    Covers (⟨target, index, listener.runs * listener.actions.length - listener.actions.length,
      Action.depths listener.actions⟩ ::ₘ allowances) (store.spend target index) := by
  intro handle place other found
  rw [Store.listenersAt_spend] at found
  by_cases same : handle = target ∧ place = index
  · obtain ⟨rfl, rfl⟩ := same
    obtain rfl : { listener with runs := listener.runs - 1 } = other := by
      simpa [here] using found
    simp [Listener.allowance, Nat.sub_mul]
  · have old : (store.listenersAt handle)[place]? = some other := by
      split at found
      · next at_target =>
        have elsewhere : index ≠ place := fun at_index => same ⟨at_target.symm, at_index.symm⟩
        rwa [List.getElem?_modify_ne _ _ elsewhere] at found
      · exact found
    obtain head | inside := Multiset.mem_cons.1 (covers _ _ _ old)
    · -- their places tell the two allowances apart
      exact absurd ⟨congrArg Allowance.target head, congrArg Allowance.index head⟩ same
    · exact Multiset.mem_cons_of_mem inside

end Covers

/-- A listener of the depth can do the task. -/
def Errand.Suits : Errand → Prop
  | ⟨.perform action, depth⟩ => action.depth ≤ depth
  | ⟨.call _ _ _, _⟩ => True

theorem suits_performing (actions : List Action) :
    ∀ errand ∈ errands (Action.depths actions) (performing actions), errand.Suits := by
  intro errand inside
  simp only [errands, performing, List.map_map, List.mem_map, Function.comp_apply] at inside
  obtain ⟨action, inside, rfl⟩ := inside
  exact Action.depth_le_depths inside

theorem suits_callsFor (store : Store) (target : Handle) (given : Json) :
    ∀ errand ∈ errands 0 (callsFor store target given), errand.Suits := by
  intro errand inside
  simp only [errands, callsFor, List.map_map, List.mem_map, Function.comp_apply] at inside
  obtain ⟨index, -, rfl⟩ := inside
  exact trivial

/-- With what its listeners need, a store comes to another one by a cascade. -/
def Store.Reaches (names : Table Handle) (store : Store) (tasks : List Task) (final : Store) :
    Prop :=
  ∀ (allowances : Multiset Allowance) (agenda : List Errand), Covers allowances store →
    (∀ errand ∈ agenda, errand.Suits) → agenda.map Errand.task = tasks →
      ∃ left, ReflTransGen (Cascade.Step names) ⟨store, allowances, agenda⟩ ⟨final, left, []⟩

namespace Store.Reaches
variable {store final : Store} {tasks : List Task}

theorem cons {task : Task}
    (first : ∀ allowances depth agenda, Covers allowances store → Errand.Suits ⟨task, depth⟩ →
      (∀ errand ∈ agenda, errand.Suits) → agenda.map Errand.task = tasks →
        ∃ left, ReflTransGen (Cascade.Step names) ⟨store, allowances, ⟨task, depth⟩ :: agenda⟩
          ⟨final, left, []⟩) :
    store.Reaches names (task :: tasks) final := by
  intro allowances agenda covers suits same
  obtain ⟨⟨_, depth⟩, agenda, rfl, rfl, rest⟩ := List.map_eq_cons_iff.1 same
  obtain ⟨deep, suits⟩ := List.forall_mem_cons.1 suits
  exact first allowances depth agenda covers deep suits rest

/-- A task from which nothing follows. -/
theorem pass {task : Task} {events : List Event}
    (advances : Advances names store task events store [])
    (others : store.Reaches names tasks final) : store.Reaches names (task :: tasks) final := by
  refine cons fun allowances depth agenda covers _ suits rest => ?_
  obtain ⟨left, steps⟩ := others allowances agenda covers suits rest
  exact ⟨left, .head (.quiet advances nofun) steps⟩

theorem update {name : String} {change : Change} {target : Handle}
    (bound : names.lookup name = some target)
    (others : (store.update target change).Reaches names
      (callsFor store target change.value ++ tasks) final) :
    store.Reaches names (.perform (.update name change) :: tasks) final := by
  refine cons fun allowances depth agenda covers _ suits rest => ?_
  have suits := List.forall_mem_append.2 ⟨suits_callsFor store target change.value, suits⟩
  obtain ⟨left, steps⟩ :=
    others allowances _ (covers.update target change) suits (by simp [rest])
  exact ⟨left, .head (.quiet (.update bound) (by simp [callsFor])) steps⟩

theorem subscribe {name label : String} {runs : Nat} {actions : List Action} {target : Handle}
    (bound : names.lookup name = some target)
    (others : (store.subscribe target ⟨label, runs, actions⟩).Reaches names tasks final) :
    store.Reaches names (.perform (.subscribe name label runs actions) :: tasks) final := by
  refine cons fun allowances depth agenda covers deep suits rest => ?_
  obtain ⟨left, steps⟩ := others _ agenda (covers.subscribe target _) suits rest
  exact ⟨left, .head (.subscribe bound deep) steps⟩

theorem call {target : Handle} {index : Nat} {given : Json} {listener : Listener}
    (here : (store.listenersAt target)[index]? = some listener) (ready : 0 < listener.runs)
    (others : (store.spend target index).Reaches names
      (performing listener.actions ++ tasks) final) :
    store.Reaches names (.call target index given :: tasks) final := by
  refine cons fun allowances depth agenda covers _ suits rest => ?_
  obtain ⟨elsewhere, rfl⟩ := Multiset.exists_cons_of_mem (covers target index listener here)
  have suits := List.forall_mem_append.2 ⟨suits_performing listener.actions, suits⟩
  obtain ⟨left, steps⟩ := others _ _ (covers.spend here) suits (by simp [rest])
  exact ⟨left, .head (.call here (Nat.le_mul_of_pos_left _ ready)) steps⟩

/-- The run of a store is one of the cascades of its listeners. -/
theorem run (names : Table Handle) (store : Store) (tasks : List Task) :
    store.Reaches names tasks (store.run names tasks).1 := by
  fun_induction Store.run names store tasks with
  | case1 store =>
    intro allowances agenda _ _ same
    obtain rfl := List.map_eq_nil_iff.1 same
    exact ⟨allowances, .refl⟩
  | case2 store name change rest free ih => exact ih.pass (.unbound free)
  | case3 store name change rest target bound after events run ih =>
    rw [run] at ih
    exact ih.update bound
  | case4 store name label runs actions rest free ih => exact ih.pass (.unbound free)
  | case5 store name label runs actions rest target bound listener after events run ih =>
    rw [run] at ih
    exact ih.subscribe bound
  | case6 store target index given rest gone ih => exact ih.pass (.gone gone)
  | case7 store target index given rest listener here call ready after events run ih =>
    rw [run] at ih
    exact ih.call here ready
  | case8 store target index given rest listener here call done after events run ih =>
    rw [run] at ih
    exact ih.pass (.spent here (Nat.eq_zero_of_not_pos done))

end Store.Reaches

/-- Every update returns. Let each listener choose at each call what it does, as long as it
performs no more than it is allowed over its whole life, and let it subscribe listeners to which
any number of operations is allowed, as long as their depth is smaller. Then, whatever is on the
top of the agenda, all that follows from it is over after finitely many tasks, whichever way the
listeners choose, and the tasks below are due as they were. Such a cascade is a run, and so are
the runs of a session, in which a listener repeats its actions as often as it has runs. -/
theorem cascades_return (names : Table Handle) :
    (∀ (store : Store) (allowances : Multiset Allowance) (errand : Errand) (rest : List Errand),
      Inevitable (Cascade.Step names) (fun later => later.agenda = rest)
        ⟨store, allowances, errand :: rest⟩) ∧
    (∀ cascade later, ReflTransGen (Cascade.Step names) cascade later →
      ∃ events, Runs names cascade.store cascade.tasks events later.store later.tasks) ∧
    ∀ (store : Store) (actions : List Action), ∃ left,
      ReflTransGen (Cascade.Step names)
        ⟨store, store.allowances, errands (Action.depths actions) (performing actions)⟩
        ⟨(store.run names (performing actions)).1, left, []⟩ := by
  refine ⟨fun store allowances errand rest => ?_, fun _ _ => Cascade.runs_of_steps,
    fun store actions => ?_⟩
  · exact Cascade.inevitable names rest _ [errand] rfl
  · exact Store.Reaches.run names store (performing actions) _ _ store.covers_allowances
      (suits_performing actions) (task_errands _ _)

end Dashboard
