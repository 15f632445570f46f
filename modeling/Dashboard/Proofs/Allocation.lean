import Dashboard.Proofs.Showing
/-!
# What a step leaves alone

Reading only allocates: it binds names to new cells, and a cell that was there before keeps what it
holds and who listens to it. An update binds no name. It changes its target, and the targets of the
updates that called listeners issue; every other cell keeps what it holds, whatever listeners do.
-/
namespace Dashboard

/-! ## Allocating -/

namespace Scope

theorem Sound.cell {scope : Scope} (sound : scope.Sound) {name : String} {handle : Handle}
    (bound : scope.handle? name = some handle) : ∃ cell, scope.store[handle]? = some cell :=
  ⟨_, List.getElem?_eq_getElem (sound.lt bound)⟩

end Scope

/-- What a step does that calls nobody and changes nothing that was there. -/
structure Session.OnlyAllocates (session : Session) (step : Step) : Prop where
  /-- For a step that reads this holds by definition; that nothing changed is what `kept` says. -/
  silent : session.eventsIn step = []
  grows : session.scope.Grows (session.after step).scope
  /-- A bound name keeps its cell, and the cell all that it has. -/
  kept : ∀ name handle, session.scope.handle? name = some handle →
    (session.after step).scope.handle? name = some handle ∧
      ∃ cell, session.scope.store[handle]? = some cell ∧
        (session.after step).scope.store[handle]? = some cell

theorem Session.onlyAllocates_of_reads {session : Session} (sound : session.scope.Sound)
    {step : Step} (reads : ∀ action, step ≠ .perform action) : session.OnlyAllocates step := by
  obtain ⟨refs, same⟩ := session.scope_after_reading reads
  have grows : session.scope.Grows (session.after step).scope := by
    rw [same]
    exact session.scope.grows_bindAll refs
  refine ⟨?_, grows, fun name handle bound => ?_⟩
  · cases step with
    | perform action => exact absurd rfl (reads action)
    | _ => rfl
  · obtain ⟨cell, found⟩ := sound.cell bound
    refine ⟨?_, cell, found, grows.cell found⟩
    rw [same]
    exact (session.scope.extends_bindAll refs).handle bound

/-! ## Chains of updates -/

/-- A task that was done: what happened then, and what became due by it. -/
structure Done where
  task : Task
  events : List Event
  due : List Task

/-- A run of an agenda, perhaps not to its end, with all that was done in it. -/
inductive Does (names : Table Handle) : Store → List Task → List Done → Store → List Task → Prop
  | stop {store : Store} {agenda : List Task} : Does names store agenda [] store agenda
  | step {store middle after : Store} {task : Task} {due rest left : List Task}
      {events : List Event} {later : List Done} :
      Advances names store task events middle due →
      Does names middle (due ++ rest) later after left →
      Does names store (task :: rest) (⟨task, events, due⟩ :: later) after left

/-- What happened in a run. -/
def eventsOf (done : List Done) : List Event :=
  done.flatMap (·.events)

variable {names : Table Handle}

theorem Runs.does {store after : Store} {agenda left : List Task} {events : List Event}
    (h : Runs names store agenda events after left) :
    ∃ done, eventsOf done = events ∧ Does names store agenda done after left := by
  induction h with
  | stop => exact ⟨[], rfl, .stop⟩
  | @step store middle after task due rest left events later advances _ ih =>
    obtain ⟨done, same, does⟩ := ih
    refine ⟨⟨task, events, due⟩ :: done, ?_, .step advances does⟩
    rw [eventsOf, List.flatMap_cons, ← eventsOf, same]

theorem Does.runs {store after : Store} {agenda left : List Task} {done : List Done}
    (h : Does names store agenda done after left) :
    Runs names store agenda (eventsOf done) after left := by
  induction h with
  | stop => exact .stop
  | step advances _ ih => exact .step advances ih

/-- The target of an update, and the targets of the updates that called listeners issue, directly or
by way of the listeners that those call. -/
inductive Reached (names : Table Handle) (name : String) (done : List Done) : Handle → Prop
  | target {cell : Handle} : names.lookup name = some cell → Reached names name done cell
  | issued {caller cell : Handle} {index : Nat} {given : Json} {step : Done} {other : String}
      {change : Change} :
      Reached names name done caller → step ∈ done → step.task = .call caller index given →
      .perform (.update other change) ∈ step.due → names.lookup other = some cell →
      Reached names name done cell

/-- Whether a task updates nothing itself but some cells, and calls no listener but theirs. -/
def Task.Within (names : Table Handle) (cells : Handle → Prop) : Task → Prop
  | .perform (.update name _) => ∀ cell, names.lookup name = some cell → cells cell
  | .perform (.subscribe _ _ _ _) => True
  | .call caller _ _ => cells caller

/-- What a task makes due stays within some cells if the task does, and the updates that the
listeners of these cells issue. -/
theorem Advances.due_within {store after : Store} {task : Task} {events : List Event}
    {due : List Task} (h : Advances names store task events after due) {cells : Handle → Prop}
    (within : task.Within names cells)
    (issues : ∀ caller index given, task = .call caller index given → cells caller →
      ∀ name change cell, .perform (.update name change) ∈ due → names.lookup name = some cell →
        cells cell) :
    (∀ next ∈ due, next.Within names cells) ∧
      ∀ cell change, .updated cell change ∈ events → cells cell := by
  cases h with
  | unbound _ => exact ⟨nofun, nofun⟩
  | @update name change target bound =>
    have here : cells target := within target bound
    constructor
    · intro next inside
      obtain ⟨index, -, rfl⟩ := List.mem_map.1 inside
      exact here
    · intro cell other updated
      cases List.mem_singleton.1 updated
      exact here
  | subscribe _ =>
    refine ⟨nofun, fun cell change updated => ?_⟩
    cases List.mem_singleton.1 updated
  | @call caller index given listener reaction _ =>
    constructor
    · intro next inside
      obtain ⟨action, among, rfl⟩ := List.mem_map.1 inside
      cases action with
      | update name change =>
        exact fun cell bound => issues caller index given rfl within name change cell inside bound
      | subscribe name label runs actions => trivial
    · intro cell change updated
      cases List.mem_singleton.1 updated
  | gone _ => exact ⟨nofun, nofun⟩

/-- Updates stay within some cells if the tasks of the agenda do and all that listeners of these
cells issue. -/
theorem Does.updates_within {store after : Store} {agenda left : List Task} {done : List Done}
    (h : Does names store agenda done after left) {cells : Handle → Prop}
    (tasks : ∀ task ∈ agenda, task.Within names cells)
    (issues : ∀ step ∈ done, ∀ caller index given, step.task = .call caller index given →
      cells caller → ∀ name change cell, .perform (.update name change) ∈ step.due →
        names.lookup name = some cell → cells cell)
    {cell : Handle} {change : Change} (updated : .updated cell change ∈ eventsOf done) :
    cells cell := by
  induction h with
  | stop => cases updated
  | @step store middle after task due rest left events later advances _ ih =>
    obtain ⟨within, first⟩ := advances.due_within (tasks task List.mem_cons_self)
      (issues _ List.mem_cons_self)
    rw [eventsOf, List.flatMap_cons] at updated
    obtain now | afterwards := List.mem_append.1 updated
    · exact first cell change now
    · refine ih (fun next inside => ?_) (fun step inside => issues step ?_) afterwards
      · obtain early | late := List.mem_append.1 inside
        · exact within next early
        · exact tasks next (List.mem_cons_of_mem _ late)
      · exact List.mem_cons_of_mem _ inside

/-- In a run to the end, what is due takes place. -/
theorem Does.updated_of_due {store after : Store} {agenda : List Task} {done : List Done}
    (h : Does names store agenda done after []) {name : String} {change : Change} {cell : Handle}
    (bound : names.lookup name = some cell) :
    (.perform (.update name change) ∈ agenda → .updated cell change ∈ eventsOf done) ∧
      ∀ step ∈ done, .perform (.update name change) ∈ step.due →
        .updated cell change ∈ eventsOf done := by
  generalize ended : ([] : List Task) = left at h
  induction h with
  | stop =>
    subst ended
    exact ⟨nofun, nofun⟩
  | @step store middle after task due rest left events later advances _ ih =>
    obtain ⟨rests, issued⟩ := ih ended
    have behind (updated : .updated cell change ∈ eventsOf later) :
        .updated cell change ∈ eventsOf (⟨task, events, due⟩ :: later) :=
      List.mem_append_right events updated
    constructor
    · intro inside
      obtain rfl | inside := List.mem_cons.1 inside
      · cases advances with
        | unbound free => exact absurd (bound.symm.trans free) (by simp)
        | update here =>
          rw [Option.some.inj (bound.symm.trans here)]
          exact List.mem_append_left _ (List.mem_singleton.2 rfl)
      · exact behind (rests (List.mem_append_right due inside))
    · intro step inside next
      obtain rfl | inside := List.mem_cons.1 inside
      · exact behind (rests (List.mem_append_left rest next))
      · exact behind (issued step inside next)

/-- A cell without an update keeps what it holds, at every moment of a run. -/
theorem Runs.live?_of_not_updated {store after : Store} {agenda left : List Task}
    {events : List Event} (h : Runs names store agenda events after left) {cell : Handle}
    (untouched : ∀ change, .updated cell change ∉ events) :
    after.live? cell = store.live? cell := by
  have quiet : history cell events = [] := by
    refine List.filterMap_eq_nil_iff.2 fun event inside => ?_
    cases event with
    | updated handle change =>
      refine if_neg fun same => ?_
      subst same
      exact untouched change inside
    | subscribed handle listener => rfl
    | called handle index notice => rfl
  rw [h.live? cell, quiet]
  simp

/-- What an update changes is its target and what called listeners issue. -/
theorem Does.updated_iff_reached {store after : Store} {done : List Done} {name : String}
    {change : Change} (h : Does names store [.perform (.update name change)] done after [])
    (cell : Handle) :
    (∃ change, .updated cell change ∈ eventsOf done) ↔ Reached names name done cell := by
  constructor
  · rintro ⟨other, updated⟩
    refine h.updates_within ?_ ?_ updated
    · intro task inside
      cases List.mem_singleton.1 inside
      exact fun cell bound => .target bound
    · intro step inside caller index given same reached other change cell due bound
      exact .issued reached inside same due bound
  · intro reached
    cases reached with
    | target bound => exact ⟨change, (h.updated_of_due bound).1 List.mem_cons_self⟩
    | issued _ inside _ due bound => exact ⟨_, (h.updated_of_due bound).2 _ inside due⟩

/-- Reading calls no listener and leaves every bound cell as it is: its value, its clauses and its
listeners. An update binds no name, and whatever listeners do, the cells that are updated are its
target and the targets of the updates that called listeners issue; every other bound cell keeps its
value and its clauses. -/
theorem steps_leave_others_alone (rules : Rules) (engine : Engine) {session : Session}
    {earlier : List Event} (start : Session.Becomes { rules, engine } earlier session) :
    (∀ step, (∀ action, step ≠ .perform action) → session.OnlyAllocates step) ∧
    ∀ name change,
      let names := session.scope.names
      let store := session.scope.store
      let agenda : List Task := [.perform (.update name change)]
      (∃ done after, Does names store agenda done after [] ∧
        session.eventsIn (.perform (.update name change)) = eventsOf done ∧
        session.after (.perform (.update name change)) = { session with scope.store := after }) ∧
      ∀ done after, Does names store agenda done after [] →
        (∀ cell, (∃ change, .updated cell change ∈ eventsOf done) ↔
          Reached names name done cell) ∧
        ∀ other cell, names.lookup other = some cell → ¬ Reached names name done cell →
          ∃ live, store.live? cell = some live ∧ after.live? cell = some live := by
  have sound : session.scope.Sound := start.sound Scope.sound_empty
  refine ⟨fun step reads => Session.onlyAllocates_of_reads sound reads, fun name change => ?_⟩
  intro names store agenda
  constructor
  · obtain ⟨done, same, does⟩ := (runs_run names store agenda).does
    exact ⟨done, _, does, same.symm, session.after_perform _⟩
  · intro done after does
    refine ⟨does.updated_iff_reached, fun other cell bound beyond => ?_⟩
    obtain ⟨found, held⟩ := sound.cell bound
    have live : store.live? cell = some found.live := congrArg (Option.map Cell.live) held
    have untouched (change : Change) : .updated cell change ∉ eventsOf done :=
      fun updated => beyond ((does.updated_iff_reached cell).1 ⟨change, updated⟩)
    exact ⟨found.live, live, (does.runs.live?_of_not_updated untouched).trans live⟩

/-- A listener of the first param updates the second one, so the third one is left alone. A document
that says otherwise about the first one changes nothing. -/
theorem steps_leave_others_alone_of_chain :
    let rules : Rules := { catalog := Standard.catalog }
    let two : Change := { value := .number (.integer 2) }
    let a : Listener := ⟨"a", 1, [.update "q" two]⟩
    let steps : List Step :=
      [.resolve (.string "$p") freshParam, .resolve (.string "$q") freshParam,
        .resolve (.string "$r") freshParam, .perform (.subscribe "p" a.label a.runs a.actions)]
    let session := Session.afterAll { rules } steps
    let root := Json.object [("params", .object [("p", .object [("select", .string "union")])])]
    Session.Becomes { rules } (Session.eventsInAll { rules } steps) session ∧
    (session.after (.parse root.compact)).scope.store[0]? = some ⟨.param .null, [a]⟩ ∧
    (session.after (.perform (.update "p" two))).scope.store.live? 1 = some (.param two.value) ∧
    (session.after (.perform (.update "p" two))).scope.store.live? 2 = some (.param .null) := by
  intro rules two a steps session root
  let names : Table Handle := [("p", 0), ("q", 1), ("r", 2)]
  let store : Store := [⟨.param .null, [a]⟩, ⟨.param .null, []⟩, ⟨.param .null, []⟩]
  have p : names.lookup "p" = some 0 := rfl
  have q : names.lookup "q" = some 1 := rfl
  have scope : session.scope = { store, names } := by
    have fresh : (Session.afterAll { rules } [.resolve (.string "$p") freshParam,
        .resolve (.string "$q") freshParam, .resolve (.string "$r") freshParam]).scope =
          { store := [⟨.param .null, []⟩, ⟨.param .null, []⟩, ⟨.param .null, []⟩], names } := rfl
    simp only [Session.afterAll, List.foldl_cons, List.foldl_nil] at fresh
    simp only [session, steps, Session.afterAll, List.foldl_cons, List.foldl_nil]
    rw [Session.after_perform, fresh, Store.perform, Store.run_subscribe, p]
    simp only [Store.run_nil]
    rfl
  let events : List Event := [.updated 0 two, .called 0 0 ⟨"a", two.value, two.value⟩,
    .updated 1 two]
  have own : store.run names [.perform (.update "p" two)] =
      ([⟨.param two.value, [{ a with runs := 0 }]⟩, ⟨.param two.value, []⟩, ⟨.param .null, []⟩],
        events) := by
    simp [performing, Store.run_nil, Store.run_update, Store.run_call, p, q, callsFor, store,
      Store.listenersAt, Store.update, Store.spend, a, List.range_succ, Store.valueAt, Store.live?,
      Live.update, Live.value, events]
  have start : Session.Becomes { rules } (Session.eventsInAll { rules } steps) session :=
    Session.becomes_afterAll _ steps
  obtain ⟨reads, updates⟩ := steps_leave_others_alone rules .dry start
  obtain ⟨⟨done, after, does, happened, made⟩, whatever⟩ := updates "p" two
  obtain ⟨reached, alone⟩ := whatever done after does
  have whole : session.scope.store.perform session.scope.names (.update "p" two) =
      store.run names [.perform (.update "p" two)] := by rw [scope]; rfl
  rw [Session.eventsIn, whole, own] at happened
  have beyond : ¬ Reached session.scope.names "p" done 2 := by
    intro far
    obtain ⟨change, updated⟩ := (reached 2).2 far
    rw [← happened] at updated
    simp [events] at updated
  obtain ⟨live, held, still⟩ := alone "r" 2 (by rw [scope]; rfl) beyond
  rw [scope] at held
  cases held
  refine ⟨start, ?_, ?_, ?_⟩
  · obtain ⟨-, cell, before, now⟩ := (reads (.parse root.compact) (by simp)).kept "p" 0
      (by rw [scope]; rfl)
    rw [now, ← before, scope]
    rfl
  · rw [Session.after_perform, whole, own]
    rfl
  · rw [made]
    exact still

end Dashboard
