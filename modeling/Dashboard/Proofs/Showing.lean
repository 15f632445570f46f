import Dashboard.Proofs.Delivery
import Dashboard.Proofs.Identity
import Dashboard.Proofs.Printing
import Dashboard.Proofs.Residue
import Dashboard.Proofs.Template
/-!
# What a document shows later

A document that was interpreted shows the values that its names have now. Whatever is done in the
session later, it shows what it showed at first, except where it refers to a param: there it shows
the value of the last update of that param. What it shows does not depend on the style in which it
is printed.
-/
namespace Dashboard

/-! ## Passages -/

/-- What may become of a session, and what happens meanwhile. It reads, and it performs actions on
whose calls listeners do whatever they like. It may be looked at while calls are still due. -/
inductive Session.Becomes : Session → List Event → Session → Prop
  | now {session : Session} : Becomes session [] session
  | reads {session last : Session} {step : Step} {events : List Event} :
      (∀ action, step ≠ .perform action) → Becomes (session.after step) events last →
      Becomes session events last
  | acts {session last : Session} {store : Store} {agenda left : List Task}
      {events later : List Event} :
      Runs session.scope.names session.scope.store agenda events store left →
      Becomes { session with scope.store := store } later last →
      Becomes session (events ++ later) last

theorem Store.perform_of_free {names : Table Handle} {action : Action}
    (free : names.lookup action.name = none) (store : Store) :
    store.perform names action = (store, []) := by
  cases action with
  | update name change =>
    have unbound : names.lookup name = none := free
    rw [perform, run_update, unbound]
    exact run_nil names store
  | subscribe name label runs actions =>
    have unbound : names.lookup name = none := free
    rw [perform, run_subscribe, unbound]
    exact run_nil names store

theorem Runs.length {names : Table Handle} {store after : Store} {agenda left : List Task}
    {events : List Event} (h : Runs names store agenda events after left) :
    after.length = store.length := by
  induction h with
  | stop => rfl
  | step advances _ ih => rw [ih, advances.length]

namespace Session

/-- What happens in a step. A step that reads has no events by definition: reading allocates cells
and has no way to run an action. -/
def eventsIn (session : Session) : Step → List Event
  | .perform action => (session.scope.store.perform session.scope.names action).2
  | _ => []

def eventsInAll (session : Session) : List Step → List Event
  | [] => []
  | step :: steps => session.eventsIn step ++ (session.after step).eventsInAll steps

theorem after_perform (session : Session) (action : Action) :
    session.after (.perform action) =
      { session with
        scope.store := (session.scope.store.perform session.scope.names action).1 } := by
  rw [after, perform]
  cases bound : session.scope.handle? action.name with
  | none => rw [Store.perform_of_free bound]
  | some target => rfl

/-- The steps of a session are a passage. -/
theorem becomes_afterAll (session : Session) (steps : List Step) :
    session.Becomes (session.eventsInAll steps) (session.afterAll steps) := by
  induction steps generalizing session with
  | nil => exact .now
  | cons step steps ih =>
    have rest := ih (session.after step)
    cases step with
    | perform action =>
      have ran := runs_run session.scope.names session.scope.store [.perform action]
      rw [after_perform] at rest
      have whole := Becomes.acts ran rest
      rwa [← after_perform] at whole
    | _ => exact .reads (by nofun) rest

variable {session last : Session} {events : List Event}

theorem Becomes.handle (h : session.Becomes events last) {name : String} {cell : Handle}
    (bound : session.scope.handle? name = some cell) : last.scope.handle? name = some cell := by
  induction h with
  | now => exact bound
  | @reads session last step events reads _ ih =>
    obtain ⟨refs, same⟩ := session.scope_after_reading reads
    rw [same] at ih
    exact ih ((session.scope.extends_bindAll refs).handle bound)
  | acts _ _ ih => exact ih bound

theorem Becomes.sound (h : session.Becomes events last) (sound : session.scope.Sound) :
    last.scope.Sound := by
  induction h with
  | now => exact sound
  | @reads session last step events reads _ ih =>
    obtain ⟨refs, same⟩ := session.scope_after_reading reads
    rw [same] at ih
    exact ih (sound.bindAll refs)
  | acts ran _ ih =>
    apply ih
    unfold Scope.Sound at sound ⊢
    rw [ran.length]
    exact sound

/-- At every moment of a passage, a cell holds what the updates begun so far have made of it. -/
theorem Becomes.live? (h : session.Becomes events last) {cell : Handle} {live : Live}
    (found : session.scope.store.live? cell = some live) :
    last.scope.store.live? cell = some ((history cell events).foldl Live.update live) := by
  induction h generalizing live with
  | now => exact found
  | @reads session last step events reads _ ih =>
    obtain ⟨refs, same⟩ := session.scope_after_reading reads
    rw [same] at ih
    exact ih ((session.scope.extends_bindAll refs).live found)
  | acts ran _ ih =>
    have holds := ran.live? cell
    rw [found, Option.map_some] at holds
    rw [history_append, List.foldl_append]
    exact ih holds

end Session

/-! ## What changes show -/

/-- The value of the last change, `value` if there is none. -/
def latest (value : Json) (changes : List Change) : Json :=
  (changes.getLast?.map (·.value)).getD value

theorem foldl_update_param_latest (value : Json) (changes : List Change) :
    changes.foldl Live.update (.param value) = .param (latest value changes) := by
  obtain rfl | ⟨earlier, change, rfl⟩ := List.eq_nil_or_concat changes
  · rfl
  · rw [List.concat_eq_append, foldl_update_param, latest, List.getLast?_concat]
    rfl

theorem foldl_update_selection (kind : SelectionKind) (clauses : List Clause)
    (changes : List Change) :
    ∃ clauses', changes.foldl Live.update (.selection kind clauses) = .selection kind clauses' := by
  induction changes generalizing clauses with
  | nil => exact ⟨clauses, rfl⟩
  | cons change changes ih => exact ih _

/-- What a param that a store held shows after events, and nothing for a selection. -/
def Store.paramAfter? (store : Store) (events : List Event) (cell : Handle) : Option Json :=
  match store.live? cell with
  | some (.param v) => some (.object [("param", latest v (history cell events))])
  | _ => none

theorem Session.Becomes.json {session last : Session} {events : List Event}
    (h : session.Becomes events last) {cell : Handle} {live : Live}
    (found : session.scope.store.live? cell = some live) :
    last.scope.store.json cell =
      (session.scope.store.paramAfter? events cell).getD (session.scope.store.json cell) := by
  have later := h.live? found
  rw [Store.json, later, Store.paramAfter?, Store.json, found]
  cases live with
  | param v => rw [foldl_update_param_latest]; rfl
  | selection kind clauses =>
    obtain ⟨clauses', same⟩ := foldl_update_selection kind clauses (history cell events)
    rw [same]
    rfl

/-! ## Documents -/

/-- What a document shows at a later moment, compared with what it showed at first. -/
structure Document.ShowsAnew (document : Document Handle) (now later : Scope)
    (events : List Event) : Prop where
  /-- Nothing differs but what params show. -/
  elsewhere : document.json later.store = (document.json now.store).replace fun path =>
    (document.template.holeAt? path).bind (now.store.paramAfter? events)
  /-- A reference keeps its name. -/
  bound : ∀ path cell, document.template.holeAt? path = some cell →
    ∃ name live, now.Binds name cell ∧ later.Binds name cell ∧ now.store.live? cell = some live
  param : ∀ path cell v, document.template.holeAt? path = some cell →
    now.store.live? cell = some (.param v) →
    (document.json now.store).at? path = some (.object [("param", v)]) ∧
    (document.json later.store).at? path =
      some (.object [("param", latest v (history cell events))])
  selection : ∀ path cell kind clauses, document.template.holeAt? path = some cell →
    now.store.live? cell = some (.selection kind clauses) →
    (document.json now.store).at? path = some (.object [("selection", .string kind.name)]) ∧
    (document.json later.store).at? path = some (.object [("selection", .string kind.name)])
  sameName : ∀ name path path' cell cell', now.Binds name cell → now.Binds name cell' →
    document.template.holeAt? path = some cell → document.template.holeAt? path' = some cell' →
    (document.json later.store).at? path = (document.json later.store).at? path'

theorem Document.at?_json {document : Document Handle} {path : List Nat} {cell : Handle}
    (here : document.template.holeAt? path = some cell) (store : Store) :
    (document.json store).at? path = some (store.json cell) := by
  rw [document.json_eq_fill]
  exact Template.at?_fill here store.json

theorem Session.Becomes.showsAnew {session last : Session} {events : List Event}
    (passage : session.Becomes events last) (sound : session.scope.Sound)
    {document : Document Handle}
    (targets : document.template.All fun cell => ∃ name, session.scope.Binds name cell) :
    document.ShowsAnew session.scope last.scope events := by
  have held (path : List Nat) (cell : Handle) (here : document.template.holeAt? path = some cell) :
      ∃ live, session.scope.store.live? cell = some live := by
    obtain ⟨name, bound⟩ := targets path cell here
    obtain ⟨kind, found⟩ := Store.kind?_of_lt (sound.lt bound)
    obtain ⟨live, holds, -⟩ := Option.map_eq_some_iff.mp found
    exact ⟨live, holds⟩
  constructor
  case elsewhere =>
    rw [document.json_eq_fill, document.json_eq_fill, Template.replace_fill]
    refine Template.fill_congr document.template fun path cell here => ?_
    obtain ⟨live, found⟩ := held path cell here
    exact passage.json found
  case bound =>
    intro path cell here
    obtain ⟨name, bound⟩ := targets path cell here
    obtain ⟨live, found⟩ := held path cell here
    exact ⟨name, live, bound, passage.handle bound, found⟩
  case param =>
    intro path cell v here found
    rw [Document.at?_json here, Document.at?_json here, passage.json found, Store.paramAfter?,
      Store.json, found]
    exact ⟨rfl, rfl⟩
  case selection =>
    intro path cell kind clauses here found
    rw [Document.at?_json here, Document.at?_json here, passage.json found, Store.paramAfter?,
      Store.json, found]
    exact ⟨rfl, rfl⟩
  case sameName =>
    intro name path path' cell cell' bound bound' here here'
    obtain rfl := Option.some.inj (bound.symm.trans bound')
    rw [Document.at?_json here, Document.at?_json here']

/-- Whatever is done after a document was read, it shows what it showed at first, but with the
latest value of each param, and both styles of printing are read back as the same value. -/
theorem shows_latest_params (rules : Rules) (engine : Engine) {session last : Session}
    {text : String} {document : Document Handle} {earlier events : List Event}
    (start : Session.Becomes { rules, engine } earlier session)
    (parsed : (session.parse text).outcome = .ok document)
    (passage : (session.parse text).session.Becomes events last) :
    let now := (session.parse text).session
    (∀ steps, now.Becomes (now.eventsInAll steps) (now.afterAll steps)) ∧
    (∃ root, Json.read text = .ok (.object root) ∧
      document.Mirrors now.scope.Binds session.rules root) ∧
    document.ShowsAnew now.scope last.scope events ∧
    ∀ store depth,
      let shown := document.json store
      (Json.readWithin depth shown.compact).toOption = shown.reread? depth ∧
      (Json.readWithin depth shown.pretty).toOption = shown.reread? depth := by
  intro now
  have sound : session.scope.Sound := start.sound Scope.sound_empty
  have now_sound : now.scope.Sound := Session.sound_after sound (.parse text)
  obtain ⟨root, read, mirrors⟩ := session.returns_after (.parse text) document parsed
  refine ⟨now.becomes_afterAll, ⟨root, read, mirrors⟩, passage.showsAnew now_sound mirrors.targets,
    fun store depth => ⟨?_, ?_⟩⟩
  · exact Json.readWithin_render Json.Style.airy_compact depth 0 _
  · exact Json.readWithin_render Json.Style.airy_pretty depth 0 _

/-- An input that refers to a param and a selection, both of which are updated. -/
theorem shows_latest_params_of_input :
    let rules : Rules := { catalog := Standard.catalog }
    let session : Session := { rules }
    let root : Json := .object
      [("params", .object [("x", .string "one"), ("brush", .object [("select", .string "union")])]),
        ("input", .string "menu"), ("as", .string "$x"), ("filterBy", .string "$brush")]
    let document : Document Handle :=
      ⟨none, .input "menu" [("as", .reference 0), ("filterBy", .reference 1)]⟩
    let now := (session.parse root.compact).session
    let change : Change := { value := .string "two" }
    let clause : Change := ⟨"plot", some "a = 1", .bool true⟩
    Session.Becomes { rules, engine := .dry } [] session ∧
      (session.parse root.compact).outcome = .ok document ∧
      ∃ last, now.Becomes [.updated 0 change, .updated 1 clause] last ∧
        (document.json last.scope.store).at? [0, 0, 1, 0] =
          some (.object [("param", .string "two")]) ∧
        (document.json last.scope.store).at? [0, 0, 1, 1] =
          some (.object [("selection", .string "union")]) := by
  intro rules session root document now change clause
  let store : Store := [⟨.param (.string "one"), []⟩, ⟨.empty .union, []⟩]
  let names : Table Handle := [("x", 0), ("brush", 1)]
  have parse : session.parse root.compact = session.interpretDocument root :=
    parse_of_read (Json.read_compact rfl)
  have run : (Interpreting.document rules .dry root).runIn session.toContext =
      (.ok document, ⟨⟨store, names⟩, [.bound "x", .bound "brush"]⟩) := by
    rw [Interpreting.runIn_document]
    show Interpreting.runIn (readDocument rules _) session.toContext = _
    rw [readDocument, layoutOf, readNode_object]
    rfl
  have parsed : (session.parse root.compact).outcome = .ok document := by
    rw [parse, Session.outcome_interpretDocument, run]
  have context : (session.parse root.compact).session.toContext =
      ⟨⟨store, names⟩, [.bound "x", .bound "brush"]⟩ := by
    rw [parse, Session.context_interpretDocument, run]
  have x : (session.parse root.compact).session.scope.store.live? 0 =
      some (.param (.string "one")) := by
    rw [context]
    rfl
  have brush : (session.parse root.compact).session.scope.store.live? 1 =
      some (.empty .union) := by
    rw [context]
    rfl
  obtain ⟨after, ran⟩ : ∃ after, Runs now.scope.names now.scope.store
      (performing [.update "x" change, .update "brush" clause])
      [.updated 0 change, .updated 1 clause] after [] := by
    rw [context]
    exact ⟨_, .step (.update rfl) (.step (.update rfl) .stop)⟩
  let last : Session := { now with scope.store := after }
  have passage : now.Becomes [.updated 0 change, .updated 1 clause] last :=
    .acts ran .now
  have start : Session.Becomes { rules, engine := .dry } [] session := .now
  obtain ⟨-, -, shows, -⟩ := shows_latest_params rules .dry start parsed passage
  refine ⟨start, parsed, last, passage, ?_, ?_⟩
  · exact (shows.param [0, 0, 1, 0] 0 _ rfl x).2
  · exact (shows.selection [0, 0, 1, 1] 1 _ _ rfl brush).2

end Dashboard
