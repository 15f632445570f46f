import Dashboard.Proofs.Following
import Dashboard.Proofs.Loading
import Dashboard.Session
import Mathlib.Data.List.Nodup
/-!
# One name, one cell

Throughout a session a name keeps its cell, a cell keeps the kind of its live value, and no cell
has two names. So a tree that mirrored its document when it was returned does so forever.
-/
namespace Dashboard

/-! ## Cells -/

theorem Live.kindName_update (live : Live) (change : Change) :
    (live.update change).kindName = live.kindName := by
  cases live <;> rfl

namespace Store

def kind? (store : Store) (handle : Handle) : Option String :=
  (store.live? handle).map Live.kindName

theorem kind?_of_lt {store : Store} {handle : Handle} (inside : handle < store.length) :
    ∃ kind, store.kind? handle = some kind := by
  refine ⟨store[handle].live.kindName, ?_⟩
  rw [kind?, live?, List.getElem?_eq_getElem inside]
  rfl

/-- No cell comes or goes or changes its kind. -/
structure SameCells (before after : Store) : Prop where
  length : after.length = before.length
  kind : ∀ handle, after.kind? handle = before.kind? handle

theorem SameCells.refl (store : Store) : store.SameCells store := ⟨rfl, fun _ => rfl⟩

theorem SameCells.trans {a b c : Store} (h : a.SameCells b) (k : b.SameCells c) : a.SameCells c :=
  ⟨k.length.trans h.length, fun handle => (k.kind handle).trans (h.kind handle)⟩

theorem sameCells_update (store : Store) (handle : Handle) (change : Change) :
    store.SameCells (store.update handle change) := by
  refine ⟨length_update store handle change, fun i => ?_⟩
  rw [kind?, live?_update]
  split
  · rw [Option.map_map]
    exact congrArg (Option.map · _) (funext fun live => live.kindName_update change)
  · rfl

theorem sameCells_subscribe (store : Store) (handle : Handle) (listener : Listener) :
    store.SameCells (store.subscribe handle listener) :=
  ⟨length_subscribe store handle listener, fun i => by rw [kind?, live?_subscribe]; rfl⟩

theorem sameCells_spend (store : Store) (handle : Handle) (index : Nat) :
    store.SameCells (store.spend handle index) :=
  ⟨length_spend store handle index, fun i => by rw [kind?, live?_spend]; rfl⟩

/-- What every change of a cell respects, a whole run respects. -/
theorem run_respects {r : Store → Store → Prop} (refl : ∀ a, r a a)
    (trans : ∀ {a b c}, r a b → r b c → r a c)
    (update : ∀ store handle change, r store (store.update handle change))
    (subscribe : ∀ store handle listener, r store (store.subscribe handle listener))
    (spend : ∀ store handle index, r store (store.spend handle index))
    (names : Table Handle) (store : Store) (agenda : List Task) :
    r store (store.run names agenda).1 := by
  fun_induction run names store agenda with
  | case1 store => exact refl store
  | case2 store name change rest free ih => exact ih
  | case3 store name change rest target bound after events run ih =>
    rw [run] at ih
    exact trans (update store target change) ih
  | case4 store name label runs actions rest free ih => exact ih
  | case5 store name label runs actions rest target bound listener after events run ih =>
    rw [run] at ih
    exact trans (subscribe store target listener) ih
  | case6 store target index given rest gone ih => exact ih
  | case7 store target index given rest listener here call ready after events run ih =>
    rw [run] at ih
    exact trans (spend store target index) ih
  | case8 store target index given rest listener here call done after events run ih =>
    rw [run] at ih
    exact ih

theorem sameCells_run (names : Table Handle) (store : Store) (agenda : List Task) :
    store.SameCells (store.run names agenda).1 :=
  run_respects .refl .trans sameCells_update sameCells_subscribe sameCells_spend names store agenda

end Store

/-! ## Scopes -/

namespace Scope

/-- The cells of a store are named one by one. -/
def Sound (scope : Scope) : Prop :=
  scope.names.map (·.2) = List.range scope.store.length

theorem sound_empty : Sound {} := rfl

theorem Sound.bind {scope : Scope} (sound : scope.Sound) (ref : Reference) :
    (scope.bind ref).Sound := by
  cases bound : scope.handle? ref.name with
  | some handle => rwa [bind_of_bound bound]
  | none =>
    rw [bind_of_free bound]
    unfold Sound at sound ⊢
    rw [List.map_append, sound, Store.alloc, List.length_append, List.length_singleton,
      List.range_succ]
    rfl

theorem Sound.bindAll {scope : Scope} (sound : scope.Sound) (refs : List Reference) :
    (scope.bindAll refs).Sound := by
  induction refs generalizing scope with
  | nil => exact sound
  | cons ref refs ih => exact ih (sound.bind ref)

theorem mem_names_of_handle? {scope : Scope} {name : String} {handle : Handle}
    (bound : scope.handle? name = some handle) : (name, handle) ∈ scope.names := by
  obtain ⟨before, after, split, -⟩ := List.lookup_eq_some_iff.1 bound
  rw [split]
  exact List.mem_append_right _ List.mem_cons_self

theorem Sound.lt {scope : Scope} (sound : scope.Sound) {name : String} {handle : Handle}
    (bound : scope.handle? name = some handle) : handle < scope.store.length := by
  have inside : handle ∈ scope.names.map (·.2) :=
    List.mem_map_of_mem (mem_names_of_handle? bound)
  rw [sound] at inside
  exact List.mem_range.1 inside

theorem Sound.injective {scope : Scope} (sound : scope.Sound) {a b : String} {handle : Handle}
    (ha : scope.handle? a = some handle) (hb : scope.handle? b = some handle) : a = b := by
  -- handles are counted up, so none of them is in the table twice
  have distinct : (scope.names.map (·.2)).Nodup := by
    rw [sound]
    exact List.nodup_range
  have same := List.inj_on_of_nodup_map distinct (mem_names_of_handle? ha)
    (mem_names_of_handle? hb) rfl
  exact congrArg Prod.fst same

/-- What stays from one scope to a later one: the cells of names and the kinds of cells. -/
structure Continues (before after : Scope) : Prop where
  handle : ∀ {name handle}, before.handle? name = some handle → after.handle? name = some handle
  kind : ∀ {handle kind}, before.store.kind? handle = some kind →
    after.store.kind? handle = some kind

theorem Continues.refl (scope : Scope) : scope.Continues scope := ⟨id, id⟩

theorem Continues.trans {a b c : Scope} (h : a.Continues b) (k : b.Continues c) :
    a.Continues c :=
  ⟨fun bound => k.handle (h.handle bound), fun found => k.kind (h.kind found)⟩

theorem Extends.continues {before after : Scope} (h : before.Extends after) :
    before.Continues after := by
  refine ⟨h.handle, fun found => ?_⟩
  obtain ⟨live, here, same⟩ := Option.map_eq_some_iff.1 found
  exact Option.map_eq_some_iff.2 ⟨live, h.live here, same⟩

end Scope

/-! ## Steps of a session -/

theorem follows_plot (catalog : Catalog) (fields : Fields) {context : Context} :
    Follows context (fun scope tree => ∃ entries, tree = .plot entries ∧
        PlotEntry.MirrorPlot scope.Binds catalog fields (plotItems fields) entries)
      (Directive.plot <$> readPlot catalog fields (plotItems fields))
      (Directive.plot <$> readPlot catalog fields (plotItems fields)) :=
  follows_map (follows_readPlot catalog fields _) fun _ entries mirrors => ⟨entries, rfl, mirrors⟩

theorem Interpreting.scope_loadData (formats : Table Format) (engine : Engine) (data : Json)
    (context : Context) : ((loadData formats engine data).runIn context).2.scope =
      context.scope := by
  rw [runIn_loadData]
  cases Source.materializations formats data with
  | error e => rfl
  | ok work => exact Context.scope_submitAll _ _

theorem Interpreting.scope_document (rules : Rules) (engine : Engine) (root : Json)
    (context : Context) :
    ∃ refs, ((document rules engine root).runIn context).2.scope = context.scope.bindAll refs := by
  cases root with
  | object fields =>
    rw [runIn_document]
    cases Source.materializations rules.catalog.formats (Fields.valueAt fields "data") with
    | error e => exact ⟨[], rfl⟩
    | ok work =>
      have bound : (runIn (readDocument rules fields)
          (context.submitAll (work.map (·.statement)))).2.scope = _ :=
        (follows_readDocument rules fields).scope
      rw [Context.scope_submitAll] at bound
      exact ⟨_, bound⟩
  | _ => exact ⟨[], rfl⟩

theorem Interpreting.mirrors_document {rules : Rules} {engine : Engine} {root : Json}
    {context : Context} {tree : Document Handle}
    (answer : ((document rules engine root).runIn context).1 = .ok tree) :
    ∃ fields, root = .object fields ∧
      tree.Mirrors ((document rules engine root).runIn context).2.scope.Binds rules fields := by
  cases root with
  | object fields =>
    refine ⟨fields, rfl, ?_⟩
    rw [runIn_document] at answer ⊢
    cases sound : Source.materializations rules.catalog.formats (Fields.valueAt fields "data") with
    | error e =>
      rw [sound] at answer
      cases answer
    | ok work =>
      rw [sound] at answer
      exact (follows_readDocument rules fields).holds answer
  | _ => cases answer

theorem mirrors_of_accepted {session : Session} {root : Fields} {document : Document Handle}
    (accepted : (session.interpretDocument (.object root)).outcome = .ok document) :
    document.Mirrors (session.interpretDocument (.object root)).session.scope.Binds session.rules
      root := by
  rw [Session.outcome_interpretDocument] at accepted
  obtain ⟨fields, same, mirrors⟩ := Interpreting.mirrors_document accepted
  obtain rfl := Json.object.inj same
  exact mirrors

namespace Session

/-- A step that performs no action only binds names. -/
theorem scope_after_reading (session : Session) {step : Step}
    (reads : ∀ action, step ≠ .perform action) :
    ∃ refs, (session.after step).scope = session.scope.bindAll refs := by
  cases step with
  | parse text =>
    rw [after, parse]
    cases Json.read text with
    | error e => exact ⟨[], rfl⟩
    | ok root => exact Interpreting.scope_document session.rules session.engine root _
  | interpret node => exact ⟨_, (follows_readNode session.rules node _).scope⟩
  | interpretPlot fields => exact ⟨_, (follows_plot _ fields).scope⟩
  | loadData data => exact ⟨[], Interpreting.scope_loadData _ _ data _⟩
  | resolve value initial => exact ⟨_, (follows_readValue initial value).scope⟩
  | perform action => exact absurd rfl (reads action)

/-- What a step makes of the scope: it binds names, or it changes what cells hold. -/
theorem scope_after (session : Session) (step : Step) :
    (∃ refs, (session.after step).scope = session.scope.bindAll refs) ∨
      ∃ store, session.scope.store.SameCells store ∧
        (session.after step).scope = { session.scope with store } := by
  cases step with
  | perform action =>
    rw [after, perform]
    cases session.scope.handle? action.name with
    | none => exact .inl ⟨[], rfl⟩
    | some target => exact .inr ⟨_, Store.sameCells_run _ _ _, rfl⟩
  | _ => exact .inl (session.scope_after_reading nofun)

theorem sound_after {session : Session} (sound : session.scope.Sound) (step : Step) :
    (session.after step).scope.Sound := by
  obtain ⟨refs, same⟩ | ⟨store, cells, same⟩ := session.scope_after step
  · rw [same]
    exact sound.bindAll refs
  · rw [same]
    unfold Scope.Sound at sound ⊢
    rw [cells.length, sound]

theorem continues_after (session : Session) (step : Step) :
    session.scope.Continues (session.after step).scope := by
  obtain ⟨refs, same⟩ | ⟨store, cells, same⟩ := session.scope_after step
  · rw [same]
    exact (session.scope.extends_bindAll refs).continues
  · rw [same]
    exact ⟨id, fun found => (cells.kind _).trans found⟩

theorem sound_afterAll {session : Session} (sound : session.scope.Sound) (steps : List Step) :
    (session.afterAll steps).scope.Sound := by
  induction steps generalizing session with
  | nil => exact sound
  | cons step steps ih => exact ih (sound_after sound step)

theorem continues_afterAll (session : Session) (steps : List Step) :
    session.scope.Continues (session.afterAll steps).scope := by
  induction steps generalizing session with
  | nil => exact .refl session.scope
  | cons step steps ih => exact (session.continues_after step).trans (ih (session.after step))

/-! ## Returned trees -/

/-- What a step returns mirrors, in a scope, what it was given. -/
def Returns (session : Session) (step : Step) (scope : Scope) : Prop :=
  match step with
  | .parse text => ∀ document, (session.parse text).outcome = .ok document →
      ∃ root, Json.read text = .ok (.object root) ∧
        document.Mirrors scope.Binds session.rules root
  | .interpret node => ∀ tree, (session.interpret node).outcome = .ok tree →
      tree.Mirrors scope.Binds session.rules node
  | .interpretPlot fields => ∀ tree, (session.interpretPlot fields).outcome = .ok tree →
      ∃ entries, tree = .plot entries ∧
        PlotEntry.MirrorPlot scope.Binds session.rules.catalog fields (plotItems fields) entries
  | .resolve value initial => ∀ resolved, (session.resolve value initial).outcome = .ok resolved →
      resolved.Mirrors scope.Binds value
  | .loadData _ => True
  | .perform _ => True

theorem Returns.mono {session : Session} {step : Step} {before after : Scope}
    (later : before.Continues after) (h : session.Returns step before) :
    session.Returns step after := by
  cases step with
  | parse text =>
    intro document answer
    obtain ⟨root, read, mirrors⟩ := h document answer
    exact ⟨root, read, mirrors.mono fun _ _ => later.handle⟩
  | interpret node => exact fun tree answer => (h tree answer).mono fun _ _ => later.handle
  | interpretPlot fields =>
    intro tree answer
    obtain ⟨entries, same, mirrors⟩ := h tree answer
    exact ⟨entries, same, mirrors.mono fun _ _ => later.handle⟩
  | resolve value initial => exact fun value answer => (h value answer).mono fun _ _ => later.handle
  | loadData data => trivial
  | perform action => trivial

theorem returns_after (session : Session) (step : Step) :
    session.Returns step (session.after step).scope := by
  cases step with
  | parse text =>
    intro document answer
    rw [after]
    unfold parse at answer ⊢
    cases read : Json.read text with
    | error e =>
      rw [read] at answer
      cases answer
    | ok root =>
      rw [read] at answer
      obtain ⟨fields, rfl, mirrors⟩ := Interpreting.mirrors_document answer
      exact ⟨fields, rfl, mirrors⟩
  | interpret node => exact fun _ => (follows_readNode session.rules node _).holds
  | interpretPlot fields => exact fun _ => (follows_plot _ fields).holds
  | resolve value initial => exact fun _ => (follows_readValue initial value).holds
  | loadData data => trivial
  | perform action => trivial

end Session

/-- One name, one cell: what was bound before a step stays bound, to the same cell of the same
kind; names do not share cells; and what the step returned has at every position the cell of the
name that is referred to there, at once and after all later steps. -/
theorem one_name_one_cell (rules : Rules) (engine : Engine) (earlier : List Step) (step : Step)
    (later : List Step) :
    let before := Session.afterAll { rules, engine } earlier
    let now := before.after step
    let last := now.afterAll later
    (∀ name handle, before.scope.handle? name = some handle →
      last.scope.handle? name = some handle ∧
      ∃ kind, before.scope.store.kind? handle = some kind ∧
        last.scope.store.kind? handle = some kind) ∧
    (∀ a b handle, last.scope.handle? a = some handle → last.scope.handle? b = some handle →
      a = b) ∧
    before.Returns step now.scope ∧ before.Returns step last.scope := by
  intro before now last
  have sound : before.scope.Sound := Session.sound_afterAll Scope.sound_empty earlier
  have kept : now.scope.Continues last.scope := now.continues_afterAll later
  have stays : before.scope.Continues last.scope := (before.continues_after step).trans kept
  have returned : before.Returns step now.scope := before.returns_after step
  refine ⟨fun name handle bound => ⟨stays.handle bound, ?_⟩, fun a b handle => ?_, returned,
    returned.mono kept⟩
  · obtain ⟨kind, found⟩ := Store.kind?_of_lt (sound.lt bound)
    exact ⟨kind, found, stays.kind found⟩
  · exact (Session.sound_afterAll (Session.sound_after sound step) later).injective

end Dashboard
