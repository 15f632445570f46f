import Dashboard.Proofs.Ambiguity
/-!
# Strict and lenient reading

Strict reading does what lenient reading does, up to the first ambiguous node that lenient reading
comes to. It refuses that node, and what was done before stays done.
-/
namespace Dashboard

/-! ## Two runs side by side -/

variable {α β : Type} {catalog : Catalog} {context : Context}

/-- All that a work does is to bind names. -/
def OnlyBinds (work : Interpreting α) : Prop :=
  ∀ context, ∃ refs, (work.runIn context).2 = context.bindAll refs

theorem onlyBinds_of_follows {p : Scope → β → Prop} {x : Reading α} {y : Interpreting β}
    (h : ∀ context, Follows context p x y) : OnlyBinds y :=
  fun context => ⟨x.references, (h context).after⟩

theorem onlyBinds_map {work : Interpreting α} (h : OnlyBinds work) (f : α → β) :
    OnlyBinds (f <$> work) := by
  intro context
  obtain ⟨refs, same⟩ := h context
  refine ⟨refs, ?_⟩
  rw [map_eq_pure_bind, Interpreting.runIn_bind]
  rcases run : work.runIn context with ⟨_ | a, after⟩
  · rw [run] at same
    exact same
  · rw [run] at same
    exact same

/-- Of two works, the strict one does what the lenient one does, or it stops at the first ambiguous
node of those that the lenient one comes to. -/
def StopsAtAmbiguity (catalog : Catalog) (met : List Json) (context : Context)
    (lenient strict : Interpreting α) : Prop :=
  match met.find? catalog.isAmbiguous with
  | none => strict.runIn context = lenient.runIn context
  | some node => ∃ stopped refs,
      strict.runIn context = (.error (catalog.ambiguity node), stopped) ∧
      (lenient.runIn context).2 = stopped.bindAll refs

theorem stops_same (work : Interpreting α) : StopsAtAmbiguity catalog [] context work work := rfl

theorem stops_cons {node : Json} {met : List Json} {x y : Interpreting α}
    (single : ¬ catalog.isAmbiguous node = true) (h : StopsAtAmbiguity catalog met context x y) :
    StopsAtAmbiguity catalog (node :: met) context x y := by
  unfold StopsAtAmbiguity
  rw [List.find?_cons_of_neg single]
  exact h

theorem stops_bind {x y : Interpreting α} {f g : α → Interpreting β} {met more : List Json}
    (first : StopsAtAmbiguity catalog met context x y)
    (next : ∀ a after, x.runIn context = (.ok a, after) →
      StopsAtAmbiguity catalog more after (f a) (g a))
    (ended : ∀ e after, x.runIn context = (.error e, after) → more = [])
    (binds : ∀ a, OnlyBinds (f a)) :
    StopsAtAmbiguity catalog (met ++ more) context (x >>= f) (y >>= g) := by
  unfold StopsAtAmbiguity at *
  rw [List.find?_append]
  cases found : met.find? catalog.isAmbiguous with
  | none =>
    rw [found] at first
    dsimp only at first
    rw [Option.none_or, Interpreting.runIn_bind, Interpreting.runIn_bind, first]
    rcases run : x.runIn context with ⟨e | a, after⟩
    · rw [ended e after run]
      rfl
    · exact next a after run
  | some node =>
    rw [found] at first
    obtain ⟨stopped, refs, stops, behind⟩ := first
    rw [Option.some_or]
    -- the strict work has stopped, and the rest of the lenient one can only bind more names
    refine ⟨stopped, ?_⟩
    rw [Interpreting.runIn_bind, Interpreting.runIn_bind, stops]
    rcases run : x.runIn context with ⟨e | a, after⟩
    · rw [run] at behind
      exact ⟨refs, rfl, behind⟩
    · rw [run] at behind
      obtain ⟨more, same⟩ := binds a after
      refine ⟨refs ++ more, rfl, ?_⟩
      rw [Context.bindAll_append, ← behind]
      exact same

theorem stops_map {x y : Interpreting α} {met : List Json}
    (h : StopsAtAmbiguity catalog met context x y) (f : α → β) :
    StopsAtAmbiguity catalog met context (f <$> x) (f <$> y) := by
  rw [map_eq_pure_bind, map_eq_pure_bind, ← List.append_nil met]
  refine stops_bind h (fun a after _ => stops_same _) (fun _ _ _ => rfl) fun a context => ?_
  exact ⟨[], rfl⟩

theorem onlyBinds_readNodes (rules : Rules) (nodes : List Json) :
    OnlyBinds (readNodes rules nodes : Interpreting (List (Directive Handle))) := by
  intro context
  have stable (node : Json) : Stable fun scope => Directive.Mirrors scope.Binds rules node :=
    fun extended _ => .mono extended.binds
  have follows : Follows context
      (fun scope => List.Forall₂ (Directive.Mirrors scope.Binds rules) nodes)
      (nodes.mapM (readNode rules)) (nodes.mapM (readNode rules)) :=
    follows_mapM stable fun node _ => follows_readNode rules node
  rw [readNodes_eq]
  exact ⟨_, follows.after⟩

theorem stops_readNodes {nodes : List Json}
    (each : ∀ node ∈ nodes, ∀ context,
      StopsAtAmbiguity catalog (nodesMet catalog.lenient node) context
        (readNode catalog.lenient node) (readNode catalog.strict node)) (context : Context) :
    StopsAtAmbiguity catalog (nodesMetIn catalog.lenient nodes) context
      (readNodes catalog.lenient nodes) (readNodes catalog.strict nodes) := by
  induction nodes generalizing context with
  | nil =>
    rw [nodesMetIn, readNodes, readNodes]
    exact stops_same _
  | cons node nodes ih =>
    have others := ih fun node inside => each node (List.mem_cons_of_mem _ inside)
    -- the nodes that are met depend on the reading, which ends as the interpretation does
    have same := (follows_readNode catalog.lenient node context).outcome
    rw [nodesMetIn, readNodes, readNodes]
    refine stops_bind (each node List.mem_cons_self context) (fun first after run => ?_)
      (fun e after run => ?_) fun first => onlyBinds_map (onlyBinds_readNodes _ _) _
    · rw [run] at same
      obtain ⟨read, done⟩ := same.ok_iff.2 ⟨first, rfl⟩
      rw [done]
      exact stops_map (others after) _
    · rw [run] at same
      rw [(same.error_iff e).2 rfl]

/-- Strict reading of a node goes along with lenient reading up to an ambiguous node. -/
theorem stops_readNode (catalog : Catalog) (node : Json) :
    ∀ context, StopsAtAmbiguity catalog (nodesMet catalog.lenient node) context
      (readNode catalog.lenient node) (readNode catalog.strict node) := by
  induction node using Rules.induction catalog.lenient with
  | other node other =>
    intro context
    have single : ¬ catalog.isAmbiguous node = true := by
      cases node with
      | object fields => exact absurd rfl (other fields)
      | _ => exact nofun
    rw [nodesMet_other _ other, readNode_other _ other, readNode_other _ other]
    exact stops_cons single (stops_same _)
  | object fields ih =>
    intro context
    by_cases several : catalog.isAmbiguous (.object fields) = true
    · have behind := (follows_readNode catalog.lenient (.object fields) context).after
      unfold StopsAtAmbiguity
      rw [nodesMet_object, List.find?_cons_of_pos several]
      refine ⟨context, _, ?_, behind⟩
      rw [readNode_object, Catalog.content_strict_of_ambiguous several]
      rfl
    · rw [nodesMet_object]
      refine stops_cons several ?_
      rw [readNode_object, readNode_object, Catalog.content_strict several]
      cases found : catalog.lenient.content fields with
      | error e => exact stops_same _
      | ok content =>
        have inside := stops_readNodes (ih content found)
        cases content with
        | hconcat nodes => exact stops_map (inside context) _
        | vconcat nodes => exact stops_map (inside context) _
        | _ =>
          show StopsAtAmbiguity catalog (nodesMetIn catalog.lenient []) context _ _
          rw [nodesMetIn]
          exact stops_same _

theorem stops_readDocument (catalog : Catalog) (root : Fields) (context : Context) :
    StopsAtAmbiguity catalog (catalog.layoutMet root) context (readDocument catalog.lenient root)
      (readDocument catalog.strict root) := by
  let params : Reading Unit := readParams catalog (root.valueAt "params")
  let work : Interpreting Unit := readParams catalog (root.valueAt "params")
  have same : SameOutcome _ params.outcome (work.runIn context).1 :=
    (follows_readParams catalog (root.valueAt "params")).outcome
  have next (after : Context) (done : work.runIn context = (.ok (), after)) :
      StopsAtAmbiguity catalog (catalog.layoutMet root) after
        (readNode catalog.lenient (layoutOf root)) (readNode catalog.strict (layoutOf root)) := by
    rw [done] at same
    obtain ⟨read, done⟩ := same.ok_iff.2 ⟨(), rfl⟩
    have met : catalog.layoutMet root = nodesMet catalog.lenient (layoutOf root) := by
      unfold Catalog.layoutMet
      rw [done]
    rw [met]
    exact stops_readNode catalog (layoutOf root) after
  have ended (e : DocumentError) (after : Context)
      (failed : work.runIn context = (.error e, after)) : catalog.layoutMet root = [] := by
    rw [failed] at same
    unfold Catalog.layoutMet
    rw [(same.error_iff e).2 rfl]
  have binds := fun context => follows_readNode catalog.lenient (layoutOf root) context
  exact stops_bind (stops_same work) (fun _ after run => stops_map (next after run) _) ended
    fun _ => onlyBinds_map (onlyBinds_of_follows binds) _

theorem stops_of_runs {context context' : Context} {met : List Json} {x y x' y' : Interpreting α}
    (hx : x.runIn context = x'.runIn context') (hy : y.runIn context = y'.runIn context')
    (h : StopsAtAmbiguity catalog met context' x' y') :
    StopsAtAmbiguity catalog met context x y := by
  unfold StopsAtAmbiguity
  rw [hx, hy]
  exact h

theorem stops_document (catalog : Catalog) (engine : Engine) (root : Json) (context : Context) :
    StopsAtAmbiguity catalog (catalog.nodesMet root) context
      (Interpreting.document catalog.lenient engine root)
      (Interpreting.document catalog.strict engine root) := by
  cases root with
  | object fields =>
    have lenient := Interpreting.runIn_document catalog.lenient engine fields context
    have strict := Interpreting.runIn_document catalog.strict engine fields context
    have formats : catalog.lenient.catalog.formats = catalog.formats := rfl
    have formats' : catalog.strict.catalog.formats = catalog.formats := rfl
    rw [formats] at lenient
    rw [formats'] at strict
    unfold Catalog.nodesMet
    dsimp only
    cases loaded : Source.materializations catalog.formats (Fields.valueAt fields "data") with
    | error e =>
      rw [loaded] at lenient strict
      exact strict.trans lenient.symm
    | ok work =>
      rw [loaded] at lenient strict
      exact stops_of_runs lenient strict (stops_readDocument catalog fields _)
  | _ => exact stops_same _

/-! ## Documents read twice -/

theorem Context.drop_journal_bindAll (context : Context) (refs : List Reference) (count : Nat) :
    ∃ names : List String,
      (context.bindAll refs).journal.drop count = context.journal.drop count ++ names.map .bound := by
  refine ⟨(context.scope.newNames refs).drop (count - context.journal.length), ?_⟩
  rw [journal_bindAll, List.drop_append, List.map_drop]

/-- Of two runs from one state, the one that goes on to bind names has submitted nothing more. -/
theorem Answered.ahead_of_bindAll {stopped ahead : Answered α} {count : Nat} {refs : List Reference}
    (done : stopped.effects = stopped.session.journal.drop count)
    (done' : ahead.effects = ahead.session.journal.drop count)
    (behind : ahead.session.toContext = stopped.session.toContext.bindAll refs) :
    stopped.statements = ahead.statements ∧ stopped.effects <+: ahead.effects ∧
      stopped.session.scope.Extends ahead.session.scope := by
  obtain ⟨names, bound⟩ := stopped.session.toContext.drop_journal_bindAll refs count
  have more : ahead.effects = stopped.effects ++ names.map .bound := by
    rw [done, done', behind, bound]
  refine ⟨?_, ?_, ?_⟩
  · unfold Answered.statements
    rw [more, List.filterMap_append, Effect.statements_bound, List.append_nil]
  · rw [more]
    exact List.prefix_append _ _
  · rw [behind]
    exact stopped.session.toContext.extends_bindAll refs

/-- Strict and lenient reading of a document from the same state. They agree in everything, or
there is an ambiguous node among those that lenient reading comes to before any failure. Strict
reading refuses the first of them, with its keys in the order of the table; it has submitted the
same statements, and what it bound is bound by lenient reading as well. Lenient reading calls no
node ambiguous. What it passes on is the error of a format that calls a source so, and strict
reading then does the same. -/
theorem strict_agrees_or_refuses (catalog : Catalog) (engine : Engine) (context : Context)
    (documents : List (Document Handle)) (root : Json) :
    let session (strict : Bool) : Session :=
      { toContext := context, rules := { catalog, strict }, engine, documents }
    let lenient := (session false).interpretDocument root
    let strict := (session true).interpretDocument root
    let refused? := (catalog.nodesMet root).find? catalog.isAmbiguous
    (refused? = none →
      strict.outcome = lenient.outcome ∧ strict.effects = lenient.effects ∧
      strict.session.toContext = lenient.session.toContext) ∧
    (∀ node, refused? = some node →
      strict.outcome = .error
        (.ambiguousLayout ((catalog.directivesIn node).map (·.key)) node) ∧
      strict.statements = lenient.statements ∧
      strict.effects <+: lenient.effects ∧
      strict.session.scope.Extends lenient.session.scope) ∧
    ∀ keys fragment,
      (lenient.outcome = .error (.ambiguousLayout keys fragment) ↔
        ∃ fields : Fields, root = .object fields ∧
          Source.DataFails catalog.formats (fields.valueAt "data")
            (.ambiguousLayout keys fragment)) ∧
      (strict.outcome = .error (.ambiguousLayout keys fragment) ↔
        lenient.outcome = .error (.ambiguousLayout keys fragment) ∨
        ∃ node, refused? = some node ∧ keys = (catalog.directivesIn node).map (·.key) ∧
          fragment = node) := by
  intro session lenient strict refused?
  let read (rules : Rules) := (Interpreting.document rules engine root).runIn context
  have stops : match refused? with
      | none => read catalog.strict = read catalog.lenient
      | some node => ∃ stopped refs,
          read catalog.strict = (.error (catalog.ambiguity node), stopped) ∧
          (read catalog.lenient).2 = stopped.bindAll refs :=
    stops_document catalog engine root context
  have agrees (free : refused? = none) : strict.outcome = lenient.outcome ∧
      strict.effects = lenient.effects ∧
      strict.session.toContext = lenient.session.toContext := by
    rw [free] at stops
    have effects := congrArg (fun run => run.2.journal.drop context.journal.length) stops
    exact ⟨congrArg Prod.fst stops, effects, congrArg Prod.snd stops⟩
  have refuses (node : Json) (found : refused? = some node) :
      strict.outcome = .error (catalog.ambiguity node) ∧
      strict.statements = lenient.statements ∧ strict.effects <+: lenient.effects ∧
      strict.session.scope.Extends lenient.session.scope := by
    rw [found] at stops
    obtain ⟨stopped, refs, stops, behind⟩ := stops
    have context_strict : strict.session.toContext = stopped := congrArg Prod.snd stops
    have context_lenient : lenient.session.toContext = stopped.bindAll refs := behind
    rw [← context_strict] at context_lenient
    exact ⟨congrArg Prod.fst stops, Answered.ahead_of_bindAll rfl rfl context_lenient⟩
  refine ⟨agrees, refuses, fun keys fragment => ?_⟩
  have passed : lenient.outcome = .error (.ambiguousLayout keys fragment) ↔ _ :=
    Catalog.lenient_ambiguous_iff
  refine ⟨passed, ?_⟩
  cases found : refused? with
  | none =>
    rw [(agrees found).1]
    exact (or_iff_left nofun).symm
  | some node =>
    -- a node is met, so the data section is in order
    have silent : ¬ lenient.outcome = .error (.ambiguousLayout keys fragment) := by
      rw [passed]
      rintro ⟨fields, rfl, fails⟩
      have none := Catalog.nodesMet_of_dataFails fails
      cases (congrArg (List.find? catalog.isAmbiguous) none).symm.trans found
    rw [(refuses node found).1, or_iff_right silent]
    constructor
    · intro same
      cases same
      exact ⟨_, rfl, rfl, rfl⟩
    · intro refused
      obtain ⟨_, ⟨⟩, rfl, rfl⟩ := refused
      rfl

/-- A node that is ambiguous stands beside an input, which is bound before it is refused. -/
theorem strict_agrees_or_refuses_of_nested :
    let node : Json := .object [("hconcat", .array []), ("plot", .array [])]
    let root : Json := .object [("data", .object [("t", .string "SELECT 1")]),
      ("vconcat", .array [.object [("input", .string "menu"), ("as", .string "$a")], node])]
    let read (strict : Bool) :=
      Session.interpretDocument { rules := { catalog := Standard.catalog, strict } } root
    (Standard.catalog.nodesMet root).find? Standard.catalog.isAmbiguous = some node ∧
      (read true).outcome = .error (.ambiguousLayout ["plot", "hconcat"] node) ∧
      (read true).statements = (read false).statements := by
  intro node root read
  have met : (Standard.catalog.nodesMet root).find? Standard.catalog.isAmbiguous = some node := by
    let menu : Fields := [("input", .string "menu"), ("as", .string "$a")]
    let layout : Fields := [("vconcat", .array [.object menu, node])]
    have read : (readNode Standard.catalog.lenient (.object menu) : Reading _).outcome =
        .ok (.input "menu" [("as", .reference "a")]) := by
      rw [readNode_object]
      rfl
    have inside : nodesMet Standard.catalog.lenient (.object menu) = [.object menu] := by
      have none : nodesMetIn Standard.catalog.lenient [] = [] := by rw [nodesMetIn]
      rw [nodesMet_object]
      exact congrArg (.object menu :: ·) none
    show (nodesMet Standard.catalog.lenient (.object layout)).find? _ = _
    rw [nodesMet_object]
    show (.object layout :: nodesMetIn Standard.catalog.lenient [.object menu, node]).find? _ = _
    rw [nodesMetIn, nodesMetIn, inside, nodesMet_object, read]
    rfl
  obtain ⟨-, refuses, -⟩ := strict_agrees_or_refuses Standard.catalog Engine.dry {} [] root
  obtain ⟨outcome, statements, -, -⟩ := refuses node met
  exact ⟨met, outcome, statements⟩

/-- A format may call a source ambiguous, and lenient reading says so. A root that is refused is
shown without its metadata. -/
theorem lenient_passes_ambiguity_on :
    let picky : Format := fun _ source => .error (.ambiguousLayout ["a", "b"] (.object source))
    let catalog := Standard.catalog.register (.format "picky" picky)
    let source : Fields := [("format", .string "picky")]
    let outcome (strict : Bool) (root : Fields) :=
      (Session.interpretDocument { rules := { catalog, strict } } (.object root)).outcome
    outcome false [("data", .object [("t", .object source)]), ("plot", .array [])] =
      .error (.ambiguousLayout ["a", "b"] (.object source)) ∧
    outcome true [("meta", .object []), ("plot", .array []), ("hconcat", .array [])] =
      .error (.ambiguousLayout ["plot", "hconcat"]
        (.object [("plot", .array []), ("hconcat", .array [])])) := by
  intro picky catalog source outcome
  constructor
  · have none : ∀ entry ∈ ([] : Fields), IsSource catalog.formats entry.1 entry.2 := nofun
    have refuses : Source.Refuses catalog.formats "t" (.object source)
        (.ambiguousLayout ["a", "b"] (.object source)) := .rejected .object (.named rfl) rfl rfl
    dsimp only [outcome]
    rw [Session.outcome_interpretDocument]
    exact Catalog.lenient_ambiguous_iff.2 ⟨_, rfl, .entry none refuses⟩
  · dsimp only [outcome]
    rw [Session.outcome_interpretDocument, (reports_document _ _ _ _).error_iff,
      firstFault_ofDocument (by decide)]
    exact .layout .null .null (.ambiguous rfl rfl (by decide))

end Dashboard
