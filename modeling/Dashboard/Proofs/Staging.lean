import Dashboard.Proofs.Repetition
/-!
# Params sections one after another

Params sections may come in stages, each of which may fail. An entry counts if it stands before the
first entry of its stage that defines nothing. The first entry that counts decides what a new name
stands for, and a name that is bound is left alone; but every entry is looked at, also if its name
is bound.
-/
namespace Dashboard

/-! ## One stage -/

/-- What a params section defines up to its first fault, and what its binding answers. -/
inductive ParamsRead (params : Table (Json → Live)) :
    Json → List Reference → Except DocumentError Unit → Prop
  | sound {stage : Json} {refs : List Reference} :
      ParamsDefine params stage refs → ParamsRead params stage refs (.ok ())
  | shape {stage : Json} :
      stage ≠ .null → (∀ entries, stage ≠ .object entries) →
      ParamsRead params stage [] (.error (.wrongPropertyType "params" stage))
  | entry {before after : Fields} {bad : String × Json} {refs : List Reference} :
      List.Forall₂ (Defines params) before refs → (∀ ref, ¬ Defines params bad ref) →
      ParamsRead params (.object (before ++ bad :: after)) refs
        (.error (.unknownParamType bad.2))

section Stage
variable {catalog : Catalog} {stage : Json} {refs : List Reference}
  {outcome : Except DocumentError Unit}

theorem ParamsRead.reading (h : ParamsRead catalog.params stage refs outcome) :
    readParams catalog stage = (⟨refs, outcome⟩ : Reading Unit) := by
  cases h with
  | sound define => exact readParams_of_define define
  | shape notNull noObject => exact readParams_of_shape notNull noObject catalog
  | entry all unknown => exact forM_of_not_defines all unknown

theorem exists_paramsRead (params : Table (Json → Live)) (stage : Json) :
    ∃ refs outcome, ParamsRead params stage refs outcome := by
  obtain ⟨refs, either⟩ := paramsDefine_or_paramsFail stage
  cases either with
  | inl define => exact ⟨refs, _, .sound define⟩
  | inr fails =>
    cases fails with
    | shape notNull noObject => exact ⟨[], _, .shape notNull noObject⟩
    | entry all unknown => exact ⟨refs, _, .entry all unknown⟩

theorem defines_of_mem {params : Table (Json → Live)} {entries : Fields} {refs : List Reference}
    (all : List.Forall₂ (Defines params) entries refs) :
    ∀ entry ∈ entries, ∃ ref, Defines params entry ref := by
  induction all with
  | nil => nofun
  | cons first _ ih => exact List.forall_mem_cons.2 ⟨⟨_, first⟩, ih⟩

/-- Every entry is looked at, whether its name is bound or not. -/
theorem ParamsRead.fails_iff {params : Table (Json → Live)}
    (h : ParamsRead params stage refs outcome) :
    (∃ e, outcome = .error e) ↔
      (stage ≠ .null ∧ ∀ entries, stage ≠ .object entries) ∨
      ∃ entries, stage = .object entries ∧
        ∃ entry ∈ entries, ∀ ref, ¬ Defines params entry ref := by
  cases h with
  | sound define =>
    refine iff_of_false nofun fun faulty => ?_
    cases define with
    | null =>
      obtain ⟨notNull, -⟩ | ⟨entries, same, -⟩ := faulty
      · exact notNull rfl
      · cases same
    | entries all =>
      obtain ⟨-, noObject⟩ | ⟨entries, same, entry, inside, unknown⟩ := faulty
      · exact noObject _ rfl
      · cases same
        obtain ⟨ref, defines⟩ := defines_of_mem all entry inside
        exact unknown ref defines
  | shape notNull noObject => exact iff_of_true ⟨_, rfl⟩ (.inl ⟨notNull, noObject⟩)
  | @entry before after bad refs all unknown =>
    exact iff_of_true ⟨_, rfl⟩
      (.inr ⟨_, rfl, bad, List.mem_append_right before List.mem_cons_self, unknown⟩)

/-- Binding a params section binds what it defines up to its first fault. -/
theorem bindParams_of_read {session : Session}
    (h : ParamsRead session.rules.catalog.params stage refs outcome) :
    session.bindParams stage =
      ⟨outcome, (session.scope.newNames refs).map .bound,
        { session with toContext := session.toContext.bindAll refs }⟩ := by
  have follows : Follows session.toContext (fun _ _ => True) (readParams _ stage) _ :=
    follows_readParams session.rules.catalog stage
  rw [h.reading] at follows
  have run : (readParams session.rules.catalog stage : Interpreting Unit).runIn session.toContext =
      (outcome, session.toContext.bindAll refs) :=
    Prod.ext follows.outcome.eq_of_unit.symm follows.after
  unfold Session.bindParams Session.run
  rw [run]
  dsimp only
  rw [Context.journal_bindAll, List.drop_left]

theorem Context.bindAll_of_bound {context : Context}
    (known : ∀ ref ∈ refs, ∃ handle, context.scope.handle? ref.name = some handle) :
    context.bindAll refs = context := by
  induction refs with
  | nil => rfl
  | cons ref refs ih =>
    obtain ⟨handle, bound⟩ := known ref List.mem_cons_self
    rw [Context.bindAll_cons, Context.bind_of_bound bound]
    exact ih fun ref inside => known ref (List.mem_cons_of_mem _ inside)

/-- A stage that comes again right away finds all its names bound. -/
theorem bindParams_again (session : Session) (stage : Json) :
    let answered := session.bindParams stage
    answered.session.bindParams stage = ⟨answered.outcome, [], answered.session⟩ := by
  obtain ⟨refs, outcome, read⟩ := exists_paramsRead session.rules.catalog.params stage
  rw [bindParams_of_read read]
  have known : ∀ ref ∈ refs,
      ∃ handle, (session.toContext.bindAll refs).scope.handle? ref.name = some handle := by
    intro ref met
    rw [Context.scope_bindAll]
    exact Scope.bound_bindAll met session.scope
  let after : Session := { session with toContext := session.toContext.bindAll refs }
  have again : after.bindParams stage = _ := bindParams_of_read read
  refine again.trans ?_
  rw [Context.bindAll_of_bound known, (Scope.bindAll_of_bound known).2, List.map_nil]

end Stage

/-! ## All stages -/

/-- The session after params sections that were bound one after another. -/
def Session.afterParams (session : Session) (stages : List Json) : Session :=
  stages.foldl (fun session stage => (session.bindParams stage).session) session

theorem afterParams_of_read {session : Session} {stages : List Json}
    {readings : List (List Reference × Except DocumentError Unit)}
    (h : List.Forall₂ (fun stage reading =>
      ParamsRead session.rules.catalog.params stage reading.1 reading.2) stages readings) :
    session.afterParams stages =
      { session with toContext := session.toContext.bindAll (readings.flatMap (·.1)) } := by
  generalize params : session.rules.catalog.params = params at h
  induction h generalizing session with
  | nil => rfl
  | cons first _ ih =>
    subst params
    rw [List.flatMap_cons, Context.bindAll_append, Session.afterParams, List.foldl_cons,
      bindParams_of_read first]
    exact ih rfl

theorem exists_paramsRead_all (params : Table (Json → Live)) (stages : List Json) :
    ∃ readings : List (List Reference × Except DocumentError Unit),
      List.Forall₂ (fun stage reading => ParamsRead params stage reading.1 reading.2)
        stages readings := by
  induction stages with
  | nil => exact ⟨[], .nil⟩
  | cons stage stages ih =>
    obtain ⟨refs, outcome, first⟩ := exists_paramsRead params stage
    obtain ⟨readings, others⟩ := ih
    exact ⟨(refs, outcome) :: readings, .cons first others⟩

/-- What becomes of a scope by definitions of which the first of a name wins: the cells that are
there stay as they are, and every name that is new gets a cell of its own behind them. -/
structure FirstDefinitionWins (before : Scope) (definitions : List Reference) (after : Scope) :
    Prop extends FirstReferenceWins before definitions after, before.Grows after where
  own : ∀ {name handle}, before.handle? name = none → after.handle? name = some handle →
    before.store.length ≤ handle ∧
      ∀ other, before.handle? other = none → after.handle? other = some handle → other = name
  size : ∃ added : List String, added.Nodup ∧
    (∀ name, name ∈ added ↔ before.handle? name = none ∧ ∃ ref ∈ definitions, ref.name = name) ∧
    after.names.length = before.names.length + added.length

theorem firstDefinitionWins_bindAll (scope : Scope) (definitions : List Reference) :
    FirstDefinitionWins scope definitions (scope.bindAll definitions) where
  toFirstReferenceWins := firstReferenceWins_bindAll scope definitions
  toGrows := scope.grows_bindAll definitions
  own free bound := by
    obtain ⟨behind, place⟩ := Scope.getElem?_newNames free bound
    refine ⟨behind, fun other free' bound' => ?_⟩
    obtain ⟨-, place'⟩ := Scope.getElem?_newNames free' bound'
    exact Option.some.inj (place'.symm.trans place)
  size := by
    refine ⟨scope.newNames definitions, scope.nodup_newNames definitions,
      fun _ => Scope.mem_newNames, ?_⟩
    rw [Scope.names_bindAll, List.length_append, List.length_zipIdx]

/-- Params sections are bound one after another, some of which may fail. Of the entries that stand
before the first fault of their section, the first one of a name that is new decides what the name
stands for. A section fails exactly if it is no section or has an entry that defines nothing, and
the first such entry is the error, whatever is bound. A section that comes again right away does
nothing and answers the same. -/
theorem params_stages_keep_first (session : Session) (stages : List Json) :
    let params := session.rules.catalog.params
    let bound := session.afterParams stages
    (∃ readings : List (List Reference × Except DocumentError Unit),
      List.Forall₂ (fun stage reading => ParamsRead params stage reading.1 reading.2)
        stages readings ∧
      FirstDefinitionWins session.scope (readings.flatMap (·.1)) bound.scope) ∧
    ∀ stage,
      let answered := bound.bindParams stage
      (∃ refs, ParamsRead params stage refs answered.outcome) ∧
      (∀ refs outcome, ParamsRead params stage refs outcome → answered.outcome = outcome) ∧
      ((∃ e, answered.outcome = .error e) ↔
        (stage ≠ .null ∧ ∀ entries, stage ≠ .object entries) ∨
        ∃ entries, stage = .object entries ∧
          ∃ entry ∈ entries, ∀ ref, ¬ Defines params entry ref) ∧
      answered.session.bindParams stage = ⟨answered.outcome, [], answered.session⟩ := by
  intro params bound
  obtain ⟨readings, read⟩ := exists_paramsRead_all params stages
  have same : bound = { session with
      toContext := session.toContext.bindAll (readings.flatMap (·.1)) } := afterParams_of_read read
  refine ⟨⟨readings, read, ?_⟩, ?_⟩
  · rw [same]
    exact Context.scope_bindAll session.toContext _ ▸ firstDefinitionWins_bindAll session.scope _
  · intro stage answered
    have answers {refs : List Reference} {outcome : Except DocumentError Unit}
        (h : ParamsRead params stage refs outcome) : answered.outcome = outcome := by
      have h' : ParamsRead bound.rules.catalog.params stage refs outcome := by rwa [same]
      exact congrArg Answered.outcome (bindParams_of_read h')
    obtain ⟨refs, outcome, h⟩ := exists_paramsRead params stage
    obtain rfl := answers h
    exact ⟨⟨refs, h⟩, fun _ _ => answers, h.fails_iff, bindParams_again bound stage⟩

end Dashboard
