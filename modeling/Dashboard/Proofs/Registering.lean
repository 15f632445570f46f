import Dashboard.Catalog.Standard
import Dashboard.Proofs.Strictness
/-!
# Registering new names

A catalog with more names reads a document as the smaller one does, up to the first name that only
the larger one knows. The smaller one stops there, and whatever the larger one does from there on
only adds to what was done.
-/
namespace Dashboard

/-! ## Larger catalogs -/

/-- Every name of the first table stands for the same in the second one. -/
def Table.IncludedIn {α : Type} (t t' : Table α) : Prop :=
  ∀ name value, t.lookup name = some value → t'.lookup name = some value

theorem Table.IncludedIn.refl {α : Type} (t : Table α) : t.IncludedIn t :=
  fun _ _ => id

/-- What is written under a new name hides nothing. -/
theorem Table.IncludedIn.put {α : Type} {t t' : Table α} (h : t.IncludedIn t') {name : String}
    (new : name ∉ t.names) (value : α) : t.IncludedIn (t'.put name value) := by
  intro key held found
  have other : key ≠ name := by
    rintro rfl
    exact new (mem_names.2 (by rw [found]; rfl))
  rw [lookup_put, if_neg other]
  exact h key held found

/-- The directive table and the transforms are the same, and every other table has grown at most. -/
structure Catalog.IncludedIn (narrow wide : Catalog) : Prop where
  formats : narrow.formats.IncludedIn wide.formats
  directives : wide.directives = narrow.directives
  transforms : wide.transforms = narrow.transforms
  params : narrow.params.IncludedIn wide.params
  interactors : narrow.interactors.IncludedIn wide.interactors
  attributes : narrow.attributes.IncludedIn wide.attributes
  legends : narrow.legends.IncludedIn wide.legends
  inputs : narrow.inputs.IncludedIn wide.inputs
  marks : narrow.marks.IncludedIn wide.marks

theorem Catalog.IncludedIn.refl (catalog : Catalog) : catalog.IncludedIn catalog :=
  ⟨.refl _, rfl, rfl, .refl _, .refl _, .refl _, .refl _, .refl _, .refl _⟩

/-- Whether a registration adds a name that the catalog does not have. A transform is none of
these, since its name may have been the key of a literal. -/
def Registration.IsNew (catalog : Catalog) : Registration → Prop
  | .format name _ => name ∉ catalog.formats.names
  | .transform _ _ => False
  | .param name _ => name ∉ catalog.params.names
  | .interactor name _ => name ∉ catalog.interactors.names
  | .property name _ => name ∉ catalog.attributes.names
  | .legend name _ => name ∉ catalog.legends.names
  | .input name _ => name ∉ catalog.inputs.names
  | .mark name _ => name ∉ catalog.marks.names

theorem Catalog.IncludedIn.register {narrow wide : Catalog} (h : narrow.IncludedIn wide)
    {registration : Registration} (new : registration.IsNew narrow) :
    narrow.IncludedIn (wide.register registration) := by
  cases registration with
  | transform name transform => exact new.elim
  | format name format => exact { h with formats := h.formats.put new format }
  | param name construct => exact { h with params := h.params.put new construct }
  | interactor name type => exact { h with interactors := h.interactors.put new type }
  | property name type => exact { h with attributes := h.attributes.put new type }
  | legend name type => exact { h with legends := h.legends.put new type }
  | input name type => exact { h with inputs := h.inputs.put new type }
  | mark name type => exact { h with marks := h.marks.put new type }

theorem Catalog.IncludedIn.registerAll {narrow wide : Catalog} (h : narrow.IncludedIn wide)
    {registrations : List Registration}
    (new : ∀ registration ∈ registrations, registration.IsNew narrow) :
    narrow.IncludedIn (wide.registerAll registrations) := by
  induction registrations generalizing wide with
  | nil => exact h
  | cons registration registrations ih =>
    have first := h.register (new registration List.mem_cons_self)
    exact ih first fun other inside => new other (List.mem_cons_of_mem _ inside)

/-- An error that a name is to blame for which the catalog does not have. -/
def DocumentError.isUnknownName : DocumentError → Bool
  | unknownFormat _ => true
  | unknownParamType _ => true
  | unknownInput _ => true
  | unknownMark _ => true
  | unknownLegend _ => true
  | unknownInteractor _ => true
  | unknownAttribute _ => true
  | _ => false

/-! ## Two runs side by side -/

variable {α β ι : Type}

theorem onlyBinds_pure (a : α) : OnlyBinds (pure a : Interpreting α) :=
  fun _ => ⟨[], rfl⟩

theorem onlyBinds_fail (e : DocumentError) : OnlyBinds (Reader.fail e : Interpreting α) :=
  fun _ => ⟨[], rfl⟩

theorem onlyBinds_bind {x : Interpreting α} {f : α → Interpreting β} (first : OnlyBinds x)
    (next : ∀ a, OnlyBinds (f a)) : OnlyBinds (x >>= f) := by
  intro context
  obtain ⟨refs, same⟩ := first context
  rw [Interpreting.runIn_bind]
  rcases run : x.runIn context with ⟨_ | a, between⟩
  · rw [run] at same
    exact ⟨refs, same⟩
  · rw [run] at same
    obtain rfl : between = context.bindAll refs := same
    obtain ⟨more, rest⟩ := next a (context.bindAll refs)
    exact ⟨refs ++ more, by rw [Context.bindAll_append]; exact rest⟩

/-- The second work does what the first one does, unless the first one stops at an unknown name.
From there on the second one can only bind names. -/
structure GoesFurther (x y : Interpreting α) : Prop where
  binds : OnlyBinds y
  run : ∀ context, y.runIn context = x.runIn context ∨
    ∃ e stopped refs, e.isUnknownName = true ∧ x.runIn context = (.error e, stopped) ∧
      (y.runIn context).2 = stopped.bindAll refs

theorem goesFurther_refl {x : Interpreting α} (binds : OnlyBinds x) : GoesFurther x x :=
  ⟨binds, fun _ => .inl rfl⟩

theorem goesFurther_pure (a : α) : GoesFurther (pure a) (pure a) :=
  goesFurther_refl (onlyBinds_pure a)

theorem goesFurther_fail (e : DocumentError) :
    GoesFurther (Reader.fail e : Interpreting α) (Reader.fail e) :=
  goesFurther_refl (onlyBinds_fail e)

theorem goesFurther_unknown {e : DocumentError} (unknown : e.isUnknownName = true)
    {y : Interpreting α} (binds : OnlyBinds y) : GoesFurther (Reader.fail e) y := by
  refine ⟨binds, fun context => .inr ?_⟩
  obtain ⟨refs, after⟩ := binds context
  exact ⟨e, context, refs, unknown, rfl, after⟩

theorem goesFurther_bind {x y : Interpreting α} {f g : α → Interpreting β}
    (first : GoesFurther x y) (next : ∀ a, GoesFurther (f a) (g a)) :
    GoesFurther (x >>= f) (y >>= g) := by
  refine ⟨onlyBinds_bind first.binds fun a => (next a).binds, fun context => ?_⟩
  rw [Interpreting.runIn_bind, Interpreting.runIn_bind]
  obtain same | ⟨e, stopped, refs, unknown, stops, behind⟩ := first.run context
  · rw [same]
    rcases x.runIn context with ⟨e | a, between⟩
    · exact .inl rfl
    · exact (next a).run between
  · right
    rw [stops]
    rcases run : y.runIn context with ⟨e' | a, between⟩
    · rw [run] at behind
      exact ⟨e, stopped, refs, unknown, rfl, behind⟩
    · rw [run] at behind
      obtain rfl : between = stopped.bindAll refs := behind
      obtain ⟨more, rest⟩ := (next a).binds (stopped.bindAll refs)
      refine ⟨e, stopped, refs ++ more, unknown, rfl, ?_⟩
      rw [Context.bindAll_append]
      exact rest

theorem goesFurther_map {x y : Interpreting α} (h : GoesFurther x y) (f : α → β) :
    GoesFurther (f <$> x) (f <$> y) := by
  rw [map_eq_pure_bind, map_eq_pure_bind]
  exact goesFurther_bind h fun a => goesFurther_pure (f a)

theorem goesFurther_mapM {f g : ι → Interpreting α} {is : List ι}
    (each : ∀ i ∈ is, GoesFurther (f i) (g i)) : GoesFurther (is.mapM f) (is.mapM g) := by
  induction is with
  | nil => exact goesFurther_pure []
  | cons i is ih =>
    have others := ih fun i inside => each i (List.mem_cons_of_mem _ inside)
    rw [List.mapM_cons, List.mapM_cons]
    exact goesFurther_bind (each i List.mem_cons_self) fun a => goesFurther_map others (a :: ·)

theorem goesFurther_forM {f g : ι → Interpreting Unit} (each : ∀ i, GoesFurther (f i) (g i))
    (is : List ι) : GoesFurther (forM is f) (forM is g) := by
  induction is with
  | nil => exact goesFurther_pure ()
  | cons i is ih =>
    rw [List.forM_cons, List.forM_cons]
    exact goesFurther_bind (each i) fun _ => ih

/-! ## Layouts -/

theorem typeUnder?_of_included {types types' : Table String} (included : types.IncludedIn types')
    {fields : Fields} {key type : String} (found : typeUnder? types fields key = some type) :
    typeUnder? types' fields key = some type := by
  obtain ⟨name, here, known⟩ := Option.bind_eq_some_iff.1 found
  exact Option.bind_eq_some_iff.2 ⟨name, here, included name type known⟩

theorem legendType?_of_included {narrow wide : Catalog} (more : narrow.IncludedIn wide)
    {fields : Fields} {type : String} (found : legendType? narrow fields = some type) :
    legendType? wide fields = some type := by
  obtain ⟨name, here, known⟩ := Option.bind_eq_some_iff.1 found
  exact Option.bind_eq_some_iff.2 ⟨name, here, more.legends name type known⟩

section Layouts
variable {narrow wide : Catalog} (more : narrow.IncludedIn wide)
include more

theorem goesFurther_readProperty (field : String × Json) :
    GoesFurther (readProperty narrow field) (readProperty wide field) := by
  have binds : OnlyBinds (readProperty wide field) :=
    onlyBinds_of_follows fun _ => follows_readProperty wide field
  unfold readProperty at binds ⊢
  cases known : narrow.attributes.lookup field.1 with
  | none => exact goesFurther_unknown rfl binds
  | some name =>
    rw [more.attributes _ _ known] at binds ⊢
    exact goesFurther_refl binds

theorem goesFurther_readMark (fields : Fields) :
    GoesFurther (readMark narrow fields) (readMark wide fields) := by
  have binds : OnlyBinds (readMark wide fields) :=
    onlyBinds_of_follows fun _ => follows_readMark wide fields
  unfold readMark readChannels at binds ⊢
  rw [more.transforms] at binds ⊢
  cases known : typeUnder? narrow.marks fields "mark" with
  | none => exact goesFurther_unknown rfl binds
  | some type =>
    rw [typeUnder?_of_included more.marks known] at binds ⊢
    exact goesFurther_refl binds

theorem goesFurther_readLegend {fields : Fields} (noMark : fields.present? "mark" = none) :
    GoesFurther (readLegend narrow fields) (readLegend wide fields) := by
  have binds : OnlyBinds (readLegend wide fields) :=
    onlyBinds_of_follows fun _ => follows_readLegend wide noMark
  unfold readLegend at binds ⊢
  cases known : legendType? narrow fields with
  | none => exact goesFurther_unknown rfl binds
  | some type =>
    rw [legendType?_of_included more known] at binds ⊢
    exact goesFurther_refl binds

theorem goesFurther_readInteractor {fields : Fields} (noMark : fields.present? "mark" = none)
    (noLegend : fields.present? "legend" = none) :
    GoesFurther (readInteractor narrow fields) (readInteractor wide fields) := by
  have binds : OnlyBinds (readInteractor wide fields) :=
    onlyBinds_of_follows fun _ => follows_readInteractor wide noMark noLegend
  unfold readInteractor at binds ⊢
  cases known : typeUnder? narrow.interactors fields "select" with
  | none => exact goesFurther_unknown rfl binds
  | some type =>
    rw [typeUnder?_of_included more.interactors known] at binds ⊢
    exact goesFurther_refl binds

theorem goesFurther_readEntry (entry : Json) :
    GoesFurther (readEntry narrow entry) (readEntry wide entry) := by
  unfold readEntry
  cases entry with
  | object fields =>
    dsimp only
    split_ifs with mark legend select
    · exact goesFurther_readMark more fields
    · exact goesFurther_readLegend more (Option.not_isSome_iff_eq_none.1 mark)
    · exact goesFurther_readInteractor more (Option.not_isSome_iff_eq_none.1 mark)
        (Option.not_isSome_iff_eq_none.1 legend)
    · exact goesFurther_fail _
  | _ => exact goesFurther_fail _

theorem goesFurther_readPlot (fields : Fields) (items : List Json) :
    GoesFurther (readPlot narrow fields items) (readPlot wide fields items) := by
  unfold readPlot
  rw [more.directives]
  refine goesFurther_bind (goesFurther_mapM fun field _ => goesFurther_readProperty more field)
    fun properties => ?_
  exact goesFurther_bind (goesFurther_mapM fun entry _ => goesFurther_readEntry more entry)
    fun entries => goesFurther_pure _

end Layouts

section Nodes
variable {narrow wide : Rules} (more : narrow.catalog.IncludedIn wide.catalog)
  (strict : wide.strict = narrow.strict)
include more strict

/-- What a node is does not depend on the names that a catalog has. -/
theorem Rules.content_of_included (fields : Fields) :
    wide.content fields = narrow.content fields := by
  unfold Rules.content Rules.matching
  rw [more.directives, strict]

omit strict in
theorem goesFurther_readInput {fields : Fields} {name : String}
    (found : wide.content fields = .ok (.input name)) :
    GoesFurther (readInput narrow.catalog fields name) (readInput wide.catalog fields name) := by
  have binds : OnlyBinds (readInput wide.catalog fields name) :=
    onlyBinds_of_follows fun _ => follows_readInput wide found
  unfold readInput at binds ⊢
  cases known : narrow.catalog.inputs.lookup name with
  | none => exact goesFurther_unknown rfl binds
  | some type =>
    rw [more.inputs _ _ known] at binds ⊢
    exact goesFurther_refl binds

theorem goesFurther_readNode (node : Json) :
    GoesFurther (readNode narrow node) (readNode wide node) := by
  induction node using Rules.induction narrow with
  | other node other =>
    rw [readNode_other narrow other, readNode_other wide other]
    exact goesFurther_fail _
  | object fields ih =>
    have inside (items : List Json)
        (each : ∀ item ∈ items, GoesFurther (readNode narrow item) (readNode wide item)) :
        GoesFurther (readNodes narrow items) (readNodes wide items) := by
      rw [readNodes_eq, readNodes_eq]
      exact goesFurther_mapM each
    have same := Rules.content_of_included more strict fields
    rw [readNode_object, readNode_object, same]
    cases found : narrow.content fields with
    | error e => exact goesFurther_fail e
    | ok content =>
      have items := ih content found
      cases content with
      | plot entries => exact goesFurther_map (goesFurther_readPlot more fields entries) _
      | hconcat nodes => exact goesFurther_map (inside nodes items) _
      | vconcat nodes => exact goesFurther_map (inside nodes items) _
      | hspace size => exact goesFurther_pure _
      | vspace size => exact goesFurther_pure _
      | input name => exact goesFurther_readInput more (same.trans found)

/-! ## Documents -/

omit strict in
theorem goesFurther_readParam (entry : String × Json) :
    GoesFurther (readParam narrow.catalog.params entry) (readParam wide.catalog.params entry) := by
  have binds : OnlyBinds (readParam wide.catalog.params entry) :=
    onlyBinds_of_follows fun _ => follows_readParam wide.catalog.params entry
  unfold readParam at binds ⊢
  dsimp only at binds ⊢
  cases known : (paramDefinition entry.2).1.bind fun kind => narrow.catalog.params.lookup kind with
  | none => exact goesFurther_unknown rfl binds
  | some construct =>
    obtain ⟨kind, here, found⟩ := Option.bind_eq_some_iff.1 known
    rw [here, Option.bind_some, more.params _ _ found] at binds ⊢
    exact goesFurther_refl binds

omit strict in
theorem goesFurther_readParams (params : Json) :
    GoesFurther (readParams narrow.catalog params) (readParams wide.catalog params) := by
  unfold readParams
  cases params with
  | null => exact goesFurther_pure ()
  | object entries => exact goesFurther_forM (goesFurther_readParam more) entries
  | _ => exact goesFurther_fail _

theorem goesFurther_readDocument (root : Fields) :
    GoesFurther (readDocument narrow root) (readDocument wide root) := by
  unfold readDocument
  refine goesFurther_bind (goesFurther_readParams more _) fun _ => ?_
  exact goesFurther_bind (goesFurther_readNode more strict _) fun layout => goesFurther_pure _

end Nodes

end Dashboard
