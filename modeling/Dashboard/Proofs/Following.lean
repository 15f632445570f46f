import Dashboard.Proofs.Binding
import Dashboard.Proofs.Mirroring
/-!
# Interpretation follows reading

Interpreting a document in a scope comes to the same as reading it without one and binding the
references that the reading noted, one after another. This holds on every path, also on those that
end in an error, which is then the same one. The tree of an interpretation mirrors the document in
the scope that the interpretation leaves.
-/
namespace Dashboard
variable {α β γ δ : Type}

def Scope.Binds (scope : Scope) (name : String) (handle : Handle) : Prop :=
  scope.handle? name = some handle

/-- Two results, of which the second has a property, or the same error. -/
inductive SameOutcome (p : β → Prop) : Except DocumentError α → Except DocumentError β → Prop
  | ok (a : α) {b : β} : p b → SameOutcome p (.ok a) (.ok b)
  | error (e : DocumentError) : SameOutcome p (.error e) (.error e)

theorem SameOutcome.error_iff {p : β → Prop} {x : Except DocumentError α}
    {y : Except DocumentError β} (h : SameOutcome p x y) (e : DocumentError) :
    x = .error e ↔ y = .error e := by
  cases h with
  | ok a _ => exact iff_of_false nofun nofun
  | error _ =>
    exact ⟨fun same => congrArg Except.error (Except.error.inj same),
      fun same => congrArg Except.error (Except.error.inj same)⟩

theorem SameOutcome.ok_iff {p : β → Prop} {x : Except DocumentError α}
    {y : Except DocumentError β} (h : SameOutcome p x y) :
    (∃ a, x = .ok a) ↔ ∃ b, y = .ok b := by
  cases h with
  | @ok a b _ => exact iff_of_true ⟨a, rfl⟩ ⟨b, rfl⟩
  | error e => exact iff_of_false nofun nofun

theorem SameOutcome.eq_of_unit {p : Unit → Prop} {x y : Except DocumentError Unit}
    (h : SameOutcome p x y) : x = y := by
  cases h with
  | ok a _ => rfl
  | error e => rfl

/-- What an interpretation does from a context on is to bind what a reading noted. Its result has
a property in the scope that it leaves. -/
structure Follows (context : Context) (p : Scope → β → Prop) (reading : Reading α)
    (work : Interpreting β) : Prop where
  after : (work.runIn context).2 = context.bindAll reading.references
  outcome : SameOutcome (p (context.bindAll reading.references).scope) reading.outcome
    (work.runIn context).1

theorem Follows.scope {α β : Type} {context : Context} {p : Scope → β → Prop} {x : Reading α}
    {y : Interpreting β} (h : Follows context p x y) :
    (y.runIn context).2.scope = context.scope.bindAll x.references := by
  rw [h.after, Context.scope_bindAll]

theorem Follows.holds {α β : Type} {context : Context} {p : Scope → β → Prop} {x : Reading α}
    {y : Interpreting β} (h : Follows context p x y) {b : β}
    (answer : (y.runIn context).1 = .ok b) : p (y.runIn context).2.scope b := by
  obtain ⟨after, same⟩ := h
  rw [answer] at same
  rw [after]
  generalize x.outcome = read at same
  cases same with
  | ok _ holds => exact holds

/-- A property that stays when names are bound. -/
def Stable (p : Scope → β → Prop) : Prop :=
  ∀ {before after : Scope}, before.Extends after → ∀ b, p before b → p after b

section Combinators
variable {context : Context} {p : Scope → β → Prop} {q : Scope → δ → Prop}

theorem SameOutcome.imp {p q : β → Prop} {x : Except DocumentError α}
    {y : Except DocumentError β} (h : SameOutcome p x y) (weaker : ∀ b, p b → q b) :
    SameOutcome q x y := by
  cases h with
  | ok a holds => exact .ok a (weaker _ holds)
  | error e => exact .error e

theorem Follows.imp {q : Scope → β → Prop} {x : Reading α} {y : Interpreting β}
    (h : Follows context p x y) (weaker : ∀ scope b, p scope b → q scope b) :
    Follows context q x y :=
  ⟨h.after, h.outcome.imp (weaker _)⟩

theorem follows_pure (a : α) {b : β} (h : p context.scope b) :
    Follows context p (pure a : Reading α) (pure b) :=
  ⟨rfl, .ok a h⟩

theorem follows_fail (e : DocumentError) :
    Follows context p (Reader.fail e : Reading α) (Reader.fail e) :=
  ⟨rfl, .error e⟩

theorem follows_meet (ref : Reference) :
    Follows context (·.Binds ref.name) (Reader.meet ref : Reading String) (Reader.meet ref) := by
  obtain ⟨handle, run, bound⟩ := Interpreting.runIn_meet ref context
  refine ⟨by rw [run]; rfl, ?_⟩
  rw [run]
  exact .ok _ bound

theorem follows_bind {x : Reading α} {y : Interpreting β} {f : α → Reading γ}
    {g : β → Interpreting δ} (first : Follows context p x y)
    (next : ∀ a b, p (context.bindAll x.references).scope b →
      Follows (context.bindAll x.references) q (f a) (g b)) :
    Follows context q (x >>= f) (y >>= g) := by
  obtain ⟨refs, outcome⟩ := x
  obtain ⟨ends, same⟩ := first
  rcases run : y.runIn context with ⟨answer, after⟩
  rw [run] at ends same
  obtain rfl : after = context.bindAll refs := ends
  cases same with
  | @ok a b holds =>
    obtain ⟨ends', same'⟩ := next a b holds
    refine ⟨?_, ?_⟩
    · rw [Interpreting.runIn_bind, run, Reading.bind_ok, Context.bindAll_append]
      exact ends'
    · rw [Interpreting.runIn_bind, run, Reading.bind_ok, Context.bindAll_append]
      exact same'
  | error e =>
    refine ⟨?_, ?_⟩
    · rw [Interpreting.runIn_bind, run, Reading.bind_error]
    · rw [Interpreting.runIn_bind, run, Reading.bind_error]
      exact .error e

theorem follows_map {x : Reading α} {y : Interpreting β} {f : α → γ} {g : β → δ}
    (first : Follows context p x y) (keep : ∀ scope b, p scope b → q scope (g b)) :
    Follows context q (f <$> x) (g <$> y) := by
  rw [map_eq_pure_bind, map_eq_pure_bind]
  exact follows_bind first fun a b holds => follows_pure (f a) (keep _ b holds)

theorem follows_mapM {ι : Type} {p : ι → Scope → β → Prop} (stable : ∀ i, Stable (p i))
    {f : ι → Reading α} {g : ι → Interpreting β} {is : List ι}
    (each : ∀ i ∈ is, ∀ context, Follows context (p i) (f i) (g i)) :
    Follows context (fun scope => List.Forall₂ (p · scope) is) (is.mapM f) (is.mapM g) := by
  induction is generalizing context with
  | nil =>
    rw [List.mapM_nil, List.mapM_nil]
    exact follows_pure [] .nil
  | cons i is ih =>
    rw [List.mapM_cons, List.mapM_cons]
    refine follows_bind (each i List.mem_cons_self context) fun a b holds => ?_
    refine follows_bind (ih fun i inside => each i (List.mem_cons_of_mem _ inside))
      fun as bs others => follows_pure (a :: as) ?_
    -- the later items bind more names, which does not hurt the first one
    exact .cons (stable i (Context.extends_bindAll _ _) b holds) others

theorem follows_forM {ι : Type} {f : ι → Reading Unit} {g : ι → Interpreting Unit}
    (each : ∀ i context, Follows context (fun _ _ => True) (f i) (g i)) (is : List ι) :
    Follows context (fun _ _ => True) (forM is f) (forM is g) := by
  induction is generalizing context with
  | nil => exact follows_pure () trivial
  | cons i is ih =>
    rw [List.forM_cons, List.forM_cons]
    exact follows_bind (each i context) fun _ _ _ => ih

end Combinators

/-! ## Values -/

theorem Scope.Extends.binds {before after : Scope} (h : before.Extends after) (name : String)
    (handle : Handle) : before.Binds name handle → after.Binds name handle :=
  h.handle

variable {context : Context}

theorem follows_readValue (initial : Live) (value : Json) :
    Follows context (fun scope => Resolved.Mirrors scope.Binds value)
      (readValue initial value) (readValue initial value) := by
  unfold readValue
  cases named : referenceName? value with
  | none => exact follows_pure _ (.literal named)
  | some name => exact follows_map (follows_meet _) fun _ _ bound => .reference named bound

theorem follows_readChannel (transforms : Table (List Json → Expression)) (value : Json) :
    Follows context (fun scope => Resolved.MirrorsChannel scope.Binds transforms value)
      (readChannel transforms value) (readChannel transforms value) := by
  unfold readChannel
  cases found : transform? transforms value with
  | none => exact (follows_readValue freshParam value).imp fun _ _ => .value found
  | some e => exact follows_pure _ (.expression found)

theorem follows_readFields {mirrors : Json → Scope → Resolved Handle → Prop}
    (stable : ∀ value, Stable (mirrors value)) {f : Json → Reading (Resolved String)}
    {g : Json → Interpreting (Resolved Handle)}
    (each : ∀ value context, Follows context (mirrors value) (f value) (g value))
    (fields : Fields) :
    Follows context (fun scope => Options.Mirror (mirrors · scope) fields)
      (readFields f fields) (readFields g fields) := by
  have stable' (field : String × Json) : Stable fun scope (option : String × Resolved Handle) =>
      field.1 = option.1 ∧ mirrors field.2 scope option.2 :=
    fun extended option same => ⟨same.1, stable field.2 extended option.2 same.2⟩
  refine follows_mapM stable' fun field _ context => ?_
  exact follows_map (each field.2 context) fun _ _ holds => ⟨rfl, holds⟩

theorem follows_readOptions (fields : Fields) :
    Follows context (fun scope => Options.Mirror (Resolved.Mirrors scope.Binds) fields)
      (readOptions fields) (readOptions fields) :=
  follows_readFields (fun _ _ _ extended _ => .mono extended.binds)
    (fun value _ => follows_readValue freshSelection value) fields

theorem follows_readChannels (catalog : Catalog) (fields : Fields) :
    Follows context (fun scope =>
        Options.Mirror (Resolved.MirrorsChannel scope.Binds catalog.transforms) fields)
      (readChannels catalog fields) (readChannels catalog fields) :=
  follows_readFields (fun _ _ _ extended _ => .mono extended.binds)
    (fun value _ => follows_readChannel catalog.transforms value) fields

/-! ## Plots -/

theorem follows_readPropertyValue (value : Json) :
    Follows context (fun scope => Resolved.MirrorsProperty scope.Binds value)
      (readPropertyValue value) (readPropertyValue value) := by
  unfold readPropertyValue
  split
  · next written => exact follows_pure _ (.fixed written)
  · next other => exact (follows_readValue freshParam value).imp fun _ _ => .value other

theorem follows_readProperty (catalog : Catalog) (field : String × Json) :
    Follows context (fun scope => PlotEntry.MirrorsProperty scope.Binds catalog field)
      (readProperty catalog field) (readProperty catalog field) := by
  unfold readProperty
  cases found : catalog.attributes.lookup field.1 with
  | none => exact follows_fail _
  | some name =>
    exact follows_map (follows_readPropertyValue field.2) fun _ _ mirrors => .mk found mirrors

theorem follows_readMarkData (data : Json) :
    Follows context (fun scope => MarkData.Mirrors scope.Binds data)
      (readMarkData data) (readMarkData data) := by
  unfold readMarkData
  cases data with
  | object fields =>
    cases named : Fields.string? fields "from" with
    | none => simpa only [named] using follows_fail _
    | some table =>
      simp only [named]
      exact follows_map (follows_readOptions _) fun _ _ options => .mk named options
  | _ => exact follows_fail _

theorem follows_readData (fields : Fields) :
    Follows context (fun scope =>
        Option.Rel (MarkData.Mirrors scope.Binds) (fields.present? "data"))
      (readData fields) (readData fields) := by
  unfold readData
  cases fields.present? "data" with
  | none => exact follows_pure none .none
  | some data => exact follows_map (follows_readMarkData data) fun _ _ mirrors => .some mirrors

theorem follows_readMark (catalog : Catalog) (fields : Fields) :
    Follows context (fun scope => PlotEntry.Mirrors scope.Binds catalog (.object fields))
      (readMark catalog fields) (readMark catalog fields) := by
  unfold readMark
  cases named : typeUnder? catalog.marks fields "mark" with
  | none => exact follows_fail _
  | some type =>
    refine follows_bind (follows_readData fields) fun _ data sources => ?_
    refine follows_bind (follows_readChannels catalog _) fun _ options channels => ?_
    refine follows_pure _ (.mark named ?_ channels)
    generalize Fields.present? _ "data" = found at sources
    cases sources with
    | none => exact .none
    | some mirrors => exact .some (mirrors.mono (Context.extends_bindAll _ _).binds)

theorem follows_readLegend (catalog : Catalog) {fields : Fields}
    (noMark : fields.present? "mark" = none) :
    Follows context (fun scope => PlotEntry.Mirrors scope.Binds catalog (.object fields))
      (readLegend catalog fields) (readLegend catalog fields) := by
  unfold readLegend
  cases named : legendType? catalog fields with
  | none => exact follows_fail _
  | some type =>
    exact follows_map (follows_readOptions _) fun _ _ options => .legend noMark named options

theorem follows_readInteractor (catalog : Catalog) {fields : Fields}
    (noMark : fields.present? "mark" = none) (noLegend : fields.present? "legend" = none) :
    Follows context (fun scope => PlotEntry.Mirrors scope.Binds catalog (.object fields))
      (readInteractor catalog fields) (readInteractor catalog fields) := by
  unfold readInteractor
  cases named : typeUnder? catalog.interactors fields "select" with
  | none => exact follows_fail _
  | some type =>
    exact follows_map (follows_readOptions _) fun _ _ options =>
      .interactor noMark noLegend named options

theorem follows_readEntry (catalog : Catalog) (entry : Json) :
    Follows context (fun scope => PlotEntry.Mirrors scope.Binds catalog entry)
      (readEntry catalog entry) (readEntry catalog entry) := by
  unfold readEntry
  cases entry with
  | object fields =>
    dsimp only
    split_ifs with mark legend select
    · exact follows_readMark catalog fields
    · exact follows_readLegend catalog (Option.not_isSome_iff_eq_none.1 mark)
    · exact follows_readInteractor catalog (Option.not_isSome_iff_eq_none.1 mark)
        (Option.not_isSome_iff_eq_none.1 legend)
    · exact follows_fail _
  | _ => exact follows_fail _

theorem follows_readPlot (catalog : Catalog) (fields : Fields) (items : List Json) :
    Follows context (fun scope => PlotEntry.MirrorPlot scope.Binds catalog fields items)
      (readPlot catalog fields items) (readPlot catalog fields items) := by
  unfold readPlot
  have stable (field : String × Json) :
      Stable fun scope => PlotEntry.MirrorsProperty scope.Binds catalog field :=
    fun extended _ => .mono extended.binds
  have stable' (entry : Json) : Stable fun scope => PlotEntry.Mirrors scope.Binds catalog entry :=
    fun extended _ => .mono extended.binds
  refine follows_bind (follows_mapM stable fun field _ _ => follows_readProperty catalog field)
    fun _ properties first => ?_
  refine follows_bind (follows_mapM stable' fun entry _ _ => follows_readEntry catalog entry)
    fun _ entries others => ?_
  -- the entries may have bound more names than the properties saw
  refine follows_pure _ (.mk ?_ others)
  exact first.imp fun field entry => stable field (Context.extends_bindAll _ _) entry

/-! ## Layouts and documents -/

theorem follows_readInput (rules : Rules) {fields : Fields} {name : String}
    (found : rules.content fields = .ok (.input name)) :
    Follows context (fun scope => Directive.Mirrors scope.Binds rules (.object fields))
      (readInput rules.catalog fields name) (readInput rules.catalog fields name) := by
  unfold readInput
  cases named : rules.catalog.inputs.lookup name with
  | none => exact follows_fail _
  | some type =>
    exact follows_map (follows_readOptions _) fun _ _ options => .input found named options

theorem follows_readNode (rules : Rules) (node : Json) :
    ∀ context, Follows context (fun scope => Directive.Mirrors scope.Binds rules node)
      (readNode rules node) (readNode rules node) := by
  induction node using Rules.induction rules with
  | other node other =>
    intro context
    rw [readNode_other rules other, readNode_other rules other]
    exact follows_fail _
  | object fields ih =>
    intro context
    have inside (items : List Json)
        (each : ∀ item ∈ items, ∀ context,
          Follows context (fun scope => Directive.Mirrors scope.Binds rules item)
            (readNode rules item) (readNode rules item)) :
        Follows context (fun scope => List.Forall₂ (Directive.Mirrors scope.Binds rules) items)
          (readNodes rules items) (readNodes rules items) := by
      have stable (item : Json) : Stable fun scope => Directive.Mirrors scope.Binds rules item :=
        fun extended _ => .mono extended.binds
      rw [readNodes_eq, readNodes_eq]
      exact follows_mapM stable each
    rw [readNode_object, readNode_object]
    cases found : rules.content fields with
    | error e => exact follows_fail e
    | ok content =>
      have items := ih content found
      cases content with
      | plot items =>
        exact follows_map (follows_readPlot _ _ _) fun _ _ entries => .plot found entries
      | hconcat nodes =>
        exact follows_map (inside nodes items) fun _ _ trees => .hconcat found trees
      | vconcat nodes =>
        exact follows_map (inside nodes items) fun _ _ trees => .vconcat found trees
      | hspace size => exact follows_pure _ (.hspace found)
      | vspace size => exact follows_pure _ (.vspace found)
      | input name => exact follows_readInput rules found

theorem follows_readParam (params : Table (Json → Live)) (entry : String × Json) :
    Follows context (fun _ _ => True) (readParam params entry : Reading Unit)
      (readParam params entry) := by
  unfold readParam
  dsimp only
  cases (paramDefinition entry.2).1.bind fun kind => params.lookup kind with
  | none => exact follows_fail _
  | some construct => exact follows_map (follows_meet _) fun _ _ _ => trivial

theorem follows_readParams (catalog : Catalog) (params : Json) :
    Follows context (fun _ _ => True) (readParams catalog params : Reading Unit)
      (readParams catalog params) := by
  unfold readParams
  cases params with
  | null => exact follows_pure () trivial
  | object entries =>
    exact follows_forM (fun entry _ => follows_readParam catalog.params entry) entries
  | _ => exact follows_fail _

theorem follows_readDocument (rules : Rules) (root : Fields) :
    Follows context (fun scope => Document.Mirrors scope.Binds rules root)
      (readDocument rules root) (readDocument rules root) := by
  unfold readDocument
  refine follows_bind (follows_readParams rules.catalog _) fun _ _ _ => ?_
  refine follows_bind (follows_readNode rules _ _) fun _ layout mirrors => ?_
  exact follows_pure _ ⟨rfl, mirrors⟩

end Dashboard
