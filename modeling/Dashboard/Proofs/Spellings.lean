import Dashboard.Catalog.Standard
import Dashboard.Proofs.Shuffling
import Dashboard.Session
/-!
# Two spellings of a reference

A reference may be written as a text or as an object. Where values are resolved the two say the
same: in the properties of plots, in the channels and the data of marks, and in the options of
legends, interactors and inputs. A document in which any of these values are respelled is read in
lockstep with the document.

In channels transforms come first, so an object could be taken for a transform that is called
`param`; catalogs with such a transform are left out.
-/
namespace Dashboard

/-- A value, or the other spelling of a reference. -/
inductive Json.Respelled : Json → Json → Prop
  | same (value : Json) : Respelled value value
  | asObject {name : String} :
      name ≠ "" → Respelled (.string ("$" ++ name)) (.object [("param", .string name)])
  | asText {name : String} :
      name ≠ "" → Respelled (.object [("param", .string name)]) (.string ("$" ++ name))

/-- Fields whose values may be respelled, but for those of some keys. -/
inductive Fields.Respelled (kept : List String) : Fields → Fields → Prop
  | nil : Respelled kept [] []
  | same (field : String × Json) {fields fields' : Fields} :
      Respelled kept fields fields' → Respelled kept (field :: fields) (field :: fields')
  | value {key : String} {value value' : Json} {fields fields' : Fields} :
      key ∉ kept → value.Respelled value' → Respelled kept fields fields' →
      Respelled kept ((key, value) :: fields) ((key, value') :: fields')

/-- Entries of plots. In a mark, the data may be respelled before the channels are. -/
inductive RespelledEntry : Json → Json → Prop
  | same (entry : Json) : RespelledEntry entry entry
  | mark {fields fields' : Fields} :
      (fields.present? "mark").isSome → fields.Respelled ["mark", "data"] fields' →
      RespelledEntry (.object fields) (.object fields')
  | markData {fields fields' source source' : Fields} :
      (fields.present? "mark").isSome → fields.lookup "data" = some (.object source) →
      source.Respelled ["from"] source' →
      Fields.Respelled ["mark", "data"] (fields.put "data" (.object source')) fields' →
      RespelledEntry (.object fields) (.object fields')
  | legend {fields fields' : Fields} :
      fields.present? "mark" = none → (fields.present? "legend").isSome →
      fields.Respelled ["legend"] fields' → RespelledEntry (.object fields) (.object fields')
  | interactor {fields fields' : Fields} :
      fields.present? "mark" = none → fields.present? "legend" = none →
      (fields.present? "select").isSome → fields.Respelled ["select"] fields' →
      RespelledEntry (.object fields) (.object fields')

/-- Layout nodes. In a plot, the entries may be respelled before the properties are. -/
inductive Catalog.Respelled (catalog : Catalog) : Json → Json → Prop
  | same (node : Json) : Respelled catalog node node
  | plot {fields fields' : Fields} {items items' : List Json} :
      catalog.lenient.content fields = .ok (.plot items) →
      List.Forall₂ RespelledEntry items items' →
      Fields.Respelled (catalog.directives.map (·.key)) (fields.put "plot" (.array items'))
        fields' →
      Respelled catalog (.object fields) (.object fields')
  | hconcat {fields : Fields} {nodes nodes' : List Json} :
      catalog.lenient.content fields = .ok (.hconcat nodes) →
      List.Forall₂ (Respelled catalog) nodes nodes' →
      Respelled catalog (.object fields) (.object (fields.put "hconcat" (.array nodes')))
  | vconcat {fields : Fields} {nodes nodes' : List Json} :
      catalog.lenient.content fields = .ok (.vconcat nodes) →
      List.Forall₂ (Respelled catalog) nodes nodes' →
      Respelled catalog (.object fields) (.object (fields.put "vconcat" (.array nodes')))
  | input {fields fields' : Fields} {name : String} :
      catalog.lenient.content fields = .ok (.input name) → fields.Respelled ["input"] fields' →
      Respelled catalog (.object fields) (.object fields')

/-- Documents with the same sections and a respelled layout. -/
inductive Catalog.RespelledDocument (catalog : Catalog) : Json → Json → Prop
  | same (root : Json) : RespelledDocument catalog root root
  | layout {root root' : Fields} :
      (∀ key ∈ documentKeys, root.lookup key = root'.lookup key) →
      catalog.Respelled (layoutOf root) (layoutOf root') →
      RespelledDocument catalog (.object root) (.object root')

/-! ## Values -/

theorem referenceName?_text {name : String} (named : name ≠ "") :
    referenceName? (.string ("$" ++ name)) = some name := by
  have spelled : ("$" ++ name).toList = '$' :: name.toList := by
    rw [String.toList_append]
    rfl
  cases letters : name.toList with
  | nil => exact absurd (String.toList_eq_nil_iff.1 letters) named
  | cons c cs =>
    simp only [referenceName?, spelled, letters]
    rw [← letters, String.ofList_toList]

theorem text_ne_fixedMarker (name : String) : "$" ++ name ≠ fixedMarker := by
  intro same
  have letters := congrArg String.toList same
  rw [String.toList_append] at letters
  exact absurd (List.cons.inj letters).1 (by decide)

namespace Json.Respelled
variable {value value' : Json} (h : value.Respelled value')
include h

theorem isNull : value.isNull = value'.isNull := by
  cases h <;> rfl

/-- Values of different spelling refer to the same name. -/
theorem eq_or_named :
    value = value' ∨ ∃ name, referenceName? value = some name ∧
      referenceName? value' = some name := by
  cases h with
  | same => exact .inl rfl
  | asObject named => exact .inr ⟨_, referenceName?_text named, rfl⟩
  | asText named => exact .inr ⟨_, rfl, referenceName?_text named⟩

theorem readValue {ρ : Type} {m : Type → Type} [Reader ρ m] (initial : Live) :
    (Dashboard.readValue initial value : m (Resolved ρ)) = Dashboard.readValue initial value' := by
  obtain rfl | ⟨name, named, named'⟩ := h.eq_or_named
  · rfl
  · simp only [Dashboard.readValue, named, named']

theorem isFixed : value.string? = some fixedMarker ↔ value'.string? = some fixedMarker := by
  cases h with
  | same => exact .rfl
  | asObject _ => exact iff_of_false (fun same => text_ne_fixedMarker _ (Option.some.inj same)) nofun
  | asText _ => exact iff_of_false nofun fun same => text_ne_fixedMarker _ (Option.some.inj same)

theorem transform? {transforms : Table (List Json → Expression)}
    (plain : transforms.lookup "param" = none) :
    transform? transforms value = transform? transforms value' := by
  have object (name : String) :
      Dashboard.transform? transforms (.object [("param", .string name)]) = none := by
    show (transforms.lookup "param").map _ = none
    rw [plain, Option.map_none]
  cases h with
  | same => rfl
  | asObject _ => rw [object]; rfl
  | asText _ => rw [object]; rfl

end Json.Respelled

/-! ## Fields -/

namespace Fields.Respelled
variable {kept : List String} {fields fields' : Fields} (h : fields.Respelled kept fields')
include h

theorem lookup (key : String) :
    Option.Rel Json.Respelled (fields.lookup key) (fields'.lookup key) := by
  induction h with
  | nil => exact .none
  | same field _ ih =>
    rw [Table.lookup_cons, Table.lookup_cons]
    split
    · exact .some (.same _)
    · exact ih
  | value _ respelled _ ih =>
    rw [Table.lookup_cons, Table.lookup_cons]
    split
    · exact .some respelled
    · exact ih

theorem lookup_of_kept {key : String} (inside : key ∈ kept) :
    fields.lookup key = fields'.lookup key := by
  induction h with
  | nil => rfl
  | same field _ ih => rw [Table.lookup_cons, Table.lookup_cons, ih]
  | @value moved _ _ _ _ outside _ _ ih =>
    have other : key ≠ moved := by
      rintro rfl
      exact outside inside
    rw [Table.lookup_cons, Table.lookup_cons, if_neg other, if_neg other, ih]

theorem present (key : String) :
    (fields.present? key).isSome = (fields'.present? key).isSome := by
  have values := h.lookup key
  unfold Fields.present?
  generalize fields.lookup key = found, fields'.lookup key = found' at values
  cases values with
  | none => rfl
  | some respelled =>
    rw [Option.filter_some, Option.filter_some, respelled.isNull]
    split <;> rfl

theorem absent {key : String} (none : fields.present? key = none) :
    fields'.present? key = Option.none := by
  rw [← Option.not_isSome_iff_eq_none, ← h.present key, none]
  exact nofun

theorem without : List.Forall₂
    (fun field field' => field.1 = field'.1 ∧ field.2.Respelled field'.2)
    (fields.without kept) (fields'.without kept) := by
  induction h with
  | nil => exact .nil
  | same field _ ih =>
    rw [Table.without_cons, Table.without_cons]
    split
    · exact ih
    · exact .cons ⟨rfl, .same _⟩ ih
  | value outside respelled _ ih =>
    rw [Table.without_cons, Table.without_cons, if_neg outside, if_neg outside]
    exact .cons ⟨rfl, respelled⟩ ih

end Fields.Respelled

/-! ## Readers in lockstep -/

theorem lockstep_readFields {read : Json → Interpreting (Resolved Handle)} {fields fields' : Fields}
    (same : ∀ value value', value.Respelled value' → read value = read value')
    (h : List.Forall₂ (fun field field' => field.1 = field'.1 ∧ field.2.Respelled field'.2)
      fields fields') : Lockstep Eq (readFields read fields) (readFields read fields') := by
  apply Lockstep.eq_of_forall₂
  refine lockstep_mapM h fun field _ field' respelled => ?_
  obtain ⟨key, value⟩ := respelled
  dsimp only
  rw [key, same _ _ value]
  exact lockstep_refl _

theorem lockstep_readOptions {kept : List String} {fields fields' : Fields}
    (h : fields.Respelled kept fields') :
    Lockstep Eq (readOptions (fields.without kept)) (readOptions (fields'.without kept)) :=
  lockstep_readFields (fun _ _ value => value.readValue freshSelection) h.without

section Entries
variable {catalog : Catalog} {fields fields' source source' : Fields}

theorem lockstep_readMarkData (h : source.Respelled ["from"] source') :
    Lockstep Eq (readMarkData (.object source)) (readMarkData (.object source')) := by
  have table : source.string? "from" = source'.string? "from" :=
    Fields.string?_congr (h.lookup_of_kept List.mem_cons_self)
  unfold readMarkData
  dsimp only
  rw [← table]
  cases source.string? "from" with
  | none => exact lockstep_fail rfl
  | some table => exact lockstep_map (lockstep_readOptions h) fun _ _ => congrArg _

theorem lockstep_readData (here : fields.lookup "data" = some (.object source))
    (here' : fields'.lookup "data" = some (.object source'))
    (h : source.Respelled ["from"] source') :
    Lockstep Eq (readData fields) (readData fields') := by
  have present : fields.present? "data" = some (.object source) :=
    Fields.present?_eq_some.2 ⟨here, nofun⟩
  have present' : fields'.present? "data" = some (.object source') :=
    Fields.present?_eq_some.2 ⟨here', nofun⟩
  unfold readData
  rw [present, present']
  exact lockstep_map (lockstep_readMarkData h) fun _ _ => congrArg _

theorem lockstep_readMark (plain : catalog.transforms.lookup "param" = none)
    (mark : fields.lookup "mark" = fields'.lookup "mark")
    (data : Lockstep Eq (readData fields) (readData fields'))
    (channels : List.Forall₂ (fun field field' => field.1 = field'.1 ∧ field.2.Respelled field'.2)
      (fields.without ["mark", "data"]) (fields'.without ["mark", "data"])) :
    Lockstep Eq (readMark catalog fields) (readMark catalog fields') := by
  have same (value value' : Json) (h : value.Respelled value') :
      (readChannel catalog.transforms value : Interpreting (Resolved Handle)) =
        readChannel catalog.transforms value' := by
    unfold readChannel
    rw [h.transform? plain, h.readValue]
  unfold readMark
  rw [typeUnder?_congr mark]
  cases typeUnder? catalog.marks fields' "mark" with
  | none => exact lockstep_fail rfl
  | some type =>
    refine lockstep_bind data fun data _ same_data => ?_
    refine lockstep_bind (lockstep_readFields same channels) fun options _ same_options => ?_
    rw [same_data, same_options]
    exact lockstep_refl _

theorem lockstep_readLegend (h : fields.Respelled ["legend"] fields') :
    Lockstep Eq (readLegend catalog fields) (readLegend catalog fields') := by
  unfold readLegend
  rw [legendType?_congr (h.lookup_of_kept List.mem_cons_self)]
  cases legendType? catalog fields' with
  | none => exact lockstep_fail rfl
  | some type => exact lockstep_map (lockstep_readOptions h) fun _ _ => congrArg _

theorem lockstep_readInteractor (h : fields.Respelled ["select"] fields') :
    Lockstep Eq (readInteractor catalog fields) (readInteractor catalog fields') := by
  unfold readInteractor
  rw [typeUnder?_congr (h.lookup_of_kept List.mem_cons_self)]
  cases typeUnder? catalog.interactors fields' "select" with
  | none => exact lockstep_fail rfl
  | some type => exact lockstep_map (lockstep_readOptions h) fun _ _ => congrArg _

theorem readEntry_mark (mark : (fields.present? "mark").isSome) :
    (readEntry catalog (.object fields) : Interpreting (PlotEntry Handle)) =
      readMark catalog fields :=
  if_pos mark

theorem readEntry_legend (noMark : fields.present? "mark" = none)
    (legend : (fields.present? "legend").isSome) :
    (readEntry catalog (.object fields) : Interpreting (PlotEntry Handle)) =
      readLegend catalog fields := by
  rw [readEntry, noMark]
  exact if_pos legend

theorem readEntry_interactor (noMark : fields.present? "mark" = none)
    (noLegend : fields.present? "legend" = none) (select : (fields.present? "select").isSome) :
    (readEntry catalog (.object fields) : Interpreting (PlotEntry Handle)) =
      readInteractor catalog fields := by
  rw [readEntry, noMark, noLegend]
  exact if_pos select

theorem lockstep_readEntry (plain : catalog.transforms.lookup "param" = none) {entry entry' : Json}
    (h : RespelledEntry entry entry') :
    Lockstep Eq (readEntry catalog entry) (readEntry catalog entry') := by
  cases h with
  | same => exact lockstep_refl _
  | mark mark respelled =>
    rw [readEntry_mark mark, readEntry_mark (respelled.present "mark" ▸ mark)]
    apply lockstep_readMark plain (respelled.lookup_of_kept (by decide))
    · unfold readData
      rw [Fields.present?_congr (respelled.lookup_of_kept (by decide))]
      exact lockstep_refl _
    · exact respelled.without
  | @markData fields fields' source source' mark here sources respelled =>
    have type : fields.lookup "mark" = fields'.lookup "mark" := by
      rw [← respelled.lookup_of_kept (by decide), Table.lookup_put, if_neg (by decide)]
    have here' : fields'.lookup "data" = some (.object source') := by
      rw [← respelled.lookup_of_kept (by decide), Table.lookup_put, if_pos rfl]
    have channels := respelled.without
    rw [Table.without_put_of_mem (by decide)] at channels
    rw [readEntry_mark mark, readEntry_mark (Fields.present?_congr type ▸ mark)]
    exact lockstep_readMark plain type (lockstep_readData here here' sources) channels
  | legend noMark legend respelled =>
    rw [readEntry_legend noMark legend,
      readEntry_legend (respelled.absent noMark) (respelled.present "legend" ▸ legend)]
    exact lockstep_readLegend respelled
  | interactor noMark noLegend select respelled =>
    rw [readEntry_interactor noMark noLegend select,
      readEntry_interactor (respelled.absent noMark) (respelled.absent noLegend)
        (respelled.present "select" ▸ select)]
    exact lockstep_readInteractor respelled

theorem lockstep_readProperty {field field' : String × Json} (key : field.1 = field'.1)
    (value : field.2.Respelled field'.2) :
    Lockstep Eq (readProperty catalog field) (readProperty catalog field') := by
  have same : (readPropertyValue field.2 : Interpreting (Resolved Handle)) =
      readPropertyValue field'.2 := by
    unfold readPropertyValue
    rw [value.readValue]
    simp only [value.isFixed]
  unfold readProperty
  rw [key, same]
  cases catalog.attributes.lookup field'.1 with
  | none => exact lockstep_fail rfl
  | some name => exact lockstep_refl _

theorem lockstep_readPlot (plain : catalog.transforms.lookup "param" = none)
    {items items' : List Json} (entries : List.Forall₂ RespelledEntry items items')
    (properties : List.Forall₂
      (fun field field' => field.1 = field'.1 ∧ field.2.Respelled field'.2)
      (fields.without (catalog.directives.map (·.key)))
      (fields'.without (catalog.directives.map (·.key)))) :
    Lockstep Eq (readPlot catalog fields items) (readPlot catalog fields' items') := by
  unfold readPlot
  refine lockstep_bind (Lockstep.eq_of_forall₂ ?_) fun as _ same => ?_
  · exact lockstep_mapM properties fun field _ field' respelled =>
      lockstep_readProperty respelled.1 respelled.2
  refine lockstep_bind (Lockstep.eq_of_forall₂ ?_) fun bs _ same' => ?_
  · exact lockstep_mapM entries fun entry _ entry' respelled => lockstep_readEntry plain respelled
  rw [same, same']
  exact lockstep_refl _

end Entries

/-! ## Layouts -/

theorem Fields.Respelled.refl (kept : List String) (fields : Fields) :
    fields.Respelled kept fields := by
  induction fields with
  | nil => exact .nil
  | cons field fields ih => exact .same field ih

/-- With other items under the deciding key a node is still of its kind, however its other fields
are spelled. -/
theorem Rules.content_of_items (rules : Rules) {fields fields' : Fields}
    {content content' : NodeContent} {value' : Json} {kept : List String}
    (found : rules.catalog.lenient.content fields = .ok content)
    (fits' : content.kind.content? value' = some content') (inside : content.kind.key ∈ kept)
    (respelled : Fields.Respelled kept (fields.put content.kind.key value') fields') :
    rules.content fields = .ok content ∧ rules.content fields' = .ok content' ∨
      ∃ e e', rules.content fields = .error e ∧ rules.content fields' = .error e' ∧
        e.withoutFragment = e'.withoutFragment := by
  obtain ⟨value, here, fits⟩ := Rules.lookup_of_content found
  have here' : fields'.lookup content.kind.key = some value' := by
    rw [← respelled.lookup_of_kept inside, Table.lookup_put, if_pos rfl]
  apply rules.content_of_present found
  · intro kind
    rw [← respelled.present kind.key]
    unfold Fields.present?
    rw [Table.lookup_put]
    split
    · next decides =>
      rw [decides, here]
      simp [DirectiveKind.isNull_of_fits fits, DirectiveKind.isNull_of_fits fits']
    · rfl
  · rw [here']
    exact fits'

section Nodes
variable {rules : Rules}

theorem lockstep_refused {fields fields' : Fields} {e e' : DocumentError}
    (refused : rules.content fields = .error e) (refused' : rules.content fields' = .error e')
    (same : e.withoutFragment = e'.withoutFragment) :
    Lockstep Eq (readNode rules (.object fields)) (readNode rules (.object fields')) := by
  rw [readNode_object, readNode_object, refused, refused']
  exact lockstep_fail same

theorem lockstep_readNodes {nodes nodes' : List Json} {p : Json → Json → Prop}
    (respelled : List.Forall₂ p nodes nodes')
    (each : ∀ node ∈ nodes, ∀ node', p node node' →
      Lockstep Eq (readNode rules node) (readNode rules node')) :
    Lockstep Eq (readNodes rules nodes) (readNodes rules nodes') := by
  rw [readNodes_eq, readNodes_eq]
  exact (lockstep_mapM respelled each).eq_of_forall₂

theorem lockstep_readNode (plain : rules.catalog.transforms.lookup "param" = none) (node : Json) :
    ∀ node', rules.catalog.Respelled node node' →
      Lockstep Eq (readNode rules node) (readNode rules node') := by
  induction node using Rules.induction rules with
  | other node other =>
    intro node' h
    cases h with
    | same => exact lockstep_refl _
    | _ => exact absurd rfl (other _)
  | object fields ih =>
    intro node' h
    cases h with
    | same => exact lockstep_refl _
    | @plot _ fields' items items' found entries respelled =>
      have inside : "plot" ∈ rules.catalog.directives.map (·.key) :=
        List.mem_map_of_mem (Rules.kind_mem_directives found)
      have properties := respelled.without
      rw [Table.without_put_of_mem inside] at properties
      obtain ⟨found, found'⟩ | ⟨e, e', refused, refused', same⟩ :=
        rules.content_of_items found rfl inside respelled
      · rw [readNode_object, readNode_object, found, found']
        exact lockstep_map (lockstep_readPlot plain entries properties) fun _ _ => congrArg _
      · exact lockstep_refused refused refused' same
    | @hconcat _ nodes nodes' found items =>
      have fits' : DirectiveKind.hconcat.content? (.array nodes') = some (.hconcat nodes') := rfl
      have rest : Fields.Respelled ["hconcat"] (fields.put "hconcat" (.array nodes'))
          (fields.put "hconcat" (.array nodes')) := .refl _ _
      obtain ⟨found, found'⟩ | ⟨e, e', refused, refused', same⟩ :=
        rules.content_of_items found fits' List.mem_cons_self rest
      · rw [readNode_object, readNode_object, found, found']
        exact lockstep_map (lockstep_readNodes items (ih _ found)) fun _ _ => congrArg _
      · exact lockstep_refused refused refused' same
    | @vconcat _ nodes nodes' found items =>
      have fits' : DirectiveKind.vconcat.content? (.array nodes') = some (.vconcat nodes') := rfl
      have rest : Fields.Respelled ["vconcat"] (fields.put "vconcat" (.array nodes'))
          (fields.put "vconcat" (.array nodes')) := .refl _ _
      obtain ⟨found, found'⟩ | ⟨e, e', refused, refused', same⟩ :=
        rules.content_of_items found fits' List.mem_cons_self rest
      · rw [readNode_object, readNode_object, found, found']
        exact lockstep_map (lockstep_readNodes items (ih _ found)) fun _ _ => congrArg _
      · exact lockstep_refused refused refused' same
    | @input _ fields' name found respelled =>
      obtain ⟨value, here, fits⟩ := Rules.lookup_of_content found
      have here' : fields'.lookup "input" = some value := by
        rw [← respelled.lookup_of_kept List.mem_cons_self]
        exact here
      have fits' : (fields'.lookup "input").bind DirectiveKind.input.content? =
          some (.input name) := by
        rw [here']
        exact fits
      obtain ⟨found, found'⟩ | ⟨e, e', refused, refused', same⟩ :=
        rules.content_of_present found (fun kind => respelled.present kind.key) fits'
      · rw [readNode_object, readNode_object, found, found']
        dsimp only
        unfold readInput
        cases rules.catalog.inputs.lookup name with
        | none => exact lockstep_fail rfl
        | some type => exact lockstep_map (lockstep_readOptions respelled) fun _ _ => congrArg _
      · exact lockstep_refused refused refused' same

/-! ## Documents -/

theorem lockstep_document (plain : rules.catalog.transforms.lookup "param" = none)
    (engine : Engine) {root root' : Json} (h : rules.catalog.RespelledDocument root root') :
    Lockstep Eq (Interpreting.document rules engine root)
      (Interpreting.document rules engine root') := by
  cases h with
  | same => exact lockstep_refl _
  | @layout root root' sections layout =>
    have data : root.valueAt "data" = root'.valueAt "data" :=
      Fields.valueAt_congr (sections "data" (by decide))
    have params : root.valueAt "params" = root'.valueAt "params" :=
      Fields.valueAt_congr (sections "params" (by decide))
    unfold Interpreting.document
    dsimp only
    rw [data]
    refine lockstep_bind (lockstep_refl _) fun _ _ _ => ?_
    unfold readDocument
    rw [params, sections "meta" (by decide)]
    refine lockstep_bind (lockstep_refl _) fun _ _ _ => ?_
    refine lockstep_bind (lockstep_readNode plain _ _ layout) fun tree _ same => ?_
    rw [same]
    exact lockstep_refl _

end Nodes

/-- The two spellings of references are interchangeable: with any of them respelled, a document
submits the same statements, binds the same names in the same order to the same cells, and is
accepted exactly if it was, with the same tree with the same cells in it. An error differs at most
in the fragment that it quotes. -/
theorem spellings_interchangeable (session : Session)
    (plain : session.rules.catalog.transforms.lookup "param" = none) {root root' : Json}
    (respelled : session.rules.catalog.RespelledDocument root root') :
    let answered := session.interpretDocument root
    let answered' := session.interpretDocument root'
    answered'.effects = answered.effects ∧
    answered'.session.toContext = answered.session.toContext ∧
    (∀ document, answered'.outcome = .ok document ↔ answered.outcome = .ok document) ∧
    (∀ e, answered.outcome = .error e →
      ∃ e', answered'.outcome = .error e' ∧ e'.withoutFragment = e.withoutFragment) := by
  intro answered answered'
  obtain ⟨after, outcome⟩ := lockstep_document plain session.engine respelled
  have context : answered'.session.toContext = answered.session.toContext :=
    (after session.toContext).symm
  have ends : EndAlike Eq answered.outcome answered'.outcome := outcome session.toContext
  refine ⟨?_, context, fun document => ?_, fun e failed => ?_⟩
  · exact congrArg (fun context : Context => context.journal.drop session.journal.length) context
  · generalize answered.outcome = first, answered'.outcome = second at ends
    cases ends with
    | ok same => rw [same]
    | error _ => exact iff_of_false nofun nofun
  · rw [failed] at ends
    generalize answered'.outcome = second at ends
    cases ends with
    | error same => exact ⟨_, rfl, same.symm⟩

/-- A property, a channel and a filter are respelled, two of them as objects and one as a text. -/
theorem spellings_interchangeable_of_plot :
    let session : Session := { rules := { catalog := Standard.catalog } }
    let data : Fields := [("from", .string "t"), ("filterBy", .string "$brush")]
    let data' : Fields := [("from", .string "t"), ("filterBy", .object [("param", .string "brush")])]
    let mark : Fields := [("mark", .string "dot"), ("data", .object data),
      ("x", .object [("param", .string "column")])]
    let mark' : Fields := [("mark", .string "dot"), ("data", .object data'),
      ("x", .string "$column")]
    let root : Fields := [("plot", .array [.object mark]), ("width", .string "$width")]
    let root' : Fields :=
      [("plot", .array [.object mark']), ("width", .object [("param", .string "width")])]
    let answered := session.interpretDocument (.object root)
    let answered' := session.interpretDocument (.object root')
    session.rules.catalog.transforms.lookup "param" = none ∧
      session.rules.catalog.RespelledDocument (.object root) (.object root') ∧
      answered'.effects = answered.effects ∧
      ∀ document, answered'.outcome = .ok document ↔ answered.outcome = .ok document := by
  intro session data data' mark mark' root root' answered answered'
  have plain : session.rules.catalog.transforms.lookup "param" = none := rfl
  have object (name : String) (named : name ≠ "") :
      Json.Respelled (.string ("$" ++ name)) (.object [("param", .string name)]) := .asObject named
  have filter : data.Respelled ["from"] data' :=
    .same _ (.value (by decide) (object "brush" (by decide)) .nil)
  have text : Json.Respelled (.object [("param", .string "column")]) (.string ("$" ++ "column")) :=
    .asText (by decide)
  have channel : Fields.Respelled ["mark", "data"] (mark.put "data" (.object data')) mark' :=
    .same _ (.same _ (.value (by decide) text .nil))
  have entry : RespelledEntry (.object mark) (.object mark') := .markData rfl rfl filter channel
  have property : Fields.Respelled (Standard.catalog.directives.map (·.key))
      (root.put "plot" (.array [.object mark'])) root' :=
    .same _ (.value (by decide) (object "width" (by decide)) .nil)
  have content : Standard.catalog.lenient.content root = .ok (.plot [.object mark]) := rfl
  have layout : Standard.catalog.Respelled (layoutOf root) (layoutOf root') :=
    .plot content (.cons entry .nil) property
  have sections : ∀ key ∈ documentKeys, root.lookup key = root'.lookup key := by
    simp [documentKeys, root, root', Table.lookup_cons]
  have respelled : session.rules.catalog.RespelledDocument (.object root) (.object root') :=
    .layout sections layout
  obtain ⟨effects, -, outcome, -⟩ := spellings_interchangeable session plain respelled
  exact ⟨plain, respelled, effects, outcome⟩

end Dashboard
