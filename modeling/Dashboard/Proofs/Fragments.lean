import Dashboard.Catalog.Standard
import Dashboard.Proofs.Acceptance
import Dashboard.Proofs.Shuffling
/-!
# The fragment that an error blames

An error in a layout carries the part of the layout that is to blame: a node, an entry of a plot, a
single property, or the `data` of a mark. Read on its own, or in the least plot that can hold it,
the part is refused with the same error. What was bound before does not matter.
-/
namespace Dashboard

/-! ## Faults -/

namespace Visit

theorem Faultless.no_fault {visits : List Visit} (sound : Faultless visits) (e : DocumentError) :
    fault e ∉ visits := by
  intro inside
  cases sound _ inside

/-- The only fault of what is sound but for a demand. -/
theorem fault_mem_demand_append {α : Type} {found : Option α} {e e' : DocumentError}
    {visits : List Visit} (sound : Faultless visits) :
    fault e ∈ demand found e' ++ visits ↔ found = none ∧ e = e' := by
  rw [List.mem_append, or_iff_left (sound.no_fault e)]
  unfold demand
  cases found <;> simp

theorem fault_mem_ofProperty {catalog : Catalog} {field : String × Json} {e : DocumentError} :
    fault e ∈ ofProperty catalog field ↔
      catalog.attributes.lookup field.1 = none ∧ e = .unknownAttribute (.object [field]) := by
  apply fault_mem_demand_append
  split <;> simp

theorem fault_mem_ofMarkData {data : Json} {e : DocumentError}
    (inside : fault e ∈ ofMarkData data) :
    e = .wrongPropertyType "data" data ∧ (ofMarkData data).head? = some (fault e) := by
  unfold ofMarkData at inside ⊢
  cases data with
  | object fields =>
    obtain ⟨nameless, rfl⟩ := (fault_mem_demand_append (faultless_ofOptions _ _)).1 inside
    exact ⟨rfl, by simp [demand, nameless]⟩
  | _ =>
    obtain rfl : e = _ := by simpa using inside
    exact ⟨rfl, rfl⟩

/-- A fault in a mark is in its `data`, or else its type is unknown. -/
theorem fault_mem_ofMark {catalog : Catalog} {fields : Fields} {e : DocumentError}
    (inside : fault e ∈ ofMark catalog fields) :
    typeUnder? catalog.marks fields "mark" = none ∧ e = .unknownMark (.object fields) ∨
      ∃ data, fields.present? "data" = some data ∧ fault e ∈ ofMarkData data := by
  rw [ofMark, List.mem_append, List.mem_append] at inside
  obtain (inside | inside) | inside := inside
  · rw [← List.append_nil (demand _ _), fault_mem_demand_append faultless_nil] at inside
    exact .inl inside
  · exact .inr (by simpa using inside)
  · obtain ⟨field, -, inside⟩ := List.mem_flatMap.1 inside
    exact absurd inside ((faultless_ofChannel catalog.transforms field.2).no_fault e)

end Visit

/-! ## The least plot -/

/-- A plot with some entries, and with some properties behind them. -/
def plotNode (items : List Json) (properties : Fields := []) : Json :=
  .object (("plot", .array items) :: properties)

/-- Where a node is a plot, a node is one that has no directive but a plot. -/
theorem Rules.content_of_plot_alone {rules : Rules} {fields fields' : Fields}
    {items items' : List Json} (found : rules.content fields = .ok (.plot items))
    (here : fields'.lookup "plot" = some (.array items'))
    (alone : ∀ kind ∈ rules.catalog.directives, (fields'.present? kind.key).isSome →
      kind = .plot) :
    rules.content fields' = .ok (.plot items') := by
  obtain ⟨kind, others, matching, single, decides⟩ := content_eq_ok.1 found
  obtain ⟨value, there, fits⟩ := Option.bind_eq_some_iff.1 decides
  obtain rfl : kind = .plot := DirectiveKind.eq_kind fits
  have present : (fields.present? DirectiveKind.plot.key).isSome := by
    have first : DirectiveKind.plot ∈ rules.matching fields := by simp [matching]
    exact (List.mem_filter.1 first).2
  have present' : (fields'.present? DirectiveKind.plot.key).isSome := by
    rw [Fields.present?, DirectiveKind.key, here]
    rfl
  -- what matches now has matched before
  have fewer : rules.matching fields' =
      (rules.matching fields).filter fun kind => (fields'.present? kind.key).isSome := by
    unfold Rules.matching
    rw [List.filter_filter]
    apply List.filter_congr
    intro kind listed
    by_cases has : (fields'.present? kind.key).isSome
    · obtain rfl := alone kind listed has
      simp [present, present']
    · simp [has]
  rw [matching, List.filter_cons] at fewer
  rw [if_pos present'] at fewer
  refine content_eq_ok.2 ⟨_, _, fewer, ?_, ?_⟩
  · rintro ⟨strict, more⟩
    apply single
    refine ⟨strict, ?_⟩
    rintro rfl
    exact more rfl
  · rw [DirectiveKind.key, here]
    rfl

theorem DirectiveKind.key_injective : Function.Injective DirectiveKind.key := by
  intro kind kind' same
  cases kind <;> cases kind' <;> simp_all [DirectiveKind.key]

/-- Where a node is a plot, the least plot shows its properties and entries and nothing else. -/
theorem Visit.ofNode_plotNode {rules : Rules} {fields : Fields} {items : List Json}
    (found : rules.content fields = .ok (.plot items)) (items' : List Json) {properties : Fields}
    (free : ∀ field ∈ properties, field.1 ∉ rules.catalog.directives.map (·.key)) :
    ofNode rules (plotNode items' properties) =
      properties.flatMap (ofProperty rules.catalog) ++ items'.flatMap (ofEntry rules.catalog) := by
  have listed : DirectiveKind.plot ∈ rules.catalog.directives := Rules.kind_mem_directives found
  have content : rules.content (("plot", .array items') :: properties) = .ok (.plot items') := by
    apply Rules.content_of_plot_alone found rfl
    intro kind listed present
    obtain ⟨value, present⟩ := Option.isSome_iff_exists.1 present
    obtain ⟨there, -⟩ := Fields.present?_eq_some.1 present
    have inside : (kind.key, value) ∈ ("plot", Json.array items') :: properties := by
      obtain ⟨before, after, split, -⟩ := List.lookup_eq_some_iff.1 there
      simp [split]
    obtain same | inside := List.mem_cons.1 inside
    · exact DirectiveKind.key_injective (Prod.mk.inj same).1
    · exact absurd (List.mem_map_of_mem listed) (free _ inside)
  have kept : Table.without (("plot", .array items') :: properties)
      (rules.catalog.directives.map (·.key)) = properties := by
    have reserved : "plot" ∈ rules.catalog.directives.map (·.key) :=
      List.mem_map_of_mem (f := (·.key)) listed
    rw [Table.without, List.filter_cons, if_neg (by simpa using reserved)]
    rw [List.filter_eq_self]
    intro field inside
    simpa using free field inside
  rw [plotNode, ofNode_object, content]
  simp only [ofPlot, kept]

/-! ## Failing again -/

/-- Interpreting the node fails with this error, whatever was interpreted before. -/
def Rules.FailsOn (rules : Rules) (node : Json) (e : DocumentError) : Prop :=
  ∀ session : Session, session.rules = rules → (session.interpret node).outcome = .error e

/-- The fragment of an error gives the error again: a node on its own, and what is found in a plot
in a plot that has nothing else. -/
def DocumentError.Reproduced (rules : Rules) (e : DocumentError) : Prop :=
  match e with
  | .notALayout fragment => rules.FailsOn fragment e
  | .ambiguousLayout _ fragment => rules.FailsOn fragment e
  | .unknownInput fragment => rules.FailsOn fragment e
  | .wrongPropertyType key fragment =>
    (key ∈ rules.catalog.directives.map (·.key) ∧ rules.FailsOn fragment e) ∨
    (key = "data" ∧ ∀ mark ∈ rules.catalog.marks.names,
      rules.FailsOn (plotNode [.object [("mark", .string mark), ("data", fragment)]]) e)
  | .unknownMark fragment => rules.FailsOn (plotNode [fragment]) e
  | .unknownLegend fragment => rules.FailsOn (plotNode [fragment]) e
  | .unknownInteractor fragment => rules.FailsOn (plotNode [fragment]) e
  | .notAPlotEntry fragment => rules.FailsOn (plotNode [fragment]) e
  | .unknownAttribute fragment =>
    ∃ key value, fragment = .object [(key, value)] ∧
      rules.FailsOn (plotNode [] [(key, value)]) e
  -- a layout has no data section and no params, and it is no text
  | .unknownFormat _ => False
  | .unknownParamType _ => False
  | .notJson _ => False

theorem reports_interpret (session : Session) (node : Json) :
    Reports (Visit.ofNode session.rules node) (session.interpret node).outcome :=
  (follows_readNode session.rules node session.toContext).outcome.reports
    (along_readNode session.rules node).reports

section Failing
variable {rules : Rules} {e : DocumentError}

/-- A node fails with a fault that is met first. -/
theorem failsOn_of_first {node : Json}
    (first : (Visit.ofNode rules node).head? = some (.fault e)) : rules.FailsOn node e := by
  rintro session rfl
  have reports := reports_interpret session node
  obtain ⟨later, visits⟩ := List.head?_eq_some_iff.1 first
  rw [reports.error_iff, visits]
  rfl

/-- A node whose content is refused fails on its own. -/
theorem reproduced_of_content {fields : Fields} (refused : rules.content fields = .error e) :
    e.Reproduced rules := by
  have fails : rules.FailsOn (.object fields) e := by
    apply failsOn_of_first
    rw [Visit.ofNode_object, refused]
    rfl
  unfold Rules.content at refused
  cases matching : rules.matching fields with
  | nil =>
    simp only [matching] at refused
    cases refused
    exact fails
  | cons kind others =>
    simp only [matching] at refused
    split at refused
    · cases refused
      exact fails
    · split at refused
      · cases refused
      · cases refused
        have listed : kind ∈ rules.catalog.directives := by
          have first : kind ∈ rules.matching fields := by simp [matching]
          exact List.mem_of_mem_filter first
        exact .inl ⟨List.mem_map_of_mem listed, fails⟩

/-- An input of an unknown type fails on its own. -/
theorem reproduced_of_input {fields : Fields} {name : String}
    (found : rules.content fields = .ok (.input name))
    (inside : .fault e ∈ Visit.ofInput rules.catalog fields name) : e.Reproduced rules := by
  obtain ⟨unknown, rfl⟩ :=
    (Visit.fault_mem_demand_append (Visit.faultless_ofOptions fields ["input"])).1 inside
  apply failsOn_of_first
  simp [Visit.ofNode_object, found, Visit.ofInput, Visit.demand, unknown]

end Failing

section Plots
variable {rules : Rules} {fields : Fields} {items : List Json} {e : DocumentError}
  (found : rules.content fields = .ok (.plot items))
include found

/-- A plot of one entry fails with a fault that is met first in the entry. -/
theorem failsOn_plotNode {entry : Json}
    (first : (Visit.ofEntry rules.catalog entry).head? = some (.fault e)) :
    rules.FailsOn (plotNode [entry]) e := by
  apply failsOn_of_first
  rw [Visit.ofNode_plotNode found [entry] (List.forall_mem_nil _), List.flatMap_singleton]
  exact first

theorem reproduced_of_property {field : String × Json}
    (free : field.1 ∉ rules.catalog.directives.map (·.key))
    (inside : .fault e ∈ Visit.ofProperty rules.catalog field) : e.Reproduced rules := by
  obtain ⟨unknown, rfl⟩ := Visit.fault_mem_ofProperty.1 inside
  refine ⟨field.1, field.2, rfl, failsOn_of_first ?_⟩
  have alone : ∀ other ∈ [field], other.1 ∉ rules.catalog.directives.map (·.key) := by
    simpa using free
  rw [Visit.ofNode_plotNode found [] alone, List.flatMap_singleton, Visit.ofProperty, unknown]
  rfl

theorem reproduced_of_mark {entry : Fields} (mark : (entry.present? "mark").isSome)
    (inside : .fault e ∈ Visit.ofMark rules.catalog entry) : e.Reproduced rules := by
  obtain ⟨unknown, rfl⟩ | ⟨data, present, inside⟩ := Visit.fault_mem_ofMark inside
  · apply failsOn_plotNode found
    rw [Visit.ofEntry, if_pos mark, Visit.ofMark, unknown]
    rfl
  · obtain ⟨rfl, first⟩ := Visit.fault_mem_ofMarkData inside
    obtain ⟨-, notNull⟩ := Fields.present?_eq_some.1 present
    refine .inr ⟨rfl, fun name known => failsOn_plotNode found ?_⟩
    -- the mark is known, so its `data` is looked at first
    have type : (typeUnder? rules.catalog.marks [("mark", .string name), ("data", data)]
        "mark").isSome := Table.mem_names.1 known
    have there : Fields.present? [("mark", .string name), ("data", data)] "data" = some data :=
      Fields.present?_eq_some.2 ⟨rfl, notNull⟩
    have isMark : (Fields.present? [("mark", .string name), ("data", data)] "mark").isSome := rfl
    rw [Visit.ofEntry, if_pos isMark, Visit.ofMark, Visit.demand, if_pos type, there]
    simp [List.head?_append, first]

theorem reproduced_of_entry {entry : Json}
    (inside : .fault e ∈ Visit.ofEntry rules.catalog entry) : e.Reproduced rules := by
  unfold Visit.ofEntry at inside
  cases entry with
  | object fields =>
    dsimp only at inside
    split_ifs at inside with mark legend select
    · exact reproduced_of_mark found mark inside
    · obtain ⟨unknown, rfl⟩ :=
        (Visit.fault_mem_demand_append (Visit.faultless_ofOptions fields ["legend"])).1 inside
      apply failsOn_plotNode found
      rw [Visit.ofEntry, if_neg mark, if_pos legend, Visit.ofLegend, unknown]
      rfl
    · obtain ⟨unknown, rfl⟩ :=
        (Visit.fault_mem_demand_append (Visit.faultless_ofOptions fields ["select"])).1 inside
      apply failsOn_plotNode found
      rw [Visit.ofEntry, if_neg mark, if_neg legend, if_pos select, Visit.ofInteractor, unknown]
      rfl
    · obtain rfl : e = .notAPlotEntry (.object fields) := by simpa using inside
      apply failsOn_plotNode found
      rw [Visit.ofEntry, if_neg mark, if_neg legend, if_neg select]
      rfl
  | _ =>
    obtain rfl : e = _ := by simpa using inside
    exact failsOn_plotNode found rfl

end Plots

theorem reproduced_of_node {rules : Rules} {e : DocumentError} (node : Json) :
    .fault e ∈ Visit.ofNode rules node → e.Reproduced rules := by
  induction node using Rules.induction rules with
  | other node other =>
    rw [Visit.ofNode_other rules other]
    intro inside
    obtain rfl : e = .notALayout node := by simpa using inside
    exact failsOn_of_first (by rw [Visit.ofNode_other rules other]; rfl)
  | object fields ih =>
    rw [Visit.ofNode_object]
    cases found : rules.content fields with
    | error e' =>
      intro inside
      obtain rfl : e = e' := by simpa using inside
      exact reproduced_of_content found
    | ok content =>
      have items := ih content found
      have among (nodes : List Json)
          (each : ∀ item ∈ nodes, .fault e ∈ Visit.ofNode rules item → e.Reproduced rules)
          (inside : .fault e ∈ Visit.ofNodes rules nodes) : e.Reproduced rules := by
        rw [Visit.ofNodes_eq] at inside
        obtain ⟨item, listed, inside⟩ := List.mem_flatMap.1 inside
        exact each item listed inside
      cases content with
      | plot entries =>
        intro inside
        obtain inside | inside := List.mem_append.1 inside
        · obtain ⟨field, listed, inside⟩ := List.mem_flatMap.1 inside
          have free := (List.mem_filter.1 listed).2
          exact reproduced_of_property found (by simpa using free) inside
        · obtain ⟨entry, listed, inside⟩ := List.mem_flatMap.1 inside
          exact reproduced_of_entry found inside
      | hconcat nodes => exact among nodes items
      | vconcat nodes => exact among nodes items
      | hspace size => exact nofun
      | vspace size => exact nofun
      | input name => exact reproduced_of_input found

/-- Interpreting the fragment of an error, in whatever has been interpreted before by the same
rules, fails with the same error: the fragment as it is if it is a node, and otherwise the least plot
that has it as an entry, as a property, or as the `data` of any mark. -/
theorem fragment_reproduces_error (session : Session) (node : Json) {e : DocumentError}
    (failed : (session.interpret node).outcome = .error e) : e.Reproduced session.rules := by
  have first := ((reports_interpret session node).error_iff e).1 failed
  obtain ⟨visit, inside, isFault⟩ := List.exists_of_findSome?_eq_some first
  cases visit with
  | reference ref => cases isFault
  | fault e' =>
    obtain rfl := Option.some.inj isFault
    exact reproduced_of_node node inside

/-- The `data` of a mark deep in a layout names no table. It is as bad for a line, in a session in
which its selection is bound. -/
theorem fragment_reproduces_error_of_data :
    let rules : Rules := { catalog := Standard.catalog }
    let data : Json := .object [("filterBy", .string "$brush")]
    let node : Json := .object [("hconcat", .array [.object [("hspace", .string "5")],
      plotNode [.object [("data", data), ("x", .string "$x"), ("mark", .string "dot")]]
        [("width", .string "$w")]])]
    let e : DocumentError := .wrongPropertyType "data" data
    let elsewhere : Session := { rules, scope := Scope.bind {} ⟨"brush", freshSelection⟩ }
    (({ rules } : Session).interpret node).outcome = .error e ∧
      (elsewhere.interpret
        (plotNode [.object [("mark", .string "line"), ("data", data)]])).outcome = .error e := by
  intro rules data node e elsewhere
  have failed : (({ rules } : Session).interpret node).outcome = .error e := by
    have outer : ∀ items, rules.content [("hconcat", .array items)] = .ok (.hconcat items) :=
      fun _ => rfl
    show (Interpreting.runIn (readNode rules node) {}).1 = _
    simp only [node, plotNode, readNode_object, outer, readNodes_eq, List.mapM_cons, List.mapM_nil]
    rfl
  obtain ⟨notListed, -⟩ | ⟨-, anyMark⟩ := fragment_reproduces_error { rules } node failed
  · exact absurd notListed (by decide)
  · exact ⟨failed, anyMark "line" (by decide) elsewhere rfl⟩

end Dashboard
