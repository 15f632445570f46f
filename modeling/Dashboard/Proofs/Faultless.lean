import Dashboard.Proofs.Grammar
import Dashboard.Proofs.Traversal
import Mathlib.Tactic.SplitIfs
/-!
# Faultless layouts

A layout is in the grammar exactly if its traversal meets no fault.
-/
namespace Dashboard

/-! ## Names and keys -/

theorem Fields.has_string {fields : Fields} {key s : String}
    (h : fields.lookup key = some (.string s)) : fields.Has key :=
  ⟨_, h, nofun⟩

theorem typeUnder?_isSome {types : Table String} {fields : Fields} {key : String} :
    (typeUnder? types fields key).isSome ↔
      ∃ name, fields.lookup key = some (.string name) ∧ name ∈ types.names := by
  simp only [typeUnder?, Option.isSome_bind, Option.any_eq_true, Fields.string?_eq_some,
    Table.mem_names]

/-- The name that reading looks up is the one that a legend is listed under. -/
theorem isListed_iff {name listed : String} : IsListed name listed ↔ legendName name = listed := by
  have ofList (cs : List Char) : legendName (String.ofList cs) =
      "legend" ++ Text.capitalize (String.ofList cs) := rfl
  constructor
  · intro h
    cases h with
    | empty => rfl
    | cons => rw [ofList, Text.capitalize, String.toList_ofList]
  · rintro rfl
    rw [← String.ofList_toList (s := name)]
    cases name.toList with
    | nil => exact .empty
    | cons c cs =>
      rw [ofList, Text.capitalize, String.toList_ofList]
      exact .cons

theorem legendType?_isSome {catalog : Catalog} {fields : Fields} :
    (legendType? catalog fields).isSome ↔
      ∃ name listed, fields.lookup "legend" = some (.string name) ∧ IsListed name listed ∧
        listed ∈ catalog.legends.names := by
  simp only [legendType?, Option.bind_map, Option.isSome_bind, Option.any_eq_true,
    Function.comp_apply, Fields.string?_eq_some, Table.mem_names, isListed_iff,
    exists_and_left, exists_eq_left']

/-! ## Values and plots -/

namespace Visit

def Faultless (visits : List Visit) : Prop :=
  ∀ visit ∈ visits, visit.fault? = none

@[simp] theorem faultless_nil : Faultless [] := nofun

@[simp] theorem faultless_fault (e : DocumentError) : ¬ Faultless [fault e] :=
  fun none => nomatch none _ List.mem_cons_self

@[simp] theorem faultless_reference (ref : Reference) : Faultless [reference ref] := by
  intro visit here
  have same : visit = reference ref := List.mem_singleton.1 here
  rw [same]
  rfl

theorem faultless_references (refs : List Reference) : Faultless (refs.map reference) :=
  List.forall_mem_map.2 fun _ _ => rfl

@[simp] theorem faultless_append {first second : List Visit} :
    Faultless (first ++ second) ↔ Faultless first ∧ Faultless second :=
  List.forall_mem_append

@[simp] theorem faultless_flatMap {ι : Type} {visits : ι → List Visit} {is : List ι} :
    Faultless (is.flatMap visits) ↔ ∀ i ∈ is, Faultless (visits i) :=
  List.forall_mem_flatMap

@[simp] theorem faultless_demand {α : Type} {found : Option α} {e : DocumentError} :
    Faultless (demand found e) ↔ found.isSome := by
  unfold demand
  split <;> simp [*]

@[simp] theorem faultless_ofValue (initial : Live) (value : Json) :
    Faultless (ofValue initial value) := by
  unfold ofValue
  cases referenceName? value with
  | none => exact faultless_nil
  | some name => exact faultless_reference _

@[simp] theorem faultless_ofChannel (transforms : Table (List Json → Expression)) (value : Json) :
    Faultless (ofChannel transforms value) := by
  unfold ofChannel
  split
  · exact faultless_nil
  · exact faultless_ofValue _ _

@[simp] theorem faultless_ofOptions (fields : Fields) (reserved : List String) :
    Faultless (ofOptions fields reserved) :=
  faultless_flatMap.2 fun _ _ => faultless_ofValue _ _

theorem faultless_ofProperty {catalog : Catalog} {field : String × Json} :
    Faultless (ofProperty catalog field) ↔ field.1 ∈ catalog.attributes.names := by
  rw [ofProperty, faultless_append, faultless_demand, Table.mem_names]
  refine and_iff_left ?_
  split
  · exact faultless_nil
  · exact faultless_ofValue _ _

theorem faultless_ofMarkData {data : Json} : Faultless (ofMarkData data) ↔ IsMarkData data := by
  unfold ofMarkData
  cases data with
  | object fields =>
    rw [faultless_append, faultless_demand, and_iff_left (faultless_ofOptions _ _)]
    constructor
    · intro some
      have named := Option.isSome_iff_exists.1 some
      rcases named with ⟨table, named⟩
      exact .mk (Fields.string?_eq_some.1 named)
    · intro ok
      cases ok with
      | mk named =>
        have found := Fields.string?_eq_some.2 named
        exact Option.isSome_iff_exists.2 ⟨_, found⟩
  | _ => exact iff_of_false (faultless_fault _) nofun

theorem faultless_ofMark {catalog : Catalog} {fields : Fields} :
    Faultless (ofMark catalog fields) ↔
      (∃ name, fields.lookup "mark" = some (.string name) ∧ name ∈ catalog.marks.names) ∧
      ∀ data, fields.lookup "data" = some data → data ≠ .null → IsMarkData data := by
  rw [ofMark, faultless_append, faultless_append, faultless_demand, typeUnder?_isSome, and_assoc,
    faultless_flatMap, and_iff_left (faultless_flatMap.2 fun _ _ => faultless_ofChannel _ _)]
  refine and_congr_right fun _ => ?_
  simp only [faultless_ofMarkData, Option.mem_toList, Fields.present?_eq_some, and_imp]

theorem faultless_ofLegend {catalog : Catalog} {fields : Fields} :
    Faultless (ofLegend catalog fields) ↔
      ∃ name listed, fields.lookup "legend" = some (.string name) ∧ IsListed name listed ∧
        listed ∈ catalog.legends.names := by
  rw [ofLegend, faultless_append, faultless_demand, legendType?_isSome,
    and_iff_left (faultless_ofOptions _ _)]

theorem faultless_ofInteractor {catalog : Catalog} {fields : Fields} :
    Faultless (ofInteractor catalog fields) ↔
      ∃ name, fields.lookup "select" = some (.string name) ∧
        name ∈ catalog.interactors.names := by
  rw [ofInteractor, faultless_append, faultless_demand, typeUnder?_isSome,
    and_iff_left (faultless_ofOptions _ _)]

theorem faultless_ofEntry {catalog : Catalog} {entry : Json} :
    Faultless (ofEntry catalog entry) ↔ IsEntry catalog entry := by
  unfold ofEntry
  cases entry with
  | object fields =>
    dsimp only
    split_ifs with mark legend select
    · rw [Fields.present?_isSome] at mark
      rw [faultless_ofMark]
      constructor
      · intro found
        rcases found with ⟨⟨name, named, known⟩, data⟩
        exact .mark named known data
      · intro ok
        cases ok with
        | mark named known data => exact ⟨⟨_, named, known⟩, data⟩
        | legend noMark _ _ _ => exact absurd mark noMark
        | interactor noMark _ _ _ => exact absurd mark noMark
    · rw [Fields.present?_isSome] at mark legend
      rw [faultless_ofLegend]
      constructor
      · intro found
        rcases found with ⟨name, listed, named, lists, known⟩
        exact .legend mark named lists known
      · intro ok
        cases ok with
        | mark named _ _ => exact absurd (Fields.has_string named) mark
        | legend _ named lists known => exact ⟨_, _, named, lists, known⟩
        | interactor _ noLegend _ _ => exact absurd legend noLegend
    · rw [Fields.present?_isSome] at mark legend
      rw [faultless_ofInteractor]
      constructor
      · intro found
        rcases found with ⟨name, named, known⟩
        exact .interactor mark legend named known
      · intro ok
        cases ok with
        | mark named _ _ => exact absurd (Fields.has_string named) mark
        | legend _ named _ _ => exact absurd (Fields.has_string named) legend
        | interactor _ _ named known => exact ⟨_, named, known⟩
    · rw [Fields.present?_isSome] at mark legend select
      refine iff_of_false (faultless_fault _) fun ok => ?_
      cases ok with
      | mark named _ _ => exact mark (Fields.has_string named)
      | legend _ named _ _ => exact legend (Fields.has_string named)
      | interactor _ _ named _ => exact select (Fields.has_string named)
  | _ => exact iff_of_false (faultless_fault _) nofun

theorem faultless_ofPlot {catalog : Catalog} {fields : Fields} {items : List Json} :
    Faultless (ofPlot catalog fields items) ↔
      (∀ property ∈ fields, IsProperty catalog property) ∧
      ∀ item ∈ items, IsEntry catalog item := by
  simp only [IsProperty, ofPlot, faultless_append, faultless_flatMap, faultless_ofProperty, faultless_ofEntry,
    Table.without, List.mem_filter, Bool.not_eq_true', List.contains_eq_mem,
    decide_eq_false_iff_not, and_imp]

end Visit

/-! ## Nodes -/

theorem Rules.matching_eq_cons {rules : Rules} {fields : Fields} {kind : DirectiveKind}
    {others : List DirectiveKind} :
    rules.matching fields = kind :: others ↔
      ∃ before after, rules.catalog.directives = before ++ kind :: after ∧
        (∀ other ∈ before, ¬ fields.Has other.key) ∧ fields.Has kind.key ∧
        after.filter (fun other => (fields.present? other.key).isSome) = others := by
  simp only [matching, List.filter_eq_cons_iff, Fields.present?_isSome]

theorem Rules.decides_iff {rules : Rules} {fields : Fields} {kind : DirectiveKind} :
    rules.Decides fields kind ↔
      ∃ others, rules.matching fields = kind :: others ∧ (rules.strict = true → others = []) := by
  constructor
  · intro decides
    rcases decides with ⟨split, none, here, alone⟩
    have matching := Rules.matching_eq_cons.2 ⟨_, _, split, none, here, rfl⟩
    refine ⟨_, matching, fun strict => List.filter_eq_nil_iff.2 fun other inside some => ?_⟩
    exact alone strict other inside (Fields.present?_isSome.1 some)
  · intro found
    rcases found with ⟨others, matching, alone⟩
    have parts := Rules.matching_eq_cons.1 matching
    rcases parts with ⟨before, after, split, none, here, rfl⟩
    refine .mk split none here fun strict other inside some => ?_
    have absent := List.filter_eq_nil_iff.1 (alone strict) other inside
    exact absent (Fields.present?_isSome.2 some)

theorem Rules.content_of_several {rules : Rules} {fields : Fields} {kind : DirectiveKind}
    {others : List DirectiveKind} (matching : rules.matching fields = kind :: others)
    (several : rules.strict = true ∧ others ≠ []) :
    rules.content fields =
      .error (.ambiguousLayout ((kind :: others).map (·.key)) (.object fields)) := by
  unfold Rules.content
  rw [matching]
  exact if_pos several

theorem Rules.Decides.content {rules : Rules} {fields : Fields} {kind : DirectiveKind}
    {value : Json} {content : NodeContent} (decides : rules.Decides fields kind)
    (here : fields.lookup kind.key = some value) (fits : kind.content? value = some content) :
    rules.content fields = .ok content := by
  rcases Rules.decides_iff.1 decides with ⟨others, matching, alone⟩
  have single : ¬ (rules.strict = true ∧ others ≠ []) := fun both => both.2 (alone both.1)
  simp only [Rules.content, matching, if_neg single, here, Option.bind_some, fits]

theorem Rules.decides_of_content {rules : Rules} {fields : Fields} {content : NodeContent}
    (found : rules.content fields = .ok content) :
    ∃ kind value, rules.Decides fields kind ∧ fields.lookup kind.key = some value ∧
      kind.content? value = some content := by
  unfold Rules.content at found
  split at found
  · cases found
  · next kind others matching =>
    split at found
    · cases found
    · next alone =>
      split at found
      · next fits =>
        cases found
        rcases Option.bind_eq_some_iff.1 fits with ⟨value, here, fits⟩
        have single (strict : rules.strict = true) : others = [] := by
          by_contra more
          exact alone ⟨strict, more⟩
        have decides := Rules.decides_iff.2 ⟨others, matching, single⟩
        exact ⟨kind, value, decides, here, fits⟩
      · cases found

/-- What the rest of a node has to be like. -/
def NodeContent.Inside (rules : Rules) (fields : Fields) : NodeContent → Prop
  | plot items =>
    (∀ property ∈ fields, IsProperty rules.catalog property) ∧ ∀ item ∈ items, IsEntry rules.catalog item
  | hconcat items => ∀ item ∈ items, IsNode rules item
  | vconcat items => ∀ item ∈ items, IsNode rules item
  | hspace _ => True
  | vspace _ => True
  | input name => name ∈ rules.catalog.inputs.names

/-- The sizes are the values that a number is read from. -/
theorem isSize_iff {value : Json} : IsSize value ↔ ∃ size, spaceOf? value = some size := by
  rw [← Option.isSome_iff_exists]
  constructor
  · intro ok
    cases ok with
    | integer small => exact Binary64.isSome_ofInt?.2 small
    | real => rfl
    | text written blanks blanks' spells small =>
      rw [spaceOf?, Binary64.ofText?_of_isDecimal written blanks blanks' spells]
      exact (Binary64.isSome_ofDecimal? _ _ _).2 small
  · intro some
    cases value with
    | number n =>
      cases n with
      | integer n => exact .integer (Binary64.isSome_ofInt?.1 some)
      | real x => exact .real
    | string s =>
      obtain ⟨x, read⟩ := Option.isSome_iff_exists.1 some
      obtain ⟨before, spelled, after, negative, n, e, written, blanks, blanks', spells, done⟩ :=
        Binary64.exists_isDecimal_of_ofText? read
      refine .text written blanks blanks' spells ((Binary64.isSome_ofDecimal? negative n e).1 ?_)
      rw [done]
      rfl
    | _ => cases some

theorem IsNode.content {rules : Rules} {fields : Fields} (ok : IsNode rules (.object fields)) :
    ∃ content, rules.content fields = .ok content ∧ content.Inside rules fields := by
  cases ok with
  | plot decides here properties entries =>
    exact ⟨_, decides.content here rfl, properties, entries⟩
  | hconcat decides here items => exact ⟨_, decides.content here rfl, items⟩
  | vconcat decides here items => exact ⟨_, decides.content here rfl, items⟩
  | hspace decides here size =>
    rcases isSize_iff.1 size with ⟨x, fits⟩
    have content := decides.content here (Option.map_eq_some_iff.2 ⟨x, fits, rfl⟩)
    exact ⟨_, content, trivial⟩
  | vspace decides here size =>
    rcases isSize_iff.1 size with ⟨x, fits⟩
    have content := decides.content here (Option.map_eq_some_iff.2 ⟨x, fits, rfl⟩)
    exact ⟨_, content, trivial⟩
  | input decides here known => exact ⟨_, decides.content here rfl, known⟩

theorem isNode_of_inside {rules : Rules} {fields : Fields} {content : NodeContent}
    (found : rules.content fields = .ok content) (inside : content.Inside rules fields) :
    IsNode rules (.object fields) := by
  rcases Rules.decides_of_content found with ⟨kind, value, decides, here, fits⟩
  -- the kind tells the shape of the value under its key
  cases kind <;> rcases Option.map_eq_some_iff.1 fits with ⟨shown, shape, rfl⟩
  case plot =>
    obtain rfl := Json.array?_eq_some.1 shape
    exact .plot decides here inside.1 inside.2
  case hconcat =>
    obtain rfl := Json.array?_eq_some.1 shape
    exact .hconcat decides here inside
  case vconcat =>
    obtain rfl := Json.array?_eq_some.1 shape
    exact .vconcat decides here inside
  case hspace => exact .hspace decides here (isSize_iff.2 ⟨shown, shape⟩)
  case vspace => exact .vspace decides here (isSize_iff.2 ⟨shown, shape⟩)
  case input =>
    obtain rfl := Json.string?_eq_some.1 shape
    exact .input decides here inside

theorem isNode_object {rules : Rules} {fields : Fields} {content : NodeContent}
    (found : rules.content fields = .ok content) :
    IsNode rules (.object fields) ↔ content.Inside rules fields := by
  constructor
  · intro ok
    rcases ok.content with ⟨content', same, inside⟩
    obtain rfl := Except.ok.inj (same.symm.trans found)
    exact inside
  · exact isNode_of_inside found

theorem faultless_ofNode (rules : Rules) (node : Json) :
    Visit.Faultless (Visit.ofNode rules node) ↔ IsNode rules node := by
  induction node using Rules.induction rules with
  | other node other =>
    rw [Visit.ofNode_other rules other]
    refine iff_of_false (Visit.faultless_fault _) fun ok => ?_
    cases ok <;> exact other _ rfl
  | object fields ih =>
    have all (items : List Json)
        (each : ∀ item ∈ items, Visit.Faultless (Visit.ofNode rules item) ↔ IsNode rules item) :
        Visit.Faultless (Visit.ofNodes rules items) ↔ ∀ item ∈ items, IsNode rules item := by
      rw [Visit.ofNodes_eq, Visit.faultless_flatMap]
      exact forall₂_congr each
    rw [Visit.ofNode_object]
    cases found : rules.content fields with
    | error e =>
      refine iff_of_false (Visit.faultless_fault e) fun ok => ?_
      rcases ok.content with ⟨content, same, -⟩
      cases found.symm.trans same
    | ok content =>
      have items := ih content found
      rw [isNode_object found]
      cases content with
      | plot items => exact Visit.faultless_ofPlot
      | hconcat nodes => exact all nodes items
      | vconcat nodes => exact all nodes items
      | hspace size => exact iff_of_true Visit.faultless_nil trivial
      | vspace size => exact iff_of_true Visit.faultless_nil trivial
      | input name =>
        simp only [Visit.ofInput, Visit.faultless_append, Visit.faultless_demand,
          Visit.faultless_ofOptions, and_true, NodeContent.Inside, Table.mem_names]

end Dashboard
