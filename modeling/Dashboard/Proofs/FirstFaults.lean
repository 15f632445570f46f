import Dashboard.Proofs.Faultless
/-!
# First faults

A fault is the first one of a document exactly if the traversal meets it first.
-/
namespace Dashboard

namespace Visit

/-! ## Lists of visits -/

def FirstFault (visits : List Visit) (e : DocumentError) : Prop :=
  visits.findSome? fault? = some e

section Lists
variable {visits first second : List Visit} {e e' : DocumentError}

theorem Faultless.not_firstFault (h : Faultless visits) (e : DocumentError) :
    ¬ FirstFault visits e := by
  rw [FirstFault, List.findSome?_eq_none_iff.2 h]
  nofun

theorem firstFault_fault : FirstFault [fault e'] e ↔ e' = e :=
  Option.some_inj

theorem firstFault_append :
    FirstFault (first ++ second) e ↔ FirstFault first e ∨ Faultless first ∧ FirstFault second e := by
  have sound : first.findSome? fault? = none ↔ Faultless first := List.findSome?_eq_none_iff
  rw [FirstFault, List.findSome?_append, Option.or_eq_some_iff, sound]
  exact Iff.rfl

theorem firstFault_flatMap {ι : Type} {visits : ι → List Visit} {is : List ι} :
    FirstFault (is.flatMap visits) e ↔ ∃ before i after, is = before ++ i :: after ∧
      (∀ j ∈ before, Faultless (visits j)) ∧ FirstFault (visits i) e := by
  induction is with
  | nil =>
    refine iff_of_false nofun ?_
    rintro ⟨before, i, after, same, -⟩
    simp at same
  | cons i is ih =>
    rw [List.flatMap_cons, firstFault_append, ih]
    constructor
    · rintro (here | ⟨sound, before, j, after, rfl, sound', later⟩)
      · exact ⟨[], i, is, rfl, nofun, here⟩
      · exact ⟨i :: before, j, after, rfl, List.forall_mem_cons.2 ⟨sound, sound'⟩, later⟩
    · rintro ⟨before, j, after, same, sound, found⟩
      cases before with
      | nil =>
        obtain ⟨rfl, rfl⟩ := List.cons.inj same
        exact .inl found
      | cons j' before =>
        obtain ⟨rfl, rfl⟩ := List.cons.inj same
        obtain ⟨sound, sound'⟩ := List.forall_mem_cons.1 sound
        exact .inr ⟨sound, before, j, after, rfl, sound', found⟩

theorem firstFault_toList {ι : Type} {visits : ι → List Visit} {found : Option ι} :
    FirstFault (found.toList.flatMap visits) e ↔ ∃ i, found = some i ∧ FirstFault (visits i) e := by
  cases found with
  | none => exact iff_of_false nofun nofun
  | some i =>
    rw [Option.toList_some, List.flatMap_singleton]
    constructor
    · intro here
      exact ⟨i, rfl, here⟩
    · rintro ⟨_, ⟨⟩, here⟩
      exact here

/-- What is demanded is the only fault if nothing behind it is one. -/
theorem firstFault_demand {α : Type} {found : Option α} (sound : Faultless second) :
    FirstFault (demand found e' ++ second) e ↔ ¬ found.isSome ∧ e' = e := by
  rw [firstFault_append, or_iff_left fun more => sound.not_firstFault e more.2, demand]
  split
  · next here => exact iff_of_false nofun fun none => none.1 here
  · next none => rw [firstFault_fault, and_iff_right none]

end Lists

/-! ## Plots -/

variable {catalog : Catalog} {fields : Fields} {e : DocumentError}

theorem firstFault_ofMarkData {data : Json} :
    FirstFault (ofMarkData data) e ↔ ¬ IsMarkData data ∧ .wrongPropertyType "data" data = e := by
  rw [← faultless_ofMarkData, ofMarkData.eq_def]
  cases data with
  | object fields =>
    dsimp only
    rw [firstFault_demand (faultless_ofOptions _ _), faultless_append, faultless_demand,
      and_iff_left (faultless_ofOptions _ _)]
  | _ => exact ⟨fun same => ⟨faultless_fault _, firstFault_fault.1 same⟩, fun h => h.2 ▸ rfl⟩

theorem firstFault_ofMark :
    FirstFault (ofMark catalog fields) e ↔
      (¬ (∃ name, fields.lookup "mark" = some (.string name) ∧ name ∈ catalog.marks.names) ∧
        .unknownMark (.object fields) = e) ∨
      (∃ name, fields.lookup "mark" = some (.string name) ∧ name ∈ catalog.marks.names) ∧
        ∃ data, (fields.lookup "data" = some data ∧ data ≠ .null) ∧ ¬ IsMarkData data ∧
          .wrongPropertyType "data" data = e := by
  have channels : Faultless ((fields.without ["mark", "data"]).flatMap fun field =>
      ofChannel catalog.transforms field.2) := faultless_flatMap.2 fun _ _ => faultless_ofChannel _ _
  rw [ofMark, firstFault_append, or_iff_left fun more => channels.not_firstFault e more.2,
    firstFault_append, faultless_demand, typeUnder?_isSome, firstFault_toList]
  simp only [firstFault_ofMarkData, Fields.present?_eq_some]
  refine or_congr_left ?_
  rw [← List.append_nil (demand _ _), firstFault_demand faultless_nil, typeUnder?_isSome]

theorem firstFault_ofLegend :
    FirstFault (ofLegend catalog fields) e ↔
      ¬ (∃ name listed, fields.lookup "legend" = some (.string name) ∧ IsListed name listed ∧
        listed ∈ catalog.legends.names) ∧ .unknownLegend (.object fields) = e := by
  rw [ofLegend, firstFault_demand (faultless_ofOptions _ _), legendType?_isSome]

theorem firstFault_ofInteractor :
    FirstFault (ofInteractor catalog fields) e ↔
      ¬ (∃ name, fields.lookup "select" = some (.string name) ∧
        name ∈ catalog.interactors.names) ∧ .unknownInteractor (.object fields) = e := by
  rw [ofInteractor, firstFault_demand (faultless_ofOptions _ _), typeUnder?_isSome]

theorem entryFails_of_firstFault {entry : Json} (h : FirstFault (ofEntry catalog entry) e) :
    EntryFails catalog entry e := by
  unfold ofEntry at h
  cases entry with
  | object fields =>
    dsimp only at h
    split_ifs at h with mark legend select
    · rw [Fields.present?_isSome] at mark
      rcases firstFault_ofMark.1 h with ⟨unknown, rfl⟩ |
        ⟨⟨name, named, known⟩, data, ⟨here, notNull⟩, bad, rfl⟩
      · exact .mark mark fun name named known => unknown ⟨name, named, known⟩
      · exact .data named known here notNull bad
    · rw [Fields.present?_isSome] at mark legend
      obtain ⟨unknown, rfl⟩ := firstFault_ofLegend.1 h
      exact .legend mark legend fun name listed named lists known =>
        unknown ⟨name, listed, named, lists, known⟩
    · rw [Fields.present?_isSome] at mark legend select
      obtain ⟨unknown, rfl⟩ := firstFault_ofInteractor.1 h
      exact .interactor mark legend select fun name named known => unknown ⟨name, named, known⟩
    · rw [Fields.present?_isSome] at mark legend select
      obtain rfl := firstFault_fault.1 h
      exact .noKey mark legend select
  | _ =>
    obtain rfl := firstFault_fault.1 h
    exact .shape nofun

theorem firstFault_of_entryFails {entry : Json} (h : EntryFails catalog entry e) :
    FirstFault (ofEntry catalog entry) e := by
  cases h with
  | shape other =>
    cases entry with
    | object fields => exact absurd rfl (other fields)
    | _ => rfl
  | noKey mark legend select =>
    simp only [ofEntry, Fields.present?_isSome, if_neg mark, if_neg legend, if_neg select,
      firstFault_fault]
  | mark mark unknown =>
    simp only [ofEntry, Fields.present?_isSome, if_pos mark]
    refine firstFault_ofMark.2 (.inl ⟨?_, rfl⟩)
    rintro ⟨name, named, known⟩
    exact unknown name named known
  | data named known here notNull bad =>
    simp only [ofEntry, Fields.present?_isSome, if_pos (Fields.has_string named)]
    exact firstFault_ofMark.2 (.inr ⟨⟨_, named, known⟩, _, ⟨here, notNull⟩, bad, rfl⟩)
  | legend mark legend unknown =>
    simp only [ofEntry, Fields.present?_isSome, if_neg mark, if_pos legend]
    refine firstFault_ofLegend.2 ⟨?_, rfl⟩
    rintro ⟨name, listed, named, lists, known⟩
    exact unknown name listed named lists known
  | interactor mark legend select unknown =>
    simp only [ofEntry, Fields.present?_isSome, if_neg mark, if_neg legend, if_pos select]
    refine firstFault_ofInteractor.2 ⟨?_, rfl⟩
    rintro ⟨name, named, known⟩
    exact unknown name named known

theorem firstFault_ofProperty {property : String × Json} :
    FirstFault (ofProperty catalog property) e ↔
      property.1 ∉ catalog.attributes.names ∧ .unknownAttribute (.object [property]) = e := by
  have value : Faultless (if property.2.string? = some fixedMarker then []
      else ofValue (.param .null) property.2) := by
    split
    · exact faultless_nil
    · exact faultless_ofValue _ _
  rw [ofProperty, firstFault_demand value, Table.mem_names]

/-- The properties of a plot among its fields. -/
theorem flatMap_without {fields : Fields} {reserved : List String}
    {visits : String × Json → List Visit} :
    (fields.without reserved).flatMap visits =
      fields.flatMap fun field => if field.1 ∈ reserved then [] else visits field := by
  unfold Table.without
  induction fields with
  | nil => rfl
  | cons field fields ih =>
    rw [List.filter_cons, List.flatMap_cons, ← ih]
    split <;> simp_all

theorem firstFault_properties :
    FirstFault ((fields.without (catalog.directives.map (·.key))).flatMap (ofProperty catalog)) e ↔
      ∃ before field after, fields = before ++ field :: after ∧
        (∀ property ∈ before, IsProperty catalog property) ∧ ¬ IsProperty catalog field ∧
        .unknownAttribute (.object [field]) = e := by
  have sound (field : String × Json) :
      Faultless (if field.1 ∈ catalog.directives.map (·.key) then [] else ofProperty catalog field) ↔
        IsProperty catalog field := by
    unfold IsProperty
    split <;> simp [*, faultless_ofProperty]
  have faulty (field : String × Json) :
      FirstFault (if field.1 ∈ catalog.directives.map (·.key) then [] else ofProperty catalog field)
        e ↔ ¬ IsProperty catalog field ∧ .unknownAttribute (.object [field]) = e := by
    unfold IsProperty
    split
    · next reserved => exact iff_of_false nofun fun bad => bad.1 (absurd reserved)
    · next free => rw [firstFault_ofProperty, Classical.not_imp, and_iff_right free]
  simp only [flatMap_without, firstFault_flatMap, sound, faulty]

end Visit

/-! ## Nodes -/

section Nodes
variable {rules : Rules} {fields : Fields} {e : DocumentError}

theorem takes_iff {kind : DirectiveKind} {value : Json} :
    kind.Takes value ↔ (kind.content? value).isSome := by
  constructor
  · intro takes
    cases takes with
    | hspace size =>
      obtain ⟨x, read⟩ := isSize_iff.1 size
      simp only [DirectiveKind.content?, read, Option.map_some, Option.isSome_some]
    | vspace size =>
      obtain ⟨x, read⟩ := isSize_iff.1 size
      simp only [DirectiveKind.content?, read, Option.map_some, Option.isSome_some]
    | _ => rfl
  · intro some
    obtain ⟨content, fits⟩ := Option.isSome_iff_exists.1 some
    cases kind <;> obtain ⟨shown, shape, -⟩ := Option.map_eq_some_iff.1 fits
    case plot => exact Json.array?_eq_some.1 shape ▸ .plot
    case hconcat => exact Json.array?_eq_some.1 shape ▸ .hconcat
    case vconcat => exact Json.array?_eq_some.1 shape ▸ .vconcat
    case hspace => exact .hspace (isSize_iff.2 ⟨shown, shape⟩)
    case vspace => exact .vspace (isSize_iff.2 ⟨shown, shape⟩)
    case input => exact Json.string?_eq_some.1 shape ▸ .input

theorem Rules.matching_eq (rules : Rules) (fields : Fields) :
    rules.matching fields = rules.catalog.directives.filter fun kind => fields.Has kind.key :=
  List.filter_congr fun kind _ => by simp only [← Fields.present?_isSome, Bool.decide_eq_true]

theorem Rules.Decides.has {kind : DirectiveKind} (h : rules.Decides fields kind) :
    fields.Has kind.key := by
  cases h with
  | mk _ _ here _ => exact here

theorem content_of_noKey (none : ∀ kind ∈ rules.catalog.directives, ¬ fields.Has kind.key) :
    rules.content fields = .error (.notALayout (.object fields)) := by
  have matching : rules.matching fields = [] := by
    rw [rules.matching_eq, List.filter_eq_nil_iff]
    exact fun kind inside here => none kind inside (of_decide_eq_true here)
  simp only [Rules.content, matching]

theorem content_of_ambiguous {held : List DirectiveKind} (strict : rules.strict = true)
    (found : rules.catalog.directives.filter (fun kind => fields.Has kind.key) = held)
    (several : 2 ≤ held.length) :
    rules.content fields = .error (.ambiguousLayout (held.map (·.key)) (.object fields)) := by
  rw [← rules.matching_eq] at found
  cases held with
  | nil => exact absurd several (by decide)
  | cons kind others =>
    have more : others ≠ [] := by
      rintro rfl
      simp at several
    exact Rules.content_of_several found ⟨strict, more⟩

theorem content_of_value {kind : DirectiveKind} {value : Json} (decides : rules.Decides fields kind)
    (here : fields.lookup kind.key = some value) (unfit : ¬ kind.Takes value) :
    rules.content fields = .error (.wrongPropertyType kind.key (.object fields)) := by
  obtain ⟨others, matching, alone⟩ := Rules.decides_iff.1 decides
  have single : ¬ (rules.strict = true ∧ others ≠ []) := fun both => both.2 (alone both.1)
  have none : kind.content? value = none := by
    rwa [takes_iff, Option.not_isSome_iff_eq_none] at unfit
  simp only [Rules.content, matching, if_neg single, here, Option.bind_some, none]

/-- What keeps a node from having a content is its first fault. -/
theorem nodeFails_of_content (none : rules.content fields = .error e) :
    NodeFails rules (.object fields) e := by
  have matching := rules.matching_eq fields
  unfold Rules.content at none
  split at none
  · next nothing =>
    cases none
    rw [nothing] at matching
    refine .noKey fun kind inside here => ?_
    exact List.filter_eq_nil_iff.1 matching.symm kind inside (decide_eq_true here)
  · next kind others found =>
    rw [found] at matching
    split at none
    · next ambiguous =>
      cases none
      refine .ambiguous ambiguous.1 matching.symm ?_
      have := List.length_pos_iff.2 ambiguous.2
      rw [List.length_cons]
      omega
    · next alone =>
      have single (strict : rules.strict = true) : others = [] := by
        by_contra more
        exact alone ⟨strict, more⟩
      have decides := Rules.decides_iff.2 ⟨others, found, single⟩
      split at none
      · cases none
      · next unfit =>
        cases none
        obtain ⟨value, here, -⟩ := decides.has
        refine .value decides here fun takes => ?_
        rw [here, Option.bind_some] at unfit
        rw [takes_iff, unfit] at takes
        cases takes

theorem firstFault_of_content (none : rules.content fields = .error e) :
    Visit.FirstFault (Visit.ofNode rules (.object fields)) e := by
  rw [Visit.ofNode_object, none]
  exact Visit.firstFault_fault.2 rfl

theorem firstFault_ofNodes {items : List Json} :
    Visit.FirstFault (Visit.ofNodes rules items) e ↔ ∃ before bad after,
      items = before ++ bad :: after ∧ (∀ item ∈ before, IsNode rules item) ∧
        Visit.FirstFault (Visit.ofNode rules bad) e := by
  simp only [Visit.ofNodes_eq, Visit.firstFault_flatMap, faultless_ofNode]

theorem firstFault_ofPlot {catalog : Catalog} {items : List Json} :
    Visit.FirstFault (Visit.ofPlot catalog fields items) e ↔
      (∃ before field after, fields = before ++ field :: after ∧
        (∀ property ∈ before, IsProperty catalog property) ∧ ¬ IsProperty catalog field ∧
        .unknownAttribute (.object [field]) = e) ∨
      (∀ property ∈ fields, IsProperty catalog property) ∧
        ∃ before bad after, items = before ++ bad :: after ∧
          (∀ item ∈ before, IsEntry catalog item) ∧
          Visit.FirstFault (Visit.ofEntry catalog bad) e := by
  have sound : Visit.Faultless (Visit.ofPlot catalog fields []) ↔
      ∀ property ∈ fields, IsProperty catalog property := by
    rw [Visit.faultless_ofPlot, and_iff_left nofun]
  rw [← sound, Visit.ofPlot, Visit.ofPlot, Visit.firstFault_append, Visit.firstFault_properties,
    List.flatMap_nil, List.append_nil]
  simp only [Visit.firstFault_flatMap, Visit.faultless_ofEntry]

theorem firstFault_of_nodeFails {node : Json} (h : NodeFails rules node e) :
    Visit.FirstFault (Visit.ofNode rules node) e := by
  induction h with
  | shape other =>
    rw [Visit.ofNode_other rules other]
    exact Visit.firstFault_fault.2 rfl
  | noKey none => exact firstFault_of_content (content_of_noKey none)
  | ambiguous strict held several =>
    exact firstFault_of_content (content_of_ambiguous strict held several)
  | value decides here unfit => exact firstFault_of_content (content_of_value decides here unfit)
  | property decides here sound bad =>
    rw [Visit.ofNode_object, decides.content here rfl]
    exact firstFault_ofPlot.2 (.inl ⟨_, _, _, rfl, sound, bad, rfl⟩)
  | entry decides here sound sound' fails =>
    rw [Visit.ofNode_object, decides.content here rfl]
    exact firstFault_ofPlot.2
      (.inr ⟨sound, _, _, _, rfl, sound', Visit.firstFault_of_entryFails fails⟩)
  | hconcat decides here sound _ ih =>
    rw [Visit.ofNode_object, decides.content here rfl]
    exact firstFault_ofNodes.2 ⟨_, _, _, rfl, sound, ih⟩
  | vconcat decides here sound _ ih =>
    rw [Visit.ofNode_object, decides.content here rfl]
    exact firstFault_ofNodes.2 ⟨_, _, _, rfl, sound, ih⟩
  | input decides here unknown =>
    rw [Visit.ofNode_object, decides.content here rfl]
    exact (Visit.firstFault_demand (Visit.faultless_ofOptions _ _)).2
      ⟨fun known => unknown (Table.mem_names.2 known), rfl⟩

theorem nodeFails_of_firstFault {node : Json} (h : Visit.FirstFault (Visit.ofNode rules node) e) :
    NodeFails rules node e := by
  induction node using Rules.induction rules with
  | other node other =>
    rw [Visit.ofNode_other rules other] at h
    obtain rfl := Visit.firstFault_fault.1 h
    exact .shape other
  | object fields ih =>
    rw [Visit.ofNode_object] at h
    cases found : rules.content fields with
    | error e' =>
      rw [found] at h
      obtain rfl := Visit.firstFault_fault.1 h
      exact nodeFails_of_content found
    | ok content =>
      rw [found] at h
      have items := ih content found
      obtain ⟨kind, value, decides, here, fits⟩ := Rules.decides_of_content found
      -- the kind tells which fault the rest of the node can have
      cases kind <;> obtain ⟨shown, shape, rfl⟩ := Option.map_eq_some_iff.1 fits
      case plot =>
        obtain rfl := Json.array?_eq_some.1 shape
        rcases firstFault_ofPlot.1 h with ⟨before, field, after, rfl, sound, bad, rfl⟩ |
          ⟨sound, before, bad, after, rfl, sound', fails⟩
        · exact .property decides here sound bad
        · exact .entry decides here sound sound' (Visit.entryFails_of_firstFault fails)
      case hconcat =>
        obtain rfl := Json.array?_eq_some.1 shape
        obtain ⟨before, bad, after, rfl, sound, fails⟩ := firstFault_ofNodes.1 h
        exact .hconcat decides here sound (items bad (by simp [NodeContent.items]) fails)
      case vconcat =>
        obtain rfl := Json.array?_eq_some.1 shape
        obtain ⟨before, bad, after, rfl, sound, fails⟩ := firstFault_ofNodes.1 h
        exact .vconcat decides here sound (items bad (by simp [NodeContent.items]) fails)
      case hspace => exact absurd h (Visit.faultless_nil.not_firstFault e)
      case vspace => exact absurd h (Visit.faultless_nil.not_firstFault e)
      case input =>
        obtain rfl := Json.string?_eq_some.1 shape
        obtain ⟨unknown, rfl⟩ := (Visit.firstFault_demand (Visit.faultless_ofOptions _ _)).1 h
        exact .input decides here fun known => unknown (Table.mem_names.1 known)

theorem firstFault_ofNode {node : Json} :
    Visit.FirstFault (Visit.ofNode rules node) e ↔ NodeFails rules node e :=
  ⟨nodeFails_of_firstFault, firstFault_of_nodeFails⟩

end Nodes

end Dashboard
