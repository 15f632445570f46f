import Dashboard.Proofs.Ambiguity
import Dashboard.Proofs.Lockstep
import Mathlib.Data.List.Perm.Basic
/-!
# Documents with their keys in another order

A document may be rewritten by permuting the keys of its layout objects: of the root, of layout
nodes, of plot entries, and of the `data` of marks. Lists keep their order, and all other values
stay as they are. What a node holds under its deciding key is then rewritten in the same way, and
its other keys are permuted.
-/
namespace Dashboard

/-! ## Tables with distinct names -/

namespace Table
variable {α : Type}

theorem lookup_eq_some_iff_mem {t : Table α} (distinct : t.names.Nodup) {name : String}
    {value : α} : t.lookup name = some value ↔ (name, value) ∈ t := by
  induction t with
  | nil => simp
  | cons e t ih =>
    obtain ⟨first, others⟩ := e
    have parts : first ∉ names t ∧ (names t).Nodup := List.nodup_cons.1 distinct
    rw [lookup_cons, List.mem_cons, ← ih parts.2]
    by_cases here : name = first
    · have absent : t.lookup name = none := by
        have outside : name ∉ names t := here ▸ parts.1
        rwa [mem_names, Option.not_isSome_iff_eq_none] at outside
      simp [here ▸ absent, here, eq_comm]
    · simp [here]

theorem lookup_of_perm {t t' : Table α} (distinct : t.names.Nodup) (perm : t.Perm t')
    (name : String) : t.lookup name = t'.lookup name := by
  have distinct' : t'.names.Nodup := (perm.map _).nodup_iff.1 distinct
  apply Option.ext
  intro value
  rw [lookup_eq_some_iff_mem distinct, lookup_eq_some_iff_mem distinct', perm.mem_iff]

theorem without_cons (e : String × α) (t : Table α) (reserved : List String) :
    without (e :: t) reserved =
      if e.1 ∈ reserved then t.without reserved else e :: t.without reserved := by
  by_cases kept : e.1 ∈ reserved <;> simp [without, kept]

theorem without_comm (t : Table α) (first second : List String) :
    (t.without first).without second = (t.without second).without first := by
  unfold without
  rw [List.filter_filter, List.filter_filter]
  exact List.filter_congr fun e _ => Bool.and_comm _ _

/-- What is left out anyway may be left out before. -/
theorem without_without {fewer more : List String} (subset : fewer ⊆ more) (t : Table α) :
    (t.without fewer).without more = t.without more := by
  unfold without
  rw [List.filter_filter]
  apply List.filter_congr
  intro e _
  by_cases out : e.1 ∈ more
  · simp [out]
  · simp [out, mt (@subset e.1) out]

theorem lookup_without {reserved : List String} {name : String} (outside : name ∉ reserved)
    (t : Table α) : (t.without reserved).lookup name = t.lookup name := by
  induction t with
  | nil => rfl
  | cons e t ih =>
    rw [without_cons, lookup_cons]
    split
    · next kept =>
      have other : name ≠ e.1 := by
        rintro rfl
        exact outside kept
      rw [if_neg other, ih]
    · rw [lookup_cons, ih]

theorem lookup_without_of_mem {reserved : List String} {name : String} (inside : name ∈ reserved)
    (t : Table α) : (t.without reserved).lookup name = none := by
  induction t with
  | nil => rfl
  | cons e t ih =>
    rw [without_cons]
    split
    · exact ih
    · next kept =>
      have other : name ≠ e.1 := by
        rintro rfl
        exact kept inside
      rw [lookup_cons, if_neg other, ih]

theorem nodup_names_without {t : Table α} (distinct : t.names.Nodup) (reserved : List String) :
    (t.without reserved).names.Nodup := by
  have sublist : (t.without reserved).names.Sublist t.names := List.filter_sublist.map _
  exact sublist.nodup distinct

theorem without_put_of_mem {reserved : List String} {name : String} (inside : name ∈ reserved)
    (t : Table α) (value : α) : (t.put name value).without reserved = t.without reserved := by
  induction t with
  | nil => simp [put, without, inside]
  | cons e t ih =>
    rw [put]
    split
    · next here => simp [without_cons, here, inside]
    · simp only [without_cons, ih]

theorem without_put {reserved : List String} {name : String} (outside : name ∉ reserved)
    (t : Table α) (value : α) :
    (t.put name value).without reserved = (t.without reserved).put name value := by
  induction t with
  | nil => simp [put, without, outside]
  | cons e t ih =>
    rw [put]
    split
    · next here => simp [without_cons, put, here, outside]
    · next other =>
      rw [without_cons, without_cons, ih]
      split
      · rfl
      · rw [put, if_neg other]

end Table

/-! ## Rewritten documents -/

/-- The same fields in another order. No key is there twice. -/
structure Shuffled (fields fields' : Fields) : Prop where
  distinct : fields.names.Nodup
  perm : fields.Perm fields'

/-- The `data` of a mark with its keys in another order. -/
inductive ReorderedData : Json → Json → Prop
  | same (data : Json) : ReorderedData data data
  | object {fields fields' : Fields} :
      Shuffled fields fields' → ReorderedData (.object fields) (.object fields')

/-- A plot entry with its keys in another order, and if it is a mark, those of its `data`. -/
inductive ReorderedEntry : Json → Json → Prop
  | same (entry : Json) : ReorderedEntry entry entry
  | object {fields fields' : Fields} :
      Shuffled fields fields' → ReorderedEntry (.object fields) (.object fields')
  | mark {fields fields' : Fields} {data data' : Json} :
      fields.Has "mark" → fields.lookup "data" = some data → ReorderedData data data' →
      Shuffled (fields.put "data" data') fields' →
      ReorderedEntry (.object fields) (.object fields')

/-- A layout node with its keys in another order, and also those of the layout objects in the list
under the key that decides. -/
inductive Catalog.Reordered (catalog : Catalog) : Json → Json → Prop
  | same (node : Json) : Reordered catalog node node
  | object {fields fields' : Fields} :
      Shuffled fields fields' → Reordered catalog (.object fields) (.object fields')
  | plot {fields fields' : Fields} {items items' : List Json} :
      catalog.lenient.content fields = .ok (.plot items) →
      List.Forall₂ ReorderedEntry items items' →
      Shuffled (fields.put "plot" (.array items')) fields' →
      Reordered catalog (.object fields) (.object fields')
  | hconcat {fields fields' : Fields} {nodes nodes' : List Json} :
      catalog.lenient.content fields = .ok (.hconcat nodes) →
      List.Forall₂ (Reordered catalog) nodes nodes' →
      Shuffled (fields.put "hconcat" (.array nodes')) fields' →
      Reordered catalog (.object fields) (.object fields')
  | vconcat {fields fields' : Fields} {nodes nodes' : List Json} :
      catalog.lenient.content fields = .ok (.vconcat nodes) →
      List.Forall₂ (Reordered catalog) nodes nodes' →
      Shuffled (fields.put "vconcat" (.array nodes')) fields' →
      Reordered catalog (.object fields) (.object fields')

/-! ## What stays -/

/-- Fields with the same values in a possibly different order. -/
structure Fields.Agree (fields fields' : Fields) : Prop where
  lookup : ∀ key, fields.lookup key = fields'.lookup key
  perm : fields.Perm fields'

/-- Fields that agree but for the value under one key. -/
structure Fields.AgreeBut (key : String) (fields fields' : Fields) : Prop where
  lookup : ∀ other, other ≠ key → fields.lookup other = fields'.lookup other
  rest : ∀ reserved, key ∈ reserved →
    (fields.without reserved).Perm (fields'.without reserved)

namespace Fields
variable {fields fields' : Fields}

theorem present?_congr {key : String} (same : fields.lookup key = fields'.lookup key) :
    fields.present? key = fields'.present? key := by
  rw [present?, present?, same]

theorem string?_congr {key : String} (same : fields.lookup key = fields'.lookup key) :
    fields.string? key = fields'.string? key := by
  rw [string?, string?, same]

theorem valueAt_congr {key : String} (same : fields.lookup key = fields'.lookup key) :
    fields.valueAt key = fields'.valueAt key := by
  rw [valueAt, valueAt, same]

theorem Agree.refl (fields : Fields) : fields.Agree fields := ⟨fun _ => rfl, .refl _⟩

theorem Agree.without (h : fields.Agree fields') (reserved : List String) :
    List.Perm (fields.without reserved) (fields'.without reserved) :=
  h.perm.filter _

theorem Agree.but (h : fields.Agree fields') (key : String) : AgreeBut key fields fields' :=
  ⟨fun other _ => h.lookup other, fun reserved _ => h.without reserved⟩

end Fields

theorem typeUnder?_congr {fields fields' : Fields} {key : String}
    (same : fields.lookup key = fields'.lookup key) (types : Table String) :
    typeUnder? types fields key = typeUnder? types fields' key := by
  rw [typeUnder?, typeUnder?, Fields.string?_congr same]

theorem legendType?_congr {fields fields' : Fields}
    (same : fields.lookup "legend" = fields'.lookup "legend") (catalog : Catalog) :
    legendType? catalog fields = legendType? catalog fields' := by
  rw [legendType?, legendType?, Fields.string?_congr same]

theorem Shuffled.agree {fields fields' : Fields} (h : Shuffled fields fields') :
    fields.Agree fields' :=
  ⟨Table.lookup_of_perm h.distinct h.perm, h.perm⟩

theorem Shuffled.agreeBut {fields fields' : Fields} {key : String} {value : Json}
    (h : Shuffled (fields.put key value) fields') :
    Fields.AgreeBut key fields fields' ∧ fields'.lookup key = some value := by
  have lookup (other : String) : (if other = key then some value else fields.lookup other) =
      fields'.lookup other := by
    rw [← Table.lookup_put]
    exact h.agree.lookup other
  refine ⟨⟨fun other ne => ?_, fun reserved inside => ?_⟩, ?_⟩
  · rw [← lookup, if_neg ne]
  · rw [← Table.without_put_of_mem inside fields value]
    exact h.agree.without reserved
  · rw [← lookup, if_pos rfl]

/-- Entries that are marks agree but for the order in their data. -/
structure AgreeMark (fields fields' : Fields) : Prop where
  but : Fields.AgreeBut "data" fields fields'
  data : Option.Rel ReorderedData (fields.present? "data") (fields'.present? "data")

theorem ReorderedData.isNull {data data' : Json} (h : ReorderedData data data') :
    data.isNull = data'.isNull := by
  cases h <;> rfl

theorem Fields.Agree.mark {fields fields' : Fields} (h : fields.Agree fields') :
    AgreeMark fields fields' := by
  refine ⟨h.but "data", ?_⟩
  rw [Fields.present?_congr (h.lookup "data")]
  generalize fields'.present? "data" = data
  cases data with
  | none => exact .none
  | some data => exact .some (.same data)

/-- A rewritten entry is an object if the entry is. -/
theorem ReorderedEntry.object_inv {fields : Fields} {entry' : Json}
    (h : ReorderedEntry (.object fields) entry') :
    ∃ fields', entry' = .object fields' ∧ AgreeMark fields fields' ∧
      (¬ fields.Has "mark" → fields.Agree fields') := by
  cases h with
  | same => exact ⟨fields, rfl, (Fields.Agree.refl fields).mark, fun _ => .refl fields⟩
  | @object _ fields' shuffled =>
    exact ⟨fields', rfl, shuffled.agree.mark, fun _ => shuffled.agree⟩
  | @mark _ fields' data data' mark found reordered shuffled =>
    obtain ⟨but, found'⟩ := shuffled.agreeBut
    refine ⟨fields', rfl, ⟨but, ?_⟩, fun noMark => absurd mark noMark⟩
    unfold Fields.present?
    rw [found, found', Option.filter_some, Option.filter_some, reordered.isNull]
    split
    · exact .some reordered
    · exact .none

/-! ## Nodes -/

def NodeContent.kind : NodeContent → DirectiveKind
  | plot _ => .plot
  | hconcat _ => .hconcat
  | vconcat _ => .vconcat
  | hspace _ => .hspace
  | vspace _ => .vspace
  | input _ => .input

theorem DirectiveKind.eq_kind {kind : DirectiveKind} {value : Json} {content : NodeContent}
    (fits : kind.content? value = some content) : kind = content.kind := by
  cases kind <;> obtain ⟨_, _, rfl⟩ := Option.map_eq_some_iff.1 fits <;> rfl

theorem DirectiveKind.isNull_of_fits {kind : DirectiveKind} {value : Json}
    {content : NodeContent} (fits : kind.content? value = some content) :
    value.isNull = false := by
  cases value with
  | null => cases kind <;> cases fits
  | _ => rfl

theorem Rules.content_eq_ok {rules : Rules} {fields : Fields} {content : NodeContent} :
    rules.content fields = .ok content ↔
      ∃ kind others, rules.matching fields = kind :: others ∧
        ¬ (rules.strict = true ∧ others ≠ []) ∧
        (fields.lookup kind.key).bind kind.content? = some content := by
  unfold Rules.content
  cases rules.matching fields with
  | nil => simp
  | cons kind others =>
    by_cases several : rules.strict = true ∧ others ≠ []
    · simp [several]
    · simp only [if_neg several]
      constructor
      · intro ok
        cases found : (fields.lookup kind.key).bind kind.content? with
        | none =>
          rw [found] at ok
          cases ok
        | some shown =>
          rw [found] at ok
          cases ok
          exact ⟨kind, others, rfl, several, found⟩
      · rintro ⟨_, _, ⟨⟩, -, found⟩
        rw [found]

/-- What stands under the deciding key. -/
theorem Rules.lookup_of_content {rules : Rules} {fields : Fields} {content : NodeContent}
    (found : rules.content fields = .ok content) :
    ∃ value, fields.lookup content.kind.key = some value ∧
      content.kind.content? value = some content := by
  obtain ⟨kind, others, -, -, here⟩ := content_eq_ok.1 found
  obtain ⟨value, here, fits⟩ := Option.bind_eq_some_iff.1 here
  obtain rfl := DirectiveKind.eq_kind fits
  exact ⟨value, here, fits⟩

theorem Rules.kind_mem_directives {rules : Rules} {fields : Fields} {content : NodeContent}
    (found : rules.content fields = .ok content) : content.kind ∈ rules.catalog.directives := by
  obtain ⟨kind, others, matching, -, found⟩ := content_eq_ok.1 found
  obtain ⟨value, -, fits⟩ := Option.bind_eq_some_iff.1 found
  obtain rfl := DirectiveKind.eq_kind fits
  have inside : content.kind ∈ rules.matching fields := by
    rw [matching]
    exact List.mem_cons_self
  exact (List.mem_filter.1 inside).1

theorem Rules.matching_congr (rules : Rules) {fields fields' : Fields}
    (same : ∀ kind : DirectiveKind,
      (fields.present? kind.key).isSome = (fields'.present? kind.key).isSome) :
    rules.matching fields = rules.matching fields' := by
  unfold Rules.matching
  apply List.filter_congr
  intro kind _
  exact same kind

theorem Rules.content_of_agree (rules : Rules) {fields fields' : Fields}
    (agree : ∀ kind : DirectiveKind, fields.lookup kind.key = fields'.lookup kind.key)
    (content : NodeContent) :
    rules.content fields = .ok content ↔ rules.content fields' = .ok content := by
  have matching : rules.matching fields = rules.matching fields' := by
    apply rules.matching_congr
    intro kind
    rw [Fields.present?_congr (agree kind)]
  simp only [content_eq_ok, matching, agree]

/-- If the same directives are there, a node stays of its kind, or both are refused alike. -/
theorem Rules.content_of_present (rules : Rules) {fields fields' : Fields}
    {content content' : NodeContent}
    (found : rules.catalog.lenient.content fields = .ok content)
    (present : ∀ kind : DirectiveKind,
      (fields.present? kind.key).isSome = (fields'.present? kind.key).isSome)
    (found' : (fields'.lookup content.kind.key).bind content.kind.content? = some content') :
    rules.content fields = .ok content ∧ rules.content fields' = .ok content' ∨
      ∃ e e', rules.content fields = .error e ∧ rules.content fields' = .error e' ∧
        e.withoutFragment = e'.withoutFragment := by
  obtain ⟨kind, others, matching, -, found⟩ := content_eq_ok.1 found
  obtain ⟨value, -, fits⟩ := Option.bind_eq_some_iff.1 found
  obtain rfl := DirectiveKind.eq_kind fits
  have matching : rules.matching fields = content.kind :: others := matching
  have matching' : rules.matching fields' = content.kind :: others :=
    (rules.matching_congr present).symm.trans matching
  by_cases several : rules.strict = true ∧ others ≠ []
  · right
    exact ⟨_, _, content_of_several matching several, content_of_several matching' several, rfl⟩
  · left
    exact ⟨content_eq_ok.2 ⟨_, others, matching, several, found⟩,
      content_eq_ok.2 ⟨_, others, matching', several, found'⟩⟩

/-- With another value under the deciding key a node is still of its kind. -/
theorem Rules.content_of_agreeBut (rules : Rules) {fields fields' : Fields}
    {content content' : NodeContent} {value' : Json}
    (found : rules.catalog.lenient.content fields = .ok content)
    (but : Fields.AgreeBut content.kind.key fields fields')
    (here' : fields'.lookup content.kind.key = some value')
    (fits' : content.kind.content? value' = some content') :
    rules.content fields = .ok content ∧ rules.content fields' = .ok content' ∨
      ∃ e e', rules.content fields = .error e ∧ rules.content fields' = .error e' ∧
        e.withoutFragment = e'.withoutFragment := by
  obtain ⟨kind, others, -, -, here⟩ := content_eq_ok.1 found
  obtain ⟨value, here, fits⟩ := Option.bind_eq_some_iff.1 here
  obtain rfl := DirectiveKind.eq_kind fits
  apply rules.content_of_present found
  · intro kind
    -- the deciding key holds something that is not null in both, and no other key has changed
    unfold Fields.present?
    by_cases decides : kind.key = content.kind.key
    · rw [decides, here, here']
      simp [DirectiveKind.isNull_of_fits fits, DirectiveKind.isNull_of_fits fits']
    · rw [but.lookup _ decides]
  · rw [here']
    exact fits'

/-- How a node and the rewritten one go together. -/
inductive Rules.Correspond (rules : Rules) (fields fields' : Fields) : Prop
  | refused {e e' : DocumentError} :
      rules.content fields = .error e → rules.content fields' = .error e' →
      Correspond rules fields fields'
  | plot {items items' : List Json} :
      rules.content fields = .ok (.plot items) → rules.content fields' = .ok (.plot items') →
      (fields.without (rules.catalog.directives.map (·.key))).Perm
        (fields'.without (rules.catalog.directives.map (·.key))) →
      List.Forall₂ ReorderedEntry items items' → Correspond rules fields fields'
  | hconcat {nodes nodes' : List Json} :
      rules.content fields = .ok (.hconcat nodes) →
      rules.content fields' = .ok (.hconcat nodes') →
      List.Forall₂ rules.catalog.Reordered nodes nodes' → Correspond rules fields fields'
  | vconcat {nodes nodes' : List Json} :
      rules.content fields = .ok (.vconcat nodes) →
      rules.content fields' = .ok (.vconcat nodes') →
      List.Forall₂ rules.catalog.Reordered nodes nodes' → Correspond rules fields fields'
  | hspace {size : Binary64} :
      rules.content fields = .ok (.hspace size) → rules.content fields' = .ok (.hspace size) →
      Correspond rules fields fields'
  | vspace {size : Binary64} :
      rules.content fields = .ok (.vspace size) → rules.content fields' = .ok (.vspace size) →
      Correspond rules fields fields'
  | input {name : String} :
      rules.content fields = .ok (.input name) → rules.content fields' = .ok (.input name) →
      fields.Agree fields' → Correspond rules fields fields'

theorem Fields.Agree.correspond {fields fields' : Fields} (h : fields.Agree fields')
    (rules : Rules) : rules.Correspond fields fields' := by
  have same := rules.content_of_agree (fun kind => h.lookup kind.key)
  cases found : rules.content fields with
  | error e =>
    cases found' : rules.content fields' with
    | error e' => exact .refused found found'
    | ok content =>
      rw [(same content).2 found'] at found
      cases found
  | ok content =>
    have found' := (same content).1 found
    cases content with
    | plot items =>
      exact .plot found found' (h.without _) (List.forall₂_same.2 fun item _ => .same item)
    | hconcat nodes => exact .hconcat found found' (List.forall₂_same.2 fun node _ => .same node)
    | vconcat nodes => exact .vconcat found found' (List.forall₂_same.2 fun node _ => .same node)
    | hspace size => exact .hspace found found'
    | vspace size => exact .vspace found found'
    | input name => exact .input found found' h

theorem Rules.correspond_of_put (rules : Rules) {fields fields' : Fields}
    {content content' : NodeContent} {value' : Json}
    (found : rules.catalog.lenient.content fields = .ok content)
    (fits' : content.kind.content? value' = some content')
    (shuffled : Shuffled (fields.put content.kind.key value') fields')
    (both : rules.content fields = .ok content → rules.content fields' = .ok content' →
      rules.Correspond fields fields') : rules.Correspond fields fields' := by
  obtain ⟨but, here'⟩ := shuffled.agreeBut
  obtain ⟨found, found'⟩ | ⟨e, e', refused, refused', -⟩ :=
    rules.content_of_agreeBut found but here' fits'
  · exact both found found'
  · exact .refused refused refused'

/-- A rewritten node is an object if the node is. -/
theorem Catalog.Reordered.object_inv {rules : Rules} {fields : Fields} {node' : Json}
    (h : rules.catalog.Reordered (.object fields) node') :
    ∃ fields', node' = .object fields' ∧ rules.Correspond fields fields' := by
  cases h with
  | same => exact ⟨fields, rfl, (Fields.Agree.refl fields).correspond rules⟩
  | @object _ fields' shuffled => exact ⟨fields', rfl, shuffled.agree.correspond rules⟩
  | @plot _ fields' items items' found entries shuffled =>
    refine ⟨fields', rfl, rules.correspond_of_put found rfl shuffled fun found found' => ?_⟩
    have inside : "plot" ∈ rules.catalog.directives.map (·.key) :=
      List.mem_map_of_mem (Rules.kind_mem_directives found)
    exact .plot found found' (shuffled.agreeBut.1.rest _ inside) entries
  | @hconcat _ fields' nodes nodes' found items shuffled =>
    refine ⟨fields', rfl, rules.correspond_of_put found rfl shuffled fun found found' => ?_⟩
    exact .hconcat found found' items
  | @vconcat _ fields' nodes nodes' found items shuffled =>
    refine ⟨fields', rfl, rules.correspond_of_put found rfl shuffled fun found found' => ?_⟩
    exact .vconcat found found' items

/-! ## Documents -/

theorem documentKey_ne (kind : DirectiveKind) : kind.key ∉ documentKeys := by
  cases kind <;> decide

theorem Rules.content_without (rules : Rules) (fields : Fields) (content : NodeContent) :
    rules.content (fields.without documentKeys) = .ok content ↔
      rules.content fields = .ok content := by
  apply rules.content_of_agree
  intro kind
  exact Table.lookup_without (documentKey_ne kind) fields

theorem Shuffled.without {fields fields' : Fields} (h : Shuffled fields fields')
    (reserved : List String) : Shuffled (fields.without reserved) (fields'.without reserved) :=
  ⟨Table.nodup_names_without h.distinct reserved, h.perm.filter _⟩

theorem Shuffled.put_without {fields fields' : Fields} {key : String} {value : Json}
    (h : Shuffled (fields.put key value) fields') (outside : key ∉ documentKeys) :
    Shuffled (Table.put (fields.without documentKeys) key value)
      (fields'.without documentKeys) := by
  rw [← Table.without_put outside]
  exact h.without documentKeys

/-- A rewritten document has the same sections, and its layout is rewritten. -/
theorem Catalog.Reordered.document {catalog : Catalog} {root : Fields} {document' : Json}
    (h : catalog.Reordered (.object root) document') :
    ∃ root', document' = .object root' ∧
      (∀ key ∈ documentKeys, root.lookup key = root'.lookup key) ∧
      catalog.Reordered (layoutOf root) (layoutOf root') := by
  have elsewhere {key : String} {value : Json} {root' : Fields} (outside : key ∉ documentKeys)
      (shuffled : Shuffled (root.put key value) root') :
      ∀ other ∈ documentKeys, root.lookup other = root'.lookup other := by
    intro other inside
    have ne : other ≠ key := by
      rintro rfl
      exact outside inside
    exact shuffled.agreeBut.1.lookup other ne
  cases h with
  | same => exact ⟨root, rfl, fun _ _ => rfl, .same _⟩
  | @object _ root' shuffled =>
    exact ⟨root', rfl, fun key _ => shuffled.agree.lookup key, .object (shuffled.without _)⟩
  | @plot _ root' items items' found entries shuffled =>
    have outside := documentKey_ne .plot
    exact ⟨root', rfl, elsewhere outside shuffled,
      .plot ((Rules.content_without _ _ _).2 found) entries (shuffled.put_without outside)⟩
  | @hconcat _ root' nodes nodes' found items shuffled =>
    have outside := documentKey_ne .hconcat
    exact ⟨root', rfl, elsewhere outside shuffled,
      .hconcat ((Rules.content_without _ _ _).2 found) items (shuffled.put_without outside)⟩
  | @vconcat _ root' nodes nodes' found items shuffled =>
    have outside := documentKey_ne .vconcat
    exact ⟨root', rfl, elsewhere outside shuffled,
      .vconcat ((Rules.content_without _ _ _).2 found) items (shuffled.put_without outside)⟩

end Dashboard
