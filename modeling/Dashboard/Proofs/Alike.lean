import Dashboard.Proofs.FirstReference
import Dashboard.Proofs.Shuffling
/-!
# Traversals of rewritten documents

What a name stands for is decided by the first reference to it, so the order of references counts.
But references under the keys of one object all stand for the same if they are new, group by group,
and the groups are traversed in a fixed order. So a rewritten document has another traversal in
which the same names stand for the same.
-/
namespace Dashboard.Visit

/-! ## What names stand for -/

/-- What the first reference to a name says. -/
def meaning? (visits : List Visit) (name : String) : Option Live :=
  ((visits.filterMap reference?).find? (·.name = name)).map (·.initial)

theorem meaning?_append (first second : List Visit) (name : String) :
    meaning? (first ++ second) name = (meaning? first name).or (meaning? second name) := by
  unfold meaning?
  rw [List.filterMap_append, List.find?_append]
  cases (first.filterMap reference?).find? (·.name = name) <;> rfl

/-- All references stand for the same. -/
def Uniform (live : Live) (visits : List Visit) : Prop :=
  ∀ visit ∈ visits, ∀ ref, visit.reference? = some ref → ref.initial = live

theorem uniform_nil (live : Live) : Uniform live [] := nofun

theorem uniform_append {live : Live} {first second : List Visit} (h : Uniform live first)
    (k : Uniform live second) : Uniform live (first ++ second) :=
  List.forall_mem_append.2 ⟨h, k⟩

theorem uniform_flatMap {live : Live} {ι : Type} {visits : ι → List Visit} (is : List ι)
    (each : ∀ i, Uniform live (visits i)) : Uniform live (is.flatMap visits) :=
  List.forall_mem_flatMap.2 fun i _ => each i

theorem uniform_demand {live : Live} {α : Type} (found : Option α) (e : DocumentError) :
    Uniform live (demand found e) := by
  intro visit here ref refers
  unfold demand at here
  split at here
  · cases here
  · rw [List.mem_singleton.1 here] at refers
    cases refers

theorem uniform_ofValue (initial : Live) (value : Json) :
    Uniform initial (ofValue initial value) := by
  intro visit here ref refers
  obtain ⟨name, -, rfl⟩ := List.mem_map.1 here
  cases refers
  rfl

theorem uniform_ofChannel (transforms : Table (List Json → Expression)) (value : Json) :
    Uniform (.param .null) (ofChannel transforms value) := by
  unfold ofChannel
  split
  · exact uniform_nil _
  · exact uniform_ofValue _ value

theorem uniform_ofProperty (catalog : Catalog) (field : String × Json) :
    Uniform (.param .null) (ofProperty catalog field) := by
  refine uniform_append (uniform_demand _ _) ?_
  split
  · exact uniform_nil _
  · exact uniform_ofValue _ field.2

theorem Uniform.meaning?_eq_some {live : Live} {visits : List Visit} (h : Uniform live visits)
    {name : String} {meaning : Live} :
    meaning? visits name = some meaning ↔ meaning = live ∧
      ∃ visit ∈ visits, ∃ ref, visit.reference? = some ref ∧ ref.name = name := by
  constructor
  · intro found
    obtain ⟨ref, first, rfl⟩ := Option.map_eq_some_iff.1 found
    obtain ⟨visit, here, refers⟩ := List.mem_filterMap.1 (List.mem_of_find?_eq_some first)
    have named : ref.name = name := by simpa using List.find?_some first
    exact ⟨h visit here ref refers, visit, here, ref, refers, named⟩
  · rintro ⟨rfl, visit, here, ref, refers, named⟩
    have met : ref ∈ visits.filterMap reference? := List.mem_filterMap.2 ⟨visit, here, refers⟩
    have some : ((visits.filterMap reference?).find? (·.name = name)).isSome := by
      rw [List.find?_isSome]
      exact ⟨ref, met, by simpa using named⟩
    obtain ⟨first, found⟩ := Option.isSome_iff_exists.1 some
    obtain ⟨visit, here, refers⟩ := List.mem_filterMap.1 (List.mem_of_find?_eq_some found)
    rw [meaning?, found, Option.map_some, h visit here first refers]

/-! ## Alike traversals -/

/-- Two traversals that both meet a fault or both do not, and in which names stand for the same. -/
structure Alike (visits visits' : List Visit) : Prop where
  faultless : Faultless visits ↔ Faultless visits'
  meaning : ∀ name, meaning? visits name = meaning? visits' name

theorem alike_refl (visits : List Visit) : Alike visits visits := ⟨.rfl, fun _ => rfl⟩

theorem alike_faults (e e' : DocumentError) : Alike [fault e] [fault e'] :=
  ⟨iff_of_false (faultless_fault e) (faultless_fault e'), fun _ => rfl⟩

theorem alike_append {first first' second second' : List Visit} (h : Alike first first')
    (k : Alike second second') : Alike (first ++ second) (first' ++ second') := by
  constructor
  · rw [faultless_append, faultless_append, h.faultless, k.faultless]
  · intro name
    rw [meaning?_append, meaning?_append, h.meaning, k.meaning]

theorem alike_demand {α : Type} {found found' : Option α} (same : found = found')
    (e e' : DocumentError) : Alike (demand found e) (demand found' e') := by
  subst same
  unfold demand
  split
  · exact alike_refl []
  · exact alike_faults e e'

theorem alike_flatMap {ι : Type} {r : ι → ι → Prop} {visits : ι → List Visit}
    {is is' : List ι} (related : List.Forall₂ r is is')
    (each : ∀ i ∈ is, ∀ i', r i i' → Alike (visits i) (visits i')) :
    Alike (is.flatMap visits) (is'.flatMap visits) := by
  induction related with
  | nil => exact alike_refl []
  | cons first _ ih =>
    rw [List.flatMap_cons, List.flatMap_cons]
    apply alike_append
    · exact each _ List.mem_cons_self _ first
    · exact ih fun i inside => each i (List.mem_cons_of_mem _ inside)

/-- A group in which all references stand for the same may be permuted. -/
theorem alike_of_perm {live : Live} {visits visits' : List Visit} (uniform : Uniform live visits)
    (perm : visits.Perm visits') : Alike visits visits' := by
  have uniform' : Uniform live visits' := by
    intro visit here
    exact uniform visit (perm.mem_iff.2 here)
  constructor
  · exact forall_congr' fun visit => imp_congr_left perm.mem_iff
  · intro name
    apply Option.ext
    intro meaning
    simp only [uniform.meaning?_eq_some, uniform'.meaning?_eq_some, perm.mem_iff]

/-! ## Rewritten layouts -/

theorem alike_ofOptions {fields fields' : Fields} {reserved : List String}
    (perm : (fields.without reserved).Perm (fields'.without reserved)) :
    Alike (ofOptions fields reserved) (ofOptions fields' reserved) :=
  alike_of_perm (uniform_flatMap _ fun field => uniform_ofValue _ field.2)
    (perm.flatMap_right _)

theorem alike_ofMarkData {data data' : Json} (h : ReorderedData data data') :
    Alike (ofMarkData data) (ofMarkData data') := by
  cases h with
  | same => exact alike_refl _
  | object shuffled =>
    have agree := shuffled.agree
    apply alike_append
    · exact alike_demand (Fields.string?_congr (agree.lookup _)) _ _
    · exact alike_ofOptions (agree.without _)

theorem alike_ofMark (catalog : Catalog) {fields fields' : Fields}
    (h : AgreeMark fields fields') : Alike (ofMark catalog fields) (ofMark catalog fields') := by
  -- data and channels give new names different meanings, but data comes first in both
  have mark : fields.lookup "mark" = fields'.lookup "mark" := h.but.lookup _ (by decide)
  have channels := h.but.rest ["mark", "data"] (by decide)
  apply alike_append
  · apply alike_append
    · exact alike_demand (typeUnder?_congr mark _) _ _
    · have data := h.data
      generalize Fields.present? fields "data" = found, Fields.present? fields' "data" = found'
        at data ⊢
      cases data with
      | none => exact alike_refl _
      | some reordered =>
        rw [Option.toList_some, Option.toList_some, List.flatMap_singleton,
          List.flatMap_singleton]
        exact alike_ofMarkData reordered
  · exact alike_of_perm (uniform_flatMap _ fun field => uniform_ofChannel _ field.2)
      (channels.flatMap_right _)

theorem alike_ofLegend (catalog : Catalog) {fields fields' : Fields} (h : fields.Agree fields') :
    Alike (ofLegend catalog fields) (ofLegend catalog fields') := by
  apply alike_append
  · exact alike_demand (legendType?_congr (h.lookup _) _) _ _
  · exact alike_ofOptions (h.without _)

theorem alike_ofInteractor (catalog : Catalog) {fields fields' : Fields}
    (h : fields.Agree fields') :
    Alike (ofInteractor catalog fields) (ofInteractor catalog fields') := by
  apply alike_append
  · exact alike_demand (typeUnder?_congr (h.lookup _) _) _ _
  · exact alike_ofOptions (h.without _)

theorem alike_ofEntry (catalog : Catalog) {entry entry' : Json} (h : ReorderedEntry entry entry') :
    Alike (ofEntry catalog entry) (ofEntry catalog entry') := by
  cases entry with
  | object fields =>
    obtain ⟨fields', rfl, agreeMark, agree⟩ := h.object_inv
    have mark : Fields.present? fields "mark" = Fields.present? fields' "mark" :=
      Fields.present?_congr (agreeMark.but.lookup _ (by decide))
    unfold ofEntry
    dsimp only
    rw [← mark]
    by_cases isMark : (Fields.present? fields "mark").isSome
    · rw [if_pos isMark, if_pos isMark]
      exact alike_ofMark catalog agreeMark
    · have agree := agree fun has => isMark (Fields.present?_isSome.2 has)
      have legend := Fields.present?_congr (agree.lookup "legend")
      have select := Fields.present?_congr (agree.lookup "select")
      rw [if_neg isMark, if_neg isMark, ← legend, ← select]
      split_ifs
      · exact alike_ofLegend catalog agree
      · exact alike_ofInteractor catalog agree
      · exact alike_faults _ _
  | _ =>
    cases h
    exact alike_refl _

theorem alike_ofPlot (catalog : Catalog) {fields fields' : Fields} {items items' : List Json}
    (attributes : (fields.without (catalog.directives.map (·.key))).Perm
      (fields'.without (catalog.directives.map (·.key))))
    (entries : List.Forall₂ ReorderedEntry items items') :
    Alike (ofPlot catalog fields items) (ofPlot catalog fields' items') := by
  apply alike_append
  · exact alike_of_perm (uniform_flatMap _ fun field => uniform_ofProperty catalog field)
      (attributes.flatMap_right _)
  · exact alike_flatMap entries fun _ _ _ => alike_ofEntry catalog

theorem alike_ofNode (rules : Rules) (node : Json) :
    ∀ node', rules.catalog.Reordered node node' →
      Alike (ofNode rules node) (ofNode rules node') := by
  induction node using Rules.induction rules with
  | other node other =>
    intro node' reordered
    cases reordered with
    | same => exact alike_refl _
    | _ => exact absurd rfl (other _)
  | object fields ih =>
    intro node' reordered
    obtain ⟨fields', rfl, correspond⟩ := reordered.object_inv
    have inside {nodes nodes' : List Json}
        (each : ∀ node ∈ nodes, ∀ node', rules.catalog.Reordered node node' →
          Alike (ofNode rules node) (ofNode rules node'))
        (related : List.Forall₂ rules.catalog.Reordered nodes nodes') :
        Alike (ofNodes rules nodes) (ofNodes rules nodes') := by
      rw [ofNodes_eq, ofNodes_eq]
      exact alike_flatMap related each
    rw [ofNode_object, ofNode_object]
    cases correspond with
    | refused found found' =>
      rw [found, found']
      exact alike_faults _ _
    | plot found found' attributes entries =>
      rw [found, found']
      exact alike_ofPlot rules.catalog attributes entries
    | hconcat found found' related =>
      have nodes := ih _ found
      rw [found, found']
      exact inside nodes related
    | vconcat found found' related =>
      have nodes := ih _ found
      rw [found, found']
      exact inside nodes related
    | hspace found found' =>
      rw [found, found']
      exact alike_refl _
    | vspace found found' =>
      rw [found, found']
      exact alike_refl _
    | input found found' agree =>
      rw [found, found']
      exact alike_append (alike_demand rfl _ _) (alike_ofOptions (agree.without _))

variable {rules : Rules} {root root' : Fields}

/-- What is read after the data section. -/
theorem alike_ofRest (sections : ∀ key ∈ documentKeys, root.lookup key = root'.lookup key)
    (layout : rules.catalog.Reordered (layoutOf root) (layoutOf root')) :
    Alike
      (ofParams rules.catalog.params (root.valueAt "params") ++ ofNode rules (layoutOf root))
      (ofParams rules.catalog.params (root'.valueAt "params") ++
        ofNode rules (layoutOf root')) := by
  have params := Fields.valueAt_congr (sections "params" (by decide))
  rw [params]
  exact alike_append (alike_refl _) (alike_ofNode rules _ _ layout)

theorem alike_ofDocument (sections : ∀ key ∈ documentKeys, root.lookup key = root'.lookup key)
    (layout : rules.catalog.Reordered (layoutOf root) (layoutOf root')) :
    Alike (ofDocument rules (.object root)) (ofDocument rules (.object root')) := by
  have data := Fields.valueAt_congr (sections "data" (by decide))
  unfold ofDocument
  dsimp only
  rw [data]
  exact alike_append (alike_refl _) (alike_ofRest sections layout)

end Dashboard.Visit
