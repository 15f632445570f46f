import Dashboard.Proofs.Acceptance
/-!
# Ambiguous nodes

A node that holds several directives of the table is ambiguous. Lenient reading goes by the first
of them and never complains; strict reading complains of nothing else. The nodes that a reading
comes to end with the one that it fails at.
-/
namespace Dashboard

/-! ## Ambiguous nodes -/

/-- The directives of the table that a node holds, in the order of the table. -/
def Catalog.directivesIn (catalog : Catalog) : Json → List DirectiveKind
  | .object fields => catalog.directives.filter fun kind => (Fields.present? fields kind.key).isSome
  | _ => []

def Catalog.isAmbiguous (catalog : Catalog) (node : Json) : Bool :=
  1 < (catalog.directivesIn node).length

/-- The error of a strict reading that comes to an ambiguous node. -/
def Catalog.ambiguity (catalog : Catalog) (node : Json) : DocumentError :=
  .ambiguousLayout ((catalog.directivesIn node).map (·.key)) node

def Catalog.lenient (catalog : Catalog) : Rules := { catalog, strict := false }

def Catalog.strict (catalog : Catalog) : Rules := { catalog, strict := true }

theorem Catalog.content_strict_of_ambiguous {catalog : Catalog} {fields : Fields}
    (several : catalog.isAmbiguous (.object fields) = true) :
    catalog.strict.content fields = .error (catalog.ambiguity (.object fields)) :=
  content_of_ambiguous rfl (catalog.strict.matching_eq fields).symm (of_decide_eq_true several)

theorem Catalog.content_strict {catalog : Catalog} {fields : Fields}
    (single : ¬ catalog.isAmbiguous (.object fields) = true) :
    catalog.strict.content fields = catalog.lenient.content fields := by
  have matching : catalog.strict.matching fields = catalog.directivesIn (.object fields) := rfl
  have matching' : catalog.lenient.matching fields = catalog.directivesIn (.object fields) := rfl
  unfold Rules.content
  rw [matching, matching']
  unfold Catalog.isAmbiguous at single
  cases found : catalog.directivesIn (.object fields) with
  | nil => rfl
  | cons kind others =>
    have alone : others = [] := by
      cases others with
      | nil => rfl
      | cons other others => simp [found] at single
    subst alone
    rfl

theorem Catalog.content_lenient_ne_ambiguous {catalog : Catalog} {fields : Fields}
    {keys : List String} {fragment : Json} :
    catalog.lenient.content fields ≠ .error (.ambiguousLayout keys fragment) := by
  unfold Rules.content
  split
  · exact nofun
  · split
    · next both => exact absurd both.1 nofun
    · split <;> exact nofun

/-! ## The nodes that a reading meets -/

/-- The nodes inside a node. The entries of a plot are no nodes. -/
def NodeContent.nodes : NodeContent → List Json
  | hconcat nodes => nodes
  | vconcat nodes => nodes
  | _ => []

theorem NodeContent.sizeOf_nodes (content : NodeContent) :
    sizeOf content.nodes ≤ sizeOf content.items := by
  cases content with
  | plot items =>
    have least : sizeOf ([] : List Json) ≤ sizeOf items := by
      cases items with
      | nil => exact Nat.le_refl _
      | cons item items =>
        have := item.sizeOf_pos
        simp only [List.nil.sizeOf_spec, List.cons.sizeOf_spec]
        omega
    exact least
  | _ => exact Nat.le_refl _

mutual

/-- The nodes that the reading of a node comes to, in their order, itself first. -/
def nodesMet (rules : Rules) (node : Json) : List Json :=
  match node with
  | .object fields =>
    match _h : rules.content fields with
    | .ok content => .object fields :: nodesMetIn rules content.nodes
    | .error _ => [.object fields]
  | _ => [node]
termination_by sizeOf node
decreasing_by
  have := rules.sizeOf_items _h
  have := content.sizeOf_nodes
  simp only [Json.object.sizeOf_spec]
  omega

/-- The reading of a list comes to no node after one that cannot be read. -/
def nodesMetIn (rules : Rules) (nodes : List Json) : List Json :=
  match nodes with
  | [] => []
  | node :: nodes =>
    nodesMet rules node ++
      match (readNode rules node : Reading (Directive String)).outcome with
      | .ok _ => nodesMetIn rules nodes
      | .error _ => []
termination_by sizeOf nodes

end

theorem nodesMet_object (rules : Rules) (fields : Fields) :
    nodesMet rules (.object fields) = .object fields ::
      match rules.content fields with
      | .ok content => nodesMetIn rules content.nodes
      | .error _ => [] := by
  rw [nodesMet]
  split <;> simp only [*]

theorem nodesMet_other (rules : Rules) {node : Json} (other : ∀ fields, node ≠ .object fields) :
    nodesMet rules node = [node] := by
  cases node with
  | object fields => exact absurd rfl (other fields)
  | _ => rw [nodesMet]; simp

/-- The nodes that the lenient reading comes to behind the params section. -/
def Catalog.layoutMet (catalog : Catalog) (root : Fields) : List Json :=
  match (readParams catalog (root.valueAt "params") : Reading Unit).outcome with
  | .ok _ => Dashboard.nodesMet catalog.lenient (layoutOf root)
  | .error _ => []

/-- The nodes that the lenient reading of a document comes to: none unless data and params are in
order. -/
def Catalog.nodesMet (catalog : Catalog) (root : Json) : List Json :=
  match root with
  | .object fields =>
    match Source.materializations catalog.formats (Fields.valueAt fields "data") with
    | .ok _ => catalog.layoutMet fields
    | .error _ => []
  | _ => []

/-! ## Lenient reading finds nothing ambiguous -/

namespace Visit

/-- There is no fault here that only strict reading finds. -/
def Unambiguous (visits : List Visit) : Prop :=
  ∀ visit ∈ visits, ∀ keys fragment, visit.fault? ≠ some (.ambiguousLayout keys fragment)

theorem Faultless.unambiguous {visits : List Visit} (h : Faultless visits) :
    Unambiguous visits := by
  intro visit here keys fragment
  rw [h visit here]
  exact nofun

@[simp] theorem unambiguous_fault {e : DocumentError} :
    Unambiguous [fault e] ↔ ∀ keys fragment, e ≠ .ambiguousLayout keys fragment := by
  simp [Unambiguous, fault?]

@[simp] theorem unambiguous_append {first second : List Visit} :
    Unambiguous (first ++ second) ↔ Unambiguous first ∧ Unambiguous second :=
  List.forall_mem_append

@[simp] theorem unambiguous_flatMap {ι : Type} {visits : ι → List Visit} {is : List ι} :
    Unambiguous (is.flatMap visits) ↔ ∀ i ∈ is, Unambiguous (visits i) :=
  List.forall_mem_flatMap

theorem unambiguous_demand {α : Type} (found : Option α) {e : DocumentError}
    (other : ∀ keys fragment, e ≠ .ambiguousLayout keys fragment) :
    Unambiguous (demand found e) := by
  unfold demand
  split
  · exact faultless_nil.unambiguous
  · exact unambiguous_fault.2 other

theorem unambiguous_ofProperty (catalog : Catalog) (field : String × Json) :
    Unambiguous (ofProperty catalog field) := by
  refine unambiguous_append.2 ⟨unambiguous_demand _ nofun, ?_⟩
  split
  · exact faultless_nil.unambiguous
  · exact (faultless_ofValue _ _).unambiguous

theorem unambiguous_ofMarkData (data : Json) : Unambiguous (ofMarkData data) := by
  cases data with
  | object fields =>
    exact unambiguous_append.2
      ⟨unambiguous_demand _ nofun, (faultless_ofOptions _ _).unambiguous⟩
  | _ => exact unambiguous_fault.2 nofun

theorem unambiguous_ofMark (catalog : Catalog) (fields : Fields) :
    Unambiguous (ofMark catalog fields) := by
  unfold ofMark
  rw [unambiguous_append, unambiguous_append, unambiguous_flatMap, unambiguous_flatMap]
  exact ⟨⟨unambiguous_demand _ nofun, fun data _ => unambiguous_ofMarkData data⟩,
    fun _ _ => (faultless_ofChannel _ _).unambiguous⟩

theorem unambiguous_ofEntry (catalog : Catalog) (entry : Json) :
    Unambiguous (ofEntry catalog entry) := by
  unfold ofEntry
  cases entry with
  | object fields =>
    dsimp only
    split_ifs
    · exact unambiguous_ofMark catalog _
    · exact unambiguous_append.2
        ⟨unambiguous_demand _ nofun, (faultless_ofOptions _ _).unambiguous⟩
    · exact unambiguous_append.2
        ⟨unambiguous_demand _ nofun, (faultless_ofOptions _ _).unambiguous⟩
    · exact unambiguous_fault.2 nofun
  | _ => exact unambiguous_fault.2 nofun

theorem unambiguous_ofNode (catalog : Catalog) (node : Json) :
    Unambiguous (ofNode catalog.lenient node) := by
  induction node using Rules.induction catalog.lenient with
  | other node other =>
    rw [ofNode_other _ other]
    exact unambiguous_fault.2 nofun
  | object fields ih =>
    rw [ofNode_object]
    cases found : catalog.lenient.content fields with
    | error e =>
      refine unambiguous_fault.2 fun keys fragment same => ?_
      rw [same] at found
      exact Catalog.content_lenient_ne_ambiguous found
    | ok content =>
      have items := ih content found
      cases content with
      | plot entries =>
        exact unambiguous_append.2 ⟨unambiguous_flatMap.2 fun _ _ => unambiguous_ofProperty _ _,
          unambiguous_flatMap.2 fun _ _ => unambiguous_ofEntry _ _⟩
      | hconcat nodes =>
        show Unambiguous (ofNodes catalog.lenient nodes)
        rw [ofNodes_eq]
        exact unambiguous_flatMap.2 items
      | vconcat nodes =>
        show Unambiguous (ofNodes catalog.lenient nodes)
        rw [ofNodes_eq]
        exact unambiguous_flatMap.2 items
      | hspace size => exact faultless_nil.unambiguous
      | vspace size => exact faultless_nil.unambiguous
      | input name =>
        exact unambiguous_append.2
          ⟨unambiguous_demand _ nofun, (faultless_ofOptions _ _).unambiguous⟩

theorem unambiguous_ofParams (params : Table (Json → Live)) (value : Json) :
    Unambiguous (ofParams params value) := by
  unfold ofParams ofSection
  split
  · exact faultless_nil.unambiguous
  · refine unambiguous_flatMap.2 fun entry _ => ?_
    unfold ofParam
    dsimp only
    split
    · exact unambiguous_fault.2 nofun
    · exact (faultless_reference _).unambiguous
  · exact unambiguous_fault.2 nofun

end Visit

theorem Visit.Unambiguous.not_firstFault {visits : List Visit} (h : Unambiguous visits)
    (keys : List String) (fragment : Json) :
    ¬ FirstFault visits (.ambiguousLayout keys fragment) := by
  intro found
  obtain ⟨visit, here, fault⟩ := List.exists_of_findSome?_eq_some found
  exact h visit here keys fragment fault

/-- An ambiguity that lenient reading reports comes from the format of a source, and it is the
first fault of the data section. -/
theorem Catalog.lenient_ambiguous_iff {catalog : Catalog} {engine : Engine} {root : Json}
    {context : Context} {keys : List String} {fragment : Json} :
    ((Interpreting.document catalog.lenient engine root).runIn context).1 =
        .error (.ambiguousLayout keys fragment) ↔
      ∃ fields : Fields, root = .object fields ∧
        Source.DataFails catalog.formats (fields.valueAt "data")
          (.ambiguousLayout keys fragment) := by
  rw [(reports_document catalog.lenient engine root context).error_iff]
  cases root with
  | object fields =>
    have rest : Visit.Unambiguous (Visit.ofParams catalog.params (Fields.valueAt fields "params") ++
        Visit.ofNode catalog.lenient (layoutOf fields)) :=
      Visit.unambiguous_append.2 ⟨Visit.unambiguous_ofParams _ _, Visit.unambiguous_ofNode _ _⟩
    have parts : Visit.FirstFault (Visit.ofDocument catalog.lenient (.object fields))
        (.ambiguousLayout keys fragment) ↔
          Visit.FirstFault (Visit.ofData catalog.formats (Fields.valueAt fields "data"))
            (.ambiguousLayout keys fragment) :=
      Visit.firstFault_append.trans
        (or_iff_left fun more => rest.not_firstFault keys fragment more.2)
    rw [parts, firstFault_ofData]
    constructor
    · intro fails
      exact ⟨fields, rfl, fails⟩
    · rintro ⟨_, ⟨⟩, fails⟩
      exact fails
  | _ => exact iff_of_false nofun nofun

/-- If the data section is faulty, no node is met. -/
theorem Catalog.nodesMet_of_dataFails {catalog : Catalog} {fields : Fields} {e : DocumentError}
    (fails : Source.DataFails catalog.formats (fields.valueAt "data") e) :
    catalog.nodesMet (.object fields) = [] := by
  unfold Catalog.nodesMet
  dsimp only
  rw [fails.materializations]

end Dashboard
