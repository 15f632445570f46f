import Dashboard.Catalog.Standard
import Dashboard.Proofs.Identity
import Dashboard.Proofs.Numerals
import Dashboard.Proofs.Shuffling
/-!
# Handlers

The directive table picks a kind for a node and checks the value under the key of that kind. A
handler for the kind may look the value up again, and may have something to fall back on where it
finds nothing or nothing that fits. It never does: whatever a handler falls back on, a layout is
interpreted in the same way, and the tree shows what is written.
-/
namespace Dashboard

/-! ## Handlers with fallbacks -/

/-- Whether a node has the key of a kind, with a value that the kind accepts. -/
def DirectiveKind.fits (kind : DirectiveKind) (fields : Fields) : Bool :=
  (fields.lookup kind.key).any kind.accepts

/-- What handlers do where they do not find what they need. -/
structure Fallbacks (ρ : Type) (m : Type → Type) where
  /-- A handler is run on a node that does not fit its kind. -/
  unfit (kind : DirectiveKind) (fields : Fields) : m Unit
  /-- A key is looked up that is not there. -/
  missing {α : Type} (key : String) : m α
  /-- The entries of a plot without a list of them. -/
  items : List Json
  /-- The children of a concatenation without a list of them. -/
  children : m (List (Directive ρ))
  /-- The size of a space without a number. -/
  size : Binary64
  /-- The name of an input without a string. -/
  name : String

variable {ρ : Type} {m : Type → Type} [Reader ρ m]

def Fallbacks.lookup (fallbacks : Fallbacks ρ m) (fields : Fields) (key : String) : m Json :=
  match fields.lookup key with
  | some value => pure value
  | none => fallbacks.missing key

mutual

/-- Interprets a node through the handler of its kind. -/
def handleNode (fallbacks : Fallbacks ρ m) (rules : Rules) (node : Json) : m (Directive ρ) :=
  match node with
  | .object fields =>
    match rules.matching fields with
    | [] => Reader.fail (.notALayout node)
    | kind :: others =>
      if rules.strict ∧ others ≠ [] then
        Reader.fail (.ambiguousLayout ((kind :: others).map (·.key)) node)
      else do
        let value ← fallbacks.lookup fields kind.key
        if kind.accepts value then handle fallbacks rules kind fields
        else Reader.fail (.wrongPropertyType kind.key node)
  | _ => Reader.fail (.notALayout node)
termination_by (sizeOf node, 0)

/-- The handler of a kind. It knows only the node. -/
def handle (fallbacks : Fallbacks ρ m) (rules : Rules) (kind : DirectiveKind) (fields : Fields) :
    m (Directive ρ) := do
  if kind.fits fields then pure () else fallbacks.unfit kind fields
  match kind with
  | .plot =>
    let items := ((fields.lookup "plot").bind Json.array?).getD fallbacks.items
    .plot <$> readPlot rules.catalog fields items
  | .hconcat => .hconcat <$> handleChildren fallbacks rules "hconcat" fields
  | .vconcat => .vconcat <$> handleChildren fallbacks rules "vconcat" fields
  | .hspace => do
    let value ← fallbacks.lookup fields "hspace"
    pure (.hspace ((spaceOf? value).getD fallbacks.size))
  | .vspace => do
    let value ← fallbacks.lookup fields "vspace"
    pure (.vspace ((spaceOf? value).getD fallbacks.size))
  | .input => do
    let value ← fallbacks.lookup fields "input"
    readInput rules.catalog fields (value.string?.getD fallbacks.name)
termination_by (sizeOf fields, 1)

def handleChildren (fallbacks : Fallbacks ρ m) (rules : Rules) (key : String) (fields : Fields) :
    m (List (Directive ρ)) :=
  match _h : fields.lookup key with
  | none => fallbacks.missing key
  | some value =>
    match _h' : value.array? with
    | none => fallbacks.children
    | some items => handleNodes fallbacks rules items
termination_by (sizeOf fields, 0)
decreasing_by
  have := sizeOf_lt_of_lookup _h
  have := Json.sizeOf_array _h'
  apply Prod.Lex.left
  omega

def handleNodes (fallbacks : Fallbacks ρ m) (rules : Rules) (nodes : List Json) :
    m (List (Directive ρ)) :=
  match nodes with
  | [] => pure []
  | node :: nodes => do
    let first ← handleNode fallbacks rules node
    let others ← handleNodes fallbacks rules nodes
    return first :: others
termination_by (sizeOf nodes, 0)

end

/-! ## No fallback is taken -/

theorem Fallbacks.lookup_of_some (fallbacks : Fallbacks ρ m) {fields : Fields} {key : String}
    {value : Json} (here : fields.lookup key = some value) :
    fallbacks.lookup fields key = pure value := by
  rw [lookup, here]

theorem handleNodes_eq (fallbacks : Fallbacks ρ m) {rules : Rules} {nodes : List Json}
    (each : ∀ node ∈ nodes, handleNode fallbacks rules node = readNode rules node) :
    handleNodes fallbacks rules nodes = readNodes rules nodes := by
  induction nodes with
  | nil => rw [handleNodes, readNodes]
  | cons node nodes ih =>
    have others := ih fun node inside => each node (List.mem_cons_of_mem _ inside)
    rw [handleNodes, readNodes, each node List.mem_cons_self, others]

theorem handleChildren_eq (fallbacks : Fallbacks ρ m) {rules : Rules} {fields : Fields}
    {key : String} {nodes : List Json} (here : fields.lookup key = some (.array nodes))
    (each : ∀ node ∈ nodes, handleNode fallbacks rules node = readNode rules node) :
    handleChildren fallbacks rules key fields = readNodes rules nodes := by
  rw [handleChildren]
  split
  · next missing =>
    rw [here] at missing
    cases missing
  · next value found =>
    obtain rfl := Option.some.inj (here.symm.trans found)
    exact handleNodes_eq fallbacks each

variable [LawfulMonad m]

/-- A handler that is run where its kind decides finds what it needs. -/
theorem handle_eq (fallbacks : Fallbacks ρ m) {rules : Rules} {fields : Fields}
    {kind : DirectiveKind} {value : Json} {content : NodeContent}
    (here : fields.lookup kind.key = some value) (shown : kind.content? value = some content)
    (found : rules.content fields = .ok content)
    (each : ∀ node ∈ content.items, handleNode fallbacks rules node = readNode rules node) :
    handle fallbacks rules kind fields = readNode rules (.object fields) := by
  have fits : kind.fits fields = true := by
    simp [DirectiveKind.fits, here, DirectiveKind.accepts, shown]
  rw [handle.eq_def, if_pos fits, readNode_object, found]
  cases kind <;> rw [DirectiveKind.key] at here <;>
    obtain ⟨written, shape, rfl⟩ := Option.map_eq_some_iff.1 shown
  case plot => simp only [here, Option.bind_some, shape, Option.getD_some]
  case hconcat | vconcat =>
    obtain rfl := Json.array?_eq_some.1 shape
    simp only [handleChildren_eq fallbacks here each]
  case hspace | vspace | input =>
    simp only [fallbacks.lookup_of_some here, pure_bind, shape, Option.getD_some]

/-- The kind that decides has its key in the node. -/
theorem Rules.present_of_matching {rules : Rules} {fields : Fields} {kind : DirectiveKind}
    {others : List DirectiveKind} (matching : rules.matching fields = kind :: others) :
    ∃ value, fields.lookup kind.key = some value ∧ value ≠ .null := by
  have inside : kind ∈ rules.matching fields := by simp [matching]
  have present := (List.mem_filter.1 inside).2
  obtain ⟨value, present⟩ := Option.isSome_iff_exists.1 present
  exact ⟨value, Fields.present?_eq_some.1 present⟩

/-- Handlers interpret a layout as it is read, whatever they fall back on. -/
theorem handleNode_eq (fallbacks : Fallbacks ρ m) (rules : Rules) (node : Json) :
    handleNode fallbacks rules node = readNode rules node := by
  induction node using Rules.induction rules with
  | other node other =>
    rw [readNode_other rules other]
    cases node with
    | object fields => exact absurd rfl (other fields)
    | _ => rw [handleNode]; simp
  | object fields ih =>
    rw [handleNode]
    cases matching : rules.matching fields with
    | nil =>
      have refused : rules.content fields = .error (.notALayout (.object fields)) := by
        rw [Rules.content, matching]
      rw [readNode_object, refused]
    | cons kind others =>
      by_cases several : rules.strict = true ∧ others ≠ []
      · rw [readNode_object, Rules.content_of_several matching several]
        simp only [if_pos several]
      · obtain ⟨value, here, -⟩ := Rules.present_of_matching matching
        simp only [if_neg several, fallbacks.lookup_of_some here, pure_bind]
        cases shown : kind.content? value with
        | none =>
          have refused : rules.content fields =
              .error (.wrongPropertyType kind.key (.object fields)) := by
            simp only [Rules.content, matching, if_neg several, here, Option.bind_some, shown]
          simp only [DirectiveKind.accepts, shown, readNode_object, refused]
          rfl
        | some content =>
          have found : rules.content fields = .ok content := by
            simp only [Rules.content, matching, if_neg several, here, Option.bind_some, shown]
          rw [if_pos (by simp [DirectiveKind.accepts, shown])]
          exact handle_eq fallbacks here shown found (ih content found)

/-! ## What a tree shows of its layout -/

/-- A tree shows exactly what is written under the keys of its kinds: as many children and entries
as there are items, the size that a number or a text spells, the widget that the written name
stands for. -/
inductive Directive.Exact (rules : Rules) : Json → Directive ρ → Prop
  | plot {fields : Fields} {items : List Json} {entries : List (PlotEntry ρ)} :
      fields.lookup "plot" = some (.array items) →
      (entries.filter (!·.isProperty)).length = items.length →
      Exact rules (.object fields) (.plot entries)
  | hconcat {fields : Fields} {nodes : List Json} {items : List (Directive ρ)} :
      fields.lookup "hconcat" = some (.array nodes) → List.Forall₂ (Exact rules) nodes items →
      Exact rules (.object fields) (.hconcat items)
  | vconcat {fields : Fields} {nodes : List Json} {items : List (Directive ρ)} :
      fields.lookup "vconcat" = some (.array nodes) → List.Forall₂ (Exact rules) nodes items →
      Exact rules (.object fields) (.vconcat items)
  | hspace {fields : Fields} {value : Json} {size : Binary64} :
      fields.lookup "hspace" = some value → spaceOf? value = some size →
      Exact rules (.object fields) (.hspace size)
  | vspace {fields : Fields} {value : Json} {size : Binary64} :
      fields.lookup "vspace" = some value → spaceOf? value = some size →
      Exact rules (.object fields) (.vspace size)
  | input {fields : Fields} {name type : String} {options : Options ρ} :
      fields.lookup "input" = some (.string name) → rules.catalog.inputs.lookup name = some type →
      Exact rules (.object fields) (.input type options)

theorem PlotEntry.Mirrors.isProperty {binds : String → ρ → Prop} {catalog : Catalog}
    {item : Json} {entry : PlotEntry ρ} (h : entry.Mirrors binds catalog item) :
    entry.isProperty = false := by
  cases h <;> rfl

theorem PlotEntry.MirrorsProperty.isProperty {binds : String → ρ → Prop} {catalog : Catalog}
    {field : String × Json} {entry : PlotEntry ρ}
    (h : entry.MirrorsProperty binds catalog field) : entry.isProperty = true := by
  cases h
  rfl

/-- Behind its properties a plot has an entry for each item. -/
theorem PlotEntry.MirrorPlot.length {binds : String → ρ → Prop} {catalog : Catalog}
    {fields : Fields} {items : List Json} {entries : List (PlotEntry ρ)}
    (h : MirrorPlot binds catalog fields items entries) :
    (entries.filter (!·.isProperty)).length = items.length := by
  cases h with
  | @mk properties others first second =>
    have some : ∀ entry ∈ properties, entry.isProperty = true :=
      ((List.forall₂_and_left _ _).1
        (first.flip.imp fun _ _ mirrors => ⟨mirrors.isProperty, mirrors⟩)).1
    have none : ∀ entry ∈ others, entry.isProperty = false :=
      ((List.forall₂_and_left _ _).1
        (second.flip.imp fun _ _ mirrors => ⟨mirrors.isProperty, mirrors⟩)).1
    have dropped : properties.filter (!·.isProperty) = [] := by
      rw [List.filter_eq_nil_iff]
      intro entry inside
      simp [some entry inside]
    have kept : others.filter (!·.isProperty) = others := by
      rw [List.filter_eq_self]
      intro entry inside
      simp [none entry inside]
    rw [List.filter_append, dropped, kept, List.nil_append, second.length_eq]

/-- What is written in a node of this content, under the key of its kind. -/
def NodeContent.Written (fields : Fields) : NodeContent → Prop
  | plot items => fields.lookup "plot" = some (.array items)
  | hconcat items => fields.lookup "hconcat" = some (.array items)
  | vconcat items => fields.lookup "vconcat" = some (.array items)
  | hspace size => ∃ value, fields.lookup "hspace" = some value ∧ spaceOf? value = some size
  | vspace size => ∃ value, fields.lookup "vspace" = some value ∧ spaceOf? value = some size
  | input name => fields.lookup "input" = some (.string name)

theorem Rules.written_of_content {rules : Rules} {fields : Fields} {content : NodeContent}
    (found : rules.content fields = .ok content) : content.Written fields := by
  obtain ⟨value, here, shown⟩ := lookup_of_content found
  cases content <;> obtain ⟨written, shape, same⟩ := Option.map_eq_some_iff.1 shown <;> cases same
  case plot | hconcat | vconcat =>
    obtain rfl := Json.array?_eq_some.1 shape
    exact here
  case hspace | vspace => exact ⟨value, here, shape⟩
  case input =>
    obtain rfl := Json.string?_eq_some.1 shape
    exact here

mutual

theorem Directive.Mirrors.exact {binds : String → ρ → Prop} {rules : Rules} {node : Json}
    {tree : Directive ρ} (h : tree.Mirrors binds rules node) : tree.Exact rules node := by
  cases h with
  | plot found entries => exact .plot (Rules.written_of_content found) entries.length
  | hconcat found items =>
    exact .hconcat (Rules.written_of_content found) (Directive.Mirrors.exact_all items)
  | vconcat found items =>
    exact .vconcat (Rules.written_of_content found) (Directive.Mirrors.exact_all items)
  | hspace found =>
    obtain ⟨value, here, spelled⟩ := Rules.written_of_content found
    exact .hspace here spelled
  | vspace found =>
    obtain ⟨value, here, spelled⟩ := Rules.written_of_content found
    exact .vspace here spelled
  | input found known _ => exact .input (Rules.written_of_content found) known

theorem Directive.Mirrors.exact_all {binds : String → ρ → Prop} {rules : Rules}
    {nodes : List Json} {trees : List (Directive ρ)}
    (h : List.Forall₂ (Directive.Mirrors binds rules) nodes trees) :
    List.Forall₂ (Directive.Exact rules) nodes trees := by
  cases h with
  | nil => exact .nil
  | cons first others =>
    exact .cons (Directive.Mirrors.exact first) (Directive.Mirrors.exact_all others)

end

/-- Handlers are run on nodes that fit their kinds only, for any directive table: whatever they do
where a node does not fit or a value is missing, they interpret a layout in the same way. So the
tree of a layout shows exactly what is written in it, and the size of a space prints as a number. -/
theorem handlers_need_no_fallback (session : Session) :
    (∀ (fallbacks : Fallbacks Handle Interpreting) (node : Json),
      handleNode fallbacks session.rules node = readNode session.rules node) ∧
    (∀ node tree, (session.interpret node).outcome = .ok tree →
      tree.Exact session.rules node) ∧
    (∀ root document, (session.interpretDocument (.object root)).outcome = .ok document →
      document.layout.Exact session.rules (layoutOf root)) ∧
    ∀ (size : Binary64) (store : Store), ∃ numeral, Json.IsNumeral numeral ∧
      (Directive.hspace size).json store = .object [("hspace", .number (.real size))] ∧
      (Directive.vspace size).json store = .object [("vspace", .number (.real size))] ∧
      (Json.number (.real size)).compact.toList =
        (if size.negative then ['-'] else []) ++ numeral := by
  refine ⟨fun fallbacks node => handleNode_eq fallbacks session.rules node,
    fun node tree accepted => ?_, fun root document accepted => ?_, fun size store => ?_⟩
  · have mirrors := (follows_readNode session.rules node session.toContext).holds accepted
    exact mirrors.exact
  · exact (mirrors_of_accepted accepted).layout.exact
  · obtain ⟨numeral, shape, written⟩ := size.exists_numeral_text
    exact ⟨numeral, shape, rfl, rfl, written⟩

/-- The table has spaces twice, and they come last. -/
theorem handlers_need_no_fallback_of_spaces :
    let rules : Rules :=
      { catalog := { Standard.catalog with directives := [.plot, .hconcat, .vspace, .vspace] } }
    let node : Json := .object [("vspace", .string " 1e1 "), ("plot", .null)]
    let tree : Directive Handle := .vspace ⟨false, 5629499534213120, -49, by decide⟩
    (({ rules } : Session).interpret node).outcome = .ok tree ∧ tree.Exact rules node := by
  intro rules node tree
  have accepted : (({ rules } : Session).interpret node).outcome = .ok tree := by
    show (Interpreting.runIn (readNode rules node) {}).1 = _
    rw [readNode_object]
    rfl
  exact ⟨accepted, (handlers_need_no_fallback { rules }).2.1 node tree accepted⟩

end Dashboard
