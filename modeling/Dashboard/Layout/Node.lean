import Dashboard.Layout.Plot
/-!
# Layout nodes

A layout node is an object. The first key of the directive table that it holds, null counting as
absent, says what it is; other keys of that table are ignored, or refused in strict mode.
-/
namespace Dashboard

/-- The directives of the table that a node holds, in the order of the table. -/
def Rules.matching (rules : Rules) (fields : Fields) : List DirectiveKind :=
  rules.catalog.directives.filter fun kind => (fields.present? kind.key).isSome

/-- The content of a node under the key that decides. -/
def Rules.content (rules : Rules) (fields : Fields) : Except DocumentError NodeContent :=
  match rules.matching fields with
  | [] => .error (.notALayout (.object fields))
  | kind :: others =>
    if rules.strict ∧ others ≠ [] then
      .error (.ambiguousLayout ((kind :: others).map (·.key)) (.object fields))
    else
      match (fields.lookup kind.key).bind kind.content? with
      | some content => .ok content
      | none => .error (.wrongPropertyType kind.key (.object fields))

def NodeContent.items : NodeContent → List Json
  | plot items => items
  | hconcat items => items
  | vconcat items => items
  | _ => []

theorem Json.sizeOf_pos (v : Json) : 1 ≤ sizeOf v := by
  cases v <;> simp

theorem Json.sizeOf_array {v : Json} {items : List Json} (h : v.array? = some items) :
    sizeOf items ≤ sizeOf v := by
  cases v <;> cases h
  simp

theorem DirectiveKind.sizeOf_items {kind : DirectiveKind} {value : Json} {content : NodeContent}
    (h : kind.content? value = some content) : sizeOf content.items ≤ sizeOf value := by
  cases kind <;> obtain ⟨_, found, rfl⟩ := Option.map_eq_some_iff.1 h
  case plot => exact Json.sizeOf_array found
  case hconcat => exact Json.sizeOf_array found
  case vconcat => exact Json.sizeOf_array found
  all_goals exact value.sizeOf_pos

theorem Rules.sizeOf_items {rules : Rules} {fields : Fields} {content : NodeContent}
    (h : rules.content fields = .ok content) : sizeOf content.items < sizeOf fields := by
  unfold Rules.content at h
  split at h
  · cases h
  · split at h
    · cases h
    · split at h
      · next found =>
        cases h
        obtain ⟨value, here, fits⟩ := Option.bind_eq_some_iff.1 found
        exact Nat.lt_of_le_of_lt (DirectiveKind.sizeOf_items fits) (sizeOf_lt_of_lookup here)
      · cases h

variable {ρ : Type} {m : Type → Type} [Reader ρ m]

/-- Reads an input and its options. -/
def readInput (catalog : Catalog) (fields : Fields) (name : String) : m (Directive ρ) :=
  match catalog.inputs.lookup name with
  | none => Reader.fail (.unknownInput (.object fields))
  | some type => .input type <$> readOptions (Table.without fields ["input"])

mutual

/-- Reads a layout node. -/
def readNode (rules : Rules) (node : Json) : m (Directive ρ) :=
  match node with
  | .object fields =>
    match _h : rules.content fields with
    | .error e => Reader.fail e
    | .ok (.plot items) => .plot <$> readPlot rules.catalog fields items
    | .ok (.hconcat items) => .hconcat <$> readNodes rules items
    | .ok (.vconcat items) => .vconcat <$> readNodes rules items
    | .ok (.hspace size) => pure (.hspace size)
    | .ok (.vspace size) => pure (.vspace size)
    | .ok (.input name) => readInput rules.catalog fields name
  | _ => Reader.fail (.notALayout node)
termination_by sizeOf node
decreasing_by
  all_goals
    have := rules.sizeOf_items _h
    simp only [NodeContent.items] at this
    simp only [Json.object.sizeOf_spec]
    omega

def readNodes (rules : Rules) (nodes : List Json) : m (List (Directive ρ)) :=
  match nodes with
  | [] => pure []
  | node :: nodes => do
    let first ← readNode rules node
    let others ← readNodes rules nodes
    return first :: others
termination_by sizeOf nodes

end

theorem readNode_object (rules : Rules) (fields : Fields) :
    (readNode rules (.object fields) : m (Directive ρ)) =
      match rules.content fields with
      | .error e => Reader.fail e
      | .ok (.plot items) => .plot <$> readPlot rules.catalog fields items
      | .ok (.hconcat items) => .hconcat <$> readNodes rules items
      | .ok (.vconcat items) => .vconcat <$> readNodes rules items
      | .ok (.hspace size) => pure (.hspace size)
      | .ok (.vspace size) => pure (.vspace size)
      | .ok (.input name) => readInput rules.catalog fields name := by
  rw [readNode]
  split <;> simp only [*]

theorem readNode_other (rules : Rules) {node : Json} (other : ∀ fields, node ≠ .object fields) :
    (readNode rules node : m (Directive ρ)) = Reader.fail (.notALayout node) := by
  cases node with
  | object fields => exact absurd rfl (other fields)
  | _ => rw [readNode]; simp

theorem readNodes_eq [LawfulMonad m] (rules : Rules) (nodes : List Json) :
    (readNodes rules nodes : m (List (Directive ρ))) = nodes.mapM (readNode rules) := by
  induction nodes with
  | nil => rw [readNodes, List.mapM_nil]
  | cons node nodes ih => rw [readNodes, List.mapM_cons, ih]

/-- What holds of a node if it holds of the nodes inside it holds of every node. -/
theorem Rules.induction (rules : Rules) {P : Json → Prop}
    (other : ∀ node, (∀ fields, node ≠ .object fields) → P node)
    (object : ∀ fields,
      (∀ content, rules.content fields = .ok content → ∀ item ∈ content.items, P item) →
      P (.object fields))
    (node : Json) : P node := by
  cases node with
  | object fields =>
    refine object fields fun content found item inside => ?_
    have smaller : sizeOf item < sizeOf (Json.object fields) := by
      have := List.sizeOf_lt_of_mem inside
      have := rules.sizeOf_items found
      simp only [Json.object.sizeOf_spec]
      omega
    exact rules.induction other object item
  | _ => exact other _ nofun
termination_by sizeOf node
decreasing_by exact smaller

end Dashboard
