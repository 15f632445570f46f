import Dashboard.Catalog.Standard
import Dashboard.Proofs.Matching
/-!
# Keys that lose

The first key of the directive table that a node holds decides what the node is. The keys of other
directives have lost, and a plot, a concatenation and a space ignore them. An input keeps them: as
the input comes last in the standard table, they are all null there, and each of them is an option
without a value.
-/
namespace Dashboard

/-! ## The other keys -/

namespace DirectiveKind

/-- The keys of the other directives. -/
def otherKeys (kind : DirectiveKind) : List String :=
  (all.filter (· ≠ kind)).map key

theorem mem_all (kind : DirectiveKind) : kind ∈ all := by
  cases kind <;> decide

theorem key_notMem_otherKeys (kind : DirectiveKind) : kind.key ∉ kind.otherKeys := by
  cases kind <;> decide

theorem mem_otherKeys {kind : DirectiveKind} {key : String} :
    key ∈ kind.otherKeys ↔ ∃ other, other ≠ kind ∧ other.key = key := by
  simp [otherKeys, mem_all]

theorem otherKeys_subset (kind : DirectiveKind) : kind.otherKeys ⊆ all.map key :=
  List.map_subset key (List.filter_subset_self all)

end DirectiveKind

/-- A directive without the options of some keys. -/
def Directive.withoutOptions {ρ : Type} (keys : List String) : Directive ρ → Directive ρ
  | .input type options => .input type (options.without keys)
  | tree => tree

section Deciding
variable {rules : Rules} {fields : Fields} {kind : DirectiveKind}

theorem present_of_wins (wins : (rules.matching fields).head? = some kind) :
    (fields.present? kind.key).isSome := by
  have inside := List.mem_of_mem_head? wins
  exact (List.mem_filter.1 inside).2

/-- The winner alone is left. -/
theorem matching_without_others (table : rules.catalog.directives = DirectiveKind.all)
    (wins : (rules.matching fields).head? = some kind) :
    rules.matching (fields.without kind.otherKeys) = [kind] := by
  have only : ∀ other ∈ DirectiveKind.all,
      (Fields.present? (fields.without kind.otherKeys) other.key).isSome = (other == kind) := by
    intro other _
    by_cases same : other = kind
    · subst same
      rw [Fields.present?_congr (Table.lookup_without other.key_notMem_otherKeys fields),
        present_of_wins wins, beq_self_eq_true]
    · have lost : other.key ∈ kind.otherKeys := DirectiveKind.mem_otherKeys.2 ⟨other, same, rfl⟩
      rw [Fields.present?, Table.lookup_without_of_mem lost, beq_false_of_ne same]
      rfl
  unfold Rules.matching
  rw [table, List.filter_congr only]
  cases kind <;> rfl

/-- In lenient mode the winner decides alone. -/
theorem content_of_wins (lenient : rules.strict = false)
    (wins : (rules.matching fields).head? = some kind) :
    rules.content fields =
      match (fields.lookup kind.key).bind kind.content? with
      | some content => .ok content
      | none => .error (.wrongPropertyType kind.key (.object fields)) := by
  unfold Rules.content
  cases matching : rules.matching fields with
  | nil =>
    rw [matching] at wins
    cases wins
  | cons first others =>
    rw [matching] at wins
    obtain rfl : first = kind := Option.some.inj wins
    exact if_neg fun both => Bool.false_ne_true (lenient.symm.trans both.1)

theorem kind_of_wins (wins : (rules.matching fields).head? = some kind) {content : NodeContent}
    (found : rules.content fields = .ok content) : content.kind = kind := by
  obtain ⟨first, others, matching, -, here⟩ := Rules.content_eq_ok.1 found
  obtain ⟨value, -, fits⟩ := Option.bind_eq_some_iff.1 here
  rw [matching] at wins
  exact (DirectiveKind.eq_kind fits).symm.trans (Option.some.inj wins)

end Deciding

/-! ## Reading without them -/

/-- An option that is null is read as null and binds nothing. -/
theorem readOptions_without {fields : Fields} {dropped : List String}
    (null : ∀ field ∈ fields, field.1 ∈ dropped → field.2 = .null) :
    (readOptions (fields.without dropped) : Interpreting (Options Handle)) =
      (Table.without · dropped) <$> readOptions fields := by
  unfold readOptions readFields
  induction fields with
  | nil => rfl
  | cons field fields ih =>
    have rest := ih fun field inside => null field (List.mem_cons_of_mem _ inside)
    have here := null field List.mem_cons_self
    obtain ⟨key, value⟩ := field
    rw [Table.without_cons]
    split
    · next lost =>
      obtain rfl : value = .null := here lost
      rw [rest, List.mapM_cons]
      simp [readValue, referenceName?, Table.without_cons, lost]
    · next kept =>
      rw [List.mapM_cons, List.mapM_cons, rest]
      simp [Table.without_cons, kept]

section Reading
variable {rules : Rules} {fields : Fields} {kind : DirectiveKind}
  (table : rules.catalog.directives = DirectiveKind.all)
include table

theorem readPlot_without_others (items : List Json) :
    (readPlot rules.catalog (fields.without kind.otherKeys) items :
      Interpreting (List (PlotEntry Handle))) = readPlot rules.catalog fields items := by
  unfold readPlot
  rw [table, Table.without_without kind.otherKeys_subset]

/-- The input comes last in the table, so nothing else is there if it wins. -/
theorem absent_of_input_wins (wins : (rules.matching fields).head? = some .input)
    {other : DirectiveKind} (lost : other ≠ .input) : fields.present? other.key = none := by
  rw [← Option.not_isSome_iff_eq_none]
  intro present
  have matches_other : other ∈ rules.matching fields :=
    List.mem_filter.2 ⟨table ▸ other.mem_all, present⟩
  have ordered : (rules.matching fields).Sublist DirectiveKind.all :=
    table ▸ List.filter_sublist
  cases matching : rules.matching fields with
  | nil =>
    rw [matching] at wins
    cases wins
  | cons first rest =>
    rw [matching] at wins matches_other ordered
    obtain rfl : first = .input := Option.some.inj wins
    have later : other ∈ rest := List.mem_of_ne_of_mem lost matches_other
    have pair : [.input, other].Sublist DirectiveKind.all :=
      ((List.singleton_sublist.2 later).cons_cons _).trans ordered
    revert pair
    cases other <;> decide

theorem null_of_input_wins (distinct : fields.names.Nodup)
    (wins : (rules.matching fields).head? = some .input) {field : String × Json}
    (inside : field ∈ fields) (lost : field.1 ∈ DirectiveKind.input.otherKeys) :
    field.2 = .null := by
  obtain ⟨other, different, same⟩ := DirectiveKind.mem_otherKeys.1 lost
  have here : fields.lookup other.key = some field.2 := by
    rw [same]
    exact (Table.lookup_eq_some_iff_mem distinct).2 inside
  by_contra notNull
  have present := Fields.present?_eq_some.2 ⟨here, notNull⟩
  rw [absent_of_input_wins table wins different] at present
  cases present

theorem lockstep_readInput_without_others (distinct : fields.names.Nodup)
    (wins : (rules.matching fields).head? = some .input) (name : String) :
    Lockstep (fun tree rest => rest = tree.withoutOptions DirectiveKind.input.otherKeys)
      (readInput rules.catalog fields name)
      (readInput rules.catalog (fields.without DirectiveKind.input.otherKeys) name) := by
  have null : ∀ field ∈ fields.without ["input"],
      field.1 ∈ DirectiveKind.input.otherKeys → field.2 = .null :=
    fun field inside => null_of_input_wins table distinct wins (List.mem_of_mem_filter inside)
  unfold readInput
  cases rules.catalog.inputs.lookup name with
  | none => exact lockstep_fail rfl
  | some type =>
    dsimp only
    rw [Table.without_comm, readOptions_without null, Functor.map_map]
    refine lockstep_map (lockstep_refl _) ?_
    rintro options _ rfl
    rfl

/-- A node and the node without the keys that lost are read in lockstep. Their trees differ only in
the options under these keys. -/
theorem lockstep_without_others (lenient : rules.strict = false) (distinct : fields.names.Nodup)
    (wins : (rules.matching fields).head? = some kind) :
    Lockstep (fun tree rest => rest = tree.withoutOptions kind.otherKeys)
      (readNode rules (.object fields))
      (readNode rules (.object (fields.without kind.otherKeys))) := by
  have wins' : (rules.matching (fields.without kind.otherKeys)).head? = some kind := by
    rw [matching_without_others table wins]
    rfl
  rw [readNode_object, readNode_object, content_of_wins lenient wins,
    content_of_wins lenient wins', Table.lookup_without kind.key_notMem_otherKeys]
  cases found : (fields.lookup kind.key).bind kind.content? with
  | none => exact lockstep_fail rfl
  | some content =>
    -- only an input reads the whole node for its options
    cases content with
    | plot items =>
      dsimp only
      rw [readPlot_without_others table]
      exact lockstep_map (lockstep_refl _) fun _ _ same => congrArg _ same.symm
    | hconcat nodes => exact lockstep_map (lockstep_refl _) fun _ _ same => congrArg _ same.symm
    | vconcat nodes => exact lockstep_map (lockstep_refl _) fun _ _ same => congrArg _ same.symm
    | hspace size => exact lockstep_pure rfl
    | vspace size => exact lockstep_pure rfl
    | input name =>
      obtain ⟨value, -, fits⟩ := Option.bind_eq_some_iff.1 found
      obtain rfl : kind = .input := DirectiveKind.eq_kind fits
      exact lockstep_readInput_without_others table distinct wins name

end Reading

/-! ## What an input keeps -/

theorem Options.Mirror.of_mem {ρ : Type} {mirrors : Json → Resolved ρ → Prop} {fields : Fields}
    {options : Options ρ} (h : Options.Mirror mirrors fields options)
    {option : String × Resolved ρ} (inside : option ∈ options) :
    ∃ field ∈ fields, field.1 = option.1 ∧ mirrors field.2 option.2 := by
  induction h with
  | nil => cases inside
  | @cons field first fields options related _ ih =>
    obtain rfl | later := List.mem_cons.1 inside
    · exact ⟨field, List.mem_cons_self, related⟩
    · obtain ⟨field, among, same⟩ := ih later
      exact ⟨field, List.mem_cons_of_mem _ among, same⟩

theorem Options.Mirror.names {ρ : Type} {mirrors : Json → Resolved ρ → Prop} {fields : Fields}
    {options : Options ρ} (h : Options.Mirror mirrors fields options) :
    options.names = fields.names := by
  induction h with
  | nil => rfl
  | cons related _ ih => exact congrArg₂ List.cons related.1.symm ih

theorem Table.without_eq_self {α : Type} {t : Table α} {reserved : List String} :
    t.without reserved = t ↔ ∀ name ∈ reserved, name ∉ t.names := by
  unfold without names
  rw [List.filter_eq_self]
  simp only [List.mem_map]
  constructor
  · rintro kept name inside ⟨e, among, rfl⟩
    have outside := kept e among
    simp [inside] at outside
  · intro free e among
    have outside : e.1 ∉ reserved := fun inside => free e.1 inside ⟨e, among, rfl⟩
    simp [outside]

section Keeping
variable {ρ : Type} {binds : String → ρ → Prop} {rules : Rules} {fields : Fields}
  {kind : DirectiveKind} {tree : Directive ρ}
  (mirrors : tree.Mirrors binds rules (.object fields))
  (wins : (rules.matching fields).head? = some kind)
include mirrors wins

/-- The keys that lost show in the tree exactly if an input has some of them. -/
theorem withoutOptions_eq_self :
    tree.withoutOptions kind.otherKeys = tree ↔
      (kind = .input → ∀ key ∈ kind.otherKeys, key ∉ fields.names) := by
  cases mirrors with
  | @input _ name type options found known options_mirror =>
    obtain rfl : DirectiveKind.input = kind := kind_of_wins wins found
    have same (key : String) (lost : key ∈ DirectiveKind.input.otherKeys) :
        key ∈ options.names ↔ key ∈ fields.names := by
      have other : key ∉ ["input"] := by
        rintro here
        obtain rfl := List.mem_singleton.1 here
        exact DirectiveKind.input.key_notMem_otherKeys lost
      rw [options_mirror.names, Table.mem_names, Table.mem_names, Table.lookup_without other]
    rw [Directive.withoutOptions, Directive.input.injEq, Table.without_eq_self]
    constructor
    · rintro ⟨-, free⟩ - key lost
      exact mt (same key lost).2 (free key lost)
    · intro free
      exact ⟨rfl, fun key lost => mt (same key lost).1 (free rfl key lost)⟩
  | plot found _ =>
    obtain rfl := kind_of_wins wins found
    exact iff_of_true rfl nofun
  | hconcat found _ =>
    obtain rfl := kind_of_wins wins found
    exact iff_of_true rfl nofun
  | vconcat found _ =>
    obtain rfl := kind_of_wins wins found
    exact iff_of_true rfl nofun
  | hspace found =>
    obtain rfl := kind_of_wins wins found
    exact iff_of_true rfl nofun
  | vspace found =>
    obtain rfl := kind_of_wins wins found
    exact iff_of_true rfl nofun

/-- All that an input keeps under these keys is null. -/
theorem literal_null_of_lost (table : rules.catalog.directives = DirectiveKind.all)
    (distinct : fields.names.Nodup) {type : String} {options : Options ρ}
    (shape : tree = .input type options) {option : String × Resolved ρ}
    (inside : option ∈ options) (lost : option.1 ∈ kind.otherKeys) :
    option.2 = .literal .null := by
  subst shape
  cases mirrors with
  | input found known options_mirror =>
    obtain rfl : DirectiveKind.input = kind := kind_of_wins wins found
    obtain ⟨field, among, same, mirrors⟩ := options_mirror.of_mem inside
    have null : field.2 = .null :=
      null_of_input_wins table distinct wins (List.mem_of_mem_filter among) (same ▸ lost)
    rw [null] at mirrors
    generalize option.2 = resolved at mirrors
    cases mirrors with
    | literal _ => rfl
    | reference named _ => cases named

end Keeping

/-- Interpreting a node and interpreting it without the directive keys that lost succeed together
and leave the same session. The trees are the same unless the node is an input that has some of
these keys; then it has them as options, which are null. -/
theorem losing_keys_ignored_but_by_inputs (session : Session)
    (lenient : session.rules.strict = false)
    (table : session.rules.catalog.directives = DirectiveKind.all) {fields : Fields}
    (distinct : fields.names.Nodup) {kind : DirectiveKind}
    (wins : (session.rules.matching fields).head? = some kind) :
    let answered := session.interpret (.object fields)
    let alone := session.interpret (.object (fields.without kind.otherKeys))
    ((∃ tree, answered.outcome = .ok tree) ↔ ∃ tree, alone.outcome = .ok tree) ∧
    alone.session = answered.session ∧
    ∀ tree, answered.outcome = .ok tree →
      alone.outcome = .ok (tree.withoutOptions kind.otherKeys) ∧
      (tree.withoutOptions kind.otherKeys = tree ↔
        (kind = .input → ∀ key ∈ kind.otherKeys, key ∉ fields.names)) ∧
      ∀ type options, tree = .input type options →
        ∀ option ∈ options, option.1 ∈ kind.otherKeys → option.2 = .literal .null := by
  intro answered alone
  obtain ⟨after, outcome⟩ := lockstep_without_others table lenient distinct wins
  have ends : EndAlike (fun tree rest => rest = tree.withoutOptions kind.otherKeys)
      answered.outcome alone.outcome := outcome session.toContext
  refine ⟨ends.ok_iff, ?_, fun tree accepted => ?_⟩
  · have context : alone.session.toContext = answered.session.toContext :=
      (after session.toContext).symm
    exact congrArg (fun context : Context => { session with toContext := context }) context
  · have mirrors := (follows_readNode session.rules _ session.toContext).holds accepted
    refine ⟨?_, withoutOptions_eq_self mirrors wins,
      fun type options shape option inside lost =>
        literal_null_of_lost mirrors wins table distinct shape inside lost⟩
    rw [accepted] at ends
    generalize alone.outcome = outcome at ends
    cases ends with
    | ok same => rw [same]

/-- A plot with a space that lost and an input that is null. -/
theorem losing_keys_ignored_but_by_inputs_of_plot :
    let session : Session := { rules := { catalog := Standard.catalog } }
    let fields : Fields := [("vspace", .string "5"), ("plot", .array []), ("input", .null)]
    let answered := session.interpret (.object fields)
    let alone := session.interpret (.object (fields.without DirectiveKind.plot.otherKeys))
    (session.rules.matching fields).head? = some .plot ∧
      answered.outcome = .ok (.plot []) ∧ alone.outcome = .ok (.plot []) ∧
      alone.session = answered.session := by
  intro session fields answered alone
  have distinct : fields.names.Nodup := by decide
  have wins : (session.rules.matching fields).head? = some .plot := rfl
  have accepted : answered.outcome = .ok (.plot []) := by
    show (Interpreting.runIn (readNode session.rules _) session.toContext).1 = _
    rw [readNode_object]
    rfl
  obtain ⟨-, same, trees⟩ :=
    losing_keys_ignored_but_by_inputs session rfl rfl distinct wins
  exact ⟨wins, accepted, (trees _ accepted).1, same⟩

/-- A key that is null shows in an input. -/
theorem input_keeps_null_key :
    let session : Session := { rules := { catalog := Standard.catalog } }
    let fields : Fields := [("input", .string "menu"), ("plot", .null)]
    (session.rules.matching fields).head? = some .input ∧
      (session.interpret (.object fields)).outcome =
        .ok (.input "menu" [("plot", .literal .null)]) ∧
      (session.interpret (.object (fields.without DirectiveKind.input.otherKeys))).outcome =
        .ok (.input "menu" []) := by
  intro session fields
  refine ⟨rfl, ?_, ?_⟩
  · show (Interpreting.runIn (readNode session.rules _) session.toContext).1 = _
    rw [readNode_object]
    rfl
  · show (Interpreting.runIn (readNode session.rules _) session.toContext).1 = _
    rw [readNode_object]
    rfl

end Dashboard
