import Dashboard.Proofs.Acceptance
import Dashboard.Proofs.Rearranging
import Dashboard.Session
/-!
# Trees that match

Two trees match if they are the same but for what their references point to. A document decides its
tree up to that: trees that mirror one document match, whatever names are bound to. So nothing in
a tree but the targets of its references comes from the scope in which the document was interpreted.
-/
namespace Dashboard
variable {ρ σ : Type}

/-! ## Matching -/

def Options.Match (same : ρ → σ → Prop) : Options ρ → Options σ → Prop :=
  List.Forall₂ fun option option' => option.1 = option'.1 ∧ option.2.Matches same option'.2

inductive MarkData.Matches (same : ρ → σ → Prop) : MarkData ρ → MarkData σ → Prop
  | mk {table : String} {options : Options ρ} {options' : Options σ} :
      Options.Match same options options' → Matches same ⟨table, options⟩ ⟨table, options'⟩

inductive PlotEntry.Matches (same : ρ → σ → Prop) : PlotEntry ρ → PlotEntry σ → Prop
  | property {entry : PlotEntry ρ} {entry' : PlotEntry σ} :
      entry.PropertyMatches same entry' → Matches same entry entry'
  | mark {type : String} {data : Option (MarkData ρ)} {data' : Option (MarkData σ)}
      {options : Options ρ} {options' : Options σ} :
      Option.Rel (MarkData.Matches same) data data' → Options.Match same options options' →
      Matches same (.mark type data options) (.mark type data' options')
  | legend {type : String} {options : Options ρ} {options' : Options σ} :
      Options.Match same options options' →
      Matches same (.legend type options) (.legend type options')
  | interactor {type : String} {options : Options ρ} {options' : Options σ} :
      Options.Match same options options' →
      Matches same (.interactor type options) (.interactor type options')

/-- The same tree but for what references point to. -/
inductive Directive.Matches (same : ρ → σ → Prop) : Directive ρ → Directive σ → Prop
  | plot {entries : List (PlotEntry ρ)} {entries' : List (PlotEntry σ)} :
      List.Forall₂ (PlotEntry.Matches same) entries entries' →
      Matches same (.plot entries) (.plot entries')
  | hconcat {items : List (Directive ρ)} {items' : List (Directive σ)} :
      List.Forall₂ (Matches same) items items' → Matches same (.hconcat items) (.hconcat items')
  | vconcat {items : List (Directive ρ)} {items' : List (Directive σ)} :
      List.Forall₂ (Matches same) items items' → Matches same (.vconcat items) (.vconcat items')
  | hspace (size : Binary64) : Matches same (.hspace size) (.hspace size)
  | vspace (size : Binary64) : Matches same (.vspace size) (.vspace size)
  | input {type : String} {options : Options ρ} {options' : Options σ} :
      Options.Match same options options' →
      Matches same (.input type options) (.input type options')

/-! ## What mirrors one document -/

variable {binds : String → ρ → Prop} {binds' : String → σ → Prop}

theorem Options.Mirror.matches {mirrors : Json → Resolved ρ → Prop}
    {mirrors' : Json → Resolved σ → Prop} {fields : Fields} {options : Options ρ}
    {options' : Options σ} {same : ρ → σ → Prop} (h : Options.Mirror mirrors fields options)
    (k : Options.Mirror mirrors' fields options')
    (each : ∀ value resolved resolved', mirrors value resolved → mirrors' value resolved' →
      resolved.Matches same resolved') : Options.Match same options options' := by
  apply forall₂_of_both h k
  rintro field - option option' ⟨key, mirrors⟩ ⟨key', mirrors'⟩
  exact ⟨key.symm.trans key', each _ _ _ mirrors mirrors'⟩

theorem MarkData.Mirrors.matches {json : Json} {data : MarkData ρ} {data' : MarkData σ}
    (h : data.Mirrors binds json) (k : data'.Mirrors binds' json) :
    data.Matches (SameName binds binds') data' := by
  cases h with
  | mk named mirror =>
    cases k with
    | mk named' mirror' =>
      obtain rfl := Option.some.inj (named.symm.trans named')
      exact .mk (mirror.matches mirror' fun _ _ _ => Resolved.Mirrors.matches)

theorem matching_data {found : Option Json} {data : Option (MarkData ρ)}
    {data' : Option (MarkData σ)} (h : Option.Rel (MarkData.Mirrors binds) found data)
    (k : Option.Rel (MarkData.Mirrors binds') found data') :
    Option.Rel (MarkData.Matches (SameName binds binds')) data data' := by
  cases h with
  | none =>
    cases k
    exact .none
  | some mirrors =>
    cases k with
    | some mirrors' => exact .some (mirrors.matches mirrors')

theorem PlotEntry.Mirrors.matches {catalog : Catalog} {json : Json} {entry : PlotEntry ρ}
    {entry' : PlotEntry σ} (h : entry.Mirrors binds catalog json)
    (k : entry'.Mirrors binds' catalog json) : entry.Matches (SameName binds binds') entry' := by
  cases h with
  | mark named sources channels =>
    obtain ⟨data', options', rfl, sources', channels'⟩ := k.of_mark named
    exact .mark (matching_data sources sources')
      (channels.matches channels' fun _ _ _ => Resolved.MirrorsChannel.matches)
  | legend noMark named options =>
    obtain ⟨options', rfl, mirror'⟩ := k.of_legend noMark named
    exact .legend (options.matches mirror' fun _ _ _ => Resolved.Mirrors.matches)
  | interactor noMark noLegend named options =>
    obtain ⟨options', rfl, mirror'⟩ := k.of_interactor noMark noLegend named
    exact .interactor (options.matches mirror' fun _ _ _ => Resolved.Mirrors.matches)

theorem PlotEntry.MirrorPlot.matches {catalog : Catalog} {fields : Fields} {items : List Json}
    {entries : List (PlotEntry ρ)} {entries' : List (PlotEntry σ)}
    (h : MirrorPlot binds catalog fields items entries)
    (k : MirrorPlot binds' catalog fields items entries') :
    List.Forall₂ (PlotEntry.Matches (SameName binds binds')) entries entries' := by
  cases h with
  | mk properties entries =>
    cases k with
    | mk properties' entries' =>
      apply List.rel_append
      · exact forall₂_of_both properties properties' fun _ _ _ _ mirrors mirrors' =>
          .property (mirrors.matches mirrors')
      · exact forall₂_of_both entries entries' fun _ _ _ _ => PlotEntry.Mirrors.matches

theorem matches_of_mirrors {rules : Rules} (node : Json) :
    ∀ (tree : Directive ρ) (tree' : Directive σ), tree.Mirrors binds rules node →
      tree'.Mirrors binds' rules node → tree.Matches (SameName binds binds') tree' := by
  induction node using Rules.induction rules with
  | other node other =>
    intro tree tree' h k
    cases h <;> exact absurd rfl (other _)
  | object fields ih =>
    intro tree tree' h k
    cases h with
    | plot found entries =>
      obtain ⟨entries', rfl, mirrors'⟩ := k.mirroredBy found
      exact .plot (entries.matches mirrors')
    | hconcat found items =>
      obtain ⟨items', rfl, mirrors'⟩ := k.mirroredBy found
      exact .hconcat (forall₂_of_both items mirrors' (ih _ found))
    | vconcat found items =>
      obtain ⟨items', rfl, mirrors'⟩ := k.mirroredBy found
      exact .vconcat (forall₂_of_both items mirrors' (ih _ found))
    | hspace found =>
      obtain rfl := k.mirroredBy found
      exact .hspace _
    | vspace found =>
      obtain rfl := k.mirroredBy found
      exact .vspace _
    | input found known options =>
      obtain ⟨type', options', rfl, known', mirror'⟩ := k.mirroredBy found
      obtain rfl := Option.some.inj (known.symm.trans known')
      exact .input (options.matches mirror' fun _ _ _ => Resolved.Mirrors.matches)

/-! ## Equal trees

If references to the same name are references to the same thing, trees that mirror one document are
equal.
-/

section Unique
variable {same : ρ → ρ → Prop} (unique : ∀ target target', same target target' → target = target')
include unique

theorem Resolved.Matches.eq {resolved resolved' : Resolved ρ}
    (h : resolved.Matches same resolved') : resolved = resolved' := by
  cases h with
  | reference related => rw [unique _ _ related]
  | _ => rfl

theorem Options.Match.eq {options options' : Options ρ} (h : Options.Match same options options') :
    options = options' := by
  rw [← List.forall₂_eq_eq_eq]
  exact List.Forall₂.imp (fun _ _ each => Prod.ext each.1 (each.2.eq unique)) h

theorem MarkData.Matches.eq {data data' : MarkData ρ} (h : data.Matches same data') :
    data = data' := by
  cases h with
  | mk options => rw [options.eq unique]

theorem PlotEntry.Matches.eq {entry entry' : PlotEntry ρ} (h : entry.Matches same entry') :
    entry = entry' := by
  cases h with
  | property value =>
    cases value with
    | mk value => rw [value.eq unique]
  | mark data options =>
    rw [options.eq unique]
    cases data with
    | some data => rw [data.eq unique]
    | none => rfl
  | legend options => rw [options.eq unique]
  | interactor options => rw [options.eq unique]

end Unique

mutual

theorem Directive.Matches.eq {same : ρ → ρ → Prop}
    (unique : ∀ target target', same target target' → target = target')
    {tree tree' : Directive ρ} (h : tree.Matches same tree') : tree = tree' :=
  match h with
  | .plot entries =>
    congrArg Directive.plot
      (List.forall₂_eq_eq_eq ▸ entries.imp fun _ _ each => PlotEntry.Matches.eq unique each)
  | .hconcat items => congrArg Directive.hconcat (Directive.Matches.all_eq unique items)
  | .vconcat items => congrArg Directive.vconcat (Directive.Matches.all_eq unique items)
  | .hspace _ => rfl
  | .vspace _ => rfl
  | .input options => congrArg (Directive.input _) (options.eq unique)

theorem Directive.Matches.all_eq {same : ρ → ρ → Prop}
    (unique : ∀ target target', same target target' → target = target')
    {trees trees' : List (Directive ρ)} (h : List.Forall₂ (Directive.Matches same) trees trees') :
    trees = trees' :=
  match h with
  | .nil => rfl
  | .cons first others =>
    congr (congrArg List.cons (Directive.Matches.eq unique first))
      (Directive.Matches.all_eq unique others)

end

theorem Document.Mirrors.unique {rules : Rules} {root : Fields} {document document' : Document ρ}
    (h : document.Mirrors binds rules root) (k : document'.Mirrors binds rules root)
    (functional : ∀ name target target', binds name target → binds name target' →
      target = target') : document = document' := by
  have metadata : document.metadata = document'.metadata := h.metadata.trans k.metadata.symm
  have matching := matches_of_mirrors (layoutOf root) _ _ h.layout k.layout
  have layout : document.layout = document'.layout :=
    matching.eq fun target target' ⟨name, bound, bound'⟩ => functional name _ _ bound bound'
  cases document
  cases document'
  cases metadata
  cases layout
  rfl

/-! ## One node after another -/

/-- The trees of nodes that are interpreted one after another. -/
inductive Session.Interprets : Session → List Json → List (Directive Handle) → Session → Prop
  | nil {session : Session} : Interprets session [] [] session
  | cons {session after : Session} {node : Json} {nodes : List Json} {item : Directive Handle}
      {items : List (Directive Handle)} :
      (session.interpret node).outcome = .ok item →
      Interprets (session.interpret node).session nodes items after →
      Interprets session (node :: nodes) (item :: items) after

namespace Session

theorem interpret_of_run {session : Session} {node : Json} {outcome : Except DocumentError _}
    {after : Context} (run : Interpreting.runIn (readNode session.rules node) session.toContext =
      (outcome, after)) :
    (session.interpret node).outcome = outcome ∧
      (session.interpret node).session = { session with toContext := after } := by
  rw [interpret, Session.run, run]
  exact ⟨rfl, rfl⟩

theorem interprets_of_readNodes {nodes : List Json} {session : Session}
    {items : List (Directive Handle)} {after : Context}
    (run : Interpreting.runIn (readNodes session.rules nodes) session.toContext =
      (.ok items, after)) :
    session.Interprets nodes items { session with toContext := after } := by
  induction nodes generalizing session items with
  | nil =>
    rw [readNodes] at run
    cases run
    exact .nil
  | cons node nodes ih =>
    rw [readNodes, Interpreting.runIn_bind_eq_ok] at run
    obtain ⟨item, between, first, run⟩ := run
    obtain ⟨others, last, rest, same⟩ := Interpreting.runIn_bind_eq_ok.1 run
    cases same
    obtain ⟨answer, now⟩ := interpret_of_run first
    refine .cons answer ?_
    rw [now]
    exact ih rest

/-- What stands side by side is interpreted one after another. -/
theorem interprets_of_concat {session : Session} {node : Json} {tree : Directive Handle}
    (accepted : (session.interpret node).outcome = .ok tree) {items : List (Directive Handle)}
    (concat : tree = .hconcat items ∨ tree = .vconcat items) :
    ∃ fields nodes, node = .object fields ∧
      (session.rules.content fields = .ok (.hconcat nodes) ∨
        session.rules.content fields = .ok (.vconcat nodes)) ∧
      session.Interprets nodes items (session.interpret node).session := by
  have mirrors := (follows_readNode session.rules node session.toContext).holds accepted
  rcases run : Interpreting.runIn (readNode session.rules node) session.toContext with
    ⟨outcome, after⟩
  obtain ⟨answer, now⟩ := interpret_of_run run
  obtain rfl : outcome = .ok tree := answer.symm.trans accepted
  rw [now]
  obtain rfl | rfl := concat
  · cases mirrors with
    | @hconcat fields nodes _ found _ =>
      rw [readNode_object, found] at run
      obtain ⟨items', inside, same⟩ := Interpreting.runIn_map_eq_ok.1 run
      obtain rfl := Directive.hconcat.inj same
      exact ⟨fields, nodes, rfl, .inl found, interprets_of_readNodes inside⟩
  · cases mirrors with
    | @vconcat fields nodes _ found _ =>
      rw [readNode_object, found] at run
      obtain ⟨items', inside, same⟩ := Interpreting.runIn_map_eq_ok.1 run
      obtain rfl := Directive.vconcat.inj same
      exact ⟨fields, nodes, rfl, .inr found, interprets_of_readNodes inside⟩

end Session

/-- A well-formed node has a tree, which mirrors the node: every position of the document has its
place in the tree, in the same order, and shows what is written there. What stands side by side was
interpreted one after another. Whether a node is accepted, and what the tree is but for the targets
of references, does not depend on the scope. -/
theorem interpret_mirrors (session : Session) (other : Context) (node : Json) :
    let answered := session.interpret node
    let answered' := { session with toContext := other }.interpret node
    let scope := answered.session.scope
    let scope' := answered'.session.scope
    ((∃ tree, answered.outcome = .ok tree) ↔ IsNode session.rules node) ∧
    (∀ tree, answered.outcome = .ok tree →
      tree.Mirrors scope.Binds session.rules node ∧
      ∀ items, tree = .hconcat items ∨ tree = .vconcat items →
        ∃ fields nodes, node = .object fields ∧
          (session.rules.content fields = .ok (.hconcat nodes) ∨
            session.rules.content fields = .ok (.vconcat nodes)) ∧
          session.Interprets nodes items answered.session) ∧
    (∀ e, answered.outcome = .error e ↔ answered'.outcome = .error e) ∧
    ∀ tree tree', answered.outcome = .ok tree → answered'.outcome = .ok tree' →
      tree.Matches (SameName scope.Binds scope'.Binds) tree' := by
  intro answered answered' scope scope'
  have follows := follows_readNode session.rules node session.toContext
  have follows' := follows_readNode session.rules node other
  have reports := follows.outcome.reports (along_readNode session.rules node).reports
  refine ⟨reports.ok_iff.trans (faultless_ofNode session.rules node),
    fun tree accepted => ⟨follows.holds accepted, fun items => ?_⟩, fun e => ?_,
    fun tree tree' accepted accepted' => ?_⟩
  · exact Session.interprets_of_concat accepted
  · exact (follows.outcome.error_iff e).symm.trans (follows'.outcome.error_iff e)
  · exact matches_of_mirrors node tree tree' (follows.holds accepted) (follows'.holds accepted')

end Dashboard
