import Dashboard.Proofs.Mirroring
import Dashboard.Proofs.Shuffling
/-!
# Trees of rewritten documents

If one tree mirrors a document and another one the rewritten document, they are the same tree up to
the order of the attributes in each plot and of the options in everything that has options. A
reference in one tree corresponds to a reference in the other one that has the same name.
-/
namespace Dashboard

/-! ## Lists up to order -/

section Lists
variable {α β γ δ : Type}

/-- The lists are related item by item once the first one is permuted. -/
def PermBy (r : α → β → Prop) (as : List α) (bs : List β) : Prop :=
  ∃ between, as.Perm between ∧ List.Forall₂ r between bs

variable {p : α → γ → Prop} {q : β → δ → Prop} {r : γ → δ → Prop}

/-- What mirrors related lists is related, item by item. -/
theorem forall₂_of_related {related : α → β → Prop} {as : List α} {bs : List β} {cs : List γ}
    {ds : List δ} (lists : List.Forall₂ related as bs) (first : List.Forall₂ p as cs)
    (second : List.Forall₂ q bs ds)
    (each : ∀ a ∈ as, ∀ b c d, related a b → p a c → q b d → r c d) : List.Forall₂ r cs ds := by
  induction lists generalizing cs ds with
  | nil =>
    cases first
    cases second
    exact .nil
  | @cons a b as bs head _ ih =>
    cases first with
    | cons pac first =>
      cases second with
      | cons qbd second =>
        have others := ih first second fun a inside => each a (List.mem_cons_of_mem _ inside)
        exact .cons (each a List.mem_cons_self _ _ _ head pac qbd) others

/-- What mirrors one list is related, item by item. -/
theorem forall₂_of_both {p : α → γ → Prop} {q : α → δ → Prop} {as : List α} {cs : List γ}
    {ds : List δ} (first : List.Forall₂ p as cs) (second : List.Forall₂ q as ds)
    (each : ∀ a ∈ as, ∀ c d, p a c → q a d → r c d) : List.Forall₂ r cs ds := by
  have lists : List.Forall₂ (· = ·) as as := List.forall₂_same.2 fun _ _ => rfl
  refine forall₂_of_related lists first second ?_
  rintro a inside _ c d rfl
  exact each a inside c d

/-- What mirrors permuted lists is related up to order. -/
theorem permBy_of_perm {p : α → γ → Prop} {q : α → δ → Prop} {as as' : List α} {cs : List γ}
    {ds : List δ} (perm : as.Perm as') (first : List.Forall₂ p as cs)
    (second : List.Forall₂ q as' ds) (each : ∀ a c d, p a c → q a d → r c d) :
    PermBy r cs ds := by
  obtain ⟨between, first', moved⟩ := List.perm_comp_forall₂ perm.symm first
  exact ⟨between, moved.symm, forall₂_of_both first' second fun a _ => each a⟩

end Lists

/-! ## Trees up to order -/

variable {ρ σ : Type}

inductive Resolved.Matches (same : ρ → σ → Prop) : Resolved ρ → Resolved σ → Prop
  | literal (value : Json) : Matches same (.literal value) (.literal value)
  | reference {target : ρ} {target' : σ} :
      same target target' → Matches same (.reference target) (.reference target')
  | expression (e : Expression) : Matches same (.expression e) (.expression e)
  | fixed : Matches same .fixed .fixed

def Options.Rearranged (same : ρ → σ → Prop) : Options ρ → Options σ → Prop :=
  PermBy fun option option' => option.1 = option'.1 ∧ option.2.Matches same option'.2

inductive MarkData.Rearranged (same : ρ → σ → Prop) : MarkData ρ → MarkData σ → Prop
  | mk {table : String} {options : Options ρ} {options' : Options σ} :
      options.Rearranged same options' → Rearranged same ⟨table, options⟩ ⟨table, options'⟩

inductive PlotEntry.PropertyMatches (same : ρ → σ → Prop) : PlotEntry ρ → PlotEntry σ → Prop
  | mk {name : String} {value : Resolved ρ} {value' : Resolved σ} :
      value.Matches same value' →
      PropertyMatches same (.property name value) (.property name value')

inductive PlotEntry.Rearranged (same : ρ → σ → Prop) : PlotEntry ρ → PlotEntry σ → Prop
  | mark {type : String} {data : Option (MarkData ρ)} {data' : Option (MarkData σ)}
      {options : Options ρ} {options' : Options σ} :
      Option.Rel (MarkData.Rearranged same) data data' → options.Rearranged same options' →
      Rearranged same (.mark type data options) (.mark type data' options')
  | legend {type : String} {options : Options ρ} {options' : Options σ} :
      options.Rearranged same options' →
      Rearranged same (.legend type options) (.legend type options')
  | interactor {type : String} {options : Options ρ} {options' : Options σ} :
      options.Rearranged same options' →
      Rearranged same (.interactor type options) (.interactor type options')

/-- The same tree up to the order of attributes and options. -/
inductive Directive.Rearranged (same : ρ → σ → Prop) : Directive ρ → Directive σ → Prop
  | plot {properties entries : List (PlotEntry ρ)} {properties' entries' : List (PlotEntry σ)} :
      PermBy (PlotEntry.PropertyMatches same) properties properties' →
      List.Forall₂ (PlotEntry.Rearranged same) entries entries' →
      Rearranged same (.plot (properties ++ entries)) (.plot (properties' ++ entries'))
  | hconcat {items : List (Directive ρ)} {items' : List (Directive σ)} :
      List.Forall₂ (Rearranged same) items items' →
      Rearranged same (.hconcat items) (.hconcat items')
  | vconcat {items : List (Directive ρ)} {items' : List (Directive σ)} :
      List.Forall₂ (Rearranged same) items items' →
      Rearranged same (.vconcat items) (.vconcat items')
  | hspace (size : Binary64) : Rearranged same (.hspace size) (.hspace size)
  | vspace (size : Binary64) : Rearranged same (.vspace size) (.vspace size)
  | input {type : String} {options : Options ρ} {options' : Options σ} :
      options.Rearranged same options' →
      Rearranged same (.input type options) (.input type options')

/-- References of the same name. -/
def SameName (binds : String → ρ → Prop) (binds' : String → σ → Prop) (target : ρ)
    (target' : σ) : Prop :=
  ∃ name, binds name target ∧ binds' name target'

/-! ## What mirrors a rewritten document -/

variable {binds : String → ρ → Prop} {binds' : String → σ → Prop}

theorem Resolved.Mirrors.matches {value : Json} {resolved : Resolved ρ} {resolved' : Resolved σ}
    (h : resolved.Mirrors binds value) (k : resolved'.Mirrors binds' value) :
    resolved.Matches (SameName binds binds') resolved' := by
  cases h with
  | literal none =>
    cases k with
    | literal _ => exact .literal value
    | reference named _ => cases none.symm.trans named
  | @reference name target named bound =>
    cases k with
    | literal none => cases none.symm.trans named
    | @reference name' target' named' bound' =>
      obtain rfl := Option.some.inj (named.symm.trans named')
      exact .reference ⟨name, bound, bound'⟩

theorem Resolved.MirrorsChannel.matches {transforms : Table (List Json → Expression)}
    {value : Json} {resolved : Resolved ρ} {resolved' : Resolved σ}
    (h : resolved.MirrorsChannel binds transforms value)
    (k : resolved'.MirrorsChannel binds' transforms value) :
    resolved.Matches (SameName binds binds') resolved' := by
  cases h with
  | @expression e found =>
    cases k with
    | expression found' =>
      obtain rfl := Option.some.inj (found.symm.trans found')
      exact .expression e
    | value none _ => cases none.symm.trans found
  | value none mirrors =>
    cases k with
    | expression found => cases none.symm.trans found
    | value _ mirrors' => exact mirrors.matches mirrors'

theorem Resolved.MirrorsProperty.matches {value : Json} {resolved : Resolved ρ}
    {resolved' : Resolved σ} (h : resolved.MirrorsProperty binds value)
    (k : resolved'.MirrorsProperty binds' value) :
    resolved.Matches (SameName binds binds') resolved' := by
  cases h with
  | fixed written =>
    cases k with
    | fixed _ => exact .fixed
    | value other _ => exact absurd written other
  | value other mirrors =>
    cases k with
    | fixed written => exact absurd written other
    | value _ mirrors' => exact mirrors.matches mirrors'

theorem Options.Mirror.rearranged {mirrors : Json → Resolved ρ → Prop}
    {mirrors' : Json → Resolved σ → Prop} {fields fields' : Fields} {options : Options ρ}
    {options' : Options σ} {same : ρ → σ → Prop} (perm : fields.Perm fields')
    (h : Options.Mirror mirrors fields options) (k : Options.Mirror mirrors' fields' options')
    (each : ∀ value resolved resolved', mirrors value resolved → mirrors' value resolved' →
      resolved.Matches same resolved') : options.Rearranged same options' := by
  apply permBy_of_perm perm h k
  rintro field option option' ⟨key, mirrors⟩ ⟨key', mirrors'⟩
  exact ⟨key.symm.trans key', each _ _ _ mirrors mirrors'⟩

theorem MarkData.Mirrors.rearranged {json json' : Json} {data : MarkData ρ} {data' : MarkData σ}
    (reordered : ReorderedData json json') (h : data.Mirrors binds json)
    (k : data'.Mirrors binds' json') : data.Rearranged (SameName binds binds') data' := by
  cases h with
  | @mk fields table options named mirror =>
    cases k with
    | @mk fields' table' options' named' mirror' =>
      have agree : fields.Agree fields' := by
        cases reordered with
        | same => exact .refl fields
        | object shuffled => exact shuffled.agree
      have same : table = table' := by
        rw [Fields.string?, agree.lookup] at named
        exact Option.some.inj (named.symm.trans named')
      subst same
      exact .mk (mirror.rearranged (agree.without _) mirror' fun _ _ _ => Resolved.Mirrors.matches)

theorem PlotEntry.MirrorsProperty.matches {catalog : Catalog} {field : String × Json}
    {entry : PlotEntry ρ} {entry' : PlotEntry σ} (h : entry.MirrorsProperty binds catalog field)
    (k : entry'.MirrorsProperty binds' catalog field) :
    entry.PropertyMatches (SameName binds binds') entry' := by
  cases h with
  | mk known value =>
    cases k with
    | mk known' value' =>
      obtain rfl := Option.some.inj (known.symm.trans known')
      exact .mk (value.matches value')

/-! ## Entries -/

theorem absent_iff {fields : Fields} {key : String} :
    fields.present? key = none ↔ ¬ fields.Has key := by
  rw [← Fields.present?_isSome, Option.not_isSome_iff_eq_none]

theorem typeUnder?_of_absent {fields : Fields} {key : String} (absent : fields.present? key = none)
    (types : Table String) : typeUnder? types fields key = none := by
  rw [← Option.not_isSome_iff_eq_none, typeUnder?_isSome]
  rintro ⟨name, here, -⟩
  exact absent_iff.1 absent (Fields.has_string here)

theorem legendType?_of_absent {fields : Fields} (absent : fields.present? "legend" = none)
    (catalog : Catalog) : legendType? catalog fields = none := by
  rw [← Option.not_isSome_iff_eq_none, legendType?_isSome]
  rintro ⟨name, listed, here, -⟩
  exact absent_iff.1 absent (Fields.has_string here)

section Entries
variable {catalog : Catalog} {fields : Fields} {type : String} {entry : PlotEntry ρ}

theorem PlotEntry.Mirrors.of_mark (h : entry.Mirrors binds catalog (.object fields))
    (named : typeUnder? catalog.marks fields "mark" = some type) :
    ∃ data options, entry = .mark type data options ∧
      Option.Rel (MarkData.Mirrors binds) (fields.present? "data") data ∧
      Options.Mirror (Resolved.MirrorsChannel binds catalog.transforms)
        (fields.without ["mark", "data"]) options := by
  cases h with
  | mark named' sources channels =>
    obtain rfl := Option.some.inj (named'.symm.trans named)
    exact ⟨_, _, rfl, sources, channels⟩
  | legend noMark _ _ => cases (typeUnder?_of_absent noMark _).symm.trans named
  | interactor noMark _ _ _ => cases (typeUnder?_of_absent noMark _).symm.trans named

theorem PlotEntry.Mirrors.of_legend (h : entry.Mirrors binds catalog (.object fields))
    (noMark : fields.present? "mark" = none) (named : legendType? catalog fields = some type) :
    ∃ options, entry = .legend type options ∧
      Options.Mirror (Resolved.Mirrors binds) (fields.without ["legend"]) options := by
  cases h with
  | mark named' _ _ => cases (typeUnder?_of_absent noMark _).symm.trans named'
  | legend _ named' options =>
    obtain rfl := Option.some.inj (named'.symm.trans named)
    exact ⟨_, rfl, options⟩
  | interactor _ noLegend _ _ => cases (legendType?_of_absent noLegend _).symm.trans named

theorem PlotEntry.Mirrors.of_interactor (h : entry.Mirrors binds catalog (.object fields))
    (noMark : fields.present? "mark" = none) (noLegend : fields.present? "legend" = none)
    (named : typeUnder? catalog.interactors fields "select" = some type) :
    ∃ options, entry = .interactor type options ∧
      Options.Mirror (Resolved.Mirrors binds) (fields.without ["select"]) options := by
  cases h with
  | mark named' _ _ => cases (typeUnder?_of_absent noMark _).symm.trans named'
  | legend _ named' _ => cases (legendType?_of_absent noLegend _).symm.trans named'
  | interactor _ _ named' options =>
    obtain rfl := Option.some.inj (named'.symm.trans named)
    exact ⟨_, rfl, options⟩

end Entries

theorem rearranged_data {found found' : Option Json} {data : Option (MarkData ρ)}
    {data' : Option (MarkData σ)} (reordered : Option.Rel ReorderedData found found')
    (h : Option.Rel (MarkData.Mirrors binds) found data)
    (k : Option.Rel (MarkData.Mirrors binds') found' data') :
    Option.Rel (MarkData.Rearranged (SameName binds binds')) data data' := by
  cases reordered with
  | none =>
    cases h
    cases k
    exact .none
  | some reordered =>
    cases h with
    | some mirrors =>
      cases k with
      | some mirrors' => exact .some (mirrors.rearranged reordered mirrors')

theorem PlotEntry.Mirrors.rearranged {catalog : Catalog} {json json' : Json}
    {entry : PlotEntry ρ} {entry' : PlotEntry σ} (reordered : ReorderedEntry json json')
    (h : entry.Mirrors binds catalog json) (k : entry'.Mirrors binds' catalog json') :
    entry.Rearranged (SameName binds binds') entry' := by
  cases json with
  | object fields =>
    obtain ⟨fields', rfl, agreeMark, agree⟩ := reordered.object_inv
    have mark := agreeMark.but.lookup "mark" (by decide)
    cases h with
    | mark named sources channels =>
      rw [typeUnder?_congr mark] at named
      obtain ⟨data', options', rfl, sources', channels'⟩ := k.of_mark named
      have perm := agreeMark.but.rest ["mark", "data"] (by decide)
      exact .mark (rearranged_data agreeMark.data sources sources')
        (channels.rearranged perm channels' fun _ _ _ => Resolved.MirrorsChannel.matches)
    | legend noMark named options =>
      have agree := agree (absent_iff.1 noMark)
      have noMark' := (Fields.present?_congr mark).symm.trans noMark
      rw [legendType?_congr (agree.lookup _)] at named
      obtain ⟨options', rfl, mirror'⟩ := k.of_legend noMark' named
      exact .legend
        (options.rearranged (agree.without _) mirror' fun _ _ _ => Resolved.Mirrors.matches)
    | interactor noMark noLegend named options =>
      have agree := agree (absent_iff.1 noMark)
      have noMark' := (Fields.present?_congr mark).symm.trans noMark
      have noLegend' := (Fields.present?_congr (agree.lookup "legend")).symm.trans noLegend
      rw [typeUnder?_congr (agree.lookup _)] at named
      obtain ⟨options', rfl, mirror'⟩ := k.of_interactor noMark' noLegend' named
      exact .interactor
        (options.rearranged (agree.without _) mirror' fun _ _ _ => Resolved.Mirrors.matches)
  | _ => cases h

/-! ## Nodes -/

theorem PlotEntry.MirrorPlot.rearranged {catalog : Catalog} {fields fields' : Fields}
    {items items' : List Json} {entries : List (PlotEntry ρ)} {entries' : List (PlotEntry σ)}
    (attributes : (fields.without (catalog.directives.map (·.key))).Perm
      (fields'.without (catalog.directives.map (·.key))))
    (related : List.Forall₂ ReorderedEntry items items')
    (h : MirrorPlot binds catalog fields items entries)
    (k : MirrorPlot binds' catalog fields' items' entries') :
    (Directive.plot entries).Rearranged (SameName binds binds') (.plot entries') := by
  cases h with
  | mk properties entries =>
    cases k with
    | mk properties' entries' =>
      apply Directive.Rearranged.plot
      · exact permBy_of_perm attributes properties properties' fun _ _ _ =>
          PlotEntry.MirrorsProperty.matches
      · exact forall₂_of_related related entries entries' fun _ _ _ _ _ =>
          PlotEntry.Mirrors.rearranged

/-- What mirrors a node has the shape of its content. -/
def NodeContent.MirroredBy (binds : String → ρ → Prop) (rules : Rules) (fields : Fields) :
    NodeContent → Directive ρ → Prop
  | plot items, tree =>
    ∃ entries, tree = .plot entries ∧
      PlotEntry.MirrorPlot binds rules.catalog fields items entries
  | hconcat nodes, tree =>
    ∃ items, tree = .hconcat items ∧ List.Forall₂ (Directive.Mirrors binds rules) nodes items
  | vconcat nodes, tree =>
    ∃ items, tree = .vconcat items ∧ List.Forall₂ (Directive.Mirrors binds rules) nodes items
  | hspace size, tree => tree = .hspace size
  | vspace size, tree => tree = .vspace size
  | input name, tree =>
    ∃ type options, tree = .input type options ∧ rules.catalog.inputs.lookup name = some type ∧
      Options.Mirror (Resolved.Mirrors binds) (fields.without ["input"]) options

theorem Directive.Mirrors.content {rules : Rules} {fields : Fields} {tree : Directive ρ}
    (h : tree.Mirrors binds rules (.object fields)) :
    ∃ content, rules.content fields = .ok content ∧
      content.MirroredBy binds rules fields tree := by
  cases h with
  | plot found entries => exact ⟨_, found, _, rfl, entries⟩
  | hconcat found items => exact ⟨_, found, _, rfl, items⟩
  | vconcat found items => exact ⟨_, found, _, rfl, items⟩
  | hspace found => exact ⟨_, found, rfl⟩
  | vspace found => exact ⟨_, found, rfl⟩
  | input found known options => exact ⟨_, found, _, _, rfl, known, options⟩

theorem Directive.Mirrors.mirroredBy {rules : Rules} {fields : Fields} {tree : Directive ρ}
    {content : NodeContent} (h : tree.Mirrors binds rules (.object fields))
    (found : rules.content fields = .ok content) :
    content.MirroredBy binds rules fields tree := by
  obtain ⟨shown, same, mirrored⟩ := h.content
  obtain rfl := Except.ok.inj (same.symm.trans found)
  exact mirrored

theorem rearranged_of_mirrors {rules : Rules} (node : Json) :
    ∀ node' (tree : Directive ρ) (tree' : Directive σ), rules.catalog.Reordered node node' →
      tree.Mirrors binds rules node → tree'.Mirrors binds' rules node' →
      tree.Rearranged (SameName binds binds') tree' := by
  induction node using Rules.induction rules with
  | other node other =>
    intro node' tree tree' reordered h k
    cases h <;> exact absurd rfl (other _)
  | object fields ih =>
    intro node' tree tree' reordered h k
    obtain ⟨fields', rfl, correspond⟩ := reordered.object_inv
    cases correspond with
    | refused found _ =>
      obtain ⟨content, same, -⟩ := h.content
      cases found.symm.trans same
    | plot found found' attributes entries =>
      obtain ⟨_, rfl, mirrors⟩ := h.mirroredBy found
      obtain ⟨_, rfl, mirrors'⟩ := k.mirroredBy found'
      exact mirrors.rearranged attributes entries mirrors'
    | hconcat found found' related =>
      have nodes := ih _ found
      obtain ⟨items, rfl, mirrors⟩ := h.mirroredBy found
      obtain ⟨items', rfl, mirrors'⟩ := k.mirroredBy found'
      exact .hconcat (forall₂_of_related related mirrors mirrors' fun node inside node' =>
        nodes node inside node')
    | vconcat found found' related =>
      have nodes := ih _ found
      obtain ⟨items, rfl, mirrors⟩ := h.mirroredBy found
      obtain ⟨items', rfl, mirrors'⟩ := k.mirroredBy found'
      exact .vconcat (forall₂_of_related related mirrors mirrors' fun node inside node' =>
        nodes node inside node')
    | hspace found found' =>
      obtain rfl := h.mirroredBy found
      obtain rfl := k.mirroredBy found'
      exact .hspace _
    | vspace found found' =>
      obtain rfl := h.mirroredBy found
      obtain rfl := k.mirroredBy found'
      exact .vspace _
    | input found found' agree =>
      obtain ⟨type, options, rfl, known, mirror⟩ := h.mirroredBy found
      obtain ⟨type', options', rfl, known', mirror'⟩ := k.mirroredBy found'
      obtain rfl := Option.some.inj (known.symm.trans known')
      exact .input
        (mirror.rearranged (agree.without _) mirror' fun _ _ _ => Resolved.Mirrors.matches)

end Dashboard
