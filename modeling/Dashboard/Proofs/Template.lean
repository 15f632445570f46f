import Dashboard.Proofs.Matching
/-!
# Templates

A template is a JSON value with holes. What a tree shows is a template that is filled with what its
references show: it has its holes where the tree has references, and nothing else in it comes from
the store. A position in a value is the list of the places of its ancestors among their siblings.
-/
namespace Dashboard
variable {ρ : Type}

/-! ## Positions in a value -/

namespace Json

/-- The part of a value at a position. -/
def at? (v : Json) : List Nat → Option Json
  | [] => some v
  | i :: path =>
    match v with
    | array items => items[i]?.bind (at? · path)
    | object fields => fields[i]?.bind (at? ·.2 path)
    | _ => none

mutual

/-- Replaces the parts for which there is something new at their position. -/
def replace (new : List Nat → Option Json) : Json → Json
  | array items => (new []).getD (array (replaceItems new 0 items))
  | object fields => (new []).getD (object (replaceFields new 0 fields))
  | v => (new []).getD v

def replaceItems (new : List Nat → Option Json) (i : Nat) : List Json → List Json
  | [] => []
  | item :: items => replace (fun path => new (i :: path)) item :: replaceItems new (i + 1) items

def replaceFields (new : List Nat → Option Json) (i : Nat) :
    List (String × Json) → List (String × Json)
  | [] => []
  | (key, v) :: fields =>
    (key, replace (fun path => new (i :: path)) v) :: replaceFields new (i + 1) fields

end

mutual

theorem replace_none : (v : Json) → v.replace (fun _ => none) = v
  | null => rfl
  | bool _ => rfl
  | number _ => rfl
  | string _ => rfl
  | array items => by rw [replace, replaceItems_none, Option.getD_none]
  | object fields => by rw [replace, replaceFields_none, Option.getD_none]

theorem replaceItems_none (i : Nat) : (items : List Json) →
    replaceItems (fun _ => none) i items = items
  | [] => rfl
  | item :: items => by rw [replaceItems, replace_none, replaceItems_none]

theorem replaceFields_none (i : Nat) : (fields : List (String × Json)) →
    replaceFields (fun _ => none) i fields = fields
  | [] => rfl
  | (key, v) :: fields => by rw [replaceFields, replace_none, replaceFields_none]

end

theorem replace_of_none {new : List Nat → Option Json} (none : ∀ path, new path = none)
    (v : Json) : v.replace new = v := by
  rw [funext none, replace_none]

theorem replace_of_some {new : List Nat → Option Json} {w : Json} (root : new [] = some w)
    (v : Json) : v.replace new = w := by
  cases v <;> simp [replace, root]

end Json

/-! ## Filling templates -/

inductive Template (ρ : Type) where
  | value (v : Json)
  | hole (target : ρ)
  | array (items : List (Template ρ))
  | object (fields : List (String × Template ρ))

namespace Template

mutual

/-- The value that is left when each hole is filled with what its target shows. -/
def fill (shown : ρ → Json) : Template ρ → Json
  | value v => v
  | hole target => shown target
  | array items => .array (fillItems shown items)
  | object fields => .object (fillFields shown fields)

def fillItems (shown : ρ → Json) : List (Template ρ) → List Json
  | [] => []
  | item :: items => fill shown item :: fillItems shown items

def fillFields (shown : ρ → Json) : List (String × Template ρ) → List (String × Json)
  | [] => []
  | (key, t) :: fields => (key, fill shown t) :: fillFields shown fields

end

theorem fillItems_eq (shown : ρ → Json) (items : List (Template ρ)) :
    fillItems shown items = items.map (fill shown) := by
  induction items with
  | nil => rfl
  | cons item items ih => rw [fillItems, ih, List.map_cons]

theorem fillFields_eq (shown : ρ → Json) (fields : List (String × Template ρ)) :
    fillFields shown fields = fields.map fun (key, t) => (key, t.fill shown) := by
  induction fields with
  | nil => rfl
  | cons field fields ih => rw [fillFields, ih, List.map_cons]

/-- The target of the hole at a position, if there is one. -/
def holeAt? (t : Template ρ) : List Nat → Option ρ
  | [] =>
    match t with
    | hole target => some target
    | _ => none
  | i :: path =>
    match t with
    | array items => items[i]?.bind (holeAt? · path)
    | object fields => fields[i]?.bind (holeAt? ·.2 path)
    | _ => none

/-- The target of a hole shows at its position. -/
theorem at?_fill {t : Template ρ} {path : List Nat} {target : ρ}
    (here : t.holeAt? path = some target) (shown : ρ → Json) :
    (t.fill shown).at? path = some (shown target) := by
  induction path generalizing t with
  | nil =>
    cases t with
    | hole target' =>
      obtain rfl : target' = target := Option.some.inj here
      rfl
    | _ => exact absurd here nofun
  | cons i path ih =>
    cases t with
    | array items =>
      obtain ⟨item, inside, here⟩ := Option.bind_eq_some_iff.mp here
      rw [fill, fillItems_eq, Json.at?, List.getElem?_map, inside]
      exact ih here
    | object fields =>
      obtain ⟨field, inside, here⟩ := Option.bind_eq_some_iff.mp here
      rw [fill, fillFields_eq, Json.at?, List.getElem?_map, inside]
      exact ih here
    | _ => exact absurd here nofun

/-- What is known of the parts from a place on is known of those behind the first of them. -/
theorem after_first {at? : List Nat → Option Json} {i : Nat} {part : Nat → List Nat → Option Json}
    (same : ∀ j path, at? ((i + j) :: path) = part j path) (j : Nat) (path : List Nat) :
    at? ((i + 1 + j) :: path) = part (j + 1) path := by
  rw [Nat.add_right_comm, Nat.add_assoc]
  exact same (j + 1) path

section Replace
variable (shown : ρ → Json) (new : ρ → Option Json)

mutual

/-- To replace what some targets show is to fill their holes with something else. -/
theorem replace_fill : (t : Template ρ) →
    (t.fill shown).replace (fun path => (t.holeAt? path).bind new) =
      t.fill fun target => (new target).getD (shown target)
  | value v => Json.replace_of_none (fun path => by cases path <;> rfl) v
  | hole target => by
    rw [fill, fill]
    cases found : new target with
    | some w =>
      have root : ((hole target).holeAt? []).bind new = some w := found
      exact Json.replace_of_some root _
    | none =>
      refine Json.replace_of_none (fun path => ?_) _
      cases path with
      | nil => exact found
      | cons i path => rfl
  | array items => by
    rw [fill, fill, Json.replace]
    exact congrArg Json.array (replaceItems_fill items 0 _ fun j path => by
      rw [Nat.zero_add, holeAt?])
  | object fields => by
    rw [fill, fill, Json.replace]
    exact congrArg Json.object (replaceFields_fill fields 0 _ fun j path => by
      rw [Nat.zero_add, holeAt?])

theorem replaceItems_fill : (items : List (Template ρ)) → (i : Nat) →
    (at? : List Nat → Option Json) →
    (∀ j path, at? ((i + j) :: path) = (items[j]?.bind (holeAt? · path)).bind new) →
    Json.replaceItems at? i (fillItems shown items) =
      fillItems (fun target => (new target).getD (shown target)) items
  | [], i, at?, _ => rfl
  | item :: items, i, at?, same => by
    have first : (fun path => at? (i :: path)) = fun path => (item.holeAt? path).bind new :=
      funext fun path => same 0 path
    rw [fillItems, Json.replaceItems, first, replace_fill item, fillItems,
      replaceItems_fill items (i + 1) at? (after_first same)]

theorem replaceFields_fill : (fields : List (String × Template ρ)) → (i : Nat) →
    (at? : List Nat → Option Json) →
    (∀ j path, at? ((i + j) :: path) = (fields[j]?.bind (holeAt? ·.2 path)).bind new) →
    Json.replaceFields at? i (fillFields shown fields) =
      fillFields (fun target => (new target).getD (shown target)) fields
  | [], i, at?, _ => rfl
  | (key, t) :: fields, i, at?, same => by
    have first : (fun path => at? (i :: path)) = fun path => (t.holeAt? path).bind new :=
      funext fun path => same 0 path
    rw [fillFields, Json.replaceFields, first, replace_fill t, fillFields,
      replaceFields_fill fields (i + 1) at? (after_first same)]

end

end Replace

/-! ## Targets of a template -/

/-- A property of the targets of all holes. -/
def All (p : ρ → Prop) (t : Template ρ) : Prop :=
  ∀ path target, t.holeAt? path = some target → p target

variable {p : ρ → Prop}

@[simp] theorem all_value (v : Json) : (value v : Template ρ).All p := by
  intro path target here
  cases path <;> exact absurd here nofun

@[simp] theorem all_hole {target : ρ} : (hole target).All p ↔ p target := by
  constructor
  · exact fun all => all [] target rfl
  · intro holds path target' here
    cases path with
    | nil =>
      obtain rfl : target = target' := Option.some.inj here
      exact holds
    | cons i path => exact absurd here nofun

@[simp] theorem all_array {items : List (Template ρ)} :
    (array items).All p ↔ ∀ item ∈ items, item.All p := by
  constructor
  · intro all item inside path target here
    obtain ⟨i, place⟩ := List.mem_iff_getElem?.mp inside
    exact all (i :: path) target (by rw [holeAt?, place]; exact here)
  · intro all path target here
    cases path with
    | nil => exact absurd here nofun
    | cons i path =>
      obtain ⟨item, place, inside⟩ := Option.bind_eq_some_iff.mp here
      exact all item (List.mem_of_getElem? place) path target inside

@[simp] theorem all_object {fields : List (String × Template ρ)} :
    (object fields).All p ↔ ∀ field ∈ fields, field.2.All p := by
  constructor
  · intro all field inside path target here
    obtain ⟨i, place⟩ := List.mem_iff_getElem?.mp inside
    exact all (i :: path) target (by rw [holeAt?, place]; exact here)
  · intro all path target here
    cases path with
    | nil => exact absurd here nofun
    | cons i path =>
      obtain ⟨field, place, inside⟩ := Option.bind_eq_some_iff.mp here
      exact all field (List.mem_of_getElem? place) path target inside

section Congruence
variable {shown shown' : ρ → Json}

mutual

theorem fill_congr : (t : Template ρ) → (t.All fun target => shown target = shown' target) →
    t.fill shown = t.fill shown'
  | value _, _ => rfl
  | hole target, same => same [] target rfl
  | array items, same => congrArg Json.array (fillItems_congr items (all_array.mp same))
  | object fields, same => congrArg Json.object (fillFields_congr fields (all_object.mp same))

theorem fillItems_congr : (items : List (Template ρ)) →
    (∀ item ∈ items, item.All fun target => shown target = shown' target) →
    fillItems shown items = fillItems shown' items
  | [], _ => rfl
  | item :: items, same => by
    rw [fillItems, fillItems, fill_congr item (same item List.mem_cons_self),
      fillItems_congr items fun item inside => same item (List.mem_cons_of_mem _ inside)]

theorem fillFields_congr : (fields : List (String × Template ρ)) →
    (∀ field ∈ fields, field.2.All fun target => shown target = shown' target) →
    fillFields shown fields = fillFields shown' fields
  | [], _ => rfl
  | (key, t) :: fields, same => by
    rw [fillFields, fillFields, fill_congr t (same (key, t) List.mem_cons_self),
      fillFields_congr fields fun field inside => same field (List.mem_cons_of_mem _ inside)]

end

end Congruence

end Template

/-! ## Templates of trees -/

def Resolved.template : Resolved ρ → Template ρ
  | literal v => .value v
  | reference target => .hole target
  | expression e => .value e.json
  | fixed => .value (.string "Fixed")

def Options.template (options : Options ρ) : Template ρ :=
  .object (options.map fun (key, value) => (key, value.template))

def MarkData.template (data : MarkData ρ) : Template ρ :=
  .object [("from", .value (.string data.table)), ("options", data.options.template)]

def typedTemplate (type : String) (options : Options ρ) : Template ρ :=
  .object [("type", .value (.string type)), ("options", options.template)]

def PlotEntry.template : PlotEntry ρ → Template ρ
  | property name value =>
    .object [("attribute", .object [("name", .value (.string name)), ("value", value.template)])]
  | mark type data options =>
    .object [("mark", .object
      (("type", .value (.string type)) ::
        (data.map fun d => ("data", d.template)).toList ++
        [("options", options.template)]))]
  | legend type options => .object [("legend", typedTemplate type options)]
  | interactor type options => .object [("interactor", typedTemplate type options)]

mutual

def Directive.template : Directive ρ → Template ρ
  | .plot entries =>
    .object [("plot", .object [("entries", .array (entries.map PlotEntry.template))])]
  | .hconcat items => .object [("hconcat", .array (Directive.templates items))]
  | .vconcat items => .object [("vconcat", .array (Directive.templates items))]
  | .hspace size => .object [("hspace", .value (.number (.real size)))]
  | .vspace size => .object [("vspace", .value (.number (.real size)))]
  | .input type options => .object [("input", typedTemplate type options)]

def Directive.templates : List (Directive ρ) → List (Template ρ)
  | [] => []
  | item :: items => item.template :: Directive.templates items

end

def Document.template (document : Document ρ) : Template ρ :=
  .object
    ((document.metadata.map fun m => ("meta", .value m)).toList ++
      [("directive", document.layout.template)])

/-! ### What they are filled with -/

section Store
variable (store : Store)
open Template

theorem Resolved.json_eq_fill (resolved : Resolved Handle) :
    resolved.json store = resolved.template.fill store.json := by
  cases resolved <;> rfl

theorem Options.json_eq_fill (options : Options Handle) :
    options.json store = options.template.fill store.json := by
  rw [json, template, fill, fillFields_eq, List.map_map]
  exact congrArg Json.object
    (List.map_congr_left fun option _ => Prod.ext rfl (option.2.json_eq_fill store))

theorem typedJson_eq_fill (type : String) (options : Options Handle) :
    typedJson type (options.json store) = (typedTemplate type options).fill store.json := by
  rw [options.json_eq_fill]
  rfl

theorem MarkData.json_eq_fill (data : MarkData Handle) :
    data.json store = data.template.fill store.json := by
  rw [json, Options.json_eq_fill]
  rfl

theorem PlotEntry.json_eq_fill (entry : PlotEntry Handle) :
    entry.json store = entry.template.fill store.json := by
  cases entry with
  | property name value => rw [json, value.json_eq_fill]; rfl
  | mark type data options =>
    cases data with
    | none => rw [json, options.json_eq_fill]; rfl
    | some data => rw [json, options.json_eq_fill, Option.map_some, data.json_eq_fill]; rfl
  | legend type options => rw [json, typedJson_eq_fill]; rfl
  | interactor type options => rw [json, typedJson_eq_fill]; rfl

mutual

theorem Directive.json_eq_fill : (tree : Directive Handle) →
    tree.json store = tree.template.fill store.json
  | .plot entries => by
    have each : entries.map (·.json store) =
        fillItems store.json (entries.map PlotEntry.template) := by
      rw [fillItems_eq, List.map_map]
      exact List.map_congr_left fun entry _ => entry.json_eq_fill store
    rw [Directive.json, each]
    rfl
  | .hconcat items => by rw [Directive.json, Directive.jsonAll_eq_fill items]; rfl
  | .vconcat items => by rw [Directive.json, Directive.jsonAll_eq_fill items]; rfl
  | .hspace _ => rfl
  | .vspace _ => rfl
  | .input type options => by rw [Directive.json, typedJson_eq_fill]; rfl

theorem Directive.jsonAll_eq_fill : (items : List (Directive Handle)) →
    Directive.jsonAll store items = fillItems store.json (Directive.templates items)
  | [] => rfl
  | item :: items => by
    rw [Directive.jsonAll, Directive.json_eq_fill item, Directive.jsonAll_eq_fill items]
    rfl

end

/-- A document shows its template, filled with what its references show. -/
theorem Document.json_eq_fill (document : Document Handle) :
    document.json store = document.template.fill store.json := by
  rw [json, document.layout.json_eq_fill]
  cases metadata : document.metadata with
  | none => rw [template, metadata]; rfl
  | some m => rw [template, metadata]; rfl

end Store

/-! ### Targets of references

A relation that holds between the references of a tree and themselves is a property of the targets.
-/

section Targets
variable {same : ρ → ρ → Prop}
open Template

theorem Resolved.Matches.targets {resolved : Resolved ρ} (h : resolved.Matches same resolved) :
    resolved.template.All fun target => same target target := by
  cases h with
  | reference related => exact all_hole.mpr related
  | _ => exact all_value _

theorem Options.Match.targets {options : Options ρ} (h : Options.Match same options options) :
    options.template.All fun target => same target target := by
  refine all_object.mpr fun field inside => ?_
  obtain ⟨option, among, rfl⟩ := List.mem_map.mp inside
  exact (List.forall₂_same.mp h option among).2.targets

theorem Options.Match.typedTargets {options : Options ρ} (h : Options.Match same options options)
    (type : String) : (typedTemplate type options).All fun target => same target target := by
  have inside := h.targets
  simpa [typedTemplate] using inside

theorem MarkData.Matches.targets {data : MarkData ρ} (h : data.Matches same data) :
    data.template.All fun target => same target target := by
  cases h with
  | mk options =>
    have inside := options.targets
    simpa [MarkData.template] using inside

theorem PlotEntry.Matches.targets {entry : PlotEntry ρ} (h : entry.Matches same entry) :
    entry.template.All fun target => same target target := by
  cases h with
  | property value =>
    cases value with
    | mk value =>
      have inside := value.targets
      simpa [PlotEntry.template] using inside
  | mark data options =>
    have inside := options.targets
    cases data with
    | none => simpa [PlotEntry.template] using inside
    | some data => simpa [PlotEntry.template] using And.intro data.targets inside
  | legend options => simpa [PlotEntry.template] using options.typedTargets _
  | interactor options => simpa [PlotEntry.template] using options.typedTargets _

mutual

theorem Directive.Matches.targets : (tree : Directive ρ) → tree.Matches same tree →
    tree.template.All fun target => same target target
  | .plot entries, h => by
    cases h with
    | plot each =>
      have inside (entry : PlotEntry ρ) (among : entry ∈ entries) :=
        (List.forall₂_same.mp each entry among).targets
      simpa [Directive.template] using inside
  | .hconcat items, h => by
    cases h with
    | hconcat each =>
      have inside := Directive.Matches.all_targets items (List.forall₂_same.mp each)
      simpa [Directive.template] using inside
  | .vconcat items, h => by
    cases h with
    | vconcat each =>
      have inside := Directive.Matches.all_targets items (List.forall₂_same.mp each)
      simpa [Directive.template] using inside
  | .hspace _, _ => by simp [Directive.template]
  | .vspace _, _ => by simp [Directive.template]
  | .input type options, h => by
    cases h with
    | input options => simpa [Directive.template] using options.typedTargets type

theorem Directive.Matches.all_targets : (items : List (Directive ρ)) →
    (∀ item ∈ items, item.Matches same item) →
    ∀ t ∈ Directive.templates items, t.All fun target => same target target
  | [], _ => nofun
  | item :: items, each => by
    have first := Directive.Matches.targets item (each item List.mem_cons_self)
    have others := Directive.Matches.all_targets items fun item inside =>
      each item (List.mem_cons_of_mem _ inside)
    exact List.forall_mem_cons.mpr ⟨first, others⟩

end

/-- Every reference of a tree that mirrors a document has the target of a name. -/
theorem Document.Mirrors.targets {binds : String → ρ → Prop} {rules : Rules} {root : Fields}
    {document : Document ρ} (h : document.Mirrors binds rules root) :
    document.template.All fun target => ∃ name, binds name target := by
  have matching := matches_of_mirrors (layoutOf root) _ _ h.layout h.layout
  have inside : document.layout.template.All fun target => ∃ name, binds name target := by
    intro path target here
    obtain ⟨name, bound, -⟩ := Directive.Matches.targets _ matching path target here
    exact ⟨name, bound⟩
  cases metadata : document.metadata with
  | none => simpa [Document.template, metadata] using inside
  | some m => simpa [Document.template, metadata] using inside

end Targets

end Dashboard
