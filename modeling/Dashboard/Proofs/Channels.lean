import Dashboard.Proofs.Repetition
import Dashboard.Proofs.Spellings
/-!
# What a channel stands for

The value of a channel is read in one of four ways, of which the first that fits counts: an object
with a key `expr` is an expression as it is written, an object whose only key names a transform is a
call of it, a reference is the live value of its name, and all else is the value itself. Only the
third way has to do with the scope, and only if the name is not bound yet.
-/
namespace Dashboard
variable {ρ : Type}

/-! ## The four ways -/

/-- Has a key `expr`, whatever stands under it and beside it. -/
def Json.IsWritten (value : Json) : Prop :=
  ∃ fields text, value = .object fields ∧ fields.lookup "expr" = some text

/-- Has one key, which names a transform. -/
def Json.IsCall (transforms : Table (List Json → Expression)) (value : Json) : Prop :=
  ∃ name payload transform, value = .object [(name, payload)] ∧
    transforms.lookup name = some transform

/-- Refers to a name, in one of two spellings. -/
inductive Json.RefersTo : Json → String → Prop
  | text {name : String} : name ≠ "" → RefersTo (.string ("$" ++ name)) name
  | object {fields : Fields} {name : String} :
      fields.lookup "param" = some (.string name) → RefersTo (.object fields) name

/-- Takes its text as it is written, and its label if that is a string. -/
structure Expression.Writes (e : Expression) (fields : Fields) (text : Json) : Prop where
  string : ∀ s, text = .string s → e.text = s
  other : (∀ s, text ≠ .string s) → e.text = text.compact
  label : ∀ label, e.label = some label ↔ fields.lookup "label" = some (.string label)
  plain : e.aggregate = false

/-- What a transform is called with: nothing for a count, the items of a list, or the payload. -/
inductive Passes : String → Json → List Json → Prop
  | count {payload : Json} : Passes "count" payload []
  | items {name : String} {items : List Json} : name ≠ "count" → Passes name (.array items) items
  | alone {name : String} {payload : Json} :
      name ≠ "count" → (∀ items, payload ≠ .array items) → Passes name payload [payload]

/-- What a value stands for in a channel. -/
inductive Resolved.StandsFor (binds : String → ρ → Prop)
    (transforms : Table (List Json → Expression)) : Json → Resolved ρ → Prop
  | written {fields : Fields} {text : Json} {e : Expression} :
      fields.lookup "expr" = some text → e.Writes fields text →
      StandsFor binds transforms (.object fields) (.expression e)
  | call {name : String} {payload : Json} {transform : List Json → Expression}
      {arguments : List Json} :
      name ≠ "expr" → transforms.lookup name = some transform → Passes name payload arguments →
      StandsFor binds transforms (.object [(name, payload)]) (.expression (transform arguments))
  | reference {value : Json} {name : String} {target : ρ} :
      ¬ value.IsWritten → ¬ value.IsCall transforms → value.RefersTo name → binds name target →
      StandsFor binds transforms value (.reference target)
  | verbatim {value : Json} :
      ¬ value.IsWritten → ¬ value.IsCall transforms → (∀ name, ¬ value.RefersTo name) →
      StandsFor binds transforms value (.literal value)

/-! ## Each way by itself -/

theorem referenceName?_eq_some_iff {value : Json} {name : String} :
    referenceName? value = some name ↔ value.RefersTo name := by
  constructor
  · intro named
    cases value with
    | string s =>
      rw [referenceName?] at named
      split at named
      · next c cs letters =>
        obtain rfl := Option.some.inj named
        have spelled : s = "$" ++ String.ofList (c :: cs) := by
          rw [← String.toList_inj]
          simp [letters]
        have nonempty : String.ofList (c :: cs) ≠ "" := by
          rw [ne_eq, ← String.toList_eq_nil_iff, String.toList_ofList]
          exact List.cons_ne_nil c cs
        exact spelled ▸ .text nonempty
      · cases named
    | object fields => exact .object (Fields.string?_eq_some.1 named)
    | _ => cases named
  · intro refers
    cases refers with
    | text nonempty => exact referenceName?_text nonempty
    | object found => exact Fields.string?_eq_some.2 found

theorem referenceName?_eq_none_iff {value : Json} :
    referenceName? value = none ↔ ∀ name, ¬ value.RefersTo name := by
  simp only [Option.eq_none_iff_forall_ne_some, ne_eq, referenceName?_eq_some_iff]

theorem writes_writtenExpression (fields : Fields) (text : Json) :
    (writtenExpression text (fields.string? "label")).Writes fields text where
  string s same := by rw [same]; rfl
  other noString := by
    cases text with
    | string s => exact absurd rfl (noString s)
    | _ => rfl
  label _ := Fields.string?_eq_some
  plain := rfl

theorem Expression.Writes.eq {e e' : Expression} {fields : Fields} {text : Json}
    (h : e.Writes fields text) (k : e'.Writes fields text) : e = e' := by
  have texts : e.text = e'.text := by
    cases text with
    | string s => rw [h.string s rfl, k.string s rfl]
    | _ => rw [h.other nofun, k.other nofun]
  have labels : e.label = e'.label :=
    Option.ext fun label => (h.label label).trans (k.label label).symm
  have flags : e.aggregate = e'.aggregate := h.plain.trans k.plain.symm
  cases e
  cases e'
  cases texts
  cases labels
  cases flags
  rfl

theorem passes_transformArguments (name : String) (payload : Json) :
    Passes name payload (transformArguments name payload) := by
  unfold transformArguments
  split
  · next count =>
    subst count
    exact .count
  · next other =>
    cases payload with
    | array items => exact .items other
    | _ => exact .alone other nofun

theorem Passes.eq {name : String} {payload : Json} {arguments : List Json}
    (h : Passes name payload arguments) : arguments = transformArguments name payload := by
  unfold transformArguments
  cases h with
  | count => rw [if_pos rfl]
  | items other => rw [if_neg other]
  | alone other noList =>
    rw [if_neg other]
    cases payload with
    | array items => exact absurd rfl (noList items)
    | _ => rfl

section Transforms
variable {transforms : Table (List Json → Expression)}

theorem transform?_of_written {fields : Fields} {text : Json}
    (found : fields.lookup "expr" = some text) : transform? transforms (.object fields) =
      some (writtenExpression text (fields.string? "label")) := by
  simp only [transform?, found]

theorem lookup_expr_single {name : String} (other : name ≠ "expr") (payload : Json) :
    List.lookup "expr" [(name, payload)] = none := by
  rw [Table.lookup_cons, if_neg (Ne.symm other)]
  rfl

theorem transform?_single {name : String} (other : name ≠ "expr") (payload : Json) :
    transform? transforms (.object [(name, payload)]) =
      (transforms.lookup name).map (· (transformArguments name payload)) := by
  simp only [transform?, lookup_expr_single other payload]

theorem transform?_of_neither {value : Json} (notWritten : ¬ value.IsWritten)
    (noCall : ¬ value.IsCall transforms) : transform? transforms value = none := by
  cases value with
  | object fields =>
    have unwritten : fields.lookup "expr" = none := by
      cases found : fields.lookup "expr" with
      | none => rfl
      | some text => exact absurd ⟨fields, text, rfl, found⟩ notWritten
    simp only [transform?, unwritten]
    split
    · next name payload =>
      cases known : transforms.lookup name with
      | none => rfl
      | some transform => exact absurd ⟨name, payload, transform, rfl, known⟩ noCall
    · rfl
  | _ => rfl

/-- A call whose transform has the name `expr` is taken for an expression as it is written. -/
theorem written_or_call_or_neither (transforms : Table (List Json → Expression)) (value : Json) :
    value.IsWritten ∨
      (∃ name payload transform, value = .object [(name, payload)] ∧ name ≠ "expr" ∧
        transforms.lookup name = some transform) ∨
      (¬ value.IsWritten ∧ ¬ value.IsCall transforms) := by
  by_cases written : value.IsWritten
  · exact .inl written
  · by_cases call : value.IsCall transforms
    · obtain ⟨name, payload, transform, rfl, known⟩ := call
      refine .inr (.inl ⟨name, payload, transform, rfl, ?_, known⟩)
      rintro rfl
      exact written ⟨_, payload, rfl, rfl⟩
    · exact .inr (.inr ⟨written, call⟩)

/-- The four ways are those in which a channel mirrors its value. -/
theorem standsFor_iff_mirrors {binds : String → ρ → Prop} {value : Json} {resolved : Resolved ρ} :
    resolved.StandsFor binds transforms value ↔
      resolved.MirrorsChannel binds transforms value := by
  constructor
  · intro stands
    cases stands with
    | @written fields text e found writes =>
      obtain rfl := writes.eq (writes_writtenExpression fields text)
      exact .expression (transform?_of_written found)
    | @call name payload transform arguments other known passes =>
      obtain rfl := passes.eq
      refine .expression ?_
      rw [transform?_single other, known]
      rfl
    | reference notWritten noCall refers bound =>
      exact .value (transform?_of_neither notWritten noCall)
        (.reference (referenceName?_eq_some_iff.2 refers) bound)
    | verbatim notWritten noCall refers =>
      exact .value (transform?_of_neither notWritten noCall)
        (.literal (referenceName?_eq_none_iff.2 refers))
  · intro mirrors
    obtain ⟨fields, text, rfl, found⟩ | ⟨name, payload, transform, rfl, other, known⟩ |
      ⟨notWritten, noCall⟩ := written_or_call_or_neither transforms value
    · have expression : transform? transforms (.object fields) = _ := transform?_of_written found
      cases mirrors with
      | expression same =>
        obtain rfl := Option.some.inj (expression.symm.trans same)
        exact .written found (writes_writtenExpression fields text)
      | value none _ => cases expression.symm.trans none
    · have expression : transform? transforms _ = _ := transform?_single other payload
      rw [known, Option.map_some] at expression
      cases mirrors with
      | expression same =>
        obtain rfl := Option.some.inj (expression.symm.trans same)
        exact .call other known (passes_transformArguments name payload)
      | value none _ => cases expression.symm.trans none
    · have none := transform?_of_neither notWritten noCall
      cases mirrors with
      | expression same => cases none.symm.trans same
      | value _ mirrors =>
        cases mirrors with
        | literal unnamed =>
          exact .verbatim notWritten noCall (referenceName?_eq_none_iff.1 unnamed)
        | reference named bound =>
          exact .reference notWritten noCall (referenceName?_eq_some_iff.1 named) bound

end Transforms

/-! ## What is left of the scope -/

/-- One name is bound that was free, to a new cell behind the others, and nothing else is
changed. -/
structure Context.BindsOne (before : Context) (ref : Reference) (handle : Handle)
    (after : Context) : Prop where
  free : before.scope.handle? ref.name = none
  behind : handle = before.scope.store.length
  names : after.scope.names = before.scope.names ++ [(ref.name, handle)]
  store : after.scope.store = before.scope.store ++ [⟨ref.initial, []⟩]
  journal : after.journal = before.journal ++ [.bound ref.name]

theorem Context.bindsOne_bind {context : Context} {ref : Reference}
    (free : context.scope.handle? ref.name = none) :
    context.BindsOne ref context.scope.store.length (context.bind ref) := by
  rw [Context.bind_of_free free, Scope.bind_of_free free]
  exact ⟨free, rfl, rfl, rfl, rfl⟩

theorem Context.BindsOne.handle? {before after : Context} {ref : Reference} {handle : Handle}
    (h : before.BindsOne ref handle after) (name : String) :
    after.scope.handle? name =
      (before.scope.handle? name).or (if name = ref.name then some handle else none) := by
  rw [Scope.handle?, h.names, List.lookup_append, Table.lookup_cons]
  rfl

theorem Context.BindsOne.handle_eq {before after : Context} {ref : Reference}
    {handle other : Handle} (h : before.BindsOne ref handle after)
    (bound : after.scope.handle? ref.name = some other) : other = handle := by
  rw [h.handle?, h.free, if_pos rfl, Option.none_or] at bound
  exact (Option.some.inj bound).symm

/-- A channel leaves everything alone, unless it refers to a free name. -/
theorem runIn_readChannel (transforms : Table (List Json → Expression)) (context : Context)
    (value : Json) : ∃ resolved after,
      (readChannel transforms value : Interpreting (Resolved Handle)).runIn context =
        (.ok resolved, after) ∧
      resolved.StandsFor after.scope.Binds transforms value ∧
      (after = context ∨ ∃ name handle, value.RefersTo name ∧ resolved = .reference handle ∧
        context.BindsOne ⟨name, freshParam⟩ handle after) := by
  cases found : transform? transforms value with
  | some e =>
    refine ⟨.expression e, context, ?_, standsFor_iff_mirrors.2 (.expression found), .inl rfl⟩
    simp only [readChannel, found, Interpreting.runIn_pure]
  | none =>
    cases named : referenceName? value with
    | none =>
      refine ⟨.literal value, context, ?_, standsFor_iff_mirrors.2 (.value found (.literal named)),
        .inl rfl⟩
      simp only [readChannel, found, readValue, named, Interpreting.runIn_pure]
    | some name =>
      obtain ⟨handle, met, bound⟩ := Interpreting.runIn_meet ⟨name, freshParam⟩ context
      refine ⟨.reference handle, context.bind ⟨name, freshParam⟩, ?_,
        standsFor_iff_mirrors.2 (.value found (.reference named bound)), ?_⟩
      · simp only [readChannel, found, readValue, named]
        exact Interpreting.runIn_map_eq_ok.2 ⟨handle, met, rfl⟩
      · cases was : context.scope.handle? name with
        | some old => exact .inl (Context.bind_of_bound was)
        | none =>
          have one : context.BindsOne ⟨name, freshParam⟩ _ _ := Context.bindsOne_bind was
          rw [← one.handle_eq bound] at one
          exact .inr ⟨name, handle, referenceName?_eq_some_iff.1 named, rfl, one⟩

/-- One argument is passed alike with and without brackets. -/
theorem transformArguments_singleton (name : String) {payload : Json}
    (noList : ∀ items, payload ≠ .array items) :
    transformArguments name (.array [payload]) = transformArguments name payload := by
  unfold transformArguments
  cases payload with
  | array items => exact absurd rfl (noList items)
  | _ => rfl

/-- Every value of a channel is read, and it stands for one thing, by the first of the four ways
that fits it. The call of a transform with one argument is the same with and without brackets. What
is read changes something if and only if it is a reference to a name that was free, and then this
name alone is bound, to a new param that holds null. -/
theorem channel_precedence (transforms : Table (List Json → Expression)) (context : Context) :
    let read (value : Json) : Except DocumentError (Resolved Handle) × Context :=
      Interpreting.runIn (readChannel transforms value) context
    (∀ value, ∃ resolved after, read value = (.ok resolved, after) ∧
      (∀ other, other.StandsFor after.scope.Binds transforms value ↔ other = resolved) ∧
      (after ≠ context ↔ ∃ name handle, resolved = .reference handle ∧
        context.scope.handle? name = none ∧ after.scope.handle? name = some handle) ∧
      ∀ name handle, context.scope.handle? name = none → after.scope.handle? name = some handle →
        value.RefersTo name ∧ resolved = .reference handle ∧
          context.BindsOne ⟨name, .param .null⟩ handle after) ∧
    ∀ name transform payload, name ≠ "expr" → transforms.lookup name = some transform →
      (∀ items, payload ≠ .array items) →
      read (.object [(name, payload)]) = read (.object [(name, .array [payload])]) := by
  intro read
  refine ⟨fun value => ?_, fun name transform payload other known noList => ?_⟩
  · obtain ⟨resolved, after, run, stands, effect⟩ := runIn_readChannel transforms context value
    refine ⟨resolved, after, run, fun other => ⟨fun stands' => ?_, ?_⟩, ⟨fun changed => ?_, ?_⟩, ?_⟩
    · have matching := (standsFor_iff_mirrors.1 stands').matches (standsFor_iff_mirrors.1 stands)
      exact matching.eq fun _ _ ⟨_, bound, bound'⟩ => bound.unique bound'
    · rintro rfl
      exact stands
    · obtain ⟨name, handle, -, reference, one⟩ := effect.resolve_left changed
      refine ⟨name, handle, reference, one.free, ?_⟩
      rw [one.handle?, one.free, Option.none_or, if_pos rfl]
    · rintro ⟨name, handle, -, free, bound⟩ rfl
      cases free.symm.trans bound
    · intro name handle free bound
      obtain rfl | ⟨name', handle', refers, reference, one⟩ := effect
      · cases free.symm.trans bound
      · have there := bound
        rw [one.handle?, free, Option.none_or, Option.ite_none_right_eq_some] at there
        obtain ⟨rfl, same⟩ := there
        obtain rfl := Option.some.inj same
        exact ⟨refers, reference, one⟩
  · have expression : transform? transforms (.object [(name, payload)]) =
        transform? transforms (.object [(name, .array [payload])]) := by
      rw [transform?_single other, transform?_single other,
        transformArguments_singleton name noList]
    have found : transform? transforms _ = _ := transform?_single other payload
    rw [known, Option.map_some] at found
    simp only [read, readChannel, ← expression, found]

end Dashboard
