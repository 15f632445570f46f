import Dashboard.Proofs.Grammar
/-!
# Data and params

What becomes of the two sections that come before the layout, entry by entry.
-/
namespace Dashboard

/-! ## The data section -/

namespace Source
variable {formats : Table Format}

theorem describes_iff {entry : Json} {source : Fields} :
    Describes entry source ↔ normalize entry = .ok source := by
  constructor
  · intro describes
    cases describes <;> rfl
  · intro normal
    cases entry with
    | string query =>
      cases normal
      exact .query
    | object fields =>
      cases normal
      exact .object
    | _ => cases normal

/-- What follows the last point is what is left of the characters behind all points. -/
theorem extension?_eq_some {file : String} {front last : List Char}
    (written : file.toList = front ++ '.' :: last) (inside : '.' ∉ last) :
    extension? file = some (String.ofList last) := by
  have plain : ∀ c ∈ last.reverse, (decide (c ≠ '.')) = true := fun c here =>
    decide_eq_true fun same => inside (same ▸ List.mem_reverse.1 here)
  have stop : ∀ c ∈ ('.' :: front.reverse).head?, (decide (c ≠ '.')) = false := by
    rintro c ⟨⟩
    rfl
  have reversed : (front ++ '.' :: last).reverse = last.reverse ++ '.' :: front.reverse := by
    simp
  unfold extension?
  rw [written, if_pos (List.mem_append_right front (.head last)), reversed,
    Json.takeWhile_stop plain stop, List.reverse_reverse]

theorem extension?_eq_none {file : String} (h : '.' ∉ file.toList) : extension? file = none :=
  if_neg h

theorem exists_last_point {cs : List Char} (h : '.' ∈ cs) :
    ∃ front last, cs = front ++ '.' :: last ∧ '.' ∉ last := by
  induction cs with
  | nil => cases h
  | cons c cs ih =>
    by_cases later : '.' ∈ cs
    · obtain ⟨front, last, rfl, none⟩ := ih later
      exact ⟨c :: front, last, rfl, none⟩
    · obtain rfl := (List.mem_cons.1 h).resolve_right later
      exact ⟨[], cs, rfl, later⟩

theorem formatName_of_string {source : Fields} {name : String}
    (named : source.lookup "format" = some (.string name)) : formatName source = name := by
  unfold formatName
  rw [Fields.string?_eq_some.2 named]

theorem formatName_of_file {source : Fields}
    (unnamed : ∀ name, source.lookup "format" ≠ some (.string name)) :
    formatName source = ((source.string? "file").bind extension?).getD "table" := by
  have none : source.string? "format" = none :=
    Option.eq_none_iff_forall_ne_some.2 fun name found =>
      unnamed name (Fields.string?_eq_some.1 found)
  unfold formatName
  rw [none]

theorem hasFormat_formatName (source : Fields) : HasFormat source (formatName source) := by
  by_cases explicit : ∃ name, source.lookup "format" = some (.string name)
  · obtain ⟨name, here⟩ := explicit
    rw [formatName_of_string here]
    exact .named here
  · have unnamed := not_exists.1 explicit
    rw [formatName_of_file unnamed]
    cases found : source.string? "file" with
    | none =>
      refine .table unnamed fun file here => ?_
      rw [Fields.string?_eq_some.2 here] at found
      cases found
    | some file =>
      have here := Fields.string?_eq_some.1 found
      rw [Option.bind_some]
      by_cases pointed : '.' ∈ file.toList
      · obtain ⟨front, last, written, inside⟩ := exists_last_point pointed
        rw [extension?_eq_some written inside]
        exact .extension unnamed here written inside
      · rw [extension?_eq_none pointed]
        refine .table unnamed fun file' here' => ?_
        rw [here] at here'
        cases here'
        exact pointed

/-- The format that reading infers is the format of the source. -/
theorem hasFormat_iff {source : Fields} {name : String} :
    HasFormat source name ↔ formatName source = name := by
  constructor
  · intro h
    cases h with
    | named here => exact formatName_of_string here
    | extension unnamed here written inside =>
      rw [formatName_of_file unnamed, Fields.string?_eq_some.2 here, Option.bind_some,
        extension?_eq_some written inside]
      rfl
    | table unnamed noPoint =>
      rw [formatName_of_file unnamed]
      cases found : source.string? "file" with
      | none => rfl
      | some file =>
        rw [Option.bind_some,
          extension?_eq_none (noPoint file (Fields.string?_eq_some.1 found))]
        rfl
  · rintro rfl
    exact hasFormat_formatName source

theorem materializeSource?_eq_ok {table : String} {source : Fields}
    {work : Option Materialization} :
    materializeSource? formats table source = .ok work ↔
      ∃ format statement, formats.lookup (formatName source) = some format ∧
        format table source = .ok statement ∧ statement.map (⟨table, ·⟩) = work := by
  unfold materializeSource?
  cases formats.lookup (formatName source) with
  | none => simp
  | some format => cases taken : format table source <;> simp [Except.map, taken]

theorem gives_of_materialize? {table : String} {entry : Json} {work : Option Materialization}
    (h : materialize? formats table entry = .ok work) :
    ∃ statement, Gives formats table entry statement ∧ statement.map (⟨table, ·⟩) = work := by
  unfold materialize? at h
  cases normal : normalize entry with
  | error e =>
    rw [normal] at h
    cases h
  | ok source =>
    rw [normal] at h
    obtain ⟨format, statement, known, takes, same⟩ := materializeSource?_eq_ok.1 h
    exact ⟨statement, .mk (describes_iff.2 normal) (hasFormat_iff.2 rfl) known takes, same⟩

theorem Gives.materialize? {table : String} {entry : Json} {statement : Option String}
    (h : Gives formats table entry statement) :
    materialize? formats table entry = .ok (statement.map (⟨table, ·⟩)) := by
  cases h with
  | mk describes named known takes =>
    unfold Source.materialize?
    obtain rfl := hasFormat_iff.1 named
    rw [describes_iff.1 describes]
    exact materializeSource?_eq_ok.2 ⟨_, statement, known, takes, rfl⟩

theorem reduceOption_cons_statement (table : String) (statement : Option String)
    {work : List Materialization} {given : List (Option String)}
    (same : work.map (·.statement) = given.reduceOption) :
    ((statement.map (⟨table, ·⟩ : String → Materialization)).toList ++ work).map (·.statement) =
      (statement :: given).reduceOption := by
  cases statement with
  | none => exact same
  | some s => exact congrArg (s :: ·) same

theorem materializeEntries_of_gives {entries : Fields} {given : List (Option String)}
    (h : List.Forall₂ (fun entry statement => Gives formats entry.1 entry.2 statement)
      entries given) :
    ∃ work, materializeEntries formats entries = .ok work ∧
      work.map (·.statement) = given.reduceOption := by
  induction h with
  | nil => exact ⟨[], rfl, rfl⟩
  | @cons entry statement entries given first _ ih =>
    obtain ⟨work, others, same⟩ := ih
    refine ⟨_, ?_, reduceOption_cons_statement entry.1 statement same⟩
    rw [materializeEntries, first.materialize?, others]
    rfl

theorem gives_of_materializeEntries {entries : Fields} {work : List Materialization}
    (h : materializeEntries formats entries = .ok work) :
    ∃ given, List.Forall₂ (fun entry statement => Gives formats entry.1 entry.2 statement)
        entries given ∧
      work.map (·.statement) = given.reduceOption := by
  induction entries generalizing work with
  | nil =>
    cases h
    exact ⟨[], .nil, rfl⟩
  | cons entry entries ih =>
    rw [materializeEntries] at h
    cases first : materialize? formats entry.1 entry.2 with
    | error e =>
      rw [first] at h
      cases h
    | ok statement =>
      cases others : materializeEntries formats entries with
      | error e =>
        rw [first, others] at h
        cases h
      | ok work =>
        rw [first, others] at h
        cases h
        obtain ⟨statement, gives, rfl⟩ := gives_of_materialize? first
        obtain ⟨given, all, same⟩ := ih others
        exact ⟨statement :: given, .cons gives all,
          reduceOption_cons_statement entry.1 statement same⟩

theorem dataGives_iff {data : Json} {statements : List String} :
    DataGives formats data statements ↔
      ∃ work, materializations formats data = .ok work ∧ work.map (·.statement) = statements := by
  constructor
  · intro h
    cases h with
    | null => exact ⟨[], rfl, rfl⟩
    | entries all => exact materializeEntries_of_gives all
  · intro h
    rcases h with ⟨work, done, rfl⟩
    cases data with
    | null =>
      cases done
      exact .null
    | object entries =>
      obtain ⟨given, all, same⟩ := gives_of_materializeEntries done
      rw [same]
      exact .entries all
    | _ => cases done

end Source

/-! ## The params section -/

section Params
variable {params : Table (Json → Live)}

theorem isParam_iff_defines (plain : "value" ∈ params.names) {entry : String × Json} :
    IsParam params entry.2 ↔ ∃ ref, Defines params entry ref := by
  rcases entry with ⟨name, entry⟩
  constructor
  · intro ok
    cases ok with
    | plain here =>
      have known := Option.isSome_iff_exists.1 (Table.mem_names.1 plain)
      rcases known with ⟨construct, known⟩
      exact ⟨_, .plain here known⟩
    | kind here known =>
      rcases Option.isSome_iff_exists.1 (Table.mem_names.1 known) with ⟨construct, known⟩
      exact ⟨_, .kind here known⟩
  · intro defines
    rcases defines with ⟨ref, defines⟩
    cases defines with
    | plain here _ => exact .plain here
    | kind here known =>
      have registered := Option.isSome_iff_exists.2 ⟨_, known⟩
      exact .kind here (Table.mem_names.2 registered)

theorem readParam_of_defines {entry : String × Json} {ref : Reference}
    (h : Defines params entry ref) : readParam params entry = (⟨[ref], .ok ()⟩ : Reading Unit) := by
  unfold readParam
  cases h with
  | plain plain known => simp only [paramDefinition_of_plain plain, Option.bind_some, known]; rfl
  | kind here known =>
    simp only [paramDefinition_of_kind here, Json.string?, Option.bind_some, known]
    rfl

theorem readParam_of_not_defines {entry : String × Json} (h : ∀ ref, ¬ Defines params entry ref) :
    readParam params entry = (⟨[], .error (.unknownParamType entry.2)⟩ : Reading Unit) := by
  obtain ⟨name, entry⟩ := entry
  unfold readParam
  have unknown : ((paramDefinition entry).1.bind fun kind => params.lookup kind) = none := by
    refine Option.eq_none_iff_forall_ne_some.2 fun construct found => ?_
    obtain ⟨kind, named, known⟩ := Option.bind_eq_some_iff.1 found
    obtain here | ⟨fields, value, rfl, here⟩ := isPlain_or_kind entry
    · rw [paramDefinition_of_plain here] at named
      cases named
      exact h _ (.plain here known)
    · rw [paramDefinition_of_kind here] at named
      obtain rfl := Json.string?_eq_some.1 named
      exact h _ (.kind here known)
  simp only [unknown]
  rfl

theorem forM_of_defines {entries : Fields} {refs : List Reference}
    (h : List.Forall₂ (Defines params) entries refs) :
    forM entries (readParam params) = (⟨refs, .ok ()⟩ : Reading Unit) := by
  induction h with
  | nil => rfl
  | cons first _ ih =>
    rw [List.forM_cons, readParam_of_defines first, ih]
    rfl

/-- The first entry that defines nothing is the error. -/
theorem forM_of_not_defines {before after : Fields} {bad : String × Json} {refs : List Reference}
    (sound : List.Forall₂ (Defines params) before refs)
    (unknown : ∀ ref, ¬ Defines params bad ref) :
    forM (before ++ bad :: after) (readParam params) =
      (⟨refs, .error (.unknownParamType bad.2)⟩ : Reading Unit) := by
  rw [List.forM_append, forM_of_defines sound, List.forM_cons, readParam_of_not_defines unknown,
    Reading.bind_error, Reading.bind_ok, List.append_nil]

theorem readParams_of_define {catalog : Catalog} {value : Json} {refs : List Reference}
    (h : ParamsDefine catalog.params value refs) :
    readParams catalog value = (⟨refs, .ok ()⟩ : Reading Unit) := by
  cases h with
  | null => rfl
  | entries all => exact forM_of_defines all

theorem readParams_of_shape {value : Json} (notNull : value ≠ .null)
    (notObject : ∀ entries, value ≠ .object entries) (catalog : Catalog) :
    readParams catalog value =
      (⟨[], .error (.wrongPropertyType "params" value)⟩ : Reading Unit) := by
  cases value with
  | null => exact absurd rfl notNull
  | object entries => exact absurd rfl (notObject entries)
  | _ => rfl

theorem readParams_of_fail {catalog : Catalog} {value : Json} {refs : List Reference}
    (h : ParamsFail catalog.params value refs) :
    ∃ e, readParams catalog value = (⟨refs, .error e⟩ : Reading Unit) := by
  cases h with
  | shape notNull notObject => exact ⟨_, readParams_of_shape notNull notObject catalog⟩
  | entry all unknown => exact ⟨_, forM_of_not_defines all unknown⟩

theorem define_or_fail (entries : Fields) :
    (∃ refs, List.Forall₂ (Defines params) entries refs) ∨
      ∃ refs, ParamsFail params (.object entries) refs := by
  induction entries with
  | nil => exact .inl ⟨[], .nil⟩
  | cons entry entries ih =>
    by_cases known : ∃ ref, Defines params entry ref
    · obtain ⟨ref, first⟩ := known
      obtain ⟨refs, all⟩ | ⟨refs, fails⟩ := ih
      · exact .inl ⟨ref :: refs, .cons first all⟩
      · refine .inr ?_
        cases fails with
        | shape _ notObject => exact absurd rfl (notObject entries)
        | @entry before after bad refs all unknown =>
          exact ⟨ref :: refs, .entry (.cons first all) unknown⟩
    · exact .inr ⟨[], .entry .nil (not_exists.1 known)⟩

/-- A params section is in order or it is not. -/
theorem paramsDefine_or_paramsFail (value : Json) :
    ∃ refs, ParamsDefine params value refs ∨ ParamsFail params value refs := by
  cases value with
  | null => exact ⟨[], .inl .null⟩
  | object entries =>
    obtain ⟨refs, all⟩ | ⟨refs, fails⟩ := define_or_fail entries
    · exact ⟨refs, .inl (.entries all)⟩
    · exact ⟨refs, .inr fails⟩
  | _ => exact ⟨[], .inr (.shape nofun nofun)⟩

end Params

end Dashboard
