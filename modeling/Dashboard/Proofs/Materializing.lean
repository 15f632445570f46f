import Dashboard.Proofs.Decoding
import Dashboard.Source.Format
/-!
# Reading statements back

A statement that fills a table from a file is read back from left to right: its columns, the name of
the file and the value of each option. So two statements with the same options are the same only if
they say the same, whatever the names and values contain.
-/
namespace Dashboard

/-! ## Tables -/

namespace Table
variable {α β : Type}

/-- Adds a name at the end, unless it is there. -/
def addName (names : List String) (name : String) : List String :=
  if name ∈ names then names else names ++ [name]

/-- Which names a table gets depends on no value. -/
theorem names_putAll (t : Table α) (entries : List (String × α)) :
    (t.putAll entries).names = (entries.map (·.1)).foldl addName t.names := by
  induction entries generalizing t with
  | nil => rfl
  | cons e entries ih =>
    have rest := ih (t.put e.1 e.2)
    rw [names_put] at rest
    exact rest

/-- The same entries with other values. -/
def mapValues (f : α → β) (t : Table α) : Table β :=
  t.map fun e => (e.1, f e.2)

theorem mapValues_put (f : α → β) (t : Table α) (name : String) (value : α) :
    (t.put name value).mapValues f = (t.mapValues f).put name (f value) := by
  induction t with
  | nil => rfl
  | cons e t ih =>
    by_cases here : e.1 = name
    · simp [put, mapValues, here]
    · simpa [put, mapValues, here] using ih

theorem mapValues_putAll (f : α → β) (t : Table α) (entries : List (String × α)) :
    (t.putAll entries).mapValues f = (t.mapValues f).putAll (mapValues f entries) := by
  induction entries generalizing t with
  | nil => rfl
  | cons e entries ih =>
    have rest := ih (t.put e.1 e.2)
    rw [mapValues_put] at rest
    exact rest

end Table

namespace Source
open Query

/-! ## Statements -/

/-- The formats that read a file. -/
inductive FileFormat where
  | parquet
  | csv
  | json
  deriving DecidableEq, Repr

namespace FileFormat

def format : FileFormat → Format
  | parquet => Source.parquet
  | csv => Source.csv
  | json => Source.json

def function : FileFormat → String
  | parquet => "read_parquet"
  | csv => "read_csv_auto"
  | json => "read_json_auto"

/-- The options as the source has them. -/
def options (source : Fields) : Fields :=
  Table.without source reservedKeys

/-- The options as a statement has them, with their values. -/
def emitted (kind : FileFormat) (source : Fields) : Fields :=
  let options := (options source).map fun (key, value) => (Text.upper key, value)
  match kind with
  | parquet => []
  | csv => Table.putAll [("SAMPLE_SIZE", .number (.integer (-1)))] options
  | json => options

/-- What the values of these options say. -/
def values (kind : FileFormat) (source : Fields) : List Literal :=
  (kind.emitted source).map fun entry => .ofJson entry.2

/-- The keys of a statement depend on the keys of the source only. -/
theorem names_emitted {source source' : Fields}
    (same : (options source).names = (options source').names) (kind : FileFormat) :
    (kind.emitted source).names = (kind.emitted source').names := by
  have upper (options : Fields) :
      (options.map fun (key, value) => (Text.upper key, value)).map (·.1) =
        options.names.map Text.upper := by
    simp [Table.names]
  cases kind with
  | parquet => rfl
  | json => exact (upper _).trans ((congrArg (List.map Text.upper) same).trans (upper _).symm)
  | csv => simp only [emitted, Table.names_putAll, upper, same]

/-- The statement for a file. -/
def statement (kind : FileFormat) (table file : String) (columns : List String) (options : Fields) :
    String :=
  createTable table
    (selectFrom columns (tableCall kind.function file (Table.mapValues literal options)))

theorem format_eq (kind : FileFormat) (table : String) (source : Fields) :
    kind.format table source = (do
      let file ← file source
      let columns ← columns source
      return some (kind.statement table file columns (kind.emitted source))) := by
  cases kind with
  | parquet => rfl
  | json =>
    have same : readerOptions source = Table.mapValues literal (json.emitted source) := by
      simp [readerOptions, Table.mapValues, emitted, options]
    unfold statement
    rw [← same]
    rfl
  | csv =>
    have same : csvOptions source = Table.mapValues literal (csv.emitted source) := by
      rw [emitted, Table.mapValues_putAll]
      simp [csvOptions, readerOptions, Table.mapValues, options]
      rfl
    unfold statement
    rw [← same]
    rfl

/-- What a source that is accepted gives. -/
theorem format_eq_ok {kind : FileFormat} {table : String} {source : Fields} {given : Option String}
    (accepted : kind.format table source = .ok given) :
    ∃ file names, source.string? "file" = some file ∧ columns source = .ok names ∧
      given = some (kind.statement table file names (kind.emitted source)) := by
  rw [format_eq] at accepted
  unfold Source.file at accepted
  cases named : source.string? "file" with
  | none =>
    rw [named] at accepted
    cases accepted
  | some file =>
    rw [named] at accepted
    cases chosen : columns source with
    | error e =>
      rw [chosen] at accepted
      cases accepted
    | ok names =>
      rw [chosen] at accepted
      cases accepted
      exact ⟨file, names, rfl, rfl, rfl⟩

end FileFormat

/-! ## Columns -/

/-- The columns of a query, the star if none is chosen. -/
def chosen (names : List String) : List String :=
  if names.isEmpty then ["*"] else names

/-- The list of columns that a choice stands for. -/
def selection : Json → List Json
  | .null => [.string "*"]
  | .array [] => [.string "*"]
  | .array names => names
  | name => [name]

theorem columnNames_eq_ok {items : List Json} {names : List String}
    (sound : columnNames items = .ok names) : items = names.map .string := by
  induction items generalizing names with
  | nil =>
    cases sound
    rfl
  | cons item items ih =>
    cases item with
    | string name =>
      rw [columnNames] at sound
      cases others : columnNames items with
      | error e =>
        rw [others] at sound
        cases sound
      | ok rest =>
        rw [others] at sound
        cases sound
        rw [ih others, List.map_cons]
    | _ => cases sound

theorem selection_of_columns {source : Fields} {names : List String}
    (sound : columns source = .ok names) :
    selection (source.valueAt "select") = (chosen names).map .string := by
  unfold columns at sound
  cases choice : source.valueAt "select" with
  | array items =>
    rw [choice] at sound
    rw [columnNames_eq_ok sound]
    cases names <;> rfl
  | null =>
    rw [choice] at sound
    cases sound
    rfl
  | string name =>
    rw [choice] at sound
    cases sound
    rfl
  | _ =>
    rw [choice] at sound
    cases sound

def readColumn : Decoder String
  | '*' :: rest => some ("*", rest)
  | '"' :: rest => (readMarked '"' rest).map fun (name, rest) => (String.ofList name, rest)
  | _ => none

/-- Reads the columns of a query, of which there is at least one. -/
def readColumns : Decoder (List String) := fun cs =>
  (readColumn cs).bind fun (first, rest) =>
    (readMore readColumn rest.length rest).map fun (others, rest) => (first :: others, rest)

/-- What may follow a column: anything that does not go on with its name. -/
def EndsColumn (rest : List Char) : Prop :=
  ∀ c ∈ rest.head?, c ≠ '"'

theorem readColumn_column (name : String) {rest : List Char} (ends : EndsColumn rest) :
    readColumn ((column name).toList ++ rest) = some (name, rest) := by
  unfold column
  split
  · next star =>
    subst star
    rfl
  · rw [identifier, toList_enclosed, readColumn, readMarked_doubled ends]
    simp only [Option.map_some, String.ofList_toList]

theorem readColumns_chosen (names : List String) {rest : List Char} (ends : EndsColumn rest)
    (stop : ∀ c ∈ rest.head?, c ≠ ',') :
    readColumns ((", ".intercalate ((chosen names).map column)).toList ++ rest) =
      some (chosen names, rest) := by
  obtain ⟨name, others, list⟩ : ∃ name others, chosen names = name :: others := by
    cases names with
    | nil => exact ⟨"*", [], rfl⟩
    | cons name others => exact ⟨name, others, rfl⟩
  have comma (rest : List Char) : EndsColumn (',' :: ' ' :: rest) := by rintro _ ⟨⟩; decide
  have reads (name : String) (_ : name ∈ chosen names) (rest : List Char) (ends : EndsColumn rest) :=
    readColumn_column name ends
  rw [list] at reads
  obtain ⟨left, head, tail⟩ := reads_joined comma reads ends stop
  rw [list, readColumns, head]
  simp only [Option.bind_some, tail, Option.map_some, List.map_id']

/-! ## Options -/

/-- Reads the options of a call that have these keys. -/
def readOptions : List String → Decoder (List Literal)
  | [], rest => some ([], rest)
  | key :: keys, cs =>
    (cs.dropPrefix? (", " ++ key ++ "=").toList).bind fun rest =>
      (readLiteral rest.length rest).bind fun (first, rest) =>
        (readOptions keys rest).map fun (others, rest) => (first :: others, rest)

/-- The text of an option. -/
def option (entry : String × Json) : String :=
  entry.1 ++ "=" ++ literal entry.2

theorem readOptions_more (options : Fields) {rest : List Char} (ends : Ends rest) :
    readOptions options.names (more rest (options.map option)) =
      some (options.map fun entry => .ofJson entry.2, rest) := by
  induction options with
  | nil => rfl
  | cons entry options ih =>
    have follows : Ends (more rest (options.map option)) := by
      cases options with
      | nil => exact ends
      | cons _ _ => exact ends_cons rfl _
    have shape : more rest ((entry :: options).map option) = (", " ++ entry.1 ++ "=").toList ++
        ((literal entry.2).toList ++ more rest (options.map option)) := by
      simp [more, option]
    have enough : (literal entry.2).toList.length ≤
        ((literal entry.2).toList ++ more rest (options.map option)).length := by
      simp
    rw [shape, Table.names, List.map_cons, readOptions, List.dropPrefix?_append_of_beq _ (by simp),
      Option.bind_some, readLiteral_literal entry.2 enough follows]
    rw [Table.names] at ih
    simp only [Option.bind_some, ih, Option.map_some, List.map_cons]

/-! ## Statements as a whole -/

/-- What a statement says, apart from its table and its format and the keys of its options. -/
structure Contents where
  columns : List String
  file : String
  values : List Literal

/-- Reads a statement that fills a table. -/
def readStatement (kind : FileFormat) (table : String) (keys : List String) (text : String) :
    Option Contents := do
  let opening := "CREATE TEMP TABLE IF NOT EXISTS " ++ table ++ " AS SELECT "
  let cs ← text.toList.dropPrefix? opening.toList
  let (columns, cs) ← readColumns cs
  let cs ← cs.dropPrefix? (" FROM " ++ kind.function ++ "('").toList
  let (file, cs) ← readMarked '\'' cs
  let (values, cs) ← readOptions keys cs
  if cs = [')'] then some ⟨columns, String.ofList file, values⟩ else none

theorem selectFrom_eq (names : List String) (source : String) : selectFrom names source =
    "SELECT " ++ ", ".intercalate ((chosen names).map column) ++ " FROM " ++ source := by
  cases names <;> rfl

theorem toList_statement (kind : FileFormat) (table file : String) (names : List String)
    (options : Fields) : (kind.statement table file names options).toList =
      ("CREATE TEMP TABLE IF NOT EXISTS " ++ table ++ " AS SELECT ").toList ++
        ((", ".intercalate ((chosen names).map column)).toList ++
          ((" FROM " ++ kind.function ++ "('").toList ++
            (doubled '\'' file.toList ++ '\'' :: more [')'] (options.map option)))) := by
  have rendered : tableCall kind.function file (Table.mapValues literal options) =
      call kind.function (textLiteral file :: options.map option) := by
    rw [tableCall, Table.mapValues, List.map_map]
    rfl
  have arguments : (", ".intercalate (textLiteral file :: options.map option)).toList ++ [')'] =
      '\'' :: (doubled '\'' file.toList ++ '\'' :: more [')'] (options.map option)) := by
    rw [toList_joined, textLiteral, toList_enclosed]
  unfold FileFormat.statement createTable
  rw [selectFrom_eq, rendered, call]
  have closing : (")" : String).toList = [')'] := rfl
  simp only [String.toList_append, List.append_assoc]
  rw [closing, arguments]
  rfl

/-- A statement is read back, whatever its columns, its file and its options contain. -/
theorem readStatement_statement (kind : FileFormat) (table file : String) (names : List String)
    (options : Fields) :
    readStatement kind table options.names (kind.statement table file names options) =
      some ⟨chosen names, file, options.map fun entry => .ofJson entry.2⟩ := by
  have mark : ∀ c ∈ (more [')'] (options.map option)).head?, c ≠ '\'' := by
    cases options with
    | nil => rintro _ ⟨⟩; decide
    | cons _ _ => rintro _ ⟨⟩; decide
  have from_blank (rest : List Char) :
      ∃ cs, (" FROM " ++ kind.function ++ "('").toList ++ rest = ' ' :: cs := by
    rw [String.toList_append, String.toList_append]
    exact ⟨_, rfl⟩
  obtain ⟨cs, blank⟩ :=
    from_blank (doubled '\'' file.toList ++ '\'' :: more [')'] (options.map option))
  have columns : readColumns ((", ".intercalate ((chosen names).map column)).toList ++ ' ' :: cs) =
      some (chosen names, ' ' :: cs) :=
    readColumns_chosen names (by rintro _ ⟨⟩; decide) (by rintro _ ⟨⟩; decide)
  have values := readOptions_more options (ends_cons (c := ')') rfl [])
  unfold readStatement
  rw [toList_statement]
  dsimp only
  rw [List.dropPrefix?_append_of_beq _ (by simp)]
  simp only [Option.bind_eq_bind, Option.bind_some]
  rw [blank, columns]
  simp only [Option.bind_some]
  rw [← blank, List.dropPrefix?_append_of_beq _ (by simp)]
  simp only [Option.bind_some]
  rw [readMarked_doubled mark]
  simp only [Option.bind_some, values, if_true, String.ofList_toList]

/-- Printed options are made from their keys and what their values say. -/
theorem mapValues_literal (options : Fields) : Table.mapValues literal options =
    List.zipWith (fun key value => (key, Literal.print value)) options.names
      (options.map fun entry => .ofJson entry.2) := by
  induction options with
  | nil => rfl
  | cons entry options ih =>
    have first := print_ofJson entry.2
    simp only [Table.mapValues, Table.names, List.map_cons, List.zipWith_cons_cons, first] at ih ⊢
    rw [ih]

/-- Statements of one table and one format whose options have the same keys are the same if and only
if they name the same file, choose the same columns and have options that say the same. All of that
is read back from a statement, whatever the names and values contain. -/
theorem materialization_eq_iff (kind : FileFormat) (table : String) {source source' : Fields}
    {given given' : Option String} (accepted : kind.format table source = .ok given)
    (accepted' : kind.format table source' = .ok given') :
    ((FileFormat.options source).names = (FileFormat.options source').names →
      (kind.emitted source).names = (kind.emitted source').names) ∧
    ((kind.emitted source).names = (kind.emitted source').names →
      (given = given' ↔ source.string? "file" = source'.string? "file" ∧
        selection (source.valueAt "select") = selection (source'.valueAt "select") ∧
        kind.values source = kind.values source')) ∧
    ∃ text contents, given = some text ∧
      readStatement kind table (kind.emitted source).names text = some contents ∧
      source.string? "file" = some contents.file ∧
      selection (source.valueAt "select") = contents.columns.map .string ∧
      kind.values source = contents.values := by
  obtain ⟨file, names, named, sound, rfl⟩ := FileFormat.format_eq_ok accepted
  obtain ⟨file', names', named', sound', rfl⟩ := FileFormat.format_eq_ok accepted'
  have columns := selection_of_columns sound
  have columns' := selection_of_columns sound'
  have back := readStatement_statement kind table file names (kind.emitted source)
  have back' := readStatement_statement kind table file' names' (kind.emitted source')
  refine ⟨fun keys => FileFormat.names_emitted keys kind, fun keys => ⟨fun same => ?_, ?_⟩,
    _, _, rfl, back, named, columns, rfl⟩
  · -- both are read back, and reading is a function
    rw [Option.some.inj same, keys, back', Option.some_inj, Contents.mk.injEq] at back
    obtain ⟨same_columns, same_file, same_values⟩ := back
    refine ⟨?_, ?_, same_values.symm⟩
    · rw [named, named', same_file]
    · rw [columns, columns', same_columns]
  · rintro ⟨same_file, same_columns, same_values⟩
    rw [named, named', Option.some_inj] at same_file
    rw [columns, columns'] at same_columns
    have names_eq : chosen names = chosen names' :=
      List.map_injective_iff.2 (fun _ _ => Json.string.inj) same_columns
    unfold FileFormat.values at same_values
    unfold FileFormat.statement
    rw [selectFrom_eq, selectFrom_eq, mapValues_literal, mapValues_literal, names_eq, same_file,
      keys, same_values]

/-- A column whose name looks like two columns is not taken for two. -/
theorem materialization_eq_iff_of_quotes :
    let options : Fields := [("file", .string "it's.csv"), ("delim", .string "', HEADER=TRUE")]
    let two : Fields := ("select", .array [.string "a", .string "b"]) :: options
    let one : Fields := ("select", .string "a\", \"b") :: options
    ∃ given given', FileFormat.csv.format "t" two = .ok given ∧
      FileFormat.csv.format "t" one = .ok given' ∧ given ≠ given' := by
  intro options two one
  have accepted : ∃ given, FileFormat.csv.format "t" two = .ok given := ⟨_, rfl⟩
  have accepted' : ∃ given, FileFormat.csv.format "t" one = .ok given := ⟨_, rfl⟩
  obtain ⟨given, accepted⟩ := accepted
  obtain ⟨given', accepted'⟩ := accepted'
  obtain ⟨keys, same, -⟩ := materialization_eq_iff .csv "t" accepted accepted'
  refine ⟨given, given', accepted, accepted', fun confused => ?_⟩
  obtain ⟨-, columns, -⟩ := (same (keys rfl)).1 confused
  have two_columns : selection (Fields.valueAt two "select") = [.string "a", .string "b"] := rfl
  have one_column : selection (Fields.valueAt one "select") = [.string "a\", \"b"] := rfl
  rw [two_columns, one_column] at columns
  simp at columns

end Source
end Dashboard
