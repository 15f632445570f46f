import Dashboard.Proofs.Materializing
import Dashboard.Proofs.Shuffling
/-!
# The options of a call

The keys of a source become the options of the call that reads its file, in upper case. For `csv`
they are written into a table one after another, so of two spellings of a key the first decides the
place and the last decides the value. For `json` they are passed as they stand, and two spellings
give the same key twice.
-/
namespace Dashboard

/-! ## Tables written entry by entry -/

namespace Table
variable {α : Type}

/-- New names come behind the old ones, each of them where it comes first. -/
theorem foldl_addName (names more : List String) :
    more.foldl addName names = names ++ (more.filter (· ∉ names)).eraseDups := by
  induction more generalizing names with
  | nil => simp
  | cons name more ih =>
    rw [List.foldl_cons, ih, addName]
    by_cases old : name ∈ names
    · simp [old]
    · simp [old, List.eraseDups_cons, List.filter_filter, Bool.and_comm]
      rfl

/-- What was written last under a name stands there, else what stood there before. -/
theorem lookup_putAll (t : Table α) (entries : List (String × α)) (key : String) :
    (t.putAll entries).lookup key = (entries.reverse.lookup key).or (t.lookup key) := by
  induction entries generalizing t with
  | nil => rfl
  | cons e entries ih =>
    have rest := ih (t.put e.1 e.2)
    rw [lookup_put] at rest
    refine rest.trans ?_
    rw [List.reverse_cons, List.lookup_append, lookup_cons, Option.or_assoc]
    by_cases here : key = e.1
    · simp [here]
    · simp [here]

theorem lookup_reverse_eq_some {entries : List (String × α)} {key : String} {value : α} :
    entries.reverse.lookup key = some value ↔
      ∃ before after, entries = before ++ (key, value) :: after ∧ key ∉ names after := by
  have absent {after : List (String × α)} :
      (∀ e ∈ after, (key != e.1) = true) ↔ key ∉ names after := by
    rw [names, List.mem_map]
    constructor
    · rintro others ⟨e, here, same⟩
      exact bne_iff_ne.1 (others e here) same.symm
    · exact fun others e here => bne_iff_ne.2 fun same => others ⟨e, here, same.symm⟩
  rw [List.lookup_eq_some_iff]
  constructor
  · rintro ⟨after, before, split, last⟩
    refine ⟨before.reverse, after.reverse, ?_, ?_⟩
    · rw [← entries.reverse_reverse, split]
      simp
    · exact absent.1 fun e here => last e (List.mem_reverse.1 here)
  · rintro ⟨before, after, rfl, last⟩
    refine ⟨after.reverse, before.reverse, by simp, fun e here => ?_⟩
    exact absent.2 last e (List.mem_reverse.1 here)

theorem put_of_new {t : Table α} {name : String} (new : name ∉ t.names) (value : α) :
    t.put name value = t ++ [(name, value)] := by
  induction t with
  | nil => rfl
  | cons e t ih =>
    rw [names, List.map_cons, List.mem_cons, not_or] at new
    rw [put, if_neg (Ne.symm new.1), ih new.2, List.cons_append]

theorem putAll_of_new {t : Table α} {entries : List (String × α)}
    (new : (t ++ entries : Table α).names.Nodup) : t.putAll entries = t ++ entries := by
  induction entries generalizing t with
  | nil => exact (List.append_nil t).symm
  | cons e entries ih =>
    have absent : e.1 ∉ t.names := by
      rw [names, List.map_append, List.map_cons, List.nodup_append] at new
      exact fun here => new.2.2 _ here _ List.mem_cons_self rfl
    rw [← List.singleton_append, ← List.append_assoc] at new ⊢
    refine Eq.trans ?_ (ih new)
    rw [← put_of_new absent]
    rfl

/-- Entries are merged only if two of them have the same name. -/
theorem ofList_eq_self_iff {entries : List (String × α)} :
    ofList entries = entries ↔ (names entries).Nodup := by
  constructor
  · intro same
    rw [← same]
    exact nodup_names_putAll (t := []) List.nodup_nil entries
  · intro new
    exact putAll_of_new new

/-- Entries of other names leave the first entry alone. -/
theorem putAll_cons {e : String × α} {entries : List (String × α)} (others : e.1 ∉ names entries)
    (t : Table α) : putAll (e :: t) entries = e :: t.putAll entries := by
  induction entries generalizing t with
  | nil => rfl
  | cons first entries ih =>
    rw [names, List.map_cons, List.mem_cons, not_or] at others
    have rest := ih others.2 (t.put first.1 first.2)
    refine Eq.trans (congrArg (putAll · entries) ?_) rest
    exact if_neg others.1

end Table

namespace Source
open Query

/-! ## Keys and values -/

/-- The keys of the options as a call has them, in the order of the source. -/
def optionKeys (source : Fields) : List String :=
  (FileFormat.options source).names.map Text.upper

/-- The last entry whose key is `key` in upper case has this value. -/
def LastSays (entries : Fields) (key value : String) : Prop :=
  ∃ before entry after, entries = before ++ entry :: after ∧
    Text.upper entry.1 = key ∧ literal entry.2 = value ∧
    ∀ later ∈ after, Text.upper later.1 ≠ key

theorem names_readerOptions (source : Fields) :
    Table.names (readerOptions source) = optionKeys source := by
  simp [readerOptions, Table.names, optionKeys, FileFormat.options]

/-- An option as a call has it. -/
def passed (entry : String × Json) : String × String :=
  (Text.upper entry.1, literal entry.2)

theorem readerOptions_eq (source : Fields) :
    readerOptions source = (FileFormat.options source).map passed := rfl

theorem lastSays_iff {entries : Fields} {key value : String} :
    LastSays entries key value ↔ (entries.map passed).reverse.lookup key = some value := by
  rw [Table.lookup_reverse_eq_some]
  constructor
  · rintro ⟨before, entry, after, rfl, rfl, rfl, last⟩
    refine ⟨before.map passed, after.map passed, by rw [List.map_append, List.map_cons, passed], ?_⟩
    intro again
    obtain ⟨option, inside, same⟩ := List.mem_map.1 again
    obtain ⟨later, here, rfl⟩ := List.mem_map.1 inside
    exact last later here same
  · rintro ⟨before, after, split, last⟩
    obtain ⟨before, rest, rfl, rfl, tail⟩ := List.map_eq_append_iff.1 split
    obtain ⟨entry, after, rfl, same, rfl⟩ := List.map_eq_cons_iff.1 tail
    obtain ⟨rfl, rfl⟩ := Prod.mk.inj same
    refine ⟨before, entry, after, rfl, rfl, rfl, fun later here same => last ?_⟩
    exact List.mem_map.2 ⟨passed later, List.mem_map_of_mem here, same⟩

theorem fromFile_eq {source : Fields} {file : String} (named : source.string? "file" = some file)
    (function : String) (options : Fields → List (String × String)) (table : String) :
    fromFile function options table source = (columns source).map fun names =>
      some (createTable table (selectFrom names (tableCall function file (options source)))) := by
  unfold fromFile Source.file
  rw [named]
  cases columns source with
  | error e => rfl
  | ok names => rfl

/-! ## The options of `csv` -/

theorem nodup_csvOptions (source : Fields) : (csvOptions source).names.Nodup :=
  Table.nodup_names_putAll (t := [("SAMPLE_SIZE", "-1")]) (by simp [Table.names]) _

theorem names_csvOptions (source : Fields) : (csvOptions source).names =
    "SAMPLE_SIZE" :: ((optionKeys source).filter (· ≠ "SAMPLE_SIZE")).eraseDups := by
  have keys : (readerOptions source).map (·.1) = optionKeys source := names_readerOptions source
  rw [csvOptions, Table.names_putAll, keys, Table.foldl_addName]
  simp [Table.names]

/-- The value of an option is what the source says last, or else what is there from the start. -/
theorem mem_csvOptions {source : Fields} {key value : String}
    (inside : (key, value) ∈ csvOptions source) :
    LastSays (FileFormat.options source) key value ∨
      key = "SAMPLE_SIZE" ∧ value = "-1" ∧ "SAMPLE_SIZE" ∉ optionKeys source := by
  have found := (Table.lookup_eq_some_iff_mem (nodup_csvOptions source)).2 inside
  rw [csvOptions, Table.lookup_putAll, readerOptions_eq] at found
  cases written : ((FileFormat.options source).map passed).reverse.lookup key with
  | some last =>
    rw [written, Option.some_or] at found
    cases found
    exact .inl (lastSays_iff.2 written)
  | none =>
    rw [written, Option.none_or, Table.lookup_cons] at found
    obtain ⟨rfl, rfl⟩ : key = "SAMPLE_SIZE" ∧ value = "-1" := by
      split at found
      · next start => exact ⟨start, (Option.some.inj found).symm⟩
      · cases found
    refine .inr ⟨rfl, rfl, fun again => ?_⟩
    rw [← names_readerOptions, readerOptions_eq, Table.names, ← List.mem_reverse,
      ← List.map_reverse] at again
    have known := Table.mem_names.1 again
    rw [written] at known
    cases known

/-- The options of `csv` in closed form: the sample size and then the keys of the source in upper
case, each once and where it comes first. What the source says last of a key is its value; the
sample size is -1 if the source does not say anything about it. -/
theorem csv_options_closed_form {source : Fields} {file : String}
    (named : source.string? "file" = some file) :
    (∀ table, csv table source = (columns source).map fun names =>
      some (createTable table
        (selectFrom names (tableCall "read_csv_auto" file (csvOptions source))))) ∧
    (csvOptions source).names.Nodup ∧
    (csvOptions source).names =
      "SAMPLE_SIZE" :: ((optionKeys source).filter (· ≠ "SAMPLE_SIZE")).eraseDups ∧
    ∀ key value, (key, value) ∈ csvOptions source →
      LastSays (FileFormat.options source) key value ∨
        key = "SAMPLE_SIZE" ∧ value = "-1" ∧ "SAMPLE_SIZE" ∉ optionKeys source :=
  ⟨fromFile_eq named _ _, nodup_csvOptions source, names_csvOptions source,
    fun _ _ => mem_csvOptions⟩

/-- The key with a long s is a spelling of the sample size. -/
theorem csv_options_closed_form_of_spellings :
    let source : Fields := [("delim", .string ","), ("header", .bool true),
      ("file", .string "f.csv"), ("Delim", .string ";"), ("ſample_size", .number (.integer 100))]
    source.string? "file" = some "f.csv" ∧
      (csvOptions source).names = ["SAMPLE_SIZE", "DELIM", "HEADER"] ∧
      LastSays (FileFormat.options source) "DELIM" "';'" ∧
      LastSays (FileFormat.options source) "SAMPLE_SIZE" "100" := by
  intro source
  have named : source.string? "file" = some "f.csv" := rfl
  obtain ⟨-, -, names, values⟩ := csv_options_closed_form named
  refine ⟨named, names.trans rfl, ?_, ?_⟩
  · exact (values "DELIM" "';'" (by decide)).resolve_right fun other => absurd other.1 (by decide)
  · exact (values "SAMPLE_SIZE" "100" (by decide)).resolve_right fun other =>
      absurd other.2.1 (by decide)

theorem LastSays.unique {entries : Fields} {key value value' : String}
    (h : LastSays entries key value) (k : LastSays entries key value') : value = value' :=
  Option.some.inj ((lastSays_iff.1 h).symm.trans (lastSays_iff.1 k))

/-- A reserved key that comes last is no option, whatever other keys there are. -/
theorem reserved_spelling_skipped :
    let source : Fields := [("File", .number (.integer 1)), ("file", .string "f.csv")]
    source.string? "file" = some "f.csv" ∧ ("FILE", "1") ∈ csvOptions source ∧
      LastSays source "FILE" "'f.csv'" ∧ ¬ LastSays source "FILE" "1" := by
  intro source
  have last : LastSays source "FILE" "'f.csv'" :=
    ⟨[("File", .number (.integer 1))], ("file", .string "f.csv"), [], rfl, rfl, rfl, nofun⟩
  exact ⟨rfl, by decide, last, fun other => absurd (last.unique other) (by decide)⟩

/-! ## The options of `json` -/

theorem csvOptions_of_unsized {source : Fields} (unsized : "SAMPLE_SIZE" ∉ optionKeys source) :
    csvOptions source = ("SAMPLE_SIZE", "-1") :: Table.ofList (readerOptions source) := by
  rw [← names_readerOptions] at unsized
  exact Table.putAll_cons (e := ("SAMPLE_SIZE", "-1")) unsized []

/-- The options of `csv` behind the implicit sample size are those of `json` with the spellings of a
key merged. So they are the same exactly if no two keys of the source have one upper-case form. -/
theorem json_options_eq_csv_options_iff {source : Fields} {file : String}
    (named : source.string? "file" = some file) (unsized : "SAMPLE_SIZE" ∉ optionKeys source) :
    (∀ table, csv table source = (columns source).map fun names =>
      some (createTable table
        (selectFrom names (tableCall "read_csv_auto" file (csvOptions source))))) ∧
    (∀ table, json table source = (columns source).map fun names =>
      some (createTable table
        (selectFrom names (tableCall "read_json_auto" file (readerOptions source))))) ∧
    (readerOptions source).map (·.1) = optionKeys source ∧
    csvOptions source = ("SAMPLE_SIZE", "-1") :: Table.ofList (readerOptions source) ∧
    (readerOptions source = (csvOptions source).tail ↔ (optionKeys source).Nodup) := by
  have merged := csvOptions_of_unsized unsized
  refine ⟨fromFile_eq named _ _, fromFile_eq named _ _, names_readerOptions source, merged, ?_⟩
  rw [merged, List.tail_cons, eq_comm, Table.ofList_eq_self_iff, names_readerOptions]

theorem json_options_eq_csv_options_iff_of_sharp_s :
    let source : Fields := [("file", .string "a.json"), ("straße", .number (.integer 1)),
      ("strasse", .number (.integer 2))]
    source.string? "file" = some "a.json" ∧ "SAMPLE_SIZE" ∉ optionKeys source ∧
      readerOptions source ≠ (csvOptions source).tail := by
  intro source
  have named : source.string? "file" = some "a.json" := rfl
  have unsized : "SAMPLE_SIZE" ∉ optionKeys source := by decide
  obtain ⟨-, -, -, -, same⟩ := json_options_eq_csv_options_iff named unsized
  exact ⟨named, unsized, fun equal => absurd (same.1 equal) (by decide)⟩

/-- Two spellings of a key are two options of `json` and one of `csv`. -/
theorem json_repeats_option :
    let source : Fields := [("file", .string "a.json"), ("a", .number (.integer 1)),
      ("A", .number (.integer 2))]
    source.string? "file" = some "a.json" ∧
      (∀ key ∈ source.names, Text.upper key ≠ "SAMPLE_SIZE") ∧
      readerOptions source = [("A", "1"), ("A", "2")] ∧
      csvOptions source = [("SAMPLE_SIZE", "-1"), ("A", "2")] ∧
      readerOptions source ≠ (csvOptions source).tail := by
  intro source
  have unsized : ∀ key ∈ source.names, Text.upper key ≠ "SAMPLE_SIZE" := by
    simp only [source, Table.names, List.map_cons, List.map_nil, List.forall_mem_cons]
    exact ⟨by decide, by decide, by decide, fun _ inside => absurd inside List.not_mem_nil⟩
  exact ⟨rfl, unsized, rfl, rfl, by decide⟩

end Source
end Dashboard
