import Dashboard.Proofs.Numerals
/-!
# Printed text is read back

A printed value is read back as itself, but for its numbers: each is what its text is read as.
Since nothing here depends on the style, the compact and the pretty text of a value are read as the
same value.
-/
namespace Dashboard.Json
variable {α β : Type}

theorem Yields.bind {found : Option α} {rest left : List Char} {reads : Reads α}
    {next : α × List Char → Reads β} {goOn : α → Option β} (h : Yields found rest reads)
    (run : ∀ a, Yields (goOn a) left (next (a, rest))) :
    Yields (found.bind goOn) left (reads.bind next) := by
  cases found with
  | some a =>
    obtain rfl : reads = .ok (a, rest) := h
    exact run a
  | none =>
    obtain ⟨e, rfl⟩ := h
    exact yields_error e left

theorem Yields.toOption_map {found : Option α} {rest : List Char} {reads : Reads α}
    (h : Yields found rest reads) : reads.toOption.map Prod.fst = found := by
  cases found with
  | some a =>
    obtain rfl : reads = .ok (a, rest) := h
    rfl
  | none =>
    obtain ⟨e, rfl⟩ := h
    rfl

/-! ## Strings -/

theorem hexValue?_hexDigit : ∀ n < 16, hexValue? (hexDigit n) = some n := by
  decide

theorem readHex_low {n : Nat} (low : n < 256) (rest : List Char) :
    readHex ('0' :: '0' :: hexDigit (n / 16) :: hexDigit (n % 16) :: rest) = .ok (n, rest) := by
  have first := hexValue?_hexDigit (n / 16) (by omega)
  have second := hexValue?_hexDigit (n % 16) (by omega)
  have zero : hexValue? '0' = some 0 := rfl
  have value : n / 16 * 16 + n % 16 = n := by omega
  simp [readHex, first, second, zero, value]

theorem readUnicode_low {n : Nat} (low : n < 256) (rest : List Char) :
    readUnicode ('0' :: '0' :: hexDigit (n / 16) :: hexDigit (n % 16) :: rest) =
      .ok (Char.ofNat n, rest) := by
  have notLow : ¬(0xDC00 ≤ n ∧ n ≤ 0xDFFF) := by omega
  have notHigh : n < 0xD800 ∨ 0xDBFF < n := by omega
  rw [readUnicode, readHex_low low]
  simp only [notLow, notHigh, if_true, if_false]

theorem readChars_backslash {c : Char} {cs rest : List Char}
    (escaped : readEscape cs = .ok (c, rest)) :
    readChars ('\\' :: cs) = (readChars rest).map fun (s, rest) => (c :: s, rest) := by
  rw [readChars]
  split
  · next e failed => cases escaped.symm.trans failed
  · next d left read =>
    obtain ⟨rfl, rfl⟩ := Prod.mk.inj (Except.ok.inj (escaped.symm.trans read))
    rfl

theorem readChars_plain {c : Char} (cs : List Char) (notQuote : c ≠ '"')
    (notBackslash : c ≠ '\\') (printable : ¬ c.toNat < 32) :
    readChars (c :: cs) = (readChars cs).map fun (s, rest) => (c :: s, rest) := by
  rw [readChars, if_neg printable]
  · exact notQuote
  · exact notBackslash

theorem readChars_escape (c : Char) (cs : List Char) :
    readChars (escape c ++ cs) = (readChars cs).map fun (s, rest) => (c :: s, rest) := by
  unfold escape
  split
  case h_8 notQuote notBackslash _ _ _ _ _ =>
    split
    · next control =>
      have read := readUnicode_low (n := c.toNat) (by omega) cs
      rw [Char.ofNat_toNat] at read
      exact readChars_backslash read
    · next printable => exact readChars_plain cs notQuote notBackslash printable
  all_goals exact readChars_backslash rfl

theorem toList_quoted (s : String) :
    (quoted s).toList = '"' :: (s.toList.flatMap escape ++ ['"']) := by
  simp [quoted]

/-- A quoted text is read back. -/
theorem yields_string (s : String) (rest : List Char) :
    Yields (some s) rest (readString (s.toList.flatMap escape ++ '"' :: rest)) := by
  have chars (cs : List Char) :
      readChars (cs.flatMap escape ++ '"' :: rest) = .ok (cs, rest) := by
    induction cs with
    | nil => rw [List.flatMap_nil, List.nil_append, readChars]
    | cons c cs ih =>
      rw [List.flatMap_cons, List.append_assoc, readChars_escape, ih]
      rfl
  rw [readString, chars]
  exact congrArg (fun s => Except.ok (s, rest)) s.ofList_toList

/-! ## Blanks -/

/-- A text of blanks. -/
def Blank (cs : List Char) : Prop :=
  ∀ c ∈ cs, isBlank c = true

/-- A style that puts only blanks into a text. -/
structure Style.Airy (style : Style) : Prop where
  lineBreak (depth : Nat) : Blank (style.lineBreak depth).toList
  afterColon : Blank style.afterColon.toList

theorem Style.airy_compact : Style.compact.Airy :=
  ⟨fun _ => nofun, nofun⟩

theorem Style.airy_pretty : Style.pretty.Airy := by
  refine ⟨fun depth c inside => ?_, fun c inside => ?_⟩
  · simp only [pretty, String.toList_append, String.toList_ofList, List.mem_append] at inside
    obtain inside | inside := inside
    · obtain rfl := List.mem_singleton.mp inside
      rfl
    · obtain rfl := List.eq_of_mem_replicate inside
      rfl
  · obtain rfl := List.mem_singleton.mp inside
    rfl

theorem skipBlanks_append {blanks : List Char} (blank : Blank blanks) (cs : List Char) :
    skipBlanks (blanks ++ cs) = skipBlanks cs :=
  List.dropWhile_append_of_pos blank

theorem skipBlanks_cons {c : Char} (visible : isBlank c = false) (cs : List Char) :
    skipBlanks (c :: cs) = c :: cs := by
  rw [skipBlanks, List.dropWhile_cons, visible]
  rfl

theorem readValue_blanks (depth : Nat) {blanks : List Char} (blank : Blank blanks)
    (cs : List Char) : readValue depth (blanks ++ cs) = readValue depth cs := by
  rw [readValue.eq_def, readValue.eq_def depth cs, skipBlanks_append blank]

theorem not_continuesNumeral_of_isBlank {c : Char} (blank : isBlank c = true) :
    continuesNumeral c = false := by
  simp only [isBlank, Bool.or_eq_true, decide_eq_true_eq] at blank
  obtain ((rfl | rfl) | rfl) | rfl := blank <;> rfl

theorem delimited_blanks {blanks rest : List Char} (blank : Blank blanks) (ends : Delimited rest) :
    Delimited (blanks ++ rest) := by
  cases blanks with
  | nil => exact ends
  | cons c cs => exact delimited_cons (not_continuesNumeral_of_isBlank (blank c (.head cs))) _

/-! ## Numbers -/

/-- What the text of a number is read as. -/
def rereadNumber? (n : Number) : Option Json :=
  (readValue 0 n.text.toList).toOption.map Prod.fst

theorem readValue_negative (depth : Nat) (cs : List Char) :
    readValue depth ('-' :: cs) =
      (readNumber true cs).map fun (n, rest) => (number n, rest) := by
  rw [readValue.eq_def]
  rfl

theorem not_isBlank_of_isDigit {c : Char} (digit : c.isDigit = true) : isBlank c = false := by
  cases blank : isBlank c with
  | false => rfl
  | true =>
    have other := not_continuesNumeral_of_isBlank blank
    rw [continuesNumeral, digit] at other
    exact absurd other (by simp)

theorem readValue_digit (depth : Nat) {c : Char} (digit : c.isDigit = true) (cs : List Char) :
    readValue depth (c :: cs) =
      (readNumber false (c :: cs)).map fun (n, rest) => (number n, rest) := by
  rw [readValue.eq_def, skipBlanks_cons (not_isBlank_of_isDigit digit)]
  split
  case h_9 same =>
    obtain ⟨rfl, rfl⟩ := List.cons.inj same
    rw [if_pos digit]
  case h_1 same => exact absurd same (List.cons_ne_nil _ _)
  -- the other cases begin with a character that is no digit
  all_goals
    next same =>
    rw [(List.cons.inj same).1] at digit
    exact absurd digit (by decide)

theorem readValue_number (depth : Nat) (n : Number) :
    Finds (readValue depth) n.text.toList (rereadNumber? n) := by
  obtain ⟨negative, numeral, shape, written⟩ := n.exists_numeral_text
  obtain ⟨found, finds⟩ := readNumber_finds negative shape
  have all (depth : Nat) : Finds (readValue depth) n.text.toList (found.map number) := by
    intro rest ends
    have run : readValue depth (n.text.toList ++ rest) =
        (readNumber negative (numeral ++ rest)).map fun (n, rest) => (number n, rest) := by
      rw [written]
      cases negative with
      | true => exact readValue_negative depth (numeral ++ rest)
      | false =>
        obtain ⟨c, cs, rfl, digit⟩ := shape.exists_digit
        exact readValue_digit depth digit (cs ++ rest)
    rw [run]
    exact (finds rest ends).map number
  have same := (all 0 [] delimited_nil).toOption_map
  rw [List.append_nil] at same
  rw [rereadNumber?, same]
  exact all depth

/-! ## Values -/

mutual

/-- What the text of a value is read as where `depth` containers may still be opened. -/
def reread? (depth : Nat) : Json → Option Json
  | null => some null
  | bool b => some (bool b)
  | number n => rereadNumber? n
  | string s => some (string s)
  | array items =>
    match depth with
    | 0 => none
    | depth + 1 => (rereadItems? depth items).map array
  | object fields =>
    match depth with
    | 0 => none
    | depth + 1 => (rereadFields? depth fields).map fun fs => object (Table.ofList fs)

def rereadItems? (depth : Nat) : List Json → Option (List Json)
  | [] => some []
  | item :: items =>
    (item.reread? depth).bind fun v => (rereadItems? depth items).map (v :: ·)

def rereadFields? (depth : Nat) : List (String × Json) → Option (List (String × Json))
  | [] => some []
  | (key, value) :: fields =>
    ((value.reread? depth).map (key, ·)).bind fun f =>
      (rereadFields? depth fields).map (f :: ·)

end

/-- A text that begins with neither a blank nor the end of a list. -/
def Opens (text : List Char) : Prop :=
  ∃ c cs, text = c :: cs ∧ isBlank c = false ∧ c ≠ ']'

/-- The text of a container behind one of its items, and what follows it: the further items, each
behind a comma, and the closing bracket. -/
def Style.more (style : Style) (closing : Char) (level : Nat) (rest : List Char) :
    List String → List Char
  | [] => (style.lineBreak level).toList ++ closing :: rest
  | text :: texts =>
    ',' :: (style.lineBreak (level + 1)).toList ++
      (text.toList ++ style.more closing level rest texts)

/-- The text of a container behind its opening bracket, and what follows it. -/
def Style.inside (style : Style) (closing : Char) (level : Nat) (rest : List Char) :
    List String → List Char
  | [] => closing :: rest
  | text :: texts =>
    (style.lineBreak (level + 1)).toList ++ (text.toList ++ style.more closing level rest texts)

theorem toList_intercalate_cons (style : Style) (closing : Char) (level : Nat) (rest : List Char)
    (text : String) (texts : List String) :
    (("," ++ style.lineBreak (level + 1)).intercalate (text :: texts)).toList ++
        ((style.lineBreak level).toList ++ closing :: rest) =
      text.toList ++ style.more closing level rest texts := by
  induction texts generalizing text with
  | nil => rw [String.intercalate_singleton, Style.more]
  | cons next texts ih =>
    have comma : ("," ++ style.lineBreak (level + 1)).toList =
        ',' :: (style.lineBreak (level + 1)).toList := String.toList_append
    rw [String.intercalate_cons_cons, String.toList_append, String.toList_append,
      List.append_assoc, List.append_assoc, ih, Style.more, comma]

theorem toList_enclose (style : Style) {opening closing : String} (first last : Char)
    (opens : opening.toList = [first]) (closes : closing.toList = [last]) (level : Nat)
    (texts : List String) (rest : List Char) :
    (style.enclose opening closing level texts).toList ++ rest =
      first :: style.inside last level rest texts := by
  cases texts with
  | nil => rw [Style.enclose, String.toList_append, opens, closes, Style.inside]; rfl
  | cons text texts =>
    rw [Style.enclose, Style.inside, ← toList_intercalate_cons]
    · simp [opens, closes]
    · exact List.cons_ne_nil _ _

theorem IsNumeral.opens {text : List Char} (shape : IsNumeral text) : Opens text := by
  obtain ⟨c, cs, rfl, digit⟩ := shape.exists_digit
  refine ⟨c, cs, rfl, not_isBlank_of_isDigit digit, ?_⟩
  rintro rfl
  exact absurd digit (by decide)

/-- A printed value begins with neither a blank nor the end of a list. -/
theorem opens_render (style : Style) (level : Nat) (v : Json) :
    Opens (v.render style level).toList := by
  cases v with rw [render]
  | null => exact ⟨'n', ['u', 'l', 'l'], rfl, rfl, by decide⟩
  | bool b =>
    cases b with
    | true => exact ⟨'t', ['r', 'u', 'e'], rfl, rfl, by decide⟩
    | false => exact ⟨'f', ['a', 'l', 's', 'e'], rfl, rfl, by decide⟩
  | number n =>
    obtain ⟨negative, numeral, shape, written⟩ := n.exists_numeral_text
    rw [written]
    cases negative with
    | true => exact ⟨'-', numeral, rfl, rfl, by decide⟩
    | false => exact shape.opens
  | string s => exact ⟨'"', _, toList_quoted s, rfl, by decide⟩
  | array items =>
    rw [← List.append_nil (String.toList _), toList_enclose style '[' ']' rfl rfl]
    exact ⟨'[', _, rfl, rfl, by decide⟩
  | object fields =>
    rw [← List.append_nil (String.toList _), toList_enclose style '\x7b' '\x7d' rfl rfl]
    exact ⟨'\x7b', _, rfl, rfl, by decide⟩

theorem Opens.skipBlanks {blanks text : List Char} (opens : Opens text) (blank : Blank blanks)
    (rest : List Char) : Json.skipBlanks (blanks ++ (text ++ rest)) = text ++ rest := by
  obtain ⟨c, cs, rfl, visible, -⟩ := opens
  rw [skipBlanks_append blank, List.cons_append, skipBlanks_cons visible]

section Readers
variable (item : List Char → Reads Json) (bound : Nat) {blanks text : List Char}

theorem readMoreItems_close (blank : Blank blanks) (rest : List Char) :
    readMoreItems item (bound + 1) (blanks ++ ']' :: rest) = .ok ([], rest) := by
  rw [readMoreItems, skipBlanks_append blank]
  rfl

theorem readMoreItems_comma (blank : Blank blanks) (opens : Opens text) (rest : List Char) :
    readMoreItems item (bound + 1) (',' :: blanks ++ (text ++ rest)) =
      (item (text ++ rest)).bind fun (v, rest) =>
        (readMoreItems item bound rest).map fun (vs, rest) => (v :: vs, rest) := by
  have skipped := opens.skipBlanks blank rest
  obtain ⟨c, cs, rfl, -, other⟩ := opens
  rw [readMoreItems, List.cons_append, skipBlanks_cons rfl]
  simp only [skipped]
  split
  · next same => exact absurd same (List.cons_ne_nil _ _)
  · next same => exact absurd (List.cons.inj same).1 other
  · rfl

theorem readItems_opens (blank : Blank blanks) (opens : Opens text) (rest : List Char) :
    readItems item (blanks ++ (text ++ rest)) =
      (item (text ++ rest)).bind fun (v, next) =>
        (readMoreItems item (blanks ++ (text ++ rest)).length next).map
          fun (vs, rest) => (v :: vs, rest) := by
  have skipped := opens.skipBlanks blank rest
  obtain ⟨c, cs, rfl, -, other⟩ := opens
  rw [readItems, skipped]
  split
  · next same => exact absurd same (List.cons_ne_nil _ _)
  · next same => exact absurd (List.cons.inj same).1 other
  · rfl

theorem readMoreFields_close (blank : Blank blanks) (rest : List Char) :
    readMoreFields item (bound + 1) (blanks ++ '\x7d' :: rest) = .ok ([], rest) := by
  rw [readMoreFields, skipBlanks_append blank]
  rfl

theorem readMoreFields_comma (blank : Blank blanks) (rest : List Char) :
    readMoreFields item (bound + 1) (',' :: blanks ++ '"' :: rest) =
      (readField item rest).bind fun (f, rest) =>
        (readMoreFields item bound rest).map fun (fs, rest) => (f :: fs, rest) := by
  have skipped : skipBlanks (blanks ++ '"' :: rest) = '"' :: rest := skipBlanks_append blank _
  rw [readMoreFields, List.cons_append, skipBlanks_cons rfl]
  simp only [skipped]

theorem readFields_opens (blank : Blank blanks) (rest : List Char) :
    readFields item (blanks ++ '"' :: rest) =
      (readField item rest).bind fun (f, next) =>
        (readMoreFields item (blanks ++ '"' :: rest).length next).map
          fun (fs, rest) => (f :: fs, rest) := by
  rw [readFields, skipBlanks_append blank]
  rfl

end Readers

theorem readValue_list (depth : Nat) (cs : List Char) :
    readValue (depth + 1) ('[' :: cs) =
      (readItems (readValue depth) cs).map fun (vs, rest) => (array vs, rest) := by
  rw [readValue.eq_def]
  rfl

theorem readValue_object (depth : Nat) (cs : List Char) :
    readValue (depth + 1) ('\x7b' :: cs) =
      (readFields (readValue depth) cs).map fun (fs, rest) =>
        (object (Table.ofList fs), rest) := by
  rw [readValue.eq_def]
  rfl

theorem readValue_quote (depth : Nat) (cs : List Char) :
    readValue depth ('"' :: cs) = (readString cs).map fun (s, rest) => (string s, rest) := by
  rw [readValue.eq_def]
  rfl

theorem readColon_colon (cs : List Char) : readColon (':' :: cs) = .ok ((), cs) := by
  rw [readColon, skipBlanks_cons rfl]
  rfl

theorem toList_field (style : Style) (key text : String) (rest : List Char) :
    (quoted key ++ ":" ++ style.afterColon ++ text).toList ++ rest =
      '"' :: (key.toList.flatMap escape ++
        '"' :: ':' :: (style.afterColon.toList ++ (text.toList ++ rest))) := by
  simp [toList_quoted]

section Reading
variable {style : Style}

/-- A field is read back if its value is. -/
theorem readField_text (airy : style.Airy) (key : String) {depth : Nat} {text rest : List Char}
    {found : Option Json} (finds : Finds (readValue depth) text found) (ends : Delimited rest) :
    Yields (found.map (key, ·)) rest (readField (readValue depth) (key.toList.flatMap escape ++
      '"' :: ':' :: (style.afterColon.toList ++ (text ++ rest)))) := by
  have readKey : readString (key.toList.flatMap escape ++
      '"' :: ':' :: (style.afterColon.toList ++ (text ++ rest))) = .ok (key, _) :=
    yields_string key _
  rw [readField, readKey]
  dsimp only [Except.bind]
  rw [readColon_colon]
  dsimp only [Except.bind]
  rw [readValue_blanks depth airy.afterColon]
  exact (finds rest ends).map (key, ·)

theorem delimited_more (airy : style.Airy) {closing : Char}
    (other : continuesNumeral closing = false) (level : Nat) (rest : List Char)
    (texts : List String) : Delimited (style.more closing level rest texts) := by
  cases texts with
  | nil => exact delimited_blanks (airy.lineBreak level) (delimited_cons other rest)
  | cons text texts => exact delimited_cons rfl _

mutual

/-- The text of a value is read in full. -/
theorem readValue_render (airy : style.Airy) (depth level : Nat) :
    (v : Json) → Finds (readValue depth) (v.render style level).toList (v.reread? depth)
  | null => by
    intro rest _
    rw [render, reread?, readValue.eq_def]
    exact yields_ok null rest
  | bool b => by
    intro rest _
    rw [render, reread?, readValue.eq_def]
    cases b with
    | true => exact yields_ok (bool true) rest
    | false => exact yields_ok (bool false) rest
  | number n => by
    rw [render, reread?]
    exact readValue_number depth n
  | string s => by
    intro rest _
    rw [render, reread?, toList_quoted, List.cons_append, List.append_assoc, readValue_quote]
    exact (yields_string s rest).map string
  | array items => by
    intro rest _
    rw [render, toList_enclose style '[' ']' rfl rfl]
    cases depth with
    | zero => exact ⟨_, by rw [readValue.eq_def]; rfl⟩
    | succ depth =>
      rw [reread?, readValue_list]
      exact (readItems_render airy depth level rest items).map array
  | object fields => by
    intro rest _
    rw [render, toList_enclose style '\x7b' '\x7d' rfl rfl]
    cases depth with
    | zero => exact ⟨_, by rw [readValue.eq_def]; rfl⟩
    | succ depth =>
      rw [reread?, readValue_object]
      exact (readFields_render airy depth level rest fields).map fun fs => object (Table.ofList fs)

theorem readItems_render (airy : style.Airy) (depth level : Nat) (rest : List Char) :
    (items : List Json) →
    Yields (rereadItems? depth items) rest (readItems (readValue depth)
      (style.inside ']' level rest (renderItems style (level + 1) items)))
  | [] => yields_ok [] rest
  | item :: items => by
    rw [renderItems, Style.inside, rereadItems?,
      readItems_opens _ (airy.lineBreak (level + 1)) (opens_render style (level + 1) item)]
    have ends := delimited_more airy (rfl : continuesNumeral ']' = false) level rest
      (renderItems style (level + 1) items)
    refine (readValue_render airy depth (level + 1) item _ ends).bind fun v => ?_
    exact (readMoreItems_render airy depth level rest items _ (by simp; omega)).map (v :: ·)

theorem readMoreItems_render (airy : style.Airy) (depth level : Nat) (rest : List Char) :
    (items : List Json) → (bound : Nat) →
    (style.more ']' level rest (renderItems style (level + 1) items)).length ≤ bound →
    Yields (rereadItems? depth items) rest (readMoreItems (readValue depth) bound
      (style.more ']' level rest (renderItems style (level + 1) items)))
  | [], 0, enough => absurd enough (by simp [renderItems, Style.more])
  | [], bound + 1, _ => by
    rw [renderItems, Style.more, readMoreItems_close _ _ (airy.lineBreak level)]
    exact yields_ok [] rest
  | item :: items, 0, enough => absurd enough (by simp [renderItems, Style.more])
  | item :: items, bound + 1, enough => by
    have fewer : (style.more ']' level rest (renderItems style (level + 1) items)).length ≤
        bound := by
      simp only [renderItems, Style.more, List.length_append, List.length_cons] at enough
      omega
    rw [renderItems, Style.more, rereadItems?,
      readMoreItems_comma _ _ (airy.lineBreak (level + 1)) (opens_render style (level + 1) item)]
    have ends := delimited_more airy (rfl : continuesNumeral ']' = false) level rest
      (renderItems style (level + 1) items)
    refine (readValue_render airy depth (level + 1) item _ ends).bind fun v => ?_
    exact (readMoreItems_render airy depth level rest items bound fewer).map (v :: ·)

theorem readFields_render (airy : style.Airy) (depth level : Nat) (rest : List Char) :
    (fields : List (String × Json)) →
    Yields (rereadFields? depth fields) rest (readFields (readValue depth)
      (style.inside '\x7d' level rest (renderFields style (level + 1) fields)))
  | [] => yields_ok [] rest
  | (key, value) :: fields => by
    rw [renderFields, Style.inside, rereadFields?, toList_field,
      readFields_opens _ (airy.lineBreak (level + 1))]
    have ends := delimited_more airy (rfl : continuesNumeral '\x7d' = false) level rest
      (renderFields style (level + 1) fields)
    refine (readField_text airy key (readValue_render airy depth (level + 1) value) ends).bind
      fun f => ?_
    exact (readMoreFields_render airy depth level rest fields _ (by simp; omega)).map (f :: ·)

theorem readMoreFields_render (airy : style.Airy) (depth level : Nat) (rest : List Char) :
    (fields : List (String × Json)) → (bound : Nat) →
    (style.more '\x7d' level rest (renderFields style (level + 1) fields)).length ≤ bound →
    Yields (rereadFields? depth fields) rest (readMoreFields (readValue depth) bound
      (style.more '\x7d' level rest (renderFields style (level + 1) fields)))
  | [], 0, enough => absurd enough (by simp [renderFields, Style.more])
  | [], bound + 1, _ => by
    rw [renderFields, Style.more, readMoreFields_close _ _ (airy.lineBreak level)]
    exact yields_ok [] rest
  | field :: fields, 0, enough => absurd enough (by simp [renderFields, Style.more])
  | (key, value) :: fields, bound + 1, enough => by
    have fewer : (style.more '\x7d' level rest (renderFields style (level + 1) fields)).length ≤
        bound := by
      simp only [renderFields, Style.more, List.length_append, List.length_cons] at enough
      omega
    rw [renderFields, Style.more, rereadFields?, toList_field,
      readMoreFields_comma _ _ (airy.lineBreak (level + 1))]
    have ends := delimited_more airy (rfl : continuesNumeral '\x7d' = false) level rest
      (renderFields style (level + 1) fields)
    refine (readField_text airy key (readValue_render airy depth (level + 1) value) ends).bind
      fun f => ?_
    exact (readMoreFields_render airy depth level rest fields bound fewer).map (f :: ·)

end

end Reading

/-! ## Whole texts -/

/-- Reads a whole text as one value inside which `depth` containers may be opened. -/
def readWithin (depth : Nat) (text : String) : Except ReadError Json :=
  Except.mapError (Stop.locate text) do
    let (v, rest) ← readValue depth text.toList
    readNothing rest
    return v

theorem read_eq_readWithin (text : String) : read text = readWithin depthLimit text := rfl

/-- The printed value is what a reader of its whole text gets. -/
theorem readWithin_render {style : Style} (airy : style.Airy) (depth level : Nat) (v : Json) :
    (readWithin depth (v.render style level)).toOption = v.reread? depth := by
  have yields := readValue_render airy depth level v [] delimited_nil
  rw [List.append_nil] at yields
  unfold readWithin
  cases found : v.reread? depth with
  | some w =>
    rw [found] at yields
    have run : readValue depth (v.render style level).toList = .ok (w, []) := yields
    rw [run]
    rfl
  | none =>
    rw [found] at yields
    obtain ⟨e, run⟩ := yields
    rw [run]
    rfl

theorem read_compact {v w : Json} (survives : v.reread? depthLimit = some w) :
    read v.compact = .ok w := by
  have found := readWithin_render Style.airy_compact depthLimit 0 v
  rw [survives] at found
  rw [read_eq_readWithin, compact]
  cases answer : readWithin depthLimit (v.render .compact 0) with
  | ok w' =>
    rw [answer] at found
    exact congrArg Except.ok (Option.some.inj found)
  | error e =>
    rw [answer] at found
    exact absurd found nofun

example : let v := object [("a b", array [null, string "\"\n"]), ("c", object [])]
    read v.compact = .ok v ∧ (readWithin depthLimit v.pretty).toOption = some v :=
  ⟨read_compact rfl, readWithin_render Style.airy_pretty depthLimit 0 _⟩

end Dashboard.Json
