import Dashboard.Proofs.Numerals
import Dashboard.Query.Statement
import Mathlib.Data.List.Basic
/-!
# Reading literals back

A literal that is followed by nothing, by a comma or by a closing bracket is read from left to right
without looking further: a mark is closed where it is not doubled, and a word or a number ends where
the literal ends. So a literal says what its value says, but that an object is the text of its
compact JSON and a number is the text that it is written as.
-/
namespace Dashboard.Query

/-- Takes something off the front of a text. Returns it with what is left. -/
abbrev Decoder (α : Type) := List Char → Option (α × List Char)

/-! ## Marks -/

/-- Reads up to a closing mark. A mark written twice stands for itself. -/
def readMarked (mark : Char) : Decoder (List Char)
  | [] => none
  | c :: cs =>
    if c = mark then
      match cs with
      | [] => some ([], [])
      | d :: rest =>
        if d = mark then (readMarked mark rest).map fun (s, rest) => (mark :: s, rest)
        else some ([], d :: rest)
    else (readMarked mark cs).map fun (s, rest) => (c :: s, rest)

theorem readMarked_plain {mark c : Char} (other : c ≠ mark) (cs : List Char) :
    readMarked mark (c :: cs) = (readMarked mark cs).map fun (s, rest) => (c :: s, rest) := by
  rw [readMarked.eq_def]
  exact if_neg other

theorem readMarked_doubled {mark : Char} {rest : List Char}
    (closed : ∀ c ∈ rest.head?, c ≠ mark) (s : List Char) :
    readMarked mark (doubled mark s ++ mark :: rest) = some (s, rest) := by
  induction s with
  | nil =>
    cases rest with
    | nil => simp [doubled, readMarked]
    | cons d rest => simp [doubled, readMarked, closed d rfl]
  | cons c s ih =>
    by_cases same : c = mark
    · subst same
      have twice : doubled c (c :: s) = c :: c :: doubled c s := by simp [doubled]
      simp [twice, readMarked, ih]
    · have once : doubled mark (c :: s) = c :: doubled mark s := by simp [doubled, same]
      rw [once, List.cons_append, readMarked_plain same, ih]
      rfl

theorem toList_enclosed (mark : Char) (s : String) (rest : List Char) :
    (enclosed mark s).toList ++ rest = mark :: (doubled mark s.toList ++ mark :: rest) := by
  simp [enclosed]

/-! ## Lists -/

/-- The texts behind the first one, each after a comma and a blank, and what follows them. -/
def more (rest : List Char) : List String → List Char
  | [] => rest
  | text :: texts => ',' :: ' ' :: (text.toList ++ more rest texts)

theorem toList_joined (text : String) (texts : List String) (rest : List Char) :
    (", ".intercalate (text :: texts)).toList ++ rest = text.toList ++ more rest texts := by
  induction texts generalizing text with
  | nil => rw [String.intercalate_singleton, more]
  | cons next texts ih =>
    have comma : (", " : String).toList = [',', ' '] := rfl
    rw [String.intercalate_cons_cons, String.toList_append, String.toList_append, comma,
      List.append_assoc, List.append_assoc, ih, more]
    rfl

theorem length_le_more {β : Type} (rest : List Char) (text : β → String) (xs : List β) :
    xs.length ≤ (more rest (xs.map text)).length := by
  induction xs with
  | nil => exact Nat.zero_le _
  | cons x xs ih =>
    simp only [List.map_cons, more, List.length_cons, List.length_append]
    omega

/-- Reads what follows the first of several things, as long as a comma leads on. Each takes a
character, so the count of characters bounds the loop. -/
def readMore {α : Type} (item : Decoder α) : Nat → Decoder (List α)
  | bound + 1, ',' :: ' ' :: rest =>
    (item rest).bind fun (first, rest) =>
      (readMore item bound rest).map fun (others, rest) => (first :: others, rest)
  | _, rest => some ([], rest)

theorem readMore_stop {α : Type} (item : Decoder α) (bound : Nat) {rest : List Char}
    (stop : ∀ c ∈ rest.head?, c ≠ ',') : readMore item bound rest = some ([], rest) := by
  cases bound with
  | zero => rfl
  | succ bound =>
    cases rest with
    | nil => rfl
    | cons c rest =>
      rw [readMore]
      intro _ _ _ same
      exact stop c rfl (List.cons.inj same).1

theorem readMore_more {α β : Type} {item : Decoder α} {follows : List Char → Prop}
    (comma : ∀ rest, follows (',' :: ' ' :: rest)) {text : β → String} {found : β → α}
    {xs : List β}
    (reads : ∀ x ∈ xs, ∀ rest, follows rest → item ((text x).toList ++ rest) = some (found x, rest))
    {rest : List Char} (ends : follows rest) (stop : ∀ c ∈ rest.head?, c ≠ ',') {bound : Nat}
    (enough : xs.length ≤ bound) :
    readMore item bound (more rest (xs.map text)) = some (xs.map found, rest) := by
  induction xs generalizing bound with
  | nil => exact readMore_stop item bound stop
  | cons x xs ih =>
    obtain ⟨bound, rfl⟩ := Nat.exists_eq_succ_of_ne_zero (Nat.ne_of_gt (Nat.lt_of_lt_of_le
      (Nat.succ_pos _) enough))
    have next : follows (more rest (xs.map text)) := by
      cases xs with
      | nil => exact ends
      | cons y ys => exact comma _
    have first := reads x List.mem_cons_self _ next
    have others := ih (fun y inside => reads y (List.mem_cons_of_mem _ inside))
      (Nat.le_of_succ_le_succ enough)
    rw [List.map_cons, more, readMore, first]
    simp only [Option.bind_some, others, Option.map_some, List.map_cons]

/-- Of several things that are joined the first is read, and then the others. -/
theorem reads_joined {α β : Type} {item : Decoder α} {follows : List Char → Prop}
    (comma : ∀ rest, follows (',' :: ' ' :: rest)) {text : β → String} {found : β → α} {x : β}
    {xs : List β} (reads : ∀ y ∈ x :: xs, ∀ rest, follows rest →
      item ((text y).toList ++ rest) = some (found y, rest))
    {rest : List Char} (ends : follows rest) (stop : ∀ c ∈ rest.head?, c ≠ ',') :
    ∃ left, item ((", ".intercalate ((x :: xs).map text)).toList ++ rest) = some (found x, left) ∧
      readMore item left.length left = some (xs.map found, rest) := by
  have next : follows (more rest (xs.map text)) := by
    cases xs with
    | nil => exact ends
    | cons y ys => exact comma _
  refine ⟨more rest (xs.map text), ?_, readMore_more comma
    (fun y inside => reads y (List.mem_cons_of_mem x inside)) ends stop
    (length_le_more rest text xs)⟩
  rw [List.map_cons, toList_joined, reads x List.mem_cons_self _ next]

/-! ## Literals -/

/-- What a literal says. -/
inductive Literal where
  | null
  | bool (b : Bool)
  | numeral (written : String)
  | text (s : String)
  | list (items : List Literal)

mutual

/-- What the literal of a value says. An object is the text of its compact JSON, and of a number
there is its text. -/
def Literal.ofJson : Json → Literal
  | .null => .null
  | .bool b => .bool b
  | .number n => .numeral n.text
  | .string s => .text s
  | .array items => .list (Literal.ofItems items)
  | .object fields => .text (Json.object fields).compact

def Literal.ofItems : List Json → List Literal
  | [] => []
  | item :: items => Literal.ofJson item :: Literal.ofItems items

end

theorem literals_eq_map (items : List Json) : literals items = items.map literal := by
  induction items with
  | nil => rfl
  | cons item items ih => rw [literals, ih, List.map_cons]

theorem Literal.ofItems_eq_map (items : List Json) :
    Literal.ofItems items = items.map Literal.ofJson := by
  induction items with
  | nil => rfl
  | cons item items ih => rw [Literal.ofItems, ih, List.map_cons]

mutual

/-- The literal that says something. -/
def Literal.print : Literal → String
  | .null => "NULL"
  | .bool b => if b then "TRUE" else "FALSE"
  | .numeral written => written
  | .text s => textLiteral s
  | .list items => "[" ++ ", ".intercalate (Literal.printAll items) ++ "]"

def Literal.printAll : List Literal → List String
  | [] => []
  | item :: items => item.print :: Literal.printAll items

end

mutual

/-- A literal is made from what it says. -/
theorem print_ofJson (v : Json) : (Literal.ofJson v).print = literal v := by
  cases v with
  | array items => rw [Literal.ofJson, Literal.print, printAll_ofItems items, literal]
  | _ => rfl

theorem printAll_ofItems (items : List Json) :
    Literal.printAll (Literal.ofItems items) = literals items := by
  cases items with
  | nil => rfl
  | cons item items =>
    rw [Literal.ofItems, Literal.printAll, print_ofJson item, printAll_ofItems items, literals]

end

/-- Whether a character ends a word among arguments and items. -/
def isEnd (c : Char) : Bool :=
  c == ',' || c == ')' || c == ']'

/-- What may follow a literal: nothing, a comma or a closing bracket. -/
def Ends (rest : List Char) : Prop :=
  ∀ c ∈ rest.head?, isEnd c = true

theorem ends_cons {c : Char} (last : isEnd c = true) (rest : List Char) : Ends (c :: rest) := by
  rintro _ ⟨⟩
  exact last

def isNumeralChar (c : Char) : Bool :=
  c.isDigit || c == '-' || c == '+' || c == '.' || c == 'e'

/-- The literal that is a word without marks. -/
def Literal.ofWord? (word : List Char) : Option Literal :=
  if word = ['N', 'U', 'L', 'L'] then some .null
  else if word = ['T', 'R', 'U', 'E'] then some (.bool true)
  else if word = ['F', 'A', 'L', 'S', 'E'] then some (.bool false)
  else if word ≠ [] ∧ word.all isNumeralChar then some (.numeral (String.ofList word))
  else none

def readWord (cs : List Char) : Option (Literal × List Char) :=
  (Literal.ofWord? (cs.takeWhile (!isEnd ·))).map fun word => (word, cs.dropWhile (!isEnd ·))

/-- Reads a list after its opening bracket. -/
def readList (item : Decoder Literal) : Decoder Literal
  | ']' :: rest => some (.list [], rest)
  | cs =>
    (item cs).bind fun (first, rest) =>
      (readMore item rest.length rest).bind fun
        | (others, ']' :: rest) => some (.list (first :: others), rest)
        | _ => none

/-- Reads a literal. A list takes a character for its bracket, so the count of characters bounds the
nesting. -/
def readLiteral : Nat → Decoder Literal
  | 0, _ => none
  | bound + 1, cs =>
    match cs with
    | '\'' :: rest => (readMarked '\'' rest).map fun (s, rest) => (.text (String.ofList s), rest)
    | '[' :: rest => readList (readLiteral bound) rest
    | cs => readWord cs

theorem readWord_append {word : List Char} (inside : ∀ c ∈ word, isEnd c = false)
    {rest : List Char} (ends : Ends rest) :
    readWord (word ++ rest) = (Literal.ofWord? word).map fun found => (found, rest) := by
  have all : ∀ c ∈ word, (!isEnd c) = true := fun c here => by rw [inside c here]; rfl
  have stop : rest.takeWhile (!isEnd ·) = [] ∧ rest.dropWhile (!isEnd ·) = rest := by
    cases rest with
    | nil => exact ⟨rfl, rfl⟩
    | cons c rest => simp [ends c rfl]
  unfold readWord
  rw [List.takeWhile_append_of_pos all, List.dropWhile_append_of_pos all, stop.1, stop.2,
    List.append_nil]

theorem isNumeralChar_of_isNumeral {text : List Char} (shape : Json.IsNumeral text) :
    ∀ c ∈ text, isNumeralChar c = true := by
  have digits {cs : List Char} (all : Json.Digits cs) : ∀ c ∈ cs, isNumeralChar c = true := by
    intro c here
    simp [isNumeralChar, all c here]
  have exponent {cs : List Char} (shape : Json.IsExponent cs) :
      ∀ c ∈ cs, isNumeralChar c = true := by
    cases shape with
    | none => exact nofun
    | @some sign _ signs _ all =>
      have signed : isNumeralChar sign = true := by obtain rfl | rfl := signs <;> rfl
      exact List.forall_mem_cons.2 ⟨rfl, List.forall_mem_cons.2 ⟨signed, digits all⟩⟩
  cases shape with
  | mk _ whole _ tail =>
    refine List.forall_mem_append.2 ⟨digits whole, ?_⟩
    cases tail with
    | exponent last => exact exponent last
    | point _ all last =>
      exact List.forall_mem_cons.2 ⟨rfl, List.forall_mem_append.2 ⟨digits all, exponent last⟩⟩

theorem Ends.ne_mark {rest : List Char} (ends : Ends rest) {mark : Char}
    (other : isEnd mark = false) : ∀ c ∈ rest.head?, c ≠ mark := by
  rintro c here rfl
  exact absurd ((ends c here).symm.trans other) (by decide)

theorem not_isEnd_of_isNumeralChar {c : Char} (part : isNumeralChar c = true) :
    isEnd c = false := by
  have ends : isEnd c = true → isNumeralChar c = false := by
    intro h
    simp only [isEnd, Bool.or_eq_true, beq_iff_eq] at h
    obtain (rfl | rfl) | rfl := h <;> decide
  cases h : isEnd c with
  | false => rfl
  | true => exact absurd (part.symm.trans (ends h)) (by decide)

theorem isNumeralChar_of_mem (n : Number) : ∀ c ∈ n.text.toList, isNumeralChar c = true := by
  obtain ⟨negative, numeral, shape, written⟩ := n.exists_numeral_text
  rw [written]
  refine List.forall_mem_append.2 ⟨?_, isNumeralChar_of_isNumeral shape⟩
  cases negative with
  | true => exact List.forall_mem_singleton.2 rfl
  | false => exact nofun

theorem exists_numeralChar (n : Number) :
    ∃ c cs, n.text.toList = c :: cs ∧ isNumeralChar c = true := by
  obtain ⟨negative, numeral, shape, written⟩ := n.exists_numeral_text
  obtain ⟨digit, digits, rfl, -⟩ := shape.exists_digit
  have some_char : n.text.toList ≠ [] := by
    rw [written]
    simp
  obtain ⟨c, cs, same⟩ := List.exists_cons_of_ne_nil some_char
  exact ⟨c, cs, same, isNumeralChar_of_mem n c (by rw [same]; exact List.mem_cons_self)⟩

/-- A number is a word, and none of the others. -/
theorem readWord_number (n : Number) {rest : List Char} (ends : Ends rest) :
    readWord (n.text.toList ++ rest) = some (.numeral n.text, rest) := by
  have whole := isNumeralChar_of_mem n
  obtain ⟨first, others, written, part⟩ := exists_numeralChar n
  have found : Literal.ofWord? n.text.toList = some (.numeral n.text) := by
    have other {c : Char} {cs : List Char} (letter : isNumeralChar c = false) :
        n.text.toList ≠ c :: cs := by
      intro same
      rw [written] at same
      rw [(List.cons.inj same).1] at part
      exact absurd (part.symm.trans letter) (by decide)
    have some_char : n.text.toList ≠ [] := by
      rw [written]
      exact List.cons_ne_nil first others
    unfold Literal.ofWord?
    rw [if_neg (other rfl), if_neg (other rfl), if_neg (other rfl),
      if_pos ⟨some_char, List.all_eq_true.2 whole⟩, String.ofList_toList]
  rw [readWord_append (fun c here => not_isEnd_of_isNumeralChar (whole c here)) ends, found]
  rfl

theorem readLiteral_word (bound : Nat) {c : Char} (word : isNumeralChar c = true ∨ c.isUpper = true)
    (cs : List Char) : readLiteral (bound + 1) (c :: cs) = readWord (c :: cs) := by
  rw [readLiteral.eq_def]
  dsimp only
  split
  · next same =>
    rw [(List.cons.inj same).1] at word
    exact absurd word (by decide)
  · next same =>
    rw [(List.cons.inj same).1] at word
    exact absurd word (by decide)
  · rfl

theorem toList_list (items : List Json) (rest : List Char) :
    (literal (.array items)).toList ++ rest =
      '[' :: ((", ".intercalate (items.map literal)).toList ++ ']' :: rest) := by
  rw [literal, literals_eq_map]
  simp

/-- A literal begins with something that ends no word and begins no name. -/
theorem opens_literal (v : Json) :
    ∃ c cs, (literal v).toList = c :: cs ∧ isEnd c = false ∧ c ≠ '"' := by
  have text (s : String) := (List.append_nil _).symm.trans (toList_enclosed '\'' s [])
  cases v with
  | null => exact ⟨'N', ['U', 'L', 'L'], rfl, rfl, by decide⟩
  | bool b =>
    cases b with
    | true => exact ⟨'T', ['R', 'U', 'E'], rfl, rfl, by decide⟩
    | false => exact ⟨'F', ['A', 'L', 'S', 'E'], rfl, rfl, by decide⟩
  | number n =>
    obtain ⟨c, cs, written, part⟩ := exists_numeralChar n
    refine ⟨c, cs, written, not_isEnd_of_isNumeralChar part, ?_⟩
    rintro rfl
    exact absurd part (by decide)
  | string s => exact ⟨'\'', _, text s, rfl, by decide⟩
  | array items =>
    exact ⟨'[', _, (List.append_nil _).symm.trans (toList_list items []), rfl, by decide⟩
  | object fields => exact ⟨'\'', _, text _, rfl, by decide⟩

theorem readList_more {item : Decoder Literal} {text rest left : List Char} {first : Literal}
    {found : List Literal} (opens : ∃ c cs, text = c :: cs ∧ isEnd c = false)
    (head : item text = some (first, rest))
    (tail : readMore item rest.length rest = some (found, ']' :: left)) :
    readList item text = some (.list (first :: found), left) := by
  obtain ⟨c, cs, rfl, inside⟩ := opens
  rw [readList.eq_def]
  split
  · next same =>
    rw [(List.cons.inj same).1] at inside
    exact absurd inside (by decide)
  · rw [head]
    simp only [Option.bind_some, tail]

theorem length_le_of_mem {text : String} {texts : List String} (inside : text ∈ texts) :
    text.toList.length ≤ (", ".intercalate texts).toList.length := by
  induction texts with
  | nil => cases inside
  | cons first texts ih =>
    have joined := congrArg List.length (toList_joined first texts [])
    simp only [List.append_nil, List.length_append] at joined
    obtain rfl | later := List.mem_cons.1 inside
    · omega
    · cases texts with
      | nil => cases later
      | cons next texts =>
        have behind := congrArg List.length (toList_joined next texts [])
        simp only [List.append_nil, List.length_append] at behind
        have shorter := ih later
        simp only [more, List.length_cons, List.length_append] at joined
        omega

theorem readLiteral_text (bound : Nat) (s : String) {rest : List Char} (ends : Ends rest) :
    readLiteral (bound + 1) ((textLiteral s).toList ++ rest) = some (.text s, rest) := by
  rw [textLiteral, toList_enclosed, readLiteral, readMarked_doubled (ends.ne_mark rfl)]
  simp only [Option.map_some, String.ofList_toList]

/-- A literal is read back, whatever may follow it. -/
theorem readLiteral_literal (v : Json) {bound : Nat} (enough : (literal v).toList.length ≤ bound)
    {rest : List Char} (ends : Ends rest) :
    readLiteral bound ((literal v).toList ++ rest) = some (.ofJson v, rest) := by
  obtain ⟨bound, rfl⟩ : ∃ n, bound = n + 1 := by
    obtain ⟨c, cs, written, -⟩ := opens_literal v
    rw [written, List.length_cons] at enough
    exact Nat.exists_eq_add_one.2 (by omega)
  have word (w : List Char) (inside : w.all (isEnd · = false) = true) :
      readWord (w ++ rest) = (Literal.ofWord? w).map fun found => (found, rest) :=
    readWord_append (fun c here => of_decide_eq_true (List.all_eq_true.1 inside c here)) ends
  cases v with
  | null =>
    exact (readLiteral_word bound (.inr rfl) _).trans (word ['N', 'U', 'L', 'L'] rfl)
  | bool b =>
    cases b with
    | true =>
      exact (readLiteral_word bound (.inr rfl) _).trans (word ['T', 'R', 'U', 'E'] rfl)
    | false =>
      exact (readLiteral_word bound (.inr rfl) _).trans (word ['F', 'A', 'L', 'S', 'E'] rfl)
  | number n =>
    obtain ⟨c, cs, written, part⟩ := exists_numeralChar n
    have number := readWord_number n ends
    have text : literal (.number n) = n.text := rfl
    rw [written, List.cons_append] at number
    rw [text, written, List.cons_append, readLiteral_word bound (.inl part), number]
    rfl
  | string s => exact readLiteral_text bound s ends
  | object fields => exact readLiteral_text bound _ ends
  | array items =>
    have shorter (item : Json) (inside : item ∈ items) : (literal item).toList.length ≤ bound := by
      have whole := congrArg List.length (toList_list items [])
      have part := length_le_of_mem (List.mem_map_of_mem (f := literal) inside)
      simp only [List.append_nil, List.length_append, List.length_cons, List.length_nil] at whole
      omega
    have reads (item : Json) (inside : item ∈ items) (rest : List Char) (ends : Ends rest) :=
      readLiteral_literal item (shorter item inside) ends
    rw [toList_list, readLiteral, Literal.ofJson, Literal.ofItems_eq_map]
    cases items with
    | nil => rfl
    | cons item items =>
      -- a closing bracket ends the last item, a comma every other one
      have closing : Ends (']' :: rest) := ends_cons rfl rest
      obtain ⟨left, head, tail⟩ := reads_joined (fun rest => ends_cons rfl (' ' :: rest)) reads
        closing (by rintro _ ⟨⟩; decide)
      obtain ⟨c, cs, written, inside, -⟩ := opens_literal item
      have opens : (", ".intercalate ((item :: items).map literal)).toList ++ ']' :: rest =
          c :: (cs ++ more (']' :: rest) (items.map literal)) := by
        rw [List.map_cons, toList_joined, written, List.cons_append]
      exact readList_more ⟨c, _, opens, inside⟩ head tail
termination_by sizeOf v

end Dashboard.Query
