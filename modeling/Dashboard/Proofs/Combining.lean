import Dashboard.Live.Predicate
import Mathlib.Tactic.SplitIfs
/-!
# Reading a combined predicate back

A predicate is a text that someone wrote, and it may hold connectives, parentheses and quotes. As
long as its own parentheses and quotes are closed, it does not run into its neighbours: cut at the
outermost parentheses, a combined predicate falls into the predicates that it was made of and the
connectives between them.
-/
namespace Dashboard

/-! ## Parentheses and quotes -/

/-- How many parentheses are open in a text, and the quote that is open. -/
structure Nesting where
  depth : Nat := 0
  quote : Option Char := none
  deriving DecidableEq

namespace Nesting

/-- The nesting behind one more character; `none` if it closes a parenthesis that is not open.
Inside quotes only the same quote counts. -/
def step? (nesting : Nesting) (c : Char) : Option Nesting :=
  match nesting.quote with
  | some quote => some (if c = quote then { nesting with quote := none } else nesting)
  | none =>
    if c = '\'' ∨ c = '"' then some { nesting with quote := some c }
    else if c = '(' then some { nesting with depth := nesting.depth + 1 }
    else if c = ')' then
      if nesting.depth = 0 then none else some { nesting with depth := nesting.depth - 1 }
    else some nesting

def steps? (nesting : Nesting) (cs : List Char) : Option Nesting :=
  cs.foldlM step? nesting

def deeper (nesting : Nesting) : Nesting :=
  { nesting with depth := nesting.depth + 1 }

/-- What a character opens or closes does not mind what is open around it. -/
theorem step?_deeper {nesting after : Nesting} {c : Char} (h : nesting.step? c = some after) :
    nesting.deeper.step? c = some after.deeper := by
  obtain ⟨depth, _ | quote⟩ := nesting
  · simp only [step?, deeper] at h ⊢
    split_ifs at h ⊢ with isQuote isOpening isClosing outermost <;> obtain rfl := Option.some.inj h
    · rfl
    · rfl
    · omega
    · have same : depth + 1 - 1 = depth - 1 + 1 := by omega
      simp only [same]
    · rfl
  · simp only [step?, deeper] at h ⊢
    obtain rfl := Option.some.inj h
    split <;> rfl

end Nesting

/-- Every parenthesis and every quote of a text is closed in it. -/
def Balanced (text : String) : Prop :=
  Nesting.steps? {} text.toList = some {}

instance (text : String) : Decidable (Balanced text) :=
  inferInstanceAs (Decidable (_ = _))

/-! ## Cutting a text -/

/-- A piece of a text: what stands between outermost parentheses, or outside all parentheses. -/
inductive Piece where
  | inside (text : String)
  | outside (text : String)
  deriving DecidableEq, Repr

namespace Piece

/-- What was read outside of parentheses is a piece if it is not empty. -/
def ofOutside (read : List Char) : List Piece :=
  if read = [] then [] else [outside (String.ofList read)]

/-- Cuts a text at its outermost parentheses, given the nesting and what was read since the last
cut; `none` if the text is not balanced. -/
def cut? (nesting : Nesting) (read : List Char) : List Char → Option (List Piece)
  | [] => if nesting = {} then some (ofOutside read) else none
  | c :: cs =>
    match nesting.step? c with
    | none => none
    | some next =>
      if nesting.depth = 0 ∧ next.depth = 1 then (ofOutside read ++ ·) <$> cut? next [] cs
      else if nesting.depth = 1 ∧ next.depth = 0 then
        (inside (String.ofList read) :: ·) <$> cut? next [] cs
      else cut? next (read ++ [c]) cs

/-- The pieces of a text. -/
def split? (text : String) : Option (List Piece) :=
  cut? {} [] text.toList

/-- Nothing is cut inside of parentheses. -/
theorem cut?_deeper {nesting after : Nesting} {body : List Char}
    (h : nesting.steps? body = some after) (read rest : List Char) :
    cut? nesting.deeper read (body ++ rest) = cut? after.deeper (read ++ body) rest := by
  induction body generalizing nesting read with
  | nil =>
    obtain rfl : nesting = after := by simpa [Nesting.steps?] using h
    simp
  | cons c body ih =>
    obtain ⟨next, here, later⟩ := Option.bind_eq_some_iff.1 h
    rw [List.cons_append, cut?, Nesting.step?_deeper here]
    have outer : ¬ (nesting.deeper.depth = 0 ∧ next.deeper.depth = 1) := by
      simp [Nesting.deeper]
    have inner : ¬ (nesting.deeper.depth = 1 ∧ next.deeper.depth = 0) := by
      simp [Nesting.deeper]
    simp only [if_neg outer, if_neg inner]
    rw [ih later, List.append_assoc, List.singleton_append]

/-- A balanced text in parentheses is a piece. -/
theorem cut?_parenthesized {text : String} (balanced : Balanced text) (read rest : List Char) :
    cut? {} read ('(' :: (text.toList ++ ')' :: rest)) =
      (fun pieces => ofOutside read ++ inside text :: pieces) <$> cut? {} [] rest := by
  have body := cut?_deeper balanced [] (')' :: rest)
  have opens : cut? {} read ('(' :: (text.toList ++ ')' :: rest)) =
      (ofOutside read ++ ·) <$> cut? (Nesting.deeper {}) [] (text.toList ++ ')' :: rest) := rfl
  have closes : cut? (Nesting.deeper {}) text.toList (')' :: rest) =
      (inside text :: ·) <$> cut? {} [] rest := by
    show (inside (String.ofList text.toList) :: ·) <$> cut? {} [] rest = _
    rw [String.ofList_toList]
  rw [opens, body, List.nil_append, closes, Functor.map_map]

/-- Predicates with a connective between them. -/
def joined (connective : String) (predicates : List String) : List Piece :=
  (predicates.map inside).intersperse (outside connective)

/-- Outside of parentheses a connective is read on. -/
theorem cut?_connective (kind : SelectionKind) (rest : List Char) :
    cut? {} [] ((Live.connective kind).toList ++ rest) =
      cut? {} (Live.connective kind).toList rest := by
  cases kind <;> rfl

theorem ofOutside_connective (kind : SelectionKind) :
    ofOutside (Live.connective kind).toList = [outside (Live.connective kind)] := by
  cases kind <;> rfl

theorem joined_cons_cons (connective predicate next : String) (predicates : List String) :
    joined connective (predicate :: next :: predicates) =
      inside predicate :: outside connective :: joined connective (next :: predicates) := by
  simp [joined]

theorem toList_parenthesized (text : String) (rest : List Char) :
    ("(" ++ text ++ ")").toList ++ rest = '(' :: (text.toList ++ ')' :: rest) := by
  simp

/-- Joined predicates fall apart at the parentheses around them. -/
theorem cut?_joined (kind : SelectionKind) {predicate : String} {predicates : List String}
    (balanced : ∀ p ∈ predicate :: predicates, Balanced p) (read : List Char) :
    cut? {} read ((Live.connective kind).intercalate
        ((predicate :: predicates).map fun p => "(" ++ p ++ ")")).toList =
      some (ofOutside read ++ joined (Live.connective kind) (predicate :: predicates)) := by
  have first : Balanced predicate := balanced predicate List.mem_cons_self
  induction predicates generalizing predicate read with
  | nil =>
    have text := toList_parenthesized predicate []
    rw [List.append_nil] at text
    rw [List.map_singleton, String.intercalate_singleton, text, cut?_parenthesized first]
    rfl
  | cons next predicates ih =>
    have others : ∀ p ∈ next :: predicates, Balanced p :=
      fun p inside => balanced p (List.mem_cons_of_mem _ inside)
    have rest := ih others (Live.connective kind).toList (others next List.mem_cons_self)
    rw [ofOutside_connective, List.map_cons] at rest
    rw [List.map_cons, List.map_cons, String.intercalate_cons_cons, String.toList_append,
      String.toList_append, List.append_assoc, toList_parenthesized, cut?_parenthesized first,
      cut?_connective, rest, joined_cons_cons]
    rfl

/-! ## What pieces say -/

/-- The texts in parentheses between which a connective stands. -/
def joinedBy? (connective : String) : List Piece → Option (List String)
  | [inside text] => some [text]
  | inside text :: outside between :: rest =>
    if between = connective then (text :: ·) <$> joinedBy? connective rest else none
  | _ => none

/-- Whether pieces hold that are joined by one connective, if each text in parentheses does or does
not. -/
def holds? (holds : String → Bool) (pieces : List Piece) : Option Bool :=
  match joinedBy? " OR " pieces, joinedBy? " AND " pieces with
  | some texts, _ => some (texts.any holds)
  | none, some texts => some (texts.all holds)
  | none, none => none

theorem joinedBy?_joined (connective predicate : String) (predicates : List String) :
    joinedBy? connective (joined connective (predicate :: predicates)) =
      some (predicate :: predicates) := by
  induction predicates generalizing predicate with
  | nil => rfl
  | cons next predicates ih =>
    rw [joined_cons_cons, joinedBy?, if_pos rfl, ih]
    rfl

/-- Joined predicates hold if one of them does, in a union, and otherwise if all of them do. -/
theorem holds?_joined (kind : SelectionKind) (holds : String → Bool) (predicate : String)
    (predicates : List String) :
    holds? holds (joined (Live.connective kind) (predicate :: predicates)) =
      some (if kind = .union then (predicate :: predicates).any holds
        else (predicate :: predicates).all holds) := by
  have own := joinedBy?_joined (Live.connective kind) predicate predicates
  unfold holds?
  by_cases union : kind = .union
  · subst union
    rw [Live.connective] at own ⊢
    simp only [own, if_true]
  · have connective : Live.connective kind = " AND " := by
      cases kind with
      | union => exact absurd rfl union
      | _ => rfl
    rw [connective] at own ⊢
    cases predicates with
    | nil => simp [joined, joinedBy?, union]
    | cons next predicates =>
      have notOr : joinedBy? " OR " (joined " AND " (predicate :: next :: predicates)) = none := by
        rw [joined_cons_cons, joinedBy?, if_neg (by decide)]
      simp only [own, notOr, if_neg union]

end Piece

/-! ## Combined predicates -/

/-- The predicates that count for a client, in the order of their clauses: in a crossfilter
selection not its own, and otherwise all. -/
def Live.seen (kind : SelectionKind) (client : Option String) (clauses : List Clause) :
    List String :=
  (clauses.filter fun clause => ¬ (kind = .crossfilter ∧ client = some clause.source)).map
    (·.predicate)

theorem Live.seen_eq (kind : SelectionKind) (client : Option String) (clauses : List Clause) :
    seen kind client clauses = (contributing kind client clauses).map (·.predicate) := by
  unfold seen contributing
  congr 1
  cases kind with
  | crossfilter =>
    refine List.filter_congr fun clause _ => ?_
    rw [Bool.eq_iff_iff, decide_eq_true_iff, bne_iff_ne, ne_eq, eq_self, true_and,
      eq_comm (a := client)]
  | _ => exact List.filter_eq_self.2 fun _ _ => rfl

theorem Live.predicate?_eq_combined (kind : SelectionKind) (client : Option String)
    (clauses : List Clause) :
    (Live.selection kind clauses).predicate? client = combined kind (seen kind client clauses) := by
  rw [predicate?_selection, seen_eq]

theorem Live.combined_cons (kind : SelectionKind) (predicate : String)
    (predicates : List String) :
    combined kind (predicate :: predicates) = some ((connective kind).intercalate
      ((predicate :: predicates).map fun p => "(" ++ p ++ ")")) := rfl

/-- The text of joined predicates has them and their connectives as pieces. -/
theorem split?_combined {kind : SelectionKind} {predicates : List String} {text : String}
    (balanced : ∀ p ∈ predicates, Balanced p)
    (written : Live.combined kind predicates = some text) :
    Piece.split? text = some (Piece.joined (Live.connective kind) predicates) := by
  cases predicates with
  | nil => cases written
  | cons predicate predicates =>
    rw [Live.combined_cons] at written
    obtain rfl := Option.some.inj written
    exact Piece.cut?_joined kind balanced []

theorem holds?_combined {kind : SelectionKind} {predicates : List String} {text : String}
    (balanced : ∀ p ∈ predicates, Balanced p)
    (written : Live.combined kind predicates = some text) (holds : String → Bool) :
    (Piece.split? text).bind (Piece.holds? holds) =
      some (if kind = .union then predicates.any holds else predicates.all holds) := by
  rw [split?_combined balanced written, Option.bind_some]
  cases predicates with
  | nil => cases written
  | cons predicate predicates => exact Piece.holds?_joined kind holds predicate predicates

theorem combined_eq_none {kind : SelectionKind} {predicates : List String} :
    Live.combined kind predicates = none ↔ predicates = [] := by
  cases predicates with
  | nil => exact iff_of_true rfl rfl
  | cons predicate predicates => exact iff_of_false nofun nofun

/-- The texts in parentheses. -/
def Piece.texts (pieces : List Piece) : List String :=
  pieces.filterMap fun piece =>
    match piece with
    | inside text => some text
    | outside _ => none

theorem Piece.texts_joined (connective : String) (predicates : List String) :
    texts (joined connective predicates) = predicates := by
  induction predicates with
  | nil => rfl
  | cons predicate predicates ih =>
    cases predicates with
    | nil => rfl
    | cons next predicates =>
      rw [joined_cons_cons]
      exact congrArg (predicate :: ·) ih

/-- Whatever joins them, balanced predicates are known from the text. -/
theorem combined_injective {kind kind' : SelectionKind} {predicates predicates' : List String}
    (balanced : ∀ p ∈ predicates, Balanced p) (balanced' : ∀ p ∈ predicates', Balanced p)
    (same : Live.combined kind predicates = Live.combined kind' predicates') :
    predicates = predicates' := by
  cases written : Live.combined kind predicates with
  | none =>
    rw [combined_eq_none.1 written, combined_eq_none.1 (same.symm.trans written)]
  | some text =>
    have pieces := split?_combined balanced written
    rw [split?_combined balanced' (same.symm.trans written)] at pieces
    have texts := congrArg Piece.texts (Option.some.inj pieces)
    rw [Piece.texts_joined, Piece.texts_joined] at texts
    exact texts.symm

/-- If the predicates that count for a client are balanced, what it sees is read back: cut at the
outermost parentheses, it is these predicates with the connective of the selection between them, so
it holds if one of them does, or all of them; and different predicates are seen differently. -/
theorem seen_read_back {kind : SelectionKind} {client : Option String} {clauses : List Clause}
    (balanced : ∀ p ∈ Live.seen kind client clauses, Balanced p) :
    let seen := Live.seen kind client clauses
    let predicate? := (Live.selection kind clauses).predicate? client
    (predicate? = none ↔ seen = []) ∧
    (∀ text, predicate? = some text →
      Piece.split? text = some (Piece.joined (if kind = .union then " OR " else " AND ") seen) ∧
      ∀ holds, (Piece.split? text).bind (Piece.holds? holds) =
        some (if kind = .union then seen.any holds else seen.all holds)) ∧
    ∀ kind' client' clauses', (∀ p ∈ Live.seen kind' client' clauses', Balanced p) →
      seen ≠ Live.seen kind' client' clauses' →
      predicate? ≠ (Live.selection kind' clauses').predicate? client' := by
  intro seen predicate?
  have shown : predicate? = Live.combined kind seen :=
    Live.predicate?_eq_combined kind client clauses
  have connective : Live.connective kind = if kind = .union then " OR " else " AND " := by
    cases kind <;> rfl
  rw [shown, ← connective]
  refine ⟨combined_eq_none, fun text written => ?_,
    fun kind' client' clauses' balanced' different same => ?_⟩
  · exact ⟨split?_combined balanced written, holds?_combined balanced written⟩
  · rw [Live.predicate?_eq_combined] at same
    exact different (combined_injective balanced balanced' same)

/-- Predicates with connectives and parentheses in them, in quotes and outside, as one of three
clients of a crossfilter selection sees them. -/
theorem seen_read_back_of_quotes :
    let clauses : List Clause :=
      [⟨"a", "x = 'it''s) OR ('", .null⟩, ⟨"b", "own", .null⟩,
        ⟨"c", "(y) OR \"z(\" > 1", .null⟩]
    let text := "(x = 'it''s) OR (') AND ((y) OR \"z(\" > 1)"
    (∀ p ∈ Live.seen .crossfilter (some "b") clauses, Balanced p) ∧
      (Live.selection .crossfilter clauses).predicate? (some "b") = some text ∧
      Piece.split? text = some [.inside "x = 'it''s) OR ('", .outside " AND ",
        .inside "(y) OR \"z(\" > 1"] := by
  intro clauses text
  have balanced : ∀ p ∈ Live.seen .crossfilter (some "b") clauses, Balanced p := by decide
  have written : (Live.selection .crossfilter clauses).predicate? (some "b") = some text := by
    decide
  exact ⟨balanced, written, ((seen_read_back balanced).2.1 text written).1⟩

end Dashboard
