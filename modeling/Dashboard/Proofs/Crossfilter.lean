import Dashboard.Proofs.History
/-!
# Clients of a crossfilter selection

What a client of a crossfilter selection sees is what anyone would see if the updates of the client
had never been made. The other kinds of selection show every client the same.
-/
namespace Dashboard

/-- What a history of changes makes of a new selection. -/
def received (kind : SelectionKind) (changes : List Change) : Live :=
  changes.foldl Live.update (.empty kind)

/-- The changes that do not come from a client. -/
def others (client : String) (changes : List Change) : List Change :=
  changes.filter (·.source != client)

/-! ## Deleting the changes of a source -/

/-- Deleting one source does not silence another one, nor make it heard. -/
theorem any_others {client source : String} (other : source ≠ client) (changes : List Change) :
    (others client changes).any (·.source = source) = changes.any (·.source = source) := by
  induction changes with
  | nil => rfl
  | cons change changes ih =>
    unfold others at ih ⊢
    by_cases own : change.source = client
    · have elsewhere : ¬ change.source = source := fun same => other (same.symm.trans own)
      rw [List.filter_cons_of_neg (by simpa using own), ih, List.any_cons,
        decide_eq_false elsewhere, Bool.false_or]
    · rw [List.filter_cons_of_pos (by simpa using own), List.any_cons, List.any_cons, ih]

theorem lastWords_others (client : String) (changes : List Change) :
    lastWords (others client changes) = others client (lastWords changes) := by
  induction changes with
  | nil => rfl
  | cons change changes ih =>
    by_cases own : change.source = client
    · have dropped (rest : List Change) : others client (change :: rest) = others client rest :=
        List.filter_cons_of_neg (by simpa using own)
      rw [dropped, ih, lastWords]
      split
      · rfl
      · rw [dropped]
    · have stays (rest : List Change) :
          others client (change :: rest) = change :: others client rest :=
        List.filter_cons_of_pos (by simpa using own)
      rw [stays, lastWords, lastWords, any_others own]
      split
      · exact ih
      · rw [stays, ih]

/-- The clauses of the other sources are those that would be there without the client. -/
theorem survivors_others (client : String) (changes : List Change) :
    survivors .crossfilter (others client changes) =
      (survivors .crossfilter changes).filter (·.source != client) := by
  have several : (lastWords (others client changes)).filterMap Change.clause? =
      ((lastWords changes).filterMap Change.clause?).filter (·.source != client) := by
    rw [lastWords_others, filter_clauses, others]
  exact several

/-! ## What a client sees -/

theorem predicate?_received (client : String) (changes : List Change) :
    (received .crossfilter changes).predicate? (some client) =
      (received .crossfilter (others client changes)).predicate? none := by
  unfold received
  rw [foldl_update_empty, foldl_update_empty, survivors_others, Live.predicate?_selection,
    Live.predicate?_selection, Live.contributing_client, Live.contributing_none]

theorem predicate?_of_ne {kind : SelectionKind} (other : kind ≠ .crossfilter)
    (clauses : List Clause) (client : Option String) :
    (Live.selection kind clauses).predicate? client =
      (Live.selection kind clauses).predicate? none := by
  rw [Live.predicate?_selection, Live.predicate?_selection, Live.contributing_of_ne other,
    Live.contributing_none]

/-- A client of a crossfilter selection sees what anyone would see if its own updates were deleted
from the history, so it sees the same after two histories that differ in its own updates only. In
selections of the other kinds every client sees the same. These are the selections that there are:
at every moment of a run, whatever listeners do, a selection is what the updates begun so far make
of a new one. -/
theorem client_sees_others (names : Table Handle) (store : Store) (agenda : List Task)
    {target : Handle} {kind : SelectionKind} (fresh : store.live? target = some (.empty kind)) :
    (∀ client changes,
      (received .crossfilter changes).predicate? (some client) =
        (received .crossfilter (others client changes)).predicate? none) ∧
    (∀ client changes changes', others client changes = others client changes' →
      (received .crossfilter changes).predicate? (some client) =
        (received .crossfilter changes').predicate? (some client)) ∧
    (∀ kind, kind ≠ .crossfilter → ∀ clauses client,
      (Live.selection kind clauses).predicate? client =
        (Live.selection kind clauses).predicate? none) ∧
    Runs names store agenda (store.run names agenda).2 (store.run names agenda).1 [] ∧
    ∀ events after left, Runs names store agenda events after left →
      after.live? target = some (received kind (history target events)) := by
  refine ⟨predicate?_received, fun client changes changes' same => ?_,
    fun _ other => predicate?_of_ne other, runs_run names store agenda,
    fun events after left ran => ?_⟩
  · rw [predicate?_received, predicate?_received, same]
  · rw [ran.live? target, fresh, Option.map_some, received]

/-- A client speaks before and after another source, the second time because a listener does. -/
theorem client_sees_others_of_reaction :
    let names : Table Handle := [("brush", 0)]
    let store : Store := [⟨.empty .crossfilter, [⟨"echo", 0, []⟩]⟩]
    let first : Change := ⟨"a", some "x > 1", .bool true⟩
    let second : Change := ⟨"b", some "y < 2", .bool true⟩
    let reaction : Change := ⟨"a", some "x > 9", .bool false⟩
    store.live? 0 = some (.empty .crossfilter) ∧
    ∃ events after left,
      Runs names store (performing [.update "brush" first, .update "brush" second]) events after
        left ∧
      history 0 events = [first, second, reaction] ∧
      (after.live? 0).bind (·.predicate? none) = some "(y < 2) AND (x > 9)" ∧
      (after.live? 0).bind (·.predicate? (some "a")) = some "(y < 2)" := by
  intro names store first second reaction
  have fresh : store.live? 0 = some (.empty .crossfilter) := rfl
  have bound : names.lookup "brush" = some 0 := rfl
  have hears : ((store.update 0 first).listenersAt 0)[0]? = some ⟨"echo", 0, []⟩ := rfl
  have hearsAgain : ((((store.update 0 first).spend 0 0).update 0 second).listenersAt 0)[0]? =
      some ⟨"echo", 0, []⟩ := rfl
  obtain ⟨events, after, left, ran, updates⟩ :
      ∃ events after left,
        Runs names store (performing [.update "brush" first, .update "brush" second]) events after
          left ∧ history 0 events = [first, second, reaction] := by
    refine ⟨_, _, _, .step (.update bound) (.step (.call [] hears) (.step (.update bound)
      (.step (.call [.update "brush" reaction] hearsAgain) (.step (.update bound) .stop)))), rfl⟩
  have sees := client_sees_others names store
    (performing [.update "brush" first, .update "brush" second]) fresh
  have holds := sees.2.2.2.2 events after left ran
  rw [updates] at holds
  refine ⟨fresh, events, after, left, ran, updates, ?_, ?_⟩
  · rw [holds]
    rfl
  · rw [holds, Option.bind_some, sees.1]
    rfl

end Dashboard
