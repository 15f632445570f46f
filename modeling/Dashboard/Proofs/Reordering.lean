import Dashboard.Proofs.Alike
import Dashboard.Proofs.Identity
import Dashboard.Proofs.Rearranging
import Dashboard.Proofs.Residue
/-!
# The order of keys does not count

A document and one in which the keys of layout objects are permuted are both accepted or both
refused. If they are accepted, they submit the same statements, names stand for the same in the end,
and the trees are the same up to the order of attributes and options.
-/
namespace Dashboard

/-! ## Names after binding -/

namespace Scope

theorem Sound.bound_iff_live {scope : Scope} (sound : scope.Sound) (name : String) :
    name ∈ scope.names.names ↔ (scope.live? name).isSome := by
  rw [Table.mem_names]
  unfold live? handle?
  cases bound : scope.names.lookup name with
  | none => simp
  | some handle =>
    have inside := sound.lt bound
    simp [Store.live?, List.getElem?_eq_getElem inside]

/-- Names stand for what they stood for, or for what the first reference to them says. -/
theorem Sound.live?_bindAll {scope : Scope} (sound : scope.Sound) (refs : List Reference)
    (name : String) :
    (scope.bindAll refs).live? name =
      (scope.live? name).or ((refs.find? (·.name = name)).map (·.initial)) := by
  cases bound : scope.handle? name with
  | none =>
    have unknown : scope.live? name = none := by
      rw [live?, bound, Option.bind_none]
    rw [live?_bindAll_of_free bound, unknown, Option.none_or]
  | some handle =>
    -- in a sound scope a bound name has a live value, which binding leaves alone
    have extended := scope.extends_bindAll refs
    have known : (scope.live? name).isSome := by
      rw [← sound.bound_iff_live, Table.mem_names]
      exact Option.isSome_iff_exists.2 ⟨handle, bound⟩
    obtain ⟨live, known⟩ := Option.isSome_iff_exists.1 known
    rw [known, Option.some_or]
    rw [live?, bound, Option.bind_some] at known
    rw [live?, extended.handle bound, Option.bind_some, extended.live known]

end Scope

/-! ## Accepted documents -/

theorem gives_of_accepted {session : Session} {root : Fields} {document : Document Handle}
    (accepted : (session.interpretDocument (.object root)).outcome = .ok document) :
    ∃ statements,
      Source.DataGives session.rules.catalog.formats (root.valueAt "data") statements := by
  rw [Session.outcome_interpretDocument, Interpreting.runIn_document] at accepted
  cases loaded : Source.materializations session.rules.catalog.formats (root.valueAt "data") with
  | error e =>
    rw [loaded] at accepted
    cases accepted
  | ok work => exact ⟨_, Source.dataGives_iff.2 ⟨work, loaded, rfl⟩⟩

/-- What an accepted document leaves behind. -/
theorem accepted_leaves {session : Session} (sound : session.scope.Sound) {root : Fields}
    {statements : List String} {document : Document Handle}
    (gives : Source.DataGives session.rules.catalog.formats (root.valueAt "data") statements)
    (accepted : (session.interpretDocument (.object root)).outcome = .ok document) :
    let answered := session.interpretDocument (.object root)
    let visits := Visit.ofParams session.rules.catalog.params (root.valueAt "params") ++
      Visit.ofNode session.rules (layoutOf root)
    answered.statements = statements ∧ answered.session.scope.Sound ∧
      ∀ name, answered.session.scope.live? name =
        (session.scope.live? name).or (Visit.meaning? visits name) := by
  intro answered visits
  obtain ⟨-, scope, same⟩ := interpretDocument_of_loaded session gives
  obtain ⟨read, done⟩ := same.ok_iff.2 ⟨document, accepted⟩
  have references := (along_readDocument session.rules root).references_eq done
  refine ⟨?_, ?_, fun name => ?_⟩
  · exact statements_interpretDocument gives
  · rw [scope]
    exact sound.bindAll _
  · rw [scope, sound.live?_bindAll, references]
    rfl

/-- The order of the keys in layout objects does not count. The rewritten document is accepted
exactly if the document is. Then both submit the same statements, the same names are bound and
stand for the same, and the trees, each of which mirrors its own document, are one tree up to the
order of attributes and options, with references of one name in corresponding places. Scopes
of sessions are sound by `Session.sound_afterAll`. -/
theorem key_order_irrelevant (session : Session) (sound : session.scope.Sound)
    {root root' : Json} (reordered : session.rules.catalog.Reordered root root') :
    let answered := session.interpretDocument root
    let answered' := session.interpretDocument root'
    let scope := answered.session.scope
    let scope' := answered'.session.scope
    ((∃ document, answered.outcome = .ok document) ↔
      ∃ document', answered'.outcome = .ok document') ∧
    ∀ document document', answered.outcome = .ok document →
      answered'.outcome = .ok document' →
      answered.statements = answered'.statements ∧
      (∀ name, name ∈ scope.names.names ↔ name ∈ scope'.names.names) ∧
      (∀ name, scope.live? name = scope'.live? name) ∧
      document.metadata = document'.metadata ∧
      document.layout.Rearranged (SameName scope.Binds scope'.Binds) document'.layout ∧
      ∃ fields fields', root = .object fields ∧ root' = .object fields' ∧
        document.Mirrors scope.Binds session.rules fields ∧
        document'.Mirrors scope'.Binds session.rules fields' := by
  intro answered answered' scope scope'
  have reports : Reports (Visit.ofDocument session.rules root) answered.outcome :=
    reports_document _ _ _ _
  have reports' : Reports (Visit.ofDocument session.rules root') answered'.outcome :=
    reports_document _ _ _ _
  cases root with
  | object fields =>
    obtain ⟨fields', rfl, sections, layout⟩ := reordered.document
    have alike := Visit.alike_ofDocument sections layout
    refine ⟨?_, fun document document' accepted accepted' => ?_⟩
    · rw [reports.ok_iff, reports'.ok_iff, alike.faultless]
    obtain ⟨statements, gives⟩ := gives_of_accepted accepted
    have gives' := gives
    rw [Fields.valueAt_congr (sections "data" (by decide))] at gives'
    obtain ⟨submitted, sound_after, live⟩ := accepted_leaves sound gives accepted
    obtain ⟨submitted', sound_after', live'⟩ := accepted_leaves sound gives' accepted'
    have same (name : String) : scope.live? name = scope'.live? name := by
      rw [live, live', (Visit.alike_ofRest sections layout).meaning]
    have mirrors := mirrors_of_accepted accepted
    have mirrors' := mirrors_of_accepted accepted'
    refine ⟨submitted.trans submitted'.symm, fun name => ?_, same, ?_, ?_, fields, fields', rfl,
      rfl, mirrors, mirrors'⟩
    · rw [sound_after.bound_iff_live, sound_after'.bound_iff_live, same]
    · rw [mirrors.metadata, mirrors'.metadata, sections "meta" (by decide)]
    · exact rearranged_of_mirrors _ _ _ _ layout mirrors.layout mirrors'.layout
  | _ =>
    cases reordered
    exact ⟨.rfl, fun _ _ accepted => absurd accepted nofun⟩

/-- A name is an attribute's and a filter's. All three objects have their keys swapped. -/
theorem key_order_irrelevant_of_swaps :
    let session : Session := { rules := { catalog := Standard.catalog } }
    let data : Fields := [("from", .string "t"), ("filterBy", .string "$brush")]
    let data' : Fields := [("filterBy", .string "$brush"), ("from", .string "t")]
    let mark : Fields := [("mark", .string "dot"), ("data", .object data)]
    let mark' : Fields := [("data", .object data'), ("mark", .string "dot")]
    let root : Fields := [("plot", .array [.object mark]), ("width", .string "$brush")]
    let root' : Fields := [("width", .string "$brush"), ("plot", .array [.object mark'])]
    let answered := session.interpretDocument (.object root)
    let answered' := session.interpretDocument (.object root')
    session.scope.Sound ∧ session.rules.catalog.Reordered (.object root) (.object root') ∧
      ((∃ document, answered.outcome = .ok document) ↔
        ∃ document', answered'.outcome = .ok document') := by
  intro session data data' mark mark' root root' answered answered'
  have data_reordered : ReorderedData (.object data) (.object data') :=
    .object ⟨by decide, .swap _ _ _⟩
  have isMark : Fields.Has mark "mark" := ⟨.string "dot", rfl, nofun⟩
  have mark_reordered : ReorderedEntry (.object mark) (.object mark') :=
    .mark isMark rfl data_reordered ⟨by decide, .swap _ _ _⟩
  have content : Standard.catalog.lenient.content root = .ok (.plot [.object mark]) := rfl
  have reordered : session.rules.catalog.Reordered (.object root) (.object root') :=
    .plot content (.cons mark_reordered .nil) ⟨by decide, .swap _ _ _⟩
  exact ⟨Scope.sound_empty, reordered,
    (key_order_irrelevant session Scope.sound_empty reordered).1⟩

end Dashboard
