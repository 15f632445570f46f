import Dashboard.Interpreting
import Mathlib.Data.List.Forall2
/-!
# Interpretations in lockstep

Two interpretations are in lockstep if, wherever both start, they do the same and end alike: with
related results, or with errors that differ at most in the fragment that is to blame. So texts that
say the same in different words can be compared, although an error quotes the words.
-/
namespace Dashboard
variable {α β γ δ ι κ : Type} {r : α → β → Prop} {s : γ → δ → Prop}

/-- What is wrong, whichever fragment is to blame. -/
def DocumentError.withoutFragment : DocumentError → DocumentError
  | notJson error => .notJson error
  | unknownFormat _ => .unknownFormat .null
  | unknownParamType _ => .unknownParamType .null
  | wrongPropertyType key _ => .wrongPropertyType key .null
  | notALayout _ => .notALayout .null
  | ambiguousLayout keys _ => .ambiguousLayout keys .null
  | unknownInput _ => .unknownInput .null
  | unknownMark _ => .unknownMark .null
  | unknownLegend _ => .unknownLegend .null
  | unknownInteractor _ => .unknownInteractor .null
  | unknownAttribute _ => .unknownAttribute .null
  | notAPlotEntry _ => .notAPlotEntry .null

/-- Related results, or errors that differ at most in the fragment. -/
inductive EndAlike (r : α → β → Prop) : Except DocumentError α → Except DocumentError β → Prop
  | ok {a : α} {b : β} : r a b → EndAlike r (.ok a) (.ok b)
  | error {e e' : DocumentError} :
      e.withoutFragment = e'.withoutFragment → EndAlike r (.error e) (.error e')

theorem EndAlike.ok_iff {x : Except DocumentError α} {y : Except DocumentError β}
    (h : EndAlike r x y) : (∃ a, x = .ok a) ↔ ∃ b, y = .ok b := by
  cases h with
  | @ok a b _ => exact iff_of_true ⟨a, rfl⟩ ⟨b, rfl⟩
  | error _ => exact iff_of_false nofun nofun

/-- The same context after, and outcomes that are alike. -/
structure Lockstep (r : α → β → Prop) (x : Interpreting α) (y : Interpreting β) : Prop where
  after : ∀ context, (x.runIn context).2 = (y.runIn context).2
  outcome : ∀ context, EndAlike r (x.runIn context).1 (y.runIn context).1

theorem lockstep_refl (x : Interpreting α) : Lockstep (· = ·) x x := by
  refine ⟨fun _ => rfl, fun context => ?_⟩
  cases (x.runIn context).1 with
  | ok a => exact .ok rfl
  | error e => exact .error rfl

theorem lockstep_pure {a : α} {b : β} (related : r a b) : Lockstep r (pure a) (pure b) :=
  ⟨fun _ => rfl, fun _ => .ok related⟩

theorem lockstep_fail {e e' : DocumentError} (same : e.withoutFragment = e'.withoutFragment) :
    Lockstep r (Reader.fail e) (Reader.fail e') :=
  ⟨fun _ => rfl, fun _ => .error same⟩

theorem lockstep_bind {x : Interpreting α} {y : Interpreting β} {f : α → Interpreting γ}
    {g : β → Interpreting δ} (first : Lockstep r x y)
    (next : ∀ a b, r a b → Lockstep s (f a) (g b)) : Lockstep s (x >>= f) (y >>= g) := by
  have step (context : Context) :
      ((x >>= f).runIn context).2 = ((y >>= g).runIn context).2 ∧
        EndAlike s ((x >>= f).runIn context).1 ((y >>= g).runIn context).1 := by
    have after := first.after context
    have outcome := first.outcome context
    rcases ran : x.runIn context with ⟨ends, between⟩
    rcases ran' : y.runIn context with ⟨ends', between'⟩
    rw [ran, ran'] at after outcome
    obtain rfl : between = between' := after
    rw [Interpreting.runIn_bind, Interpreting.runIn_bind, ran, ran']
    cases outcome with
    | ok related => exact ⟨(next _ _ related).after between, (next _ _ related).outcome between⟩
    | error same => exact ⟨rfl, .error same⟩
  exact ⟨fun context => (step context).1, fun context => (step context).2⟩

theorem lockstep_map {x : Interpreting α} {y : Interpreting β} {f : α → γ} {g : β → δ}
    (first : Lockstep r x y) (next : ∀ a b, r a b → s (f a) (g b)) :
    Lockstep s (f <$> x) (g <$> y) := by
  rw [map_eq_pure_bind, map_eq_pure_bind]
  exact lockstep_bind first fun a b related => lockstep_pure (next a b related)

theorem lockstep_mapM {p : ι → κ → Prop} {f : ι → Interpreting α} {g : κ → Interpreting β}
    {is : List ι} {ks : List κ} (items : List.Forall₂ p is ks)
    (each : ∀ i ∈ is, ∀ k, p i k → Lockstep r (f i) (g k)) :
    Lockstep (List.Forall₂ r) (is.mapM f) (ks.mapM g) := by
  induction items with
  | nil => exact lockstep_pure .nil
  | @cons i k is ks related _ ih =>
    have rest := ih fun i inside => each i (List.mem_cons_of_mem _ inside)
    rw [List.mapM_cons, List.mapM_cons]
    refine lockstep_bind (each i List.mem_cons_self k related) fun a b first => ?_
    exact lockstep_bind rest fun as bs others => lockstep_pure (.cons first others)

theorem Lockstep.eq_of_forall₂ {x y : Interpreting (List α)}
    (h : Lockstep (List.Forall₂ (· = ·)) x y) : Lockstep (· = ·) x y := by
  rwa [List.forall₂_eq_eq_eq] at h

end Dashboard
