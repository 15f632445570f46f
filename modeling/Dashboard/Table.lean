/-!
# Tables

A table is a list of named entries whose order shows. A name keeps the place where it first
arrived and the last value written under it.
-/
namespace Dashboard

abbrev Table (α : Type) := List (String × α)

namespace Table
variable {α : Type}

/-- Writes `value` under `name`: in place if the name is there, at the end otherwise. -/
def put : Table α → String → α → Table α
  | [], name, value => [(name, value)]
  | (n, v) :: rest, name, value =>
    if n = name then (n, value) :: rest else (n, v) :: put rest name value

/-- Writes the entries one after another. -/
def putAll (t : Table α) (entries : List (String × α)) : Table α :=
  entries.foldl (fun t e => t.put e.1 e.2) t

def ofList (entries : List (String × α)) : Table α :=
  putAll [] entries

def names (t : Table α) : List String :=
  t.map (·.1)

/-- The entries whose name is not in `reserved`, in their order. -/
def without (t : Table α) (reserved : List String) : Table α :=
  t.filter fun e => !reserved.contains e.1

theorem lookup_cons (e : String × α) (t : Table α) (key : String) :
    List.lookup key (e :: t) = if key = e.1 then some e.2 else t.lookup key := by
  rw [List.lookup_cons]
  by_cases h : key = e.1
  · simp [h]
  · simp [h, beq_false_of_ne h]

theorem mem_names {t : Table α} {name : String} :
    name ∈ t.names ↔ (t.lookup name).isSome := by
  rw [List.lookup_isSome_iff, names, List.mem_map]
  exact exists_congr fun e => and_congr_right fun _ => eq_comm.trans beq_iff_eq.symm

theorem lookup_put (t : Table α) (name : String) (value : α) (key : String) :
    (t.put name value).lookup key = if key = name then some value else t.lookup key := by
  induction t with
  | nil => rw [put, lookup_cons]
  | cons e rest ih =>
    by_cases here : e.1 = name
    · by_cases h : key = name <;> simp [put, lookup_cons, here, h]
    · by_cases h : key = e.1
      · have other : ¬ key = name := fun hn => here (h ▸ hn)
        simp [put, lookup_cons, ← h, other]
      · simp [put, lookup_cons, here, h, ih]

theorem names_put (t : Table α) (name : String) (value : α) :
    (t.put name value).names = if name ∈ t.names then t.names else t.names ++ [name] := by
  induction t with
  | nil => rfl
  | cons e rest ih =>
    by_cases here : e.1 = name
    · simp [put, names, here]
    · have : ¬ name = e.1 := fun h => here h.symm
      simp only [names] at ih
      by_cases h : name ∈ rest.map (·.1) <;> simp_all [put, names]

theorem nodup_names_put {t : Table α} (h : t.names.Nodup) (name : String) (value : α) :
    (t.put name value).names.Nodup := by
  rw [names_put]
  split
  · exact h
  · next absent =>
    refine List.nodup_append.2 ⟨h, by simp, fun a ha b hb => ?_⟩
    rintro rfl
    exact absent (List.mem_singleton.1 hb ▸ ha)

theorem nodup_names_putAll {t : Table α} (h : t.names.Nodup) (entries : List (String × α)) :
    (t.putAll entries).names.Nodup := by
  induction entries generalizing t with
  | nil => exact h
  | cons e entries ih => exact ih (nodup_names_put h e.1 e.2)

end Table

end Dashboard
