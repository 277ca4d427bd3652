/-!
# Named entries in insertion order

A table of named values that is written in the order in which the names were first given. A
later value for a name takes the place of the earlier one, and the name keeps its position.

## Main definitions

* `Entries`: the table, as the list of its entries
* `Entries.insert`: gives a name a value
* `Entries.names`, `Entries.get?`: the two views of a table

## Main statements

* `Entries.get?_insert`: the value of a name after an insertion
* `Entries.names_insert`: the names after an insertion
-/

namespace SqlSearch

/-- A table of named values, in the order in which the names were first given. -/
abbrev Entries (α : Type) := List (String × α)

namespace Entries

variable {α : Type}

/-- Gives `name` the value `value`: in its place if the name is there, else at the end. -/
def insert (name : String) (value : α) : Entries α → Entries α
  | [] => [(name, value)]
  | (n, v) :: rest =>
    if n = name then (name, value) :: rest else (n, v) :: insert name value rest

/-- The names, in order. -/
def names (entries : Entries α) : List String := entries.map Prod.fst

/-- The value of a name. -/
def get? (name : String) : Entries α → Option α
  | [] => none
  | (n, v) :: rest => if n = name then some v else get? name rest

/-- The table that arises from giving the names their values one after the other. -/
def ofList (pairs : List (String × α)) : Entries α :=
  pairs.foldl (fun entries pair => insert pair.1 pair.2 entries) []

theorem get?_insert (name n : String) (value : α) (entries : Entries α) :
    get? n (insert name value entries) = if n = name then some value else get? n entries := by
  induction entries with
  | nil => simp [insert, get?, eq_comm]
  | cons entry rest ih =>
    obtain ⟨m, v⟩ := entry
    by_cases hm : m = name
    · subst hm
      by_cases hn : m = n
      · subst hn; simp [insert, get?]
      · simp [insert, get?, hn, Ne.symm hn]
    · by_cases hn : m = n
      · subst hn; simp [insert, get?, hm]
      · simp [insert, get?, hm, hn, ih]

theorem names_insert (name : String) (value : α) (entries : Entries α) :
    names (insert name value entries) =
      if name ∈ names entries then names entries else names entries ++ [name] := by
  induction entries with
  | nil => simp [insert, names]
  | cons entry rest ih =>
    obtain ⟨m, v⟩ := entry
    by_cases hm : m = name
    · subst hm; simp [insert, names]
    · have hne : ¬ name = m := fun h => hm h.symm
      simp only [names] at ih
      by_cases hin : name ∈ rest.map Prod.fst <;> simp [insert, names, hm, hne, ih, hin]

end Entries

end SqlSearch
