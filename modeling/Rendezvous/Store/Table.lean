/-
  Tables of rows with unique keys.

  * `Table.find?` reads the row of a key;
  * `put` overwrites or adds a row, `erase` removes one;
  * `sorted?` lists the rows by their keys;
  * `find?_put_self`, `find?_put_of_ne`, `find?_erase_self`, `find?_erase_of_ne`:
    what the writes do to the rows.
-/

namespace Rendezvous

/-- Rows by key, the first row of a key being the one that counts. -/
abbrev Table (κ ρ : Type) := List (κ × ρ)

namespace Table

variable {κ ρ : Type} [DecidableEq κ]

/-- The row of a key. -/
def find? (key : κ) : Table κ ρ → Option ρ
  | [] => none
  | (k, row) :: table => if k = key then some row else find? key table

/-- A table with a row set: in its place if the key is there, at the end if not. -/
def put (key : κ) (row : ρ) : Table κ ρ → Table κ ρ
  | [] => [(key, row)]
  | (k, old) :: table => if k = key then (k, row) :: table else (k, old) :: put key row table

/-- A table without the rows of a key. -/
def erase (key : κ) (table : Table κ ρ) : Table κ ρ :=
  table.filter fun entry => entry.1 ≠ key

/-- The rows in ascending order of their keys; none where two keys have no order. -/
def sorted? (before? : κ → κ → Option Bool) (table : Table κ ρ) : Option (List ρ) :=
  if table.all fun a => table.all fun b => (before? a.1 b.1).isSome then
    some ((List.mergeSort table fun a b => before? b.1 a.1 ≠ some true).map (·.2))
  else none

theorem find?_put_self (key : κ) (row : ρ) (table : Table κ ρ) :
    find? key (put key row table) = some row := by
  induction table with
  | nil => simp [put, find?]
  | cons entry table ih => by_cases h : entry.1 = key <;> simp [put, find?, h, ih]

theorem find?_put_of_ne {key other : κ} (h : other ≠ key) (row : ρ) (table : Table κ ρ) :
    find? other (put key row table) = find? other table := by
  induction table with
  | nil => simp [put, find?, Ne.symm h]
  | cons entry table ih =>
    by_cases hk : entry.1 = key
    · simp [put, find?, hk, Ne.symm h]
    · by_cases ho : entry.1 = other <;> simp [put, find?, hk, ho, h, ih]

theorem find?_erase_self (key : κ) (table : Table κ ρ) : find? key (erase key table) = none := by
  induction table with
  | nil => rfl
  | cons entry table ih =>
    by_cases h : entry.1 = key <;> simp_all [erase, find?]

theorem find?_erase_of_ne {key other : κ} (h : other ≠ key) (table : Table κ ρ) :
    find? other (erase key table) = find? other table := by
  induction table with
  | nil => rfl
  | cons entry table ih =>
    by_cases hk : entry.1 = key
    · have ho : ¬key = other := Ne.symm h
      simp_all [erase, find?]
    · by_cases ho : entry.1 = other <;> simp_all [erase, find?]

end Table

end Rendezvous
