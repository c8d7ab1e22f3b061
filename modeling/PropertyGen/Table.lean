/-!
Tables in insertion order: a key keeps the place of its first entry and the value of its last.
-/

namespace PropertyGen

abbrev Table (α : Type) := List (String × α)

namespace Table

variable {α : Type}

def get? (table : Table α) (key : String) : Option α :=
  (table.find? fun entry => entry.1 = key).map (·.2)

def keys (table : Table α) : List String := table.map (·.1)

def put : Table α → String → α → Table α
  | [], key, value => [(key, value)]
  | entry :: rest, key, value =>
      if entry.1 = key then (key, value) :: rest else entry :: put rest key value

/-- Puts the entries of the second table into the first one, in order. -/
def merge (table entries : Table α) : Table α :=
  entries.foldl (fun table entry => table.put entry.1 entry.2) table

def ofEntries (entries : List (String × α)) : Table α := merge [] entries

end Table

def distinct {α : Type} [DecidableEq α] : List α → List α
  | [] => []
  | element :: rest => element :: (distinct rest).filter (· ≠ element)

end PropertyGen
