/-!
# Entries in ascending order of their names

The members of JSON objects, cookies and the headers of a written response are kept in ascending order, each name once,
by putting every new entry at its place.
-/

namespace Understudy

namespace Ascending

variable {α : Type}

/-- Puts an entry at its place; an old entry of the name is dropped. -/
def insert (name : String) (value : α) : List (String × α) → List (String × α)
  | [] => [(name, value)]
  | (n, v) :: rest =>
    if name < n then (name, value) :: (n, v) :: rest
    else if name == n then (name, value) :: rest
    else (n, v) :: insert name value rest

/-- The entries in order; of a name given twice the last value counts. -/
def sort (entries : List (String × α)) : List (String × α) :=
  entries.foldl (fun sorted (n, v) => insert n v sorted) []

end Ascending

end Understudy
