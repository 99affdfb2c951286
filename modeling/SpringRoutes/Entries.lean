/-!
# `SpringRoutes.Entries` — values by name

Directories, stores, JSON objects and tables of interfaces are lists of named values in which the
first value of a name counts.

## Contents
- `Entries.put`: giving a name a value.
- `Entries.drop`: dropping the values of a name.
-/

namespace SpringRoutes

namespace Entries

variable {α : Type}

/-- Give a name a value: in place when the name is there, else at the end. -/
def put : List (String × α) → String → α → List (String × α)
  | [], name, v => [(name, v)]
  | (n, u) :: rest, name, v => if n = name then (n, v) :: rest else (n, u) :: put rest name v

/-- The entries without those of a name. -/
def drop (es : List (String × α)) (name : String) : List (String × α) :=
  es.filter fun e => e.1 ≠ name

end Entries

end SpringRoutes
