import SpringRoutes.Entries
import SpringRoutes.Outline.Basic

/-!
# `SpringRoutes.Table.Index` — interfaces by name

## Contents
- `named`: the outlines of sources that declare a type.
- `interfaceIndex`: the interfaces by declared name, where the first declaration wins.
- `contract?`: the interface that a name stands for.
-/

namespace SpringRoutes

/-- The outlines that declare a type; unreadable sources are missing entries. -/
def named (sources : List (Option Outline)) : List Outline :=
  (sources.filterMap id).filter (·.isNamed)

/-- The interfaces by declared name, in order of first declaration. -/
def interfaceIndex : List Outline → List (String × Outline)
  | [] => []
  | o :: os =>
    if o.isInterface && o.isNamed then
      (o.name, o) :: Entries.drop (interfaceIndex os) o.name
    else interfaceIndex os

/-- The interface that an optional name stands for. -/
def contract? (index : List (String × Outline)) (name : Option String) : Option Outline :=
  name.bind (index.lookup ·)

end SpringRoutes
