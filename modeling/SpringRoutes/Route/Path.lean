import SpringRoutes.Text.Blank
import SpringRoutes.Text.Casing
import SpringRoutes.Text.Search

/-!
# `SpringRoutes.Route.Path` — route paths and verbs

A route path is joined from the fragment of a type and the fragment of a method.

## Contents
- `RoutePath.normalize`: a fragment with one leading slash, single slashes inside and none at the
  end; blank fragments and the bare root are empty.
- `RoutePath.join`: the full path of a route; the root path is `/`.
- `RoutePath.segments`: the non-empty pieces of a fragment between slashes.
- `Verb.normalize`: the verb of a route in upper case, `REQUEST` when none is given.
-/

namespace SpringRoutes

open Text

namespace RoutePath

/-- Every run of slashes becomes one slash. -/
def collapse : List Char → List Char
  | [] => []
  | c :: cs =>
    match c, collapse cs with
    | '/', '/' :: r => '/' :: r
    | c, r => c :: r

/-- The text with a slash in front, unless it has one. -/
def withLeadingSlash : List Char → List Char
  | '/' :: r => '/' :: r
  | s => '/' :: s

/-- The text without the slashes at its end. -/
def dropTrailingSlashes (s : List Char) : List Char :=
  (s.reverse.dropWhile (· == '/')).reverse

/-- A fragment with a leading slash, single slashes inside and none at the end. -/
def normalizeChars (fragment : List Char) : List Char :=
  match trim fragment with
  | [] => []
  | c :: cs => dropTrailingSlashes (collapse (withLeadingSlash (c :: cs)))

/-- The normal form of a fragment; a missing one counts as empty. -/
def normalize (fragment : Option String) : String :=
  String.ofList (normalizeChars (fragment.getD "").toList)

/-- The full path made of a type's fragment and a method's fragment. -/
def join (base route : Option String) : String :=
  let full := normalize base ++ normalize route
  if full = "" then "/" else full

/-- The non-empty pieces of a fragment between slashes. -/
def segments (fragment : Option String) : List (List Char) :=
  (splitOn '/' (trim (fragment.getD "").toList)).filter (· ≠ [])

end RoutePath

namespace Verb

/-- The verb of a route that any method reaches. -/
def any : String := "REQUEST"

/-- The verb in upper case without blanks around it; `REQUEST` when nothing is left. -/
def normalize (verb : Option String) : String :=
  let v := String.ofList (upper (trim (verb.getD "").toList))
  if v = "" then Verb.any else v

end Verb

end SpringRoutes
