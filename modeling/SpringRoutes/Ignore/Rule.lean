import SpringRoutes.Ignore.Glob
import SpringRoutes.Text.Blank
import SpringRoutes.Text.Search

/-!
# `SpringRoutes.Ignore.Rule` — ignore rules

## Contents
- `IgnoreRule`, `IgnoreRule.parse?`: a rule and the pattern line that it is written as.
- `IgnoreRule.appliesTo`: whether a rule concerns a path.
- `IgnoreRule.ofLines`, `ignores`: rule lists, in which the last rule that applies decides.
-/

namespace SpringRoutes

open Text

/-- One pattern of an ignore file. -/
structure IgnoreRule where
  /-- The wildcard pattern, without slashes around it. -/
  glob : List Char
  /-- Whether the rule takes paths back in. -/
  negate : Bool := false
  /-- Whether the rule concerns directories only. -/
  dirsOnly : Bool := false
  /-- Whether the pattern is matched against the whole path instead of its segments. -/
  rooted : Bool := false
  deriving Repr, DecidableEq

namespace IgnoreRule

/-- The rule that a line writes. Blank lines and comments write none. -/
def parse? (line : List Char) : Option IgnoreRule :=
  match trim line with
  | [] => none
  | '#' :: _ => none
  | text =>
    let body := text.dropWhile (· == '!')
    let core := (body.reverse.dropWhile (· == '/')).reverse
    match core.dropWhile (· == '/') with
    | [] => none
    | glob => some
      { glob := glob
        negate := text.head? = some '!'
        dirsOnly := body.getLast? = some '/'
        rooted := core.contains '/' }

/-- Whether the rule concerns a path relative to the root of the project. -/
def appliesTo (rule : IgnoreRule) (path : List Char) (isDir : Bool) : Bool :=
  if rule.dirsOnly && !isDir then false
  else if rule.rooted then
    Glob.isMatch rule.glob path || (afterLiteral (rule.glob ++ ['/']) path).isSome
  else (splitOn '/' path).any (Glob.isMatch rule.glob)

/-- The verdict about a path after one more rule. -/
def next (path : List Char) (isDir : Bool) (verdict : Bool) (r : IgnoreRule) : Bool :=
  if r.appliesTo path isDir then !r.negate else verdict

/-- The rules that lines write. -/
def ofLines (lines : List (List Char)) : List IgnoreRule :=
  lines.filterMap parse?

end IgnoreRule

/-- Whether the rules ignore a path; the last rule that applies decides. -/
def ignores (rules : List IgnoreRule) (path : List Char) (isDir : Bool) : Bool :=
  rules.foldl (IgnoreRule.next path isDir) false

end SpringRoutes
