/-!
# `SpringRoutes.Ignore.Glob` — wildcard patterns

In a pattern `*` stands for any text, slashes included, `?` for any character and `[...]` for one
character of a class; a bracket that is never closed stands for itself.

## Contents
- `Glob.Item`, `Glob.parse`: the parts of a pattern.
- `Glob.matchItems`, `Glob.isMatch`: whether a pattern covers a whole text.
-/

namespace SpringRoutes

namespace Glob

/-- A set of characters in brackets: single intervals, possibly complemented. -/
structure CharClass where
  negated : Bool
  intervals : List (Char × Char)
  deriving Repr, DecidableEq

/-- Whether the class holds a character. -/
def CharClass.contains (k : CharClass) (c : Char) : Bool :=
  k.negated != k.intervals.any fun i => decide (i.1 ≤ c) && decide (c ≤ i.2)

/-- A part of a pattern. -/
inductive Item
  | star
  | anyChar
  | literal (c : Char)
  | oneOf (k : CharClass)
  deriving Repr, DecidableEq

/-- The text between brackets, given what follows the opening one, and the pattern after them. A
    closing bracket right at the start, or right after a `!`, belongs to the class. -/
def bracketBody? (s : List Char) : Option (List Char × List Char) :=
  let (bang, r) := match s with
    | '!' :: r => (['!'], r)
    | r => ([], r)
  let (first, r) := match r with
    | ']' :: r => ([']'], r)
    | r => ([], r)
  match r.dropWhile (· ≠ ']') with
  | ']' :: rest => some (bang ++ first ++ r.takeWhile (· ≠ ']'), rest)
  | _ => none

/-- The pieces of a class body around the hyphens that form ranges. Such a hyphen has at least
    `need` characters of the current piece before it and is not looked for right after another one;
    `piece` is the current piece, reversed. -/
def rangePieces (need : Nat) (piece : List Char) : List Char → List (List Char)
  | [] => [piece.reverse]
  | c :: r =>
    if c = '-' ∧ need ≤ piece.length then piece.reverse :: rangePieces 2 [] r
    else rangePieces need (c :: piece) r

/-- A piece that is empty because the body ends with a hyphen gives that hyphen to the piece before
    it. -/
def closePieces : List (List Char) → List (List Char)
  | [] => []
  | [p] => [p]
  | [p, []] => [p ++ ['-']]
  | p :: ps => p :: closePieces ps

/-- A member of a class, or the hyphen between the ends of a range. -/
inductive Token
  | member (c : Char)
  | hyphen
  deriving Repr, DecidableEq

/-- The tokens of a class from its pieces. A range whose ends are in the wrong order vanishes with
    both ends. -/
def joinPieces : List (List Char) → List Token
  | [] => []
  | [p] => p.map .member
  | p :: ps =>
    match p.getLast?, joinPieces ps with
    | some a, .member b :: r =>
      if b < a then p.dropLast.map .member ++ r
      else p.map .member ++ .hyphen :: .member b :: r
    | _, r => p.map .member ++ r

/-- The intervals that tokens denote; a hyphen with nothing before it is a member. -/
def tokenIntervals : List Token → List (Char × Char)
  | [] => []
  | .member a :: .hyphen :: .member b :: r => (a, b) :: tokenIntervals r
  | .member a :: r => (a, a) :: tokenIntervals r
  | .hyphen :: r => ('-', '-') :: tokenIntervals r

/-- The class with the given body. An exclamation mark at the start of what is left of it
    complements the rest. -/
def CharClass.ofBody (body : List Char) : CharClass :=
  let need := if body.head? = some '!' then 2 else 1
  match joinPieces (closePieces (rangePieces need [] body)) with
  | .member '!' :: r => ⟨true, tokenIntervals r⟩
  | r => ⟨false, tokenIntervals r⟩

/-- The parts of a pattern; stars in a row count once. -/
def parseWithin : Nat → List Char → List Item
  | 0, _ => []
  | _ + 1, [] => []
  | fuel + 1, '*' :: r => .star :: parseWithin fuel (r.dropWhile (· == '*'))
  | fuel + 1, '?' :: r => .anyChar :: parseWithin fuel r
  | fuel + 1, '[' :: r =>
    match bracketBody? r with
    | some (body, rest) => .oneOf (.ofBody body) :: parseWithin fuel rest
    | none => .literal '[' :: parseWithin fuel r
  | fuel + 1, c :: r => .literal c :: parseWithin fuel r

/-- The parts of a pattern. -/
def parse (pattern : List Char) : List Item :=
  parseWithin pattern.length pattern

/-- Whether an item other than a star covers a character. -/
def Item.accepts : Item → Char → Bool
  | .star, _ => false
  | .anyChar, _ => true
  | .literal a, c => a == c
  | .oneOf k, c => k.contains c

/-- Whether some suffix of `s`, `s` itself and the empty one included, satisfies `p`. -/
def anySuffix (p : List Char → Bool) : List Char → Bool
  | [] => p []
  | c :: r => p (c :: r) || anySuffix p r

/-- Whether the items cover the whole text. -/
def matchItems : List Item → List Char → Bool
  | [], s => s.isEmpty
  | .star :: p, s => anySuffix (matchItems p) s
  | _ :: _, [] => false
  | i :: p, c :: r => i.accepts c && matchItems p r

/-- Whether the pattern covers the whole text. -/
def isMatch (pattern text : List Char) : Bool :=
  matchItems (parse pattern) text

end Glob

end SpringRoutes
