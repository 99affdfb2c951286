import SpringRoutes.Text.Blank
import SpringRoutes.Text.Search
import SpringRoutes.Text.Word

/-!
# `SpringRoutes.Outline.Header` — type headers and method signatures

## Contents
- `TypeHeader.parse?`: kind, name and contract of the type that a line declares.
- `methodName?`: the method that a line declares or calls first.
-/

namespace SpringRoutes

open Text

/-- The kinds of types that sources declare. -/
inductive TypeKind
  | ofClass
  | ofInterface
  deriving Repr, DecidableEq

/-- The declaration of a type: its kind and name, and the simple names of the type that it
    implements (a class) or extends (an interface). -/
structure TypeHeader where
  kind : TypeKind
  name : String
  implemented : Option String
  extended : Option String
  deriving Repr, DecidableEq

/-! ## Type headers -/

/-- The modifiers that may precede the keyword of a type. -/
def typeModifiers : List String :=
  ["public", "protected", "private", "abstract", "final", "static", "sealed", "non-sealed",
   "strictfp"]

/-- What follows the word `w` and at least one blank. -/
def afterKeyword? (w : String) (s : List Char) : Option (List Char) :=
  match afterLiteral w.toList s with
  | some (c :: r) => if isBlank c then some (trimStart r) else none
  | _ => none

/-- What follows one modifier at the start of `s`. -/
def afterModifier? (s : List Char) : Option (List Char) :=
  typeModifiers.findSome? (afterKeyword? · s)

theorem length_trimStart_le (s : List Char) : (trimStart s).length ≤ s.length :=
  (List.dropWhile_sublist _).length_le

theorem length_afterKeyword? {w : String} {s r : List Char} (h : afterKeyword? w s = some r) :
    r.length < s.length := by
  unfold afterKeyword? at h
  split at h
  · next c t ht =>
    have hs := congrArg List.length (eq_append_of_afterLiteral ht)
    have ht := length_trimStart_le t
    split at h
    · simp only [List.length_append, List.length_cons, Option.some.injEq] at hs h
      subst h
      omega
    · simp at h
  · simp at h

theorem length_afterModifier? {s r : List Char} (h : afterModifier? s = some r) :
    r.length < s.length := by
  obtain ⟨w, _, hw⟩ := List.exists_of_findSome?_eq_some h
  exact length_afterKeyword? hw

/-- What follows all modifiers at the start of `s`. -/
def dropModifiers (s : List Char) : List Char :=
  match _h : afterModifier? s with
  | some r => dropModifiers r
  | none => s
termination_by s.length
decreasing_by exact length_afterModifier? _h

/-- The identifier at the start of `s`, and what follows it. -/
def identifier? (s : List Char) : Option (List Char × List Char) :=
  match s with
  | c :: _ =>
    if isIdentStart c then some (s.takeWhile isIdentPart, s.dropWhile isIdentPart) else none
  | [] => none

/-- The type that a line declares with the given keyword, and the text after its name. -/
def declared? (keyword : String) (line : List Char) : Option (List Char × List Char) :=
  (afterKeyword? keyword (dropModifiers line)).bind identifier?

/-- Whether `c` can stand in a dotted name. -/
def isNamePart (c : Char) : Bool :=
  isIdentPart c || c == '.'

/-- The dotted name after a clause keyword at the start of `s`. -/
def clauseHere? (keyword : String) (before : Option Char) (s : List Char) : Option (List Char) :=
  if opensWord before then
    match (afterKeyword? keyword s).map (·.takeWhile isNamePart) with
    | some (c :: cs) => some (c :: cs)
    | _ => none
  else none

/-- The dotted name after the first occurrence of a clause keyword. -/
def clause? (keyword : String) (s : List Char) : Option (List Char) :=
  firstMatch (clauseHere? keyword) none s

/-- The last component of a dotted name. -/
def simpleName (name : List Char) : String :=
  String.ofList ((splitOn '.' name).getLast (splitOn_ne_nil _ _))

/-- The type that a line declares. An interface is looked for first. -/
def TypeHeader.parse? (line : List Char) : Option TypeHeader :=
  match declared? "interface" line with
  | some (name, rest) =>
    some ⟨.ofInterface, String.ofList name, none, (clause? "extends" rest).map simpleName⟩
  | none =>
    match declared? "class" line with
    | some (name, rest) =>
      some ⟨.ofClass, String.ofList name, (clause? "implements" rest).map simpleName, none⟩
    | none => none

/-! ## Method signatures -/

/-- Keywords that a parenthesis may follow without a method being declared. -/
def notMethods : List String :=
  ["if", "for", "while", "switch", "catch", "return", "new", "class", "interface", "enum",
   "synchronized"]

/-- The identifier at the start of `s`, when a parenthesis follows it after optional blanks. -/
def called? (s : List Char) : Option String :=
  match identifier? s with
  | some (name, rest) =>
    match trimStart rest with
    | '(' :: _ => some (String.ofList name)
    | _ => none
  | none => none

/-- The identifier that follows a blank at the start of a text and precedes a parenthesis. -/
def calledHere? : List Char → Option String
  | c :: r => if isBlank c then called? r else none
  | [] => none

/-- The first identifier on the line that follows a blank and precedes a parenthesis. -/
def firstCalled? (line : List Char) : Option String :=
  firstMatch (fun _ s => calledHere? s) none line

/-- The method name on a line; keywords are none. -/
def methodName? (line : List Char) : Option String :=
  (firstCalled? line).filter fun name => !notMethods.contains name

end SpringRoutes
