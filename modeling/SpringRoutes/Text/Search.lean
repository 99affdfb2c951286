/-!
# `SpringRoutes.Text.Search` — recognisers over characters

The small readers from which the recognisers of annotations and headers are put together. Each
reads from the start of a text, by recursion on the text, and gives back what it found.

## Contents
- `afterLiteral`: what follows a fixed text.
- `splitAtFirst`: the text around the first occurrence of a character.
- `firstMatch`: the leftmost place where a recogniser succeeds.
- `splitOn`: the pieces between separators.
-/

namespace SpringRoutes.Text

/-- What follows `lit` in `s`, when `s` starts with `lit`. -/
def afterLiteral : List Char → List Char → Option (List Char)
  | [], s => some s
  | _ :: _, [] => none
  | l :: ls, c :: cs => if l = c then afterLiteral ls cs else none

/-- The text before and after the first `q` of `s`. -/
def splitAtFirst (q : Char) : List Char → Option (List Char × List Char)
  | [] => none
  | c :: cs =>
    if c = q then some ([], cs)
    else (splitAtFirst q cs).map fun r => (c :: r.1, r.2)

/-- The result of `p` at the leftmost place of `s` where it succeeds, the end of `s` included. The
    recogniser is told the character before that place; `before` is the one before `s`. -/
def firstMatch {α : Type} (p : Option Char → List Char → Option α) :
    Option Char → List Char → Option α
  | before, [] => p before []
  | before, c :: cs =>
    match p before (c :: cs) with
    | some a => some a
    | none => firstMatch p (some c) cs

/-- The pieces of `s` between the separators `sep`; never empty. -/
def splitOn (sep : Char) : List Char → List (List Char)
  | [] => [[]]
  | c :: cs =>
    if c = sep then [] :: splitOn sep cs
    else match splitOn sep cs with
      | [] => [[c]]
      | p :: ps => (c :: p) :: ps

theorem afterLiteral_append (lit s : List Char) : afterLiteral lit (lit ++ s) = some s := by
  induction lit with
  | nil => rfl
  | cons l ls ih => simp [afterLiteral, ih]

theorem eq_append_of_afterLiteral {lit s r : List Char} (h : afterLiteral lit s = some r) :
    s = lit ++ r := by
  induction lit generalizing s with
  | nil => simpa [afterLiteral] using h
  | cons l ls ih =>
    cases s with
    | nil => simp [afterLiteral] at h
    | cons c cs =>
      by_cases hc : l = c
      · simp only [afterLiteral, hc, if_true] at h
        simp [hc, ih h]
      · simp [afterLiteral, hc] at h

theorem splitOn_ne_nil (sep : Char) (s : List Char) : splitOn sep s ≠ [] := by
  cases s with
  | nil => simp [splitOn]
  | cons c cs =>
    simp only [splitOn]
    split
    · simp
    · split <;> simp

/-- A text that starts with what is not dropped stays as it is. -/
theorem dropWhile_of_head? {p : Char → Bool} {s : List Char} (h : ∀ c ∈ s.head?, p c = false) :
    s.dropWhile p = s := by
  cases s with
  | nil => rfl
  | cons c s => exact List.dropWhile_cons_of_neg (by simp [h c rfl])

end SpringRoutes.Text
