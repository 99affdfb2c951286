import SpringRoutes.Text.Ranges

/-!
# `SpringRoutes.Text.Lines` — line breaks

## Contents
- `unifyNewlines`: every line break of a file becomes a line feed.
- `lines`: the lines of a text under all Unicode line breaks.
-/

namespace SpringRoutes.Text

/-- A carriage return, alone or before a line feed, becomes a line feed. -/
def unifyNewlines : List Char → List Char
  | [] => []
  | '\r' :: '\n' :: r => '\n' :: unifyNewlines r
  | '\r' :: r => '\n' :: unifyNewlines r
  | c :: r => c :: unifyNewlines r

/-- The characters that end a line. -/
def lineBreaks : Ranges :=
  [(0xa, 0xd), (0x1c, 0x1e), (0x85, 0x85), (0x2028, 0x2029)]

/-- The lines of a text after `current`, the reversed start of a line. A carriage return and a line
    feed end one line together, and no empty line follows the last break. -/
def linesAfter (current : List Char) : List Char → List (List Char)
  | [] => if current.isEmpty then [] else [current.reverse]
  | '\r' :: '\n' :: r => current.reverse :: linesAfter [] r
  | c :: r =>
    if lineBreaks.contains c.toNat then current.reverse :: linesAfter [] r
    else linesAfter (c :: current) r

/-- The lines of a text. -/
def lines (s : List Char) : List (List Char) :=
  linesAfter [] s

end SpringRoutes.Text
