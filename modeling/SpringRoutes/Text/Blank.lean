import SpringRoutes.Text.Ranges

/-!
# `SpringRoutes.Text.Blank` — white space and trimming

## Contents
- `isBlank`: the white space characters of Unicode together with the four ASCII separators
  `U+001C` to `U+001F`.
- `trimStart`, `trimEnd`, `trim`: text without the blanks at its start, its end, or both.
-/

namespace SpringRoutes.Text

/-- The code points that count as white space. -/
def blankRanges : Ranges :=
  [(0x9, 0xd), (0x1c, 0x20), (0x85, 0x85), (0xa0, 0xa0), (0x1680, 0x1680), (0x2000, 0x200a),
   (0x2028, 0x2029), (0x202f, 0x202f), (0x205f, 0x205f), (0x3000, 0x3000)]

/-- Whether `c` is white space. -/
def isBlank (c : Char) : Bool :=
  blankRanges.contains c.toNat

/-- `s` without the blanks at its start. -/
def trimStart (s : List Char) : List Char :=
  s.dropWhile isBlank

/-- `s` without the blanks at its end. -/
def trimEnd (s : List Char) : List Char :=
  (s.reverse.dropWhile isBlank).reverse

/-- `s` without the blanks at either end. -/
def trim (s : List Char) : List Char :=
  trimEnd (trimStart s)

end SpringRoutes.Text
