import SpringRoutes.Text.Printable

/-!
# `SpringRoutes.Text.Quoted` — quoted text in messages

A text in a message stands between single quotes, or between double quotes when it holds a single
quote and no double one. What cannot be shown is escaped by its code point.

## Contents
- `quotedText`: a text as messages show it.
-/

namespace SpringRoutes

namespace Text

/-- The lower-case hexadecimal digits of `n`, filled up with zeros to the given width. -/
def hexPadded (width n : Nat) : List Char :=
  let ds := Nat.toDigits 16 n
  List.replicate (width - ds.length) '0' ++ ds

/-- One character of a text between the quotes `q`. -/
def quotedChar (q c : Char) : List Char :=
  if c = q ∨ c = '\\' then ['\\', c]
  else if c = '\t' then ['\\', 't']
  else if c = '\n' then ['\\', 'n']
  else if c = '\r' then ['\\', 'r']
  else if isPrintable c then [c]
  else if c.toNat < 0x100 then '\\' :: 'x' :: hexPadded 2 c.toNat
  else if c.toNat < 0x10000 then '\\' :: 'u' :: hexPadded 4 c.toNat
  else '\\' :: 'U' :: hexPadded 8 c.toNat

/-- A text as messages show it. -/
def quotedText (s : String) : String :=
  let cs := s.toList
  let q := if cs.contains '\'' && !cs.contains '"' then '"' else '\''
  String.ofList (q :: cs.flatMap (quotedChar q) ++ [q])

end Text

end SpringRoutes
