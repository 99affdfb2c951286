/-!
# `SpringRoutes.Yaml.Base64` — bytes written in base 64

Characters outside the alphabet are skipped, and reading stops at the padding that completes a group
of four.

## Contents
- `Base64.decode?`: the bytes that a text stands for.
-/

namespace SpringRoutes

namespace Base64

/-- The six bits of a character of the alphabet. -/
def value? (c : Char) : Option Nat :=
  if 'A' ≤ c ∧ c ≤ 'Z' then some (c.toNat - 65)
  else if 'a' ≤ c ∧ c ≤ 'z' then some (c.toNat - 71)
  else if '0' ≤ c ∧ c ≤ '9' then some (c.toNat + 4)
  else if c = '+' then some 62
  else if c = '/' then some 63
  else none

/-- The bytes of a text after `place` characters of a group with the bits `left` not yet used, and
    `pads` padding characters since. -/
def decodeFrom (place left pads : Nat) : List Char → Option (List Nat)
  | [] => if place = 0 then some [] else none
  | c :: r =>
    if c = '=' then
      if 2 ≤ place then
        if 4 ≤ place + (pads + 1) then some [] else decodeFrom place left (pads + 1) r
      else decodeFrom place left pads r
    else
      match value? c with
      | none => decodeFrom place left pads r
      | some v =>
        match place with
        | 0 => decodeFrom 1 v 0 r
        | 1 => (decodeFrom 2 (v % 16) 0 r).map ((left * 4 + v / 16) :: ·)
        | 2 => (decodeFrom 3 (v % 4) 0 r).map ((left * 16 + v / 4) :: ·)
        | _ => (decodeFrom 0 0 0 r).map ((left * 64 + v) :: ·)

/-- The bytes that a text stands for; none when its last group is not complete. -/
def decode? (s : List Char) : Option (List Nat) :=
  decodeFrom 0 0 0 s

end Base64

end SpringRoutes
