/-!
# `SpringRoutes.Text.Utf8` — UTF-8 bytes that may be ill-formed

## Contents
- `Utf8.head`: the character at the start of bytes, or what is wrong there.
- `Utf8.decode`: the text of bytes, or the first fault.
- `Utf8.decodeLossy`: the text of bytes without the ill-formed ones.
-/

namespace SpringRoutes

namespace Utf8

/-- What can be wrong at the start of bytes. -/
inductive Reason
  | start
  | continuation
  | truncated
  deriving Repr, DecidableEq

/-- The wording of a reason. -/
def Reason.message : Reason → String
  | .start => "invalid start byte"
  | .continuation => "invalid continuation byte"
  | .truncated => "unexpected end of data"

/-- A character and how many bytes follow its first one, or a fault and how many bytes after the
    first one it covers. -/
inductive Head
  | char (c : Char) (more : Nat)
  | bad (reason : Reason) (more : Nat)
  deriving Repr, DecidableEq

/-- Whether a byte continues a character. -/
def isTail (b : Nat) : Bool :=
  decide (0x80 ≤ b) && decide (b < 0xc0)

/-- Whether `b` may follow the first byte `a` of a character of three or four bytes. -/
def isSecond (a b : Nat) : Bool :=
  if a = 0xe0 then decide (0xa0 ≤ b) && decide (b < 0xc0)
  else if a = 0xed then decide (0x80 ≤ b) && decide (b < 0xa0)
  else if a = 0xf0 then decide (0x90 ≤ b) && decide (b < 0xc0)
  else if a = 0xf4 then decide (0x80 ≤ b) && decide (b < 0x90)
  else isTail b

/-- The character of the first byte `a` and the bytes after it. -/
def head (a : Nat) (rest : List Nat) : Head :=
  if a < 0x80 then .char (Char.ofNat a) 0
  else if a < 0xc2 ∨ 0xf5 ≤ a then .bad .start 0
  else if a < 0xe0 then
    match rest with
    | [] => .bad .truncated 0
    | b :: _ =>
      if isTail b then .char (Char.ofNat ((a - 0xc0) * 64 + (b - 0x80))) 1 else .bad .continuation 0
  else
    match rest with
    | [] => .bad .truncated 0
    | b :: rest =>
      if isSecond a b then
        match rest with
        | [] => .bad .truncated 1
        | c :: rest =>
          if isTail c then
            if a < 0xf0 then
              .char (Char.ofNat ((a - 0xe0) * 4096 + (b - 0x80) * 64 + (c - 0x80))) 2
            else
              match rest with
              | [] => .bad .truncated 2
              | d :: _ =>
                if isTail d then
                  .char (Char.ofNat ((a - 0xf0) * 262144 + (b - 0x80) * 4096 + (c - 0x80) * 64
                    + (d - 0x80))) 3
                else .bad .continuation 2
          else .bad .continuation 1
      else .bad .continuation 0

/-- The first fault of ill-formed bytes: its place, its first byte, the number of bytes it covers
    and what is wrong. -/
structure Fault where
  position : Nat
  byte : Nat
  size : Nat
  reason : Reason
  deriving Repr, DecidableEq

/-- The wording of a fault. -/
def Fault.message (f : Fault) : String :=
  let place :=
    if f.size = 1 then
      let digits := Nat.toDigits 16 f.byte
      "byte 0x" ++ String.ofList (List.replicate (2 - digits.length) '0' ++ digits)
        ++ " in position " ++ toString f.position
    else "bytes in position " ++ toString f.position ++ "-" ++ toString (f.position + f.size - 1)
  "'utf-8' codec can't decode " ++ place ++ ": " ++ f.reason.message

/-- The text of bytes of which the first `covered` belong to the character before, where `position`
    bytes precede them. -/
def decodeFrom (position covered : Nat) : List Nat → Except Fault (List Char)
  | [] => .ok []
  | b :: rest =>
    match covered with
    | n + 1 => decodeFrom (position + 1) n rest
    | 0 =>
      match head b rest with
      | .char c more => (decodeFrom (position + 1) more rest).map (c :: ·)
      | .bad reason more => .error ⟨position, b, more + 1, reason⟩

/-- The text of bytes, or the first fault. -/
def decode (bytes : List Nat) : Except Fault (List Char) :=
  decodeFrom 0 0 bytes

/-- The text of bytes without those that a fault covers. -/
def decodeLossyFrom (covered : Nat) : List Nat → List Char
  | [] => []
  | b :: rest =>
    match covered with
    | n + 1 => decodeLossyFrom n rest
    | 0 =>
      match head b rest with
      | .char c more => c :: decodeLossyFrom more rest
      | .bad _ more => decodeLossyFrom more rest

/-- The text of bytes without the ill-formed ones. -/
def decodeLossy (bytes : List Nat) : List Char :=
  decodeLossyFrom 0 bytes

/-- The bytes of one character. -/
def encodeChar (c : Char) : List Nat :=
  let n := c.toNat
  if n < 0x80 then [n]
  else if n < 0x800 then [0xc0 + n / 64, 0x80 + n % 64]
  else if n < 0x10000 then [0xe0 + n / 4096, 0x80 + n / 64 % 64, 0x80 + n % 64]
  else [0xf0 + n / 262144, 0x80 + n / 4096 % 64, 0x80 + n / 64 % 64, 0x80 + n % 64]

/-- The bytes of a text. -/
def encode (s : List Char) : List Nat :=
  s.flatMap encodeChar

end Utf8

end SpringRoutes
