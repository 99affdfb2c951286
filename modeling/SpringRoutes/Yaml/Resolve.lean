import SpringRoutes.Yaml.Stamp

/-!
# `SpringRoutes.Yaml.Resolve` — the types of plain scalars

A plain scalar without a tag has the type that its text suggests: `yes` is a truth value, `0x1f` an
integer, `1:30` a number to base sixty.

## Contents
- `Yaml.Tag`: the tags with a meaning.
- `Yaml.implicitTag`: the tag that a text suggests.
-/

namespace SpringRoutes

namespace Yaml

/-- The tags with a meaning. -/
inductive Tag
  | null
  | bool
  | int
  | float
  | binary
  | timestamp
  | omap
  | pairs
  | set
  | str
  | seq
  | map
  | merge
  | defaultValue
  /-- Any other tag. -/
  | unknown
  deriving Repr, DecidableEq

/-- The tag that is written out in full. -/
def Tag.ofText (s : List Char) : Tag :=
  let known : List (String × Tag) :=
    [("null", .null), ("bool", .bool), ("int", .int), ("float", .float), ("binary", .binary),
     ("timestamp", .timestamp), ("omap", .omap), ("pairs", .pairs), ("set", .set), ("str", .str),
     ("seq", .seq), ("map", .map), ("merge", .merge), ("value", .defaultValue)]
  match known.find? fun e => s = ("tag:yaml.org,2002:" ++ e.1).toList with
  | some e => e.2
  | none => .unknown

/-! ## The shapes of numbers -/

/-- What follows an optional sign. -/
def afterSign : List Char → List Char
  | '+' :: r => r
  | '-' :: r => r
  | s => s

/-- Whether `c` is a digit or an underscore. -/
def isDigitOrUnderscore (c : Char) : Bool :=
  c.isDigit || c == '_'

/-- One to two digits of a number below sixty after a colon, and the text after them. A single digit
    is taken where two do not fit. -/
def sixtieth? : List Char → List (List Char)
  | ':' :: a :: b :: r =>
    (if '0' ≤ a ∧ a ≤ '5' ∧ b.isDigit then [r] else []) ++ (if a.isDigit then [b :: r] else [])
  | [':', a] => if a.isDigit then [[]] else []
  | _ => []

/-- Whether `s` is one or more numbers below sixty, each after a colon, before an end that `p`
    accepts. -/
def sixtieths (p : List Char → Bool) : Nat → List Char → Bool
  | 0, _ => false
  | fuel + 1, s => (sixtieth? s).any fun r => p r || sixtieths p fuel r

/-- Whether `s` is an exponent with a sign, or nothing. -/
def isExponentOrNone (s : List Char) : Bool :=
  match s with
  | [] => true
  | e :: sign :: d :: r =>
    (e == 'e' || e == 'E') && (sign == '+' || sign == '-') && (d :: r).all Char.isDigit
  | _ => false

/-- Whether a text is a floating-point number. -/
def isFloat (s : List Char) : Bool :=
  let body := afterSign s
  let afterDigits (t : List Char) : Option (List Char) :=
    match t with
    | c :: r => if c.isDigit then some (r.dropWhile isDigitOrUnderscore) else none
    | [] => none
  let decimal := match afterDigits body with
    | some ('.' :: r) => isExponentOrNone (r.dropWhile isDigitOrUnderscore)
    | _ => false
  let bare := match s with
    | '.' :: r => (afterDigits r).any isExponentOrNone
    | _ => false
  let sixty := match afterDigits body with
    | some r => sixtieths (fun t => match t with
        | '.' :: u => u.all isDigitOrUnderscore
        | _ => false) (r.length + 1) r
    | none => false
  let infinite := body = ".inf".toList || body = ".Inf".toList || body = ".INF".toList
  let nan := s = ".nan".toList || s = ".NaN".toList || s = ".NAN".toList
  decimal || bare || sixty || infinite || nan

/-- Whether `r` is not empty and all its characters satisfy `p`. -/
def isRun (p : Char → Bool) (r : List Char) : Bool :=
  !r.isEmpty && r.all p

/-- Whether a text is an integer. -/
def isInteger (s : List Char) : Bool :=
  match afterSign s with
  | ['0'] => true
  | '0' :: 'b' :: r => isRun (fun c => c == '0' || c == '1' || c == '_') r
  | '0' :: 'x' :: r =>
    isRun (fun c => c.isDigit || ('a' ≤ c && c ≤ 'f') || ('A' ≤ c && c ≤ 'F') || c == '_') r
  | '0' :: r => isRun (fun c => ('0' ≤ c && c ≤ '7') || c == '_') r
  | c :: r =>
    if c.isDigit then
      let rest := r.dropWhile isDigitOrUnderscore
      rest.isEmpty || sixtieths List.isEmpty (rest.length + 1) rest
    else false
  | [] => false

/-! ## The shapes of other scalars -/

/-- Whether a text is a truth value. -/
def isBool (s : List Char) : Bool :=
  ["yes", "Yes", "YES", "no", "No", "NO", "true", "True", "TRUE", "false", "False", "FALSE", "on",
   "On", "ON", "off", "Off", "OFF"].contains (String.ofList s)

/-- Whether a text stands for nothing. -/
def isNull (s : List Char) : Bool :=
  ["~", "null", "Null", "NULL", ""].contains (String.ofList s)

/-- Whether a plain text is a time stamp: a date alone has two digits for month and day. -/
def isStamp (s : List Char) : Bool :=
  (stampParts? s).any fun p => p.isPadded || p.time.isSome

/-! ## The tag of a text -/

/-- The tag that a plain text suggests. -/
def implicitTag (text : List Char) : Tag :=
  let s := withoutFinalBreak text
  if text = ['\n'] then .str
  else if isBool s then .bool
  else if isFloat s then .float
  else if isInteger s then .int
  else if s = ['<', '<'] then .merge
  else if isNull s then .null
  else if isStamp s then .timestamp
  else if s = ['='] then .defaultValue
  else .str

end Yaml

end SpringRoutes
