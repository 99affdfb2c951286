import SpringRoutes.Text.Quoted

/-!
# `SpringRoutes.Yaml.Fault` — what can be wrong with a settings file

A document may be ill-formed as a whole, one of its scalars may claim a type that its text does not
have, or its reader may fail in a way of its own.

## Contents
- `Yaml.DateFault`: why a date or a time does not exist.
- `Yaml.Fault`, `Yaml.Fault.message`: all faults and their wording.
-/

namespace SpringRoutes

open Text

namespace Yaml

/-- Why a date or a time does not exist. -/
inductive DateFault
  | year (n : Nat)
  | month
  | day
  | hour
  | minute
  | second
  /-- An offset of a day or more, as whole days and seconds of a day. -/
  | offset (days : Int) (seconds : Nat)
  deriving Repr, DecidableEq

/-- The wording of a date fault. -/
def DateFault.message : DateFault → String
  | .year n => "year " ++ toString n ++ " is out of range"
  | .month => "month must be in 1..12"
  | .day => "day is out of range for month"
  | .hour => "hour must be in 0..23"
  | .minute => "minute must be in 0..59"
  | .second => "second must be in 0..59"
  | .offset days seconds =>
    let rest := if seconds = 0 then "" else ", seconds=" ++ toString seconds
    "offset must be a timedelta strictly between -timedelta(hours=24) and timedelta(hours=24), "
      ++ "not datetime.timedelta(days=" ++ toString days ++ rest ++ ")."

/-- What can be wrong with a document. -/
inductive Fault
  /-- The document is ill-formed, or a part of it has no meaning. -/
  | document
  /-- A text is no integer to the given base. -/
  | notInteger (base : Nat) (text : String)
  /-- An integer has too many digits. -/
  | longInteger (digits : Nat)
  /-- A text is no number. -/
  | notNumber (text : String)
  /-- A number has no text at all. -/
  | emptyNumber
  /-- A text is no truth value. -/
  | notBool (text : String)
  /-- A text is no time stamp. -/
  | notStamp
  /-- A date or a time does not exist. -/
  | date (why : DateFault)
  /-- A digit to the base sixty has a place value beyond all floating-point numbers. -/
  | placeValue
  /-- An escape names a code point beyond all characters. -/
  | codePoint (n : Nat)
  /-- The reader fails in a way of its own, told by the name of the failure and its wording. -/
  | other (name wording : String)
  deriving Repr, DecidableEq

/-- The wording of a fault. -/
def Fault.message : Fault → String
  | .document => "the document is not valid YAML"
  | .notInteger base text =>
    "invalid literal for int() with base " ++ toString base ++ ": " ++ quotedText text
  | .longInteger n =>
    "Exceeds the limit (4300 digits) for integer string conversion: value has " ++ toString n
      ++ " digits; use sys.set_int_max_str_digits() to increase the limit"
  | .notNumber text => "could not convert string to float: " ++ quotedText text
  | .emptyNumber => "string index out of range"
  | .notBool text => quotedText text
  | .notStamp => "'NoneType' object has no attribute 'groupdict'"
  | .date why => why.message
  | .placeValue => "int too large to convert to float"
  | .codePoint n =>
    if n ≤ 0x7fffffff then "chr() arg not in range(0x110000)"
    else "Python int too large to convert to C int"
  | .other _ wording => wording

end Yaml

end SpringRoutes
