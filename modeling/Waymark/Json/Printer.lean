/-
  Waymark.Json.Printer

  The compact text of a JSON value: no blanks, fields in key order, and in strings only the quote,
  the backslash and control characters escaped.
-/

import Waymark.Json.Value
import Waymark.Decimal.Shortest

namespace Waymark.Json

open Waymark.Decimal

/-- A lowercase hexadecimal digit. -/
def hexDigit (n : Nat) : Char := if n < 10 then Char.ofNat (48 + n) else Char.ofNat (87 + n)

/-- The form of a character inside a string. -/
def escapeChar (c : Char) : List Char :=
  if c = '"' then ['\\', '"']
  else if c = '\\' then ['\\', '\\']
  else if c = '\x08' then ['\\', 'b']
  else if c = '\x0c' then ['\\', 'f']
  else if c = '\n' then ['\\', 'n']
  else if c = '\r' then ['\\', 'r']
  else if c = '\t' then ['\\', 't']
  else if c.toNat < 32 then ['\\', 'u', '0', '0', hexDigit (c.toNat / 16), hexDigit (c.toNat % 16)]
  else [c]

/-- A string in quotes. -/
def quote (s : String) : String := "\"" ++ String.ofList (s.toList.flatMap escapeChar) ++ "\""

/-- The text of a number. -/
def Number.toText : Number → String
  | .integer i => toString i
  | .real x => x.toText

namespace Value

mutual

/-- The text of a value. -/
def toText : Value → String
  | .null => "null"
  | .bool true => "true"
  | .bool false => "false"
  | .number n => n.toText
  | .text s => quote s
  | .array [] => "[]"
  | .array (a :: as) => "[" ++ a.toText ++ itemsText as ++ "]"
  | .object [] => "\x7b\x7d"
  | .object ((k, a) :: as) => "\x7b" ++ quote k ++ ":" ++ a.toText ++ fieldsText as ++ "\x7d"

/-- The texts of further items, each after a comma. -/
def itemsText : List Value → String
  | [] => ""
  | a :: as => "," ++ a.toText ++ itemsText as

/-- The texts of further fields, each after a comma. -/
def fieldsText : List (String × Value) → String
  | [] => ""
  | (k, a) :: as => "," ++ quote k ++ ":" ++ a.toText ++ fieldsText as

end

end Value

end Waymark.Json
