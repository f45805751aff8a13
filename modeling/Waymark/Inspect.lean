/-
  Waymark.Inspect

  Descriptions of options and routes for people: every field by name, texts in quotes with what
  cannot be printed escaped.  This is the outer layer, with which programs also get the capacity
  that they compile with.
-/

import Waymark.Json.Printer
import Waymark.Regex.Estimate
import Waymark.Route.Basic
import Waymark.Unicode.Category
import Waymark.Unicode.Property

namespace Waymark.Inspect

open Waymark.Json Waymark.Unicode

/-! ## Texts -/

/-- Whether a character can be shown: it is assigned and neither a control, a format or a private
    character nor a separator other than the blank. -/
def isPrintable (c : Char) : Bool :=
  if c.toNat < 127 then 32 ≤ c.toNat
  else isAssigned c && ["cc", "cf", "co", "zl", "zp", "zs"].all fun name => !(categoryRanges name).holds c

/-- The lowercase hexadecimal form of a number. -/
def hex (n : Nat) : List Char := Nat.toDigits 16 n

/-- The form of a character inside quotes. -/
def escapeChar (c : Char) : List Char :=
  if c = '\x00' then ['\\', '0']
  else if c = '\t' then ['\\', 't']
  else if c = '\r' then ['\\', 'r']
  else if c = '\n' then ['\\', 'n']
  else if c = '"' then ['\\', '"']
  else if c = '\\' then ['\\', '\\']
  else if (c.toNat < 128 || !graphemeExtend.holds c) && isPrintable c then [c]
  else ['\\', 'u', '\x7b'] ++ hex c.toNat ++ ['\x7d']

/-- A text in quotes. -/
def quoted (s : String) : String := "\"" ++ String.ofList (s.toList.flatMap escapeChar) ++ "\""

/-! ## Shapes -/

/-- Parts with a comma and a blank between them. -/
def commas (parts : List String) : String := ", ".intercalate parts

/-- Something with named fields. -/
def fields (name : String) (parts : List (String × String)) : String :=
  name ++ " \x7b " ++ commas (parts.map fun (k, v) => k ++ ": " ++ v) ++ " \x7d"

/-- Something that holds another thing. -/
def holding (name content : String) : String := name ++ "(" ++ content ++ ")"

/-- A list. -/
def list (parts : List String) : String := "[" ++ commas parts ++ "]"

/-- A map. -/
def dict {α : Type} (describe : α → String) (entries : List (String × α)) : String :=
  "\x7b" ++ commas (entries.map fun (k, v) => quoted k ++ ": " ++ describe v) ++ "\x7d"

/-- Something that may be missing. -/
def optional {α : Type} (describe : α → String) : Option α → String
  | none => "None"
  | some a => holding "Some" (describe a)

/-- A truth value. -/
def flag (b : Bool) : String := if b then "true" else "false"

/-- A function, which is not described further. -/
def function {α : Type} (f : Option α) : String := optional (fun _ => quoted "<function>") f

/-! ## Values -/

mutual

/-- A value with its kind. -/
def value : Value → String
  | .null => "Null"
  | .bool b => holding "Bool" (flag b)
  | .number n => holding "Number" n.toText
  | .text s => holding "String" (quoted s)
  | .array vs => "Array " ++ list (values vs)
  | .object fs => "Object \x7b" ++ commas (members fs) ++ "\x7d"

/-- The items of an array. -/
def values : List Value → List String
  | [] => []
  | v :: vs => value v :: values vs

/-- The fields of an object. -/
def members : List (String × Value) → List String
  | [] => []
  | (k, v) :: fs => (quoted k ++ ": " ++ value v) :: members fs

end

/-- A condition with its kind. -/
def condition : Condition → String
  | .expression source => holding "Pattern" (quoted source)
  | .oneOf values => holding "OneOf" (list (values.map quoted))

/-! ## Options and routes -/

/-- The description of options. -/
def options (o : Options) : String :=
  fields "RouteConfig" [
    ("pattern", quoted o.pattern),
    ("name", optional quoted o.name),
    ("conditions", dict condition o.conditions.toList),
    ("defaults", dict quoted o.defaults.toList),
    ("data", dict value o.data.toList),
    ("trailing_slash_optional", flag o.slashOptional),
    ("post_match", function o.postMatch),
    ("pre_build", function o.preBuild)]

/-- The description of a route. -/
def route (r : Route) : String :=
  fields "Route" [
    ("pattern", quoted r.pattern),
    ("regex", quoted r.matcher.regex.source),
    ("data", dict value r.data.toList),
    ("defaults", dict quoted r.defaults.toList)]

end Waymark.Inspect
