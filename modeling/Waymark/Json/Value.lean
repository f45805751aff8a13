/-
  Waymark.Json.Value

  JSON values.  Integers and floating-point numbers are different kinds, and an object is its list
  of fields in strictly increasing key order, so that equality does not see how it was written.
-/

import Waymark.Dict
import Waymark.Decimal.Binary64

namespace Waymark.Json

open Waymark.Decimal

/-- A JSON number: an integer that fits 64 bits, or a floating-point number. -/
inductive Number where
  | integer (i : Int)
  | real (x : Binary64)
deriving DecidableEq, Repr

/-- A JSON value.  The fields of an object stand in key order; `Value.ofFields` builds it so. -/
inductive Value where
  | null
  | bool (b : Bool)
  | number (n : Number)
  | text (s : String)
  | array (items : List Value)
  | object (fields : List (String × Value))
deriving Inhabited

namespace Number

/-- Equality of numbers of one kind; an integer never equals a floating-point number. -/
def same : Number → Number → Bool
  | .integer i, .integer j => i == j
  | .real x, .real y => x.same y
  | _, _ => false

end Number

namespace Value

/-- The object of a list of fields; of fields with one key the last one counts. -/
def ofFields (fields : List (String × Value)) : Value :=
  .object (Dict.ofList fields).entries

/-- The object of a map. -/
def ofDict (d : Dict Value) : Value := .object d.entries

/-- The text, if the value is one. -/
def text? : Value → Option String
  | .text s => some s
  | _ => none

/-- The field of an object, if the value is an object that has it. -/
def field? (k : String) : Value → Option Value
  | .object fields => fields.lookup k
  | _ => none

mutual

/-- Equality of values: as data, with numbers compared by `Number.same`. -/
def same : Value → Value → Bool
  | .null, .null => true
  | .bool a, .bool b => a == b
  | .number a, .number b => a.same b
  | .text a, .text b => a == b
  | .array as, .array bs => sameItems as bs
  | .object as, .object bs => sameFields as bs
  | _, _ => false

/-- Equality of lists of values, item by item. -/
def sameItems : List Value → List Value → Bool
  | [], [] => true
  | a :: as, b :: bs => a.same b && sameItems as bs
  | _, _ => false

/-- Equality of lists of fields, field by field. -/
def sameFields : List (String × Value) → List (String × Value) → Bool
  | [], [] => true
  | (k, a) :: as, (l, b) :: bs => k == l && a.same b && sameFields as bs
  | _, _ => false

end

end Value

end Waymark.Json
