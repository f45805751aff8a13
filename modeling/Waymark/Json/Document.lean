/-
  Waymark.Json.Document

  Reading JSON text.  A document is what the grammar alone says: fields in the order written,
  repeated keys included, and numbers or strings that stand for no value kept as such.  Only what a
  reader of the document uses has to have a value (`Document.value?`); the rest may be ignored.
-/

import Waymark.Json.Value

namespace Waymark.Json

open Waymark.Decimal

/-- JSON text that fits the grammar.  A number is `none` if it is out of range, a string if it
    escapes half of a surrogate pair. -/
inductive Document where
  | null
  | bool (b : Bool)
  | number (n : Option Number)
  | text (s : Option String)
  | array (items : List Document)
  | object (fields : List (Option String × Document))
deriving Inhabited

/-! ## Blanks and strings -/

/-- The blanks between tokens. -/
def isBlank (c : Char) : Bool := c == ' ' || c == '\n' || c == '\t' || c == '\r'

/-- The text from the first character on that is no blank. -/
def skipBlanks (s : List Char) : List Char := s.dropWhile isBlank

/-- The value of a hexadecimal digit. -/
def hexValue? (c : Char) : Option Nat :=
  if '0' ≤ c && c ≤ '9' then some (c.toNat - 48)
  else if 'a' ≤ c && c ≤ 'f' then some (c.toNat - 87)
  else if 'A' ≤ c && c ≤ 'F' then some (c.toNat - 55)
  else none

/-- The number that four hexadecimal digits write. -/
def hexUnit? (a b c d : Char) : Option Nat := do
  return (← hexValue? a) * 4096 + (← hexValue? b) * 256 + (← hexValue? c) * 16 + (← hexValue? d)

/-- The character that follows a backslash stands for. -/
def shortEscape? (c : Char) : Option Char :=
  if c = '"' ∨ c = '\\' ∨ c = '/' then some c
  else if c = 'b' then some '\x08'
  else if c = 'f' then some '\x0c'
  else if c = 'n' then some '\n'
  else if c = 'r' then some '\r'
  else if c = 't' then some '\t'
  else none

/-- The code units of a string up to its closing quote, and the text behind it.  Characters above
    the sixteen-bit range count as one unit. -/
def units : List Char → Option (List Nat × List Char)
  | [] => none
  | '"' :: r => some ([], r)
  | '\\' :: 'u' :: a :: b :: c :: d :: r => do
    let u ← hexUnit? a b c d
    let (us, r) ← units r
    return (u :: us, r)
  | '\\' :: c :: r => do
    let e ← shortEscape? c
    let (us, r) ← units r
    return (e.toNat :: us, r)
  | c :: r =>
    if c.toNat < 32 then none
    else do
      let (us, r) ← units r
      return (c.toNat :: us, r)

/-- The characters of a list of code units; `none` if half of a surrogate pair stands alone. -/
def charsOfUnits : List Nat → Option (List Char)
  | [] => some []
  | [u] => if 0xD800 ≤ u ∧ u < 0xE000 then none else some [Char.ofNat u]
  | u :: v :: r =>
    if 0xD800 ≤ u ∧ u < 0xDC00 then
      if 0xDC00 ≤ v ∧ v < 0xE000 then
        (charsOfUnits r).map (Char.ofNat (0x10000 + (u - 0xD800) * 0x400 + (v - 0xDC00)) :: ·)
      else none
    else if 0xDC00 ≤ u ∧ u < 0xE000 then none
    else (charsOfUnits (v :: r)).map (Char.ofNat u :: ·)

/-- A string from behind its opening quote. -/
def readText (s : List Char) : Option (Option String × List Char) := do
  let (us, r) ← units s
  return ((charsOfUnits us).map String.ofList, r)

/-! ## Numbers -/

/-- Whether a character is a decimal digit. -/
def isDigit (c : Char) : Bool := '0' ≤ c && c ≤ '9'

/-- The value of a decimal digit. -/
def digitValue (c : Char) : Nat := c.toNat - 48

/-- Appends digits to a number as long as it stays below `2 ^ 64`; also says how many were taken
    and how many left. -/
def appendDigits (n : Nat) : List Char → Nat × Nat × Nat
  | [] => (n, 0, 0)
  | c :: cs =>
    let m := n * 10 + digitValue c
    if m < UInt64.size then
      let (r, taken, left) := appendDigits m cs
      (r, taken + 1, left)
    else (n, 0, cs.length + 1)

/-- An exponent's digits, as long as they stay below `2 ^ 31`. -/
def exponentValue? (cs : List Char) : Option Nat :=
  cs.foldl (fun n c => n.bind fun n =>
    let m := n * 10 + digitValue c
    if m < 0x80000000 then some m else none) (some 0)

/-- The parts of a number as written: integer digits, fraction digits, exponent. -/
structure Numeral where
  negative : Bool
  whole : List Char
  fraction : Option (List Char)
  exponent : Option (Bool × List Char)

/-- The value of a numeral; `none` if it is out of range. -/
def Numeral.value? (n : Numeral) : Option Number :=
  let (digits, _, left) := appendDigits 0 n.whole
  if n.fraction.isNone && n.exponent.isNone && left = 0
      && !(n.negative && (digits = 0 || 0x8000000000000000 < digits)) then
    some (.integer (if n.negative then -(digits : Int) else digits))
  else
    let (digits, taken, _) := appendDigits digits (n.fraction.getD [])
    let place : Int := (left : Int) - (taken : Int)
    match n.exponent with
    | none => (Binary64.ofDigits n.negative digits place).map .real
    | some (down, e) =>
      match exponentValue? e with
      | some e => (Binary64.ofDigits n.negative digits (if down then place - e else place + e)).map .real
      | none =>
        if digits = 0 || down then some (.real ⟨n.negative, 0, -1074⟩) else none

/-- Splits off at least one digit. -/
def readDigits (s : List Char) : Option (List Char × List Char) :=
  match s.takeWhile isDigit with
  | [] => none
  | ds => some (ds, s.dropWhile isDigit)

/-- Splits off the fraction part, if there is one. -/
def readFraction : List Char → Option (Option (List Char) × List Char)
  | '.' :: r => do
    let (ds, r) ← readDigits r
    return (some ds, r)
  | s => some (none, s)

/-- Splits off the sign of an exponent: whether it is a minus. -/
def readExponentSign : List Char → Bool × List Char
  | '+' :: r => (false, r)
  | '-' :: r => (true, r)
  | s => (false, s)

/-- Splits off the exponent, if there is one. -/
def readExponent : List Char → Option (Option (Bool × List Char) × List Char)
  | c :: r =>
    if c = 'e' ∨ c = 'E' then do
      let (down, r) := readExponentSign r
      let (ds, r) ← readDigits r
      return (some (down, ds), r)
    else some (none, c :: r)
  | [] => some (none, [])

/-- Splits off a number without its sign.  No digit may follow a leading zero. -/
def readUnsigned (negative : Bool) (s : List Char) : Option (Numeral × List Char) := do
  let (whole, r) ← readDigits s
  if whole.length > 1 && whole.head? == some '0' then none
  else
    let (fraction, r) ← readFraction r
    let (exponent, r) ← readExponent r
    return (⟨negative, whole, fraction, exponent⟩, r)

/-- Splits off a number. -/
def readNumber : List Char → Option (Numeral × List Char)
  | '-' :: r => readUnsigned true r
  | s => readUnsigned false s

/-! ## Documents -/

namespace Document

mutual

/-- Splits off a document.  Every step spends one unit of `fuel` and at least one character, so
    the length of the text is fuel enough. -/
def readFrom : Nat → List Char → Option (Document × List Char)
  | 0, _ => none
  | fuel + 1, s =>
    match skipBlanks s with
    | 'n' :: 'u' :: 'l' :: 'l' :: r => some (.null, r)
    | 't' :: 'r' :: 'u' :: 'e' :: r => some (.bool true, r)
    | 'f' :: 'a' :: 'l' :: 's' :: 'e' :: r => some (.bool false, r)
    | '"' :: r => (readText r).map fun (t, r) => (.text t, r)
    | '[' :: r =>
      match skipBlanks r with
      | ']' :: r => some (.array [], r)
      | r => (readItems fuel r).map fun (ds, r) => (.array ds, r)
    | '{' :: r =>
      match skipBlanks r with
      | '}' :: r => some (.object [], r)
      | r => (readFields fuel r).map fun (fs, r) => (.object fs, r)
    | r => (readNumber r).map fun (n, r) => (.number n.value?, r)

/-- Splits off the items of an array and its closing bracket. -/
def readItems : Nat → List Char → Option (List Document × List Char)
  | 0, _ => none
  | fuel + 1, s => do
    let (d, r) ← readFrom fuel s
    match skipBlanks r with
    | ',' :: r =>
      let (ds, r) ← readItems fuel r
      return (d :: ds, r)
    | ']' :: r => return ([d], r)
    | _ => none

/-- Splits off the fields of an object and its closing brace. -/
def readFields : Nat → List Char → Option (List (Option String × Document) × List Char)
  | 0, _ => none
  | fuel + 1, s =>
    match skipBlanks s with
    | '"' :: r => do
      let (k, r) ← readText r
      match skipBlanks r with
      | ':' :: r =>
        let (d, r) ← readFrom fuel r
        match skipBlanks r with
        | ',' :: r =>
          let (fs, r) ← readFields fuel r
          return ((k, d) :: fs, r)
        | '}' :: r => return ([(k, d)], r)
        | _ => none
      | _ => none
    | _ => none

end

/-- The document that a text is, blanks around it allowed. -/
def read (s : String) : Option Document := do
  let cs := s.toList
  let (d, r) ← readFrom (2 * cs.length + 2) cs
  if (skipBlanks r).isEmpty then some d else none

/-! ## Values -/

/-- Arrays and objects may be nested this deep. -/
def nesting : Nat := 127

mutual

/-- The value of a document nested at most `room` deep, if all of it has a value. -/
def valueWithin : Nat → Document → Option Value
  | _, .null => some .null
  | _, .bool b => some (.bool b)
  | _, .number n => n.map .number
  | _, .text s => s.map .text
  | 0, .array _ => none
  | room + 1, .array ds => (itemsWithin room ds).map .array
  | 0, .object _ => none
  | room + 1, .object fs => (fieldsWithin room fs).map .ofFields

/-- The values of the items of an array. -/
def itemsWithin : Nat → List Document → Option (List Value)
  | _, [] => some []
  | room, d :: ds => do
    let v ← valueWithin room d
    let vs ← itemsWithin room ds
    return v :: vs

/-- The values of the fields of an object. -/
def fieldsWithin : Nat → List (Option String × Document) → Option (List (String × Value))
  | _, [] => some []
  | room, (k, d) :: fs => do
    let k ← k
    let v ← valueWithin room d
    let vs ← fieldsWithin room fs
    return (k, v) :: vs

end

/-- The value of a document, if all of it has a value. -/
def value? (d : Document) : Option Value := d.valueWithin nesting

mutual

/-- The value of a document in which whatever has no value counts as null. -/
def valueOrNull : Document → Value
  | .null => .null
  | .bool b => .bool b
  | .number n => (n.map .number).getD .null
  | .text s => (s.map .text).getD .null
  | .array ds => .array (itemsOrNull ds)
  | .object fs => .ofFields (fieldsOrNull fs)

/-- The values of the items of an array. -/
def itemsOrNull : List Document → List Value
  | [] => []
  | d :: ds => valueOrNull d :: itemsOrNull ds

/-- The values of the fields of an object. -/
def fieldsOrNull : List (Option String × Document) → List (String × Value)
  | [] => []
  | (some k, d) :: fs => (k, valueOrNull d) :: fieldsOrNull fs
  | (none, _) :: fs => fieldsOrNull fs

end

mutual

/-- The document of a value. -/
def ofValue : Value → Document
  | .null => .null
  | .bool b => .bool b
  | .number n => .number (some n)
  | .text s => .text (some s)
  | .array vs => .array (ofItems vs)
  | .object fs => .object (ofFields fs)

/-- The documents of the items of an array. -/
def ofItems : List Value → List Document
  | [] => []
  | v :: vs => ofValue v :: ofItems vs

/-- The documents of the fields of an object. -/
def ofFields : List (String × Value) → List (Option String × Document)
  | [] => []
  | (k, v) :: fs => (some k, ofValue v) :: ofFields fs

end

end Document

/-- The value that a text writes, if it writes one. -/
def Value.read (s : String) : Option Value := (Document.read s).bind Document.value?

end Waymark.Json
