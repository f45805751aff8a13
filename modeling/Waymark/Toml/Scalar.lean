/-
  Waymark.Toml.Scalar

  The scalars of TOML: strings of four kinds, numbers, dates and times.  Every reader returns the
  text behind what it read, and `none` if what stands there is something else.
-/

import Waymark.Json.Document
import Waymark.Decimal.Binary64

namespace Waymark.Toml

open Waymark.Json Waymark.Decimal

/-! ## Characters -/

/-- Blanks within a line. -/
def isBlank (c : Char) : Bool := c == ' ' || c == '\t'

/-- The text from the first character on that is no blank. -/
def skipBlanks (s : List Char) : List Char := s.dropWhile isBlank

/-- The characters that text may hold: no control characters but the tab. -/
def isTextChar (c : Char) : Bool := c == '\t' || (32 ≤ c.toNat && c.toNat != 127)

/-- Splits off a line break. -/
def newline? : List Char → Option (List Char)
  | '\n' :: s => some s
  | '\r' :: '\n' :: s => some s
  | _ => none

/-- The text behind blanks and line breaks. -/
def skipLines : List Char → List Char
  | '\n' :: s => skipLines s
  | '\r' :: '\n' :: s => skipLines s
  | c :: s => if isBlank c then skipLines s else c :: s
  | [] => []

/-! ## Strings -/

/-- The number that hexadecimal digits write. -/
def hexNumber? (ds : List Char) : Option Nat :=
  ds.foldl (fun n d => do return 16 * (← n) + (← hexValue? d)) (some 0)

/-- The character that a fixed count of hexadecimal digits writes. -/
def readScalar? (count : Nat) (s : List Char) : Option (Char × List Char) := do
  let ds := s.take count
  if ds.length = count then
    let n ← hexNumber? ds
    if n.isValidChar then some (Char.ofNat n, s.drop count) else none
  else none

/-- Reads an escape from behind its backslash. -/
def readEscape? : List Char → Option (Char × List Char)
  | 'b' :: s => some ('\x08', s)
  | 't' :: s => some ('\t', s)
  | 'n' :: s => some ('\n', s)
  | 'f' :: s => some ('\x0c', s)
  | 'r' :: s => some ('\r', s)
  | '"' :: s => some ('"', s)
  | '\\' :: s => some ('\\', s)
  | 'u' :: s => readScalar? 4 s
  | 'U' :: s => readScalar? 8 s
  | _ => none

/-- Reads a string with escapes on one line, from behind its quote. -/
def readBasic : Nat → List Char → Option (List Char × List Char)
  | 0, _ | _, [] => none
  | fuel + 1, c :: s =>
    if c = '"' then some ([], s)
    else if c = '\\' then do
      let (x, s) ← readEscape? s
      let (xs, s) ← readBasic fuel s
      return (x :: xs, s)
    else if isTextChar c then do
      let (xs, s) ← readBasic fuel s
      return (c :: xs, s)
    else none

/-- Reads a string with escapes on several lines, from behind its quotes.  One or two quotes may
    stand before the closing three.  A backslash at the end of a line takes away the line break
    and the blanks that follow. -/
def readBasicLines : Nat → List Char → Option (List Char × List Char)
  | 0, _ => none
  | _, '"' :: '"' :: '"' :: '"' :: '"' :: s => some (['"', '"'], s)
  | _, '"' :: '"' :: '"' :: '"' :: s => some (['"'], s)
  | _, '"' :: '"' :: '"' :: s => some ([], s)
  | fuel + 1, '\\' :: s =>
    match newline? (skipBlanks s) with
    | some s => readBasicLines fuel (skipLines s)
    | none => do
      let (x, s) ← readEscape? s
      let (xs, s) ← readBasicLines fuel s
      return (x :: xs, s)
  | fuel + 1, c :: s =>
    match newline? (c :: s) with
    | some s => do
      let (xs, s) ← readBasicLines fuel s
      return ('\n' :: xs, s)
    | none =>
      if isTextChar c then do
        let (xs, s) ← readBasicLines fuel s
        return (c :: xs, s)
      else none
  | _, [] => none

/-- Reads a string without escapes on one line, from behind its apostrophe. -/
def readLiteral : List Char → Option (List Char × List Char)
  | [] => none
  | c :: s =>
    if c = '\'' then some ([], s)
    else if isTextChar c then do
      let (xs, s) ← readLiteral s
      return (c :: xs, s)
    else none

/-- Reads a string without escapes on several lines, from behind its apostrophes. -/
def readLiteralLines : Nat → List Char → Option (List Char × List Char)
  | 0, _ => none
  | _, '\'' :: '\'' :: '\'' :: '\'' :: '\'' :: s => some (['\'', '\''], s)
  | _, '\'' :: '\'' :: '\'' :: '\'' :: s => some (['\''], s)
  | _, '\'' :: '\'' :: '\'' :: s => some ([], s)
  | fuel + 1, c :: s =>
    match newline? (c :: s) with
    | some s => do
      let (xs, s) ← readLiteralLines fuel s
      return ('\n' :: xs, s)
    | none =>
      if isTextChar c then do
        let (xs, s) ← readLiteralLines fuel s
        return (c :: xs, s)
      else none
  | _, [] => none

/-- The text behind a line break, if there is one. -/
def skipFirstNewline (s : List Char) : List Char := (newline? s).getD s

/-- Reads a string of any kind. -/
def readString? : List Char → Option (List Char × List Char)
  | '"' :: '"' :: '"' :: s => readBasicLines (s.length + 1) (skipFirstNewline s)
  | '"' :: s => readBasic (s.length + 1) s
  | '\'' :: '\'' :: '\'' :: s => readLiteralLines (s.length + 1) (skipFirstNewline s)
  | '\'' :: s => readLiteral s
  | _ => none

/-! ## Numbers -/

/-- Splits off a sign: whether it is a minus. -/
def readSign : List Char → Bool × List Char
  | '+' :: s => (false, s)
  | '-' :: s => (true, s)
  | s => (false, s)

/-- The digits that follow a digit; an underscore may stand between two of them. -/
def moreDigits (isDigit : Char → Bool) : List Char → List Char × List Char
  | '_' :: d :: s =>
    if isDigit d then
      let (ds, s) := moreDigits isDigit s
      (d :: ds, s)
    else ([], '_' :: d :: s)
  | d :: s =>
    if isDigit d then
      let (ds, s) := moreDigits isDigit s
      (d :: ds, s)
    else ([], d :: s)
  | [] => ([], [])

/-- Splits off at least one digit. -/
def readDigits? (isDigit : Char → Bool) : List Char → Option (List Char × List Char)
  | d :: s =>
    if isDigit d then
      let (ds, s) := moreDigits isDigit s
      some (d :: ds, s)
    else none
  | [] => none

/-- Splits off the digits of a decimal integer: zero, or digits that do not begin with it. -/
def readWhole? : List Char → Option (List Char × List Char)
  | '0' :: s => some (['0'], s)
  | s => readDigits? Char.isDigit s

/-- The number that decimal digits write. -/
def decimalNumber (ds : List Char) : Nat := ds.foldl (fun n d => 10 * n + digitValue d) 0

/-- Splits off an exponent, if there is one. -/
def readExponent? : List Char → Option (Int × List Char)
  | c :: s =>
    if c = 'e' ∨ c = 'E' then do
      let (down, s) := readSign s
      let (ds, s) ← readDigits? Char.isDigit s
      let n := decimalNumber ds
      return (if down then -(n : Int) else n, s)
    else none
  | [] => none

/-- The number of a decimal with a fraction or an exponent: `some none` if it is infinite. -/
def realOf (negative : Bool) (whole fraction : List Char) (exponent : Int) : Option (Option Number) :=
  let digits := decimalNumber (whole ++ fraction)
  let place := exponent - fraction.length
  let small := digits = 0 ∨ place < -(400 + (whole.length + fraction.length : Nat) : Int)
  match (if small then Binary64.ofDecimal negative 0 0 else Binary64.ofDecimal negative digits place) with
  | some x => some (some (.real x))
  | none => if negative then some none else none

/-- Reads a floating-point number.  It has a fraction, an exponent or both, or is infinite or no
    number; those two have no value.  One beyond the greatest number is refused, unless it is
    negative: then it is infinite. -/
def readFloat? (s : List Char) : Option (Option Number × List Char) :=
  let (negative, r) := readSign s
  match r with
  | 'i' :: 'n' :: 'f' :: r => some (none, r)
  | 'n' :: 'a' :: 'n' :: r => some (none, r)
  | r => do
    let (whole, r) ← readWhole? r
    match r with
    | '.' :: r =>
      let (fraction, r) ← readDigits? Char.isDigit r
      let (exponent, r) := (readExponent? r).getD (0, r)
      return (← realOf negative whole fraction exponent, r)
    | r =>
      let (exponent, r) ← readExponent? r
      return (← realOf negative whole [] exponent, r)

/-- An integer of 64 bits with its sign. -/
def integerOf (negative : Bool) (n : Nat) : Option Number :=
  if negative then (if n ≤ 0x8000000000000000 then some (.integer (-(n : Int))) else none)
  else if n < 0x8000000000000000 then some (.integer n) else none

/-- Reads an integer: decimal with or without a sign, or hexadecimal, octal or binary. -/
def readInteger? : List Char → Option (Number × List Char)
  | '0' :: 'x' :: s => do
    let (ds, s) ← readDigits? (fun c => (hexValue? c).isSome) s
    return (← integerOf false (← hexNumber? ds), s)
  | '0' :: 'o' :: s => do
    let (ds, s) ← readDigits? (fun c => '0' ≤ c && c ≤ '7') s
    return (← integerOf false (ds.foldl (fun n d => 8 * n + digitValue d) 0), s)
  | '0' :: 'b' :: s => do
    let (ds, s) ← readDigits? (fun c => c == '0' || c == '1') s
    return (← integerOf false (ds.foldl (fun n d => 2 * n + digitValue d) 0), s)
  | s => do
    let (negative, r) := readSign s
    let (ds, r) ← readWhole? r
    return (← integerOf negative (decimalNumber ds), r)

/-! ## Dates and times -/

/-- Splits off a number of a fixed count of digits, within bounds. -/
def readField? (count low high : Nat) (s : List Char) : Option (Nat × List Char) :=
  let ds := s.take count
  let n := decimalNumber ds
  if ds.length = count ∧ ds.all Char.isDigit ∧ low ≤ n ∧ n ≤ high then some (n, s.drop count)
  else none

/-- Splits off a character. -/
def readChar? (c : Char) : List Char → Option (List Char)
  | d :: s => if c = d then some s else none
  | [] => none

/-- A number with leading zeros up to a count of digits. -/
def padded (count n : Nat) : String :=
  let s := toString n
  String.ofList (List.replicate (count - s.length) '0') ++ s

/-- The number of days of a month. -/
def daysOf (year month : Nat) : Nat :=
  if month = 2 then
    if year % 4 = 0 ∧ (year % 100 ≠ 0 ∨ year % 400 = 0) then 29 else 28
  else if month = 4 ∨ month = 6 ∨ month = 9 ∨ month = 11 then 30
  else 31

/-- Reads a date, as text. -/
def readDate? (s : List Char) : Option (String × List Char) := do
  let (year, s) ← readField? 4 0 9999 s
  let s ← readChar? '-' s
  let (month, s) ← readField? 2 1 12 s
  let s ← readChar? '-' s
  let (day, s) ← readField? 2 1 31 s
  if day ≤ daysOf year month then
    some (padded 4 year ++ "-" ++ padded 2 month ++ "-" ++ padded 2 day, s)
  else none

/-- The fraction of a second as text: nine digits at most, no zeros at the end. -/
def secondFraction (ds : List Char) : String :=
  match ((ds.take 9).reverse.dropWhile (· == '0')).reverse with
  | [] => ""
  | ds => "." ++ String.ofList ds

/-- Splits off the fraction of a second, if there is one. -/
def readSecondFraction (s : List Char) : String × List Char :=
  match s with
  | '.' :: r =>
    match r.takeWhile Char.isDigit with
    | [] => ("", s)
    | ds => (secondFraction ds, r.dropWhile Char.isDigit)
  | s => ("", s)

/-- Reads a time of day, as text. -/
def readTime? (s : List Char) : Option (String × List Char) := do
  let (hour, s) ← readField? 2 0 23 s
  let s ← readChar? ':' s
  let (minute, s) ← readField? 2 0 59 s
  let s ← readChar? ':' s
  let (second, s) ← readField? 2 0 60 s
  let (fraction, s) := readSecondFraction s
  return (padded 2 hour ++ ":" ++ padded 2 minute ++ ":" ++ padded 2 second ++ fraction, s)

/-- Splits off the offset of a time zone, if there is one.  No offset is positive. -/
def readOffset? : List Char → Option (String × List Char)
  | 'Z' :: s | 'z' :: s => some ("Z", s)
  | c :: s =>
    if c = '+' ∨ c = '-' then do
      let (hour, s) ← readField? 2 0 23 s
      let s ← readChar? ':' s
      let (minute, s) ← readField? 2 0 59 s
      let sign := if c = '-' ∧ hour + minute ≠ 0 then "-" else "+"
      return (sign ++ padded 2 hour ++ ":" ++ padded 2 minute, s)
    else none
  | [] => none

/-- Whether a character may stand between date and time. -/
def isTimeMark (c : Char) : Bool := c == 'T' || c == 't' || c == ' '

/-- Reads the time behind a date, if there is one. -/
def readTimePart? : List Char → Option (String × List Char)
  | c :: s =>
    if isTimeMark c then do
      let (time, s) ← readTime? s
      let (offset, s) := (readOffset? s).getD ("", s)
      return ("T" ++ time ++ offset, s)
    else none
  | [] => none

/-- Reads a date, a time, or both, as text. -/
def readDateTime? (s : List Char) : Option (String × List Char) :=
  match readDate? s with
  | some (date, s) =>
    let (time, s) := (readTimePart? s).getD ("", s)
    some (date ++ time, s)
  | none => readTime? s

/-- The key of the object that stands for a date or time. -/
def dateKey : String := "$__toml_private_datetime"

/-- The document of a date or time. -/
def dateDocument (text : String) : Document := .object [(some dateKey, .text (some text))]

/-! ## Scalars -/

/-- Reads a scalar that is no string. -/
def readPlain? (s : List Char) : Option (Document × List Char) :=
  match s with
  | 't' :: 'r' :: 'u' :: 'e' :: r => some (.bool true, r)
  | 'f' :: 'a' :: 'l' :: 's' :: 'e' :: r => some (.bool false, r)
  | s =>
    match readDateTime? s with
    | some (text, r) => some (dateDocument text, r)
    | none =>
      match readFloat? s with
      | some (n, r) => some (.number n, r)
      | none => (readInteger? s).map fun (n, r) => (.number (some n), r)

end Waymark.Toml
