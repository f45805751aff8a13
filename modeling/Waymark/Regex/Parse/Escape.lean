/-
  Waymark.Regex.Parse.Escape

  Blanks and escapes.  In verbose mode blank space and comments between the parts of an expression
  do not count; `skip` passes over them.  Every reader returns the text behind what it read.
-/

import Waymark.Regex.Ast
import Waymark.Regex.Error

namespace Waymark.Regex.Parse

open Waymark.Unicode

/-! ## Blanks -/

/-- Whether a character is blank space. -/
def isBlank (c : Char) : Bool := c == ' ' || ('\t' ≤ c && c ≤ '\r') || (128 ≤ c.toNat && whiteSpace.holds c)

/-- Passes over blank space and comments; `inComment` says whether the text begins in one.  A
    comment goes from `#` to the end of its line. -/
def skipVerbose : Bool → List Char → List Char
  | _, [] => []
  | true, c :: s => skipVerbose (c != '\n') s
  | false, c :: s =>
    if isBlank c then skipVerbose false s
    else if c = '#' then skipVerbose true s
    else c :: s

/-- Passes over what does not count: nothing unless in verbose mode. -/
def skip (verbose : Bool) (s : List Char) : List Char := if verbose then skipVerbose false s else s

/-! ## Numbers -/

/-- The value of a hexadecimal digit of either case. -/
def hexDigit? (c : Char) : Option Nat :=
  if '0' ≤ c && c ≤ '9' then some (c.toNat - 48)
  else if 'a' ≤ c && c ≤ 'f' then some (c.toNat - 87)
  else if 'A' ≤ c && c ≤ 'F' then some (c.toNat - 55)
  else none

/-- The character of a code point, if it is one. -/
def charOf (n : Nat) : Except Error Char :=
  if n.isValidChar then .ok (Char.ofNat n) else .error .hexValue

/-- Reads a fixed count of hexadecimal digits. -/
def readHexDigits (verbose : Bool) : Nat → Nat → List Char → Except Error (Nat × List Char)
  | 0, acc, s => .ok (acc, s)
  | _ + 1, _, [] => .error .escapeUnfinished
  | count + 1, acc, c :: s =>
    match hexDigit? c with
    | some d => readHexDigits verbose count (16 * acc + d) (skip verbose s)
    | none => .error .hexDigit

/-- Reads hexadecimal digits up to a closing brace; `acc` is `none` before the first one. -/
def readHexBraces (verbose : Bool) : Nat → Option Nat → List Char → Except Error (Nat × List Char)
  | 0, _, _ => .error .escapeUnfinished
  | fuel + 1, acc, s =>
    match skip verbose s with
    | [] => .error .escapeUnfinished
    | c :: s =>
      if c = '}' then
        match acc with
        | some n => .ok (n, skip verbose s)
        | none => .error .hexDigit
      else
        match hexDigit? c with
        | some d => readHexBraces verbose fuel (some (16 * acc.getD 0 + d)) s
        | none => .error .hexDigit

/-- Reads the character that a hexadecimal escape stands for, from behind its letter; `count` is
    the number of digits without braces. -/
def readHex (verbose : Bool) (count : Nat) (s : List Char) : Except Error (Literal × List Char) :=
  match skip verbose s with
  | [] => .error .escapeUnfinished
  | c :: s =>
    if c = '{' then do
      let (n, rest) ← readHexBraces verbose (s.length + 1) none s
      return (⟨← charOf n, false⟩, rest)
    else do
      let (n, rest) ← readHexDigits verbose count 0 (c :: s)
      return (⟨← charOf n, count == 2⟩, rest)

/-! ## Properties -/

/-- Reads the text up to a closing brace. -/
def readBraced (verbose : Bool) : Nat → List Char → Except Error (List Char × List Char)
  | 0, _ => .error .escapeUnfinished
  | fuel + 1, s =>
    match skip verbose s with
    | [] => .error .escapeUnfinished
    | c :: s =>
      if c = '}' then .ok ([], s)
      else do
        let (name, rest) ← readBraced verbose fuel s
        return (c :: name, rest)

/-- Splits a text at the first `!=`, if there is one. -/
def splitAtNotEqual : List Char → Option (List Char × List Char)
  | '!' :: '=' :: s => some ([], s)
  | c :: s => (splitAtNotEqual s).map fun (a, b) => (c :: a, b)
  | [] => none

/-- Splits a text at the first occurrence of a character, if there is one. -/
def splitAtChar (x : Char) (s : List Char) : Option (List Char × List Char) :=
  if x ∈ s then some (s.takeWhile (· != x), (s.dropWhile (· != x)).drop 1) else none

/-- The query that stands between braces: a name, or a name and a value. -/
def queryOf (s : List Char) : PropertyQuery :=
  let valued := fun (p : List Char × List Char) =>
    PropertyQuery.valued (String.ofList p.1) (String.ofList p.2)
  match splitAtNotEqual s, splitAtChar ':' s, splitAtChar '=' s with
  | some p, _, _ => valued p
  | none, some p, _ => valued p
  | none, none, some p => valued p
  | none, none, none => .named (String.ofList s)

/-- Reads a property from behind its letter: one letter, or a query in braces. -/
def readProperty (verbose : Bool) (s : List Char) : Except Error (PropertyQuery × List Char) :=
  match skip verbose s with
  | [] => .error .escapeUnfinished
  | c :: s =>
    if c = '{' then do
      let (name, rest) ← readBraced verbose (s.length + 1) s
      return (queryOf name, rest)
    else if c = '\\' then .error .propertyName
    else .ok (.named (String.singleton c), skip verbose s)

/-! ## Word boundaries -/

/-- The characters of the names of word boundaries. -/
def isBoundaryChar (c : Char) : Bool := c.isAlpha || c == '-'

/-- Reads the characters of a word boundary's name. -/
def readBoundaryName (verbose : Bool) : Nat → List Char → List Char × List Char
  | 0, s => ([], s)
  | _ + 1, [] => ([], [])
  | fuel + 1, c :: s =>
    if isBoundaryChar c then
      let (name, rest) := readBoundaryName verbose fuel (skip verbose s)
      (c :: name, rest)
    else ([], c :: s)

/-- The word boundary of a name. -/
def boundaryOf? (name : String) : Option Assertion :=
  match name with
  | "start" => some .wordStart
  | "end" => some .wordEnd
  | "start-half" => some .wordStartHalf
  | "end-half" => some .wordEndHalf
  | _ => none

/-- Reads what follows `\b`: a name in braces, or nothing.  Braces that do not begin with a letter
    or a hyphen are left for a repetition. -/
def readBoundary (verbose : Bool) (s : List Char) : Except Error (Assertion × List Char) :=
  match s with
  | '{' :: r =>
    match skip verbose r with
    | [] => .error .wordBoundary
    | c :: r =>
      if isBoundaryChar c then
        match readBoundaryName verbose (r.length + 1) (c :: r) with
        | (name, '}' :: rest) =>
          match boundaryOf? (String.ofList name) with
          | some a => .ok (a, rest)
          | none => .error .wordBoundary
        | _ => .error .wordBoundary
      else .ok (.wordBoundary, s)
  | _ => .ok (.wordBoundary, s)

/-! ## Escapes -/

/-- The characters with a meaning of their own. -/
def isMeta (c : Char) : Bool := "\\.+*?()|[]\x7b\x7d^$#&-~".toList.contains c

/-- The characters that may be escaped and then stand for themselves: the ASCII ones that are
    neither letters nor digits nor angle brackets. -/
def isEscapable (c : Char) : Bool :=
  isMeta c || (c.toNat < 128 && !c.isAlphanum && c != '<' && c != '>')

/-- A single part of an expression or of a class. -/
inductive Part where
  | literal (l : Literal)
  | dot
  | assertion (a : Assertion)
  | shorthand (negated : Bool) (s : Shorthand)
  | property (negated : Bool) (q : PropertyQuery)
deriving Repr

/-- The part that stands for a plain character. -/
def Part.plain (c : Char) : Part := .literal ⟨c, false⟩

/-- Reads an escape from behind its backslash. -/
def readEscape (verbose : Bool) : List Char → Except Error (Part × List Char)
  | [] => .error .escapeUnfinished
  | c :: s =>
    if isEscapable c then .ok (.plain c, s)
    else if c.isDigit then .error .backreference
    else
      match c with
      | 'x' => (readHex verbose 2 s).map fun (l, r) => (.literal l, r)
      | 'u' => (readHex verbose 4 s).map fun (l, r) => (.literal l, r)
      | 'U' => (readHex verbose 8 s).map fun (l, r) => (.literal l, r)
      | 'p' => (readProperty verbose s).map fun (q, r) => (.property false q, r)
      | 'P' => (readProperty verbose s).map fun (q, r) => (.property true q, r)
      | 'd' => .ok (.shorthand false .digit, s)
      | 's' => .ok (.shorthand false .space, s)
      | 'w' => .ok (.shorthand false .word, s)
      | 'D' => .ok (.shorthand true .digit, s)
      | 'S' => .ok (.shorthand true .space, s)
      | 'W' => .ok (.shorthand true .word, s)
      | 'a' => .ok (.plain '\x07', s)
      | 'f' => .ok (.plain '\x0c', s)
      | 't' => .ok (.plain '\t', s)
      | 'n' => .ok (.plain '\n', s)
      | 'r' => .ok (.plain '\r', s)
      | 'v' => .ok (.plain '\x0b', s)
      | 'A' => .ok (.assertion .textStart, s)
      | 'z' => .ok (.assertion .textEnd, s)
      | 'B' => .ok (.assertion .notWordBoundary, s)
      | 'b' => (readBoundary verbose s).map fun (a, r) => (.assertion a, r)
      | '<' => .ok (.assertion .wordStart, s)
      | '>' => .ok (.assertion .wordEnd, s)
      | _ => .error .escapeUnknown

/-- The part that a character other than a backslash stands for outside of classes. -/
def partOf (c : Char) : Part :=
  if c = '.' then .dot
  else if c = '^' then .assertion .lineStart
  else if c = '$' then .assertion .lineEnd
  else .plain c

end Waymark.Regex.Parse
