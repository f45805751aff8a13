/-
  Waymark.Regex.Parse.Group

  What stands behind an opening parenthesis, and repetition counts.
-/

import Waymark.Regex.Parse.Escape

namespace Waymark.Regex.Parse

open Waymark.Unicode

/-! ## Names -/

/-- Whether a character may begin a group's name. -/
def isGroupNameStart (c : Char) : Bool := c == '_' || c.isAlpha || (128 ≤ c.toNat && alphabetic.holds c)

/-- Whether a character may continue a group's name. -/
def isGroupNameChar (c : Char) : Bool :=
  isGroupNameStart c || c == '.' || c == '[' || c == ']' || c.isDigit
    || (128 ≤ c.toNat && isNumeric c)

/-- Reads a group's name up to its closing bracket. -/
def readGroupName (s : List Char) : Except Error (String × List Char) :=
  let name := s.takeWhile (· != '>')
  match s.dropWhile (· != '>') with
  | [] => .error .groupName
  | _ :: rest =>
    match name with
    | [] => .error .groupName
    | c :: cs =>
      if isGroupNameStart c && cs.all isGroupNameChar then .ok (String.ofList name, rest)
      else .error .groupName

/-! ## Flags -/

/-- The flag of a letter. -/
def flagOf? (c : Char) : Option Flag :=
  match c with
  | 'i' => some .ignoreCase
  | 'm' => some .multiLine
  | 's' => some .dotAll
  | 'U' => some .swapGreed
  | 'u' => some .unicode
  | 'R' => some .crlf
  | 'x' => some .verbose
  | _ => none

/-- Flags as they are being read: those so far, whether a minus sign stood before, and whether it
    was the last thing read. -/
structure FlagList where
  flags : List (Flag × Bool)
  negated : Bool
  dangling : Bool

/-- Reads flags up to a colon or a closing parenthesis, which it also returns. -/
def readFlags (fs : FlagList) : List Char → Except Error (List (Flag × Bool) × Char × List Char)
  | [] => .error .flagsUnclosed
  | c :: s =>
    if c = ':' ∨ c = ')' then
      if fs.dangling then .error .flagDangling else .ok (fs.flags, c, s)
    else if c = '-' then
      if fs.negated then .error .flagTwice else readFlags { fs with negated := true, dangling := true } s
    else
      match flagOf? c with
      | none => .error .flagUnknown
      | some f =>
        if fs.flags.any (·.1 == f) then .error .flagTwice
        else readFlags ⟨fs.flags ++ [(f, !fs.negated)], fs.negated, false⟩ s

/-! ## Opening -/

/-- What an opening parenthesis begins: a group that captures, perhaps under a name, a group that
    does not, or nothing but flags for the rest of the group around it. -/
inductive Opening where
  | capture (name : Option String)
  | plain (flags : List (Flag × Bool))
  | flags (flags : List (Flag × Bool))
deriving Repr

/-- Reads what follows a parenthesis and a question mark. -/
def readQuestion (s : List Char) : Except Error (Opening × List Char) :=
  match s with
  | '=' :: _ | '!' :: _ | '<' :: '=' :: _ | '<' :: '!' :: _ => .error .lookAround
  | 'P' :: '<' :: r | '<' :: r => (readGroupName r).map fun (name, r) => (.capture (some name), r)
  | [] => .error .groupUnclosed
  | s => do
    let (flags, close, rest) ← readFlags ⟨[], false, false⟩ s
    if close = ':' then return (.plain flags, rest)
    else if flags.isEmpty then throw .repetitionMissing
    else return (.flags flags, rest)

/-- Reads what follows an opening parenthesis. -/
def readOpening (verbose : Bool) (s : List Char) : Except Error (Opening × List Char) :=
  match skip verbose s with
  | '?' :: s => readQuestion s
  | s => .ok (.capture none, s)

/-- The verbose mode that flags ask for, `verbose` if they do not say. -/
def verboseAfter (verbose : Bool) (flags : List (Flag × Bool)) : Bool :=
  match flags.find? (·.1 == .verbose) with
  | some (_, on) => on
  | none => verbose

/-! ## Repetition counts -/

/-- Reads the digits of a count; blanks between them do not count in verbose mode. -/
def readCountDigits (verbose : Bool) : Nat → Option Nat → List Char → Option Nat × List Char
  | 0, acc, s => (acc, s)
  | _ + 1, acc, [] => (acc, [])
  | fuel + 1, acc, c :: s =>
    if c.isDigit then
      readCountDigits verbose fuel (some (10 * acc.getD 0 + (c.toNat - 48))) (skip verbose s)
    else (acc, c :: s)

/-- Reads a count with blanks around it.  It has to fit 32 bits. -/
def readCount (verbose : Bool) (s : List Char) : Except Error (Nat × List Char) :=
  let s := s.dropWhile isBlank
  match readCountDigits verbose (s.length + 1) none s with
  | (none, _) => .error .countNumber
  | (some n, rest) =>
    if n < UInt32.size then .ok (n, skip verbose (rest.dropWhile isBlank)) else .error .countNumber

/-- Reads a question mark that makes a repetition lazy; the flag returned says greedy. -/
def readGreed : List Char → Bool × List Char
  | '?' :: s => (false, s)
  | s => (true, s)

/-- The counts of a repetition: at least, at most, greedy. -/
structure Counts where
  least : Nat
  most : Option Nat
  greedy : Bool

/-- Ends a counted repetition at its closing brace. -/
def closeCounts (verbose : Bool) (least : Nat) (most : Option Nat) :
    List Char → Except Error (Counts × List Char)
  | '}' :: s =>
    let (greedy, rest) := readGreed (skip verbose s)
    if most.all (least ≤ ·) then .ok (⟨least, most, greedy⟩, rest) else .error .countOrder
  | _ => .error .countUnclosed

/-- Reads a counted repetition from behind its opening brace. -/
def readCounts (verbose : Bool) (s : List Char) : Except Error (Counts × List Char) := do
  match skip verbose s with
  | [] => throw .countUnclosed
  | s =>
    let (least, s) ← readCount verbose s
    match s with
    | ',' :: s =>
      match skip verbose s with
      | '}' :: s => closeCounts verbose least none ('}' :: s)
      | s =>
        let (most, s) ← readCount verbose s
        closeCounts verbose least (some most) s
    | s => closeCounts verbose least (some least) s

end Waymark.Regex.Parse
