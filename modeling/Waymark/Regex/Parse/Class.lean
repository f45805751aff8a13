/-
  Waymark.Regex.Parse.Class

  Classes in brackets.  Classes nest, and set operations between their items group to the left.
  Open classes wait on a list of frames while an inner one is read.
-/

import Waymark.Regex.Parse.Escape

namespace Waymark.Regex.Parse

/-! ## Items -/

/-- The name of an ASCII class. -/
def asciiClassOf? (name : String) : Option AsciiClass :=
  match name with
  | "alnum" => some .alnum
  | "alpha" => some .alpha
  | "ascii" => some .ascii
  | "blank" => some .blank
  | "cntrl" => some .cntrl
  | "digit" => some .digit
  | "graph" => some .graph
  | "lower" => some .lower
  | "print" => some .print
  | "punct" => some .punct
  | "space" => some .space
  | "upper" => some .upper
  | "word" => some .word
  | "xdigit" => some .xdigit
  | _ => none

/-- Reads `:name:]` or `:^name:]`, the rest of a named class from behind its bracket, if that is
    what stands there. -/
def readAsciiClass? (s : List Char) : Option (ClassSet × List Char) :=
  match s with
  | ':' :: r =>
    let (negated, r) := match r with
      | '^' :: r => (true, r)
      | r => (false, r)
    match r.dropWhile (· != ':') with
    | ':' :: ']' :: rest =>
      (asciiClassOf? (String.ofList (r.takeWhile (· != ':')))).map fun name =>
        (.ascii negated name, rest)
    | _ => none
  | _ => none

/-- The item that a part is inside a class. -/
def itemOf : Part → Except Error ClassSet
  | .literal l => .ok (.literal l)
  | .shorthand negated s => .ok (.shorthand negated s)
  | .property negated q => .ok (.property negated q)
  | .assertion _ | .dot => .error .classEscape

/-- The end of a range that a part is. -/
def rangeEndOf : Part → Except Error Literal
  | .literal l => .ok l
  | _ => .error .classRangeEnd

/-- Reads a single character or escape of a class. -/
def readClassPart (verbose : Bool) : List Char → Except Error (Part × List Char)
  | [] => .error .classUnclosed
  | '\\' :: s => readEscape verbose s
  | c :: s => .ok (.plain c, s)

/-- The first character behind a hyphen that counts; blanks and the first `#` do not count in
    verbose mode.  Without one, the character right behind the hyphen. -/
def peekCounting (seenHash : Bool) : List Char → Option Char
  | [] => none
  | c :: s =>
    if isBlank c then peekCounting seenHash s
    else if c = '#' && !seenHash then peekCounting true s
    else some c

/-- The character that decides what a hyphen means, given the text behind it. -/
def peekBehindHyphen (verbose : Bool) (s : List Char) : Option Char :=
  if verbose then (peekCounting false s).or s.head? else s.head?

/-- Reads a single item or a range.  A hyphen before a closing bracket or another hyphen makes no
    range. -/
def readItem (verbose : Bool) (s : List Char) : Except Error (ClassSet × List Char) := do
  let (part, r) ← readClassPart verbose s
  match skip verbose r with
  | [] => .error .classUnclosed
  | c :: r' =>
    if c = '-' ∧ peekBehindHyphen verbose r' ≠ some ']' ∧ peekBehindHyphen verbose r' ≠ some '-' then
      match skip verbose r' with
      | [] => .error .classUnclosed
      | r' => do
        let (part', rest) ← readClassPart verbose r'
        let first ← rangeEndOf part
        let last ← rangeEndOf part'
        if first.char ≤ last.char then return (.range first last, rest)
        else .error .classRangeOrder
    else return (← itemOf part, c :: r')

/-! ## Frames -/

/-- A class that is being read: its items since the last operation, newest first, and what that
    operation still has to be applied to. -/
structure ClassFrame where
  negated : Bool
  pending : Option (SetOp × ClassSet)
  items : List ClassSet

namespace ClassFrame

/-- The set that the frame holds so far. -/
def set (f : ClassFrame) : ClassSet :=
  let items := ClassSet.ofItems f.items.reverse
  match f.pending with
  | none => items
  | some (kind, lhs) => .op kind lhs items

/-- Adds an item. -/
def push (f : ClassFrame) (item : ClassSet) : ClassFrame := { f with items := item :: f.items }

/-- Begins the right side of an operation. -/
def operate (f : ClassFrame) (kind : SetOp) : ClassFrame :=
  { f with pending := some (kind, f.set), items := [] }

end ClassFrame

/-- Reads the hyphens that begin a class; each is a literal. -/
def openHyphens (verbose : Bool) : Nat → ClassFrame → List Char →
    Except Error (ClassFrame × List Char)
  | 0, _, _ => .error .classUnclosed
  | _ + 1, _, [] => .error .classUnclosed
  | fuel + 1, f, c :: s =>
    if c = '-' then openHyphens verbose fuel (f.push (.literal ⟨'-', false⟩)) (skip verbose s)
    else .ok (f, c :: s)

/-- Opens a class from behind its bracket: a caret, hyphens, and a closing bracket as the very
    first character, which is a literal. -/
def openClass (verbose : Bool) (s : List Char) : Except Error (ClassFrame × List Char) := do
  let s := skip verbose s
  let (negated, s) := match s with
    | '^' :: s => (true, skip verbose s)
    | s => (false, s)
  let (f, s) ← openHyphens verbose (s.length + 1) ⟨negated, none, []⟩ s
  match f.items, s with
  | [], ']' :: s =>
    match skip verbose s with
    | [] => .error .classUnclosed
    | s => return (f.push (.literal ⟨']', false⟩), s)
  | _, s => return (f, s)

/-- Reads the rest of the open classes: `f` is the innermost one, `outer` holds those around it.
    Every step takes at least one character. -/
def readClassFrom (verbose : Bool) : Nat → ClassFrame → List ClassFrame → List Char →
    Except Error (Bool × ClassSet × List Char)
  | 0, _, _, _ => .error .classUnclosed
  | fuel + 1, f, outer, s =>
    match skip verbose s with
    | [] => .error .classUnclosed
    | '[' :: s =>
      match readAsciiClass? s with
      | some (item, rest) => readClassFrom verbose fuel (f.push item) outer rest
      | none => do
        let (g, rest) ← openClass verbose s
        readClassFrom verbose fuel g (f :: outer) rest
    | ']' :: s =>
      match outer with
      | [] => .ok (f.negated, f.set, s)
      | g :: outer => readClassFrom verbose fuel (g.push (.bracketed f.negated f.set)) outer s
    | '&' :: '&' :: s => readClassFrom verbose fuel (f.operate .intersection) outer s
    | '-' :: '-' :: s => readClassFrom verbose fuel (f.operate .difference) outer s
    | '~' :: '~' :: s => readClassFrom verbose fuel (f.operate .symmetricDifference) outer s
    | s => do
      let (item, rest) ← readItem verbose s
      readClassFrom verbose fuel (f.push item) outer rest

/-- Reads a class from behind its opening bracket. -/
def readClass (verbose : Bool) (s : List Char) : Except Error (Ast × List Char) := do
  let (f, s) ← openClass verbose s
  let (negated, set, rest) ← readClassFrom verbose (s.length + 1) f [] s
  return (.bracketed negated set, rest)

end Waymark.Regex.Parse
