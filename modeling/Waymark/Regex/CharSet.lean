/-
  Waymark.Regex.CharSet

  Sets of characters as they are written in an expression: ranges, tables, set operations and
  closure under case.  `contains` decides membership; each constructor has its law by definition.
-/

import Waymark.Unicode.Category
import Waymark.Unicode.Property
import Waymark.Unicode.Folding

namespace Waymark.Regex

open Waymark.Unicode

/-- A set of characters. -/
inductive CharSet where
  | empty
  | range (first last : Char)
  | table (ranges : Ranges)
  | union (a b : CharSet)
  | inter (a b : CharSet)
  | diff (a b : CharSet)
  | symmDiff (a b : CharSet)
  | compl (a : CharSet)
  /-- All characters that are one with a member up to case. -/
  | folded (a : CharSet)
  /-- The same among ASCII letters only. -/
  | foldedAscii (a : CharSet)
deriving DecidableEq, Repr, Inhabited

namespace CharSet

/-- The ASCII letter of the other case; other characters are left alone. -/
def swapAsciiCase (c : Char) : Char :=
  if 'a' ≤ c ∧ c ≤ 'z' then Char.ofNat (c.toNat - 32)
  else if 'A' ≤ c ∧ c ≤ 'Z' then Char.ofNat (c.toNat + 32)
  else c

/-- The ASCII letters. -/
def asciiLetters : List Char :=
  (List.range 26).map (fun n => Char.ofNat (97 + n)) ++ (List.range 26).map (fun n => Char.ofNat (65 + n))

/-- Whether a character is a member. -/
def contains : CharSet → Char → Bool
  | empty, _ => false
  | range first last, c => first ≤ c && c ≤ last
  | table ranges, c => ranges.holds c
  | union a b, c => a.contains c || b.contains c
  | inter a b, c => a.contains c && b.contains c
  | diff a b, c => a.contains c && !b.contains c
  | symmDiff a b, c => a.contains c != b.contains c
  | compl a, c => !a.contains c
  | folded a, c => a.contains c || (caseVariants c).any a.contains
  | foldedAscii a, c => a.contains c || a.contains (swapAsciiCase c)

/-- The set of one character. -/
def single (c : Char) : CharSet := range c c

/-- The union of several sets. -/
def unionAll (sets : List CharSet) : CharSet := sets.foldr union empty

/-- The union of several ranges. -/
def ofRanges (ranges : List (Char × Char)) : CharSet :=
  unionAll (ranges.map fun r => range r.1 r.2)

/-! ## Common sets -/

/-- Every character. -/
def all : CharSet := range '\x00' (Char.ofNat 0x10FFFF)

/-- Decimal digits, in Unicode or in ASCII. -/
def digit (unicode : Bool) : CharSet := if unicode then table decimalDigits else range '0' '9'

/-- Blank space, in Unicode or in ASCII. -/
def space (unicode : Bool) : CharSet :=
  if unicode then table whiteSpace else ofRanges [('\t', '\r'), (' ', ' ')]

/-- The ASCII word characters. -/
def asciiWord : CharSet := ofRanges [('a', 'z'), ('A', 'Z'), ('0', '9'), ('_', '_')]

/-- Word characters, in Unicode or in ASCII. -/
def word (unicode : Bool) : CharSet :=
  if unicode then union asciiWord (table wordCharacters) else asciiWord

/-! ## Emptiness -/

/-- Sorted ranges with those that overlap or touch made one. -/
def coalesce : List (Nat × Nat) → List (Nat × Nat)
  | [] => []
  | [r] => [r]
  | (a, b) :: (c, d) :: rest =>
    if c ≤ b + 1 then coalesce ((a, max b d) :: rest) else (a, b) :: coalesce ((c, d) :: rest)
termination_by rs => rs.length

/-- The union of two lists of ranges. -/
def joinRanges (rs ts : List (Nat × Nat)) : List (Nat × Nat) :=
  coalesce ((rs ++ ts).mergeSort (fun x y => x.1 ≤ y.1))

/-- The code points from `next` on that lie in none of the ranges. -/
def gapsFrom (next : Nat) : List (Nat × Nat) → List (Nat × Nat)
  | [] => if next ≤ 0x10FFFF then [(next, 0x10FFFF)] else []
  | (a, b) :: rest => if next < a then (next, a - 1) :: gapsFrom (b + 1) rest else gapsFrom (b + 1) rest

/-- The characters outside of the ranges; code points of surrogates are no characters. -/
def outside (rs : List (Nat × Nat)) : List (Nat × Nat) :=
  gapsFrom 0 (joinRanges rs [(0xD800, 0xDFFF)])

/-- The characters in both lists of ranges. -/
def common (rs ts : List (Nat × Nat)) : List (Nat × Nat) :=
  outside (joinRanges (outside rs) (outside ts))

/-- The members as ranges of code points. -/
def codeRanges : CharSet → List (Nat × Nat)
  | empty => []
  | range first last => if first ≤ last then [(first.toNat, last.toNat)] else []
  | table ranges => ranges.toList
  | union a b => joinRanges a.codeRanges b.codeRanges
  | inter a b => common a.codeRanges b.codeRanges
  | diff a b => common a.codeRanges (outside b.codeRanges)
  | symmDiff a b =>
    let r := a.codeRanges
    let t := b.codeRanges
    joinRanges (common r (outside t)) (common t (outside r))
  | compl a => outside a.codeRanges
  | folded a => joinRanges a.codeRanges (caseChanges.filterMap fun (c, d) =>
      if a.contains c then some (d.toNat, d.toNat) else none)
  | foldedAscii a => joinRanges a.codeRanges (asciiLetters.filterMap fun c =>
      if a.contains c then
        let d := swapAsciiCase c
        some (d.toNat, d.toNat)
      else none)

/-- Whether there is no member. -/
def isVoid : CharSet → Bool
  | empty => true
  | range first last => !(first ≤ last)
  | table ranges => ranges.isEmpty
  | union a b => a.isVoid && b.isVoid
  | folded a | foldedAscii a => a.isVoid
  | s => s.codeRanges.isEmpty

end CharSet

end Waymark.Regex
