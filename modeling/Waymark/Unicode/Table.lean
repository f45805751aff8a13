/-
  Waymark.Unicode.Table

  Sets of characters as sorted ranges, and the text form that the tables of this folder are kept
  in.  An entry gives the names of a set, a colon and its ranges, and ends in a semicolon; a range
  is `gap` or `gap+more`, hexadecimal, where the gap counts from the end of the range before and
  `more` is one less than the length.
-/

namespace Waymark.Unicode

/-! ## Ranges -/

/-- Ranges of code points, first and last, in increasing order. -/
abbrev Ranges := Array (Nat × Nat)

namespace Ranges

/-- Whether a code point lies in one of the ranges from index `lo` up to `hi`, by halving. -/
def search (r : Ranges) (n : Nat) : Nat → Nat → Nat → Bool
  | 0, _, _ => false
  | fuel + 1, lo, hi =>
    if hi ≤ lo then false
    else
      let mid := (lo + hi) / 2
      match r[mid]? with
      | none => false
      | some (first, last) =>
        if n < first then search r n fuel lo mid
        else if last < n then search r n fuel (mid + 1) hi
        else true

/-- Whether a character lies in the ranges. -/
def holds (r : Ranges) (c : Char) : Bool := r.search c.toNat (r.size + 1) 0 r.size

end Ranges

/-! ## Text form -/

/-- The number that hexadecimal digits write. -/
def hexNumber (s : List Char) : Nat :=
  s.foldl (fun n c => 16 * n + (if c.isDigit then c.toNat - 48 else c.toNat - 87)) 0

/-- The parts of a text between separators, empty ones left out. -/
def parts (isSeparator : Char → Bool) (s : List Char) : List (List Char) :=
  (s.splitOnP isSeparator).filter (!·.isEmpty)

/-- Whether a character stands between the words of a table. -/
def isGap (c : Char) : Bool := c == ' ' || c == '\n'

/-- Lists of hexadecimal numbers: the lists stand between blanks, their members between slashes. -/
def slashLists (text : String) : List (List Nat) :=
  (parts isGap text.toList).map fun s =>
    (parts (· == '/') s).map hexNumber

/-- Reads ranges, `next` being the code point behind the last one. -/
def readRanges (next : Nat) (acc : Ranges) : List (List Char) → Ranges
  | [] => acc
  | s :: rest =>
    match parts (· == '+') s with
    | [gap] =>
      let first := next + hexNumber gap
      readRanges (first + 1) (acc.push (first, first)) rest
    | [gap, more] =>
      let first := next + hexNumber gap
      let last := first + hexNumber more
      readRanges (last + 1) (acc.push (first, last)) rest
    | _ => readRanges next acc rest

/-- Named sets of characters. -/
structure Table where
  lines : List (List String × Ranges)

namespace Table

/-- An entry from its text without the semicolon, if it is one. -/
def entry? (s : List Char) : Option (List String × Ranges) :=
  match s.splitOn ':' with
  | [names, ranges] =>
    some ((parts isGap names).map String.ofList, readRanges 0 #[] (parts isGap ranges))
  | _ => none

/-- The table of a text. -/
def ofText (text : String) : Table := ⟨(text.toList.splitOn ';').filterMap entry?⟩

/-- The ranges of the set of a name. -/
def find? (t : Table) (name : String) : Option Ranges :=
  (t.lines.find? fun line => name ∈ line.1).map (·.2)

end Table

end Waymark.Unicode
