/-
  Waymark.Regex.Capacity

  How large an expression may be.  An engine makes an automaton of an expression and refuses one that
  takes more than ten mebibytes.  How it lays its automata out is its own affair, above all for
  alternatives, counts and large classes, so the test is a parameter of everything that compiles.
  Of an engine no more is asked than room for expressions of a few plain forms, for which it is
  easy to say how many bytes are enough.
-/

import Waymark.Regex.Expr

namespace Waymark.Regex

/-- The number of ranges that a set is written with; `none` if it is not written with ranges of
    ASCII characters. -/
def CharSet.asciiRanges? : CharSet → Option Nat
  | .empty => some 0
  | .range _ last => if last.toNat < 128 then some 1 else none
  | .union a b => return (← a.asciiRanges?) + (← b.asciiRanges?)
  | _ => none

namespace Expr

/-- `e.BuiltWithin n`: the automaton of an expression, forwards or backwards, takes at most `n`
    bytes.  A state takes 32 bytes, and where it has several ways out 8 more for each. -/
inductive BuiltWithin : Expr → Nat → Prop
  | empty : BuiltWithin .empty 32
  | look (l : Look) : BuiltWithin (.look l) 32
  /-- A state for each byte of the character. -/
  | char (c : Char) : BuiltWithin (.set (.single c)) (32 * c.utf8Size)
  /-- Two states, the first with a way out for each range. -/
  | ascii {s : CharSet} {n : Nat} (h : s.asciiRanges? = some n) : BuiltWithin (.set s) (64 + 8 * n)
  /-- Backwards there are thirty states, with ten ways out of the first. -/
  | other {c : Char} (h : c.toNat < 128) : BuiltWithin (.set (.compl (.single c))) 1040
  | cat {a b : Expr} {m n : Nat} (ha : BuiltWithin a m) (hb : BuiltWithin b n) :
      BuiltWithin (.cat a b) (m + n)
  /-- A state at each end. -/
  | group {body : Expr} {n : Nat} (index : Nat) (h : BuiltWithin body n) :
      BuiltWithin (.group index body) (n + 64)
  /-- At most three states, two of them with two ways out. -/
  | optional {body : Expr} {n : Nat} (greedy : Bool) (h : BuiltWithin body n) :
      BuiltWithin (.repeat 0 (some 1) greedy body) (n + 128)
  | star {body : Expr} {n : Nat} (greedy : Bool) (h : BuiltWithin body n) :
      BuiltWithin (.repeat 0 none greedy body) (n + 128)
  | plus {body : Expr} {n : Nat} (greedy : Bool) (h : BuiltWithin body n) :
      BuiltWithin (.repeat 1 none greedy body) (n + 128)
  | mono {e : Expr} {m n : Nat} (h : BuiltWithin e m) (hle : m ≤ n) : BuiltWithin e n

/-- The greatest size of an automaton, ten mebibytes. -/
def sizeLimit : Nat := 10485760

end Expr

/-- The expressions that an engine has room for. -/
class Capacity where
  fits : Expr → Bool
  /-- What is known to stay within the limit is not refused. -/
  fits_of_builtWithin : ∀ {e : Expr} {n : Nat}, e.BuiltWithin n → n ≤ Expr.sizeLimit → fits e = true

end Waymark.Regex
