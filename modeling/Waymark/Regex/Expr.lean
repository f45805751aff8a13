/-
  Waymark.Regex.Expr

  Regular expressions with their flags applied: sets of characters, conditions on places, and the
  operations between expressions.  What stands first in an alternative is preferred.
-/

import Waymark.Regex.CharSet

namespace Waymark.Regex

/-! ## Places -/

/-- A condition on the place between two characters. -/
inductive Look where
  | textStart
  | textEnd
  /-- The start of a line; with `crlf`, a carriage return ends a line too. -/
  | lineStart (crlf : Bool)
  | lineEnd (crlf : Bool)
  | wordBoundary (unicode : Bool)
  | notWordBoundary (unicode : Bool)
  | wordStart (unicode : Bool)
  | wordEnd (unicode : Bool)
  | wordStartHalf (unicode : Bool)
  | wordEndHalf (unicode : Bool)
deriving DecidableEq, Repr

namespace Look

/-- Whether there is a word character. -/
def isWord (unicode : Bool) (c : Option Char) : Bool := c.any (CharSet.word unicode).contains

/-- Whether the condition holds between two characters, `none` standing for an end of the text. -/
def holds (before after : Option Char) : Look → Bool
  | textStart => before.isNone
  | textEnd => after.isNone
  | lineStart false => before.all (· == '\n')
  | lineEnd false => after.all (· == '\n')
  | lineStart true =>
    before.all (· == '\n') || (before == some '\r' && after != some '\n')
  | lineEnd true =>
    after.all (· == '\r') || (after == some '\n' && before != some '\r')
  | wordBoundary u => isWord u before != isWord u after
  | notWordBoundary u => isWord u before == isWord u after
  | wordStart u => !isWord u before && isWord u after
  | wordEnd u => isWord u before && !isWord u after
  | wordStartHalf u => !isWord u before
  | wordEndHalf u => !isWord u after

end Look

/-! ## Expressions -/

/-- A regular expression. -/
inductive Expr where
  | empty
  | set (s : CharSet)
  | look (l : Look)
  | cat (a b : Expr)
  | alt (a b : Expr)
  | group (index : Nat) (body : Expr)
  | «repeat» (least : Nat) (most : Option Nat) (greedy : Bool) (body : Expr)
deriving Repr, Inhabited

namespace Expr

/-- Expressions one after another. -/
def catAll : List Expr → Expr
  | [] => empty
  | [e] => e
  | e :: es => cat e (catAll es)

/-- Expressions in order of preference.  There is at least one. -/
def altAll : List Expr → Expr
  | [] => empty
  | [e] => e
  | e :: es => alt e (altAll es)

/-- Whether an expression can match nothing but the empty text. -/
def isThin : Expr → Bool
  | empty | look _ => true
  | set _ => false
  | cat a b | alt a b => a.isThin && b.isThin
  | group _ body => body.isThin
  | «repeat» _ most _ body => most == some 0 || body.isThin

/-- Whether every match of an expression takes a character; `none` if the expression holds a part
    that never matches. -/
def takes : Expr → Option Bool
  | empty | look _ => some false
  | set s => if s.isVoid then none else some true
  | cat a b => do return (← a.takes) || (← b.takes)
  | alt a b => do return (← a.takes) && (← b.takes)
  | group _ body => body.takes
  | «repeat» least _ _ body => do return (← body.takes) && 0 < least

/-- A repetition.  What may occur no times at most is empty, groups and all, and what matches only
    the empty text need not be repeated. -/
def repeated (least : Nat) (most : Option Nat) (greedy : Bool) (body : Expr) : Expr :=
  if most = some 0 then empty
  else if body.isThin then
    if 0 < least then body else «repeat» 0 (some 1) greedy body
  else «repeat» least most greedy body

@[simp] theorem repeated_optional (greedy : Bool) (body : Expr) :
    repeated 0 (some 1) greedy body = «repeat» 0 (some 1) greedy body := by
  simp [repeated]

/-- The greatest index of a group that captures, zero if there is none. -/
def lastGroup : Expr → Nat
  | empty | set _ | look _ => 0
  | cat a b | alt a b => max a.lastGroup b.lastGroup
  | group index body => max index body.lastGroup
  | «repeat» _ _ _ body => body.lastGroup

end Expr

end Waymark.Regex
