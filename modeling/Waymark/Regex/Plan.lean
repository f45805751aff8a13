/-
  Waymark.Regex.Plan

  Expressions with their repetitions written out.  Every choice carries a number of its own, so
  that a search can tell the places of one choice from those of another.
-/

import Waymark.Regex.Expr

namespace Waymark.Regex

/-- An expression in which the only repetitions are "at most once", "once or more" and, for bodies
    that always take a character, "any number of times".  A greedy choice prefers to go on. -/
inductive Plan where
  | empty
  | set (s : CharSet)
  | look (l : Look)
  | cat (a b : Plan)
  | alt (label : Nat) (a b : Plan)
  | group (index : Nat) (body : Plan)
  | maybe (label : Nat) (greedy : Bool) (body : Plan)
  | plus (label : Nat) (greedy : Bool) (body : Plan)
  | star (label : Nat) (greedy : Bool) (body : Plan)
deriving Repr, Inhabited

namespace Plan

/-- A plan in the making: given the first free label, the plan and the next free label. -/
abbrev Draft := Nat → Plan × Nat

/-- A draft that uses no label. -/
def Draft.pure (p : Plan) : Draft := fun n => (p, n)

/-- One draft behind another. -/
def Draft.cat (a b : Draft) : Draft := fun n =>
  let (p, n) := a n
  let (q, n) := b n
  (.cat p q, n)

/-- A body that may be left out. -/
def Draft.maybe (greedy : Bool) (a : Draft) : Draft := fun n =>
  let (p, m) := a (n + 1)
  (.maybe n greedy p, m)

/-- A body once or more. -/
def Draft.plus (greedy : Bool) (a : Draft) : Draft := fun n =>
  let (p, m) := a (n + 1)
  (.plus n greedy p, m)

/-- A body any number of times.  One that can be empty is tried once before it is repeated, so
    that an empty match is preferred where it should be. -/
def Draft.star (takes greedy : Bool) (a : Draft) : Draft :=
  if takes then fun n =>
    let (p, m) := a (n + 1)
    (.star n greedy p, m)
  else Draft.maybe greedy (Draft.plus greedy a)

/-- A body some number of times, and another draft behind. -/
def Draft.times (a : Draft) : Nat → Draft → Draft
  | 0, tail => tail
  | n + 1, tail => Draft.cat a (times a n tail)

/-- A body up to some number of times; each further one only behind the one before. -/
def Draft.upTo (greedy : Bool) (a : Draft) : Nat → Draft
  | 0 => .pure .empty
  | n + 1 => Draft.maybe greedy (Draft.cat a (upTo greedy a n))

/-- A repetition, written out; `takes` says whether the body always takes a character. -/
def Draft.repeat (takes greedy : Bool) (a : Draft) : Nat → Option Nat → Draft
  | 0, none => a.star takes greedy
  | least + 1, none => a.times least (a.plus greedy)
  | least, some most => a.times least (a.upTo greedy (most - least))

/-- The draft of an expression. -/
def draft : Expr → Draft
  | .empty => .pure .empty
  | .set s => .pure (.set s)
  | .look l => .pure (.look l)
  | .cat a b => .cat (draft a) (draft b)
  | .alt a b => fun n =>
    let (p, n') := draft a (n + 1)
    let (q, n') := draft b n'
    (.alt n p q, n')
  | .group index body => fun n =>
    let (p, n) := draft body n
    (.group index p, n)
  | .repeat least most greedy body => (draft body).repeat (body.takes == some true) greedy least most

end Plan

end Waymark.Regex
