/-
  Waymark.Regex.Basic

  Regular expressions: compiling a text, matching, and escaping text so that it matches itself.
-/

import Waymark.Regex.Capacity
import Waymark.Regex.Meaning
import Waymark.Regex.Parse.Basic
import Waymark.Regex.Search

namespace Waymark

/-- A compiled regular expression. -/
structure Regex where
  /-- The text that was compiled. -/
  source : String
  /-- How many groups capture, the whole not counted. -/
  groups : Nat
  /-- What is searched for. -/
  plan : Regex.Plan

namespace Regex

/-- What a text means as an expression, in Unicode mode or not. -/
def exprOf [Capacity] (unicode : Bool) (source : String) : Except Error Expr := do
  let ast ← Parse.read source.toList
  let (e, _) ← ast.meaning (.initial unicode)
  if Capacity.fits e then return e else throw .tooLarge

/-- The compiled form of an expression. -/
def ofExpr (source : String) (e : Expr) : Regex :=
  ⟨source, e.lastGroup, (Plan.draft e 0).1⟩

/-- Compiles a text, in Unicode mode or not. -/
def compile [Capacity] (source : String) (unicode : Bool := true) : Except Error Regex :=
  (exprOf unicode source).map (ofExpr source)

/-- The texts of the groups of the first match in a text, if there is one. -/
def captures? (r : Regex) (s : List Char) : Option Groups :=
  r.plan.search s.length (.start s) .none

/-- The text of a group, if it took part in the match. -/
def Groups.get? (g : Groups) (index : Nat) : Option (List Char) := g.lookup index

/-- A text with a backslash before every character that has a meaning of its own. -/
def escape (s : String) : String :=
  String.ofList (s.toList.flatMap fun c => if Parse.isMeta c then ['\\', c] else [c])

end Regex

end Waymark
