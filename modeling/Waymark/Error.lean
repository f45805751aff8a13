/-
  Waymark.Error

  Why a route cannot be made.  Only making routes can fail: reading a path answers that it does
  not match, and writing a path always succeeds.
-/

namespace Waymark

/-- The reasons why a route or a table of routes cannot be made. -/
inductive Error where
  /-- Options that are neither text nor an object. -/
  | noOptions
  /-- Options without a pattern. -/
  | noPattern
  /-- Options with a field of the wrong form. -/
  | badOptions
  /-- A pattern whose expression, or a condition of which, is refused. -/
  | badExpression (pattern expression : String)
  /-- A table of routes that cannot be read. -/
  | badTable
deriving DecidableEq, Repr

/-- What is said about a reason. -/
def Error.message : Error → String
  | noOptions => "route options must be a pattern string or an options object"
  | noPattern => "route options must specify the pattern of the route as a string"
  | badOptions => "invalid route options"
  | badExpression pattern expression =>
    "route `" ++ pattern ++ "` compiles to an invalid expression `" ++ expression ++ "`"
  | badTable => "invalid route table"

end Waymark
