/-
  Waymark.Condition

  What the values of a parameter may be: whatever an expression matches, or one of a list.
-/

import Waymark.Regex.Basic

namespace Waymark

/-- A restriction of the values of a parameter. -/
inductive Condition where
  | expression (source : String)
  | oneOf (values : List String)
deriving DecidableEq, Repr

namespace Condition

/-- The expression that matches the values. -/
def source : Condition → String
  | expression source => source
  | oneOf values => "(?:" ++ "|".intercalate (values.map Regex.escape) ++ ")"

end Condition

end Waymark
