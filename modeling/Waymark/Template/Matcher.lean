/-
  Waymark.Template.Matcher

  Reading paths by a template.  A template becomes one regular expression: literal text matches
  itself, a parameter is a capturing group around the expression of its values, and an optional
  group is an optional group.  The capturing groups inside conditions are counted, so that every
  parameter knows its own.
-/

import Waymark.Condition
import Waymark.Dict
import Waymark.Error
import Waymark.Template.Node

namespace Waymark.Template

/-! ## Reserved parameters -/

/-- The parameter that stands for the optional slash at the end of a path. -/
def slashParam : String := "__rhtmx_ts"

/-- The parameter that stands for the query of a path. -/
def queryParam : String := "__rhtmx_qs"

/-- Whether a name is reserved. -/
def isReserved (name : String) : Bool := name == slashParam || name == queryParam

/-! ## Expressions of values -/

/-- The values of a parameter without a condition: runs of unreserved characters. -/
def plainValue : String := "[A-Za-z0-9_.~\\-]+"

/-- The expression of a parameter's values and how many groups it captures.  The expression of a
    condition is read in ASCII mode where that is possible; one that cannot be read at all is the
    error. -/
def valueSource [Regex.Capacity] (conditions : Dict Condition) (name : String) :
    Except String (String × Nat) :=
  match conditions.get? name with
  | none => .ok (plainValue, 0)
  | some (.oneOf values) => .ok ((Condition.oneOf values).source, 0)
  | some (.expression source) =>
    let ascii := if isReserved name then none else (Regex.compile source false).toOption
    match ascii with
    | some r => .ok ("(?-u:" ++ source ++ ")", r.groups)
    | none =>
      match Regex.compile source with
      | .ok r => .ok (source, r.groups)
      | .error _ => .error source

/-! ## The expression of a template -/

/-- An expression in the making: its text, its parameters with their groups, the latest first, and
    the index of the next group. -/
structure Sketch where
  source : String
  slots : List (String × Nat)
  next : Nat

mutual

/-- Adds a node. -/
def Sketch.add [Regex.Capacity] (conditions : Dict Condition) (k : Sketch) :
    Node → Except String Sketch
  | .literal text => .ok { k with source := k.source ++ Regex.escape text }
  | .param name => do
    let (value, inner) ← valueSource conditions name
    return ⟨k.source ++ "(" ++ value ++ ")", (name, k.next) :: k.slots, k.next + 1 + inner⟩
  | .group children => do
    let k ← Sketch.addAll conditions { k with source := k.source ++ "(?:" } children
    return { k with source := k.source ++ ")?" }

/-- Adds nodes, one after another. -/
def Sketch.addAll [Regex.Capacity] (conditions : Dict Condition) (k : Sketch) :
    List Node → Except String Sketch
  | [] => .ok k
  | n :: ns => do Sketch.addAll conditions (← Sketch.add conditions k n) ns

end

/-! ## Matchers -/

/-- A compiled template. -/
structure Matcher where
  regex : Regex
  /-- The parameters in the order of the template, with their groups. -/
  slots : List (String × Nat)

namespace Matcher

/-- Compiles a template; `pattern` is the text that it was read from. -/
def compile [Regex.Capacity] (pattern : String) (tree : List Node) (conditions : Dict Condition) :
    Except Error Matcher :=
  match Sketch.addAll conditions ⟨"^", [], 1⟩ tree with
  | .error refused => .error (.badExpression pattern refused)
  | .ok k =>
    let source := k.source ++ "$"
    match Regex.compile source with
    | .error _ => .error (.badExpression pattern source)
    | .ok regex => .ok ⟨regex, k.slots.reverse⟩

/-- The parameters in the order of the template. -/
def params (m : Matcher) : List String := m.slots.map (·.1)

/-- Whether a name is that of a parameter. -/
def hasParam (m : Matcher) (name : String) : Bool := m.params.contains name

/-- The parameter's value in a match, unless it is empty or there is none. -/
def valueOf? (groups : Regex.Groups) (slot : String × Nat) : Option (String × String) :=
  match groups.get? slot.2 with
  | none | some [] => none
  | some text => some (slot.1, String.ofList text)

/-- The parameters that take a value from a path, in the order of the template; `none` if the path
    does not match. -/
def captures? (m : Matcher) (path : String) : Option (List (String × String)) :=
  (m.regex.captures? path.toList).map fun groups => m.slots.filterMap (valueOf? groups)

end Matcher

end Waymark.Template
