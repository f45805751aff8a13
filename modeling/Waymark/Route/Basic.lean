/-
  Waymark.Route.Basic

  Routes.  A route is made once from its options; after that reading and writing paths never fail.
  Behind the template of every route stand two groups of its own, under reserved names: one slash
  at the end, unless the options rule it out, and a query.
-/

import Waymark.Options.Decode
import Waymark.Template.Matcher
import Waymark.Template.Parse

namespace Waymark

open Waymark.Json Waymark.Template

/-- A route. -/
structure Route where
  pattern : String
  data : Dict Value
  defaults : Dict String
  tree : List Node
  matcher : Matcher
  postMatch : Option (Params → Option Params)
  preBuild : Option (BuildParams → BuildParams)

namespace Route

/-- The key of the data under which the name of a route is kept. -/
def nameKey : String := "name"

/-! ## Making routes -/

/-- The group for a slash at the end of a path. -/
def slashGroup : Node := .group [.param slashParam]

/-- The group for a query behind a path. -/
def queryGroup : Node := .group [.literal "?", .param queryParam]

/-- The tree of a pattern with the groups that every route has. -/
def treeOf (pattern : String) (slashOptional : Bool) : List Node :=
  parse pattern ++ (if slashOptional then [slashGroup] else []) ++ [queryGroup]

/-- The conditions with those of the reserved parameters: a slash, and anything. -/
def conditionsWith (conditions : Dict Condition) (slashOptional : Bool) : Dict Condition :=
  let c := if slashOptional then conditions.insert slashParam (.expression (Regex.escape "/"))
    else conditions
  c.insert queryParam (.expression ".*")

/-- The data with the name of the route, if it has one. -/
def dataWith (data : Dict Value) (name : Option String) : Dict Value :=
  match name with
  | some name => data.insert nameKey (.text name)
  | none => data

/-- Makes a route. -/
def ofOptions [Regex.Capacity] (o : Options) : Except Error Route := do
  let tree := treeOf o.pattern o.slashOptional
  let matcher ← Matcher.compile o.pattern tree (conditionsWith o.conditions o.slashOptional)
  return ⟨o.pattern, dataWith o.data o.name, o.defaults, tree, matcher, o.postMatch, o.preBuild⟩

/-- Makes a route from a pattern alone. -/
def ofPattern [Regex.Capacity] (pattern : String) : Except Error Route :=
  ofOptions (.ofPattern pattern)

/-- Makes a route from a value: a text is a pattern, an object holds options. -/
def ofValue [Regex.Capacity] (v : Value) : Except Error Route :=
  match v with
  | .text pattern => ofPattern pattern
  | .object fields =>
    match fields.lookup "pattern" with
    | some (.text _) => do ofOptions (← Options.ofValue v)
    | _ => .error .noPattern
  | _ => .error .noOptions

/-! ## What a route is -/

/-- The name of a route. -/
def name? (r : Route) : Option String := (r.data.get? nameKey).bind Value.text?

/-- The parameters of the expression, in order, reserved ones included. -/
def slots (r : Route) : List String := r.matcher.params

/-- The parameters of the pattern, in order. -/
def paramNames (r : Route) : List String := r.slots.filter (!isReserved ·)

end Route

end Waymark
