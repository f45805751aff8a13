/-
  Waymark.Route.Write

  Writing paths.  Parameters of the template stand in the path; all others are written to its
  query.
-/

import Waymark.Json.Printer
import Waymark.Query.Codec
import Waymark.Route.Basic
import Waymark.Template.Expand

namespace Waymark

open Waymark.Json Waymark.Template

namespace Route

/-- What is written for a value: a text as it is, null not at all, other values as JSON. -/
def textOf? : Value → Option String
  | .null => none
  | .text s => some s
  | v => some v.toText

/-- Parameters on their way into a path: those of the template and the others. -/
structure Sorted where
  positional : Params
  extra : Params

/-- Puts an entry where it belongs. -/
def Sorted.add (m : Matcher) (s : Sorted) (entry : String × Value) : Sorted :=
  match textOf? entry.2 with
  | none => s
  | some text =>
    if m.hasParam entry.1 then { s with positional := s.positional.insert entry.1 text }
    else { s with extra := s.extra.insert entry.1 text }

/-- The parameters of the template, the query among them if there is something to write there. -/
def Sorted.all (s : Sorted) : Params :=
  let query := Query.stringify s.extra
  if query = "" then s.positional else s.positional.insert queryParam query

/-- What is left of parameters behind the filter of the route. -/
def filterParams (r : Route) (params : BuildParams) : BuildParams :=
  match r.preBuild with
  | some filter => filter params
  | none => params

/-- The path that a route writes. -/
def build (r : Route) (params : BuildParams) : String :=
  let sorted := (r.filterParams params).toList.foldl (Sorted.add r.matcher) ⟨.empty, .empty⟩
  expand sorted.all r.defaults r.tree

/-- The path that a route writes from texts. -/
def buildTexts (r : Route) (params : List (String × String)) : String :=
  r.build (Dict.ofList (params.map fun (k, v) => (k, .text v)))

end Route

end Waymark
