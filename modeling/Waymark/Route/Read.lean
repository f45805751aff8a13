/-
  Waymark.Route.Read

  Reading paths.  What the path itself gives comes before what its query gives, and both come
  before defaults.
-/

import Waymark.Query.Codec
import Waymark.Request
import Waymark.Route.Basic

namespace Waymark

open Waymark.Json Waymark.Template

namespace Route

/-! ## Paths -/

/-- Whether the last character but one is a slash.  Only a last character of one byte counts. -/
def hasDoubledSlash (path : String) : Bool :=
  match path.toList.reverse with
  | c :: d :: _ => c.toNat < 128 && d == '/'
  | _ => false

/-- The parameters taken from a path and its query, if it has one. -/
structure Taken where
  params : Params
  query : Option String

/-- Adds a parameter taken from a path.  A slash at the end is no parameter, but the path does not
    match if there is another one before it. -/
def Taken.add (path : String) (t : Taken) (slot : String × String) : Option Taken :=
  if slot.1 = slashParam then
    if hasDoubledSlash path then none else some t
  else if slot.1 = queryParam then some { t with query := some slot.2 }
  else some { t with params := t.params.insert slot.1 slot.2 }

/-- The parameters completed by those of the query. -/
def Taken.withQuery (t : Taken) : Params :=
  match t.query with
  | none => t.params
  | some q => (t.params.orElse (Query.parse q)).erase queryParam

/-- The parameters that a path gives; `none` if it does not match. -/
def readPath? (r : Route) (path : String) : Option Params := do
  let captures ← r.matcher.captures? path
  let taken ← captures.foldlM (Taken.add path) ⟨.empty, none⟩
  return taken.withQuery.orElse r.defaults

/-! ## Requests -/

/-- Whether every attribute that the data of a route has equals it. -/
def admits (r : Route) (attributes : Dict Value) : Bool :=
  attributes.toList.all fun (key, value) => (r.data.get? key).all (·.same value)

/-- The answer to a request before the filter of the route; without a path it is empty. -/
def candidate? (r : Route) (q : Request) : Option Params :=
  if r.admits q.attributes then
    match q.path with
    | some path => r.readPath? path
    | none => some .empty
  else none

/-- The filter of a route on results. -/
def filterResult (r : Route) (params : Params) : Option Params :=
  match r.postMatch with
  | some filter => filter params
  | none => some params

/-- The answer to a request. -/
def match? (r : Route) (q : Request) : Option Params := (r.candidate? q).bind r.filterResult

/-- The answer to a path. -/
def matchPath? (r : Route) (path : String) : Option Params := r.match? (.ofPath path)

/-- The answer to a request given as a value. -/
def matchValue? (r : Route) (v : Value) : Option Params := (Request.ofValue? v).bind r.match?

end Route

end Waymark
