/-
  Waymark.Router

  Routes in order.  The first route that answers a request answers for all, and of routes with one
  name the first counts.
-/

import Waymark.Route.Read
import Waymark.Route.Write

namespace Waymark

open Waymark.Json

/-- Routes in order. -/
structure Router where
  routes : List Route

namespace Router

/-- No routes. -/
def empty : Router := ⟨[]⟩

/-- Adds a route behind the others. -/
def add (t : Router) (r : Route) : Router := ⟨t.routes ++ [r]⟩

/-- Adds several routes behind the others. -/
def addAll (t : Router) (rs : List Route) : Router := ⟨t.routes ++ rs⟩

/-- The number of routes. -/
def size (t : Router) : Nat := t.routes.length

/-- Makes a router of the routes of several options; the first that fails is the error. -/
def ofOptions [Regex.Capacity] (options : List Options) : Except Error Router := do
  return ⟨← options.mapM Route.ofOptions⟩

/-- Makes a router of a table in TOML text.  All of the table is read before any route is made. -/
def ofToml [Regex.Capacity] (text : String) : Except Error Router := do
  ofOptions (← Options.listOfToml text)

/-! ## Look-ups -/

/-- The first route that answers a request, and its answer. -/
def match? (t : Router) (q : Request) : Option (Route × Params) :=
  t.routes.findSome? fun r => (r.match? q).map (r, ·)

/-- The routes that a request is offered to: all up to the first that answers. -/
def offered (t : Router) (q : Request) : List Route :=
  let silent := fun (r : Route) => (r.match? q).isNone
  t.routes.takeWhile silent ++ (t.routes.dropWhile silent).take 1

/-- The first route of a name. -/
def find? (t : Router) (name : String) : Option Route := t.routes.find? (·.name? == some name)

/-- The path that the route of a name writes. -/
def urlFor? (t : Router) (name : String) (params : BuildParams) : Option String :=
  (t.find? name).map (·.build params)

/-- The path that the route of a name writes from texts. -/
def urlForTexts? (t : Router) (name : String) (params : List (String × String)) : Option String :=
  (t.find? name).map (·.buildTexts params)

end Router

end Waymark
