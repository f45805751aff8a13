/-
  Waymark.Request

  What a route is asked: a path, perhaps none, and attributes that are compared with its data.
-/

import Waymark.Dict
import Waymark.Json.Value

namespace Waymark

open Waymark.Json

/-- A request. -/
structure Request where
  path : Option String
  attributes : Dict Value

namespace Request

/-- The key that gives the path of a request written as an object. -/
def pathKey : String := "path"

/-- A path without attributes. -/
def ofPath (path : String) : Request := ⟨some path, .empty⟩

/-- Neither path nor attributes. -/
def withoutPath : Request := ⟨none, .empty⟩

/-- Sets an attribute. -/
def withAttribute (r : Request) (key : String) (value : Value) : Request :=
  { r with attributes := r.attributes.insert key value }

/-- The request that a value writes: a text is a path; an object has a path if its field of that
    name is a text, and its other fields are attributes. -/
def ofValue? : Value → Option Request
  | .text path => some (ofPath path)
  | .object fields =>
    some ⟨(fields.lookup pathKey).bind Value.text?,
      Dict.ofList (fields.filter fun f => f.1 != pathKey)⟩
  | _ => none

end Request

end Waymark
