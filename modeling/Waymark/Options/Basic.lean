/-
  Waymark.Options.Basic

  What a route is made from.  Everything but the pattern may be left out.
-/

import Waymark.Condition
import Waymark.Dict
import Waymark.Json.Value

namespace Waymark

open Waymark.Json

/-- The result of reading a path: parameters and their values. -/
abbrev Params := Dict String

/-- What a path is written from: parameters and values of any kind. -/
abbrev BuildParams := Dict Value

/-- The options of a route. -/
structure Options where
  /-- The template of the paths. -/
  pattern : String
  /-- The name that the route is looked up by. -/
  name : Option String
  /-- Restrictions of the values of parameters. -/
  conditions : Dict Condition
  /-- Values of parameters that are missing. -/
  defaults : Dict String
  /-- Static data that requests are checked against. -/
  data : Dict Value
  /-- Whether one slash at the end of a path is accepted. -/
  slashOptional : Bool
  /-- Changes or refuses the result of reading. -/
  postMatch : Option (Params → Option Params)
  /-- Changes what a path is written from. -/
  preBuild : Option (BuildParams → BuildParams)

namespace Options

/-- A pattern and nothing else. -/
def ofPattern (pattern : String) : Options :=
  ⟨pattern, none, .empty, .empty, .empty, true, none, none⟩

/-- Sets the name. -/
def withName (o : Options) (name : String) : Options := { o with name := some name }

/-- Sets the condition of a parameter. -/
def withCondition (o : Options) (param : String) (c : Condition) : Options :=
  { o with conditions := o.conditions.insert param c }

/-- Sets the default of a parameter. -/
def withDefault (o : Options) (param value : String) : Options :=
  { o with defaults := o.defaults.insert param value }

/-- Sets an entry of the static data. -/
def withData (o : Options) (key : String) (value : Value) : Options :=
  { o with data := o.data.insert key value }

/-- Accepts one slash at the end of a path, or not. -/
def withSlashOptional (o : Options) (optional : Bool) : Options :=
  { o with slashOptional := optional }

/-- Sets the filter of results. -/
def withPostMatch (o : Options) (filter : Params → Option Params) : Options :=
  { o with postMatch := some filter }

/-- Sets the filter of what is written. -/
def withPreBuild (o : Options) (filter : BuildParams → BuildParams) : Options :=
  { o with preBuild := some filter }

end Options

end Waymark
