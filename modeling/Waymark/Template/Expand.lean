/-
  Waymark.Template.Expand

  Writing a path from a template.  A parameter writes its value, else its default, else nothing; a
  group is written when some parameter inside it is supplied with a value that is not its default.
-/

import Waymark.Dict
import Waymark.Template.Node

namespace Waymark.Template

/-- Whether a parameter is supplied with a value other than its default. -/
def isTelling (params defaults : Dict String) (name : String) : Bool :=
  match params.get? name with
  | some value => defaults.get? name != some value
  | none => false

/-- What a parameter writes. -/
def valueOf (params defaults : Dict String) (name : String) : String :=
  ((params.get? name).or (defaults.get? name)).getD ""

mutual

/-- What a node writes. -/
def expandNode (params defaults : Dict String) : Node → String
  | .literal text => text
  | .param name => valueOf params defaults name
  | .group children =>
    if (Node.dependents children).any (isTelling params defaults) then
      expand params defaults children
    else ""

/-- The path that a template writes. -/
def expand (params defaults : Dict String) : List Node → String
  | [] => ""
  | n :: ns => expandNode params defaults n ++ expand params defaults ns

end

section

variable (params defaults : Dict String)

@[simp] theorem expandNode_literal (text : String) :
    expandNode params defaults (.literal text) = text := rfl

@[simp] theorem expandNode_param (name : String) :
    expandNode params defaults (.param name) = valueOf params defaults name := rfl

@[simp] theorem expand_nil : expand params defaults [] = "" := rfl

@[simp] theorem expand_cons (n : Node) (ns : List Node) :
    expand params defaults (n :: ns) = expandNode params defaults n ++ expand params defaults ns :=
  rfl

end

end Waymark.Template
