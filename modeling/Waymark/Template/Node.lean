/-
  Waymark.Template.Node

  The tree of a URL template: literal text, parameters `<name>` and optional groups `( … )`, which
  nest.  `source` writes a tree back; `dependents` lists the parameters that decide whether a
  group is written.
-/

namespace Waymark.Template

/-- A part of a template. -/
inductive Node where
  | literal (text : String)
  | param (name : String)
  | group (children : List Node)
deriving Inhabited, Repr

namespace Node

/-! ## Equality -/

mutual

/-- Equality of nodes is decidable. -/
def decEq : (a b : Node) → Decidable (a = b)
  | .literal s, .literal t =>
    if h : s = t then .isTrue (h ▸ rfl) else .isFalse (fun e => h (by cases e; rfl))
  | .param s, .param t =>
    if h : s = t then .isTrue (h ▸ rfl) else .isFalse (fun e => h (by cases e; rfl))
  | .group as, .group bs =>
    match decEqList as bs with
    | .isTrue h => .isTrue (h ▸ rfl)
    | .isFalse h => .isFalse (fun e => h (by cases e; rfl))
  | .literal _, .param _ | .literal _, .group _ | .param _, .literal _
  | .param _, .group _ | .group _, .literal _ | .group _, .param _ => .isFalse (by simp)

/-- Equality of lists of nodes is decidable. -/
def decEqList : (as bs : List Node) → Decidable (as = bs)
  | [], [] => .isTrue rfl
  | a :: as, b :: bs =>
    match decEq a b, decEqList as bs with
    | .isTrue h, .isTrue hs => .isTrue (h ▸ hs ▸ rfl)
    | .isFalse h, _ => .isFalse (fun e => h (by cases e; rfl))
    | _, .isFalse hs => .isFalse (fun e => hs (by cases e; rfl))
  | [], _ :: _ | _ :: _, [] => .isFalse (by simp)

end

instance : DecidableEq Node := decEq

/-! ## Text -/

mutual

/-- The text that writes a node. -/
def source : Node → String
  | .literal text => text
  | .param name => "<" ++ name ++ ">"
  | .group children => "(" ++ sourceAll children ++ ")"

/-- The text that writes nodes one after another. -/
def sourceAll : List Node → String
  | [] => ""
  | n :: ns => n.source ++ sourceAll ns

end

@[simp] theorem source_literal (text : String) : (literal text).source = text := rfl

@[simp] theorem source_param (name : String) : (param name).source = "<" ++ name ++ ">" := rfl

@[simp] theorem source_group (children : List Node) :
    (group children).source = "(" ++ sourceAll children ++ ")" := rfl

@[simp] theorem sourceAll_nil : sourceAll [] = "" := rfl

@[simp] theorem sourceAll_cons (n : Node) (ns : List Node) :
    sourceAll (n :: ns) = n.source ++ sourceAll ns := rfl

/-! ## Parameters -/

mutual

/-- The parameters of a node in the order of the template, each as often as it occurs. -/
def params : Node → List String
  | .literal _ => []
  | .param name => [name]
  | .group children => paramsAll children

/-- The parameters of a list of nodes in the order of the template. -/
def paramsAll : List Node → List String
  | [] => []
  | n :: ns => n.params ++ paramsAll ns

end

@[simp] theorem params_literal (text : String) : (literal text).params = [] := rfl

@[simp] theorem params_param (name : String) : (param name).params = [name] := rfl

@[simp] theorem params_group (children : List Node) :
    (group children).params = paramsAll children := rfl

@[simp] theorem paramsAll_nil : paramsAll [] = [] := rfl

@[simp] theorem paramsAll_cons (n : Node) (ns : List Node) :
    paramsAll (n :: ns) = n.params ++ paramsAll ns := rfl

/-- Appends a name to a list unless it is there already. -/
def addName (names : List String) (name : String) : List String :=
  if name ∈ names then names else names ++ [name]

mutual

/-- Adds the parameters of a node to those collected before it.  A group adds its own dependents,
    which hold each name once. -/
def collect (names : List String) : Node → List String
  | .literal _ => names
  | .param name => addName names name
  | .group children => (collectAll [] children).foldl addName names

/-- Adds the parameters of nodes, one node after another. -/
def collectAll (names : List String) : List Node → List String
  | [] => names
  | n :: ns => collectAll (collect names n) ns

end

section

variable (names : List String)

@[simp] theorem collect_literal (text : String) : collect names (literal text) = names := rfl

@[simp] theorem collect_param (name : String) :
    collect names (param name) = addName names name := rfl

@[simp] theorem collect_group (children : List Node) :
    collect names (group children) = (collectAll [] children).foldl addName names := rfl

@[simp] theorem collectAll_nil : collectAll names [] = names := rfl

@[simp] theorem collectAll_cons (n : Node) (ns : List Node) :
    collectAll names (n :: ns) = collectAll (collect names n) ns := rfl

end

/-- The dependents of a group with these children: every parameter inside it, at any depth, once
    and in the order of first occurrence. -/
def dependents (children : List Node) : List String := collectAll [] children

end Node

end Waymark.Template
