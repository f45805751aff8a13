/-
  Waymark.Regex.Parse.Basic

  Reading an expression, one part at a time.  Groups that are open wait on a list of scopes while
  their contents are read.
-/

import Waymark.Regex.Parse.Class
import Waymark.Regex.Parse.Group

namespace Waymark.Regex.Parse

/-! ## State -/

/-- What an open group interrupts: the alternatives and items around it, newest first, and the
    verbose mode to return to. -/
structure Scope where
  kind : GroupKind
  branches : List Ast
  items : List Ast
  verbose : Bool

/-- An expression that is being read. -/
structure State where
  /-- The groups that are open, innermost first. -/
  scopes : List Scope
  /-- The finished alternatives of the innermost group, newest first. -/
  branches : List Ast
  /-- The items of the alternative that is being read, newest first. -/
  items : List Ast
  /-- Whether blanks and comments do not count. -/
  verbose : Bool
  /-- How many groups capture so far. -/
  captures : Nat
  /-- The names of groups so far. -/
  names : List String

namespace State

/-- Before anything is read. -/
def initial : State := ⟨[], [], [], false, 0, []⟩

/-- Adds an item. -/
def push (st : State) (item : Ast) : State := { st with items := item :: st.items }

/-- The contents of the innermost group so far. -/
def contents (st : State) : Ast :=
  Ast.ofBranches ((Ast.ofItems st.items.reverse :: st.branches).reverse)

/-- Ends an alternative. -/
def branch (st : State) : State :=
  { st with branches := Ast.ofItems st.items.reverse :: st.branches, items := [] }

/-- Opens a group. -/
def enter (st : State) (kind : GroupKind) (verbose : Bool) : State :=
  { st with
    scopes := ⟨kind, st.branches, st.items, st.verbose⟩ :: st.scopes
    branches := [], items := [], verbose := verbose }

/-- Opens what an opening parenthesis begins. -/
def begin (st : State) : Opening → Except Error State
  | .capture none =>
    .ok { st.enter (.capture (st.captures + 1)) st.verbose with captures := st.captures + 1 }
  | .capture (some name) =>
    if name ∈ st.names then .error .groupNameTwice
    else
      .ok { st.enter (.capture (st.captures + 1)) st.verbose with
        captures := st.captures + 1, names := name :: st.names }
  | .plain flags => .ok (st.enter (.plain flags) (verboseAfter st.verbose flags))
  | .flags flags => .ok { st.push (.flags flags) with verbose := verboseAfter st.verbose flags }

/-- Closes the innermost group. -/
def leave (st : State) : Except Error State :=
  match st.scopes with
  | [] => .error .groupUnopened
  | scope :: scopes =>
    .ok { st with
      scopes := scopes
      branches := scope.branches
      items := .group scope.kind st.contents :: scope.items
      verbose := scope.verbose }

/-- Repeats the last item.  Flags cannot be repeated. -/
def «repeat» (st : State) (c : Counts) : Except Error State :=
  match st.items with
  | [] | .empty :: _ | .flags _ :: _ => .error .repetitionMissing
  | item :: items =>
    .ok { st with items := .repetition c.least c.most c.greedy item :: items }

/-- The whole expression, when no group is open. -/
def finish (st : State) : Except Error Ast :=
  match st.scopes with
  | [] => .ok st.contents
  | _ :: _ => .error .groupUnclosed

end State

/-! ## Steps -/

/-- The expression of a part. -/
def astOf : Part → Ast
  | .literal l => .literal l
  | .dot => .dot
  | .assertion a => .assertion a
  | .shorthand negated s => .shorthand negated s
  | .property negated q => .property negated q

/-- Reads one part, whose first character is `c`. -/
def step (st : State) (c : Char) (s : List Char) : Except Error (State × List Char) :=
  match c with
  | '(' => do
    let (opening, rest) ← readOpening st.verbose s
    return (← st.begin opening, rest)
  | ')' => do return (← st.leave, s)
  | '|' => .ok (st.branch, s)
  | '[' => do
    let (item, rest) ← readClass st.verbose s
    return (st.push item, rest)
  | '?' =>
    let (greedy, rest) := readGreed s
    do return (← st.repeat ⟨0, some 1, greedy⟩, rest)
  | '*' =>
    let (greedy, rest) := readGreed s
    do return (← st.repeat ⟨0, none, greedy⟩, rest)
  | '+' =>
    let (greedy, rest) := readGreed s
    do return (← st.repeat ⟨1, none, greedy⟩, rest)
  | '{' => do
    let (counts, rest) ← readCounts st.verbose s
    return (← st.repeat counts, rest)
  | '\\' => do
    let (part, rest) ← readEscape st.verbose s
    return (st.push (astOf part), rest)
  | c => .ok (st.push (astOf (partOf c)), s)

/-- Reads the rest of an expression.  Every step takes at least one character, so one more than
    the length is fuel enough. -/
def readFrom : Nat → State → List Char → Except Error Ast
  | 0, st, _ => st.finish
  | fuel + 1, st, s =>
    match skip st.verbose s with
    | [] => st.finish
    | c :: s =>
      match step st c s with
      | .ok (st, rest) => readFrom fuel st rest
      | .error e => .error e

/-- The greatest depth of an expression. -/
def depthLimit : Nat := 250

/-- Reads an expression. -/
def read (s : List Char) : Except Error Ast := do
  let ast ← readFrom (s.length + 1) .initial s
  if ast.depth ≤ depthLimit then return ast else throw .nestedTooDeep

end Waymark.Regex.Parse
