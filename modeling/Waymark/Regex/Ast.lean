/-
  Waymark.Regex.Ast

  Regular expressions as written, before flags are applied, and how deep they are nested.
-/

import Waymark.Regex.Property

namespace Waymark.Regex

/-! ## Parts -/

/-- A character as written; `isByte` if it is an escape of two hexadecimal digits. -/
structure Literal where
  char : Char
  isByte : Bool
deriving DecidableEq, Repr

/-- The classes that an escape of one letter stands for. -/
inductive Shorthand where
  | digit
  | space
  | word
deriving DecidableEq, Repr

/-- The named classes of ASCII characters. -/
inductive AsciiClass where
  | alnum | alpha | ascii | blank | cntrl | digit | graph | lower | print | punct | space | upper
  | word | xdigit
deriving DecidableEq, Repr

/-- The operations between the sets of a class. -/
inductive SetOp where
  | intersection
  | difference
  | symmetricDifference
deriving DecidableEq, Repr

/-- What stands between the brackets of a class. -/
inductive ClassSet where
  | empty
  | literal (l : Literal)
  | range (first last : Literal)
  | ascii (negated : Bool) (name : AsciiClass)
  | shorthand (negated : Bool) (s : Shorthand)
  | property (negated : Bool) (q : PropertyQuery)
  | bracketed (negated : Bool) (set : ClassSet)
  | union (items : List ClassSet)
  | op (kind : SetOp) (lhs rhs : ClassSet)
deriving Repr, Inhabited

/-- Conditions on the place between two characters. -/
inductive Assertion where
  | lineStart
  | lineEnd
  | textStart
  | textEnd
  | wordBoundary
  | notWordBoundary
  | wordStart
  | wordEnd
  | wordStartHalf
  | wordEndHalf
deriving DecidableEq, Repr

/-- The modes that flags switch. -/
inductive Flag where
  | ignoreCase
  | multiLine
  | dotAll
  | swapGreed
  | unicode
  | crlf
  | verbose
deriving DecidableEq, Repr

/-- What a group does besides grouping. -/
inductive GroupKind where
  | capture (index : Nat)
  | plain (flags : List (Flag × Bool))
deriving DecidableEq, Repr

/-- A regular expression as written. -/
inductive Ast where
  | empty
  | flags (flags : List (Flag × Bool))
  | literal (l : Literal)
  | dot
  | assertion (a : Assertion)
  | shorthand (negated : Bool) (s : Shorthand)
  | property (negated : Bool) (q : PropertyQuery)
  | bracketed (negated : Bool) (set : ClassSet)
  | repetition (least : Nat) (most : Option Nat) (greedy : Bool) (body : Ast)
  | group (kind : GroupKind) (body : Ast)
  | alternation (branches : List Ast)
  | concat (items : List Ast)
deriving Repr, Inhabited

/-! ## Building -/

/-- The set of a list of items: nothing, the one item, or their union. -/
def ClassSet.ofItems : List ClassSet → ClassSet
  | [] => .empty
  | [item] => item
  | items => .union items

/-- The expression of a list of items one after another. -/
def Ast.ofItems : List Ast → Ast
  | [] => .empty
  | [item] => item
  | items => .concat items

/-- The expression of a list of alternatives. -/
def Ast.ofBranches : List Ast → Ast
  | [] => .empty
  | [branch] => branch
  | branches => .alternation branches

/-! ## Nesting -/

mutual

/-- How deep a class is nested. -/
def ClassSet.depth : ClassSet → Nat
  | .bracketed _ set => set.depth + 1
  | .union items => ClassSet.depthAll items + 1
  | .op _ lhs rhs => max lhs.depth rhs.depth + 1
  | _ => 0

/-- The greatest depth of several sets. -/
def ClassSet.depthAll : List ClassSet → Nat
  | [] => 0
  | item :: items => max item.depth (ClassSet.depthAll items)

end

mutual

/-- How deep an expression is nested.  Groups, repetitions, lists of items, lists of alternatives
    and classes each count one. -/
def Ast.depth : Ast → Nat
  | .bracketed _ set => set.depth + 1
  | .repetition _ _ _ body => body.depth + 1
  | .group _ body => body.depth + 1
  | .alternation branches => Ast.depthAll branches + 1
  | .concat items => Ast.depthAll items + 1
  | _ => 0

/-- The greatest depth of several expressions. -/
def Ast.depthAll : List Ast → Nat
  | [] => 0
  | item :: items => max item.depth (Ast.depthAll items)

end

namespace Ast

@[simp] theorem depth_literal (l : Literal) : (literal l).depth = 0 := rfl

@[simp] theorem depth_repetition (least : Nat) (most : Option Nat) (greedy : Bool) (body : Ast) :
    (repetition least most greedy body).depth = body.depth + 1 := rfl

@[simp] theorem depth_group (kind : GroupKind) (body : Ast) :
    (group kind body).depth = body.depth + 1 := rfl

@[simp] theorem depth_alternation (branches : List Ast) :
    (alternation branches).depth = depthAll branches + 1 := rfl

@[simp] theorem depth_concat (items : List Ast) : (concat items).depth = depthAll items + 1 := rfl

@[simp] theorem depthAll_nil : depthAll [] = 0 := rfl

@[simp] theorem depthAll_cons (item : Ast) (items : List Ast) :
    depthAll (item :: items) = max item.depth (depthAll items) := rfl

end Ast

end Waymark.Regex
