/-
  Waymark.Template.Parse

  Reading a template.  Reading never fails: brackets and parentheses that enclose nothing
  well-formed are literal text.  `( … )` is a group when its closing parenthesis is there; behind a
  parenthesis that is never closed no group is looked for.
-/

import Waymark.Template.Node

namespace Waymark.Template

/-! ## Parameters and literal text -/

/-- The characters that begin a parameter's name. -/
def isNameStart (c : Char) : Bool := c.isAlpha || c == '_'

/-- The characters of a parameter's name. -/
def isNameChar (c : Char) : Bool := c.isAlphanum || c == '_' || c == '-'

/-- The name in front of a closing bracket and the text behind it, given the text behind the
    opening one. -/
def readName : List Char → Option (String × List Char)
  | c :: s =>
    if isNameStart c then
      match s.dropWhile isNameChar with
      | '>' :: rest => some (String.ofList (c :: s.takeWhile isNameChar), rest)
      | _ => none
    else none
  | [] => none

/-- Whether a character is an angle bracket. -/
def isAngle (c : Char) : Bool := c == '<' || c == '>'

/-- Splits text without groups into parameters, runs of text without angle brackets and single
    angle brackets.  Every step takes at least one character, so the length is fuel enough. -/
def tokensWith : Nat → List Char → List Node
  | 0, _ => []
  | _, [] => []
  | fuel + 1, c :: s =>
    if c = '<' then
      match readName s with
      | some (name, rest) => .param name :: tokensWith fuel rest
      | none => .literal "<" :: tokensWith fuel s
    else if c = '>' then .literal ">" :: tokensWith fuel s
    else
      .literal (String.ofList (c :: s.takeWhile (!isAngle ·)))
        :: tokensWith fuel (s.dropWhile (!isAngle ·))

/-- The nodes of text without groups. -/
def tokens (s : List Char) : List Node := tokensWith s.length s

/-! ## Groups -/

/-- The text up to the parenthesis that closes the group, and the text behind it.  `depth` counts
    the groups opened inside. -/
def splitGroup : Nat → List Char → Option (List Char × List Char)
  | _, [] => none
  | depth, c :: s =>
    if c = ')' then
      match depth with
      | 0 => some ([], s)
      | depth + 1 => (splitGroup depth s).map fun (body, rest) => (c :: body, rest)
    else if c = '(' then (splitGroup (depth + 1) s).map fun (body, rest) => (c :: body, rest)
    else (splitGroup depth s).map fun (body, rest) => (c :: body, rest)

/-- The nodes of a text.  The body of a group and the text behind it are shorter than the text, so
    one more than the length is fuel enough. -/
def parseWith : Nat → List Char → List Node
  | 0, _ => []
  | fuel + 1, s =>
    let head := s.takeWhile (· != '(')
    match s.dropWhile (· != '(') with
    | [] => tokens head
    | c :: tail =>
      match splitGroup 0 tail with
      | some (body, rest) =>
        tokens head ++ .group (parseWith fuel body) :: parseWith fuel rest
      | none => tokens head ++ tokens (c :: tail)

/-- The tree of a template. -/
def parse (text : String) : List Node :=
  let s := text.toList
  parseWith (s.length + 1) s

end Waymark.Template
