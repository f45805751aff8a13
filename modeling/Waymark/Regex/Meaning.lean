/-
  Waymark.Regex.Meaning

  Applying flags: what an expression as written means.  Flags hold from where they are set to the
  end of the group, across alternatives.  With Unicode mode off an expression must not match part
  of a character that takes several bytes, so whatever could is refused.
-/

import Waymark.Regex.Ast
import Waymark.Regex.Error
import Waymark.Regex.Expr

namespace Waymark.Regex

/-! ## Flags -/

/-- The modes that an expression is read in. -/
structure Modes where
  ignoreCase : Bool
  multiLine : Bool
  dotAll : Bool
  swapGreed : Bool
  unicode : Bool
  crlf : Bool
deriving DecidableEq, Repr

namespace Modes

/-- All modes off, but Unicode as given. -/
def initial (unicode : Bool) : Modes := ⟨false, false, false, false, unicode, false⟩

/-- Switches one mode.  The verbose mode matters to reading only. -/
def set (m : Modes) : Flag × Bool → Modes
  | (.ignoreCase, on) => { m with ignoreCase := on }
  | (.multiLine, on) => { m with multiLine := on }
  | (.dotAll, on) => { m with dotAll := on }
  | (.swapGreed, on) => { m with swapGreed := on }
  | (.unicode, on) => { m with unicode := on }
  | (.crlf, on) => { m with crlf := on }
  | (.verbose, _) => m

/-- Switches several modes, one after the other. -/
def setAll (m : Modes) (flags : List (Flag × Bool)) : Modes := flags.foldl set m

/-- The closure of a set under case, if case does not count. -/
def fold (m : Modes) (s : CharSet) : CharSet :=
  if m.ignoreCase then (if m.unicode then .folded s else .foldedAscii s) else s

/-- The complement of a set, if asked for; it holds characters beyond ASCII. -/
def negate (m : Modes) (negated : Bool) (s : CharSet) : Except Error CharSet :=
  if negated then (if m.unicode then .ok (.compl s) else .error .needsUnicode) else .ok s

end Modes

/-! ## Sets -/

/-- The members of a named class of ASCII characters. -/
def AsciiClass.set : AsciiClass → CharSet
  | .alnum => .ofRanges [('0', '9'), ('A', 'Z'), ('a', 'z')]
  | .alpha => .ofRanges [('A', 'Z'), ('a', 'z')]
  | .ascii => .range '\x00' '\x7f'
  | .blank => .ofRanges [('\t', '\t'), (' ', ' ')]
  | .cntrl => .ofRanges [('\x00', '\x1f'), ('\x7f', '\x7f')]
  | .digit => .range '0' '9'
  | .graph => .range '!' '~'
  | .lower => .range 'a' 'z'
  | .print => .range ' ' '~'
  | .punct => .ofRanges [('!', '/'), (':', '@'), ('[', '`'), ('\x7b', '~')]
  | .space => .space false
  | .upper => .range 'A' 'Z'
  | .word => .asciiWord
  | .xdigit => .ofRanges [('0', '9'), ('A', 'F'), ('a', 'f')]

/-- The members of a shorthand class. -/
def Shorthand.set (unicode : Bool) : Shorthand → CharSet
  | .digit => .digit unicode
  | .space => .space unicode
  | .word => .word unicode

/-- The set that a property has. -/
def PropertyQuery.set (m : Modes) (q : PropertyQuery) : Except Error CharSet :=
  if m.unicode then
    match q.resolve? with
    | some s => .ok s
    | none => .error .propertyUnknown
  else .error .needsUnicode

/-- The character of a literal as a member of a class.  With Unicode mode off classes hold ASCII
    only. -/
def Literal.member (m : Modes) (l : Literal) : Except Error Char :=
  if m.unicode || l.char.toNat < 128 then .ok l.char else .error .needsUnicode

mutual

/-- The members of what stands between brackets. -/
def ClassSet.meaning (m : Modes) : ClassSet → Except Error CharSet
  | .empty => .ok .empty
  | .literal l => do return .single (← l.member m)
  | .range first last => do return .range (← first.member m) (← last.member m)
  | .ascii negated name => m.negate negated (m.fold name.set)
  | .shorthand negated s => m.negate negated (s.set m.unicode)
  | .property negated q => do m.negate negated (m.fold (← q.set m))
  | .bracketed negated set => do m.negate negated (m.fold (← set.meaning m))
  | .union items => ClassSet.meaningAll m items
  | .op kind lhs rhs => do
    let a := m.fold (← lhs.meaning m)
    let b := m.fold (← rhs.meaning m)
    match kind with
    | .intersection => return .inter a b
    | .difference => return .diff a b
    | .symmetricDifference => return .symmDiff a b

/-- The union of the members of several items. -/
def ClassSet.meaningAll (m : Modes) : List ClassSet → Except Error CharSet
  | [] => .ok .empty
  | item :: items => do return .union (← item.meaning m) (← ClassSet.meaningAll m items)

end

/-! ## Expressions -/

/-- The condition of an assertion. -/
def Assertion.look (m : Modes) : Assertion → Look
  | .lineStart => if m.multiLine then .lineStart m.crlf else .textStart
  | .lineEnd => if m.multiLine then .lineEnd m.crlf else .textEnd
  | .textStart => .textStart
  | .textEnd => .textEnd
  | .wordBoundary => .wordBoundary m.unicode
  | .notWordBoundary => .notWordBoundary m.unicode
  | .wordStart => .wordStart m.unicode
  | .wordEnd => .wordEnd m.unicode
  | .wordStartHalf => .wordStartHalf m.unicode
  | .wordEndHalf => .wordEndHalf m.unicode

/-- The characters that a dot stands for. -/
def dotSet (m : Modes) : CharSet :=
  if m.dotAll then .all
  else if m.crlf then .compl (.ofRanges [('\n', '\n'), ('\r', '\r')])
  else .compl (.single '\n')

/-- The set of a literal outside of classes.  Beyond ASCII, case counts while Unicode mode is
    off. -/
def Literal.set (m : Modes) (l : Literal) : Except Error CharSet :=
  if m.unicode then .ok (m.fold (.single l.char))
  else if l.char.toNat < 128 then .ok (m.fold (.single l.char))
  else if l.isByte then .error .needsUnicode
  else .ok (.single l.char)

mutual

/-- What an expression means, and the modes that hold behind it. -/
def Ast.meaning (m : Modes) : Ast → Except Error (Expr × Modes)
  | .empty => .ok (.empty, m)
  | .flags fs => .ok (.empty, m.setAll fs)
  | .literal l => do return (.set (← l.set m), m)
  | .dot => if m.unicode then .ok (.set (dotSet m), m) else .error .needsUnicode
  | .assertion a => .ok (.look (a.look m), m)
  | .shorthand negated s => do return (.set (← m.negate negated (s.set m.unicode)), m)
  | .property negated q => do return (.set (← m.negate negated (m.fold (← q.set m))), m)
  | .bracketed negated set => do return (.set (← m.negate negated (m.fold (← set.meaning m))), m)
  | .repetition least most greedy body => do
    let (e, m') ← body.meaning m
    return (.repeated least most (greedy != m.swapGreed) e, m')
  | .group (.capture index) body => do
    let (e, _) ← body.meaning m
    return (.group index e, m)
  | .group (.plain fs) body => do
    let (e, _) ← body.meaning (m.setAll fs)
    return (e, m)
  | .alternation branches => do
    let (es, m') ← Ast.meaningAll m branches
    return (.altAll es, m')
  | .concat items => do
    let (es, m') ← Ast.meaningAll m items
    return (.catAll es, m')

/-- What several expressions mean, each in the modes that hold behind the one before. -/
def Ast.meaningAll (m : Modes) : List Ast → Except Error (List Expr × Modes)
  | [] => .ok ([], m)
  | item :: items => do
    let (e, m') ← item.meaning m
    let (es, m'') ← Ast.meaningAll m' items
    return (e :: es, m'')

end

end Waymark.Regex
