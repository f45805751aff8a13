/-
  Waymark.Regex.Property

  Unicode properties by name: properties proper, general categories, scripts, script extensions,
  ages and the kinds of characters at the borders of grapheme clusters, words and sentences.  Case,
  blanks, hyphens, underscores and a leading `is` do not count in a name.
-/

import Waymark.Regex.CharSet
import Waymark.Unicode.Age
import Waymark.Unicode.Break
import Waymark.Unicode.Script

namespace Waymark.Regex

open Waymark.Unicode

/-- How a property is asked for: by a name alone, or by a name and a value. -/
inductive PropertyQuery where
  | named (name : String)
  | valued (name value : String)
deriving DecidableEq, Repr

namespace PropertyQuery

/-- What is left of a name when letter case and separators do not count. -/
def bareName (s : List Char) : List Char :=
  (s.filter fun c => c.toNat < 128 && c != ' ' && c != '_' && c != '-').map Char.toLower

/-- A name in the form that tables use.  A leading `is` is dropped, but `isc` is not the category
    `c`. -/
def normalize (name : String) : String :=
  match name.toList with
  | a :: b :: rest =>
    if a.toLower = 'i' ∧ b.toLower = 's' then
      let bare := bareName rest
      if bare = ['c'] then "isc" else String.ofList bare
    else String.ofList (bareName (a :: b :: rest))
  | s => String.ofList (bareName s)

/-- The set that a table has for a name. -/
def tableSet? (t : Table) (name : String) : Option CharSet := (t.find? name).map .table

/-- The set of a category's name. -/
def category? (name : String) : Option CharSet :=
  let assigned := CharSet.unionAll (categories.lines.map fun line => .table line.2)
  if name = "any" then some .all
  else if name = "ascii" then some (.range '\x00' '\x7f')
  else if name = "assigned" then some assigned
  else if name = "cn" ∨ name = "unassigned" then some (.compl assigned)
  else if name = "c" ∨ name = "other" then
    some (.union (CharSet.unionAll (["cc", "cf", "co"].map fun n => .table (categoryRanges n)))
      (.compl assigned))
  else
    match categoryGroups.find? (name ∈ ·.1) with
    | some (_, members) =>
      some (CharSet.unionAll (members.map fun n => .table (categoryRanges n)))
    | none => tableSet? categories name

/-- The set of characters used with a script. -/
def scriptExtension? (name : String) : Option CharSet :=
  match scripts.lines.find? (name ∈ ·.1) with
  | some (names, own) =>
    some (.table ((names.head?.bind scriptExtensions.find?).getD own))
  | none => none

/-- The set of the characters that a version of Unicode has. -/
def age? (version : String) : Option CharSet :=
  (rangesUpTo? version).map fun sets => CharSet.unionAll (sets.map .table)

/-- The set that a query asks for.  A name alone is a property before it is a category, and a
    category before it is a script; `cf`, `sc` and `lc` are categories. -/
def resolve? : PropertyQuery → Option CharSet
  | named name =>
    let n := normalize name
    (tableSet? properties n).orElse fun _ => (category? n).orElse fun _ => tableSet? scripts n
  | valued name value =>
    let n := normalize name
    let v := normalize value
    if n = "gc" ∨ n = "generalcategory" then category? v
    else if n = "sc" ∨ n = "script" then tableSet? scripts v
    else if n = "scx" ∨ n = "scriptextensions" then scriptExtension? v
    else if n = "age" then age? v
    else if n = "gcb" ∨ n = "graphemeclusterbreak" then tableSet? graphemeBreaks v
    else if n = "wb" ∨ n = "wordbreak" then tableSet? wordBreaks v
    else if n = "sb" ∨ n = "sentencebreak" then tableSet? sentenceBreaks v
    else none

end PropertyQuery

end Waymark.Regex
