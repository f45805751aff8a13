/-
  Waymark.Toml.Table

  Tables as they grow while a text is read.  A table that was only mentioned on the way to another
  one may still be defined; one made by dotted keys may be extended by dotted keys only.
-/

import Waymark.Json.Document

namespace Waymark.Toml

open Waymark.Json

/-- How a table came to be: `implicit` if it has no header of its own, `dotted` if dotted keys
    made it. -/
structure Origin where
  implicit : Bool
  dotted : Bool
deriving DecidableEq, Repr

/-- What stands under a key: a finished value, a table, or a list of tables. -/
inductive Item where
  | value (d : Document)
  | table (origin : Origin) (entries : List (String × Item))
  | tables (elements : List (List (String × Item)))
deriving Inhabited

/-- A table. -/
structure Table where
  origin : Origin
  entries : List (String × Item)

namespace Table

/-- A table with a header of its own. -/
def defined : Table := ⟨⟨false, false⟩, []⟩

/-- The item of a table. -/
def item (t : Table) : Item := .table t.origin t.entries

/-- The table with another item under a key. -/
def replace (t : Table) (key : String) (i : Item) : Table :=
  if (t.entries.lookup key).isSome then
    { t with entries := t.entries.map fun e => if e.1 = key then (key, i) else e }
  else { t with entries := t.entries ++ [(key, i)] }

/-- The table without the item under a key. -/
def remove (t : Table) (key : String) : Table :=
  { t with entries := t.entries.filter (·.1 != key) }

/-- Changes the table at the end of a path, making the tables on the way that are missing.  Of a
    list of tables the last one is meant.  Dotted keys do not lead into tables with a header. -/
def modify (dotted : Bool) (change : Table → Option Table) : List String → Table → Option Table
  | [], t => change t
  | key :: path, t =>
    match t.entries.lookup key with
    | none => do
      let u ← modify dotted change path ⟨⟨true, dotted⟩, []⟩
      return t.replace key u.item
    | some (.value _) => none
    | some (.table origin entries) =>
      if dotted && !origin.implicit then none
      else do
        let u ← modify dotted change path ⟨origin, entries⟩
        return t.replace key u.item
    | some (.tables elements) => do
      let last ← elements.getLast?
      let u ← modify dotted change path ⟨⟨false, false⟩, last⟩
      return t.replace key (.tables (elements.dropLast ++ [u.entries]))

/-- Puts a value under a dotted key, where nothing stands yet. -/
def put (t : Table) (path : List String) (key : String) (d : Document) : Option Table :=
  let change := fun (u : Table) =>
    if u.origin.dotted == path.isEmpty then none
    else if (u.entries.lookup key).isSome then none
    else some (u.replace key (.value d))
  modify true change path t

end Table

mutual

/-- The document of an item. -/
def Item.document : Item → Document
  | .value d => d
  | .table _ entries => .object (Item.fields entries)
  | .tables elements => .array (Item.objects elements)

/-- The fields of the document of a table. -/
def Item.fields : List (String × Item) → List (Option String × Document)
  | [] => []
  | (key, i) :: entries => (some key, i.document) :: Item.fields entries

/-- The documents of a list of tables. -/
def Item.objects : List (List (String × Item)) → List Document
  | [] => []
  | entries :: elements => .object (Item.fields entries) :: Item.objects elements

end

/-- The document of a table. -/
def Table.document (t : Table) : Document := t.item.document

end Waymark.Toml
