/-
  Waymark.Options.Decode

  Reading options from a document.  Fields that are not known are ignored, whatever they hold; a
  known field may be given once, under one of its names.
-/

import Waymark.Error
import Waymark.Json.Document
import Waymark.Options.Basic
import Waymark.Toml.Reader

namespace Waymark

open Waymark.Json

/-! ## Parts -/

/-- The text that a document is. -/
def Json.Document.text? : Document → Option String
  | .text s => s
  | _ => none

/-- The fields of an object, if each key is a text. -/
def Json.Document.fields? : Document → Option (List (String × Document))
  | .object fs => fs.mapM fun (k, d) => k.map (·, d)
  | _ => none

/-- The map of an object whose values can all be read; of fields with one key the last counts. -/
def Json.Document.dict? {α : Type} (read : Document → Option α) (d : Document) : Option (Dict α) := do
  let fs ← d.fields?
  let es ← fs.mapM fun (k, d) => (read d).map (k, ·)
  return Dict.ofList es

/-- A condition: a text is an expression, a list of texts the values allowed. -/
def Condition.ofDocument? : Document → Option Condition
  | .text s => s.map .expression
  | .array ds => (ds.mapM Document.text?).map .oneOf
  | _ => none

/-! ## Options -/

namespace Options

/-- How a kind of document writes options. -/
structure Dialect where
  /-- The value of a document. -/
  value? : Document → Option Value
  /-- Whether a list of options may be longer than there are options. -/
  surplus : Bool

/-- Options as JSON text: every value has to be one, two levels below the top. -/
def jsonDialect : Dialect := ⟨Document.valueWithin (Document.nesting - 2), false⟩

/-- Options as a value: nothing in it lacks a value, and it is nested as deep as it is. -/
def valueDialect : Dialect := ⟨fun d => some d.valueOrNull, false⟩

/-- Options as TOML: numbers that JSON lacks are null. -/
def tomlDialect : Dialect := ⟨fun d => some d.valueOrNull, true⟩

/-- The options as they are given, each one there or not. -/
structure Given where
  pattern : Option Document
  name : Option Document
  conditions : Option Document
  defaults : Option Document
  data : Option Document
  slashOptional : Option Document

/-- The name of a route, which may be null. -/
def readName : Document → Option (Option String)
  | .null => some none
  | d => d.text?.map some

/-- A truth value. -/
def readFlag : Document → Option Bool
  | .bool b => some b
  | _ => none

/-- Reads an option that has a default. -/
def optional {α : Type} (d : Option Document) (default : α) (read : Document → Option α) : Option α :=
  match d with
  | none => some default
  | some d => read d

/-- The options that are given, if each has the right form. -/
def Given.read (dialect : Dialect) (g : Given) : Option Options := do
  let pattern ← (← g.pattern).text?
  let name ← optional g.name none readName
  let conditions ← optional g.conditions .empty (Document.dict? Condition.ofDocument?)
  let defaults ← optional g.defaults .empty (Document.dict? Document.text?)
  let data ← optional g.data .empty (Document.dict? dialect.value?)
  let slashOptional ← optional g.slashOptional true readFlag
  return ⟨pattern, name, conditions, defaults, data, slashOptional, none, none⟩

/-- The names of the option about the slash at the end. -/
def slashNames : List String :=
  ["trailing_slash_optional", "trailingSlashOptional", "isTrailingSlashOptional"]

/-- The field under one of several names; `none` if there is more than one. -/
def only (fs : List (String × Document)) (names : List String) : Option (Option Document) :=
  match fs.filter (fun f => names.contains f.1) with
  | [] => some none
  | [f] => some (some f.2)
  | _ => none

/-- The options in the fields of an object. -/
def Given.ofFields (fs : List (String × Document)) : Option Given := do
  return ⟨← only fs ["pattern"], ← only fs ["name"], ← only fs ["conditions"],
    ← only fs ["defaults"], ← only fs ["data"], ← only fs slashNames⟩

/-- The options in a list, in the order of their declaration. -/
def Given.ofItems (ds : List Document) : Given :=
  ⟨ds[0]?, ds[1]?, ds[2]?, ds[3]?, ds[4]?, ds[5]?⟩

/-- Options from a document: an object of fields or a list. -/
def ofDocument? (dialect : Dialect) : Document → Option Options
  | .object fs => do
    let fs ← (Document.object fs).fields?
    (← Given.ofFields fs).read dialect
  | .array ds =>
    if ds.length ≤ 6 || dialect.surplus then (Given.ofItems ds).read dialect else none
  | _ => none

/-- Options from a value. -/
def ofValue (v : Value) : Except Error Options :=
  match ofDocument? valueDialect (.ofValue v) with
  | some o => .ok o
  | none => .error .badOptions

/-- Options from JSON text. -/
def ofJson (text : String) : Except Error Options :=
  match (Document.read text).bind (ofDocument? jsonDialect) with
  | some o => .ok o
  | none => .error .badOptions

/-- Options from TOML text. -/
def ofToml (text : String) : Except Error Options :=
  match (Toml.read text).bind (ofDocument? tomlDialect) with
  | some o => .ok o
  | none => .error .badTable

/-- The options of the routes that a document lists under `route`, none if it has no such list. -/
def listOfDocument? (dialect : Dialect) (d : Document) : Option (List Options) := do
  match ← only (← d.fields?) ["route"] with
  | none => return []
  | some (.array ds) => ds.mapM (ofDocument? dialect)
  | some _ => none

/-- The options of the routes of a table in TOML text. -/
def listOfToml (text : String) : Except Error (List Options) :=
  match (Toml.read text).bind (listOfDocument? tomlDialect) with
  | some os => .ok os
  | none => .error .badTable

end Options

end Waymark
