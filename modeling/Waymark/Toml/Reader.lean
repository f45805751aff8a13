/-
  Waymark.Toml.Reader

  Reading TOML text.  The text is a row of lines: entries, headers of tables and comments.  The
  table under the last header is kept apart until the next header.
-/

import Waymark.Toml.Scalar
import Waymark.Toml.Table

namespace Waymark.Toml

open Waymark.Json

/-! ## Keys -/

/-- Values may be nested, and dotted keys may have parts, below this number. -/
def nesting : Nat := 80

/-- The characters of a key without quotes. -/
def isBareChar (c : Char) : Bool := c.isAlphanum || c == '-' || c == '_'

/-- Reads one part of a key. -/
def readKeyPart? (s : List Char) : Option (String × List Char) :=
  match s with
  | '"' :: r => (readBasic (r.length + 1) r).map fun (k, r) => (String.ofList k, r)
  | '\'' :: r => (readLiteral r).map fun (k, r) => (String.ofList k, r)
  | s =>
    match s.takeWhile isBareChar with
    | [] => none
    | k => some (String.ofList k, s.dropWhile isBareChar)

/-- Reads the parts of a key, with the blanks around them. -/
def readKeyParts : Nat → List Char → Option (List String × List Char)
  | 0, _ => none
  | fuel + 1, s => do
    let (k, r) ← readKeyPart? (skipBlanks s)
    match skipBlanks r with
    | '.' :: r =>
      let (ks, r) ← readKeyParts fuel r
      return (k :: ks, r)
    | r => return ([k], r)

/-- Reads a key: the parts before the last one, and the last one. -/
def readKey? (s : List Char) : Option ((List String × String) × List Char) := do
  let (ks, r) ← readKeyParts (s.length + 1) s
  let last ← ks.getLast?
  if ks.length < nesting then return ((ks.dropLast, last), r) else none

/-! ## Values -/

/-- The text behind a comment, which ends before a line break or at the end of the text. -/
def skipComment? (s : List Char) : Option (List Char) :=
  match s.dropWhile isTextChar with
  | [] => some []
  | r => (newline? r).map fun _ => r

/-- The text behind blanks, line breaks and comments. -/
def skipBetween : Nat → List Char → Option (List Char)
  | 0, _ => none
  | fuel + 1, s =>
    match skipLines s with
    | '#' :: s => do skipBetween fuel (← skipComment? s)
    | s => some s

mutual

/-- Reads a value; `room` is how much deeper it may be nested.  Every step spends a unit of fuel
    and at least one character. -/
def readValue (room : Nat) : Nat → List Char → Option (Document × List Char)
  | 0, _ => none
  | fuel + 1, s =>
    match s with
    | '"' :: _ | '\'' :: _ =>
      (readString? s).map fun (t, r) => (.text (some (String.ofList t)), r)
    | '[' :: r =>
      if 1 < room then
        (readArray (room - 1) fuel r).map fun (ds, r) => (.array ds, r)
      else none
    | '{' :: r =>
      if 1 < room then do
        let (t, r) ← readInline (room - 1) fuel ⟨⟨false, false⟩, []⟩ r
        return (t.document, r)
      else none
    | s => readPlain? s

/-- Reads the values of an array and its closing bracket; a comma may stand behind the last. -/
def readArray (room : Nat) : Nat → List Char → Option (List Document × List Char)
  | 0, _ => none
  | fuel + 1, s => do
    match ← skipBetween (s.length + 1) s with
    | ']' :: r => return ([], r)
    | s =>
      let (d, r) ← readValue room fuel s
      match ← skipBetween (r.length + 1) r with
      | ',' :: r =>
        let (ds, r) ← readArray room fuel r
        return (d :: ds, r)
      | ']' :: r => return ([d], r)
      | _ => none

/-- Reads the entries of an inline table, which stands on one line, and its closing brace. -/
def readInline (room : Nat) : Nat → Table → List Char → Option (Table × List Char)
  | 0, _, _ => none
  | fuel + 1, t, s =>
    match t.entries, skipBlanks s with
    | [], '}' :: r => some (t, r)
    | _, s => do
      let ((path, key), r) ← readKey? s
      match r with
      | '=' :: r =>
        let (d, r) ← readValue room fuel (skipBlanks r)
        let t ← t.put path key d
        match skipBlanks r with
        | ',' :: r => readInline room fuel t r
        | '}' :: r => return (t, r)
        | _ => none
      | _ => none

end

/-! ## Lines -/

/-- What has been read: the tables that are finished, the one under the last header, its path, and
    whether it is an element of a list of tables. -/
structure State where
  root : Table
  current : Table
  path : List String
  isElement : Bool

namespace State

/-- Before anything is read. -/
def initial : State := ⟨.defined, .defined, [], false⟩

/-- Puts the table under the last header to its place. -/
def close (st : State) : Option Table :=
  match st.path.getLast? with
  | none => some st.current
  | some key =>
    let change := fun (u : Table) =>
      if st.isElement then
        match u.entries.lookup key with
        | some (.tables elements) => some (u.replace key (.tables (elements ++ [st.current.entries])))
        | some _ => none
        | none => some (u.replace key (.tables [st.current.entries]))
      else
        match u.entries.lookup key with
        | some _ => none
        | none => some (u.replace key st.current.item)
    Table.modify false change st.path.dropLast st.root

/-- The table at the end of a path without its last part, and the item there under the last part. -/
def itemAt? (root : Table) (path : List String) (key : String) : Option (Option Item) :=
  match path with
  | [] => some (root.entries.lookup key)
  | p :: path =>
    match root.entries.lookup p with
    | none => some none
    | some (.value _) => none
    | some (.table origin entries) => itemAt? ⟨origin, entries⟩ path key
    | some (.tables elements) => do itemAt? ⟨⟨false, false⟩, ← elements.getLast?⟩ path key

/-- Begins a table under a header.  A table that was only implied before keeps what it has. -/
def openTable (st : State) (path : List String) (key : String) : Option State := do
  let root ← st.close
  let root ← Table.modify false some path root
  let fresh := fun entries => (⟨⟨false, false⟩, entries⟩ : Table)
  match ← itemAt? root path key with
  | none => return ⟨root, fresh [], path ++ [key], false⟩
  | some (.table origin entries) =>
    if origin.implicit && !origin.dotted then
      let root ← Table.modify false (fun u => some (u.remove key)) path root
      return ⟨root, fresh entries, path ++ [key], false⟩
    else none
  | some _ => none

/-- Begins an element of a list of tables. -/
def openElement (st : State) (path : List String) (key : String) : Option State := do
  let root ← st.close
  let root ← Table.modify false some path root
  match ← itemAt? root path key with
  | none | some (.tables _) => return ⟨root, .defined, path ++ [key], true⟩
  | some _ => none

/-- Adds an entry to the table under the last header. -/
def put (st : State) (path : List String) (key : String) (d : Document) : Option State := do
  return { st with current := ← st.current.put path key d }

end State

/-- The text behind the end of a line, which may hold a comment. -/
def endLine? (s : List Char) : Option (List Char) :=
  match skipBlanks s with
  | [] => some []
  | '#' :: r => do
    match ← skipComment? r with
    | [] => return []
    | r => newline? r
  | r => newline? r

/-- Reads the header of a table from behind its bracket. -/
def readHeader (st : State) (s : List Char) : Option (State × List Char) := do
  match s with
  | '[' :: s =>
    let ((path, key), r) ← readKey? s
    match r with
    | ']' :: ']' :: r => return (← st.openElement path key, ← endLine? r)
    | _ => none
  | s =>
    let ((path, key), r) ← readKey? s
    match r with
    | ']' :: r => return (← st.openTable path key, ← endLine? r)
    | _ => none

/-- Reads an entry. -/
def readEntry (st : State) (s : List Char) : Option (State × List Char) := do
  let ((path, key), r) ← readKey? s
  match r with
  | '=' :: r =>
    let (d, r) ← readValue nesting (s.length + 1) (skipBlanks r)
    return (← st.put path key d, ← endLine? r)
  | _ => none

/-- Reads the lines of a text.  Every step takes at least one character. -/
def readLines : Nat → State → List Char → Option Table
  | 0, _, _ => none
  | fuel + 1, st, s =>
    match skipLines s with
    | [] => st.close
    | '#' :: s => do readLines fuel st (← skipComment? s)
    | '[' :: s => do
      let (st, r) ← readHeader st s
      readLines fuel st r
    | s => do
      let (st, r) ← readEntry st s
      readLines fuel st r

/-- The text without the mark that may stand at its beginning. -/
def skipMark : List Char → List Char
  | '\uFEFF' :: s => s
  | s => s

/-- The document that a text writes, if it is TOML. -/
def read (text : String) : Option Document := do
  let s := skipMark text.toList
  return (← readLines (s.length + 2) .initial s).document

end Waymark.Toml
