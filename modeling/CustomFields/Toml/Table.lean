import CustomFields.Data.Entries
import CustomFields.Json.Value

/-!
# Tables of TOML documents

A document is put together from keys with values, under headers. A table may be named before it
is written: a header implies the tables on its path, and a dotted key makes the tables in front of
its last part. Each way to write a table closes it to the others: no key is set twice, a header
does not open what a header or a dotted key has made, and a dotted key does not extend what a
header has opened.
-/

namespace CustomFields.Toml

/-- How a table came to be. -/
inductive Origin where
  /-- Opened by a header of its own. -/
  | header
  /-- Named on the path of a header. -/
  | implied
  /-- Made by a dotted key. -/
  | dotted
deriving DecidableEq, Repr

/-- What a key of a table has: a value, a table, or the rows of an array of tables. -/
inductive Item where
  | value (v : Json.Value)
  | table (origin : Origin) (entries : List (String × Item))
  /-- A table for each header of an array of tables, each with the entries of the table. -/
  | rows (tables : List Item)

instance : Inhabited Item := ⟨.value .null⟩

/-- A table under construction. -/
abbrev Entries := List (String × Item)

/-- A key in dotted form: the tables in front, and the last part. -/
structure Path where
  tables : List String
  key : String
deriving DecidableEq, Repr

/-- Which tables a path may go through, and what it makes where there is none. -/
inductive Descent where
  | byHeader
  | byDottedKey
deriving DecidableEq, Repr

/-- How a table comes about that is met on the way to another one. -/
def Descent.newOrigin : Descent → Origin
  | .byHeader => .implied
  | .byDottedKey => .dotted

/-- Whether a path may go through a table. -/
def Descent.mayEnter : Descent → Origin → Bool
  | .byHeader, _ => true
  | .byDottedKey, origin => origin != .header

/-- Replaces the last element of a list. -/
def replaceLast {α : Type} (f : α → Option α) : List α → Option (List α)
  | [] => none
  | [a] => (f a).map ([·])
  | a :: as => (replaceLast f as).map (a :: ·)

/-- Changes the table under a path; `change` is told how that table came to be. The path goes into
the last table of an array of tables. -/
def updateUnder (descent : Descent) (change : Origin → Entries → Option Entries) :
    List String → Origin → Entries → Option Entries
  | [], origin, entries => change origin entries
  | part :: path, _, entries => do
    let item ← match CustomFields.Entries.get? part entries with
      | none =>
        (updateUnder descent change path descent.newOrigin []).map (.table descent.newOrigin)
      | some (.table origin inner) =>
        if descent.mayEnter origin then
          (updateUnder descent change path origin inner).map (.table origin)
        else none
      | some (.rows tables) => (replaceLast (fun
          | .table origin inner =>
            (updateUnder descent change path origin inner).map (.table origin)
          | _ => none) tables).map .rows
      | some (.value _) => none
    return CustomFields.Entries.assign part item entries

/-- Sets a key of a table that is being written. -/
def setKey (entries : Entries) (binding : Path × Json.Value) : Option Entries :=
  let (path, v) := binding
  updateUnder .byDottedKey (fun origin inner =>
      if (origin == .dotted) == path.tables.isEmpty then none
      else if CustomFields.Entries.contains path.key inner then none
      else some (CustomFields.Entries.assign path.key (.value v) inner))
    path.tables .header entries

/-- A header with the keys under it. -/
structure Section where
  path : Path
  /-- Whether the header opens a table of an array of tables. -/
  isRow : Bool
  bindings : List (Path × Json.Value)

/-- Puts a section into a document. -/
def addSection (document : Entries) (s : Section) : Option Entries :=
  updateUnder .byHeader (fun _ parent => do
      let item ← match s.isRow, CustomFields.Entries.get? s.path.key parent with
        | false, none => (s.bindings.foldlM setKey []).map (.table .header)
        | false, some (.table .implied entries) =>
          (s.bindings.foldlM setKey entries).map (.table .header)
        | true, none => (s.bindings.foldlM setKey []).map fun row => .rows [.table .header row]
        | true, some (.rows tables) =>
          (s.bindings.foldlM setKey []).map fun row => .rows (tables ++ [.table .header row])
        | _, _ => none
      return CustomFields.Entries.assign s.path.key item parent)
    s.path.tables .header document

/-- The content of a document: keys in front of all headers, and sections. -/
def build (bindings : List (Path × Json.Value)) (sections : List Section) : Option Entries := do
  sections.foldlM addSection (← bindings.foldlM setKey [])

/-- An item as a JSON value. -/
def Item.toJson : Item → Json.Value
  | .value v => v
  | .table _ entries => .object (ofEntries entries [])
  | .rows tables => .array (ofRows tables)
where
  ofEntries : List (String × Item) → Json.Object → Json.Object
    | [], members => members
    | (key, item) :: rest, members =>
      ofEntries rest (CustomFields.Entries.put key item.toJson members)
  ofRows : List Item → List Json.Value
    | [] => []
    | item :: rest => item.toJson :: ofRows rest

end CustomFields.Toml
