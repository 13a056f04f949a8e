import RouteTable.Text.Basic

namespace RouteTable.Toml

inductive TableKind where
  -- Written in braces.
  | inline
  -- Opened by a header of its own, or the document itself.
  | header
  -- Only named on the way to the table of a longer header.
  | implicit
  -- Only named on the way of a dotted key.
  | dotted
deriving DecidableEq, Repr

inductive ArrayKind where
  -- Written in brackets.
  | inline
  -- Grown by headers in double brackets.
  | ofTables
deriving DecidableEq, Repr

inductive Value where
  | text (text : Text)
  | boolean (value : Bool)
  | integer (value : Int)
  -- A number with a fraction or an exponent is kept as it was written.
  | float (numeral : Text)
  -- A date, a time or both, in the one spelling that the document format prefers.
  | moment (text : Text)
  | array (kind : ArrayKind) (elements : List Value)
  | table (kind : TableKind) (entries : List (Text × Value))

abbrev Entries := List (Text × Value)

-- A dotted key: the tables on the way and the name in the last of them.
structure KeyPath where
  parents : List Text
  key : Text
deriving DecidableEq, Repr

namespace Entries

def put (entries : Entries) (key : Text) (value : Value) : Entries :=
  match entries with
  | [] => [(key, value)]
  | (name, old) :: rest =>
    if name = key then (key, value) :: rest else (name, old) :: put rest key value

-- A change of a table: nothing comes out where it is not allowed.
abbrev Change := TableKind → Entries → Option (TableKind × Entries)

-- Changes the table at the end of a way, and makes the tables that are missing on it. An array of
-- tables stands for its last table.
def changeAt (made : TableKind) (change : Change) : List Text → Change
  | [], kind, entries => change kind entries
  | key :: way, kind, entries =>
    match entries.lookup key with
    | none => do
      let (childKind, child) ← changeAt made change way made []
      return (kind, entries.put key (.table childKind child))
    | some (.table childKind child) => do
      if childKind = .inline || childKind = .header && made = .dotted then none
      let (childKind, child) ← changeAt made change way childKind child
      return (kind, entries.put key (.table childKind child))
    | some (.array .ofTables tables) =>
      match tables.getLast? with
      | some (.table childKind child) => do
        let (childKind, child) ← changeAt made change way childKind child
        let tables := tables.dropLast ++ [.table childKind child]
        return (kind, entries.put key (.array .ofTables tables))
      | _ => none
    | some _ => none

-- A new name with its value. A dotted key ends in a table that dotted keys made.
def addAt (path : KeyPath) (value : Value) : Change :=
  changeAt .dotted (fun kind entries =>
    if (kind == .dotted) == path.parents.isEmpty || (entries.lookup path.key).isSome then none
    else some (kind, entries.put path.key value)) path.parents

-- The table of a header: a new one, or one that so far was only on the way of another header.
def openTable (path : KeyPath) : Change :=
  changeAt .implicit (fun kind entries =>
    match entries.lookup path.key with
    | none => some (kind, entries.put path.key (.table .header []))
    | some (.table .implicit child) => some (kind, entries.put path.key (.table .header child))
    | some _ => none) path.parents

def openElement (path : KeyPath) : Change :=
  changeAt .implicit (fun kind entries =>
    match entries.lookup path.key with
    | none => some (kind, entries.put path.key (.array .ofTables [.table .header []]))
    | some (.array .ofTables tables) =>
      some (kind, entries.put path.key (.array .ofTables (tables ++ [.table .header []])))
    | some _ => none) path.parents

end Entries

end RouteTable.Toml
